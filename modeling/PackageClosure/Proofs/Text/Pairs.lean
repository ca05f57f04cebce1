import Mathlib.Data.List.DropRight
import Mathlib.Logic.Equiv.Defs
import PackageClosure.Alias

set_option autoImplicit false

namespace PackageClosure

namespace Text

def IsBlank (text : List Char) : Prop := ∀ c ∈ text, isBlank c = true

def Filled (text : List Char) : Prop := ∃ c ∈ text, isBlank c = false

structure Tight (text : List Char) : Prop where
  nonempty : text ≠ []
  first : ∀ c, text.head? = some c → isBlank c = false
  last : ∀ c, text.getLast? = some c → isBlank c = false

def Surrounds (text inner : List Char) : Prop :=
  ∃ before after, text = before ++ inner ++ after ∧ IsBlank before ∧ IsBlank after

def SplitsAt (separator : Char) (text : String) (before after : List Char) : Prop :=
  text.toList = before ++ separator :: after ∧ separator ∉ before

theorem not_filled_iff (text : List Char) : ¬ Filled text ↔ IsBlank text := by
  simp [Filled, IsBlank]

theorem trimChars_eq (text : List Char) :
    trimChars text = (text.dropWhile isBlank).rdropWhile isBlank := rfl

theorem surrounds_trimChars (text : List Char) : Surrounds text (trimChars text) := by
  have behind : (text.dropWhile isBlank).rdropWhile isBlank ++
      (text.dropWhile isBlank).rtakeWhile isBlank = text.dropWhile isBlank :=
    List.rdropWhile_append_rtakeWhile
  refine ⟨text.takeWhile isBlank, (text.dropWhile isBlank).rtakeWhile isBlank, ?_, ?_, ?_⟩
  · rw [trimChars_eq, List.append_assoc, behind, List.takeWhile_append_dropWhile]
  · exact fun c member => List.mem_takeWhile_imp member
  · exact fun c member => List.mem_rtakeWhile_imp member

theorem dropWhile_blank (before rest : List Char) (blank : IsBlank before)
    (stops : ∀ c, rest.head? = some c → isBlank c = false) :
    (before ++ rest).dropWhile isBlank = rest := by
  rw [List.dropWhile_append_of_pos blank]
  cases rest with
  | nil => rfl
  | cons c more => rw [List.dropWhile_cons_of_neg (by simp [stops c rfl])]

theorem trimChars_of_surrounds (text inner : List Char) (around : Surrounds text inner)
    (tight : Tight inner) : trimChars text = inner := by
  obtain ⟨before, after, rfl, blankBefore, blankAfter⟩ := around
  have front : (before ++ inner ++ after).dropWhile isBlank = inner ++ after := by
    rw [List.append_assoc]
    refine dropWhile_blank before (inner ++ after) blankBefore fun c first => tight.first c ?_
    rwa [List.head?_append_of_ne_nil _ tight.nonempty] at first
  have back : (after.reverse ++ inner.reverse).dropWhile isBlank = inner.reverse := by
    refine dropWhile_blank _ _ (fun c member => blankAfter c (List.mem_reverse.mp member)) ?_
    exact fun c first => tight.last c (by rwa [List.head?_reverse] at first)
  rw [trimChars, front, List.reverse_append, back, List.reverse_reverse]

theorem trimChars_of_tight (text : List Char) (tight : Tight text) : trimChars text = text :=
  trimChars_of_surrounds text text ⟨[], [], by simp, by simp [IsBlank], by simp [IsBlank]⟩ tight

theorem trimChars_eq_nil_iff (text : List Char) : trimChars text = [] ↔ IsBlank text := by
  constructor
  · intro nothing
    obtain ⟨before, after, whole, blankBefore, blankAfter⟩ := surrounds_trimChars text
    rw [whole, nothing, List.append_nil]
    intro c member
    exact (List.mem_append.mp member).elim (blankBefore c) (blankAfter c)
  · intro blank
    rw [trimChars, List.dropWhile_eq_nil_iff.mpr blank]
    rfl

theorem tight_trimChars (text : List Char) (filled : Filled text) : Tight (trimChars text) where
  nonempty := fun nothing => (not_filled_iff text).mpr ((trimChars_eq_nil_iff text).mp nothing) filled
  first := by
    intro c first
    obtain ⟨behind, whole⟩ := List.rdropWhile_prefix isBlank (l := text.dropWhile isBlank)
    have kept : (text.dropWhile isBlank).head? = some c := by
      rw [← whole, List.head?_append, ← trimChars_eq, first]
      rfl
    rw [← List.find?_not_eq_head?_dropWhile] at kept
    simpa using List.find?_some kept
  last := by
    intro c last
    rw [trimChars, List.getLast?_reverse, ← List.find?_not_eq_head?_dropWhile] at last
    simpa using List.find?_some last

theorem not_mem_trimChars (text : List Char) (c : Char) (absent : c ∉ text) :
    c ∉ trimChars text := by
  obtain ⟨before, after, whole, _⟩ := surrounds_trimChars text
  rw [whole] at absent
  exact fun member => absent (by simp [member])

variable {separator : Char} {text : String} {before after : List Char}

theorem splitFirst_eq_none_iff (separator : Char) (text : List Char) :
    splitFirst separator text = none ↔ separator ∉ text := by
  induction text with
  | nil => simp [splitFirst]
  | cons c rest ih =>
      rw [splitFirst, List.mem_cons, not_or]
      by_cases here : c = separator
      · simp [here]
      · simp [here, ih, Ne.symm here]

theorem SplitsAt.splitFirst_eq (splits : SplitsAt separator text before after) :
    splitFirst separator text.toList = some (before, after) :=
  (splitFirst_eq_some_iff _ _ _ _).mpr splits

theorem exists_splitsAt (member : separator ∈ text.toList) :
    ∃ before after, SplitsAt separator text before after := by
  cases found : splitFirst separator text.toList with
  | none => exact absurd member ((splitFirst_eq_none_iff _ _).mp found)
  | some sides => exact ⟨sides.1, sides.2, (splitFirst_eq_some_iff _ _ _ _).mp found⟩

theorem SplitsAt.parsePair_eq (splits : SplitsAt separator text before after) :
    parsePair separator text =
      if trimChars before = [] then .error .emptyLeft
      else if trimChars after = [] then .error .emptyRight
      else .ok (String.ofList (trimChars before), String.ofList (trimChars after)) := by
  rw [parsePair, splits.splitFirst_eq]

theorem parsePair_without (absent : separator ∉ text.toList) :
    parsePair separator text = .error .noSeparator := by
  rw [parsePair, (splitFirst_eq_none_iff _ _).mpr absent]

theorem splitsAt_writePair (separator : Char) (left right : String)
    (absent : separator ∉ left.toList) :
    SplitsAt separator (writePair separator left right) left.toList right.toList :=
  ⟨by simp [writePair], absent⟩

theorem parsePair_writePair (separator : Char) (left right : String)
    (absent : separator ∉ left.toList) (leftTight : Tight left.toList)
    (rightTight : Tight right.toList) :
    parsePair separator (writePair separator left right) = .ok (left, right) := by
  rw [(splitsAt_writePair separator left right absent).parsePair_eq,
    trimChars_of_tight _ leftTight, trimChars_of_tight _ rightTight, if_neg leftTight.nonempty,
    if_neg rightTight.nonempty, String.ofList_toList, String.ofList_toList]

end Text

open Text

/-- Arguments that are pairs of texts: how they are read and written, and what is reported of a text
that is none of them. -/
structure PairForm (α ε : Type) where
  separator : Char
  sides : α ≃ String × String
  read : String → Except ε α
  write : α → String
  fault : PairError → String → ε

namespace PairForm

variable {α ε : Type}

structure Inverse (form : PairForm α ε) : Prop where
  accepts_iff : ∀ text, (∃ argument, form.read text = .ok argument) ↔
    ∃ before after, SplitsAt form.separator text before after ∧ Filled before ∧ Filled after
  sides_of_read : ∀ text argument, form.read text = .ok argument →
    ∃ before after, SplitsAt form.separator text before after ∧
      Surrounds before (form.sides argument).1.toList ∧
      Surrounds after (form.sides argument).2.toList
  read_again : ∀ text argument, form.read text = .ok argument →
    form.read (form.write argument) = .ok argument
  read_written : ∀ argument, form.separator ∉ (form.sides argument).1.toList →
    Tight (form.sides argument).1.toList → Tight (form.sides argument).2.toList →
      form.read (form.write argument) = .ok argument
  refuses_iff : ∀ text error, form.read text = .error error ↔
    (form.separator ∉ text.toList ∧ error = form.fault .noSeparator text) ∨
      ∃ before after, SplitsAt form.separator text before after ∧
        (¬ Filled before ∧ error = form.fault .emptyLeft text ∨
          Filled before ∧ ¬ Filled after ∧ error = form.fault .emptyRight text)

structure Plain (form : PairForm α ε) : Prop where
  read_eq : ∀ text, form.read text =
    ((parsePair form.separator text).map form.sides.symm).mapError fun error =>
      form.fault error text
  write_eq : ∀ argument, form.write argument =
    writePair form.separator (form.sides argument).1 (form.sides argument).2

namespace Plain

variable {form : PairForm α ε} {text : String} {before after : List Char}

theorem read_of_without (plain : form.Plain) (absent : form.separator ∉ text.toList) :
    form.read text = .error (form.fault .noSeparator text) := by
  rw [plain.read_eq, parsePair_without absent]
  rfl

theorem read_of_empty_left (plain : form.Plain)
    (splits : SplitsAt form.separator text before after) (empty : ¬ Filled before) :
    form.read text = .error (form.fault .emptyLeft text) := by
  have nothing := (trimChars_eq_nil_iff before).mpr ((not_filled_iff before).mp empty)
  rw [plain.read_eq, splits.parsePair_eq, if_pos nothing]
  rfl

theorem read_of_empty_right (plain : form.Plain)
    (splits : SplitsAt form.separator text before after) (filled : Filled before)
    (empty : ¬ Filled after) : form.read text = .error (form.fault .emptyRight text) := by
  have nothing := (trimChars_eq_nil_iff after).mpr ((not_filled_iff after).mp empty)
  rw [plain.read_eq, splits.parsePair_eq, if_neg (tight_trimChars before filled).nonempty,
    if_pos nothing]
  rfl

theorem read_of_filled (plain : form.Plain)
    (splits : SplitsAt form.separator text before after) (left : Filled before)
    (right : Filled after) :
    form.read text = .ok (form.sides.symm
      (String.ofList (trimChars before), String.ofList (trimChars after))) := by
  rw [plain.read_eq, splits.parsePair_eq, if_neg (tight_trimChars before left).nonempty,
    if_neg (tight_trimChars after right).nonempty]
  rfl

theorem filled_of_read (plain : form.Plain) (argument : α) (ok : form.read text = .ok argument) :
    ∃ before after, SplitsAt form.separator text before after ∧ Filled before ∧ Filled after ∧
      form.sides argument = (String.ofList (trimChars before), String.ofList (trimChars after)) := by
  by_cases member : form.separator ∈ text.toList
  · obtain ⟨before, after, splits⟩ := exists_splitsAt member
    by_cases left : Filled before
    · by_cases right : Filled after
      · rw [plain.read_of_filled splits left right] at ok
        refine ⟨before, after, splits, left, right, ?_⟩
        rw [← Except.ok.inj ok, Equiv.apply_symm_apply]
      · rw [plain.read_of_empty_right splits left right] at ok
        cases ok
    · rw [plain.read_of_empty_left splits left] at ok
      cases ok
  · rw [plain.read_of_without member] at ok
    cases ok

theorem read_write (plain : form.Plain) (argument : α)
    (absent : form.separator ∉ (form.sides argument).1.toList)
    (left : Tight (form.sides argument).1.toList) (right : Tight (form.sides argument).2.toList) :
    form.read (form.write argument) = .ok argument := by
  rw [plain.read_eq, plain.write_eq, parsePair_writePair _ _ _ absent left right]
  exact congrArg Except.ok (form.sides.symm_apply_apply argument)

theorem inverse (plain : form.Plain) : form.Inverse where
  accepts_iff text := by
    constructor
    · rintro ⟨argument, ok⟩
      obtain ⟨before, after, splits, left, right, _⟩ := plain.filled_of_read argument ok
      exact ⟨before, after, splits, left, right⟩
    · rintro ⟨before, after, splits, left, right⟩
      exact ⟨_, plain.read_of_filled splits left right⟩
  sides_of_read text argument ok := by
    obtain ⟨before, after, splits, _, _, sides⟩ := plain.filled_of_read argument ok
    refine ⟨before, after, splits, ?_, ?_⟩
    · simpa [sides] using surrounds_trimChars before
    · simpa [sides] using surrounds_trimChars after
  read_again text argument ok := by
    obtain ⟨before, after, splits, left, right, sides⟩ := plain.filled_of_read argument ok
    refine plain.read_write argument ?_ ?_ ?_
    · simpa [sides] using not_mem_trimChars before form.separator splits.2
    · simpa [sides] using tight_trimChars before left
    · simpa [sides] using tight_trimChars after right
  read_written argument absent left right := plain.read_write argument absent left right
  refuses_iff text error := by
    constructor
    · intro failed
      by_cases member : form.separator ∈ text.toList
      · obtain ⟨before, after, splits⟩ := exists_splitsAt member
        refine .inr ⟨before, after, splits, ?_⟩
        by_cases left : Filled before
        · by_cases right : Filled after
          · rw [plain.read_of_filled splits left right] at failed
            cases failed
          · rw [plain.read_of_empty_right splits left right] at failed
            exact .inr ⟨left, right, (Except.error.inj failed).symm⟩
        · rw [plain.read_of_empty_left splits left] at failed
          exact .inl ⟨left, (Except.error.inj failed).symm⟩
      · rw [plain.read_of_without member] at failed
        exact .inl ⟨member, (Except.error.inj failed).symm⟩
    · rintro (⟨absent, rfl⟩ | ⟨before, after, splits, ⟨left, rfl⟩ | ⟨left, right, rfl⟩⟩)
      · exact plain.read_of_without absent
      · exact plain.read_of_empty_left splits left
      · exact plain.read_of_empty_right splits left right

end Plain

end PairForm

namespace AddressArgument

def Error.of : PairError → String → Error
  | .noSeparator => .missingSeparator
  | .emptyLeft => .emptySymbol
  | .emptyRight => .emptyAddress

def form : PairForm AddressArgument Error where
  separator := ':'
  sides :=
    ⟨fun argument => (argument.symbol, argument.address), fun pair => ⟨pair.1, pair.2⟩,
      fun _ => rfl, fun _ => rfl⟩
  read := parse
  write := text
  fault := Error.of

theorem plain_form : form.Plain where
  read_eq text := by
    change parse text = _
    unfold parse
    split <;> rename_i parsed <;> simp only [form, parsed] <;> rfl
  write_eq _ := rfl

end AddressArgument

namespace AliasArgument

def Error.of : PairError → String → Error
  | .noSeparator => .missingSeparator
  | .emptyLeft => .emptyName
  | .emptyRight => .emptyPath

def form : PairForm AliasArgument Error where
  separator := '='
  sides :=
    ⟨fun argument => (argument.name, argument.path.text), fun pair => ⟨pair.1, ⟨pair.2⟩⟩,
      fun _ => rfl, fun _ => rfl⟩
  read := parse
  write := text
  fault := Error.of

theorem plain_form : form.Plain where
  read_eq text := by
    change parse text = _
    unfold parse
    split <;> rename_i parsed <;> simp only [form, parsed] <;> rfl
  write_eq _ := rfl

end AliasArgument

theorem pairs_inverse : AddressArgument.form.Inverse ∧ AliasArgument.form.Inverse :=
  ⟨AddressArgument.plain_form.inverse, AliasArgument.plain_form.inverse⟩

-- The first separator counts, and not the one in the path.
example : AliasArgument.parse " Sui =/a=b" = .ok ⟨"Sui", ⟨"/a=b"⟩⟩ := by decide

end PackageClosure
