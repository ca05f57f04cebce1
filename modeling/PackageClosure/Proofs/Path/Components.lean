import Mathlib.Data.List.Lex
import PackageClosure.Proofs.Path.Below
import PackageClosure.Proofs.Text.Raw

set_option autoImplicit false

namespace PackageClosure

namespace Step

def weight : Step → Nat × Bytes
  | .root => (0, [])
  | .current => (1, [])
  | .parent => (2, [])
  | .name n => (3, n.bytes)

def Before (left right : Step) : Prop :=
  left.weight.1 < right.weight.1 ∨
    left.weight.1 = right.weight.1 ∧ left.weight.2 < right.weight.2

theorem before_name_iff (left right : Name) :
    Before (.name left) (.name right) ↔ left.bytes < right.bytes := by
  simp [Before, weight]

theorem Before.ne {left right : Step} (before : left.Before right) : left ≠ right := by
  rintro rfl
  rcases before with less | ⟨_, less⟩
  · exact Nat.lt_irrefl _ less
  · exact List.lt_irrefl _ less

end Step

namespace Path

def Before (left right : Path) : Prop := List.Lex Step.Before left.steps right.steps

theorem Before.ne {left right : Path} (before : left.Before right) : left ≠ right := by
  rintro rfl
  exact (List.Lex.imp (fun _ _ less => less.ne) _ _ before).to_ne rfl

def below (names : List Name) : Path := (⟨.above 0, names⟩ : Location).path

theorem join_relative (base : Path) :
    ∃ before, ∀ path : Path, path.isAbsolute = false → base.join path = ⟨before ++ path.text⟩ := by
  by_cases within : base.text.toList = [] ∨ base.text.toList.getLast? = some '/'
  · refine ⟨base.text, fun path relative => ?_⟩
    simp only [Path.join, relative, Bool.false_eq_true, if_false, if_pos within]
  · refine ⟨base.text ++ "/", fun path relative => ?_⟩
    simp only [Path.join, relative, Bool.false_eq_true, if_false, if_neg within]

theorem child_append (before : String) (path : Path) (name : Name) (filled : path.text ≠ "") :
    (⟨before ++ path.text⟩ : Path).child name = ⟨before ++ (path.child name).text⟩ := by
  rcases path with ⟨text⟩
  obtain ⟨start, rfl⟩ : ∃ start, before = String.ofList start := ⟨before.toList, by simp⟩
  obtain ⟨chars, rfl⟩ : ∃ chars, text = String.ofList chars := ⟨text.toList, by simp⟩
  cases last : chars.getLast? with
  | none => exact absurd (by rw [List.getLast?_eq_none_iff.mp last]) filled
  | some c =>
      have whole : (start ++ chars).getLast? = some c := by
        rw [List.getLast?_append, last, Option.some_or]
      dsimp only
      rw [← String.ofList_append, Location.child_ofList _ name c whole,
        Location.child_ofList _ name c last, ← String.ofList_append, List.append_assoc,
        List.append_assoc, List.append_assoc]

theorem isAbsolute_below (names : List Name) : (below names).isAbsolute = false := by
  cases shape : (below names).isAbsolute with
  | false => rfl
  | true => cases Location.isAbsolute_of_path _ shape

theorem below_singleton (name : Name) : below [name] = ⟨name.text⟩ := by
  have apart : (⟨.above 0, [name]⟩ : Location) ≠ .here := by simp [Location.here]
  have inside := Location.isInner_names [name]
  rw [below, Location.path, if_neg apart]
  exact (Location.ofSteps_of_inner _ inside).trans (by simp [Step.spelling])

theorem below_concat (names : List Name) (name : Name) (filled : names ≠ []) :
    below (names ++ [name]) = (below names).child name := by
  have apart : (⟨.above 0, names⟩ : Location) ≠ .here := by simpa [Location.here] using filled
  exact (Location.path_child _ name apart).symm

theorem join_below_child (directory : Path) (names : List Name) (name : Name)
    (filled : names ≠ []) :
    (directory.join (below names)).child name = directory.join (below (names ++ [name])) := by
  obtain ⟨before, joined⟩ := directory.join_relative
  have text : (below names).text ≠ "" := Location.text_path_ne_empty _
  rw [joined _ (isAbsolute_below _), joined _ (isAbsolute_below _), below_concat names name filled,
    child_append before _ name text]

theorem foldl_child_eq_join (directory : Path) (names : List Name) (filled : names ≠ []) :
    names.foldl child directory = directory.join (below names) := by
  induction names using List.reverseRecOn with
  | nil => exact absurd rfl filled
  | append_singleton before last ih =>
      rw [List.foldl_append, List.foldl_cons, List.foldl_nil]
      by_cases empty : before = []
      · rw [empty, List.foldl_nil, List.nil_append, below_singleton, child]
      · rw [ih empty, join_below_child directory before last empty]

theorem stepsOf_eq (text : List Char) :
    stepsOf text = (if text.head? = some '/' then [.root]
      else if (Text.pieces '/' text).head? = some ['.'] then [.current] else []) ++ inner text := by
  unfold stepsOf
  split
  · rename_i rest
    simp [inner_slash]
  · rename_i other
    have relative : ¬ text.head? = some '/' := by
      intro slash
      obtain ⟨rest, shape⟩ := List.head?_eq_some_iff.mp slash
      exact other rest shape
    rw [if_neg relative]
    split <;> rfl

theorem stepsOf_append (left right : List Char) (filled : left ≠ [])
    (slash : left.getLast? = some '/' ∨ right.head? = some '/') :
    stepsOf (left ++ right) = stepsOf left ++ inner right := by
  have first : (left ++ right).head? = left.head? := List.head?_append_of_ne_nil _ filled
  have begins (before after : List Char) :
      (Text.pieces '/' (before ++ '/' :: after)).head? = (Text.pieces '/' before).head? := by
    rw [Text.pieces_append, List.head?_append_of_ne_nil _ (Text.pieces_ne_nil '/' before)]
  rcases slash with last | head
  · obtain ⟨before, shape⟩ := List.getLast?_eq_some_iff.mp last
    have piece : (Text.pieces '/' (left ++ right)).head? = (Text.pieces '/' left).head? := by
      rw [shape, List.append_assoc, List.singleton_append, begins, begins]
    rw [stepsOf_eq, stepsOf_eq, first, piece, inner_append_of_getLast _ _ last, List.append_assoc]
  · obtain ⟨after, rfl⟩ := List.head?_eq_some_iff.mp head
    rw [stepsOf_eq, stepsOf_eq, first, begins, inner_append, inner_slash, List.append_assoc]

theorem inner_name (name : Name) : inner name.text.toList = [.name name] := by
  rw [inner, Text.pieces_of_not_mem '/' _ name.isName.2.2.2]
  simp [Step.ofPiece?_name]

theorem steps_name (name : Name) : (⟨name.text⟩ : Path).steps = [.name name] := by
  have relative : ¬ name.text.toList.head? = some '/' :=
    fun slash => name.isName.2.2.2 (List.mem_of_head? slash)
  have moving : ¬ (Text.pieces '/' name.text.toList).head? = some ['.'] := by
    rw [Text.pieces_of_not_mem '/' _ name.isName.2.2.2]
    simpa using name.isName.2.1
  rw [steps, stepsOf_eq, if_neg relative, if_neg moving, List.nil_append, inner_name]

theorem steps_child (directory : Path) (name : Name) :
    (directory.child name).steps = directory.steps ++ [.name name] := by
  rw [child, join, isAbsolute_name]
  simp only [Bool.false_eq_true, if_false]
  by_cases empty : directory.text.toList = []
  · rw [if_pos (.inl empty), String.toList_eq_nil_iff.mp empty, String.empty_append, steps_name,
      steps, empty]
    rfl
  · split
    · rename_i within
      rw [steps, String.toList_append,
        stepsOf_append _ _ empty (.inl (within.resolve_left empty)), inner_name, steps]
    · rw [steps, String.toList_append, String.toList_append, List.append_assoc,
        stepsOf_append _ _ empty (.inr rfl), steps]
      exact congrArg _ ((inner_slash _).trans (inner_name name))

theorem steps_foldl_child (directory : Path) (names : List Name) :
    (names.foldl child directory).steps = directory.steps ++ names.map .name := by
  induction names generalizing directory with
  | nil => simp
  | cons name rest ih => simp [ih, steps_child]

theorem location_foldl_child (directory : Path) (names : List Name) :
    (names.foldl child directory).location = directory.location.descend names := by
  induction names generalizing directory with
  | nil => rw [List.foldl_nil, Location.descend_nil]
  | cons name rest ih => rw [List.foldl_cons, ih, location_child, Location.descend_cons]

theorem text_child_ne_empty (directory : Path) (name : Name) :
    (directory.child name).text ≠ "" := by
  intro empty
  have place := directory.location_child name
  rw [show directory.child name = ⟨""⟩ from congrArg Path.mk empty] at place
  have names := congrArg Location.names place
  simp [Location.child, show (⟨""⟩ : Path).location = .here by decide, Location.here] at names

theorem isAbsolute_foldl_child (directory : Path) (names : List Name)
    (filled : directory.text ≠ "") :
    (names.foldl child directory).isAbsolute = directory.isAbsolute := by
  induction names generalizing directory with
  | nil => rfl
  | cons name rest ih =>
      rw [List.foldl_cons, ih _ (directory.text_child_ne_empty name),
        directory.isAbsolute_child name filled]

theorem extension?_foldl_child (directory other : Path) (names : List Name) (filled : names ≠ []) :
    (names.foldl child directory).extension? = (names.foldl child other).extension? := by
  have named : (names.foldl child directory).fileName? = (names.foldl child other).fileName? := by
    have some : names.map Step.name ≠ [] := by simpa using filled
    rw [fileName?, fileName?, steps_foldl_child, steps_foldl_child,
      List.getLast?_append_of_ne_nil _ some, List.getLast?_append_of_ne_nil _ some]
  rw [extension?, extension?, named]

theorem before_of_entries (directory : Path) (left right : Name) (less : left.bytes < right.bytes)
    (first second : List Name) :
    (first.foldl child (directory.child left)).Before
      (second.foldl child (directory.child right)) := by
  have one := directory.steps_foldl_child (left :: first)
  have other := directory.steps_foldl_child (right :: second)
  rw [List.foldl_cons, List.map_cons] at one other
  rw [Before, one, other]
  exact List.Lex.append_left _ (.rel ((Step.before_name_iff left right).mpr less)) _

end Path

theorem Location.foldl_child_path (location : Location) (names : List Name)
    (apart : location ≠ here) :
    names.foldl Path.child location.path = (location.descend names).path := by
  induction names generalizing location with
  | nil => rw [descend_nil, List.foldl_nil]
  | cons name rest ih =>
      rw [List.foldl_cons, location.path_child name apart, descend_cons]
      exact ih (location.child name) (by simp [child, here])

end PackageClosure
