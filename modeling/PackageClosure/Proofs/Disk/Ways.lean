import PackageClosure.Disk.Edit

set_option autoImplicit false

namespace PackageClosure

namespace Disk

def Node.leadsOn : Node → Bool
  | .directory _ => true
  | .link _ => true
  | _ => false

def way? (disk : Disk) (place : Place) : Option Node := (disk.node? place).filter Node.leadsOn

def Leads (disk : Disk) (links : Nat) (start : Place) (steps : List Step) (goal : Place) : Prop :=
  ∃ node, disk.walk links true start (steps ++ [.current]) = .ok ⟨goal, node⟩

def entry (disk : Disk) (directory : Place) (name : Name) : Except SystemError Found :=
  if nameLimit < Text.rawLength name.text.toList then .error .nameTooLong
  else
    match disk.node? (directory ++ [name]) with
    | none =>
        if disk.hasDirectory directory then .ok ⟨directory ++ [name], none⟩ else .error .notFound
    | some node => .ok ⟨directory ++ [name], some node⟩

theorem way?_eq_some_iff (disk : Disk) (place : Place) (node : Node) :
    disk.way? place = some node ↔ disk.node? place = some node ∧ node.leadsOn = true :=
  Option.filter_eq_some_iff

theorem walk_name (disk : Disk) (links : Nat) (directory : Place) (name : Name) :
    disk.walk links false directory [.name name] = disk.entry directory name := by
  rw [walk, entry]
  split
  · rfl
  · cases there : disk.node? (directory ++ [name]) with
    | none => simp
    | some node => cases node <;> simp [walk, there]

theorem walk_through (disk : Disk) (links : Nat) (follow : Bool) (directory : Place) (name : Name)
    (rest : List Step) (more : rest.isEmpty = false) :
    disk.walk links follow directory (.name name :: rest) =
      if nameLimit < Text.rawLength name.text.toList then .error .nameTooLong
      else
        match disk.node? (directory ++ [name]), links with
        | some (.directory _), links => disk.walk links follow (directory ++ [name]) rest
        | some (.link _), 0 => .error .tooManyLinks
        | some (.link target), left + 1 =>
            disk.walk left follow directory (target.lookupSteps ++ rest)
        | some _, _ => .error .notDirectory
        | none, _ => .error .notFound := by
  rw [walk]
  simp only [more, Bool.false_and, Bool.false_eq_true, if_false]
  split
  · rfl
  · cases disk.node? (directory ++ [name]) with
    | none => rfl
    | some node =>
        cases node with
        | link target => cases links <;> rfl
        | _ => rfl

section

variable (disk : Disk) (links : Nat) (directory : Place) (name : Name) (rest : List Step)

theorem walk_directory (mode : Nat) (short : ¬ nameLimit < Text.rawLength name.text.toList)
    (there : disk.node? (directory ++ [name]) = some (.directory mode)) :
    disk.walk links true directory (.name name :: rest) =
      disk.walk links true (directory ++ [name]) rest := by
  rw [walk, if_neg short]
  simp only [there]

theorem walk_link (target : Path) (short : ¬ nameLimit < Text.rawLength name.text.toList)
    (there : disk.node? (directory ++ [name]) = some (.link target)) :
    disk.walk (links + 1) true directory (.name name :: rest) =
      disk.walk links true directory (target.lookupSteps ++ rest) := by
  rw [walk, if_neg short]
  simp only [there, Bool.not_true, Bool.and_false, Bool.false_eq_true, if_false]

end

theorem walk_concat_name (disk : Disk) (name : Name) : ∀ (links : Nat) (start : Place)
    (steps : List Step),
    disk.walk links false start (steps ++ [.name name]) =
      (disk.walk links true start (steps ++ [.current])).bind fun found =>
        disk.entry found.place name
  | links, start, [] => by
      simp only [List.nil_append, walk_name, walk]
      rfl
  | links, start, .root :: rest => by
      simpa only [List.cons_append, walk] using walk_concat_name disk name links [] rest
  | links, start, .current :: rest => by
      simpa only [List.cons_append, walk] using walk_concat_name disk name links start rest
  | links, start, .parent :: rest => by
      simpa only [List.cons_append, walk] using walk_concat_name disk name links start.dropLast rest
  | links, start, .name first :: rest => by
      rw [List.cons_append, List.cons_append, walk_through _ _ _ _ _ _ (by simp),
        walk_through _ _ _ _ _ _ (by simp)]
      split
      · rfl
      · cases disk.node? (start ++ [first]) with
        | none => rfl
        | some node =>
            cases node with
            | directory mode => exact walk_concat_name disk name links (start ++ [first]) rest
            | link target =>
                cases links with
                | zero => rfl
                | succ left =>
                    have next := walk_concat_name disk name left start (target.lookupSteps ++ rest)
                    simpa only [List.append_assoc] using next
            | file file => rfl
            | device device => rfl
  termination_by links _ steps => (links, steps.length)

theorem walk_follow (disk : Disk) (links : Nat) (start : Place) (steps : List Step) (found : Found)
    (walked : disk.walk links false start steps = .ok found)
    (unlinked : ∀ target, found.node ≠ some (.link target)) :
    disk.walk links true start steps = .ok found := by
  fun_induction walk disk links false start steps with
  | case1 directory =>
      rw [walk]
      exact walked
  | case2 links directory rest ih | case3 links directory rest ih | case4 links directory rest ih =>
      rw [walk]
      exact ih walked
  | case5 | case7 | case10 | case13 => cases walked
  | case6 links directory name rest place short nothing last =>
      rw [walk, if_neg short]
      simp only [place] at nothing
      simp only [nothing, last, if_true]
      exact walked
  | case8 links directory name rest place short mode there ih =>
      rw [walk, if_neg short]
      simp only [place] at there
      simp only [there]
      exact ih walked
  | case9 links directory name rest place short target there last =>
      exact absurd (congrArg Found.node (Except.ok.inj walked)).symm (unlinked target)
  | case11 directory name rest place short target there more left ih =>
      rw [walk, if_neg short]
      simp only [place] at there
      simp only [there, Bool.not_true, Bool.and_false, Bool.false_eq_true, if_false]
      exact ih walked
  | case12 links directory name rest place short node other unlinked there last =>
      rw [walk, if_neg short]
      simp only [place] at there
      cases node with
      | directory mode => exact (other mode rfl).elim
      | link target => exact (unlinked target rfl).elim
      | file file =>
          simp only [there, last, if_true]
          exact walked
      | device device =>
          simp only [there, last, if_true]
          exact walked

theorem leads_nil (disk : Disk) (links : Nat) (start : Place) : disk.Leads links start [] start :=
  ⟨_, by rw [List.nil_append, walk, walk]⟩

theorem leads_root (disk : Disk) (links : Nat) (start : Place) :
    disk.Leads links start [.root] [] :=
  ⟨_, by rw [List.singleton_append, walk, walk, walk]⟩

theorem leads_parent (disk : Disk) (links : Nat) (start : Place) :
    disk.Leads links start [.parent] start.dropLast :=
  ⟨_, by rw [List.singleton_append, walk, walk, walk]⟩

theorem leads_name_iff (disk : Disk) (links : Nat) (start : Place) (name : Name)
    (rest : List Step) (goal : Place) :
    disk.Leads links start (.name name :: rest) goal ↔
      ¬ nameLimit < Text.rawLength name.text.toList ∧
        ((∃ mode, disk.way? (start ++ [name]) = some (.directory mode) ∧
            disk.Leads links (start ++ [name]) rest goal) ∨
          ∃ target left, disk.way? (start ++ [name]) = some (.link target) ∧ links = left + 1 ∧
            disk.Leads left start (target.lookupSteps ++ rest) goal) := by
  unfold Leads
  rw [List.cons_append]
  simp only [walk_through _ _ _ _ _ _ (show (rest ++ [Step.current]).isEmpty = false by simp),
    way?, List.append_assoc]
  by_cases long : nameLimit < Text.rawLength name.text.toList
  · simp [long]
  · cases disk.node? (start ++ [name]) with
    | none => simp [long]
    | some node =>
        cases node with
        | link target => cases links <;> simp [long, Node.leadsOn]
        | _ => simp [long, Node.leadsOn]

theorem Leads.meet {left right both : Disk}
    (ways : ∀ place one other, left.way? place = some one → right.way? place = some other →
      one = other ∧ both.way? place = some one) :
    ∀ (links : Nat) (start : Place) (steps : List Step) (goal : Place),
      left.Leads links start steps goal → right.Leads links start steps goal →
        both.Leads links start steps goal
  | links, start, [], goal => by
      simp [Leads, walk]
  | links, start, .root :: rest, goal => by
      simpa only [Leads, List.cons_append, walk] using Leads.meet ways links [] rest goal
  | links, start, .current :: rest, goal => by
      simpa only [Leads, List.cons_append, walk] using Leads.meet ways links start rest goal
  | links, start, .parent :: rest, goal => by
      simpa only [Leads, List.cons_append, walk] using
        Leads.meet ways links start.dropLast rest goal
  | links, start, .name first :: rest, goal => by
      simp only [leads_name_iff]
      rintro ⟨short, ⟨mode, one, onward⟩ | ⟨target, fewer, one, rfl, onward⟩⟩
      · rintro ⟨_, ⟨_, other, further⟩ | ⟨_, _, other, _⟩⟩
        · exact ⟨short, .inl ⟨mode, (ways _ _ _ one other).2,
            Leads.meet ways links (start ++ [first]) rest goal onward further⟩⟩
        · cases (ways _ _ _ one other).1
      · rintro ⟨_, ⟨_, other, _⟩ | ⟨_, _, other, same, further⟩⟩
        · cases (ways _ _ _ one other).1
        · cases same
          cases (ways _ _ _ one other).1
          exact ⟨short, .inr ⟨target, fewer, (ways _ _ _ one other).2, rfl,
            Leads.meet ways fewer start (target.lookupSteps ++ rest) goal onward further⟩⟩
  termination_by links _ steps => (links, steps.length)

theorem Leads.mono {left right : Disk}
    (ways : ∀ place node, left.way? place = some node → right.way? place = some node)
    (links : Nat) (start : Place) (steps : List Step) (goal : Place)
    (leads : left.Leads links start steps goal) : right.Leads links start steps goal :=
  Leads.meet (fun place one _ found again =>
    ⟨Option.some.inj (found.symm.trans again), ways place one found⟩) links start steps goal leads leads

def refusal? (path : Path) : Option FileError :=
  let text := path.text.toList
  if '\x00' ∈ text then some .nulCharacter
  else if text.isEmpty then some (.system .notFound)
  else if pathLimit ≤ Text.rawLength text then some (.system .nameTooLong)
  else none

theorem find_of_refusal? (disk : Disk) (current : Held) (follow : Bool) (path : Path)
    (error : FileError) (refused : refusal? path = some error) :
    disk.find current follow path = .error error := by
  unfold refusal? at refused
  unfold find
  dsimp only at refused ⊢
  grind

theorem find_of_refusal?_none (disk : Disk) (current : Held) (follow : Bool) (path : Path)
    (accepted : refusal? path = none) :
    disk.find current follow path =
      (disk.walk linkLimit follow (disk.whereIs current) path.lookupSteps).mapError .system := by
  unfold refusal? at accepted
  unfold find
  dsimp only at accepted ⊢
  grind

theorem find_entry (disk : Disk) (current : Held) (path : Path) (steps : List Step) (name : Name)
    (goal : Place) (accepted : refusal? path = none)
    (spelled : path.lookupSteps = steps ++ [.name name])
    (leads : disk.Leads linkLimit (disk.whereIs current) steps goal) :
    disk.find current false path = (disk.entry goal name).mapError .system := by
  obtain ⟨node, found⟩ := leads
  rw [disk.find_of_refusal?_none current false path accepted, spelled, walk_concat_name, found]
  rfl

theorem stat_file (disk : Disk) (current : Held) (path : Path) (steps : List Step) (name : Name)
    (goal : Place) (file : File) (accepted : refusal? path = none)
    (spelled : path.lookupSteps = steps ++ [.name name])
    (short : ¬ nameLimit < Text.rawLength name.text.toList)
    (leads : disk.Leads linkLimit (disk.whereIs current) steps goal)
    (there : disk.node? (goal ++ [name]) = some (.file file)) :
    disk.stat current path = .ok (.file file) := by
  have last : disk.walk linkLimit false (disk.whereIs current) path.lookupSteps =
      .ok ⟨goal ++ [name], some (.file file)⟩ := by
    obtain ⟨node, found⟩ := leads
    rw [spelled, walk_concat_name, found]
    change disk.entry goal name = _
    rw [entry, if_neg short, there]
  rw [stat, disk.find_of_refusal?_none current true path accepted,
    disk.walk_follow _ _ _ _ last nofun]
  rfl

theorem leads_of_find (disk : Disk) (current : Held) (path : Path) (steps : List Step)
    (name : Name) (found : Found) (spelled : path.lookupSteps = steps ++ [.name name])
    (find : disk.find current false path = .ok found) :
    ∃ goal, disk.Leads linkLimit (disk.whereIs current) steps goal ∧
      disk.entry goal name = .ok found := by
  have accepted : refusal? path = none := by
    cases refused : refusal? path with
    | none => rfl
    | some error =>
        rw [disk.find_of_refusal? current false path error refused] at find
        cases find
  rw [disk.find_of_refusal?_none current false path accepted, spelled, walk_concat_name] at find
  cases walked : disk.walk linkLimit true (disk.whereIs current) (steps ++ [.current]) with
  | error error =>
      rw [walked] at find
      cases find
  | ok before =>
      rw [walked] at find
      refine ⟨before.place, ⟨before.node, walked⟩, ?_⟩
      cases last : disk.entry before.place name with
      | error error =>
          change ((disk.entry before.place name).mapError FileError.system) = .ok found at find
          rw [last] at find
          cases find
      | ok other =>
          change ((disk.entry before.place name).mapError FileError.system) = .ok found at find
          rw [last] at find
          cases find
          rfl

theorem eq_of_entry (disk : Disk) (directory : Place) (name : Name) (found : Found)
    (entry : disk.entry directory name = .ok found) :
    found = ⟨directory ++ [name], disk.node? (directory ++ [name])⟩ := by
  unfold Disk.entry at entry
  split at entry
  · cases entry
  · split at entry
    · rename_i nothing
      split at entry
      · rw [nothing]
        exact (Except.ok.inj entry).symm
      · cases entry
    · rename_i node there
      rw [there]
      exact (Except.ok.inj entry).symm

theorem way?_of_erase (disk : Disk) (gone place : Place) (node : Node)
    (way : (disk.erase gone).way? place = some node) : disk.way? place = some node := by
  obtain ⟨there, passable⟩ := ((disk.erase gone).way?_eq_some_iff place node).mp way
  rw [node?_erase] at there
  split at there
  · cases there
  · exact (disk.way?_eq_some_iff place node).mpr ⟨there, passable⟩

theorem way?_erase (disk : Disk) (gone place : Place) (plain : disk.way? gone = none) :
    (disk.erase gone).way? place = disk.way? place := by
  unfold way?
  rw [node?_erase]
  split
  · rename_i same
    rw [same]
    exact plain.symm
  · rfl

theorem hasDirectory_of_way? (left right : Disk)
    (ways : ∀ place node, left.way? place = some node → right.way? place = some node)
    (place : Place) (directory : left.hasDirectory place = true) :
    right.hasDirectory place = true := by
  obtain ⟨node, there, isDirectory⟩ := (Option.any_eq_true _ _).mp directory
  have passable : node.leadsOn = true := by
    cases node with
    | directory mode => rfl
    | _ => cases isDirectory
  have way := ways place node ((left.way?_eq_some_iff place node).mpr ⟨there, passable⟩)
  have same := ((right.way?_eq_some_iff place node).mp way).1
  rw [hasDirectory, same]
  exact isDirectory

def Reaches (disk : Disk) (current : Held) (path : Path) (place : Place) : Prop :=
  ∃ node, disk.find current false path = .ok ⟨place, node⟩

def Lacks (disk : Disk) (current : Held) (path : Path) : Prop :=
  ∀ found, disk.find current false path = .ok found → found.node = none

section

variable {current : Held} {path : Path} {steps : List Step} {name : Name}
variable (spelled : path.lookupSteps = steps ++ [.name name])

include spelled

theorem reaches_iff (disk : Disk) (place : Place) :
    disk.Reaches current path place ↔
      refusal? path = none ∧ ¬ nameLimit < Text.rawLength name.text.toList ∧
        ∃ goal, disk.Leads linkLimit (disk.whereIs current) steps goal ∧ place = goal ++ [name] ∧
          ((disk.node? place).isSome = true ∨ disk.hasDirectory goal = true) := by
  constructor
  · rintro ⟨node, find⟩
    have accepted : refusal? path = none := by
      cases refused : refusal? path with
      | none => rfl
      | some error =>
          rw [disk.find_of_refusal? current false path error refused] at find
          cases find
    obtain ⟨goal, leads, last⟩ := disk.leads_of_find current path steps name _ spelled find
    have same := congrArg Found.place (disk.eq_of_entry goal name _ last)
    unfold entry at last
    split at last
    · cases last
    · rename_i short
      refine ⟨accepted, short, goal, leads, same, ?_⟩
      split at last
      · split at last
        · rename_i directory
          exact Or.inr directory
        · cases last
      · rename_i node there
        dsimp only at same
        exact Or.inl (by simp [same, there])
  · rintro ⟨accepted, short, goal, leads, rfl, there⟩
    refine ⟨disk.node? (goal ++ [name]), ?_⟩
    rw [disk.find_entry current path steps name goal accepted spelled leads, entry, if_neg short]
    cases node : disk.node? (goal ++ [name]) with
    | none =>
        have directory : disk.hasDirectory goal = true := by simpa [node] using there
        rw [if_pos directory]
        rfl
    | some node => rfl

theorem find_of_reaches (disk : Disk) (place : Place) (reaches : disk.Reaches current path place) :
    disk.find current false path = .ok ⟨place, disk.node? place⟩ := by
  obtain ⟨node, find⟩ := reaches
  obtain ⟨goal, _, last⟩ := disk.leads_of_find current path steps name _ spelled find
  obtain ⟨rfl, rfl⟩ := Found.mk.inj (disk.eq_of_entry goal name _ last)
  exact find

theorem place_of_reaches (disk : Disk) (goal place : Place)
    (leads : disk.Leads linkLimit (disk.whereIs current) steps goal)
    (reaches : disk.Reaches current path place) : place = goal ++ [name] := by
  obtain ⟨_, _, other, ⟨node, walked⟩, same, _⟩ := (reaches_iff spelled disk place).mp reaches
  obtain ⟨_, found⟩ := leads
  rw [found] at walked
  obtain ⟨rfl, _⟩ := Found.mk.inj (Except.ok.inj walked)
  exact same

theorem Reaches.mono {left right : Disk} (moves : left.moves = right.moves)
    (ways : ∀ place node, left.way? place = some node → right.way? place = some node)
    (place : Place)
    (kept : (left.node? place).isSome = true → (right.node? place).isSome = true)
    (reaches : left.Reaches current path place) : right.Reaches current path place := by
  obtain ⟨accepted, short, goal, leads, same, there⟩ := (reaches_iff spelled left place).mp reaches
  refine (reaches_iff spelled right place).mpr ⟨accepted, short, goal, ?_, same, ?_⟩
  · have start : left.whereIs current = right.whereIs current := by rw [whereIs, whereIs, moves]
    rw [← start]
    exact Leads.mono ways _ _ _ _ leads
  · exact there.imp kept (hasDirectory_of_way? left right ways goal)

theorem lacks_iff (disk : Disk) :
    disk.Lacks current path ↔
      ∀ place, disk.Reaches current path place → disk.node? place = none := by
  constructor
  · intro lacks place reaches
    exact lacks _ (find_of_reaches spelled disk place reaches)
  · rintro nothing ⟨place, node⟩ find
    have reaches : disk.Reaches current path place := ⟨node, find⟩
    rw [find_of_reaches spelled disk place reaches] at find
    obtain ⟨_, rfl⟩ := Found.mk.inj (Except.ok.inj find)
    exact nothing place reaches

theorem reaches_of_erase (disk : Disk) (gone place : Place) (node : Node)
    (there : (disk.erase gone).node? place = some node)
    (reaches : (disk.erase gone).Reaches current path place) :
    disk.Reaches current path place ∧ disk.node? place = some node ∧ place ≠ gone := by
  rw [node?_erase] at there
  split at there
  · cases there
  · rename_i apart
    have moves : (disk.erase gone).moves = disk.moves := rfl
    have before := Reaches.mono spelled moves (disk.way?_of_erase gone) place
      (fun _ => by simp [there]) reaches
    exact ⟨before, there, apart⟩

theorem lacks_erase (disk : Disk) (gone : Place) (lacks : disk.Lacks current path) :
    (disk.erase gone).Lacks current path := by
  rw [lacks_iff spelled] at lacks ⊢
  intro place reaches
  cases there : (disk.erase gone).node? place with
  | none => rfl
  | some node =>
      obtain ⟨before, same, _⟩ := reaches_of_erase spelled disk gone place node there reaches
      rw [lacks place before] at same
      cases same

theorem lacks_erase_reached (disk : Disk) (gone : Place)
    (reached : disk.Reaches current path gone) : (disk.erase gone).Lacks current path := by
  rw [lacks_iff spelled]
  intro place reaches
  cases there : (disk.erase gone).node? place with
  | none => rfl
  | some node =>
      obtain ⟨before, _, apart⟩ := reaches_of_erase spelled disk gone place node there reaches
      have same := (find_of_reaches spelled disk place before).symm.trans
        (find_of_reaches spelled disk gone reached)
      exact absurd (congrArg Found.place (Except.ok.inj same)) apart

end

end Disk

def IsEnding (text : List Char) : Prop := '/' ∉ text ∧ ∃ c ∈ text, c ≠ '.'

-- Decided along the text: an instance that is looked for may go through all characters there are.
instance (text : List Char) : Decidable (IsEnding text) :=
  decidable_of_iff ('/' ∉ text ∧ text.any (· != '.') = true) (by simp [IsEnding])

theorem pieces_append_ending (text : List Char) :
    ∃ front last, ∀ ending, '/' ∉ ending →
      Text.pieces '/' (text ++ ending) = front ++ [last ++ ending] := by
  induction text with
  | nil => exact ⟨[], [], fun ending inside => Text.pieces_of_not_mem '/' ending inside⟩
  | cons c rest ih =>
      obtain ⟨front, last, below⟩ := ih
      by_cases slash : c = '/'
      · refine ⟨[] :: front, last, fun ending inside => ?_⟩
        rw [List.cons_append, Text.pieces, if_pos slash, below ending inside, List.cons_append]
      · cases front with
        | nil =>
            refine ⟨[], c :: last, fun ending inside => ?_⟩
            rw [List.cons_append, Text.pieces, if_neg slash, below ending inside]
            rfl
        | cons first more =>
            refine ⟨(c :: first) :: more, last, fun ending inside => ?_⟩
            rw [List.cons_append, Text.pieces, if_neg slash, below ending inside]
            rfl

theorem isName_append_ending (last ending : List Char) (clean : '/' ∉ last)
    (ends : IsEnding ending) : IsName (last ++ ending) := by
  obtain ⟨inside, c, member, other⟩ := ends
  have there : c ∈ last ++ ending := List.mem_append_right last member
  refine ⟨List.ne_nil_of_mem there, ?_, ?_, ?_⟩
  · intro same
    rw [same] at there
    simp [other] at there
  · intro same
    rw [same] at there
    simp [other] at there
  · simp [clean, inside]

theorem lookupSteps_append_ending (text : List Char) :
    ∃ steps, ∀ ending, IsEnding ending → ∃ name,
      (⟨String.ofList (text ++ ending)⟩ : Path).lookupSteps = steps ++ [Step.name name] := by
  obtain ⟨front, last, pieces⟩ := pieces_append_ending text
  refine ⟨(if text.head? = some '/' then [.root] else []) ++ front.filterMap Path.lookupStep?, ?_⟩
  intro ending ends
  have clean : '/' ∉ last := by
    have member : last ++ ending ∈ Text.pieces '/' (text ++ ending) := by
      simp [pieces ending ends.1]
    have absent := Text.pieces_no_separator '/' _ _ member
    exact fun inside => absent (List.mem_append_left ending inside)
  obtain ⟨name, step⟩ : ∃ name, Path.lookupStep? (last ++ ending) = some (.name name) := by
    have isName := isName_append_ending last ending clean ends
    refine ⟨⟨String.ofList (last ++ ending), by simpa using isName⟩, ?_⟩
    rw [Path.lookupStep?, if_neg isName.2.1, Step.ofPiece?, if_neg isName.2.2.1, Name.ofChars?,
      dif_pos isName]
    rfl
  have start : (text ++ ending).head? = some '/' ↔ text.head? = some '/' := by
    cases text with
    | nil =>
        have relative : ending.head? ≠ some '/' := fun slash =>
          ends.1 (List.mem_of_head? slash)
        simpa using relative
    | cons c rest => rfl
  have finish : (text ++ ending).getLast? ≠ some '/' := by
    intro slash
    obtain ⟨c, member, _⟩ := ends.2
    rw [List.getLast?_append, List.getLast?_eq_some_getLast (List.ne_nil_of_mem member),
      Option.some_or, Option.some.injEq] at slash
    exact ends.1 (slash ▸ List.getLast_mem _)
  refine ⟨name, ?_⟩
  simp only [Path.lookupSteps, String.toList_ofList, start, if_neg finish, pieces ending ends.1,
    List.filterMap_append, List.filterMap_cons, step, List.filterMap_nil, List.append_assoc,
    List.append_nil]

end PackageClosure
