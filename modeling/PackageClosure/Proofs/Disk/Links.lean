import Mathlib.Algebra.Order.Ring.GeomSum
import Mathlib.Data.List.Nodup
import PackageClosure.Counting
import PackageClosure.Proofs.Disk.Ways

set_option autoImplicit false

namespace PackageClosure

namespace Counting

def words {α : Type} (alphabet : List α) : Nat → List (List α)
  | 0 => [[]]
  | limit + 1 => [] :: alphabet.flatMap fun letter => (words alphabet limit).map (letter :: ·)

theorem mem_words {α : Type} (alphabet : List α) (limit : Nat) (word : List α)
    (short : word.length ≤ limit) (spelled : ∀ letter ∈ word, letter ∈ alphabet) :
    word ∈ words alphabet limit := by
  induction limit generalizing word with
  | zero => simp [words, List.length_eq_zero_iff.mp (Nat.le_zero.mp short)]
  | succ limit ih =>
      cases word with
      | nil => simp [words]
      | cons first rest =>
          have below := ih rest (Nat.le_of_succ_le_succ short) fun letter member =>
            spelled letter (List.mem_cons_of_mem first member)
          simpa [words, below] using spelled first List.mem_cons_self

theorem length_words {α : Type} (alphabet : List α) (limit : Nat) :
    (words alphabet limit).length = ∑ k ∈ Finset.range (limit + 1), alphabet.length ^ k := by
  induction limit with
  | zero => simp [words]
  | succ limit ih => simp [words, geom_sum_succ, List.length_flatMap, ih]

end Counting

namespace Disk

-- The links that names come through, each of them followed at its place in the lookup. What the
-- steps before the names come through does not count.
def passed (disk : Disk) (links : Nat) (directory : Place) : List Step → List Name → List Place
  | [], [] => []
  | [], name :: rest =>
      let place := directory ++ [name]
      match disk.node? place with
      | some (.directory _) => passed disk links place [] rest
      | some (.link target) =>
          match links with
          | 0 => []
          | left + 1 => place :: passed disk left directory target.lookupSteps rest
      | _ => []
  | .root :: more, names => passed disk links [] more names
  | .current :: more, names => passed disk links directory more names
  | .parent :: more, names => passed disk links directory.dropLast more names
  | .name name :: more, names =>
      let place := directory ++ [name]
      match disk.node? place with
      | some (.directory _) => passed disk links place more names
      | some (.link target) =>
          match links with
          | 0 => []
          | left + 1 => passed disk left directory (target.lookupSteps ++ more) names
      | _ => []
termination_by steps names => (links, steps.length + names.length)

section

variable (disk : Disk) (links : Nat) (directory : Place) (name : Name) (rest : List Name)

theorem passed_directory (mode : Nat)
    (there : disk.node? (directory ++ [name]) = some (.directory mode)) :
    disk.passed links directory [] (name :: rest) =
      disk.passed links (directory ++ [name]) [] rest := by
  rw [passed]
  simp only [there]

theorem passed_link (target : Path)
    (there : disk.node? (directory ++ [name]) = some (.link target)) :
    disk.passed (links + 1) directory [] (name :: rest) =
      (directory ++ [name]) :: disk.passed links directory target.lookupSteps rest := by
  rw [passed]
  simp only [there]

theorem passed_closed (closed : disk.way? (directory ++ [name]) = none) :
    disk.passed links directory [] (name :: rest) = [] := by
  rw [passed]
  split
  · rename_i mode there
    simp [way?, there, Node.leadsOn] at closed
  · rename_i target there
    simp [way?, there, Node.leadsOn] at closed
  · rfl

end

def linkPlaces (disk : Disk) : List Place :=
  disk.nodes.entries.filterMap fun entry =>
    match entry.2 with
    | .link _ => some entry.1
    | _ => none

theorem mem_linkPlaces (disk : Disk) (place : Place) (target : Path)
    (there : disk.node? place = some (.link target)) : place ∈ disk.linkPlaces :=
  List.mem_filterMap.mpr ⟨_, (disk.nodes.get?_eq_some_iff _ _).mp there, rfl⟩

theorem length_passed_le (disk : Disk) (links : Nat) (directory : Place) (steps : List Step)
    (names : List Name) : (disk.passed links directory steps names).length ≤ links := by
  fun_induction passed disk links directory steps names <;> simp_all
  omega

theorem mem_linkPlaces_of_passed (disk : Disk) (links : Nat) (directory : Place)
    (steps : List Step) (names : List Name) (place : Place)
    (member : place ∈ disk.passed links directory steps names) : place ∈ disk.linkPlaces := by
  fun_induction passed disk links directory steps names with
  | case4 directory name rest _ target there left ih =>
      rcases List.mem_cons.mp member with rfl | below
      · exact disk.mem_linkPlaces _ target there
      · exact ih below
  | case1 | case3 | case5 | case10 | case12 => cases member
  | case2 _ _ _ _ _ _ _ ih | case6 _ _ _ _ ih | case7 _ _ _ _ ih | case8 _ _ _ _ ih
  | case9 _ _ _ _ _ _ _ _ ih | case11 _ _ _ _ _ _ _ _ ih => exact ih member

section

variable (disk : Disk) (links : Nat) (directory : Place) (name : Name) (rest : List Step)

theorem walk_name_cases (found : Found)
    (walked : disk.walk links true directory (.name name :: rest) = .ok found) :
    (∃ mode, disk.node? (directory ++ [name]) = some (.directory mode) ∧
        ∀ more, disk.walk links true directory (.name name :: more) =
          disk.walk links true (directory ++ [name]) more) ∨
      (∃ target left, disk.node? (directory ++ [name]) = some (.link target) ∧ links = left + 1 ∧
        ∀ more, disk.walk links true directory (.name name :: more) =
          disk.walk left true directory (target.lookupSteps ++ more)) ∨
      (disk.way? (directory ++ [name]) = none ∧ rest = [] ∧
        found.place = directory ++ [name]) := by
  rw [walk] at walked
  split at walked
  · cases walked
  · rename_i short
    unfold way?
    cases there : disk.node? (directory ++ [name]) with
    | none =>
        simp only [there] at walked
        grind
    | some node =>
        simp only [there] at walked
        cases node with
        | directory mode =>
            exact Or.inl ⟨mode, rfl, fun more =>
              disk.walk_directory links directory name more mode short there⟩
        | link target =>
            cases links with
            | zero => simp at walked
            | succ left =>
                exact Or.inr (Or.inl ⟨target, left, rfl, rfl, fun more =>
                  disk.walk_link left directory name more target short there⟩)
        | file file => grind [Node.leadsOn]
        | device device => grind [Node.leadsOn]

theorem eq_nil_of_closed (found : Found) (closed : disk.way? (directory ++ [name]) = none)
    (walked : disk.walk links true directory (.name name :: rest) = .ok found) : rest = [] := by
  rcases disk.walk_name_cases links directory name rest found walked with
    ⟨mode, there, _⟩ | ⟨target, _, there, _, _⟩ | ⟨_, ended, _⟩
  · simp [way?, there, Node.leadsOn] at closed
  · simp [way?, there, Node.leadsOn] at closed
  · exact ended

end

theorem walk_of_leads (disk : Disk) (found : Found) : ∀ (links : Nat) (start : Place)
    (steps : List Step), disk.walk links true start (steps ++ [.current]) = .ok found →
      disk.walk links true start steps = .ok found
  | links, start, [], walked => by
      rwa [List.nil_append, walk] at walked
  | links, start, .root :: rest, walked => by
      rw [List.cons_append, walk] at walked
      rw [walk]
      exact walk_of_leads disk found links [] rest walked
  | links, start, .current :: rest, walked => by
      rw [List.cons_append, walk] at walked
      rw [walk]
      exact walk_of_leads disk found links start rest walked
  | links, start, .parent :: rest, walked => by
      rw [List.cons_append, walk] at walked
      rw [walk]
      exact walk_of_leads disk found links start.dropLast rest walked
  | links, start, .name name :: rest, walked => by
      rw [List.cons_append] at walked
      rcases disk.walk_name_cases links start name _ found walked with
        ⟨mode, _, onward⟩ | ⟨target, left, _, rfl, onward⟩ | ⟨_, ended, _⟩
      · rw [onward] at walked ⊢
        exact walk_of_leads disk found links _ rest walked
      · rw [onward] at walked ⊢
        rw [← List.append_assoc] at walked
        exact walk_of_leads disk found left start _ walked
      · simp at ended
  termination_by links _ steps => (links, steps.length)

theorem prefix_headD_passed (disk : Disk) (links : Nat) (directory : Place) (names : List Name)
    (found : Found) (walked : disk.walk links true directory (names.map .name) = .ok found) :
    directory ++ names.take 1 <+: (disk.passed links directory [] names).headD found.place := by
  induction names generalizing directory with
  | nil =>
      rw [List.map_nil, walk] at walked
      cases walked
      simp [passed]
  | cons name rest ih =>
      have first : directory ++ (name :: rest).take 1 = directory ++ [name] := rfl
      rw [first]
      rcases disk.walk_name_cases links directory name _ found walked with
        ⟨mode, there, onward⟩ | ⟨target, left, there, rfl, _⟩ | ⟨closed, _, last⟩
      · rw [List.map_cons, onward] at walked
        rw [disk.passed_directory links directory name rest mode there]
        exact (List.prefix_append _ _).trans (ih _ walked)
      · rw [disk.passed_link left directory name rest target there]
        exact List.prefix_rfl
      · rw [disk.passed_closed links directory name rest closed, List.headD_nil, last]

-- Two lookups that come through the same links to the same place go on with the same name.
theorem eq_of_headD_passed_eq (disk : Disk) (links : Nat) (directory : Place)
    (one two : Name) (left right : List Name) (found other : Found)
    (walked : disk.walk links true directory ((one :: left).map .name) = .ok found)
    (walkedToo : disk.walk links true directory ((two :: right).map .name) = .ok other)
    (place : found.place = other.place)
    (same : disk.passed links directory [] (one :: left) =
      disk.passed links directory [] (two :: right)) : one = two := by
  have ways := disk.prefix_headD_passed links directory _ found walked
  have waysToo := disk.prefix_headD_passed links directory _ other walkedToo
  rw [same, place] at ways
  have both := List.prefix_of_prefix_length_le ways waysToo (by simp)
  simpa using both

theorem ne_of_walk_cons (disk : Disk) (links : Nat) (directory : Place) (name : Name)
    (rest : List Name) (found : Found)
    (walked : disk.walk links true directory ((name :: rest).map .name) = .ok found)
    (unlinked : disk.passed links directory [] (name :: rest) = []) : found.place ≠ directory := by
  intro back
  have way := (disk.prefix_headD_passed links directory _ found walked).length_le
  rw [unlinked, List.headD_nil, back] at way
  simp at way

theorem eq_of_passed_eq (disk : Disk) (found other : Found) (place : found.place = other.place) :
    ∀ (links : Nat) (directory : Place) (steps : List Step) (left right : List Name),
      disk.walk links true directory (steps ++ left.map .name) = .ok found →
      disk.walk links true directory (steps ++ right.map .name) = .ok other →
      disk.passed links directory steps left = disk.passed links directory steps right →
      left = right
  | links, directory, [], [], [], _, _, _ => rfl
  | links, directory, [], [], name :: rest, walked, walkedToo, same => by
      rw [List.nil_append, List.map_nil, walk] at walked
      have back : other.place = directory := by rw [← place, ← Except.ok.inj walked]
      have unlinked := same.symm.trans (by rw [passed])
      exact absurd back (disk.ne_of_walk_cons links directory name rest other walkedToo unlinked)
  | links, directory, [], name :: rest, [], walked, walkedToo, same => by
      rw [List.nil_append, List.map_nil, walk] at walkedToo
      have back : found.place = directory := by rw [place, ← Except.ok.inj walkedToo]
      have unlinked := same.trans (by rw [passed])
      exact absurd back (disk.ne_of_walk_cons links directory name rest found walked unlinked)
  | links, directory, [], one :: left, two :: right, walked, walkedToo, same => by
      obtain rfl := disk.eq_of_headD_passed_eq links directory one two left right found other
        walked walkedToo place same
      rw [List.nil_append, List.map_cons] at walked walkedToo
      rcases disk.walk_name_cases links directory one _ found walked with
        ⟨mode, there, onward⟩ | ⟨target, fewer, there, rfl, onward⟩ | ⟨closed, ended, _⟩
      · rw [onward] at walked walkedToo
        rw [disk.passed_directory links directory one left mode there,
          disk.passed_directory links directory one right mode there] at same
        rw [eq_of_passed_eq disk found other place links _ [] left right walked walkedToo same]
      · rw [onward] at walked walkedToo
        rw [disk.passed_link fewer directory one left target there,
          disk.passed_link fewer directory one right target there] at same
        rw [eq_of_passed_eq disk found other place fewer _ _ left right walked walkedToo
          (List.cons.inj same).2]
      · have endedToo := disk.eq_nil_of_closed links directory one _ other closed walkedToo
        rw [List.map_eq_nil_iff.mp ended, List.map_eq_nil_iff.mp endedToo]
  | links, directory, .root :: more, left, right, walked, walkedToo, same => by
      rw [List.cons_append, walk] at walked walkedToo
      rw [passed, passed] at same
      exact eq_of_passed_eq disk found other place links _ more left right walked walkedToo same
  | links, directory, .current :: more, left, right, walked, walkedToo, same => by
      rw [List.cons_append, walk] at walked walkedToo
      rw [passed, passed] at same
      exact eq_of_passed_eq disk found other place links _ more left right walked walkedToo same
  | links, directory, .parent :: more, left, right, walked, walkedToo, same => by
      rw [List.cons_append, walk] at walked walkedToo
      rw [passed, passed] at same
      exact eq_of_passed_eq disk found other place links _ more left right walked walkedToo same
  | links, directory, .name name :: more, left, right, walked, walkedToo, same => by
      rw [List.cons_append] at walked walkedToo
      rcases disk.walk_name_cases links directory name _ found walked with
        ⟨mode, there, onward⟩ | ⟨target, fewer, there, rfl, onward⟩ | ⟨closed, ended, _⟩
      · rw [onward] at walked walkedToo
        rw [passed, passed] at same
        simp only [there] at same
        exact eq_of_passed_eq disk found other place links _ more left right walked walkedToo same
      · rw [onward, ← List.append_assoc] at walked walkedToo
        rw [passed, passed] at same
        simp only [there] at same
        exact eq_of_passed_eq disk found other place fewer _ _ left right walked walkedToo same
      · have endedToo := disk.eq_nil_of_closed links directory name _ other closed walkedToo
        rw [List.map_eq_nil_iff.mp (List.append_eq_nil_iff.mp ended).2,
          List.map_eq_nil_iff.mp (List.append_eq_nil_iff.mp endedToo).2]
  termination_by links _ steps left => (links, steps.length + left.length)

def wayCount (disk : Disk) : Nat :=
  ∑ k ∈ Finset.range (linkLimit + 1), disk.linkPlaces.length ^ k

theorem length_le_of_walks (disk : Disk) (start : Place) (steps : List Step) (place : Place)
    (ways : List (List Name)) (distinct : ways.Nodup)
    (lead : ∀ names ∈ ways, ∃ found, disk.walk linkLimit true start (steps ++ names.map .name) =
      .ok found ∧ found.place = place) : ways.length ≤ disk.wayCount := by
  have apart : (ways.map (disk.passed linkLimit start steps)).Nodup := by
    refine distinct.map_on fun left inLeft right inRight same => ?_
    obtain ⟨found, walked, there⟩ := lead left inLeft
    obtain ⟨other, walkedToo, thereToo⟩ := lead right inRight
    exact disk.eq_of_passed_eq found other (there.trans thereToo.symm) linkLimit start steps left
      right walked walkedToo same
  have counted := Counting.length_le_of_nodup_of_subset _
    (Counting.words disk.linkPlaces linkLimit) apart fun links member => by
      obtain ⟨names, _, rfl⟩ := List.mem_map.mp member
      exact Counting.mem_words _ _ _ (disk.length_passed_le _ _ _ _)
        (disk.mem_linkPlaces_of_passed _ _ _ _)
  rwa [List.length_map, Counting.length_words] at counted

end Disk

end PackageClosure
