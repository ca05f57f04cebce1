import PackageClosure.Proofs.Disk.Links
import PackageClosure.Proofs.Path.Components
import PackageClosure.Proofs.Text.Raw

set_option autoImplicit false

namespace PackageClosure

namespace Path

def frontOf (text : List Char) : List Step :=
  (if text.head? = some '/' then [.root] else []) ++
    (Text.pieces '/' text).filterMap lookupStep?

def front (path : Path) : List Step := frontOf path.text.toList

theorem lookupSteps_eq (path : Path) :
    path.lookupSteps = path.front ++
      if path.text.toList.getLast? = some '/' then [.current] else [] := rfl

theorem lookupStep?_name (name : Name) : lookupStep? name.text.toList = some (.name name) := by
  rw [lookupStep?, if_neg name.isName.2.1, Step.ofPiece?_name]

theorem frontOf_name (name : Name) : frontOf name.text.toList = [.name name] := by
  have relative : name.text.toList.head? ≠ some '/' := fun slash =>
    name.isName.2.2.2 (List.mem_of_head? slash)
  simp [frontOf, relative, Text.pieces_of_not_mem _ _ name.isName.2.2.2, lookupStep?_name]

theorem frontOf_slash (text : List Char) (filled : text ≠ []) :
    frontOf (text ++ ['/']) = frontOf text := by
  have nothing : (Text.pieces '/' []).filterMap lookupStep? = [] := by decide
  have head : (text ++ ['/']).head? = text.head? := List.head?_append_of_ne_nil text filled
  rw [frontOf, frontOf, head, Text.pieces_append, List.filterMap_append, nothing, List.append_nil]

theorem frontOf_slash_name (text : List Char) (name : Name) :
    frontOf (text ++ '/' :: name.text.toList) = frontOf (text ++ ['/']) ++ [.name name] := by
  have nothing : (Text.pieces '/' []).filterMap lookupStep? = [] := by decide
  have head : (text ++ '/' :: name.text.toList).head? = (text ++ ['/']).head? := by
    cases text <;> rfl
  rw [frontOf, frontOf, head, Text.pieces_append, Text.pieces_append, List.filterMap_append,
    List.filterMap_append, nothing, Text.pieces_of_not_mem _ _ name.isName.2.2.2]
  simp [lookupStep?_name]

theorem exists_separator (path : Path) (name : Name) :
    ∃ separator, (separator = "" ∨ separator = "/") ∧
      (path.child name).text = path.text ++ separator ++ name.text := by
  unfold child join
  rw [isAbsolute_name, if_neg Bool.false_ne_true]
  split
  · exact ⟨"", Or.inl rfl, by simp⟩
  · exact ⟨"/", Or.inr rfl, rfl⟩

theorem front_child (path : Path) (name : Name) :
    (path.child name).front = path.front ++ [.name name] := by
  unfold child join front
  rw [isAbsolute_name, if_neg Bool.false_ne_true]
  dsimp only
  split
  · rename_i start
    rw [String.toList_append]
    rcases start with empty | slash
    · rw [empty]
      exact frontOf_name name
    · obtain ⟨before, last⟩ := List.getLast?_eq_some_iff.mp slash
      rw [last, List.append_assoc]
      exact frontOf_slash_name before name
  · rename_i start
    rw [String.toList_append, String.toList_append, List.append_assoc]
    rw [not_or] at start
    exact (frontOf_slash_name path.text.toList name).trans
      (congrArg (· ++ _) (frontOf_slash _ start.1))

theorem lookupSteps_child (path : Path) (name : Name) :
    (path.child name).lookupSteps = path.front ++ [.name name] := by
  have last : (path.child name).text.toList.getLast? ≠ some '/' := by
    obtain ⟨separator, _, spelled⟩ := path.exists_separator name
    intro slash
    rw [spelled, String.toList_append, List.getLast?_append,
      List.getLast?_eq_some_getLast name.isName.1, Option.some_or, Option.some.injEq] at slash
    exact name.isName.2.2.2 (slash ▸ List.getLast_mem _)
  rw [lookupSteps_eq, if_neg last, List.append_nil, front_child]

theorem front_foldl_child (path : Path) (names : List Name) :
    (names.foldl child path).front = path.front ++ names.map .name := by
  induction names generalizing path with
  | nil => simp
  | cons name rest ih => simp [ih, front_child]

-- Where no name follows, a slash at the end may ask for a directory.
theorem lookupSteps_foldl_child (path : Path) (names : List Name) :
    (names.foldl child path).lookupSteps = path.front ++ names.map .name ∨
      (names.foldl child path).lookupSteps = path.front ++ names.map .name ++ [.current] := by
  rw [lookupSteps_eq, front_foldl_child]
  split
  · exact Or.inr rfl
  · exact Or.inl (List.append_nil _)

end Path

namespace Disk

theorem walk_of_find (disk : Disk) (current : Held) (path : Path) (found : Found)
    (find : disk.find current true path = .ok found) :
    disk.walk linkLimit true (disk.whereIs current) path.lookupSteps = .ok found := by
  cases refused : refusal? path with
  | some error =>
      rw [disk.find_of_refusal? current true path error refused] at find
      cases find
  | none =>
      rw [disk.find_of_refusal?_none current true path refused] at find
      cases walked : disk.walk linkLimit true (disk.whereIs current) path.lookupSteps with
      | error error =>
          rw [walked] at find
          cases find
      | ok other =>
          rw [walked] at find
          cases find
          rfl

theorem lookup_foldl_child (disk : Disk) (current : Held) (directory : Path) (names : List Name)
    (found : Found)
    (find : disk.find current true (names.foldl Path.child directory) = .ok found) :
    disk.walk linkLimit true (disk.whereIs current) (directory.front ++ names.map .name) =
      .ok found := by
  have walked := disk.walk_of_find current _ found find
  rcases directory.lookupSteps_foldl_child names with steps | steps
  · rwa [steps] at walked
  · rw [steps] at walked
    exact disk.walk_of_leads found _ _ _ walked

theorem list_of_find (disk : Disk) (current : Held) (path : Path) (place : Place) (mode : Nat)
    (find : disk.find current true path = .ok ⟨place, some (.directory mode)⟩) :
    disk.list current path = .ok ((disk.namesIn place).map fun name =>
      ⟨name.shown, disk.kindOf current (path.child name)⟩) := by
  rw [list, find]
  rfl

def Fits (path : Path) (length : Nat) : Prop :=
  '\x00' ∉ path.text.toList ∧ path.text ≠ "" ∧ Text.rawLength path.text.toList ≤ length

instance (path : Path) (length : Nat) : Decidable (Fits path length) := by
  unfold Fits
  infer_instance

theorem refusal?_of_fits (path : Path) (length : Nat) (fits : Fits path length)
    (short : length < pathLimit) : refusal? path = none := by
  obtain ⟨clean, filled, bounded⟩ := fits
  have some : path.text.toList.isEmpty = false := by simpa using filled
  have room : ¬ pathLimit ≤ Text.rawLength path.text.toList := by omega
  simp [refusal?, clean, some, room]

theorem fits_child (path : Path) (name : Name) (length : Nat) (fits : Fits path length)
    (clean : '\x00' ∉ name.text.toList) :
    Fits (path.child name) (length + 1 + Text.rawLength name.text.toList) := by
  obtain ⟨cleanToo, _, bounded⟩ := fits
  obtain ⟨separator, either, spelled⟩ := path.exists_separator name
  have one : Text.rawLength separator.toList ≤ 1 := by
    rcases either with rfl | rfl <;> decide
  have plain : '\x00' ∉ separator.toList := by
    rcases either with rfl | rfl <;> decide
  refine ⟨?_, path.text_child_ne_empty name, ?_⟩
  · simp [spelled, clean, cleanToo, plain]
  · rw [spelled, String.toList_append, String.toList_append, Text.rawLength_append,
      Text.rawLength_append]
    omega

def ShownApart (disk : Disk) : Prop :=
  ∀ directory, ((disk.namesIn directory).map Name.shown).Nodup

theorem eq_of_nameIn? (directory place : Place) (name : Name)
    (inside : nameIn? directory place = some name) : place = directory ++ [name] := by
  unfold nameIn? at inside
  split at inside
  · split at inside
    · rename_i same
      rwa [← Option.some.inj inside]
    · cases inside
  · cases inside

theorem nodup_namesIn (disk : Disk) (directory : Place) : (disk.namesIn directory).Nodup := by
  refine disk.nodes.sorted.filterMap _ fun one other before left inLeft right inRight => ?_
  rintro rfl
  have same := (eq_of_nameIn? directory _ _ inLeft).trans (eq_of_nameIn? directory _ _ inRight).symm
  rw [same, KeyOrder.irrefl] at before
  cases before

theorem shownApart_of_text (disk : Disk)
    (text : ∀ entry ∈ disk.nodes.entries, ∀ name ∈ entry.1, name.IsText) : disk.ShownApart := by
  intro directory
  have same : (disk.namesIn directory).map Name.shown = (disk.namesIn directory).map id := by
    refine List.map_congr_left fun name member => ?_
    obtain ⟨entry, there, inside⟩ := List.mem_filterMap.mp member
    exact name.shown_of_isText
      (text entry there name (by simp [eq_of_nameIn? directory _ _ inside]))
  rw [same, List.map_id]
  exact disk.nodup_namesIn directory

end Disk

end PackageClosure
