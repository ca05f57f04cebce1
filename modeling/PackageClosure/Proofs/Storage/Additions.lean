import PackageClosure.Proofs.Path.Ancestry
import PackageClosure.Storage.Memory

set_option autoImplicit false

namespace PackageClosure

def Path.isAbove (above path : Path) : Bool :=
  above.steps ≠ [] && path.startsWith above && above.steps ≠ path.steps

theorem Path.isAbove_iff (above path : Path) :
    above.isAbove path = true ↔
      above.steps ≠ [] ∧ above.steps <+: path.steps ∧ above.steps ≠ path.steps := by
  simp [isAbove, startsWith, and_assoc]

theorem Location.isAbove_path_iff (above location : Location) :
    above.path.isAbove location.path = true ↔ above ∈ location.ancestors := by
  rw [Path.isAbove_iff, mem_ancestors_iff]
  have filled : above ≠ here ↔ above.steps ≠ [] := (steps_eq_nil_iff above).not.symm
  by_cases start : above = here
  · have apart : ¬ [Step.current] <+: location.steps :=
      fun begins => location.current_not_mem_steps (begins.subset (by simp))
    rw [start, steps_path_here]
    by_cases same : location = here
    · simp [same, steps_path_here]
    · simp [location.steps_path same, apart]
  · rw [above.steps_path start, filled]
    by_cases same : location = here
    · rw [same, steps_path_here, ← List.nil_append [Step.current], begins_concat_iff]
      rw [(steps_eq_nil_iff here).mpr rfl, List.prefix_nil]
      tauto
    · rw [location.steps_path same]

namespace Memory

inductive Addition where
  | file (path : Path) (bytes : Bytes)
  | directory (path : Path)
  | unreadable (path : Path) (reason : String)
deriving DecidableEq

namespace Addition

def path : Addition → Path
  | .file path _ => path
  | .directory path => path
  | .unreadable path _ => path

def node : Addition → Node
  | .file _ bytes => .file bytes
  | .directory _ => .directory
  | .unreadable _ reason => .broken reason

def addTo (memory : Memory) : Addition → Memory
  | .file path bytes => memory.addFile path bytes
  | .directory path => memory.addDirectory path
  | .unreadable path reason => memory.addUnreadable path reason

theorem addTo_eq (memory : Memory) (addition : Addition) :
    addTo memory addition = memory.add addition.path addition.node := by
  cases addition <;> rfl

end Addition

def ofAdditions (additions : List Addition) : Memory := additions.foldl Addition.addTo empty

theorem ofAdditions_concat (additions : List Addition) (last : Addition) :
    ofAdditions (additions ++ [last]) = (ofAdditions additions).add last.path last.node := by
  rw [ofAdditions, List.foldl_append, ← ofAdditions, ← Addition.addTo_eq]
  rfl

def additionsTo (path : Path) (additions : List Addition) : List Addition :=
  additions.filter fun addition => addition.path.normalize = path.normalize

def isPassed (path : Path) (additions : List Addition) : Bool :=
  additions.any fun addition => path.normalize.isAbove addition.path.normalize

theorem normalize_eq_iff (left right : Path) :
    left.normalize = right.normalize ↔ left.location = right.location :=
  ⟨Location.path_injective, congrArg Location.path⟩

theorem isPassed_concat (path : Path) (additions : List Addition) (last : Addition) :
    isPassed path (additions ++ [last]) =
      (isPassed path additions || path.normalize.isAbove last.path.normalize) := by
  simp [isPassed]

-- Directories that are made on the way never take the place of anything, and an addition to a place
-- always does.
theorem node?_ofAdditions (additions : List Addition) (path : Path) :
    (ofAdditions additions).node? path.location =
      ((additionsTo path additions).getLast?.map Addition.node).or
        (if isPassed path additions then some .directory else none) := by
  induction additions using List.reverseRecOn with
  | nil => exact node?_empty path.location
  | append_singleton additions last ih =>
      rw [ofAdditions_concat, node?_add, ih]
      by_cases same : path.location = last.path.location
      · have here : last.path.normalize = path.normalize := (normalize_eq_iff _ _).mpr same.symm
        have added :
            additionsTo path (additions ++ [last]) = additionsTo path additions ++ [last] := by
          simp [additionsTo, here]
        rw [if_pos same, added, List.getLast?_concat]
        rfl
      · have apart : last.path.normalize ≠ path.normalize :=
          fun here => same ((normalize_eq_iff _ _).mp here).symm
        have kept : additionsTo path (additions ++ [last]) = additionsTo path additions := by
          simp [additionsTo, apart]
        have above : path.location ∈ last.path.location.ancestors ↔
            path.normalize.isAbove last.path.normalize = true :=
          (Location.isAbove_path_iff _ _).symm
        rw [if_neg same, kept, isPassed_concat, Option.or_assoc]
        congr 1
        cases isPassed path additions <;> simp [above]

def Rearranged (additions others : List Addition) : Prop :=
  ∀ path, additionsTo path additions = additionsTo path others

theorem mem_iff_of_rearranged {additions others : List Addition}
    (rearranged : Rearranged additions others) (addition : Addition) :
    addition ∈ additions ↔ addition ∈ others := by
  have own (all : List Addition) : addition ∈ all ↔ addition ∈ additionsTo addition.path all := by
    simp [additionsTo]
  rw [own, rearranged, ← own]

theorem additions_settle (additions : List Addition) :
    (∀ path : Path, (ofAdditions additions).node? path.location =
      match (additionsTo path additions).getLast? with
      | some addition => some addition.node
      | none => if isPassed path additions then some .directory else none) ∧
    ∀ others, Rearranged additions others → ofAdditions additions = ofAdditions others := by
  constructor
  · intro path
    rw [node?_ofAdditions]
    cases (additionsTo path additions).getLast? <;> rfl
  · intro others rearranged
    have nodes : (ofAdditions additions).nodes = (ofAdditions others).nodes := by
      refine SortedMap.ext_get? fun location => ?_
      have passed : isPassed location.path additions = isPassed location.path others := by
        rw [Bool.eq_iff_iff, isPassed, isPassed, List.any_eq_true, List.any_eq_true]
        simp only [mem_iff_of_rearranged rearranged]
      have left := node?_ofAdditions additions location.path
      have right := node?_ofAdditions others location.path
      rw [rearranged, passed, ← right, location.location_path] at left
      exact left
    exact congrArg Memory.mk nodes

theorem rearranged_swap (first second : Addition) (rest : List Addition)
    (apart : first.path.normalize ≠ second.path.normalize) :
    Rearranged (first :: second :: rest) (second :: first :: rest) := by
  intro path
  by_cases own : first.path.normalize = path.normalize
  · have other : second.path.normalize ≠ path.normalize := fun same => apart (own.trans same.symm)
    simp [additionsTo, own, other]
  · simp [additionsTo, List.filter_cons, own]

-- What cannot be read stays so when a file is added below it, also if the file was there before.
theorem additions_settle_swapped :
    let file : Addition := .file ⟨"/a/b/c"⟩ []
    let gone : Addition := .unreadable ⟨"/a/./b"⟩ "gone"
    Rearranged [file, gone] [gone, file] ∧ ofAdditions [file, gone] = ofAdditions [gone, file] ∧
      (ofAdditions [gone, file]).node? (⟨"/a/b"⟩ : Path).location = some (.broken "gone") ∧
      (ofAdditions [gone, file]).node? (⟨"/a"⟩ : Path).location = some .directory := by
  intro file gone
  have rearranged : Rearranged [file, gone] [gone, file] := rearranged_swap file gone [] (by decide)
  refine ⟨rearranged, (additions_settle [file, gone]).2 _ rearranged, ?_, ?_⟩
  · rw [(additions_settle [gone, file]).1]
    decide
  · rw [(additions_settle [gone, file]).1]
    decide

end Memory

end PackageClosure
