import Mathlib.Data.List.DropRight
import PackageClosure.Proofs.Path.Below
import PackageClosure.Proofs.Path.Congruence

set_option autoImplicit false

namespace PackageClosure

def Step.lead (directory : List Name) : Step → List Name
  | .root => []
  | .current => directory
  | .parent => directory.dropLast
  | .name n => directory ++ [n]

def Path.lead (path : Path) (directory : List Name) : List Name :=
  path.steps.foldl Step.lead directory

namespace Location

def rooted (directory : List Name) : Location := ⟨.root, directory⟩

theorem rooted_injective {left right : List Name} (same : rooted left = rooted right) :
    left = right :=
  congrArg names same

theorem follow_rooted (directory : List Name) (step : Step) :
    (rooted directory).follow step = rooted (step.lead directory) := by
  cases step with
  | root => rfl
  | current => rfl
  | parent => cases directory <;> rfl
  | name n => rfl

theorem followAll_rooted (directory : List Name) (steps : List Step) :
    (rooted directory).followAll steps = rooted (steps.foldl Step.lead directory) := by
  induction steps generalizing directory with
  | nil => rfl
  | cons step rest ih => rw [followAll_cons, follow_rooted, ih, List.foldl_cons]

def reached (location : Location) (directory : List Name) : List Name :=
  match location.start with
  | .root => location.names
  | .above levels => directory.rdrop levels ++ location.names

theorem lead_names (directory names : List Name) :
    (names.map Step.name).foldl Step.lead directory = directory ++ names := by
  induction names generalizing directory with
  | nil => simp
  | cons name rest ih => simp [Step.lead, ih]

theorem lead_parents (directory : List Name) (levels : Nat) :
    (List.replicate levels Step.parent).foldl Step.lead directory = directory.rdrop levels := by
  induction levels with
  | zero => simp
  | succ levels ih =>
      rw [List.replicate_succ', List.foldl_append, ih, List.foldl_cons, List.foldl_nil, Step.lead,
        List.rdrop, List.rdrop, List.dropLast_eq_take, List.take_take, List.length_take]
      congr 1
      omega

theorem lead_steps (location : Location) (directory : List Name) :
    location.steps.foldl Step.lead directory = location.reached directory := by
  rcases location with ⟨start, names⟩
  cases start with
  | root =>
      rw [steps, List.foldl_cons, lead_names]
      rfl
  | above levels => rw [steps, List.foldl_append, lead_parents, lead_names, reached]

-- From the root all paths lead to their own names, and from far enough below it one that goes up
-- fewer levels leads further down.
theorem reached_injective {left right : Location}
    (same : ∀ directory, left.reached directory = right.reached directory) : left = right := by
  have fromRoot := same []
  have lengths (depth : Nat) :=
    congrArg List.length (same (List.replicate depth ⟨"a", by decide⟩))
  rcases left with ⟨start, names⟩
  rcases right with ⟨other, others⟩
  cases start with
  | root =>
      cases other with
      | root => exact congrArg rooted fromRoot
      | above levels =>
          have none := lengths 0
          have deep := lengths (levels + 1)
          simp [reached, List.rdrop] at none deep
          omega
  | above levels =>
      cases other with
      | root =>
          have none := lengths 0
          have deep := lengths (levels + 1)
          simp [reached, List.rdrop] at none deep
          omega
      | above more =>
          have none := lengths 0
          have deep := lengths (levels + more)
          simp [reached, List.rdrop] at none deep fromRoot
          obtain rfl : levels = more := by omega
          rw [fromRoot]

end Location

namespace Path

theorem rooted_lead (path : Path) (directory : List Name) :
    Location.rooted (path.lead directory) = (Location.rooted directory).join path :=
  (Location.followAll_rooted directory path.steps).symm

theorem lead_eq_reached (path : Path) (directory : List Name) :
    path.lead directory = path.location.reached directory := by
  apply Location.rooted_injective
  rw [rooted_lead, Location.join_eq_followAll, Location.followAll_rooted, Location.lead_steps]

theorem isAbsolute_normalize (path : Path) : path.normalize.isAbsolute = path.isAbsolute := by
  rw [← isAbsolute_location path.normalize, normalize, Location.location_path, isAbsolute_location]

theorem sameSteps_normalize_iff (left right : Path) :
    left.normalize.sameSteps right.normalize = true ↔ left.normalize = right.normalize := by
  constructor
  · intro same
    have steps : left.normalize.steps = right.normalize.steps := by simpa [sameSteps] using same
    have place : left.normalize.location = right.normalize.location :=
      congrArg Location.here.followAll steps
    rw [← left.normalize_normalize, ← right.normalize_normalize]
    exact congrArg Location.path place
  · intro same
    simp [sameSteps, same]

theorem normalize_canonical :
    (∀ path : Path, ∀ directory, path.normalize.lead directory = path.lead directory) ∧
      (∀ left right : Path, (left.normalize = right.normalize ↔
          ∀ directory, left.lead directory = right.lead directory) ∧
        (left.normalize.sameSteps right.normalize = true ↔ left.normalize = right.normalize)) ∧
      ∀ path : Path, path.normalize.normalize = path.normalize ∧
        path.normalize.isAbsolute = path.isAbsolute := by
  refine ⟨?_, fun left right => ⟨⟨?_, ?_⟩, sameSteps_normalize_iff left right⟩,
    fun path => ⟨path.normalize_normalize, path.isAbsolute_normalize⟩⟩
  · intro path directory
    rw [lead_eq_reached, lead_eq_reached, normalize, Location.location_path]
  · intro same directory
    rw [lead_eq_reached, lead_eq_reached, Location.path_injective same]
  · intro same
    refine congrArg Location.path (Location.reached_injective fun directory => ?_)
    rw [← lead_eq_reached, ← lead_eq_reached, same]

end Path

end PackageClosure
