import Mathlib.Data.List.Infix
import PackageClosure.Path.Spelling

set_option autoImplicit false

namespace PackageClosure

namespace Location

theorem dot_not_mem_head_pieces (step : Step) (inside : IsInner step) :
    step.spelling ≠ ['.'] := by
  cases step with
  | root => exact absurd inside (by simp [IsInner])
  | current => exact absurd inside (by simp [IsInner])
  | parent => simp [Step.spelling]
  | name n => exact n.isName.2.1

theorem head?_pieces_ne_dot (steps : List Step) (inside : ∀ step ∈ steps, IsInner step) :
    (Text.pieces '/' (['/'].intercalate (steps.map Step.spelling))).head? ≠ some ['.'] := by
  cases steps with
  | nil => simp [Text.pieces]
  | cons step rest =>
      have single := Text.pieces_of_not_mem '/' _ (slash_not_mem_spelling step)
      rw [Text.pieces_intercalate _ _ (by simp), List.map_cons, List.flatMap_cons, single]
      simpa using dot_not_mem_head_pieces step (inside step (by simp))

theorem steps_ofSteps (steps : List Step) (inside : ∀ step ∈ steps, IsInner step) :
    (Path.ofSteps steps).steps = steps := by
  rw [ofSteps_of_inner steps inside, Path.steps, String.toList_ofList]
  have relative := head_intercalate_ne_slash steps inside
  have moving := head?_pieces_ne_dot steps inside
  have whole := inner_intercalate steps inside
  generalize ['/'].intercalate (steps.map Step.spelling) = text at *
  rw [Path.stepsOf]
  · rw [if_neg moving, whole]
  · rintro rest rfl
    exact relative rfl

theorem steps_path (location : Location) (apart : location ≠ here) :
    location.path.steps = location.steps := by
  rw [path, if_neg apart]
  rcases location with ⟨start, names⟩
  cases start with
  | root =>
      simp only [steps, Path.ofSteps, Path.steps, String.toList_ofList, Path.stepsOf]
      rw [inner_intercalate _ (isInner_names names)]
  | above levels => exact steps_ofSteps _ (isInner_relative levels names)

theorem steps_path_here : here.path.steps = [.current] := by decide

theorem steps_eq_nil_iff (location : Location) : location.steps = [] ↔ location = here := by
  rcases location with ⟨start, names⟩
  cases start <;> simp [steps, here]

theorem steps_injective {left right : Location} (same : left.steps = right.steps) :
    left = right := by
  rw [← left.followAll_steps, same, right.followAll_steps]

theorem current_not_mem_steps (location : Location) : Step.current ∉ location.steps := by
  rcases location with ⟨start, names⟩
  cases start <;> simp [steps]

theorem name_mem_steps_iff (location : Location) (name : Name) :
    Step.name name ∈ location.steps ↔ name ∈ location.names := by
  rcases location with ⟨start, names⟩
  cases start <;> simp [steps]

theorem parent?_child (directory : Location) (name : Name) :
    (directory.child name).parent? = if directory = here then none else some directory := by
  rcases directory with ⟨start, names⟩
  cases names with
  | nil =>
      cases start with
      | root => rfl
      | above levels => cases levels <;> simp [child, parent?, here]
  | cons first rest =>
      have filled : (⟨start, first :: rest⟩ : Location) ≠ here := by simp [here]
      have kept : (first :: rest ++ [name]).dropLast = first :: rest := List.dropLast_concat
      rw [if_neg filled]
      cases start <;> cases rest <;> simp_all [child, parent?]

-- All locations but one are a single step away from another one, which is the directory around
-- them unless it is where relative paths start.
theorem here_or_step (location : Location) :
    location = here ∨ ∃ lower last, location.steps = lower.steps ++ [last] ∧
      location.parent? = if lower = here then none else some lower := by
  rcases location with ⟨start, names⟩
  rcases names.eq_nil_or_concat with rfl | ⟨before, name, rfl⟩
  · cases start with
    | root => exact .inr ⟨here, .root, rfl, rfl⟩
    | above levels =>
        cases levels with
        | zero => exact .inl rfl
        | succ levels =>
            refine .inr ⟨⟨.above levels, []⟩, .parent, by simp [steps, List.replicate_succ'], ?_⟩
            simp [parent?, here]
  · have below : ⟨start, before.concat name⟩ = (⟨start, before⟩ : Location).child name := by
      simp [child]
    rw [below]
    exact .inr ⟨_, _, steps_child _ name, parent?_child _ name⟩

theorem begins_concat_iff (steps above : List Step) (last : Step) :
    steps <+: above ++ [last] ∧ steps ≠ above ++ [last] ↔ steps <+: above := by
  rw [List.prefix_concat_iff]
  constructor
  · rintro ⟨whole | before, differs⟩
    · exact absurd whole differs
    · exact before
  · intro before
    refine ⟨.inr before, ?_⟩
    rintro rfl
    have shorter := before.length_le
    rw [List.length_append, List.length_singleton] at shorter
    omega

theorem mem_ancestors_iff (location other : Location) :
    other ∈ location.ancestors ↔
      other ≠ here ∧ other.steps <+: location.steps ∧ other.steps ≠ location.steps := by
  induction location using ancestors.induct with
  | case1 location alone =>
      have none : location.ancestors = [] := by
        rw [ancestors]
        split <;> simp_all
      rw [none, List.mem_nil_iff, false_iff]
      rintro ⟨apart, before⟩
      rcases location.here_or_step with rfl | ⟨lower, last, shape, isParent⟩
      · exact apart ((steps_eq_nil_iff other).mp (List.prefix_nil.mp before.1))
      · rw [alone] at isParent
        split at isParent
        · rename_i start
          rw [shape, begins_concat_iff, (steps_eq_nil_iff lower).mpr start] at before
          exact apart ((steps_eq_nil_iff other).mp (List.prefix_nil.mp before))
        · cases isParent
  | case2 location above found ih =>
      rcases location.here_or_step with rfl | ⟨lower, last, shape, isParent⟩
      · cases found
      · rw [found] at isParent
        split at isParent
        · cases isParent
        · rename_i apart
          obtain rfl := Option.some.inj isParent
          rw [ancestors_of_parent? _ _ found, List.mem_cons, ih, shape, begins_concat_iff]
          constructor
          · rintro (rfl | ⟨other, before, _⟩)
            · exact ⟨apart, List.prefix_refl _⟩
            · exact ⟨other, before⟩
          · rintro ⟨differs, before⟩
            by_cases same : other = above
            · exact .inl same
            · exact .inr ⟨differs, before, fun steps => same (steps_injective steps)⟩

end Location

end PackageClosure
