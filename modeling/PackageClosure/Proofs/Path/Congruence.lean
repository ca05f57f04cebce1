import PackageClosure.Path.Spelling

set_option autoImplicit false

namespace PackageClosure

namespace Location

theorem up_child (location : Location) (name : Name) : (location.child name).up = location := by
  rcases location with ⟨start, names⟩
  simp [child, up]

theorem followAll_concat (directory : Location) (steps : List Step) (step : Step) :
    directory.followAll (steps ++ [step]) = (directory.followAll steps).follow step := by
  rw [followAll_append]
  rfl

theorem followAll_child (directory location : Location) (name : Name) :
    directory.followAll (location.child name).steps =
      (directory.followAll location.steps).child name := by
  rw [steps_child, followAll_concat]
  rfl

-- A name at the end is taken back; without names the root stays where it is, and any other start
-- is one level higher.
theorem followAll_up (directory location : Location) :
    directory.followAll location.up.steps = (directory.followAll location.steps).up := by
  rcases location with ⟨start, names⟩
  rcases names.eq_nil_or_concat with rfl | ⟨above, name, rfl⟩
  · cases start with
    | root => rfl
    | above levels =>
        have higher : (⟨.above levels, []⟩ : Location).up.steps =
            (⟨.above levels, []⟩ : Location).steps ++ [.parent] := by
          simp [up, steps, List.replicate_succ']
        rw [higher, followAll_concat]
        rfl
  · have below : ⟨start, above.concat name⟩ = (⟨start, above⟩ : Location).child name := by
      simp [child]
    rw [below, up_child, followAll_child, up_child]

theorem followAll_follow (directory location : Location) (step : Step) :
    directory.followAll (location.follow step).steps =
      (directory.followAll location.steps).follow step := by
  cases step with
  | root => rfl
  | current => rfl
  | parent => exact directory.followAll_up location
  | name name => exact directory.followAll_child location name

theorem followAll_followAll (directory location : Location) (further : List Step) :
    directory.followAll (location.followAll further).steps =
      (directory.followAll location.steps).followAll further := by
  induction further generalizing location with
  | nil => rfl
  | cons step rest ih =>
      rw [followAll_cons, ih, directory.followAll_follow, followAll_cons]

theorem join_eq_followAll (directory : Location) (path : Path) :
    directory.join path = directory.followAll path.location.steps :=
  (directory.followAll_followAll here path.steps).symm

theorem join_congr (directory : Location) (left right : Path)
    (same : left.normalize = right.normalize) : directory.join left = directory.join right := by
  rw [join_eq_followAll, join_eq_followAll, path_injective same]

end Location

end PackageClosure
