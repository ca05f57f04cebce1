import PackageClosure.Proofs.Path.Absolute
import PackageClosure.Proofs.Path.Ancestry

set_option autoImplicit false

namespace PackageClosure

namespace Location

def descend (location : Location) (names : List Name) : Location :=
  { location with names := location.names ++ names }

theorem descend_nil (location : Location) : location.descend [] = location := by
  simp [descend]

theorem descend_cons (location : Location) (name : Name) (rest : List Name) :
    location.descend (name :: rest) = (location.child name).descend rest := by
  simp [descend, child]

theorem descend_concat (location : Location) (names : List Name) (name : Name) :
    location.descend (names ++ [name]) = (location.descend names).child name := by
  simp [descend, child]

theorem ne_here_of_isAbsolute (location : Location) (absolute : location.isAbsolute = true) :
    location ≠ here := by
  rintro rfl
  cases absolute

theorem steps_of_isAbsolute (location : Location) (absolute : location.isAbsolute = true) :
    location.steps = .root :: location.names.map .name := by
  rcases location with ⟨start, names⟩
  obtain rfl : start = .root := by simpa [isAbsolute] using absolute
  rfl

theorem isAbsolute_of_head? (location : Location)
    (first : location.steps.head? = some .root) : location.isAbsolute = true := by
  rcases location with ⟨_ | levels, names⟩
  · rfl
  · cases levels with
    | zero => cases names <;> simp [steps] at first
    | succ levels => simp [steps, List.replicate_succ] at first

theorem startsWith_path_iff (directory location : Location)
    (above : directory.isAbsolute = true) (absolute : location.isAbsolute = true) :
    location.path.startsWith directory.path = true ↔ directory.names <+: location.names := by
  rw [Path.startsWith, steps_path _ (ne_here_of_isAbsolute _ above),
    steps_path _ (ne_here_of_isAbsolute _ absolute), steps_of_isAbsolute _ above,
    steps_of_isAbsolute _ absolute, List.isPrefixOf_iff_prefix, List.cons_prefix_cons]
  have apart : Function.Injective Step.name := fun _ _ same => Step.name.inj same
  rw [List.prefix_map_iff_of_injective apart]
  exact ⟨fun both => both.2, fun below => ⟨rfl, below⟩⟩

theorem isAbsolute_of_mem_ancestors (location other : Location)
    (absolute : location.isAbsolute = true) (member : other ∈ location.ancestors) :
    other.isAbsolute = true := by
  obtain ⟨apart, before, _⟩ := (mem_ancestors_iff location other).mp member
  apply isAbsolute_of_head?
  rw [steps_of_isAbsolute location absolute] at before
  cases shape : other.steps with
  | nil => exact absurd ((steps_eq_nil_iff other).mp shape) apart
  | cons first rest =>
      rw [shape, List.cons_prefix_cons] at before
      rw [before.1]
      rfl

theorem isAbsolute_followAll (location : Location) (steps : List Step)
    (relative : .root ∉ steps) :
    (location.followAll steps).isAbsolute = location.isAbsolute := by
  induction steps generalizing location with
  | nil => rfl
  | cons step rest ih =>
      rw [List.mem_cons, not_or] at relative
      rw [followAll_cons, ih _ relative.2]
      cases step with
      | root => exact absurd rfl relative.1
      | current => rfl
      | parent => exact location.isAbsolute_up
      | name n => rfl

theorem isNoise_name (name : Name) : Path.isNoise name.text.toList = false := by
  have valid := name.isName
  simp only [Path.isNoise, Bool.or_eq_false_iff, decide_eq_false_iff_not]
  exact ⟨valid.1, valid.2.1⟩

theorem dropNoise_names (names : List Name) :
    Path.dropNoise (names.map fun name => name.text.toList) =
      names.map fun name => name.text.toList := by
  rcases names.eq_nil_or_concat with rfl | ⟨before, name, rfl⟩
  · rfl
  · simp [Path.dropNoise, isNoise_name]

theorem pieces_names (names : List Name) (filled : names ≠ []) :
    Text.pieces '/' (['/'].intercalate (names.map fun name => name.text.toList)) =
      names.map fun name => name.text.toList := by
  have single (name : Name) : Text.pieces '/' name.text.toList = [name.text.toList] :=
    Text.pieces_of_not_mem '/' _ name.isName.2.2.2
  rw [Text.pieces_intercalate _ _ (by simpa using filled), List.flatMap_map]
  simp only [single]
  exact List.map_eq_flatMap.symm

theorem path_of_isAbsolute (names : List Name) :
    (⟨.root, names⟩ : Location).path =
      ⟨String.ofList ('/' :: ['/'].intercalate (names.map fun name => name.text.toList))⟩ := by
  have apart : (⟨.root, names⟩ : Location) ≠ here := by simp [here]
  rw [path, if_neg apart, steps, Path.ofSteps, List.map_map]
  rfl

theorem parentFrom_names (before : List Name) (name : Name) :
    Path.parentFrom ['/'] none ((before ++ [name]).map fun name => name.text.toList) =
      some (⟨.root, before⟩ : Location).path := by
  have last : (((before ++ [name]).map fun name => name.text.toList)).dropLast =
      before.map fun name => name.text.toList := by
    rw [List.map_append, List.map_singleton, List.dropLast_concat]
  rw [path_of_isAbsolute, Path.parentFrom, dropNoise_names]
  split
  · rename_i none
    simp at none
  · rw [last, dropNoise_names]
    cases before with
    | nil => rfl
    | cons first rest => simp

theorem parent?_path (location : Location) (absolute : location.isAbsolute = true) :
    location.path.parent? = location.parent?.map path := by
  rcases location with ⟨start, names⟩
  obtain rfl : start = .root := by simpa [isAbsolute] using absolute
  rcases names.eq_nil_or_concat with rfl | ⟨before, name, rfl⟩
  · decide
  · have around : (⟨.root, before.concat name⟩ : Location).parent? = some ⟨.root, before⟩ := by
      have below : ⟨.root, before.concat name⟩ = (⟨.root, before⟩ : Location).child name := by
        simp [child]
      rw [below, parent?_child, if_neg (by simp [here])]
    rw [around, Option.map_some, path_of_isAbsolute, Path.parent?, String.toList_ofList]
    change Path.parentFrom ['/'] none (Text.pieces '/' _) = _
    rw [pieces_names _ (by simp), List.concat_eq_append, parentFrom_names]

end Location

namespace Path

theorem root_not_mem_inner (text : List Char) : Step.root ∉ inner text := by
  intro member
  obtain ⟨piece, _, reads⟩ := List.mem_filterMap.mp member
  unfold Step.ofPiece? at reads
  split at reads
  · cases reads
  · obtain ⟨name, _, same⟩ := Option.map_eq_some_iff.mp reads
    cases same

theorem isAbsolute_location (path : Path) : path.location.isAbsolute = path.isAbsolute := by
  cases shape : path.isAbsolute with
  | true =>
      rw [location, Location.here.join_of_isAbsolute .root path shape]
      exact Location.root.isAbsolute_join path rfl
  | false =>
      have relative : ¬ path.text.toList.head? = some '/' := by simpa [isAbsolute] using shape
      rw [location, Location.join, steps, followAll_stepsOf, if_neg relative,
        Location.isAbsolute_followAll _ _ (root_not_mem_inner _)]
      rfl

theorem isAbsolute_of_head? (path : Path) (first : path.steps.head? = some .root) :
    path.isAbsolute = true := by
  unfold steps stepsOf at first
  split at first
  · rename_i rest shape
    simp [isAbsolute, shape]
  · split at first
    · cases first
    · exact absurd (List.mem_of_head? first) (root_not_mem_inner _)

theorem isAbsolute_name (name : Name) : (⟨name.text⟩ : Path).isAbsolute = false :=
  decide_eq_false fun slash => name.isName.2.2.2 (List.mem_of_head? slash)

theorem isAbsolute_child (directory : Path) (name : Name) (filled : directory.text ≠ "") :
    (directory.child name).isAbsolute = directory.isAbsolute := by
  have first (rest : List Char) :
      (directory.text.toList ++ rest).head? = directory.text.toList.head? := by
    cases shape : directory.text.toList with
    | nil => exact absurd (String.toList_inj.mp shape) filled
    | cons c more => rfl
  unfold child join
  rw [isAbsolute_name]
  simp only [Bool.false_eq_true, if_false]
  split <;> simp [isAbsolute, first, List.append_assoc]

end Path

end PackageClosure
