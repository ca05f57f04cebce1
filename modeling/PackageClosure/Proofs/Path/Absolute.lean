import PackageClosure.Path.Spelling
import PackageClosure.Resolution.Target

set_option autoImplicit false

namespace PackageClosure

namespace Location

theorem isAbsolute_up (location : Location) : location.up.isAbsolute = location.isAbsolute := by
  rcases location with ⟨start, names⟩
  cases names <;> cases start <;> rfl

theorem isAbsolute_follow (location : Location) (step : Step)
    (absolute : location.isAbsolute = true) : (location.follow step).isAbsolute = true := by
  cases step with
  | root => rfl
  | current => exact absolute
  | parent => exact location.isAbsolute_up.trans absolute
  | name name => exact absolute

theorem isAbsolute_join (location : Location) (path : Path)
    (absolute : location.isAbsolute = true) : (location.join path).isAbsolute = true := by
  rw [join, followAll]
  generalize path.steps = steps
  induction steps generalizing location with
  | nil => exact absolute
  | cons step rest ih => exact ih _ (location.isAbsolute_follow step absolute)

theorem isAbsolute_path (location : Location) (absolute : location.isAbsolute = true) :
    location.path.isAbsolute = true := by
  rcases location with ⟨start, names⟩
  obtain rfl : start = .root := by simpa [isAbsolute] using absolute
  have apart : (⟨.root, names⟩ : Location) ≠ here := by simp [here]
  rw [path, if_neg apart]
  simp [steps, Path.ofSteps, Path.isAbsolute]

theorem join_of_isAbsolute (left right : Location) (path : Path)
    (absolute : path.isAbsolute = true) : left.join path = right.join path := by
  have slash : path.text.toList.head? = some '/' := by simpa [Path.isAbsolute] using absolute
  rw [join, join, Path.steps, Path.followAll_stepsOf, Path.followAll_stepsOf, if_pos slash,
    if_pos slash]

theorem join_path (package location : Location) (absolute : location.isAbsolute = true) :
    package.join location.path = location := by
  rw [package.join_of_isAbsolute here _ (location.isAbsolute_path absolute)]
  exact location.location_path

theorem locate_path (current location : Location) (absolute : location.isAbsolute = true) :
    location.path.locate current = location := by
  rw [Path.locate, if_neg location.text_path_ne_empty]
  exact current.join_path location absolute

theorem locate_path_here (location : Location) : location.path.locate .here = location := by
  rw [Path.locate, if_neg location.text_path_ne_empty]
  exact location.location_path

theorem isAbsolute_of_path (location : Location) (absolute : location.path.isAbsolute = true) :
    location.isAbsolute = true := by
  have place : here.join location.path = location := location.location_path
  rw [here.join_of_isAbsolute root _ absolute] at place
  rw [← place]
  exact root.isAbsolute_join _ rfl

theorem normalize_path (location : Location) : location.path.normalize = location.path := by
  rw [Path.normalize, location_path]

end Location

namespace Path

theorem locate_empty (path : Path) (current : Location) (empty : path.text = "") :
    path.locate current = .here := by
  cases path
  cases empty
  rfl

theorem locate_dot (current : Location) : (⟨"."⟩ : Path).locate current = current := by
  have steps : (⟨"."⟩ : Path).steps = [.current] := by decide
  rw [locate, if_neg (by decide), Location.join, steps]
  rfl

theorem isAbsolute_locate (path : Path) (current : Location)
    (absolute : current.isAbsolute = true) (filled : path.text ≠ "") :
    (path.locate current).isAbsolute = true := by
  rw [locate, if_neg filled]
  exact current.isAbsolute_join path absolute

end Path

namespace Aliases

def Filled (aliases : Aliases) : Prop :=
  ∀ name path, aliases.get? name = some path → path.text ≠ ""

theorem filled_insert (aliases : Aliases) (name : String) (path : Path) (others : aliases.Filled)
    (filled : path.text ≠ "") : Filled (aliases.insert name path) := by
  intro other found given
  rw [SortedMap.get?_insert] at given
  split at given
  · exact Option.some.inj given ▸ filled
  · exact others other found given

theorem filled_ofList (pairs : List (String × Path)) (filled : ∀ pair ∈ pairs, pair.2.text ≠ "") :
    (ofList pairs).Filled := by
  have start : Filled .empty := by
    intro name path given
    cases given
  refine List.foldlRecOn pairs _ start ?_
  intro aliases others pair member
  exact aliases.filled_insert pair.1 pair.2 others (filled pair member)

def Placed (aliases : Aliases) (current : Location) : Prop :=
  ∀ name path, aliases.get? name = some path → (path.locate current).isAbsolute = true

theorem Filled.placed {aliases : Aliases} (filled : aliases.Filled) (current : Location)
    (absolute : current.isAbsolute = true) : aliases.Placed current := by
  intro name path given
  exact path.isAbsolute_locate current absolute (filled name path given)

end Aliases

theorem Entry.isAbsolute_target (entry : Entry) (current : Location) (aliases : Aliases)
    (package : Location) (target : Target) (here : current.isAbsolute = true)
    (filled : ∀ path, aliases.get? entry.name = some path → path.text ≠ "")
    (absolute : package.isAbsolute = true)
    (found : entry.target? current aliases package = some target) :
    target.location.isAbsolute = true := by
  unfold target? at found
  split at found
  · rename_i path given
    cases found
    exact path.isAbsolute_locate current here (filled path given)
  · obtain ⟨path, -, rfl⟩ := Option.map_eq_some_iff.mp found
    exact package.isAbsolute_join path absolute

end PackageClosure
