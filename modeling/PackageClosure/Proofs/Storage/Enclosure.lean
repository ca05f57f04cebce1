import Mathlib.Logic.Relation
import PackageClosure.Proofs.Path.Below
import PackageClosure.Storage.Memory

set_option autoImplicit false

namespace PackageClosure

open Relation

namespace Location

theorem nameIn?_eq_some_iff (directory location : Location) (name : Name) :
    directory.nameIn? location = some name ↔
      directory ≠ here ∧ location = directory.child name := by
  constructor
  · intro found
    unfold nameIn? at found
    split at found
    · cases found
    · split at found
      · rename_i inside
        rw [← Option.some.inj found]
        exact inside
      · cases found
  · rintro ⟨apart, rfl⟩
    simp [nameIn?, child, apart]

theorem child_injective {left right : Location} {one other : Name}
    (same : left.child one = right.child other) : left = right ∧ one = other := by
  rcases left with ⟨start, names⟩
  rcases right with ⟨otherStart, otherNames⟩
  simp only [child, Location.mk.injEq] at same
  obtain ⟨starts, lists⟩ := same
  obtain ⟨before, last⟩ := List.append_inj' lists rfl
  exact ⟨by rw [starts, before], List.head_eq_of_cons_eq last⟩

end Location

namespace Memory

variable (memory : Memory)

theorem mem_nodesIn_iff (directory : Location) (name : Name) (node : Node) :
    (name, node) ∈ memory.nodesIn directory ↔
      directory ≠ .here ∧ memory.node? (directory.child name) = some node := by
  rw [nodesIn, List.mem_mergeSort, List.mem_filterMap]
  constructor
  · rintro ⟨⟨location, node⟩, member, made⟩
    obtain ⟨found, isName, same⟩ := Option.map_eq_some_iff.mp made
    obtain ⟨apart, rfl⟩ := (directory.nameIn?_eq_some_iff location found).mp isName
    cases same
    exact ⟨apart, (memory.nodes.get?_eq_some_iff _ _).mpr member⟩
  · rintro ⟨apart, found⟩
    refine ⟨(directory.child name, node), (memory.nodes.get?_eq_some_iff _ _).mp found, ?_⟩
    have isName := (directory.nameIn?_eq_some_iff _ name).mpr ⟨apart, rfl⟩
    simp [isName]

theorem mem_entriesOf_iff (directory : Location) (entry : DirectoryEntry) :
    entry ∈ memory.entriesOf directory ↔ directory ≠ .here ∧ ∃ name node,
      memory.node? (directory.child name) = some node ∧ entry = ⟨name.shown, node.kind⟩ := by
  rw [entriesOf, List.mem_map]
  constructor
  · rintro ⟨⟨name, node⟩, member, rfl⟩
    obtain ⟨apart, found⟩ := (memory.mem_nodesIn_iff directory name node).mp member
    exact ⟨apart, name, node, found, rfl⟩
  · rintro ⟨apart, name, node, found, rfl⟩
    exact ⟨(name, node), (memory.mem_nodesIn_iff directory name node).mpr ⟨apart, found⟩, rfl⟩

def IsOpen (location : Location) : Prop :=
  memory.node? location = some .directory ∧ location ≠ .here

/-- The location is that of an entry of a directory, and the entry's name leads there. -/
def Lists (directory location : Location) : Prop :=
  memory.IsOpen directory ∧ ∃ name : Name, name.IsText ∧ location = directory.child name

def Encloses (directory location : Location) : Prop := TransGen memory.Lists directory location

def Open : Location → List Name → Prop
  | location, [] => memory.IsOpen location
  | location, name :: rest => memory.IsOpen location ∧ name.IsText ∧ Open (location.child name) rest

variable {memory}

theorem Lists.length_names {directory location : Location}
    (lists : memory.Lists directory location) :
    location.names.length = directory.names.length + 1 := by
  obtain ⟨_, name, _, rfl⟩ := lists
  simp [Location.child]

theorem Lists.unique {left right location : Location} (one : memory.Lists left location)
    (other : memory.Lists right location) : left = right := by
  obtain ⟨_, name, _, rfl⟩ := one
  obtain ⟨_, another, _, same⟩ := other
  exact (Location.child_injective same).1

theorem Encloses.length_names_lt {directory location : Location}
    (encloses : memory.Encloses directory location) :
    directory.names.length < location.names.length := by
  induction encloses with
  | single lists => rw [lists.length_names]; omega
  | tail _ lists ih => rw [lists.length_names]; omega

theorem Open.isOpen {location : Location} {names : List Name}
    (isOpen : memory.Open location names) : memory.IsOpen location := by
  cases names with
  | nil => exact isOpen
  | cons name rest => exact isOpen.1

theorem open_iff (directory location : Location) :
    (∃ names, memory.Open directory names ∧ location = directory.descend names) ↔
      ReflTransGen memory.Lists directory location ∧ memory.IsOpen location := by
  constructor
  · rintro ⟨names, isOpen, rfl⟩
    induction names generalizing directory with
    | nil =>
        rw [Location.descend_nil]
        exact ⟨.refl, isOpen⟩
    | cons name rest ih =>
        obtain ⟨isDirectory, text, further⟩ := isOpen
        obtain ⟨inside, last⟩ := ih (directory.child name) further
        rw [Location.descend_cons]
        exact ⟨.head ⟨isDirectory, name, text, rfl⟩ inside, last⟩
  · rintro ⟨inside, last⟩
    induction inside using ReflTransGen.head_induction_on with
    | refl => exact ⟨[], last, (Location.descend_nil _).symm⟩
    | head lists _ ih =>
        obtain ⟨isDirectory, name, text, rfl⟩ := lists
        obtain ⟨names, isOpen, rfl⟩ := ih
        exact ⟨name :: names, ⟨isDirectory, text, isOpen⟩, (Location.descend_cons _ name _).symm⟩

theorem not_encloses_self (location : Location) : ¬ memory.Encloses location location :=
  fun encloses => Nat.lt_irrefl _ encloses.length_names_lt

theorem comparable_of_inside {left right location : Location}
    (one : ReflTransGen memory.Lists left location)
    (other : ReflTransGen memory.Lists right location) :
    ReflTransGen memory.Lists left right ∨ ReflTransGen memory.Lists right left := by
  have unique : Relator.RightUnique (Function.swap memory.Lists) :=
    fun _ _ _ first second => first.unique second
  rw [← reflTransGen_swap] at one other
  rcases ReflTransGen.total_of_right_unique unique one other with down | up
  · exact .inr (reflTransGen_swap.mp down)
  · exact .inl (reflTransGen_swap.mp up)

end Memory

end PackageClosure
