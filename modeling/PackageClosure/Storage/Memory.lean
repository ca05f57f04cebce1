import PackageClosure.Counting
import PackageClosure.Path.Order
import PackageClosure.Storage.Basic

set_option autoImplicit false

namespace PackageClosure

namespace Location

-- The name of a location in a directory, if it is directly in it. Where a relative path starts
-- is no directory in this sense.
def nameIn? (directory location : Location) : Option Name :=
  match location.names.getLast? with
  | none => none
  | some name =>
      if directory ≠ here ∧ location = directory.child name then some name else none

end Location

namespace Memory

inductive Node where
  | file (bytes : Bytes)
  | directory
  | broken (reason : String)
deriving DecidableEq

end Memory

structure Memory where
  nodes : SortedMap Location Memory.Node

namespace Memory

def empty : Memory := ⟨.empty⟩

def node? (memory : Memory) (location : Location) : Option Node := memory.nodes.get? location

def addMissing (memory : Memory) (location : Location) : Memory :=
  match memory.node? location with
  | some _ => memory
  | none => ⟨memory.nodes.insert location .directory⟩

def add (memory : Memory) (path : Path) (node : Node) : Memory :=
  let location := path.location
  let prepared := location.ancestors.foldl addMissing memory
  ⟨prepared.nodes.insert location node⟩

def addFile (memory : Memory) (path : Path) (bytes : Bytes) : Memory :=
  memory.add path (.file bytes)

def addDirectory (memory : Memory) (path : Path) : Memory := memory.add path .directory

def addUnreadable (memory : Memory) (path : Path) (reason : String) : Memory :=
  memory.add path (.broken reason)

theorem node?_addMissing (memory : Memory) (location other : Location) :
    (memory.addMissing location).node? other =
      (memory.node? other).or (if other = location then some .directory else none) := by
  unfold addMissing
  split
  · rename_i node found
    by_cases same : other = location
    · simp [same, found]
    · simp [same]
  · rename_i missing
    rw [node?, node?, SortedMap.get?_insert]
    by_cases same : other = location
    · subst same
      rw [node?] at missing
      simp [missing]
    · simp [same]

theorem node?_foldl_addMissing (memory : Memory) (locations : List Location) (other : Location) :
    (locations.foldl addMissing memory).node? other =
      (memory.node? other).or (if other ∈ locations then some .directory else none) := by
  induction locations generalizing memory with
  | nil => simp
  | cons location rest ih =>
      rw [List.foldl_cons, ih, node?_addMissing, Option.or_assoc]
      congr 1
      by_cases same : other = location <;> simp [same]

theorem node?_add (memory : Memory) (path : Path) (node : Node) (other : Location) :
    (memory.add path node).node? other =
      if other = path.location then some node
      else (memory.node? other).or
        (if other ∈ path.location.ancestors then some .directory else none) := by
  rw [add, node?, SortedMap.get?_insert]
  split
  · rfl
  · exact node?_foldl_addMissing memory _ other

theorem node?_add_of_some (memory : Memory) (path : Path) (node found : Node) (other : Location)
    (apart : other ≠ path.location) (there : memory.node? other = some found) :
    (memory.add path node).node? other = some found := by
  rw [node?_add, if_neg apart, there]
  rfl

theorem node?_empty (location : Location) : empty.node? location = none :=
  SortedMap.get?_empty location

def read (memory : Memory) (path : Path) : Except FileError Bytes :=
  match memory.node? path.location with
  | some (.file bytes) => .ok bytes
  | some .directory => .error (.isDirectory path)
  | some (.broken reason) => .error (.unreadable reason)
  | none => .error (.notFound path)

theorem read_addFile (memory : Memory) (path other : Path) (bytes : Bytes)
    (same : other.location = path.location) :
    (memory.addFile path bytes).read other = .ok bytes := by
  rw [read, addFile, node?_add, if_pos same]

theorem read_addUnreadable (memory : Memory) (path other : Path) (reason : String)
    (same : other.location = path.location) :
    (memory.addUnreadable path reason).read other = .error (.unreadable reason) := by
  rw [read, addUnreadable, node?_add, if_pos same]

theorem read_add_of_read (memory : Memory) (path other : Path) (node : Node) (bytes : Bytes)
    (apart : other.location ≠ path.location) (there : memory.read other = .ok bytes) :
    (memory.add path node).read other = .ok bytes := by
  cases stored : memory.node? other.location with
  | some found =>
      rw [read, stored] at there
      rw [read, memory.node?_add_of_some path node found _ apart stored]
      exact there
  | none => simp [read, stored] at there

def Node.kind : Node → EntryKind
  | .file _ => .file
  | .directory => .directory
  | .broken reason => .unreadable reason

def nodesIn (memory : Memory) (directory : Location) : List (Name × Node) :=
  (memory.nodes.entries.filterMap fun (location, node) =>
    (directory.nameIn? location).map fun name => (name, node)).mergeSort fun left right =>
      Text.rawLe left.1.text right.1.text

def entriesOf (memory : Memory) (directory : Location) : List DirectoryEntry :=
  (memory.nodesIn directory).map fun (name, node) => ⟨name.shown, node.kind⟩

def list (memory : Memory) (path : Path) : Except FileError (List DirectoryEntry) :=
  match memory.node? path.location with
  | some .directory => .ok (memory.entriesOf path.location)
  | some (.file _) => .error (.notDirectory path)
  | some (.broken reason) => .error (.unreadable reason)
  | none => .error (.notFound path)

def has (memory : Memory) (path : Path) : Bool :=
  match memory.node? path.location with
  | some (.file _) | some .directory => true
  | _ => false

theorem has_of_read (memory : Memory) (path : Path) (bytes : Bytes)
    (found : memory.read path = .ok bytes) : memory.has path = true := by
  unfold read at found
  unfold has
  split at found <;> simp_all

def isFile : Location × Node → Bool
  | (_, .file _) => true
  | _ => false

def files (memory : Memory) : List Location := (memory.nodes.entries.filter isFile).map Prod.fst

def depth (memory : Memory) : Nat :=
  (memory.nodes.entries.map fun entry => entry.1.names.length).foldl max 0

theorem location_mem_files (memory : Memory) (path : Path)
    (readable : (memory.read path).isOk = true) : path.location ∈ memory.files := by
  unfold read at readable
  split at readable
  · rename_i bytes found
    have member := (memory.nodes.get?_eq_some_iff _ _).mp found
    exact List.mem_map.mpr ⟨_, List.mem_filter.mpr ⟨member, rfl⟩, rfl⟩
  all_goals simp [Except.isOk, Except.toBool] at readable

theorem foldl_max_bounds (numbers : List Nat) (start : Nat) :
    start ≤ numbers.foldl max start ∧ ∀ n ∈ numbers, n ≤ numbers.foldl max start := by
  induction numbers generalizing start with
  | nil => simp
  | cons first rest ih =>
      have below := ih (max start first)
      rw [List.foldl_cons]
      refine ⟨by omega, ?_⟩
      intro n member
      rcases List.mem_cons.mp member with rfl | inside
      · omega
      · exact below.2 n inside

theorem names_length_le_depth (memory : Memory) (path : Path)
    (listed : (memory.list path).isOk = true) :
    path.location.names.length ≤ memory.depth := by
  unfold list at listed
  split at listed
  · rename_i found
    have member := (memory.nodes.get?_eq_some_iff _ _).mp found
    exact (foldl_max_bounds _ 0).2 _ (List.mem_map.mpr ⟨_, member, rfl⟩)
  all_goals simp [Except.isOk, Except.toBool] at listed

def storage (memory : Memory) : Storage where
  read := memory.read
  list := memory.list
  has := memory.has
  fileBound := memory.files.length
  depthBound := memory.depth
  length_le_fileBound := by
    intro paths distinct readable
    have bounded := Counting.length_le_of_nodup_of_subset _ memory.files distinct (by
      intro location member
      obtain ⟨path, found, rfl⟩ := List.mem_map.mp member
      exact memory.location_mem_files path (readable path found))
    simpa using bounded
  length_le_depthBound := memory.names_length_le_depth

end Memory

end PackageClosure
