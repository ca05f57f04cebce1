import PackageClosure.Path.Order
import PackageClosure.Storage.Basic

set_option autoImplicit false

namespace PackageClosure

abbrev Place := List Name

def Place.location (place : Place) : Location := ⟨.root, place⟩

namespace Name

def buried (name : Name) : Name :=
  (ofString? (name.text ++ "\x00")).getD name

def isBuried (name : Name) : Bool := name.text.toList.contains '\x00'

end Name

namespace Disk

structure File where
  bytes : Bytes
  mode : Nat
  changed : Int
  -- The number that all names of the file share, or zero if it has one name only.
  shared : Nat
deriving DecidableEq

inductive Device where
  | null
  | zero
  | full
deriving DecidableEq

inductive Node where
  | file (file : File)
  | directory (mode : Nat)
  | link (target : Path)
  | device (device : Device)
deriving DecidableEq

namespace Node

def isDirectory : Node → Bool
  | .directory _ => true
  | _ => false

def isDevice : Node → Bool
  | .device _ => true
  | _ => false

def mode : Node → Nat
  | .file content => content.mode
  | .directory mode => mode
  | .link _ => 0o777
  | .device _ => 0o666

def changed : Node → Int
  | .file content => content.changed
  | _ => 0

end Node

structure Move where
  source : Place
  target : Place

def Move.apply (move : Move) (place : Place) : Place :=
  if move.source.isPrefixOf place then move.target ++ place.drop move.source.length else place

end Disk

structure Disk where
  nodes : SortedMap Place Disk.Node
  -- What has been moved, the last move first.
  moves : List Disk.Move
  time : Int

-- A place that is held on to since the time when so many moves had been made.
structure Held where
  place : Place
  before : Nat
deriving DecidableEq

def Held.root : Held := ⟨[], 0⟩

namespace Disk

def fileMode : Nat := 0o644

def directoryMode : Nat := 0o755

def runnableMode : Nat := 0o755

def isRunnable (mode : Nat) : Bool := mode &&& 0o111 ≠ 0

def empty (time : Int) : Disk := ⟨SortedMap.empty.insert [] (.directory directoryMode), [], time⟩

def node? (disk : Disk) (place : Place) : Option Node := disk.nodes.get? place

def hasDirectory (disk : Disk) (place : Place) : Bool := (disk.node? place).any Node.isDirectory

def put (disk : Disk) (place : Place) (node : Node) : Disk :=
  { disk with nodes := disk.nodes.insert place node }

def erase (disk : Disk) (place : Place) : Disk := { disk with nodes := disk.nodes.erase place }

def nameIn? (directory place : Place) : Option Name :=
  match place.getLast? with
  | some name => if place = directory ++ [name] then some name else none
  | none => none

def namesIn (disk : Disk) (directory : Place) : List Name :=
  disk.nodes.entries.filterMap fun entry => nameIn? directory entry.1

def below (disk : Disk) (directory : Place) : List (Place × Node) :=
  (disk.nodes.entries.filter fun entry =>
    directory.isPrefixOf entry.1 && entry.1.length ≠ directory.length).map fun entry =>
      (entry.1.drop directory.length, entry.2)

def placesOf (disk : Disk) (place : Place) (file : File) : List Place :=
  if file.shared = 0 then [place]
  else disk.nodes.entries.filterMap fun entry =>
    match entry.2 with
    | .file other => if other.shared = file.shared then some entry.1 else none
    | _ => none

def putFile (disk : Disk) (place : Place) (file : File) : Disk :=
  (disk.placesOf place file).foldl (fun disk place => disk.put place (.file file)) disk

def freshNumber (disk : Disk) : Nat :=
  disk.nodes.entries.foldl (fun most entry =>
    match entry.2 with
    | .file file => max most (file.shared + 1)
    | _ => most) 1

def prune (disk : Disk) (place : Place) : Disk :=
  { disk with nodes := disk.nodes.restrict fun other => !place.isPrefixOf other }

def remember (disk : Disk) (source target : Place) : Disk :=
  { disk with moves := ⟨source, target⟩ :: disk.moves }

def grave (place : Place) : Place :=
  place.dropLast ++ (place.getLast?.map Name.buried).toList

-- The tree without a node and all nodes below it, of which those that are held on to may go on to
-- exist.
def bury (disk : Disk) (place : Place) : Disk := (disk.prune place).remember place (grave place)

def move (disk : Disk) (source target : Place) : Disk :=
  let moved := disk.nodes.entries.filter fun entry => source.isPrefixOf entry.1
  (moved.foldl (fun disk entry => disk.put (target ++ entry.1.drop source.length) entry.2)
    (disk.prune source)).remember source target

def hold (disk : Disk) (place : Place) : Held := ⟨place, disk.moves.length⟩

def whereIs (disk : Disk) (held : Held) : Place :=
  (disk.moves.take (disk.moves.length - held.before)).foldr Move.apply held.place

def placeOf? (disk : Disk) (held : Held) : Option Place :=
  let place := disk.whereIs held
  if place.any Name.isBuried then none else some place

theorem ext_node? {left right : Disk} (same : ∀ place, left.node? place = right.node? place)
    (moves : left.moves = right.moves) (time : left.time = right.time) : left = right := by
  rcases left with ⟨left, _, _⟩
  rcases right with ⟨right, _, _⟩
  dsimp only at moves time
  subst moves time
  congr
  exact SortedMap.ext_get? same

theorem node?_put (disk : Disk) (place other : Place) (node : Node) :
    (disk.put place node).node? other = if other = place then some node else disk.node? other :=
  SortedMap.get?_insert disk.nodes place other node

theorem node?_erase (disk : Disk) (place other : Place) :
    (disk.erase place).node? other = if other = place then none else disk.node? other :=
  SortedMap.get?_erase disk.nodes place other

end Disk

end PackageClosure
