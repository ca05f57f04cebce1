import PackageClosure.Disk.Lookup

set_option autoImplicit false

namespace PackageClosure.Disk

def newFile (disk : Disk) (mode : Nat) : File := ⟨[], mode, disk.time, 0⟩

def rewritten (disk : Disk) (file : File) (bytes : Bytes) : File :=
  { file with bytes, changed := disk.time }

-- Where a file is written that is opened by a path: a new file is empty and has a given mode, and
-- the bytes of an existing one are dropped unless they are to be kept.
def openFile (disk : Disk) (current : Held) (keep : Bool) (mode : Nat) (path : Path) :
    Except FileError (Disk × Place) := do
  let found ← disk.find current true path
  match found.node with
  | none => return (disk.put found.place (.file (disk.newFile mode)), found.place)
  | some (.file file) =>
      return (if keep then disk else disk.putFile found.place (disk.rewritten file []), found.place)
  | some (.directory _) => throw (.system .isDirectory)
  | some _ => return (disk, found.place)

def append (disk : Disk) (place : Place) (bytes : Bytes) : Disk :=
  match disk.node? place with
  | some (.file file) => disk.putFile place (disk.rewritten file (file.bytes ++ bytes))
  | _ => disk

def write (disk : Disk) (current : Held) (mode : Nat) (path : Path) (bytes : Bytes) :
    Except FileError Disk := do
  let (opened, place) ← disk.openFile current false mode path
  return opened.append place bytes

-- Gives the node at a place another mode. The mode of a link is nothing that counts.
def setMode (disk : Disk) (place : Place) (mode : Nat) : Disk :=
  match disk.node? place with
  | some (.file file) => disk.putFile place { file with mode }
  | some (.directory _) => disk.put place (.directory mode)
  | _ => disk

def trimSlashes (path : Path) : Path :=
  match path.text.toList.reverse.dropWhile (· = '/') with
  | [] => path
  | kept => ⟨String.ofList kept.reverse⟩

def create (disk : Disk) (current : Held) (path : Path) (node : Node) : Except FileError Disk := do
  let found ← disk.find current false (trimSlashes path)
  match found.node with
  | some _ => throw (.system .alreadyExists)
  | none => return disk.put found.place node

def createDirectory (disk : Disk) (current : Held) (mode : Nat) (path : Path) :
    Except FileError Disk :=
  disk.create current path (.directory mode)

def createLink (disk : Disk) (current : Held) (target path : Path) : Except FileError Disk :=
  disk.create current path (.link target)

def createName (disk : Disk) (current : Held) (file : File) (place : Place) (path : Path) :
    Except FileError Disk :=
  let shared : File :=
    if file.shared = 0 then { file with shared := disk.freshNumber } else file
  (disk.put place (.file shared)).create current path (.file shared)

def createSteps (disk : Disk) (current : Held) : List Step → Except FileError Disk
  | [] => .ok disk
  | last :: above =>
      let path := Path.ofSteps (last :: above).reverse
      let again (disk : Disk) : Except FileError Disk :=
        match disk.createDirectory current directoryMode path with
        | .ok after => .ok after
        | .error error => if disk.isDirectory current path then .ok disk else .error error
      match disk.createDirectory current directoryMode path with
      | .error (.system .notFound) => do again (← createSteps disk current above)
      | _ => again disk

def createDirectories (disk : Disk) (current : Held) (path : Path) : Except FileError Disk :=
  disk.createSteps current path.steps.reverse

def removeFile (disk : Disk) (current : Held) (path : Path) : Except FileError Disk := do
  let found ← disk.find current false path
  match found.node with
  | none => throw (.system .notFound)
  | some (.directory _) => throw (.system .isDirectory)
  | some _ => return disk.erase found.place

def removeDirectory (disk : Disk) (current : Held) (path : Path) : Except FileError Disk := do
  let found ← disk.find current false path
  match found.node with
  | none => throw (.system .notFound)
  | some (.directory _) =>
      if (disk.namesIn found.place).isEmpty then return disk.bury found.place
      else throw (.system .notEmpty)
  | some _ => throw (.system .notDirectory)

def removeTree (disk : Disk) (current : Held) (path : Path) : Except FileError Disk := do
  let found ← disk.find current false path
  match found.node with
  | none => throw (.system .notFound)
  | some (.directory _) => return disk.bury found.place
  | some (.link _) => return disk.erase found.place
  | some _ => throw (.system .notDirectory)

def isShared : Node → Option Node → Bool
  | .file one, some (.file other) => one.shared ≠ 0 && one.shared = other.shared
  | _, _ => false

-- Moves a node to another path. What is there gives way if it is of the same kind, directories
-- only when they are empty.
def rename (disk : Disk) (current : Held) (source target : Path) : Except FileError Disk := do
  let origin ← disk.find current false source
  let goal ← disk.find current false (trimSlashes target)
  match origin.node, goal.node with
  | none, _ => throw (.system .notFound)
  | some node, there =>
      let moved := (if there.isSome then disk.bury goal.place else disk).move origin.place goal.place
      if origin.place = goal.place || isShared node there then return disk
      else if origin.place.isPrefixOf goal.place then throw (.system .invalidArgument)
      else if goal.place.isPrefixOf origin.place then throw (.system .notEmpty)
      else
        match node, there with
        | .directory _, some (.directory _) =>
            if (disk.namesIn goal.place).isEmpty then return moved else throw (.system .notEmpty)
        | .directory _, some _ => throw (.system .notDirectory)
        | _, some (.directory _) => throw (.system .isDirectory)
        | _, _ => return moved

end PackageClosure.Disk
