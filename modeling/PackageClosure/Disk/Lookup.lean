import PackageClosure.Disk.Basic

set_option autoImplicit false

namespace PackageClosure

namespace Path

def lookupStep? (piece : List Char) : Option Step :=
  if piece = ['.'] then some .current else Step.ofPiece? piece

-- The steps of a lookup. A slash at the end asks for a directory.
def lookupSteps (path : Path) : List Step :=
  let text := path.text.toList
  let start := if text.head? = some '/' then [.root] else []
  let finish := if text.getLast? = some '/' then [.current] else []
  start ++ (Text.pieces '/' text).filterMap lookupStep? ++ finish

end Path

namespace Disk

def nameLimit : Nat := 255

def pathLimit : Nat := 4096

def linkLimit : Nat := 40

-- What a lookup comes to: a place, with nothing in it if only the last name is missing from a
-- directory.
structure Found where
  place : Place
  node : Option Node
deriving DecidableEq

def walk (disk : Disk) (links : Nat) (follow : Bool) (directory : Place) :
    List Step → Except SystemError Found
  | [] => .ok ⟨directory, some ((disk.node? directory).getD (.directory directoryMode))⟩
  | .root :: rest => walk disk links follow [] rest
  | .current :: rest => walk disk links follow directory rest
  | .parent :: rest => walk disk links follow directory.dropLast rest
  | .name name :: rest =>
      let place := directory ++ [name]
      if nameLimit < Text.rawLength name.text.toList then .error .nameTooLong
      else
        match disk.node? place with
        | none =>
            if rest.isEmpty && disk.hasDirectory directory then .ok ⟨place, none⟩
            else .error .notFound
        | some (.directory _) => walk disk links follow place rest
        | some (.link target) =>
            if rest.isEmpty && !follow then .ok ⟨place, some (.link target)⟩
            else
              match links with
              | 0 => .error .tooManyLinks
              | left + 1 => walk disk left follow directory (target.lookupSteps ++ rest)
        | some node => if rest.isEmpty then .ok ⟨place, some node⟩ else .error .notDirectory
termination_by steps => (links, steps.length)

def find (disk : Disk) (current : Held) (follow : Bool) (path : Path) : Except FileError Found :=
  let text := path.text.toList
  if '\x00' ∈ text then .error .nulCharacter
  else if text.isEmpty then .error (.system .notFound)
  else if pathLimit ≤ Text.rawLength text then .error (.system .nameTooLong)
  else (disk.walk linkLimit follow (disk.whereIs current) path.lookupSteps).mapError .system

def stat (disk : Disk) (current : Held) (path : Path) : Except FileError Node := do
  match (← disk.find current true path).node with
  | some node => return node
  | none => throw (.system .notFound)

def has (disk : Disk) (current : Held) (path : Path) : Bool := (disk.stat current path).isOk

def isFile (disk : Disk) (current : Held) (path : Path) : Bool :=
  match disk.stat current path with
  | .ok (.file _) => true
  | _ => false

def isDirectory (disk : Disk) (current : Held) (path : Path) : Bool :=
  match disk.stat current path with
  | .ok (.directory _) => true
  | _ => false

def zeroCount : Nat := 262144

def Device.read : Device → Bytes
  | .null => []
  | .zero | .full => List.replicate zeroCount 0

def read (disk : Disk) (current : Held) (path : Path) : Except FileError Bytes := do
  match ← disk.stat current path with
  | .file file => return file.bytes
  | .directory _ => throw (.system .isDirectory)
  | .device device => return device.read
  | .link _ => return []

-- What a directory entry is: a link counts as what it leads to.
def kindOf (disk : Disk) (current : Held) (path : Path) : EntryKind :=
  match disk.stat current path with
  | .ok (.directory _) => .directory
  | .ok _ => .file
  | .error error => .unreadable error.message

def list (disk : Disk) (current : Held) (path : Path) :
    Except FileError (List DirectoryEntry) := do
  let found ← disk.find current true path
  match found.node with
  | some (.directory _) =>
      return (disk.namesIn found.place).map fun name =>
        ⟨name.shown, disk.kindOf current (path.child name)⟩
  | some _ => throw (.system .notDirectory)
  | none => throw (.system .notFound)

end Disk

end PackageClosure
