import PackageClosure.Program.Start
import PackageClosure.Program.System

set_option autoImplicit false

namespace PackageClosure

structure Snapshot where
  disk : Disk
  surroundings : Surroundings

namespace Snapshot

def unescape : List Char → List Char
  | '\\' :: 't' :: rest => '\t' :: unescape rest
  | '\\' :: 'n' :: rest => '\n' :: unescape rest
  | '\\' :: '\\' :: rest => '\\' :: unescape rest
  | c :: rest => c :: unescape rest
  | [] => []

def start : Snapshot := ⟨Disk.system, ⟨Held.root, []⟩⟩

def addFile (snapshot : Snapshot) (path content : String) (mode : Nat) :
    Except FileError Snapshot := do
  let target : Path := ⟨path⟩
  let above := (target.parent?.getD ⟨"/"⟩).raw
  let ready ← snapshot.disk.createDirectories Held.root above
  return { snapshot with
    disk := ← ready.write Held.root mode target.raw (Text.encodeUtf8 content) }

def addFields (snapshot : Snapshot) : List String → Except FileError Snapshot
  | ["directory", path] => do
      return { snapshot with
        disk := ← snapshot.disk.createDirectories Held.root (⟨path⟩ : Path).raw }
  | ["file", path, content] => snapshot.addFile path content Disk.fileMode
  | ["program", path, content] => snapshot.addFile path content Disk.runnableMode
  | ["link", path, target] => do
      return { snapshot with
        disk := ← snapshot.disk.createLink Held.root (⟨target⟩ : Path).raw (⟨path⟩ : Path).raw }
  | ["variable", name, value] =>
      .ok { snapshot with
        surroundings.environment := snapshot.surroundings.environment.set name value }
  | ["current", path] => do
      let found ← snapshot.disk.find Held.root true (⟨path⟩ : Path).raw
      return { snapshot with surroundings.current := snapshot.disk.hold found.place }
  | _ => .ok snapshot

def addLine (snapshot : Snapshot) (line : String) : Except FileError Snapshot :=
  snapshot.addFields <|
    (Text.pieces '\t' line.toList).map fun field => String.ofList (unescape field)

def ofLines (lines : List String) : Except FileError Snapshot := lines.foldlM addLine start

end Snapshot

end PackageClosure
