import PackageClosure.Storage.Basic

set_option autoImplicit false

namespace PackageClosure

structure Skipped where
  path : Path
  reason : String
deriving DecidableEq, Repr

namespace Sources

inductive Finding where
  | file (path : Path)
  | skipped (entry : Skipped)
deriving DecidableEq, Repr

def Finding.file? : Finding → Option Path
  | .file path => some path
  | _ => none

def Finding.skipped? : Finding → Option Skipped
  | .skipped entry => some entry
  | _ => none

def inOrder (entries : List DirectoryEntry) : List DirectoryEntry :=
  entries.mergeSort fun left right => Text.rawLe left.name.text right.name.text

def isSource (path : Path) : Bool := path.extension? = some "move"

theorem descends (storage : Storage) (directory : Path) (name : Name)
    (listed : (storage.list directory).isOk = true) :
    storage.depthBound + 1 - (directory.child name).location.names.length <
      storage.depthBound + 1 - directory.location.names.length := by
  have bound := storage.length_le_depthBound directory listed
  rw [Path.location_child]
  simp only [Location.child, List.length_append, List.length_singleton]
  omega

def search (storage : Storage) (directory : Path) : List Finding :=
  match _listed : storage.list directory with
  | .error error => [.skipped ⟨directory, error.message⟩]
  | .ok entries =>
      (inOrder entries).flatMap fun entry =>
        let path := directory.child entry.name
        match entry.kind with
        | .directory => search storage path
        | .file => if isSource path then [.file path] else []
        | .unreadable reason => [.skipped ⟨path, reason⟩]
termination_by storage.depthBound + 1 - directory.location.names.length
decreasing_by exact descends storage directory entry.name (by rw [_listed]; rfl)

end Sources

structure SourceSet where
  files : List Path
  skipped : List Skipped
deriving DecidableEq, Repr

def Storage.sources (storage : Storage) (directory : Path) : SourceSet :=
  let findings := Sources.search storage directory
  ⟨findings.filterMap Sources.Finding.file?, findings.filterMap Sources.Finding.skipped?⟩

end PackageClosure
