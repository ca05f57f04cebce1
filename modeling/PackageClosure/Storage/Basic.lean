import PackageClosure.Path.Location
import PackageClosure.Path.Raw
import PackageClosure.SystemError

set_option autoImplicit false

namespace PackageClosure

inductive FileError where
  | notFound (path : Path)
  | isDirectory (path : Path)
  | notDirectory (path : Path)
  | unreadable (reason : String)
  | system (error : SystemError)
  | nulCharacter
  | notUtf8 (error : Text.Utf8Error)
deriving DecidableEq, Repr

def FileError.message : FileError → String
  | .notFound path => s!"no such file or directory: {path.shown}"
  | .isDirectory path => s!"is a directory: {path.shown}"
  | .notDirectory path => s!"not a directory: {path.shown}"
  | .unreadable reason => reason
  | .system error => error.message
  | .nulCharacter => "file name contained an unexpected NUL byte"
  | .notUtf8 error => error.message

inductive EntryKind where
  | file
  | directory
  | unreadable (reason : String)
deriving DecidableEq, Repr

structure DirectoryEntry where
  name : Name
  kind : EntryKind
deriving DecidableEq

structure Storage where
  read : Path → Except FileError Bytes
  list : Path → Except FileError (List DirectoryEntry)
  has : Path → Bool
  -- No more locations than this can be read.
  fileBound : Nat
  -- No directory has more names than this below its starting point.
  depthBound : Nat
  length_le_fileBound : ∀ paths : List Path, (paths.map Path.location).Nodup →
    (∀ path ∈ paths, (read path).isOk = true) → paths.length ≤ fileBound
  length_le_depthBound : ∀ path : Path, (list path).isOk = true →
    path.location.names.length ≤ depthBound

def Storage.readText (storage : Storage) (path : Path) : Except FileError String :=
  match storage.read path with
  | .error error => .error error
  | .ok bytes => (Text.decodeUtf8 bytes).mapError .notUtf8

end PackageClosure
