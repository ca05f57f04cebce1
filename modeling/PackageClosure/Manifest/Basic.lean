import PackageClosure.Json
import PackageClosure.OrderedMap
import PackageClosure.Path.Raw
import PackageClosure.Toml.Value

set_option autoImplicit false

namespace PackageClosure

def manifestFile : Name := ⟨"Move.toml", by decide⟩

structure PackageInfo where
  name : String
  version : String
  authors : List String
  license : Option String
deriving DecidableEq

inductive Dependency where
  -- On disk, from the root of the depending package.
  | path (path : Path)
  | git (url : String) (rev : Option String)
  -- Nowhere; an alias has to say where.
  | unspecified
deriving DecidableEq

namespace Dependency

def path? : Dependency → Option Path
  | .path given => some given
  | _ => none

def isGit : Dependency → Bool
  | .git _ _ => true
  | _ => false

def raw : Dependency → Dependency
  | .path given => .path given.raw
  | other => other

end Dependency

structure Manifest where
  package : PackageInfo
  addresses : OrderedMap String
  dependencies : OrderedMap Dependency
  devDependencies : OrderedMap Dependency
deriving DecidableEq

inductive Group where
  | regular
  | dev
deriving DecidableEq, Repr

structure Entry where
  name : String
  dependency : Dependency
  group : Group
deriving DecidableEq

namespace Manifest

-- The regular entries and then those for development, each in order of declaration.
def entries (manifest : Manifest) : List Entry :=
  manifest.dependencies.entries.map (fun entry => ⟨entry.1, entry.2, .regular⟩) ++
    manifest.devDependencies.entries.map (fun entry => ⟨entry.1, entry.2, .dev⟩)

def isLeaf (manifest : Manifest) : Bool :=
  manifest.dependencies.isEmpty && manifest.devDependencies.isEmpty

-- The manifest as it is followed; it is written with paths that are text.
def raw (manifest : Manifest) : Manifest :=
  { manifest with
    dependencies := manifest.dependencies.mapValues fun _ => Dependency.raw
    devDependencies := manifest.devDependencies.mapValues fun _ => Dependency.raw }

end Manifest

structure TreeFormat (α : Type) where
  text : String → α
  list : List α → α
  record : List (String × α) → α

def Json.format : TreeFormat Json := ⟨.string, .array, .object⟩

def Toml.format : TreeFormat Toml.Value := ⟨.string, .array, .table⟩

section

variable {α : Type}

def Dependency.write (format : TreeFormat α) (dependency : Dependency) : α :=
  format.record <|
    match dependency with
    | .path given => [("local", format.text given.text)]
    | .git url none => [("git", format.text url)]
    | .git url (some rev) => [("git", format.text url), ("rev", format.text rev)]
    | .unspecified => []

def PackageInfo.write (format : TreeFormat α) (package : PackageInfo) : α :=
  format.record <|
    [("name", format.text package.name), ("version", format.text package.version)] ++
    (if package.authors.isEmpty then []
      else [("authors", format.list (package.authors.map format.text))]) ++
    (match package.license with
      | none => []
      | some license => [("license", format.text license)])

def Manifest.write (format : TreeFormat α) (manifest : Manifest) : α :=
  let texts (map : OrderedMap String) :=
    format.record (map.entries.map fun entry => (entry.1, format.text entry.2))
  let dependencies (map : OrderedMap Dependency) :=
    format.record (map.entries.map fun entry => (entry.1, entry.2.write format))
  format.record
    [("package", manifest.package.write format),
      ("addresses", texts manifest.addresses),
      ("dependencies", dependencies manifest.dependencies),
      ("dev-dependencies", dependencies manifest.devDependencies)]

end

end PackageClosure
