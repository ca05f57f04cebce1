import PackageClosure.Build.Request
import PackageClosure.Compiler.Backend
import PackageClosure.Text.Blank

set_option autoImplicit false

namespace PackageClosure.Compiler

inductive BuildResult where
  | success (blob : Path) (hash : String)
  | failure (message : String)
deriving DecidableEq, Repr

def BuildResult.json : BuildResult → Json
  | .success blob hash =>
      .object
        [("status", .string "success"), ("blob", .path blob), ("hash", .string hash)]
  | .failure message => .object [("status", .string "failure"), ("message", .string message)]

def blobName : String := "package.blob"

def hashName : String := "hash.txt"

def errorsName : String := "error.txt"

def artifact (package : Path) (name : String) : Path :=
  (Access.outputDirectory package).join ⟨name⟩

-- Reads what the compiler has left behind; a blob counts before errors.
def readBuild (current : Held) (package : Path) (status : ExitStatus) : Run BuildResult := do
  let blob := artifact package blobName
  let errors := artifact package errorsName
  if ← hasFile current blob then
    let hash ← readText current (.noHash blob) (artifact package hashName)
    return .success blob (Text.trim hash)
  else if ← hasFile current errors then
    return .failure (← readText current (.unreadable errors) errors)
  else throw (.nothingBuilt status blobName errorsName)

def build (current : Held) (executable : Path) (backend : Backend) (access : Access)
    (request : BuildRequest) : Run BuildResult := do
  match access.check request.sources with
  | .error error => throw (.inaccessible error)
  | .ok () => pure ()
  clear current (artifact access.package blobName)
  clear current (artifact access.package hashName)
  clear current (artifact access.package errorsName)
  let status ← runToEnd executable backend
  readBuild current access.package status

end PackageClosure.Compiler
