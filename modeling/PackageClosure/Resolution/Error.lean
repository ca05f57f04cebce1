import PackageClosure.Manifest.Decode
import PackageClosure.Storage.Basic

set_option autoImplicit false

namespace PackageClosure

inductive LoadError where
  | unreadable (error : FileError)
  | invalid (error : Manifest.Error)
deriving DecidableEq, Repr

def LoadError.message : LoadError → String
  | .unreadable error => s!"cannot read manifest: {error.message}"
  | .invalid error => error.message

structure FetchFailure where
  message : String
  causes : List String
deriving DecidableEq, Repr

inductive ResolutionError where
  | manifestUnreadable (package : Path) (cause : LoadError)
  -- The chain begins with the root and comes back to the package at its end.
  | cyclicDependency (package : Location) (chain : List Location)
  | noPackageRoot (start : Location)
  | fetchFailed (name : String) (cause : FetchFailure)
deriving DecidableEq

namespace ResolutionError

def message : ResolutionError → String
  | .manifestUnreadable package cause =>
      s!"Unable to load package at '{package.shown}': {cause.message}"
  | .cyclicDependency package chain =>
      let links := " -> ".intercalate (chain.map fun location => location.path.shown)
      s!"Cyclic dependency on package at '{package.path.shown}': {links}"
  | .noPackageRoot start =>
      s!"Unable to find package manifest in '{start.path.shown}' or in its parents"
  | .fetchFailed name cause => s!"Failed to fetch git dependency '{name}': {cause.message}"

def explanation (error : ResolutionError) : List String :=
  error.message ::
    match error with
    | .manifestUnreadable _ (.unreadable cause) =>
        [(LoadError.unreadable cause).message, cause.message]
    | .manifestUnreadable _ (.invalid cause) => [cause.message]
    | .fetchFailed _ cause => cause.message :: cause.causes
    | _ => []

end ResolutionError

end PackageClosure
