import PackageClosure.Resolution.Walk

set_option autoImplicit false

namespace PackageClosure

structure Resolution where
  root : Location
  manifest : Manifest
  packages : List Location
  addresses : AddressTable
  graph : Graph
deriving DecidableEq

-- Whether a path names one of the packages; it may be spelled in any way, but is not
-- normalized.
def Path.isAmong (path : Path) (packages : List Location) : Bool :=
  packages.any fun location => location.path.sameSteps path

-- The path that a resolution goes out from. An empty path is `.` by then, which is taken from the
-- current directory like any other.
def Path.orDot (path : Path) : Path := if path.text = "" then ⟨"."⟩ else path

theorem Path.orDot_of_filled (path : Path) (filled : path.text ≠ "") : path.orDot = path :=
  if_neg filled

theorem Path.text_orDot_ne_empty (path : Path) : path.orDot.text ≠ "" := by
  rw [orDot]
  split
  · simp
  · assumption

def Storage.findRoot (storage : Storage) (current : Location) (start : Path) :
    Except ResolutionError Location :=
  let start := start.locate current
  match (start :: start.ancestors).find? fun directory =>
      storage.has (directory.path.child manifestFile) with
  | some root => .ok root
  | none => .error (.noPackageRoot start)

theorem Storage.findRoot_of_has (storage : Storage) (current : Location) (start : Path)
    (root : Location) (located : start.locate current = root)
    (here : storage.has (root.path.child manifestFile) = true) :
    storage.findRoot current start = .ok root := by
  have first := List.find?_cons_of_pos
    (p := fun directory : Location => storage.has (directory.path.child manifestFile))
    (l := root.ancestors) here
  simp only [findRoot, located, first]

namespace Resolver

def load (resolver : Resolver) (package : Path) : Except ResolutionError Manifest :=
  (resolver.storage.manifestAt package).mapError (.manifestUnreadable package)

def resolve (resolver : Resolver) (manifest : Manifest) (root : Path) (aliases : Aliases) :
    Except ResolutionError Resolution := do
  let done ← resolver.explore manifest (root.orDot.locate resolver.current) aliases
  return ⟨root.locate resolver.current, manifest, done.packages, done.addresses, done.graph⟩

def resolveAt (resolver : Resolver) (root : Path) (aliases : Aliases) :
    Except ResolutionError Resolution := do
  resolver.resolve (← resolver.load root) root aliases

def packages (resolver : Resolver) (manifest : Manifest) (root : Path) (aliases : Aliases) :
    Except ResolutionError (List Location) :=
  (resolver.explore manifest (root.locate resolver.current) aliases).map Progress.packages

def addresses (resolver : Resolver) (manifest : Manifest) (root : Path) (aliases : Aliases) :
    Except ResolutionError AddressTable :=
  (resolver.explore manifest (root.locate resolver.current) aliases).map Progress.addresses

end Resolver

end PackageClosure
