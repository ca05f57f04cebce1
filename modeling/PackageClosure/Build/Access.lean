import PackageClosure.Path.Raw

set_option autoImplicit false

namespace PackageClosure

structure Access where
  package : Path
  preopens : List Path
deriving DecidableEq, Repr

structure AccessError where
  count : Nat
  first : Path
deriving DecidableEq, Repr

def AccessError.message (error : AccessError) : String :=
  s!"{error.count} dependency source(s) are not accessible to the compiler, " ++
    s!"e.g. '{error.first.shown}'. Preopen their root with --preopen"

namespace Access

-- The directory around the package is open unless others are named.
def around (package : Path) : Access := ⟨package, package.parent?.toList⟩

def allows (access : Access) (file : Path) : Bool :=
  file.startsWith access.package || access.preopens.any file.startsWith

def check (access : Access) (files : List Path) : Except AccessError Unit :=
  match files.filter fun file => !access.allows file with
  | [] => .ok ()
  | first :: rest => .error ⟨rest.length + 1, first⟩

def outputDirectory (package : Path) : Path := package.join ⟨"target/sui/release"⟩

end Access

end PackageClosure
