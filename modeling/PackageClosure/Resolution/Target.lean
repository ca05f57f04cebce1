import PackageClosure.Alias
import PackageClosure.Manifest.Basic
import PackageClosure.Path.Location

set_option autoImplicit false

namespace PackageClosure

structure Target where
  location : Location
  aliased : Bool
deriving DecidableEq

-- An alias comes first and is taken from the current directory; a path is taken from the root of
-- the depending package. Other entries stand for no package.
def Entry.target? (entry : Entry) (current : Location) (aliases : Aliases) (package : Location) :
    Option Target :=
  match aliases.get? entry.name with
  | some path => some ⟨path.locate current, true⟩
  | none => entry.dependency.path?.map fun path => ⟨package.join path, false⟩

end PackageClosure
