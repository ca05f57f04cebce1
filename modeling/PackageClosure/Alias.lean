import PackageClosure.Address.Argument
import PackageClosure.Path.Basic
import PackageClosure.SortedMap

set_option autoImplicit false

namespace PackageClosure

instance : KeyOrder String where
  before left right := decide (left < right)
  irrefl text := by simp
  trans first second third := by
    simp only [decide_eq_true_eq]
    exact String.lt_trans
  connected left right := by
    simp only [decide_eq_false_iff_not, String.not_lt]
    exact fun one two => String.le_antisymm two one

abbrev Aliases := SortedMap String Path

def Aliases.ofList (pairs : List (String × Path)) : Aliases :=
  pairs.foldl (fun aliases pair => aliases.insert pair.1 pair.2) .empty

-- A dependency name with the path of a package, written `NAME=PATH`.
structure AliasArgument where
  name : String
  path : Path
deriving DecidableEq, Repr

namespace AliasArgument

inductive Error where
  | missingSeparator (text : String)
  | emptyName (text : String)
  | emptyPath (text : String)
deriving DecidableEq, Repr

def Error.message : Error → String
  | .missingSeparator text => s!"expected `NAME=PATH`, found '{text}'"
  | .emptyName text => s!"empty dependency name in '{text}'"
  | .emptyPath text => s!"empty path in '{text}'"

def parse (text : String) : Except Error AliasArgument :=
  match Text.parsePair '=' text with
  | .ok (name, path) => .ok ⟨name, ⟨path⟩⟩
  | .error .noSeparator => .error (.missingSeparator text)
  | .error .emptyLeft => .error (.emptyName text)
  | .error .emptyRight => .error (.emptyPath text)

def text (argument : AliasArgument) : String :=
  Text.writePair '=' argument.name argument.path.text

end AliasArgument

end PackageClosure
