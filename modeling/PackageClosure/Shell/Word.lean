set_option autoImplicit false

namespace PackageClosure.Shell

-- What `${name…}` makes of the value of a parameter. Words and patterns are kept as they are
-- spelled. A value that is only there when the parameter is set, or only when it is not empty, is
-- called a missing one otherwise.
inductive Change where
  | length
  | otherwise (filled : Bool) (word : List Char)
  | assign (filled : Bool) (word : List Char)
  | demand (filled : Bool) (word : List Char)
  | instead (filled : Bool) (word : List Char)
  | dropStart (longest : Bool) (pattern : List Char)
  | dropEnd (longest : Bool) (pattern : List Char)
deriving DecidableEq, Repr

inductive Fragment where
  | text (text : List Char) (quoted : Bool)
  | parameter (name : List Char) (change : Option Change) (quoted : Bool)
  | output (script : List Char) (line : Nat) (quoted : Bool)
  | number (expression : List Char) (quoted : Bool)
  | bad
deriving DecidableEq, Repr

abbrev Word := List Fragment

def Fragment.literal? : Fragment → Option (List Char)
  | .text spelled false => some spelled
  | _ => none

def Word.literal? (word : Word) : Option String :=
  (word.mapM Fragment.literal?).map fun texts => String.ofList texts.flatten

end PackageClosure.Shell
