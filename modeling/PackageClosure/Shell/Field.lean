import PackageClosure.Shell.Pattern

set_option autoImplicit false

namespace PackageClosure.Shell

inductive Part where
  | fixed (text : List Char) (quoted : Bool)
  | loose (text : List Char)
  | boundary
  | gap
deriving DecidableEq, Repr

def Part.loosened : Part → Part
  | .fixed text false => .loose text
  | other => other

-- The characters at which text is split. Blanks count as one separator with those around them.
structure Separators where
  blanks : List Char
  others : List Char

namespace Separators

def isBlank (c : Char) : Bool := c = ' ' || c = '\t' || c = '\n'

def ofText (text : List Char) : Separators := ⟨text.filter isBlank, text.filter (!isBlank ·)⟩

end Separators

structure Splitting where
  finished : List (List Marked)
  begun : Option (List Marked)
  afterBlank : Bool

namespace Splitting

def start : Splitting := ⟨[], none, false⟩

def add (splitting : Splitting) (text : List Marked) : Splitting :=
  ⟨splitting.finished, some (text.reverse ++ splitting.begun.getD []), false⟩

def close (splitting : Splitting) (afterBlank : Bool) : Splitting :=
  match splitting.begun with
  | some field => ⟨field :: splitting.finished, none, afterBlank⟩
  | none => splitting

def step (separators : Separators) (splitting : Splitting) (c : Char) : Splitting :=
  if separators.blanks.contains c then splitting.close true
  else if separators.others.contains c then
    match splitting.begun with
    | some _ => splitting.close false
    | none =>
        if splitting.afterBlank then { splitting with afterBlank := false }
        else ⟨[] :: splitting.finished, none, false⟩
  else splitting.add [(c, false)]

def part (separators : Separators) (splitting : Splitting) : Part → Splitting
  | .fixed text quoted => splitting.add (text.map fun c => (c, quoted))
  | .loose text => text.foldl (step separators) splitting
  | .boundary => ((splitting.add []).close false).add []
  | .gap => splitting.close false

end Splitting

namespace Part

def fields (separators : Separators) (parts : List Part) : List (List Marked) :=
  let splitting := (parts.foldl (Splitting.part separators) Splitting.start).close false
  (splitting.finished.map List.reverse).reverse

-- The characters of a part that is not split, with those marked that are quoted. Fields are
-- joined by a text of their own.
def characters (joint : List Char) : Part → List Marked
  | .fixed text quoted => text.map fun c => (c, quoted)
  | .loose text => text.map fun c => (c, false)
  | .boundary | .gap => joint.map fun c => (c, false)

def text (joint : List Char) (parts : List Part) : List Char :=
  (parts.flatMap (characters joint)).map Prod.fst

end Part

end PackageClosure.Shell
