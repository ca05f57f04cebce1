import PackageClosure.Text.Split

set_option autoImplicit false

namespace PackageClosure

-- What the name of a directory entry looks like: it is not empty, holds no slash, and does not
-- stand for a directory itself or its parent.
def IsName (text : List Char) : Prop :=
  text ≠ [] ∧ text ≠ ['.'] ∧ text ≠ ['.', '.'] ∧ '/' ∉ text

instance (text : List Char) : Decidable (IsName text) := by
  unfold IsName
  infer_instance

structure Name where
  text : String
  isName : IsName text.toList
deriving DecidableEq

def Name.ofChars? (text : List Char) : Option Name :=
  if valid : IsName text then some ⟨String.ofList text, by simpa using valid⟩ else none

def Name.ofString? (text : String) : Option Name := Name.ofChars? text.toList

theorem Name.ext {left right : Name} (same : left.text = right.text) : left = right := by
  cases left
  cases right
  simp_all

theorem Name.ofChars?_toList (name : Name) : Name.ofChars? name.text.toList = some name := by
  rw [Name.ofChars?, dif_pos name.isName]
  exact congrArg some (Name.ext (by simp))

inductive Step where
  | root
  | current
  | parent
  | name (name : Name)
deriving DecidableEq

-- How a step is spelled between slashes; the root is the empty text before the first slash.
def Step.spelling : Step → List Char
  | .root => []
  | .current => ['.']
  | .parent => ['.', '.']
  | .name n => n.text.toList

def Step.ofPiece? (piece : List Char) : Option Step :=
  if piece = ['.', '.'] then some .parent else (Name.ofChars? piece).map .name

theorem Step.ofPiece?_name (name : Name) :
    Step.ofPiece? name.text.toList = some (.name name) := by
  rw [Step.ofPiece?, if_neg name.isName.2.2.1, Name.ofChars?_toList]
  rfl

structure Path where
  text : String
deriving DecidableEq, Repr

namespace Path

def isAbsolute (path : Path) : Bool := path.text.toList.head? = some '/'

def inner (text : List Char) : List Step := (Text.pieces '/' text).filterMap Step.ofPiece?

def stepsOf : List Char → List Step
  | '/' :: rest => .root :: inner rest
  | text =>
      if (Text.pieces '/' text).head? = some ['.'] then .current :: inner text else inner text

def steps (path : Path) : List Step := stepsOf path.text.toList

def startsWith (path base : Path) : Bool := base.steps.isPrefixOf path.steps

def sameSteps (left right : Path) : Bool := left.steps = right.steps

def join (base path : Path) : Path :=
  let before := base.text.toList
  if path.isAbsolute then path
  else if before = [] ∨ before.getLast? = some '/' then ⟨base.text ++ path.text⟩
  else ⟨base.text ++ "/" ++ path.text⟩

def child (directory : Path) (name : Name) : Path := directory.join ⟨name.text⟩

def ofSteps : List Step → Path
  | .root :: rest => ⟨String.ofList ('/' :: ['/'].intercalate (rest.map Step.spelling))⟩
  | steps => ⟨String.ofList (['/'].intercalate (steps.map Step.spelling))⟩

def isNoise (piece : List Char) : Bool := piece = [] || piece = ['.']

def dropNoise (pieces : List (List Char)) : List (List Char) :=
  (pieces.reverse.dropWhile isNoise).reverse

-- What stands before the last step, as it is spelled, under a given beginning: the beginning is
-- not a step of the remaining pieces.
def parentFrom (beginning : List Char) (atStart : Option Path) (pieces : List (List Char)) :
    Option Path :=
  match dropNoise pieces with
  | [] => atStart
  | kept =>
      match dropNoise kept.dropLast with
      | [] => some ⟨String.ofList beginning⟩
      | above =>
          let separator := if beginning = [] ∨ beginning = ['/'] then [] else ['/']
          some ⟨String.ofList (beginning ++ separator ++ ['/'].intercalate above)⟩

def parent? (path : Path) : Option Path :=
  match path.text.toList with
  | '/' :: rest => parentFrom ['/'] none (Text.pieces '/' rest)
  | text =>
      match Text.pieces '/' text with
      | ['.'] :: rest => parentFrom ['.'] (some ⟨""⟩) rest
      | pieces => parentFrom [] none pieces

def fileName? (path : Path) : Option Name :=
  match path.steps.getLast? with
  | some (.name name) => some name
  | _ => none

-- The text after the last dot of the file name; a dot at the start of the name begins none.
def extension? (path : Path) : Option String :=
  match path.fileName? with
  | none => none
  | some name =>
      let backwards := name.text.toList.reverse
      match backwards.dropWhile (· ≠ '.') with
      | [] | [_] => none
      | _ => some (String.ofList (backwards.takeWhile (· ≠ '.')).reverse)

def addSuffix (path : Path) (suffix : String) : Path := ⟨path.text ++ suffix⟩

end Path

end PackageClosure
