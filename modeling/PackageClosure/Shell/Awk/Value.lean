import PackageClosure.Shell.Numeral

set_option autoImplicit false

namespace PackageClosure.Shell.Awk

abbrev Text := List Char

inductive Value where
  | unset
  | number (quantity : Quantity)
  | text (text : Text)
  | input (text : Text)

def isSpace (c : Char) : Bool := c = ' ' || (9 ≤ c.toNat && c.toNat ≤ 13)

def precision : Precision := .double

def ofNat (value : Nat) : Quantity := Quantity.ofNat precision value

def ofInt (value : Int) : Quantity := Quantity.ofInt precision value

def leadingNumber (text : Text) : Quantity :=
  ((Quantity.ofText? precision (text.dropWhile isSpace)).map Prod.fst).getD .zero

-- The number that a whole text is, apart from blanks around it. It ends with a digit or point.
def numberOf? (text : Text) : Option Quantity :=
  let backward := (text.dropWhile isSpace).reverse.dropWhile isSpace
  if !backward.head?.any fun c => c.isDigit || c = '.' then none
  else
    match Quantity.ofText? precision backward.reverse with
    | some (quantity, []) => some quantity
    | _ => none

def bounded (quantity : Quantity) : Int :=
  let top : Int := Nat.pow 2 63 - 1
  match quantity with
  | .undefined _ => -top - 1
  | .infinite negative => if negative then -top else top
  | quantity => max (-top) (min top (quantity.truncated?.getD 0))

def narrow (value : Int) : Int :=
  let span : Int := Nat.pow 2 32
  let rest := value % span
  if 2 * rest < span then rest else rest - span

def wholeText? (quantity : Quantity) : Option String := do
  let value ← quantity.integer?
  let top : Int := Nat.pow 2 64
  if 0 ≤ value then
    if value < top then some (toString value)
    else if value = top then some (toString (top - 1))
    else none
  else if -top ≤ 2 * value then some (toString value)
  else none

def numberText (write : Quantity → Text) (quantity : Quantity) : Text :=
  match wholeText? quantity with
  | some text => text.toList
  | none => write quantity

namespace Value

def ofBool (value : Bool) : Value := .number (ofNat (if value then 1 else 0))

def ofNat (value : Nat) : Value := .number (Awk.ofNat value)

def ofInt (value : Int) : Value := .number (Awk.ofInt value)

def ofString (text : String) : Value := .text text.toList

def number? : Value → Option Quantity
  | .number quantity => some quantity
  | .unset => some .zero
  | .input letters => numberOf? letters
  | .text _ => none

def toNumber : Value → Quantity
  | .unset => .zero
  | .number quantity => quantity
  | .text letters | .input letters => leadingNumber letters

def toText (write : Quantity → Text) : Value → Text
  | .unset => []
  | .number quantity => numberText write quantity
  | .text letters | .input letters => letters

def holds : Value → Bool
  | .unset => false
  | .number quantity => !quantity.isZero
  | .text letters => !letters.isEmpty
  | .input letters =>
      match numberOf? letters with
      | some quantity => !quantity.isZero
      | none => !letters.isEmpty

end Value

def compareTexts : Text → Text → Ordering
  | [], [] => .eq
  | [], _ => .lt
  | _, [] => .gt
  | left :: more, right :: others =>
      if left = right then compareTexts more others else compare left.toNat right.toNat

-- The order of two values: that of numbers if both are such. What cannot be compared counts as
-- equal.
def compareValues (write : Quantity → Text) (left right : Value) : Ordering :=
  match left.number?, right.number? with
  | some left, some right => (left.compare? right).getD .eq
  | _, _ => compareTexts (left.toText write) (right.toText write)

end PackageClosure.Shell.Awk
