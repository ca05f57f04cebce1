import PackageClosure.Rounding
import PackageClosure.Text.Split

set_option autoImplicit false

namespace PackageClosure.Shell

inductive Quantity where
  | finite (negative : Bool) (mantissa : Nat) (exponent : Int)
  | infinite (negative : Bool)
  | undefined (negative : Bool)
deriving DecidableEq, Repr

structure Precision where
  bits : Nat
  top : Int
  unit : Int

def Precision.double : Precision := ⟨53, 1024, -1074⟩

def Precision.extended : Precision := ⟨64, 16384, -16445⟩

namespace Quantity

def ofQuotient (precision : Precision) (negative : Bool) (numerator denominator : Nat) : Quantity :=
  if numerator = 0 then .finite negative 0 0
  else
    let unit := max (floorLog2 numerator denominator - (precision.bits - 1)) precision.unit
    let mantissa :=
      if 0 ≤ unit then nearestQuotient numerator (denominator * Nat.pow 2 unit.toNat)
      else nearestQuotient (numerator * Nat.pow 2 (-unit).toNat) denominator
    if precision.top ≤ mantissa.log2 + unit && mantissa ≠ 0 then .infinite negative
    else .finite negative mantissa unit

def scaled (precision : Precision) (negative : Bool) (numerator denominator : Nat)
    (exponent : Int) : Quantity :=
  if 0 ≤ exponent then
    ofQuotient precision negative (numerator * Nat.pow 2 exponent.toNat) denominator
  else ofQuotient precision negative numerator (denominator * Nat.pow 2 (-exponent).toNat)

def zero : Quantity := .finite false 0 0

def ofInt (precision : Precision) (value : Int) : Quantity :=
  ofQuotient precision (value < 0) value.natAbs 1

def ofNat (precision : Precision) (value : Nat) : Quantity := ofQuotient precision false value 1

def isNegative : Quantity → Bool
  | .finite negative _ _ | .infinite negative | .undefined negative => negative

def isZero : Quantity → Bool
  | .finite _ mantissa _ => mantissa = 0
  | _ => false

def isUndefined : Quantity → Bool
  | .undefined _ => true
  | _ => false

def ratio (negative : Bool) (mantissa : Nat) (exponent : Int) : Int × Nat :=
  let signed (size : Nat) : Int := if negative then -(size : Int) else size
  if 0 ≤ exponent then (signed (mantissa * Nat.pow 2 exponent.toNat), 1)
  else (signed mantissa, Nat.pow 2 (-exponent).toNat)

def ratio? : Quantity → Option (Int × Nat)
  | .finite negative mantissa exponent => some (ratio negative mantissa exponent)
  | _ => none

def truncated? (quantity : Quantity) : Option Int :=
  quantity.ratio?.map fun (numerator, denominator) => Int.tdiv numerator denominator

def integer? (quantity : Quantity) : Option Int := do
  let (numerator, denominator) ← quantity.ratio?
  if numerator % denominator = 0 then return Int.tdiv numerator denominator else none

def negate : Quantity → Quantity
  | .finite negative mantissa exponent => .finite (!negative) mantissa exponent
  | .infinite negative => .infinite (!negative)
  | .undefined negative => .undefined (!negative)

def ofRatio (precision : Precision) (numerator : Int) (denominator : Nat) : Quantity :=
  ofQuotient precision (numerator < 0) numerator.natAbs denominator

def add (precision : Precision) (left right : Quantity) : Quantity :=
  match left, right with
  | .undefined negative, _ | _, .undefined negative => .undefined negative
  | .infinite one, .infinite other => if one = other then .infinite one else .undefined true
  | .infinite negative, _ | _, .infinite negative => .infinite negative
  | .finite one first low, .finite other second high =>
      if first = 0 && second = 0 then .finite (one && other) 0 0
      else
        let least := min low high
        let (left, _) := ratio one (first * Nat.pow 2 (low - least).toNat) 0
        let (right, _) := ratio other (second * Nat.pow 2 (high - least).toNat) 0
        let sum := left + right
        if sum = 0 then zero else scaled precision (sum < 0) sum.natAbs 1 least

def subtract (precision : Precision) (left right : Quantity) : Quantity :=
  add precision left right.negate

def multiply (precision : Precision) (left right : Quantity) : Quantity :=
  let negative := left.isNegative != right.isNegative
  match left, right with
  | .undefined negative, _ | _, .undefined negative => .undefined negative
  | .finite _ first low, .finite _ second high =>
      scaled precision negative (first * second) 1 (low + high)
  | left, right => if left.isZero || right.isZero then .undefined true else .infinite negative

def divide (precision : Precision) (left right : Quantity) : Quantity :=
  let negative := left.isNegative != right.isNegative
  match left, right with
  | .undefined negative, _ | _, .undefined negative => .undefined negative
  | .infinite _, .infinite _ => .undefined true
  | .infinite _, _ => .infinite negative
  | _, .infinite _ => .finite negative 0 0
  | .finite _ first low, .finite _ second high =>
      if second = 0 then if first = 0 then .undefined true else .infinite negative
      else scaled precision negative first second (low - high)

-- What is left of a division with an integer as its result. It has the sign of what is divided.
def remainder (precision : Precision) (left right : Quantity) : Quantity :=
  match left, right with
  | .undefined negative, _ | _, .undefined negative => .undefined negative
  | .infinite _, _ => .undefined true
  | left, .infinite _ => left
  | .finite one first low, .finite _ second high =>
      if second = 0 then .undefined true
      else
        let least := min low high
        let left := first * Nat.pow 2 (low - least).toNat
        let right := second * Nat.pow 2 (high - least).toNat
        scaled precision one (left % right) 1 least

def compare? (left right : Quantity) : Option Ordering :=
  match left, right with
  | .undefined _, _ | _, .undefined _ => none
  | .infinite one, .infinite other => some (compare other.toNat one.toNat)
  | .infinite negative, _ => some (if negative then .lt else .gt)
  | _, .infinite negative => some (if negative then .gt else .lt)
  | .finite one first low, .finite other second high =>
      let least := min low high
      let (left, _) := ratio one (first * Nat.pow 2 (low - least).toNat) 0
      let (right, _) := ratio other (second * Nat.pow 2 (high - least).toNat) 0
      some (compare left right)

def truncate (precision : Precision) (quantity : Quantity) : Quantity :=
  match quantity.truncated? with
  | some value => ofInt precision value
  | none => quantity

def squareRoot (precision : Precision) : Quantity → Quantity
  | .finite negative mantissa exponent =>
      if mantissa = 0 then .finite negative 0 0
      else if negative then .undefined true
      else
        let extra := 2 * precision.bits + 16
        let shift := if exponent % 2 = 0 then 2 * extra else 2 * extra + 1
        let square := mantissa * Nat.pow 2 shift
        let root := square.sqrt
        let sticky := if root * root = square then 0 else 1
        scaled precision false (2 * root + sticky) 2 ((exponent - shift) / 2)
  | .infinite negative => if negative then .undefined true else .infinite false
  | .undefined negative => .undefined negative

def decimalLimit : Int := 5200

def ofDecimal (precision : Precision) (negative : Bool) (digits : List Char) (exponent : Int) :
    Quantity :=
  let digits := digits.dropWhile (· = '0')
  let top : Int := digits.length + exponent
  let value := Nat.ofDigitChars 10 digits 0
  if digits.isEmpty || top < -decimalLimit then .finite negative 0 0
  else if decimalLimit < top then .infinite negative
  else if 0 ≤ exponent then
    ofQuotient precision negative (value * Nat.pow 10 exponent.toNat) 1
  else ofQuotient precision negative value (Nat.pow 10 (-exponent).toNat)

-- An exponent after its letter, and what follows. Without digits there is none.
def exponentAfter (letters : List Char) (text : List Char) : Int × List Char :=
  match text with
  | letter :: rest =>
      if letters.contains letter then
        let (negative, digits) := match rest with
          | '-' :: digits => (true, digits)
          | '+' :: digits => (false, digits)
          | digits => (false, digits)
        let (found, after) := digits.span Char.isDigit
        if found.isEmpty then (0, text)
        else
          let size : Int := Nat.ofDigitChars 10 (found.take 9) 0
          (if negative then -size else size, after)
      else (0, text)
  | [] => (0, [])

def isHexadecimal (c : Char) : Bool :=
  c.isDigit || ('a' ≤ c && c ≤ 'f') || ('A' ≤ c && c ≤ 'F')

def hasWord (word : String) (text : List Char) : Bool :=
  (text.take word.length).map Char.toLower = word.toList

def digitsAround (isDigit : Char → Bool) (text : List Char) :
    List Char × List Char × List Char :=
  let (whole, rest) := text.span isDigit
  match rest with
  | '.' :: rest =>
      let (part, after) := rest.span isDigit
      if whole.isEmpty && part.isEmpty then ([], [], text) else (whole, part, after)
  | rest => (whole, [], rest)

def decimal? (precision : Precision) (negative : Bool) (text : List Char) :
    Option (Quantity × List Char) :=
  let (whole, part, after) := digitsAround Char.isDigit text
  if whole.isEmpty && part.isEmpty then none
  else
    let (exponent, after) := exponentAfter ['e', 'E'] after
    some (ofDecimal precision negative (whole ++ part) (exponent - part.length), after)

def digitValue (c : Char) : Nat :=
  if c.isDigit then c.toNat - '0'.toNat else 10 + (c.toLower.toNat - 'a'.toNat)

def hexadecimalValue (digits : List Char) : Nat :=
  digits.foldl (fun value c => 16 * value + digitValue c) 0

def hexadecimal? (precision : Precision) (negative : Bool) : List Char →
    Option (Quantity × List Char)
  | '0' :: mark :: rest =>
      let (whole, part, after) := digitsAround isHexadecimal rest
      if !(mark = 'x' || mark = 'X') || (whole.isEmpty && part.isEmpty) then none
      else
        let (exponent, after) := exponentAfter ['p', 'P'] after
        let value := hexadecimalValue (whole ++ part)
        let exponent := max (-40000) (min 40000 (exponent - 4 * part.length))
        some (scaled precision negative value 1 exponent, after)
  | _ => none

def word? (negative : Bool) (text : List Char) : Option (Quantity × List Char) :=
  if hasWord "infinity" text then some (.infinite negative, text.drop 8)
  else if hasWord "inf" text then some (.infinite negative, text.drop 3)
  else if hasWord "nan" text then some (.undefined negative, text.drop 3)
  else none

def splitSign : List Char → Bool × List Char
  | '-' :: rest => (true, rest)
  | '+' :: rest => (false, rest)
  | rest => (false, rest)

def ofText? (precision : Precision) (text : List Char) : Option (Quantity × List Char) :=
  let (negative, rest) := splitSign text
  hexadecimal? precision negative rest <|> decimal? precision negative rest <|>
    word? negative rest

end Quantity

end PackageClosure.Shell
