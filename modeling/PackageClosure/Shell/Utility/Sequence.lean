import PackageClosure.Shell.Numeral
import PackageClosure.Shell.Utility.Portrait

set_option autoImplicit false

namespace PackageClosure.Shell.Utility

structure Bound where
  ratio : Option (Int × Nat)
  places : Option Nat
  width : Nat

namespace Bound

def ofText? (text : String) : Except String Bound := do
  let text := text.toList.dropWhile fun c => c = ' ' || c = '\t'
  let text := if text.head? = some '+' then text.drop 1 else text
  let wrong := s!"invalid floating point argument: {quoted (String.ofList text)}"
  match Quantity.ofText? .extended text with
  | some (quantity, []) =>
      if quantity.isUndefined then
        throw s!"invalid 'not-a-number' argument: {quoted (String.ofList text)}"
      let (negative, digits) := Quantity.splitSign text
      let (whole, part, rest) := Quantity.digitsAround Char.isDigit digits
      if text.any fun c => "xXnN".toList.contains c then
        return ⟨quantity.ratio?, none, text.length⟩
      else
        let (exponent, _) := Quantity.exponentAfter ['e', 'E'] rest
        let value := Nat.ofDigitChars 10 (whole ++ part) 0
        let signed : Int := if negative then -(value : Int) else value
        let power := exponent - part.length
        if 5200 < power || power < -5200 then return ⟨none, some 0, text.length⟩
        else
          let ratio : Int × Nat :=
            if 0 ≤ power then (signed * Nat.pow 10 power.toNat, 1)
            else (signed, Nat.pow 10 (-power).toNat)
          let places := ((part.length : Int) - exponent).toNat
          let pointless := digits.contains '.' && part.isEmpty
          let missing := digits.contains '.' && whole.isEmpty
          let spelled := text.length - (if pointless then 1 else 0) + (if missing then 1 else 0)
          let width := if exponent = 0 then spelled
            else
              let digits := (toString (value * Nat.pow 10 power.toNat)).length
              (if negative then 1 else 0) + if places = 0 then digits else digits + places + 1
          return ⟨some ratio, some places, width⟩
  | _ => throw wrong

end Bound

def countFrom (step : Int) (last : Option Int) : Nat → Int → List Int
  | 0, _ => []
  | more + 1, first =>
      let passed := last.any fun last => (0 < step && last < first) || (step < 0 && first < last)
      if passed then [] else first :: countFrom step last more (first + step)

def sequenceLimit : Nat := 1000000

structure NumberFormat where
  before : List Char
  fitting : Fitting
  conversion : Char
  after : List Char

namespace NumberFormat

def plainPart : List Char → List Char × List Char
  | '%' :: '%' :: rest =>
      let (text, after) := plainPart rest
      ('%' :: text, after)
  | '%' :: rest => ([], '%' :: rest)
  | c :: rest =>
      let (text, after) := plainPart rest
      (c :: text, after)
  | [] => ([], [])

def ofText? (text : String) : Except String NumberFormat := do
  let name := s!"format {quoted text}"
  match plainPart text.toList with
  | (_, []) => throw s!"{name} has no % directive"
  | (before, _ :: rest) =>
      let (fitting, after) := Fitting.take rest
      let after := if after.head? = some 'L' then after.drop 1 else after
      match after with
      | [] => throw s!"{name} ends in %"
      | conversion :: after =>
          if !"efgaEFGA".toList.contains conversion then
            throw s!"{name} has unknown %{conversion} directive"
          match plainPart after with
          | (tail, []) => return ⟨before, fitting, conversion, tail⟩
          | _ => throw s!"{name} has too many % directives"

def write (format : NumberFormat) (numerator : Int) (denominator : Nat) : String :=
  let value := Quantity.ofRatio .extended numerator denominator
  let number := Numeral.write Precision.extended.bits format.fitting.flags format.fitting.width
    format.fitting.precision format.conversion value
  String.ofList (format.before ++ number ++ format.after)

end NumberFormat

def decimalText (places width : Nat) (numerator : Int) (denominator : Nat) : String :=
  let (before, after) := Numeral.fixed places numerator.natAbs denominator
  let sign := if numerator < 0 then ['-'] else []
  let digits := before ++ if after.isEmpty then [] else '.' :: after
  let zeros := List.replicate (width - (sign.length + digits.length)) '0'
  String.ofList (sign ++ zeros ++ digits)

def equalWidth (first step last : Bound) : Nat × Nat :=
  let places := max (first.places.getD 0) (step.places.getD 0)
  let own := first.places.getD 0
  let final := last.places.getD 0
  let point (condition : Bool) : Nat := if condition then 1 else 0
  let left := first.width + (places - own) + point (own = 0 && places ≠ 0)
  let right := last.width + places + point (final = 0 && places ≠ 0) -
    (final + point (final ≠ 0 && places = 0))
  (places, max left right)

def sequenceTexts (equal : Bool) (format : Option NumberFormat) (first step last : Bound) :
    List String :=
  match first.ratio, step.ratio with
  | some start, some increment =>
      let common := Nat.lcm (Nat.lcm start.2 increment.2) ((last.ratio.map Prod.snd).getD 1)
      let scaled (ratio : Int × Nat) : Int := ratio.1 * (common / ratio.2 : Nat)
      let finish := last.ratio.map scaled
      let numerators := countFrom (scaled increment) finish sequenceLimit (scaled start)
      let places? : Option Nat := do
        let _ ← last.places
        return max (← first.places) (← step.places)
      let (_, width) := equalWidth first step last
      numerators.map fun numerator =>
        match format, places? with
        | some format, _ => format.write numerator common
        | none, some places => decimalText places (if equal then width else 0) numerator common
        | none, none =>
            (⟨[], ⟨[], 0, none⟩, 'g', []⟩ : NumberFormat).write numerator common
  | _, _ => []

def isNegative (argument : String) : Bool :=
  match argument.toList with
  | '-' :: c :: _ => c.isDigit || c = '.'
  | _ => false

def boundsOf (operands : List String) : Except String (Bound × Bound × Bound) := do
  let one : Bound := ⟨some (1, 1), some 0, 1⟩
  match ← operands.mapM Bound.ofText? with
  | [last] => return (one, one, last)
  | [first, last] => return (first, one, last)
  | [first, step, last] =>
      if step.ratio.any (·.1 = 0) then
        throw ("invalid Zero increment value: " ++ quoted (operands.getD 1 ""))
      return (first, step, last)
  | _ => throw ""

def sequenceNumbers : Utility := fun arguments => do
  let switches : Switches :=
    ⟨"w", "sf", [("separator", 's'), ("equal-width", 'w'), ("format", 'f')]⟩
  let positives := arguments.map fun argument =>
    if isNegative argument then "\x00" ++ argument else argument
  match switches.read true positives with
  | .error problem => misuse 1 problem
  | .ok given =>
      let operands := given.operands.map fun operand => operand.replace "\x00" ""
      match operands, operands.drop 3, boundsOf operands, (given.value? 'f').map
          NumberFormat.ofText? with
      | [], _, _, _ => misuse 1 "missing operand"
      | _, extra :: _, _, _ => misuse 1 s!"extra operand {quoted extra}"
      | _, _, _, some (.error problem) =>
          say problem
          return 1
      | _, _, .error problem, _ => misuse 1 problem
      | _, _, .ok (first, step, last), format =>
          if given.has 'f' && given.has 'w' then
            misuse 1 "format string may not be specified when printing equal width strings"
          else
            let format := format.bind Except.toOption
            let texts := sequenceTexts (given.has 'w') format first step last
            let separator := (given.value? 's').getD "\n"
            if !texts.isEmpty then emitText (separator.intercalate texts ++ "\n")
            return 0

end PackageClosure.Shell.Utility
