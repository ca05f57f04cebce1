import PackageClosure.Shell.Awk.Value
import PackageClosure.Shell.Format

set_option autoImplicit false

namespace PackageClosure.Shell.Awk

namespace Template

inductive Failure where
  | tooFewValues
  | improper (position : Nat)

structure Filled where
  text : Text
  failure : Option Failure

def Filled.after (front : Text) (filled : Filled) : Filled :=
  { filled with text := front ++ filled.text }

-- The number of a conversion with a sign. Positive ones may be twice as large.
def signedWord (quantity : Quantity) : Int :=
  let half : Int := Nat.pow 2 63
  match quantity with
  | .undefined _ => -half
  | .infinite negative => if negative then 1 - half else 2 * half - 1
  | quantity =>
      let value := quantity.truncated?.getD 0
      if value < -half then 1 - half else min value (2 * half - 1)

def unsignedWord (quantity : Quantity) : Nat :=
  let half : Int := Nat.pow 2 63
  match quantity with
  | .undefined _ => half.toNat
  | .infinite negative => if negative then 1 else (2 * half - 1).toNat
  | quantity =>
      let value := quantity.truncated?.getD 0
      if 2 * half ≤ value then (2 * half - 1).toNat
      else if value ≤ -(2 * half) then 1
      else if value < -half then half.toNat
      else (value % (2 * half)).toNat

def shortWord (value : Int) : Int :=
  let rest := value % 65536
  if rest < 32768 then rest else rest - 65536

structure Conversion where
  flags : List Char
  width : Int
  places : Option Nat
  short : Bool
  letter : Char

namespace Conversion

def numeral (conversion : Conversion) (sign digits : List Char) : Text :=
  Utility.charsOf
    (Format.numeral conversion.flags conversion.width conversion.places sign digits)

def padded (conversion : Conversion) (text : Text) : Text :=
  Utility.charsOf (Format.padded conversion.flags conversion.width (Utility.bytesOf text))

def signed (conversion : Conversion) (quantity : Quantity) : Text :=
  let word := signedWord quantity
  let value := if conversion.short then shortWord word else word
  let sign :=
    if value < 0 then ['-']
    else if conversion.flags.contains '+' then ['+']
    else if conversion.flags.contains ' ' then [' ']
    else []
  conversion.numeral sign (Nat.toDigits 10 value.natAbs)

def unsigned (conversion : Conversion) (quantity : Quantity) : Text :=
  let word := unsignedWord quantity
  let value := if conversion.short then word % 65536 else word
  let marked := conversion.flags.contains '#' && value ≠ 0
  match conversion.letter with
  | 'o' =>
      let digits := Nat.toDigits 8 value
      conversion.numeral []
        (if marked && conversion.places.getD 0 ≤ digits.length then '0' :: digits else digits)
  | 'x' => conversion.numeral (if marked then ['0', 'x'] else []) (Nat.toDigits 16 value)
  | 'X' =>
      conversion.numeral (if marked then ['0', 'X'] else [])
        ((Nat.toDigits 16 value).map Char.toUpper)
  | _ => conversion.numeral [] (Nat.toDigits 10 value)

def character : Value → Char
  | .number quantity => Char.ofNat (bounded quantity % 256).toNat
  | .input letters =>
      match numberOf? letters with
      | some quantity => Char.ofNat (bounded quantity % 256).toNat
      | none => letters.headD '\x00'
  | .text letters => letters.headD '\x00'
  | .unset => '\x00'

def write? (conversion : Conversion) (writeNumber : Quantity → Text) (value : Value) :
    Option Text :=
  match conversion.letter with
  | 's' =>
      let text := value.toText writeNumber
      some (conversion.padded (conversion.places.elim text text.take))
  | 'c' =>
      let text := [character value]
      some (conversion.padded (conversion.places.elim text text.take))
  | 'd' | 'i' => some (conversion.signed value.toNumber)
  | 'o' | 'x' | 'X' | 'u' => some (conversion.unsigned value.toNumber)
  | letter =>
      if "efgEG".toList.contains letter then
        some (Numeral.write precision.bits conversion.flags conversion.width conversion.places
          letter value.toNumber)
      else none

end Conversion

def measured (measure : Option Format.Measure) (values : List Value) : Option Int × List Value :=
  match measure, values with
  | none, values => (none, values)
  | some (.fixed number), values => (some number, values)
  | some .taken, value :: rest => (some (narrow (bounded value.toNumber)), rest)
  | some .taken, [] => (some 0, [])

structure Place where
  flags : List Char
  width : Option Format.Measure
  places : Option Format.Measure
  rest : Text

def placeOf (text : Text) : Place :=
  let (flags, rest) := text.span fun c => "-+ #0".toList.contains c
  let (width, rest) := Format.measure? rest
  match rest with
  | '.' :: rest =>
      let (places, rest) := Format.measure? rest
      ⟨flags, width, some (places.getD (.fixed 0)), rest⟩
  | rest => ⟨flags, width, none, rest⟩

def fill (writeNumber : Quantity → Text) : Nat → Nat → Text → List Value → Filled
  | 0, _, _, _ => ⟨[], none⟩
  | fuel + 1, position, template, values =>
      match template with
      | [] => ⟨[], none⟩
      | '%' :: '%' :: rest => (fill writeNumber fuel position rest values).after ['%']
      | '%' :: rest =>
          let place := placeOf rest
          let (width, values) := measured place.width values
          let (places, values) := measured place.places values
          match values with
          | [] => ⟨[], some .tooFewValues⟩
          | value :: values =>
              let sizes := place.rest.takeWhile fun c => c = 'l' || c = 'h'
              match place.rest.drop sizes.length with
              | [] => ⟨[], some (.improper (position + 1))⟩
              | letter :: rest =>
                  let conversion : Conversion :=
                    ⟨place.flags, width.getD 0, (places.filter (0 ≤ ·)).map Int.toNat,
                      sizes.contains 'h', letter⟩
                  match conversion.write? writeNumber value with
                  | none => ⟨[], some (.improper (position + 1))⟩
                  | some text => (fill writeNumber fuel (position + 1) rest values).after text
      | c :: rest => (fill writeNumber fuel position rest values).after [c]

def filled (writeNumber : Quantity → Text) (template : Text) (values : List Value) : Filled :=
  fill writeNumber (template.length + 1) 0 template values

def number (template : Text) (quantity : Quantity) : Text :=
  (filled (fun _ => []) template [.number quantity]).text

end Template

end PackageClosure.Shell.Awk
