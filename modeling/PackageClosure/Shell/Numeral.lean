import PackageClosure.Shell.Quantity

set_option autoImplicit false

namespace PackageClosure.Shell

namespace Numeral

def fixed (places : Nat) (numerator denominator : Nat) : List Char × List Char :=
  let digits := Nat.toDigits 10 (nearestQuotient (numerator * Nat.pow 10 places) denominator)
  let digits := List.replicate (places + 1 - digits.length) '0' ++ digits
  (digits.take (digits.length - places), digits.drop (digits.length - places))

def floorLog10 (numerator denominator : Nat) : Int :=
  let lengthOf (number : Nat) : Int := (Nat.toDigits 10 number).length
  let guess := lengthOf numerator - lengthOf denominator
  let reached :=
    if 0 ≤ guess then denominator * Nat.pow 10 guess.toNat ≤ numerator
    else denominator ≤ numerator * Nat.pow 10 (-guess).toNat
  if reached then guess else guess - 1

def scientific (places : Nat) (numerator denominator : Nat) : List Char × Int :=
  if numerator = 0 then (List.replicate (places + 1) '0', 0)
  else
    let exponent := floorLog10 numerator denominator
    let shift : Int := places - exponent
    let number :=
      if 0 ≤ shift then nearestQuotient (numerator * Nat.pow 10 shift.toNat) denominator
      else nearestQuotient numerator (denominator * Nat.pow 10 (-shift).toNat)
    let digits := Nat.toDigits 10 number
    if digits.length = places + 2 then (digits.take (places + 1), exponent + 1)
    else (digits, exponent)

def withPoint (always : Bool) (before after : List Char) : List Char :=
  before ++ if after.isEmpty && !always then [] else '.' :: after

def exponentText (letter : Char) (least : Nat) (exponent : Int) : List Char :=
  let digits := Nat.toDigits 10 exponent.natAbs
  letter :: (if exponent < 0 then '-' else '+') ::
    List.replicate (least - digits.length) '0' ++ digits

def trimZeros (digits : List Char) : List Char := (digits.reverse.dropWhile (· = '0')).reverse

def general (always : Bool) (precision : Nat) (numerator denominator : Nat) : List Char :=
  let places := if precision = 0 then 0 else precision - 1
  let (digits, exponent) := scientific places numerator denominator
  let trim (digits : List Char) : List Char := if always then digits else trimZeros digits
  if exponent < -4 || (places : Int) < exponent then
    withPoint always (digits.take 1) (trim (digits.drop 1)) ++ exponentText 'e' 2 exponent
  else
    let (before, after) := fixed ((places : Int) - exponent).toNat numerator denominator
    withPoint always before (trim after)

def hexadecimal (bits : Nat) (always : Bool) (places : Option Nat) (mantissa : Nat)
    (exponent : Int) : List Char :=
  let leading := if bits % 4 = 0 then 4 else bits % 4
  let shift := bits - 1 - mantissa.log2
  let whole := mantissa * Nat.pow 2 shift
  let low := bits - leading
  let digits := if mantissa = 0 then 0 else low / 4
  let power : Int := if mantissa = 0 then 0 else exponent - shift + low
  let number := if mantissa = 0 then 0 else whole
  let (number, kept) := match places with
    | some wanted =>
        if wanted < digits then
          (nearestQuotient number (Nat.pow 16 (digits - wanted)), wanted)
        else (number * Nat.pow 16 (wanted - digits), wanted)
    | none => (number, digits)
  let spelled := Nat.toDigits 16 number
  let spelled := List.replicate (kept + 1 - spelled.length) '0' ++ spelled
  let after := spelled.drop (spelled.length - kept)
  let after := if places.isNone then trimZeros after else after
  withPoint always (spelled.take (spelled.length - kept)) after ++ exponentText 'p' 1 power

def unsigned (bits : Nat) (conversion : Char) (always : Bool) (places : Option Nat)
    (quantity : Quantity) : List Char :=
  match quantity with
  | .infinite _ => "inf".toList
  | .undefined _ => "nan".toList
  | .finite _ mantissa exponent =>
      let (numerator, denominator) := Quantity.ratio false mantissa exponent
      let size := numerator.toNat
      match conversion with
      | 'f' =>
          let (before, after) := fixed (places.getD 6) size denominator
          withPoint always before after
      | 'e' =>
          let (digits, exponent) := scientific (places.getD 6) size denominator
          withPoint always (digits.take 1) (digits.drop 1) ++ exponentText 'e' 2 exponent
      | 'a' => hexadecimal bits always places mantissa exponent
      | _ => general always (places.getD 6) size denominator

def write (bits : Nat) (flags : List Char) (width : Int) (places : Option Nat) (conversion : Char)
    (quantity : Quantity) : List Char :=
  let letter := conversion.toLower
  let text := unsigned bits letter (flags.contains '#') places quantity
  let finite := match quantity with
    | .finite _ _ _ => true
    | _ => false
  let text := if conversion.isUpper then text.map Char.toUpper else text
  let mark := if letter = 'a' && finite then if conversion.isUpper then "0X" else "0x" else ""
  let sign :=
    (if quantity.isNegative then ['-']
    else if flags.contains '+' then ['+']
    else if flags.contains ' ' then [' ']
    else []) ++ mark.toList
  let missing := width.natAbs - (sign.length + text.length)
  if flags.contains '-' || width < 0 then sign ++ text ++ List.replicate missing ' '
  else if flags.contains '0' && finite then sign ++ List.replicate missing '0' ++ text
  else List.replicate missing ' ' ++ sign ++ text

end Numeral

end PackageClosure.Shell
