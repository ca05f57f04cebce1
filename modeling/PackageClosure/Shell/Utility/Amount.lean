import PackageClosure.Shell.Utility.Basic

set_option autoImplicit false

namespace PackageClosure.Shell.Utility

inductive AmountError where
  | malformed
  | stray
  | tooLarge
  deriving DecidableEq

namespace Amount

def isSpace (c : Char) : Bool := c = ' ' || (9 ≤ c.toNat && c.toNat ≤ 13)

def powerOf? (letter : Char) : Option Nat :=
  match letter with
  | 'k' | 'K' => some 1
  | 'm' | 'M' => some 2
  | 'g' | 'G' => some 3
  | 't' | 'T' => some 4
  | 'P' => some 5
  | 'E' => some 6
  | 'Z' => some 7
  | 'Y' => some 8
  | 'R' => some 9
  | 'Q' => some 10
  | _ => none

-- The factor of a unit. The units that are known are given by their letters; a zero among them
-- means that powers may be those of a thousand.
def factor? (units : String) (unit : List Char) : Option Nat :=
  match unit with
  | [] => some 1
  | letter :: more =>
      if letter = '0' || !units.contains letter then none
      else
        match letter, powerOf? letter, more with
        | 'b', _, [] => some 512
        | 'B', _, [] => some 1024
        | 'c', _, [] => some 1
        | 'w', _, [] => some 2
        | _, some power, [] => some (Nat.pow 1024 power)
        | _, some power, ['i', 'B'] =>
            if units.contains '0' then some (Nat.pow 1024 power) else none
        | _, some power, ['B'] => if units.contains '0' then some (Nat.pow 1000 power) else none
        | _, some power, ['D'] => if units.contains '0' then some (Nat.pow 1000 power) else none
        | _, _, _ => none

def digits (anyBase : Bool) (text : List Char) : Option (Nat × List Char) :=
  let isHexadecimal (c : Char) : Bool :=
    c.isDigit || ('a' ≤ c && c ≤ 'f') || ('A' ≤ c && c ≤ 'F')
  let isOctal (c : Char) : Bool := '0' ≤ c && c ≤ '7'
  let hexadecimal : List Char → Nat := fun digits =>
    digits.foldl (fun sum c => 16 * sum +
      (if c.isDigit then c.toNat - 48 else (c.toLower.toNat - 97) + 10)) 0
  let spanned (accepts : Char → Bool) (value : List Char → Nat) (text : List Char) :
      Option (Nat × List Char) :=
    let (digits, rest) := text.span accepts
    if digits.isEmpty then none else some (value digits, rest)
  let decimal := spanned Char.isDigit (Nat.ofDigitChars 10 · 0) text
  if !anyBase then decimal
  else
    match text with
    | '0' :: 'x' :: rest | '0' :: 'X' :: rest =>
        (spanned isHexadecimal hexadecimal rest).getD (0, text.drop 1)
    | '0' :: rest => (spanned isOctal (Nat.ofDigitChars 8 · 0) ('0' :: rest)).getD (0, rest)
    | _ => decimal

def read (anyBase : Bool) (units : String) (text : List Char) : Except AmountError Int := do
  let text := text.dropWhile isSpace
  let negative := text.head? = some '-'
  let unsigned := if negative || text.head? = some '+' then text.drop 1 else text
  let (value, unit) ← match digits anyBase unsigned with
    | some found => pure found
    | none =>
        if text.head?.any fun letter => letter ≠ '0' && units.contains letter then
          pure (1, text)
        else throw .malformed
  match factor? units unit with
  | none => throw .stray
  | some factor =>
      let whole : Int := if negative then -(value * factor) else value * factor
      if Nat.pow 2 64 ≤ value * factor then throw .tooLarge else return whole

def between (least most : Int) (units words text : String) : Except String Int :=
  let wrong (cause : String) : Except String Int := .error s!"{words}: {quoted text}{cause}"
  match read false units text.toList with
  | .error .tooLarge => wrong ": Value too large for defined data type"
  | .error _ => wrong ""
  | .ok value =>
      if least ≤ value && value ≤ most then .ok value
      else if 0 ≤ least && value < 0 then wrong ""
      else if 1073741823 < value || value < -1073741824 then
        wrong ": Value too large for defined data type"
      else wrong ": Numerical result out of range"

def largest : Int := 9223372036854775807

def largestUnsigned : Int := 18446744073709551615

def count (least : Nat) (units words text : String) : Except String Nat :=
  (between least largestUnsigned units words text).map Int.toNat

end Amount

end PackageClosure.Shell.Utility
