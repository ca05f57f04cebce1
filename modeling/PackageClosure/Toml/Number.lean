import PackageClosure.Toml.Scanner
import PackageClosure.Toml.Value
import PackageClosure.Toml.Quoted

set_option autoImplicit false

namespace PackageClosure.Toml

open Scanner

namespace Number

def isDigit (c : Char) : Bool := '0' ≤ c && c ≤ '9'

def valueOf (base : Nat) (digits : List Char) : Nat :=
  digits.foldl (fun number c => number * base + (Quoted.hexDigitValue? c).getD 0) 0

def moreDigits (isDigit : Char → Bool) : List Char → Option (List Char × List Char)
  | '_' :: c :: rest => do
      if !isDigit c then none
      let (digits, left) ← moreDigits isDigit rest
      return (c :: digits, left)
  | ['_'] => none
  | c :: rest =>
      if isDigit c then do
        let (digits, left) ← moreDigits isDigit rest
        return (c :: digits, left)
      else some ([], c :: rest)
  | [] => some ([], [])

def digits (isDigit : Char → Bool) : Scanner (List Char) := do
  let first ← satisfying isDigit
  return first :: (← moreDigits isDigit)

def decimalDigits : Scanner (List Char) := do
  let first ← satisfying isDigit
  if first = '0' then return [first] else return first :: (← moreDigits isDigit)

def sign : Scanner (Option Bool) := optional do
  return (← satisfying fun c => c = '+' || c = '-') = '-'

def isDigitOf (base : Nat) (c : Char) : Bool :=
  match Quoted.hexDigitValue? c with
  | some value => value < base
  | none => false

def based (base : Nat) : Scanner Value := do
  let _ ← take
  let _ ← take
  let read ← digits (isDigitOf base)
  liftM (Value.integer? (valueOf base read))

def exponent : Scanner Int := do
  let _ ← satisfying fun c => c = 'e' || c = 'E'
  let negative := (← sign).getD false
  let read ← digits isDigit
  let size : Int := valueOf 10 read
  return if negative then -size else size

def fraction : Scanner (List Char) := do
  char '.'
  digits isDigit

-- A floating point number of the digits, scaled by a power of ten. It may be too small, but not
-- too great.
def floating (negative : Bool) (read : List Char) (power : Int) : Scanner Value := do
  let number := Binary64.ofDecimal negative (valueOf 10 read) power
  if number = Binary64.infinity false then failure
  return .float number

def decimal : Scanner Value := do
  let negative := (← sign).getD false
  let whole ← decimalDigits
  match ← next? with
  | some '.' =>
      let parts ← fraction
      let power := (← next?).any fun c => c = 'e' || c = 'E'
      let shift ← if power then exponent else pure 0
      floating negative (whole ++ parts) (shift - parts.length)
  | some 'e' | some 'E' => floating negative whole (← exponent)
  | _ =>
      let size : Int := valueOf 10 whole
      liftM (Value.integer? (if negative then -size else size))

def special : Scanner Value := do
  let negative := (← sign).getD false
  (do chars ['i', 'n', 'f']; return .float (Binary64.infinity negative)) <|>
    (do chars ['n', 'a', 'n']; return .float (Binary64.notANumber negative))

end Number

def twoDigits (limit : Nat) : Scanner Nat := do
  let number := Number.valueOf 10 (← exactly Number.isDigit 2)
  if number ≤ limit then return number else failure

-- A date as it is written. Whether the month has that many days is another matter.
def Date.read : Scanner Date := do
  let year := Number.valueOf 10 (← exactly Number.isDigit 4)
  char '-'
  let month ← twoDigits 12
  char '-'
  let day ← twoDigits 31
  if month = 0 ∨ day = 0 then failure else return ⟨year, month, day⟩

def readFraction : Scanner Nat := do
  char '.'
  let first ← satisfying Number.isDigit
  let digits := (first :: (← run Number.isDigit)).take 9
  return Number.valueOf 10 digits * Nat.pow 10 (9 - digits.length)

def Time.read : Scanner Time := do
  let hour ← twoDigits 23
  char ':'
  let minute ← twoDigits 59
  char ':'
  let second ← twoDigits 60
  let nanosecond ← if (← next?) = some '.' then readFraction else pure 0
  return ⟨hour, minute, second, nanosecond⟩

def Offset.distance : Scanner Int := do
  let hours ← twoDigits 23
  char ':'
  return hours * 60 + (← twoDigits 59)

def Offset.read : Scanner Offset := do
  match ← take with
  | 'Z' | 'z' => return .utc
  | '+' => return .minutes (← distance)
  | '-' => return .minutes (-(← distance))
  | _ => failure

def Datetime.read : Scanner Datetime :=
  (do
    let day ← Date.read
    let clock ← optional do
      let _ ← satisfying fun c => c = 'T' || c = 't' || c = ' '
      return (← Time.read, ← optional Offset.read)
    match clock with
    | none => return .date day
    | some (clock, none) => return .dateTime day clock
    | some (clock, some zone) => return .offset day clock zone) <|>
  (do return .time (← Time.read))

def Value.readNumber : Scanner Value :=
  (do return .datetime (← Datetime.read)) <|> do
    match ← rest with
    | '0' :: 'x' :: _ => Number.based 16
    | '0' :: 'o' :: _ => Number.based 8
    | '0' :: 'b' :: _ => Number.based 2
    | _ => Number.decimal <|> Number.special

end PackageClosure.Toml
