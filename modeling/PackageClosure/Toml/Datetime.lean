set_option autoImplicit false

namespace PackageClosure.Toml

structure Date where
  year : Nat
  month : Nat
  day : Nat
deriving DecidableEq, Repr

structure Time where
  hour : Nat
  minute : Nat
  second : Nat
  nanosecond : Nat
deriving DecidableEq, Repr

inductive Offset where
  | utc
  | minutes (east : Int)
deriving DecidableEq, Repr

inductive Datetime where
  | offset (day : Date) (clock : Time) (zone : Offset)
  | dateTime (day : Date) (clock : Time)
  | date (day : Date)
  | time (clock : Time)
deriving DecidableEq, Repr

def paddedDigits (width number : Nat) : List Char :=
  let digits := Nat.toDigits 10 number
  List.replicate (width - digits.length) '0' ++ digits

def isLeapYear (year : Nat) : Bool :=
  year % 4 = 0 && (year % 100 ≠ 0 || year % 400 = 0)

def daysInMonth (year month : Nat) : Nat :=
  if month = 2 then (if isLeapYear year then 29 else 28)
  else if month ∈ [4, 6, 9, 11] then 30
  else 31

def Date.isValid (date : Date) : Bool :=
  1 ≤ date.month && date.month ≤ 12 && 1 ≤ date.day && date.day ≤ daysInMonth date.year date.month

def Date.chars (date : Date) : List Char :=
  paddedDigits 4 date.year ++ '-' :: paddedDigits 2 date.month ++ '-' :: paddedDigits 2 date.day

def fractionChars (nanosecond : Nat) : List Char :=
  if nanosecond = 0 then []
  else '.' :: ((paddedDigits 9 nanosecond).reverse.dropWhile (· = '0')).reverse

def Time.chars (time : Time) : List Char :=
  paddedDigits 2 time.hour ++ ':' :: paddedDigits 2 time.minute ++ ':' ::
    paddedDigits 2 time.second ++ fractionChars time.nanosecond

def Offset.chars : Offset → List Char
  | .utc => ['Z']
  | .minutes east =>
      let minutes := east.natAbs
      (if east < 0 then '-' else '+') :: paddedDigits 2 (minutes / 60) ++ ':' ::
        paddedDigits 2 (minutes % 60)

def Datetime.chars : Datetime → List Char
  | .offset day clock zone => day.chars ++ 'T' :: clock.chars ++ zone.chars
  | .dateTime day clock => day.chars ++ 'T' :: clock.chars
  | .date day => day.chars
  | .time clock => clock.chars

def Datetime.text (datetime : Datetime) : String := String.ofList datetime.chars

end PackageClosure.Toml
