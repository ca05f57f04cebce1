import PackageClosure.Text.Split

set_option autoImplicit false

namespace PackageClosure.Shell

structure Moment where
  year : Int
  month : Nat
  day : Nat
  hour : Nat
  minute : Nat
  second : Nat
  nanosecond : Nat
deriving DecidableEq

namespace Moment

def billion : Int := 1000000000

-- The number of days from the beginning of 1970 to a day. Years are taken to begin in March.
def daysTo (year : Int) (month day : Nat) : Int :=
  let year := if month ≤ 2 then year - 1 else year
  let era := Int.fdiv year 400
  let yearOfEra := year - era * 400
  let dayOfYear := (153 * ((month + 9) % 12) + 2) / 5 + day - 1
  era * 146097 + yearOfEra * 365 + yearOfEra / 4 - yearOfEra / 100 + (dayOfYear : Int) - 719468

def dateAfter (days : Int) : Int × Nat × Nat :=
  let days := days + 719468
  let era := Int.fdiv days 146097
  let dayOfEra := (days - era * 146097).toNat
  let yearOfEra := (dayOfEra - dayOfEra / 1460 + dayOfEra / 36524 - dayOfEra / 146096) / 365
  let dayOfYear := dayOfEra - (365 * yearOfEra + yearOfEra / 4 - yearOfEra / 100)
  let shifted := (5 * dayOfYear + 2) / 153
  let month := if shifted < 10 then shifted + 3 else shifted - 9
  let year : Int := yearOfEra + era * 400
  (if month ≤ 2 then year + 1 else year, month, dayOfYear - (153 * shifted + 2) / 5 + 1)

def ofTime (time : Int) : Moment :=
  let seconds := Int.fdiv time billion
  let days := Int.fdiv seconds 86400
  let ofDay := (seconds - days * 86400).toNat
  let (year, month, day) := dateAfter days
  ⟨year, month, day, ofDay / 3600, ofDay / 60 % 60, ofDay % 60, (time - seconds * billion).toNat⟩

def days (moment : Moment) : Int := daysTo moment.year moment.month moment.day

-- The time of a moment. Months past the last of a year and days past the last of a month count on
-- into the next one.
def time (moment : Moment) : Int :=
  ((moment.days * 86400 + moment.hour * 3600 + moment.minute * 60 + moment.second) * billion)
    + moment.nanosecond

def weekDay (moment : Moment) : Nat := ((moment.days + 4) % 7).toNat

def yearDay (moment : Moment) : Nat := (moment.days - daysTo moment.year 1 1).toNat

def monthNames : List String :=
  ["January", "February", "March", "April", "May", "June", "July", "August", "September",
    "October", "November", "December"]

def dayNames : List String :=
  ["Sunday", "Monday", "Tuesday", "Wednesday", "Thursday", "Friday", "Saturday"]

def week (moment : Moment) : Int × Nat :=
  let thursday := moment.days - ((moment.days + 3) % 7) + 3
  let (year, _, _) := dateAfter thursday
  (year, (thursday - daysTo year 1 1).toNat / 7 + 1)

def padded (fill : Option Char) (width : Nat) (number : Int) : String :=
  let digits := (toString number.natAbs).toList
  let sign := if number < 0 then ['-'] else []
  match fill with
  | none => String.ofList (sign ++ digits)
  | some fill =>
      let missing := List.replicate (width - sign.length - digits.length) fill
      String.ofList (if fill = ' ' then missing ++ sign ++ digits else sign ++ missing ++ digits)

inductive Part where
  | number (fill : Char) (width : Nat) (value : Int)
  | text (value : String)
  | format (value : String)

def part? (moment : Moment) (letter : Char) : Option Part :=
  let hour := if moment.hour % 12 = 0 then 12 else moment.hour % 12
  let half := if moment.hour < 12 then "AM" else "PM"
  let dayName := dayNames.getD moment.weekDay ""
  let monthName := monthNames.getD (moment.month - 1) ""
  match letter with
  | 'Y' => some (.number '0' 4 moment.year)
  | 'C' => some (.number '0' 2 (Int.fdiv moment.year 100))
  | 'y' => some (.number '0' 2 (moment.year % 100))
  | 'G' => some (.number '0' 4 moment.week.1)
  | 'g' => some (.number '0' 2 (moment.week.1 % 100))
  | 'V' => some (.number '0' 2 moment.week.2)
  | 'm' => some (.number '0' 2 moment.month)
  | 'd' => some (.number '0' 2 moment.day)
  | 'e' => some (.number ' ' 2 moment.day)
  | 'j' => some (.number '0' 3 (moment.yearDay + 1))
  | 'U' => some (.number '0' 2 ((moment.yearDay + 7 - moment.weekDay) / 7))
  | 'W' => some (.number '0' 2 ((moment.yearDay + 7 - (moment.weekDay + 6) % 7) / 7))
  | 'H' => some (.number '0' 2 moment.hour)
  | 'k' => some (.number ' ' 2 moment.hour)
  | 'I' => some (.number '0' 2 hour)
  | 'l' => some (.number ' ' 2 hour)
  | 'M' => some (.number '0' 2 moment.minute)
  | 'S' => some (.number '0' 2 moment.second)
  | 'N' => some (.number '0' 9 moment.nanosecond)
  | 's' => some (.number '0' 1 (Int.fdiv moment.time billion))
  | 'q' => some (.number '0' 1 ((moment.month - 1) / 3 + 1))
  | 'u' => some (.number '0' 1 (if moment.weekDay = 0 then 7 else moment.weekDay))
  | 'w' => some (.number '0' 1 moment.weekDay)
  | 'p' => some (.text half)
  | 'P' => some (.text half.toLower)
  | 'a' => some (.text (dayName.take 3).toString)
  | 'A' => some (.text dayName)
  | 'b' | 'h' => some (.text (monthName.take 3).toString)
  | 'B' => some (.text monthName)
  | 'Z' => some (.text "UTC")
  | 'z' => some (.text "+0000")
  | 'n' => some (.text "\n")
  | 't' => some (.text "\t")
  | '%' => some (.text "%")
  | 'c' => some (.format "%a %b %e %H:%M:%S %Y")
  | 'D' | 'x' => some (.format "%m/%d/%y")
  | 'F' => some (.format "%Y-%m-%d")
  | 'r' => some (.format "%I:%M:%S %p")
  | 'R' => some (.format "%H:%M")
  | 'T' | 'X' => some (.format "%H:%M:%S")
  | _ => none

def Part.write (flags : List Char) (width : Nat) : Part → String
  | .number usual size value =>
      let fill := match (flags.filter "-_0+".toList.contains).getLast? with
        | some '-' => none
        | some '_' => some ' '
        | some _ => some '0'
        | none => some usual
      padded fill (if width = 0 then size else width) value
  | .text value | .format value =>
      let value := if flags.contains '^' then value.toUpper
        else if flags.contains '#' then value.toUpper else value
      String.ofList (List.replicate (width - value.length) (if flags.contains '0' then '0' else ' '))
        ++ value

def format (moment : Moment) : Nat → List Char → String
  | 0, _ => ""
  | fuel + 1, text =>
      match text with
      | [] => ""
      | '%' :: rest =>
          let (flags, after) := rest.span "-_0^#+".toList.contains
          let (digits, after) := after.span Char.isDigit
          let width := Nat.ofDigitChars 10 digits 0
          let (colons, after) := after.span (· = ':')
          let after := match after with
            | 'E' :: more | 'O' :: more => more
            | _ => after
          match after with
          | 'z' :: more =>
              let zone := match colons.length with
                | 0 => "+0000"
                | 1 => "+00:00"
                | 2 => "+00:00:00"
                | _ => "+00"
              zone ++ format moment fuel more
          | 'N' :: more =>
              let digits := padded (some '0') 9 moment.nanosecond
              let shown := if flags.contains '-' then
                  String.ofList (digits.toList.reverse.dropWhile (· = '0')).reverse
                else if width = 0 then digits else (digits.take width).toString
              (if shown.isEmpty then "0" else shown) ++ format moment fuel more
          | letter :: more =>
              let written := match moment.part? letter with
                | some (.format inner) =>
                    Part.write flags width (.text (format moment fuel inner.toList))
                | some part => part.write flags width
                | none => String.ofList ('%' :: rest.take (rest.length - more.length))
              written ++ format moment fuel more
          | [] => String.ofList ('%' :: rest)
      | c :: rest => String.singleton c ++ format moment fuel rest

def write (moment : Moment) (text : String) : String :=
  moment.format (2 * text.length + 64) text.toList

end Moment

inductive DateToken where
  | number (sign : Option Bool) (digits : List Char)
  | word (letters : List Char)
  | mark (c : Char)
deriving DecidableEq

namespace DateToken

-- The parts of a text. A sign before a number belongs to it if it follows a blank.
def scan : Nat → Bool → List Char → List DateToken
  | 0, _, _ => []
  | fuel + 1, afterBlank, text =>
      match text with
      | [] => []
      | c :: rest =>
          if c = ' ' || c = '\t' || c = '\n' || c = ',' then scan fuel true rest
          else if c.isDigit then
            let (digits, after) := text.span Char.isDigit
            .number none digits :: scan fuel false after
          else if (c = '-' || c = '+') && afterBlank && (rest.dropWhile (· = ' ')).head?.any
              Char.isDigit then
            let (digits, after) := (rest.dropWhile (· = ' ')).span Char.isDigit
            .number (some (c = '+')) digits :: scan fuel false after
          else if c.isAlpha then
            let (letters, after) := text.span Char.isAlpha
            .word (letters.map Char.toLower) :: scan fuel false after
          else .mark c :: scan fuel false rest

end DateToken

structure DateReader where
  moment : Moment
  hasDate : Bool
  hasTime : Bool
  months : Int
  shift : Int

namespace DateReader

def value (digits : List Char) : Nat := Nat.ofDigitChars 10 digits 0

def withDate (reader : DateReader) (year : Int) (month day : Nat) : Option DateReader :=
  let leap := year % 4 = 0 && (year % 100 ≠ 0 || year % 400 = 0)
  let most := if month = 2 then if leap then 29 else 28
    else if [4, 6, 9, 11].contains month then 30 else 31
  if reader.hasDate || month = 0 || 12 < month || day = 0 || most < day then none
  else some { reader with moment := { reader.moment with year, month, day }, hasDate := true }

def yearOf (digits : List Char) : Int :=
  let number := value digits
  if digits.length ≤ 2 then if number < 69 then 2000 + number else 1900 + number else number

def withTime (reader : DateReader) (hour minute second nanosecond : Nat) : Option DateReader :=
  if reader.hasTime || 23 < hour || 59 < minute || 60 < second then none
  else some { reader with
    moment := { reader.moment with hour, minute, second, nanosecond }, hasTime := true }

def month? (letters : List Char) : Option Nat :=
  let name := String.ofList letters
  if name.length < 3 then none
  else (Moment.monthNames.findIdx? fun month => month.toLower.startsWith name).map (· + 1)

def weekDay? (letters : List Char) : Option Nat :=
  let name := String.ofList letters
  if name.length < 3 then none
  else Moment.dayNames.findIdx? fun day => day.toLower.startsWith name

def unit? (letters : List Char) : Option (Int × Int) :=
  let name := String.ofList letters
  let singular := if name.endsWith "s" then (name.dropEnd 1).toString else name
  match singular with
  | "year" => some (12, 0)
  | "month" => some (1, 0)
  | "fortnight" => some (0, 14 * 86400)
  | "week" => some (0, 7 * 86400)
  | "day" => some (0, 86400)
  | "hour" => some (0, 3600)
  | "minute" | "min" => some (0, 60)
  | "second" | "sec" => some (0, 1)
  | _ => none

def shifted (reader : DateReader) (count : Int) (unit : Int × Int) : DateReader :=
  { reader with
    months := reader.months + count * unit.1
    shift := reader.shift + count * unit.2 * Moment.billion }

def fraction (digits : List Char) : Nat :=
  value ((digits ++ List.replicate 9 '0').take 9)

def zoned (reader : DateReader) (positive : Bool) (minutes : Nat) : DateReader :=
  let seconds : Int := (minutes : Int) * 60
  { reader with
    shift := reader.shift + (if positive then -seconds else seconds) * Moment.billion }

def afterTime (reader : DateReader) : List DateToken → Option (DateReader × List DateToken)
  | .word half :: rest =>
      let hour := reader.moment.hour
      let moved (hour : Nat) : Option (DateReader × List DateToken) :=
        some ({ reader with moment := { reader.moment with hour } }, rest)
      if half = "am".toList then if hour = 0 || 12 < hour then none else moved (hour % 12)
      else if half = "pm".toList then
        if hour = 0 || 12 < hour then none else moved (hour % 12 + 12)
      else some (reader, .word half :: rest)
  | .mark sign :: .number none hours :: .mark ':' :: .number none minutes :: rest =>
      if sign = '+' || sign = '-' then
        some (reader.zoned (sign = '+') (value hours * 60 + value minutes), rest)
      else none
  | .number (some positive) hours :: .mark ':' :: .number none minutes :: rest =>
      some (reader.zoned positive (value hours * 60 + value minutes), rest)
  | .mark sign :: .number none digits :: rest =>
      if (sign = '+' || sign = '-') && (digits.length = 2 || digits.length = 4) then
        let minutes := if digits.length = 2 then value digits * 60
          else value (digits.take 2) * 60 + value (digits.drop 2)
        some (reader.zoned (sign = '+') minutes, rest)
      else some (reader, .mark sign :: .number none digits :: rest)
  | tokens => some (reader, tokens)

def read (now : Int) : Nat → DateReader → List DateToken → Option DateReader
  | 0, _, _ => none
  | fuel + 1, reader, tokens =>
      match tokens with
      | [] => some reader
      | .number none hour :: .mark ':' :: .number none minute :: .mark ':' ::
          .number none second :: .mark '.' :: .number none digits :: rest => do
          let timed ← reader.withTime (value hour) (value minute) (value second) (fraction digits)
          let (reader, rest) ← timed.afterTime rest
          read now fuel reader rest
      | .number none hour :: .mark ':' :: .number none minute :: .mark ':' ::
          .number none second :: rest => do
          let timed ← reader.withTime (value hour) (value minute) (value second) 0
          let (reader, rest) ← timed.afterTime rest
          read now fuel reader rest
      | .number none hour :: .mark ':' :: .number none minute :: rest => do
          let timed ← reader.withTime (value hour) (value minute) 0 0
          let (reader, rest) ← timed.afterTime rest
          read now fuel reader rest
      | .number none first :: .mark '-' :: .number none month :: .mark '-' :: .number none day ::
          rest => do
          let rest := match rest with
            | .word ['t'] :: more => more
            | _ => rest
          read now fuel (← reader.withDate (yearOf first) (value month) (value day)) rest
      | .number none first :: .mark '/' :: .number none second :: .mark '/' ::
          .number none third :: rest => do
          let dated ← if 2 < first.length
            then reader.withDate (yearOf first) (value second) (value third)
            else reader.withDate (yearOf third) (value first) (value second)
          read now fuel dated rest
      | .number none first :: .mark '/' :: .number none second :: rest => do
          let dated ← reader.withDate reader.moment.year (value first) (value second)
          read now fuel dated rest
      | .number sign digits :: .word letters :: rest =>
          let count : Int := if sign = some false then -(value digits : Int) else value digits
          match unit? letters, month? letters, sign, letters with
          | some unit, _, _, _ =>
              match rest with
              | .word ['a', 'g', 'o'] :: rest => read now fuel (reader.shifted (-count) unit) rest
              | _ => read now fuel (reader.shifted count unit) rest
          | none, some month, none, _ =>
              match rest with
              | .number none year :: .mark mark :: more => do
                  if mark = ':' then
                    let dated ← reader.withDate reader.moment.year month (value digits)
                    read now fuel dated rest
                  else
                    let dated ← reader.withDate (yearOf year) month (value digits)
                    read now fuel dated (.mark mark :: more)
              | .number none year :: rest => do
                  read now fuel (← reader.withDate (yearOf year) month (value digits)) rest
              | _ => do
                  read now fuel (← reader.withDate reader.moment.year month (value digits)) rest
          | none, none, none, ['a', 'm'] | none, none, none, ['p', 'm'] => do
              let timed ← reader.withTime (value digits) 0 0 0
              let (reader, rest) ← timed.afterTime (.word letters :: rest)
              read now fuel reader rest
          | _, _, _, _ =>
              if digits.length = 8 && sign.isNone then do
                let dated ← reader.withDate (value (digits.take 4))
                  (value ((digits.drop 4).take 2)) (value (digits.drop 6))
                read now fuel dated (.word letters :: rest)
              else none
      | .number none digits :: rest =>
          if digits.length = 8 then do
            let dated ← reader.withDate (value (digits.take 4)) (value ((digits.drop 4).take 2))
              (value (digits.drop 6))
            read now fuel dated rest
          else if digits.length = 4 && reader.hasDate && reader.hasTime then
            read now fuel { reader with moment := { reader.moment with year := value digits } } rest
          else if digits.length ≤ 2 then do
            read now fuel (← reader.withTime (value digits) 0 0 0) rest
          else if digits.length = 4 then do
            let timed ← reader.withTime (value (digits.take 2)) (value (digits.drop 2)) 0 0
            read now fuel timed rest
          else none
      | .word letters :: rest =>
          match String.ofList letters, month? letters, unit? letters with
          | "now", _, _ | "today", _, _ | "utc", _, _ | "gmt", _, _ | "z", _, _ =>
              read now fuel reader rest
          | "tomorrow", _, _ => read now fuel (reader.shifted 1 (0, 86400)) rest
          | "yesterday", _, _ => read now fuel (reader.shifted (-1) (0, 86400)) rest
          | "noon", _, _ => do read now fuel (← reader.withTime 12 0 0 0) rest
          | "midnight", _, _ => do read now fuel (← reader.withTime 0 0 0 0) rest
          | "next", _, _ | "last", _, _ =>
              match rest with
              | .word unit :: rest => do
                  let count : Int := if letters = "next".toList then 1 else -1
                  read now fuel (reader.shifted count (← unit? unit)) rest
              | _ => none
          | _, some month, _ =>
              match rest with
              | .number none day :: .number none year :: .mark ':' :: more => do
                  let dated ← reader.withDate reader.moment.year month (value day)
                  read now fuel dated (.number none year :: .mark ':' :: more)
              | .number none day :: .number none year :: rest => do
                  read now fuel (← reader.withDate (yearOf year) month (value day)) rest
              | .number none day :: rest => do
                  read now fuel (← reader.withDate reader.moment.year month (value day)) rest
              | _ => none
          | _, none, some unit => read now fuel (reader.shifted 1 unit) rest
          | _, none, none =>
              match weekDay? letters with
              | some wanted =>
                  if reader.hasDate then read now fuel reader rest
                  else
                    let ahead := (wanted + 7 - reader.moment.weekDay) % 7
                    let timeless := { reader with hasDate := true }
                    read now fuel (timeless.shifted ahead (0, 86400)) rest
              | none => none
      | _ => none

-- The time that has been read. A date without a time means its beginning.
def time (reader : DateReader) : Int :=
  let moment :=
    if reader.hasTime || !reader.hasDate then reader.moment
    else { reader.moment with hour := 0, minute := 0, second := 0, nanosecond := 0 }
  let months := (moment.month : Int) - 1 + reader.months
  let moved : Moment :=
    { moment with
      year := moment.year + Int.fdiv months 12
      month := (months % 12).toNat + 1 }
  moved.time + reader.shift

def seconds? (text : List Char) : Option Int := do
  let (negative, rest) := match text with
    | '-' :: rest => (true, rest)
    | '+' :: rest => (false, rest)
    | _ => (false, text)
  let (whole, rest) := rest.span Char.isDigit
  let part ← match rest with
    | [] => some 0
    | '.' :: digits => if digits.all Char.isDigit then some (fraction digits) else none
    | _ => none
  if whole.isEmpty then none
  else
    let size : Int := (value whole : Int) * Moment.billion + part
    return if negative then -size else size

end DateReader

def timeOfText? (now : Int) (text : String) : Option Int :=
  match text.toList.dropWhile (· = ' ') with
  | '@' :: rest => DateReader.seconds? rest
  | letters =>
      let tokens := DateToken.scan (letters.length + 1) true letters
      let start : DateReader := ⟨Moment.ofTime now, tokens.isEmpty, false, 0, 0⟩
      (DateReader.read now (tokens.length + 2) start tokens).map DateReader.time

def timeOfDigits? (now : Int) (text : String) : Option Int := do
  let (digits, rest) := text.toList.span Char.isDigit
  let second ← match rest with
    | [] => some 0
    | '.' :: second => if second.length = 2 && second.all Char.isDigit
        then some (DateReader.value second) else none
    | _ => none
  let year ← match digits.length with
    | 8 => some (Moment.ofTime now).year
    | 10 => some (DateReader.yearOf (digits.take 2))
    | 12 => some (DateReader.value (digits.take 4) : Int)
    | _ => none
  let fields := digits.drop (digits.length - 8)
  let field (index : Nat) : Nat := DateReader.value ((fields.drop (2 * index)).take 2)
  let start : DateReader := ⟨⟨year, 1, 1, 0, 0, 0, 0⟩, false, false, 0, 0⟩
  let dated ← start.withDate year (field 0) (field 1)
  let timed ← dated.withTime (field 2) (field 3) second 0
  return timed.time

end PackageClosure.Shell
