import PackageClosure.Shell.Awk.Machine
import PackageClosure.Shell.Calendar
import PackageClosure.Shell.Elementary

set_option autoImplicit false

namespace PackageClosure.Shell.Awk

-- A part of a text. One that begins before the first character is longer by that much.
def substring (text : Text) (start : Int) (count : Option Int) : Text :=
  let start := narrow start
  let count := (count.map narrow).getD text.length
  if 0 < start then (text.drop (start - 1).toNat).take count.toNat
  else
    let earlier := narrow (-start)
    if earlier < 0 then [] else text.take (narrow (count + earlier)).toNat

def positionIn (part : Text) : Text → Nat → Nat
  | [], position => if part.isEmpty then position else 0
  | c :: rest, position =>
      if part.isPrefixOf (c :: rest) then position else positionIn part rest (position + 1)

def Key.ofNumber? (quantity : Quantity) : Option Key := do
  let value ← quantity.integer?
  let bound : Int := Nat.pow 2 31
  if -bound ≤ value && value < bound then some (.number value) else none

def calculate (operation : Arithmetic) (left right : Quantity) : Quantity :=
  match operation with
  | .add => left.add precision right
  | .subtract => left.subtract precision right
  | .multiply => left.multiply precision right
  | .divide => left.divide precision right
  | .remainder => left.remainder precision right
  | .power => left.power precision right

def Comparison.holds : Comparison → Ordering → Bool
  | .less, order => order = .lt
  | .lessEqual, order => order ≠ .gt
  | .equal, order => order = .eq
  | .different, order => order ≠ .eq
  | .greater, order => order = .gt
  | .greaterEqual, order => order ≠ .lt

def nextChance (number : Nat) : Nat := (number * 25214903917 + 11) % Nat.pow 2 48

namespace Run

def random : Run Quantity := do
  modify fun machine => { machine with chance := nextChance machine.chance }
  return Quantity.scaled precision false (← get).chance 1 (-48)

def now : Run Int := return (← get).state.disk.time / Moment.billion

-- Begins another series of random numbers. Returns what the one before was begun with.
def plant (value : Value) : Run Value := do
  let before := (← get).seed
  let start := (bounded value.toNumber % Nat.pow 2 48).toNat
  modify fun machine => { machine with seed := value, chance := nextChance start }
  return before

def timeText (format : Text) (time : Int) : Text :=
  innerText ((Moment.ofTime (time * Moment.billion)).write (outerText format))

def timeOf (text : Text) : Int :=
  let words := Separator.blanks.divide text
  let isNumber (word : Text) : Bool :=
    match word with
    | '-' :: rest | '+' :: rest => rest.head?.any Char.isDigit
    | word => word.head?.any Char.isDigit
  match (words.takeWhile isNumber).map fun word => bounded (leadingNumber word) with
  | year :: month :: day :: hour :: minute :: second :: _ =>
      let months := year * 12 + (month - 1)
      let days := Moment.daysTo (months / 12) ((months % 12).toNat + 1) 1 + (day - 1)
      ((days * 24 + hour) * 60 + minute) * 60 + second
  | _ => -1

def apply (function : Builtin) (values : List Value) : Run Value := do
  let numbers := values.map Value.toNumber
  let first := numbers.headD .zero
  let text (index : Nat) : Run Text := toText ((values[index]?).getD .unset)
  match function with
  | .length => return .ofNat (← text 0).length
  | .index => do return .ofNat (positionIn (← text 1) (← text 0) 1)
  | .substring => do
      return .text (substring (← text 0) (bounded ((numbers[1]?).getD .zero))
        ((numbers[2]?).map bounded))
  | .format => do
      let template ← text 0
      let filled := Template.filled (← writer "CONVFMT") template (values.drop 1)
      match filled.failure with
      | none => return .text filled.text
      | some .tooFewValues =>
          failRunning s!"not enough arguments passed to sprintf(\"{outerText template}\")"
      | some (.improper position) =>
          let place := outerText template
          failRunning s!"improper conversion(number {position}) in sprintf(\"{place}\")"
  | .sine => return .number (first.circular precision false)
  | .cosine => return .number (first.circular precision true)
  | .arcTangent => return .number (first.arcTangent precision ((numbers[1]?).getD .zero))
  | .exponential => return .number (first.exponential precision)
  | .logarithm => return .number (first.logarithm precision)
  | .truncate => return .number (first.truncate precision)
  | .squareRoot => return .number (first.squareRoot precision)
  | .random => do return .number (← random)
  | .seed =>
      match values.head? with
      | some value => plant value
      | none => do plant (.ofInt (← now))
  | .close => do
      match ← close (← text 0) with
      | some code => return .ofNat code
      | none => return .ofInt (-1)
  | .execute => do
      flushAll
      return .ofNat (codeOf (← command (← text 0)))
  | .upper => do return .text ((← text 0).map Char.toUpper)
  | .lower => do return .text ((← text 0).map Char.toLower)
  | .flush => do
      if values.isEmpty then
        flushPrinted
        return .ofNat 0
      else
        let name ← text 0
        if isOutput name || name = "/dev/stderr".toList then
          flushPrinted
          return .ofNat 0
        else
          let outlets := (← get).outlets
          if outlets.any (·.name = name) then
            let outlets ← outlets.mapM fun outlet =>
              if outlet.name = name then flush outlet else pure outlet
            modify fun machine => { machine with outlets }
            return .ofNat 0
          else return .ofInt (-1)
  | .time => do return .ofInt (← now)
  | .timeText => do
      let given ← text 0
      let format := if given.isEmpty then "%c".toList else given
      let time ← match numbers[1]? with
        | some number => pure (bounded number)
        | none => now
      return .text (timeText format time)
  | .timeOf => do return .ofInt (timeOf (← text 0))
  | .locate | .divide | .replace _ => return .unset

end Run

end PackageClosure.Shell.Awk
