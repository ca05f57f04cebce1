import PackageClosure.Toml.Number
import PackageClosure.Toml.Value

set_option autoImplicit false

namespace PackageClosure.Toml

def datetimeKey : String := "$__toml_private_datetime"

def Datetime.ofText? (text : String) : Option Datetime :=
  Scanner.whole Datetime.read text.toList

def Datetime.isValid : Datetime → Bool
  | .offset day _ _ | .dateTime day _ | .date day => day.isValid
  | .time _ => true

def Datetime.checked? (datetime : Datetime) : Option Datetime :=
  if datetime.isValid then some datetime else none

-- What a table that begins with the reserved key stands for. It has to be the text of a date or
-- time.
def Table.reserved? : Table → Option (Option Datetime)
  | (name, value) :: _ =>
      if name = datetimeKey then
        match value with
        | .string text => some ((Datetime.ofText? text).bind Datetime.checked?)
        | _ => some none
      else none
  | [] => none

namespace Value

mutual
def withDates : Value → Option Value
  | .array items => do return .array (← withDatesInside items)
  | .table entries =>
      match Table.reserved? entries with
      | some given => do return .datetime (← given)
      | none => do return .table (← withDatesBelow entries)
  | .datetime given => do return .datetime (← given.checked?)
  | value => some value

def withDatesInside : List Value → Option (List Value)
  | [] => some []
  | item :: rest => do return (← withDates item) :: (← withDatesInside rest)

def withDatesBelow : List (String × Value) → Option (List (String × Value))
  | [] => some []
  | (name, value) :: rest => do return (name, ← withDates value) :: (← withDatesBelow rest)
end

end Value

end PackageClosure.Toml
