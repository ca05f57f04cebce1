import PackageClosure.Toml.Binary64
import PackageClosure.Toml.Datetime

set_option autoImplicit false

namespace PackageClosure.Toml

inductive Value where
  | string (text : String)
  | integer (number : Int64)
  | float (number : Binary64)
  | boolean (value : Bool)
  | datetime (datetime : Datetime)
  | array (items : List Value)
  | table (entries : List (String × Value))
deriving Inhabited

abbrev Table := List (String × Value)

inductive ValueSort where
  | string
  | integer
  | float
  | boolean
  | datetime
  | array
  | table
deriving DecidableEq, Repr

def ValueSort.text : ValueSort → String
  | .string => "string"
  | .integer => "integer"
  | .float => "float"
  | .boolean => "boolean"
  | .datetime => "datetime"
  | .array => "array"
  | .table => "table"

namespace Value

def sort : Value → ValueSort
  | .string _ => .string
  | .integer _ => .integer
  | .float _ => .float
  | .boolean _ => .boolean
  | .datetime _ => .datetime
  | .array _ => .array
  | .table _ => .table

def integer? (number : Int) : Option Value :=
  if -0x8000000000000000 ≤ number ∧ number < 0x8000000000000000 then
    some (.integer (Int64.ofInt number))
  else none

mutual
def distinctKeys : Value → Bool
  | .array items => distinctItems items
  | .table entries => decide (entries.map Prod.fst).Nodup && distinctEntries entries
  | _ => true

def distinctItems : List Value → Bool
  | [] => true
  | item :: rest => distinctKeys item && distinctItems rest

def distinctEntries : List (String × Value) → Bool
  | [] => true
  | (_, value) :: rest => distinctKeys value && distinctEntries rest
end

end Value

end PackageClosure.Toml
