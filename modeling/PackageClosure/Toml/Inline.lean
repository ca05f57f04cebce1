import PackageClosure.Toml.Number

set_option autoImplicit false

namespace PackageClosure.Toml

open Scanner

def nestingLimit : Nat := 127

def isBlank (c : Char) : Bool := c = ' ' || c = '\t'

def blanks : Scanner Unit := skipRun isBlank

def lineBreak : Scanner Unit :=
  char '\n' <|> chars ['\r', '\n']

def comment : Scanner Unit := do
  char '#'
  skipRun Quoted.isPrintable

def gap : Scanner Unit := do
  let _ ← many ((do let _ ← satisfying isBlank) <|> lineBreak <|> comment)

abbrev Key := List String

def isBare (c : Char) : Bool := c.isAlphanum || c = '-' || c = '_'

def keyPart : Scanner String := do
  blanks
  let part ← Quoted.line <|> do
    let first ← satisfying isBare
    return first :: (← run isBare)
  blanks
  return String.ofList part

def Key.read : Scanner Key := do
  let key ← separated keyPart (char '.')
  if key.length ≤ nestingLimit then return key else failure

-- Adds a value under a key whose parts but the last name tables; what is missing of them is
-- added too. No key may be given twice.
def Table.add? (table : Table) (key : Key) (value : Value) : Option Table :=
  match key with
  | [] => none
  | [last] => if (table.lookup last).isSome then none else some (table ++ [(last, value)])
  | part :: next :: more =>
      match table.lookup part with
      | none => do return table ++ [(part, .table (← add? [] (next :: more) value))]
      | some (.table inner) => do
          let extended ← add? inner (next :: more) value
          return table.map fun entry => if entry.1 = part then (part, .table extended) else entry
      | some _ => none

namespace Value

def readArray (item : Scanner Value) : Scanner Value := do
  char '['
  let items ← optional do
    let items ← separated (do gap; let value ← item; gap; return value) (char ',')
    let _ ← optional (char ',')
    return items
  gap
  char ']'
  return .array (items.getD [])

def readEntry (item : Scanner Value) : Scanner (Key × Value) := do
  let key ← Key.read
  char '='
  blanks
  let value ← item
  blanks
  return (key, value)

def readTable (item : Scanner Value) : Scanner Value := do
  char '\x7b'
  let entries ← optional (separated (readEntry item) (char ','))
  blanks
  char '\x7d'
  let filled := (entries.getD []).foldlM (fun table entry => Table.add? table entry.1 entry.2) []
  return .table (← liftM filled)

def readWith (arrays tables : Scanner Value) : Scanner Value := do
  match ← next? with
  | some '"' | some '\'' => return .string (String.ofList (← Quoted.string))
  | some '[' => arrays
  | some '\x7b' => tables
  | some 't' =>
      chars ['t', 'r', 'u', 'e']
      return .boolean true
  | some 'f' =>
      chars ['f', 'a', 'l', 's', 'e']
      return .boolean false
  | some 'i' | some 'n' => Number.special
  | some c => if c = '+' ∨ c = '-' ∨ Number.isDigit c then readNumber else failure
  | none => failure

-- A value within which no more than the given number of arrays and inline tables are nested.
def read : Nat → Scanner Value
  | 0 => readWith failure failure
  | depth + 1 => readWith (readArray (read depth)) (readTable (read depth))

end Value

end PackageClosure.Toml
