set_option autoImplicit false

namespace PackageClosure.Toml

abbrev Scanner := StateT (List Char) Option

namespace Scanner

variable {α β : Type}

def rest : Scanner (List Char) := get

def next? : Scanner (Option Char) := do return (← get).head?

def take : Scanner Char := fun
  | [] => none
  | c :: rest => some (c, rest)

def satisfying (condition : Char → Bool) : Scanner Char := do
  let c ← take
  if condition c then return c else failure

def char (expected : Char) : Scanner Unit := do
  let _ ← satisfying (· = expected)

def chars (expected : List Char) : Scanner Unit := expected.forM char

def run (condition : Char → Bool) : Scanner (List Char) := fun text =>
  some (text.takeWhile condition, text.dropWhile condition)

def skipRun (condition : Char → Bool) : Scanner Unit := do
  let _ ← run condition

def exactly (condition : Char → Bool) : Nat → Scanner (List Char)
  | 0 => pure []
  | count + 1 => do
      let c ← satisfying condition
      return c :: (← exactly condition count)

def atEnd : Scanner Unit := fun
  | [] => some ((), [])
  | _ => none

def manyFrom (reader : Scanner α) (text : List Char) : List α × List Char :=
  match reader text with
  | none => ([], text)
  | some (value, rest) =>
      if rest.length < text.length then
        let (values, left) := manyFrom reader rest
        (value :: values, left)
      else ([value], rest)
termination_by text.length

def many (reader : Scanner α) : Scanner (List α) := fun text => some (manyFrom reader text)

def separated (item : Scanner α) (separator : Scanner β) : Scanner (List α) := do
  let first ← item
  return first :: (← many (do let _ ← separator; item))

def whole (reader : Scanner α) (text : List Char) : Option α :=
  match reader text with
  | some (value, []) => some value
  | _ => none

end Scanner

end PackageClosure.Toml
