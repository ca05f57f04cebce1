import PackageClosure.Shell.Action

set_option autoImplicit false

namespace PackageClosure.Shell

namespace Arithmetic

inductive Expression where
  | number (value : Int)
  | parameter (name : List Char)
  | assign (name : List Char) (operator : Option String) (value : Expression)
  | prefixed (operator : Char) (operand : Expression)
  | binary (operator : String) (left right : Expression)
  | both (left right : Expression)
  | either (left right : Expression)
  | choice (condition positive negative : Expression)
deriving Repr

def wrap (value : Int) : Int := Int.bmod value 0x10000000000000000

def largest : Int := 0x7FFFFFFFFFFFFFFF

def bounded (value : Int) : Int := max (-largest - 1) (min largest value)

def isBlank (c : Char) : Bool := c = ' ' || ('\t' ≤ c && c ≤ '\r')

def hexDigit? (c : Char) : Option Nat :=
  if c.isDigit then some (c.toNat - '0'.toNat)
  else if 'a' ≤ c && c ≤ 'f' then some (c.toNat - 'a'.toNat + 10)
  else if 'A' ≤ c && c ≤ 'F' then some (c.toNat - 'A'.toNat + 10)
  else none

def digitsIn (base : Nat) (text : List Char) : List Nat × List Char :=
  let digits := text.takeWhile fun c => (hexDigit? c).any (· < base)
  (digits.filterMap hexDigit?, text.drop digits.length)

def ofDigits (base : Nat) (digits : List Nat) : Int :=
  ((digits.foldl (fun value digit => value * base + digit) 0 : Nat) : Int)

def unlimited (text : List Char) : Int × List Char :=
  let read (base : Nat) (text : List Char) : Int × List Char :=
    let (digits, rest) := digitsIn base text
    (ofDigits base digits, rest)
  match text with
  | '0' :: x :: digit :: rest =>
      if (x = 'x' || x = 'X') && (hexDigit? digit).isSome then read 16 (digit :: rest)
      else read 8 text
  | '0' :: _ => read 8 text
  | _ => read 10 text

def natural (text : List Char) : Int × List Char :=
  let (value, rest) := unlimited text
  (bounded value, rest)

-- A number that is the whole of a text, with blanks around it. Base eight and sixteen are known
-- only on request, and then a number that does not fit is the last one that does.
def integer? (bases : Bool) (text : List Char) : Option Int :=
  let (negative, digits) := match text.dropWhile isBlank with
    | '-' :: rest => (true, rest)
    | '+' :: rest => (false, rest)
    | rest => (false, rest)
  if !digits.head?.any Char.isDigit then none
  else
    let (value, rest) :=
      if bases then natural digits
      else
        let (digits, rest) := digitsIn 10 digits
        (ofDigits 10 digits, rest)
    let value := if negative then -value else value
    if rest.all isBlank && (bases || bounded value = value) then some (bounded value) else none

def levels : List (List String) :=
  [["|"], ["^"], ["&"], ["==", "!="], ["<=", ">=", "<", ">"], ["<<", ">>"], ["+", "-"],
    ["*", "/", "%"]]

def assignmentOperators : List String :=
  ["<<=", ">>=", "*=", "/=", "%=", "+=", "-=", "&=", "^=", "|=", "="]

-- All operators. An operator is never read as the beginning of a longer one.
def operators : List String :=
  ["<<=", ">>=", "||", "&&", "==", "!=", "<=", ">=", "<<", ">>", "*=", "/=", "%=", "+=", "-=", "&=",
    "^=", "|=", "=", "|", "^", "&", "<", ">", "+", "-", "*", "/", "%", "!", "~", "?", ":", "(", ")"]

abbrev Reader := StateT (List Char) (Except String)

def blanks : Reader Unit := modify (List.dropWhile isBlank)

def peek? : Reader (Option String) := do
  blanks
  let text ← get
  return operators.find? fun operator => operator.toList.isPrefixOf text

def skip (operator : String) : Reader Unit := modify (List.drop operator.length)

def takes (operator : String) : Reader Bool := do
  if (← peek?) = some operator then
    skip operator
    return true
  else return false

def isNameStart (c : Char) : Bool := c.isAlpha || c = '_'

def isNameRest (c : Char) : Bool := c.isAlphanum || c = '_'

mutual

def assignment : Nat → Reader Expression
  | 0 => throw "expecting primary"
  | fuel + 1 => do
      blanks
      let text ← get
      let name := text.takeWhile isNameRest
      if name.head?.any isNameStart then
        set (text.drop name.length)
        match (← peek?).filter assignmentOperators.contains with
        | some operator =>
            skip operator
            let value ← assignment fuel
            return .assign name
              (if operator = "=" then none else some (operator.dropEnd 1).toString) value
        | none => set text
      conditional fuel

def conditional : Nat → Reader Expression
  | 0 => throw "expecting primary"
  | fuel + 1 => do
      let condition ← disjunction fuel
      if ← takes "?" then
        let positive ← assignment fuel
        if ← takes ":" then return .choice condition positive (← conditional fuel)
        else throw "expecting ':'"
      else return condition

def disjunction : Nat → Reader Expression
  | 0 => throw "expecting primary"
  | fuel + 1 => do
      let left ← conjunction fuel
      if ← takes "||" then return .either left (← disjunction fuel) else return left

def conjunction : Nat → Reader Expression
  | 0 => throw "expecting primary"
  | fuel + 1 => do
      let left ← level fuel levels
      if ← takes "&&" then return .both left (← conjunction fuel) else return left

def level : Nat → List (List String) → Reader Expression
  | 0, _ => throw "expecting primary"
  | fuel + 1, [] => primary fuel
  | fuel + 1, marks :: tighter => do levelAfter fuel marks tighter (← level fuel tighter)

def levelAfter : Nat → List String → List (List String) → Expression → Reader Expression
  | 0, _, _, _ => throw "expecting primary"
  | fuel + 1, marks, tighter, left => do
      match (← peek?).filter marks.contains with
      | some operator =>
          skip operator
          levelAfter fuel marks tighter (.binary operator left (← level fuel tighter))
      | none => return left

def primary : Nat → Reader Expression
  | 0 => throw "expecting primary"
  | fuel + 1 => do
      match ← peek? with
      | some "(" =>
          skip "("
          let inside ← assignment fuel
          if ← takes ")" then return inside else throw "expecting ')'"
      | some "-" => return .prefixed '-' (← operand fuel "-")
      | some "+" => return .prefixed '+' (← operand fuel "+")
      | some "!" => return .prefixed '!' (← operand fuel "!")
      | some "~" => return .prefixed '~' (← operand fuel "~")
      | some _ => throw "expecting primary"
      | none =>
          let text ← get
          if text.head?.any Char.isDigit then
            let (value, rest) := natural text
            set rest
            return .number value
          else
            let name := text.takeWhile isNameRest
            if name.isEmpty then throw "expecting primary"
            set (text.drop name.length)
            return .parameter name

def operand : Nat → String → Reader Expression
  | 0, _ => throw "expecting primary"
  | fuel + 1, operator => do
      skip operator
      primary fuel

end

def Expression.ofText (text : List Char) : Except String Expression := do
  let (expression, rest) ← (assignment (32 * text.length + 32)).run text
  if rest.all isBlank then return expression else throw "expecting EOF"

def truth (value : Bool) : Int := if value then 1 else 0

def bits (value : Int) : Nat := (value % 0x10000000000000000).toNat

-- What an operator makes of two numbers. Division by zero makes nothing.
def combined? (operator : String) (left right : Int) : Option Int :=
  let distance := (right % 64).toNat
  match operator with
  | "|" => some (wrap ((bits left ||| bits right : Nat) : Int))
  | "^" => some (wrap ((bits left ^^^ bits right : Nat) : Int))
  | "&" => some (wrap ((bits left &&& bits right : Nat) : Int))
  | "==" => some (truth (left = right))
  | "!=" => some (truth (left ≠ right))
  | "<=" => some (truth (left ≤ right))
  | ">=" => some (truth (right ≤ left))
  | "<" => some (truth (left < right))
  | ">" => some (truth (right < left))
  | "<<" => some (wrap (left * (Nat.pow 2 distance : Int)))
  | ">>" => some (Int.fdiv left (Nat.pow 2 distance : Int))
  | "+" => some (wrap (left + right))
  | "-" => some (wrap (left - right))
  | "*" => some (wrap (left * right))
  | "/" => if right = 0 then none else some (wrap (Int.tdiv left right))
  | "%" => if right = 0 then none else some (Int.tmod left right)
  | _ => none

def valueOf (name : List Char) : Action Int := do
  let text := ((← get).parameter? (String.ofList name)).getD ""
  if text.toList.all isBlank then return 0
  else
    match integer? true text.toList with
    | some value => return value
    | none => Action.fail s!"Illegal number: {text}"

def problem (reason text : String) : String := s!"arithmetic expression: {reason}: \"{text}\""

def applied (text : String) (operator : String) (left right : Int) : Action Int :=
  match combined? operator left right with
  | some value => pure value
  | none => Action.fail (problem "division by zero" text)

def value (text : String) : Expression → Action Int
  | .number value => pure value
  | .parameter name => valueOf name
  | .assign name operator source => do
      let before ← if operator.isSome then valueOf name else pure 0
      let value ← value text source
      let result ← match operator with
        | some operator => applied text operator before value
        | none => pure value
      Action.assign (String.ofList name) (toString result)
      return result
  | .prefixed operator operand => do
      let value ← value text operand
      return match operator with
        | '-' => wrap (-value)
        | '!' => truth (value = 0)
        | '~' => -value - 1
        | _ => value
  | .binary operator left right => do applied text operator (← value text left) (← value text right)
  | .both left right => do
      if (← value text left) = 0 then return 0 else return truth ((← value text right) ≠ 0)
  | .either left right => do
      if (← value text left) ≠ 0 then return 1 else return truth ((← value text right) ≠ 0)
  | .choice condition positive negative => do
      if (← value text condition) ≠ 0 then value text positive else value text negative

def evaluate (text : List Char) : Action Int :=
  let spelled := String.ofList text
  match Expression.ofText text with
  | .ok expression => value spelled expression
  | .error reason => Action.fail (problem reason spelled)

end Arithmetic

end PackageClosure.Shell
