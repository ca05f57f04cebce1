import PackageClosure.Shell.Arithmetic

set_option autoImplicit false

namespace PackageClosure.Shell.Condition

def node? (state : State) (path : String) : Option Disk.Node :=
  (state.disk.stat state.current ⟨path⟩).toOption

def isLink (state : State) (path : String) : Bool :=
  match state.disk.find state.current false ⟨path⟩ with
  | .ok ⟨_, some (.link _)⟩ => true
  | _ => false

def unaryOperators : List String :=
  ["-r", "-w", "-x", "-e", "-f", "-d", "-c", "-b", "-p", "-u", "-g", "-k", "-s", "-t", "-z", "-n",
    "-h", "-O", "-G", "-L", "-S"]

def binaryOperators : List String :=
  ["=", "!=", "<", ">", "-eq", "-ne", "-ge", "-gt", "-le", "-lt", "-nt", "-ot", "-ef"]

inductive Kind where
  | unary
  | binary
  | negation
  | conjunction
  | disjunction
  | opening
  | closing
  | operand
  | finish
deriving DecidableEq

def isBinary (text : Option String) : Bool := text.any binaryOperators.contains

def kind : List String → Kind
  | [] => .finish
  | first :: rest =>
      if unaryOperators.contains first then
        if rest.isEmpty || (1 < rest.length && isBinary rest.head?) then .operand else .unary
      else if binaryOperators.contains first then .binary
      else
        match first with
        | "!" => .negation
        | "-a" => .conjunction
        | "-o" => .disjunction
        | "(" => if rest.isEmpty then .operand else .opening
        | ")" => .closing
        | _ => .operand

def number (text : String) : Except String Int :=
  match Arithmetic.integer? false text.toList with
  | some value => .ok value
  | none => .error s!"Illegal number: {text}"

def unary (state : State) (operator operand : String) : Except String Bool := do
  let modeBit (bit : Nat) : Bool :=
    (node? state operand).any fun node => node.mode &&& bit ≠ 0
  match operator with
  | "-n" => return !operand.isEmpty
  | "-z" => return operand.isEmpty
  | "-t" =>
      let _ ← number operand
      return false
  | "-e" | "-r" | "-w" | "-O" | "-G" => return (node? state operand).isSome
  | "-f" => return state.disk.isFile state.current ⟨operand⟩
  | "-d" => return state.disk.isDirectory state.current ⟨operand⟩
  | "-h" | "-L" => return isLink state operand
  | "-c" => return (node? state operand).any Disk.Node.isDevice
  | "-s" => return match node? state operand with
    | some (.file file) => !file.bytes.isEmpty
    | some node => node.isDirectory
    | none => false
  | "-x" => return match node? state operand with
    | some (.file file) => Disk.isRunnable file.mode
    | some (.directory mode) => Disk.isRunnable mode
    | _ => false
  | "-u" => return modeBit 0o4000
  | "-g" => return modeBit 0o2000
  | "-k" => return modeBit 0o1000
  | _ => return false

def sameNode (state : State) (left right : String) : Bool :=
  match state.disk.find state.current true ⟨left⟩, state.disk.find state.current true ⟨right⟩ with
  | .ok ⟨one, some node⟩, .ok ⟨other, there⟩ => one = other || Disk.isShared node there
  | _, _ => false

def isNewer (state : State) (left right : String) : Bool :=
  match node? state left, node? state right with
  | some one, some other => other.changed < one.changed
  | _, _ => false

def binary (state : State) (left operator right : String) : Except String Bool := do
  match operator with
  | "=" => return left = right
  | "!=" => return left ≠ right
  | "<" => return left < right
  | ">" => return right < left
  | "-eq" => return (← number left) = (← number right)
  | "-ne" => return (← number left) ≠ (← number right)
  | "-lt" => return (← number left) < (← number right)
  | "-le" => return (← number left) ≤ (← number right)
  | "-gt" => return (← number right) < (← number left)
  | "-ge" => return (← number right) ≤ (← number left)
  | "-ef" => return sameNode state left right
  | "-nt" => return isNewer state left right
  | "-ot" => return isNewer state right left
  | _ => return false

abbrev Reading := Except String (Bool × List String)

mutual

def disjunction (state : State) : Nat → Kind → List String → Reading
  | 0, _, operands => .ok (false, operands)
  | fuel + 1, kindHere, operands => do
      let (first, last) ← conjunction state fuel kindHere operands
      if kind (last.drop 1) = .disjunction then
        let rest := last.drop 2
        let (second, last) ← disjunction state fuel (kind rest) rest
        return (first || second, last)
      else return (first, last)

def conjunction (state : State) : Nat → Kind → List String → Reading
  | 0, _, operands => .ok (false, operands)
  | fuel + 1, kindHere, operands => do
      let (first, last) ← negation state fuel kindHere operands
      if kind (last.drop 1) = .conjunction then
        let rest := last.drop 2
        let (second, last) ← conjunction state fuel (kind rest) rest
        return (first && second, last)
      else return (first, last)

def negation (state : State) : Nat → Kind → List String → Reading
  | 0, _, operands => .ok (false, operands)
  | fuel + 1, kindHere, operands =>
      if kindHere = .negation then do
        let next := kind (operands.drop 1)
        let rest := if next = .finish then operands else operands.drop 1
        let (value, last) ← negation state fuel next rest
        return (!value, last)
      else primary state fuel kindHere operands

def primary (state : State) : Nat → Kind → List String → Reading
  | 0, _, operands => .ok (false, operands)
  | fuel + 1, kindHere, operands =>
      match kindHere, operands with
      | .finish, operands => .ok (false, operands)
      | .opening, _ :: rest => do
          if kind rest = .closing then return (false, rest)
          let (value, last) ← disjunction state fuel (kind rest) rest
          if kind (last.drop 1) = .closing then return (value, last.drop 1)
          else throw "closing paren expected"
      | .unary, operator :: rest =>
          match rest with
          | [] => .error s!"{operator}: argument expected"
          | operand :: _ => do return (← unary state operator operand, rest)
      | _, left :: operator :: rest =>
          if binaryOperators.contains operator then
            match rest with
            | [] => .error s!"{operator}: argument expected"
            | right :: _ => do return (← binary state left operator right, rest)
          else .ok (!left.isEmpty, left :: operator :: rest)
      | _, [left] => .ok (!left.isEmpty, [left])
      | _, [] => .ok (false, [])

end

def whole (state : State) (start : Kind) (operands : List String) : Except String Bool := do
  let (value, last) ← disjunction state (4 * operands.length + 8) start operands
  match last with
  | first :: _ :: _ => throw s!"{first}: unexpected operator"
  | _ => return value

def isBracketed (operands : List String) : Bool :=
  operands.head? = some "(" && operands.getLast? = some ")"

-- The condition that operands make up. Up to four of them are read in a way of their own, and
-- then two negations count as one.
def decide (state : State) (operands : List String) : Except String Bool :=
  match operands with
  | [] => .ok false
  | [left, operator, right] =>
      if binaryOperators.contains operator then whole state .operand operands
      else if isBracketed operands then whole state (kind [operator]) [operator]
      else if left = "!" then do
        return !(← whole state (kind [operator, right]) [operator, right])
      else whole state (kind operands) operands
  | [first, second, third, fourth] =>
      if isBracketed operands then whole state (kind [second, third]) [second, third]
      else if first = "!" then
        if binaryOperators.contains third then do
          return !(← whole state .operand [second, third, fourth])
        else if isBracketed [second, third, fourth] then do
          return !(← whole state (kind [third]) [third])
        else if second = "!" then do
          return !(← whole state (kind [third, fourth]) [third, fourth])
        else do return !(← whole state (kind [second, third, fourth]) [second, third, fourth])
      else whole state (kind operands) operands
  | operands => whole state (kind operands) operands

end PackageClosure.Shell.Condition
