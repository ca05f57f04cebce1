import PackageClosure.Shell.Arithmetic
import PackageClosure.Shell.Regex
import PackageClosure.Shell.Utility.Basic

set_option autoImplicit false

namespace PackageClosure.Shell.Utility

namespace Values

abbrev Reading := StateT (List String) (Except String)

def integer? (text : String) : Option Int :=
  match text.toList with
  | '-' :: digit :: rest =>
      if (digit :: rest).all Char.isDigit then
        some (-((Nat.ofDigitChars 10 (digit :: rest) 0 : Nat) : Int))
      else none
  | digit :: rest =>
      if (digit :: rest).all Char.isDigit then
        some ((Nat.ofDigitChars 10 (digit :: rest) 0 : Nat) : Int)
      else none
  | [] => none

def isTrue (text : String) : Bool := !text.isEmpty && integer? text ≠ some 0

def takes (operators : List String) : Reading (Option String) := do
  match ← get with
  | first :: rest =>
      if operators.contains first then
        set rest
        return some first
      else return none
  | [] => return none

def matched (text pattern : String) : Except String String := do
  let regex ← Regex.ofText false ('^' :: Text.byteChars pattern.toList)
  let grouped := (pattern.splitOn "\\(").length ≠ 1
  match Regex.find? regex (Text.byteChars text.toList) with
  | some found =>
      if grouped then
        return String.ofList (Text.rawText
          (((found.groups.lookup 1).getD []).map fun c => UInt8.ofNat c.toNat))
      else return toString found.text.length
  | none => return if grouped then "" else "0"

def numbers (left right : String) : Except String (Int × Int) :=
  match integer? left, integer? right with
  | some left, some right => .ok (left, right)
  | _, _ => .error "non-integer argument"

def arithmetic (operator left right : String) : Except String String := do
  let (left, right) ← numbers left right
  match operator with
  | "+" => return toString (left + right)
  | "-" => return toString (left - right)
  | "*" => return toString (left * right)
  | "/" => if right = 0 then throw "division by zero" else return toString (Int.tdiv left right)
  | _ => if right = 0 then throw "division by zero" else return toString (Int.tmod left right)

def comparison (operator left right : String) : String :=
  let order := match integer? left, integer? right with
    | some left, some right => compare left right
    | _, _ => if left < right then .lt else if left = right then .eq else .gt
  let holds : Bool := match operator with
    | "<" => order = .lt
    | "<=" => order ≠ .gt
    | ">" => order = .gt
    | ">=" => order ≠ .lt
    | "!=" => order ≠ .eq
    | _ => order = .eq
  if holds then "1" else "0"

def levels : List (List String) :=
  [["|"], ["&"], ["<", "<=", "=", "==", "!=", ">=", ">"], ["+", "-"], ["*", "/", "%"], [":"]]

def apply (operator left right : String) : Except String String :=
  match operator with
  | "|" => .ok (if isTrue left then left else if isTrue right then right else "0")
  | "&" => .ok (if isTrue left && isTrue right then left else "0")
  | ":" => matched left right
  | "+" | "-" | "*" | "/" | "%" => arithmetic operator left right
  | _ => .ok (comparison operator left right)

mutual

def level : Nat → String → List (List String) → Reading String
  | 0, _, _ => throw "syntax error"
  | fuel + 1, before, [] => primary fuel before
  | fuel + 1, before, marks :: tighter => do
      levelAfter fuel marks tighter (← level fuel before tighter)

def levelAfter : Nat → List String → List (List String) → String → Reading String
  | 0, _, _, _ => throw "syntax error"
  | fuel + 1, marks, tighter, left => do
      match ← takes marks with
      | some operator =>
          let right ← level fuel operator tighter
          levelAfter fuel marks tighter (← apply operator left right)
      | none => return left

def primary : Nat → String → Reading String
  | 0, _ => throw "syntax error"
  | fuel + 1, before => do
      match ← get with
      | [] => throw s!"syntax error: missing argument after '{before}'"
      | first :: rest =>
          set rest
          match first, rest with
          | "(", _ =>
              let value ← level fuel "(" levels
              match ← takes [")"] with
              | some _ => return value
              | none =>
                  match ← get with
                  | found :: _ => throw s!"syntax error: expecting ')' instead of '{found}'"
                  | [] => throw s!"syntax error: expecting ')' after '{value}'"
          | ")", _ => throw "syntax error: unexpected ')'"
          | "+", text :: rest =>
              set rest
              return text
          | "length", _ :: _ =>
              let text ← primary fuel first
              return toString (Text.rawBytes text.toList).length
          | "match", _ :: _ =>
              let text ← primary fuel first
              let pattern ← primary fuel first
              matched text pattern
          | "index", _ :: _ =>
              let text := (← primary fuel first).toList
              let wanted := (← primary fuel first).toList
              return toString (((text.findIdx? wanted.contains).map (· + 1)).getD 0)
          | "substr", _ :: _ =>
              let text := (← primary fuel first).toList
              let start := integer? (← primary fuel first)
              let count := integer? (← primary fuel first)
              match start, count with
              | some start, some count =>
                  if start ≤ 0 || count ≤ 0 then return ""
                  else
                    return String.ofList ((text.drop (start.toNat - 1)).take count.toNat)
              | _, _ => return ""
          | text, _ => return text

end

def ofArguments (arguments : List String) : Except String String := do
  let (value, rest) ← (level (16 * arguments.length + 32) "" levels).run arguments
  match rest with
  | [] => return value
  | extra :: _ => throw s!"syntax error: unexpected argument '{extra}'"

end Values

def showValue : Utility := fun arguments => do
  let arguments := match arguments with
    | "--" :: rest => rest
    | _ => arguments
  if arguments.isEmpty then misuse 2 "missing operand"
  else
    match Values.ofArguments arguments with
    | .ok value =>
        emitText (value ++ "\n")
        return if Values.isTrue value then 0 else 1
    | .error problem =>
        say problem
        return 2

end PackageClosure.Shell.Utility
