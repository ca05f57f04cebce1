import PackageClosure.Shell.Quantity
import PackageClosure.Shell.Regex

set_option autoImplicit false

namespace PackageClosure.Shell.Awk

namespace Spelling

def isOctal (c : Char) : Bool := '0' ≤ c && c ≤ '7'

def escape? (text : List Char) : Option (Char × List Char) :=
  match text with
  | 'n' :: rest => some ('\n', rest)
  | 't' :: rest => some ('\t', rest)
  | 'r' :: rest => some ('\r', rest)
  | 'f' :: rest => some ('\x0c', rest)
  | 'v' :: rest => some ('\x0b', rest)
  | 'a' :: rest => some ('\x07', rest)
  | 'b' :: rest => some ('\x08', rest)
  | 'x' :: rest =>
      let digits := (rest.take 2).takeWhile Quantity.isHexadecimal
      if digits.isEmpty then none
      else some (Char.ofNat (Quantity.hexadecimalValue digits), rest.drop digits.length)
  | '"' :: rest => some ('"', rest)
  | '\\' :: rest => some ('\\', rest)
  | c :: rest =>
      if isOctal c then
        let digits := c :: (rest.take 2).takeWhile isOctal
        some (Char.ofNat (Nat.ofDigitChars 8 digits 0 % 256), rest.drop (digits.length - 1))
      else none
  | [] => none

-- A text in which backslashes have been replaced. One that means nothing stays.
def unescaped : Nat → List Char → List Char
  | 0, text => text
  | fuel + 1, text =>
      match text with
      | [] => []
      | '\\' :: rest =>
          match escape? rest with
          | some (c, rest) => c :: unescaped fuel rest
          | none =>
              match rest with
              | c :: rest => '\\' :: c :: unescaped fuel rest
              | [] => ['\\']
      | c :: rest => c :: unescaped fuel rest

def className? (text : List Char) : Option (List Char × List Char) :=
  let name := text.takeWhile Char.isAlpha
  match text.drop name.length with
  | ':' :: ']' :: rest => some (name, rest)
  | _ => none

def bracketCharacter (text : List Char) : Option (Char × List Char) :=
  match text with
  | [] => none
  | '\\' :: rest =>
      match escape? rest, rest with
      | some found, _ => some found
      | none, c :: more => if c.isAlphanum then some ('\\', rest) else some (c, more)
      | none, [] => some ('\\', [])
  | c :: rest => some (c, rest)

-- A range that begins with a character, and what follows it. One that goes backward is none.
def rangeFrom (c : Char) (text : List Char) : CharacterRange × List Char :=
  match text with
  | '-' :: ']' :: _ => (.between c c, text)
  | '-' :: after =>
      match bracketCharacter after with
      | some (last, rest) => if last < c then (.between c c, text) else (.between c last, rest)
      | none => (.between c c, text)
  | text => (.between c c, text)

-- The ranges up to the closing bracket. A closing bracket that comes first stands for itself.
def ranges : Nat → Bool → List Char → Option (List CharacterRange × List Char)
  | 0, _, _ => none
  | fuel + 1, first, text =>
      let further (found : CharacterRange × List Char) :
          Option (List CharacterRange × List Char) :=
        (ranges fuel false found.2).map fun (others, rest) => (found.1 :: others, rest)
      match text with
      | [] => none
      | ']' :: rest => if first then further (rangeFrom ']' rest) else some ([], rest)
      | '[' :: ':' :: rest =>
          match className? rest with
          | some (name, rest) => further (.named name, rest)
          | none => further (rangeFrom '[' (':' :: rest))
      | text => (bracketCharacter text).bind fun (c, rest) => further (rangeFrom c rest)

def classNames : List String :=
  ["alnum", "alpha", "blank", "cntrl", "digit", "graph", "lower", "print", "punct", "space",
    "upper", "xdigit"]

def counts? (text : List Char) : Option ((Nat × Option Nat) × List Char) :=
  let (low, rest) := text.span Char.isDigit
  let value (digits : List Char) : Nat := Nat.ofDigitChars 10 digits 0
  match rest with
  | '\x7d' :: rest => if low.isEmpty then none else some ((value low, some (value low)), rest)
  | ',' :: rest =>
      let (high, rest) := rest.span Char.isDigit
      match rest with
      | '\x7d' :: rest =>
          some ((value low, if high.isEmpty then none else some (value high)), rest)
      | _ => none
  | _ => none

def repeated : Nat → Regex → List Char → Except String (Regex × List Char)
  | 0, regex, text => .ok (regex, text)
  | fuel + 1, regex, text =>
      match text with
      | '*' :: rest => repeated fuel (.repeated regex 0 none) rest
      | '+' :: rest => repeated fuel (.repeated regex 1 none) rest
      | '?' :: rest => repeated fuel (.repeated regex 0 (some 1)) rest
      | '\x7b' :: '\x7d' :: _ => .error "bad interval expression"
      | '\x7b' :: rest =>
          match counts? rest with
          | some ((least, most), rest) =>
              if most.any (· < least) then .error "bad interval expression"
              else repeated fuel (.repeated regex least most) rest
          | none => .ok (regex, text)
      | _ => .ok (regex, text)

def bracket (text : List Char) : Except String (Regex × List Char) :=
  let negated := text.head? = some '^'
  let inside := if negated then text.drop 1 else text
  let isKnown (range : CharacterRange) : Bool := match range with
    | .named name => classNames.contains (String.ofList name)
    | _ => true
  match ranges (text.length + 1) true inside with
  | some (ranges, rest) =>
      if ranges.all isKnown then .ok (.oneOf negated ranges, rest)
      else .error "bad class -- [], [^] or ["
  | none => .error "bad class -- [], [^] or ["

mutual

def alternatives : Nat → Bool → List Char → Except String (Regex × List Char)
  | 0, _, text => .ok (.empty, text)
  | fuel + 1, inGroup, text => do
      let (first, rest) ← branch fuel inGroup true text
      match rest with
      | '|' :: rest =>
          let (second, rest) ← alternatives fuel inGroup rest
          return (.either first second, rest)
      | rest => return (first, rest)

def branch : Nat → Bool → Bool → List Char → Except String (Regex × List Char)
  | 0, _, _, text => .ok (.empty, text)
  | fuel + 1, inGroup, first, text => do
      let ends := text.isEmpty || text.head? = some '|' || (inGroup && text.head? = some ')')
      if ends then
        if first then throw "missing operand" else return (.empty, text)
      else
        let (atom, rest) ← atom fuel first text
        let anchored := match atom with
          | .start => true
          | _ => false
        let stars := rest.head? = some '*' || rest.head? = some '+'
        if anchored && stars then throw "syntax error ^* or ^+"
        let (whole, rest) ←
          if anchored then pure (atom, rest) else repeated (rest.length + 1) atom rest
        let (more, rest) ← branch fuel inGroup false rest
        return (match more with
          | .empty => whole
          | more => .sequence whole more, rest)

def atom : Nat → Bool → List Char → Except String (Regex × List Char)
  | 0, _, text => .ok (.empty, text)
  | fuel + 1, first, text =>
      match text with
      | ['('] => .error "missing ')'"
      | '(' :: ')' :: rest => if first then .error "missing operand" else .ok (.empty, rest)
      | '(' :: rest => do
          let (inside, rest) ← alternatives fuel true rest
          match rest with
          | ')' :: rest => return (inside, rest)
          | _ => throw "missing ')'"
      | '[' :: rest => bracket rest
      | '.' :: rest => .ok (.anyCharacter, rest)
      | '^' :: rest => .ok (.start, rest)
      | '$' :: rest => .ok (.finish, rest)
      | '\\' :: rest =>
          match escape? rest, rest with
          | some (c, rest), _ => .ok (.only c, rest)
          | none, c :: rest => .ok (.only c, rest)
          | none, [] => .ok (.only '\\', [])
      | c :: rest =>
          if c = '*' || c = '+' || c = '?' then .error "missing operand" else .ok (.only c, rest)
      | [] => .ok (.empty, [])

end

def regex (text : List Char) : Except String Regex :=
  if text.isEmpty then .ok .empty
  else do
    let (regex, _) ← alternatives (4 * text.length + 8) false text
    return regex

end Spelling

end PackageClosure.Shell.Awk
