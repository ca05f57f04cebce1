import PackageClosure.Text.Raw

set_option autoImplicit false

namespace PackageClosure.Shell

abbrev Marked := Char × Bool

inductive CharacterRange where
  | between (low high : Char)
  | named (name : List Char)
deriving DecidableEq, Repr

inductive PatternItem where
  | only (c : Char)
  | anyCharacter
  | anyText
  | oneOf (negated : Bool) (ranges : List CharacterRange)
deriving DecidableEq, Repr

namespace CharacterRange

def isPunctuation (c : Char) : Bool := '!' ≤ c && c ≤ '~' && !c.isAlphanum

def isSpace (c : Char) : Bool := c = ' ' || ('\t' ≤ c && c ≤ '\r')

def isOf (name : String) (c : Char) : Bool :=
  match name with
  | "alpha" => c.isAlpha
  | "digit" => c.isDigit
  | "alnum" => c.isAlphanum
  | "upper" => c.isUpper
  | "lower" => c.isLower
  | "space" => isSpace c
  | "blank" => c = ' ' || c = '\t'
  | "punct" => isPunctuation c
  | "print" => ' ' ≤ c && c ≤ '~'
  | "graph" => '!' ≤ c && c ≤ '~'
  | "cntrl" => c < ' ' || c = '\x7f'
  | "xdigit" => c.isDigit || ('a' ≤ c && c ≤ 'f') || ('A' ≤ c && c ≤ 'F')
  | _ => false

def contains (range : CharacterRange) (c : Char) : Bool :=
  match range with
  | .between low high => low ≤ c && c ≤ high
  | .named name => isOf (String.ofList name) c

def name? (text : List Marked) : Option (List Char × List Marked) :=
  let name := (text.takeWhile fun c => c.1.isLower).map Prod.fst
  match text.drop name.length with
  | (':', _) :: (']', _) :: rest => some (name, rest)
  | _ => none

end CharacterRange

namespace Pattern

def ranges : Nat → List Marked → Option (List CharacterRange × List Marked)
  | 0, _ => none
  | fuel + 1, text =>
      let after (range : CharacterRange) (rest : List Marked) :
          Option (List CharacterRange × List Marked) :=
        (ranges fuel rest).map fun (more, after) => (range :: more, after)
      match text with
      | [] => none
      | (']', false) :: rest => some ([], rest)
      | (low, quoted) :: rest =>
          let opened := low = '[' && !quoted && rest.head? = some (':', false)
          match opened, CharacterRange.name? (rest.drop 1) with
          | true, some (name, rest) => after (.named name) rest
          | _, _ =>
              match rest with
              | ('-', false) :: (']', false) :: _ => after (.between low low) rest
              | ('-', false) :: (high, _) :: rest => after (.between low high) rest
              | _ => after (.between low low) rest

-- A bracket expression after its opening bracket. A closing bracket at the beginning is one of
-- the characters.
def bracket? (text : List Marked) : Option (PatternItem × List Marked) :=
  let (negated, inside) := match text with
    | ('!', false) :: rest => (true, rest)
    | _ => (false, text)
  match inside with
  | (']', false) :: rest =>
      (ranges (rest.length + 1) rest).map fun (more, after) =>
        (.oneOf negated (.between ']' ']' :: more), after)
  | _ =>
      (ranges (inside.length + 1) inside).map fun (more, after) => (.oneOf negated more, after)

def ofFuel : Nat → List Marked → List PatternItem
  | 0, _ => []
  | fuel + 1, text =>
      match text with
      | [] => []
      | ('*', false) :: rest => .anyText :: ofFuel fuel rest
      | ('?', false) :: rest => .anyCharacter :: ofFuel fuel rest
      | ('\\', false) :: (c, _) :: rest => .only c :: ofFuel fuel rest
      | ('[', false) :: rest =>
          match bracket? rest with
          | some (item, after) => item :: ofFuel fuel after
          | none => .only '[' :: ofFuel fuel rest
      | (c, _) :: rest => .only c :: ofFuel fuel rest

def ofCharacters (text : List Marked) : List PatternItem :=
  let bytes := text.flatMap fun c => (Text.byteChars [c.1]).map fun byte => (byte, c.2)
  ofFuel bytes.length bytes

def accepts (c : Char) : PatternItem → Bool
  | .only expected => c = expected
  | .anyCharacter => true
  | .anyText => true
  | .oneOf negated ranges => ranges.any (·.contains c) != negated

def coversBytes : List PatternItem → List Char → Bool
  | [], text => text.isEmpty
  | .anyText :: rest, [] => coversBytes rest []
  | .anyText :: rest, c :: text =>
      coversBytes rest (c :: text) || coversBytes (.anyText :: rest) text
  | _ :: _, [] => false
  | item :: rest, c :: text => accepts c item && coversBytes rest text
termination_by pattern text => pattern.length + text.length

def covers (pattern : List PatternItem) (text : List Char) : Bool :=
  coversBytes pattern (Text.byteChars text)

def ofByteChars (bytes : List Char) : List Char :=
  Text.rawText (bytes.map fun c => UInt8.ofNat c.toNat)

def dropStart (longest : Bool) (pattern : List PatternItem) (text : List Char) : List Char :=
  let bytes := Text.byteChars text
  let lengths := List.range (bytes.length + 1)
  let order := if longest then lengths.reverse else lengths
  match order.find? fun n => coversBytes pattern (bytes.take n) with
  | some n => ofByteChars (bytes.drop n)
  | none => text

def dropEnd (longest : Bool) (pattern : List PatternItem) (text : List Char) : List Char :=
  let bytes := Text.byteChars text
  let lengths := List.range (bytes.length + 1)
  let order := if longest then lengths else lengths.reverse
  match order.find? fun n => coversBytes pattern (bytes.drop n) with
  | some n => ofByteChars (bytes.take n)
  | none => text

end Pattern

end PackageClosure.Shell
