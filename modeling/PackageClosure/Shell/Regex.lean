import PackageClosure.Shell.Pattern

set_option autoImplicit false

namespace PackageClosure.Shell

inductive Regex where
  | empty
  | only (c : Char)
  | anyCharacter
  | oneOf (negated : Bool) (ranges : List CharacterRange)
  | start
  | finish
  | boundary (negated : Bool)
  | wordStart
  | wordFinish
  | noWordBefore
  | noWordAfter
  | group (number : Nat) (inside : Regex)
  | again (number : Nat)
  | sequence (first second : Regex)
  | either (first second : Regex)
  | repeated (inside : Regex) (least : Nat) (most : Option Nat)
deriving Repr

namespace Regex

structure Reader where
  extended : Bool
  groups : Nat
  rest : List Char

abbrev Reading := StateT Reader (Except String)

def peek : Reading (List Char) := return (← get).rest

def advance (count : Nat) : Reading Unit :=
  modify fun reader => { reader with rest := reader.rest.drop count }

def atMark (mark : Char) : Reading Bool := do
  let reader ← get
  return if reader.extended then reader.rest.head? = some mark
    else ['\\', mark].isPrefixOf reader.rest

def markLength : Reading Nat := return if (← get).extended then 1 else 2

def takes (mark : Char) : Reading Bool := do
  if ← atMark mark then
    advance (← markLength)
    return true
  else return false

def number? (text : List Char) : Option Nat × List Char :=
  let (digits, rest) := text.span Char.isDigit
  (if digits.isEmpty then none else some (Nat.ofDigitChars 10 digits 0), rest)

def bounds : Reading (Nat × Option Nat) := do
  let (least, rest) := number? (← peek)
  let (most, rest) := match rest with
    | ',' :: rest => number? rest
    | _ => (least, rest)
  modify fun reader => { reader with rest }
  if ← takes '\x7d' then return (least.getD 0, most)
  else throw (if rest.isEmpty then "Unmatched \\\x7b" else "Invalid content of \\\x7b\\\x7d")

def wordRanges : List CharacterRange := [.named "alnum".toList, .between '_' '_']

def letter? (c : Char) : Option Regex :=
  match c with
  | 'w' => some (.oneOf false wordRanges)
  | 'W' => some (.oneOf true wordRanges)
  | 's' => some (.oneOf false [.named "space".toList])
  | 'S' => some (.oneOf true [.named "space".toList])
  | 'b' => some (.boundary false)
  | 'B' => some (.boundary true)
  | '<' => some .wordStart
  | '>' => some .wordFinish
  | 'n' => some (.only '\n')
  | 't' => some (.only '\t')
  | '\x60' => some .start
  | '\'' => some .finish
  | _ => none

-- A bracket expression, after its opening bracket. A backslash stands for itself.
def bracket : Reading Regex := do
  let text ← peek
  let (negated, inside) := match text with
    | '^' :: rest => (true, rest)
    | _ => (false, text)
  let marked : List Marked := inside.map fun c => (c, false)
  let found : Option (List CharacterRange × List Marked) := match marked with
    | (']', false) :: rest =>
        (Pattern.ranges (rest.length + 1) rest).map fun (more, after) =>
          (CharacterRange.between ']' ']' :: more, after)
    | _ => Pattern.ranges (marked.length + 1) marked
  match found with
  | some (ranges, after) =>
      modify fun reader => { reader with rest := after.map Prod.fst }
      return .oneOf negated ranges
  | none => throw "Invalid regular expression"

def repetitions : Nat → Regex → Reading Regex
  | 0, inside => return inside
  | fuel + 1, inside => do
      if (← peek).head? = some '*' then
        advance 1
        repetitions fuel (.repeated inside 0 none)
      else if ← takes '+' then repetitions fuel (.repeated inside 1 none)
      else if ← takes '?' then repetitions fuel (.repeated inside 0 (some 1))
      else if ← takes '\x7b' then
        let (least, most) ← bounds
        repetitions fuel (.repeated inside least most)
      else return inside

mutual

def alternatives : Nat → Reading Regex
  | 0 => return .empty
  | fuel + 1 => do
      let first ← branch fuel true
      if ← takes '|' then return .either first (← alternatives fuel) else return first

-- Expressions one after the other. At the beginning some characters stand for themselves.
def branch : Nat → Bool → Reading Regex
  | 0, _ => return .empty
  | fuel + 1, first => do
      let text ← peek
      if text.isEmpty || (← atMark '|') || (← atMark ')') then return .empty
      else
        let atom ← atom fuel first
        let anchored := match atom with
          | .start => first
          | _ => false
        let whole ← if anchored && !(← get).extended then pure atom
          else repetitions (← peek).length.succ atom
        let rest ← branch fuel anchored
        return match rest with
          | .empty => whole
          | rest => .sequence whole rest

def atom : Nat → Bool → Reading Regex
  | 0, _ => return .empty
  | fuel + 1, first => do
      let reader ← get
      if ← takes '(' then
        let number := reader.groups + 1
        modify fun reader => { reader with groups := number }
        let inside ← alternatives fuel
        if ← takes ')' then return .group number inside
        else throw "Unmatched ( or \\("
      else
        match reader.rest with
        | '\\' :: c :: _ =>
            advance 2
            if c.isDigit && c ≠ '0' then
              let number := c.toNat - '0'.toNat
              if number ≤ (← get).groups then return .again number
              else throw "Invalid back reference"
            else return (letter? c).getD (.only c)
        | ['\\'] => throw "Trailing backslash"
        | '[' :: _ =>
            advance 1
            bracket
        | '.' :: _ =>
            advance 1
            return .anyCharacter
        | '^' :: _ =>
            advance 1
            return if reader.extended || first then .start else .only '^'
        | '$' :: after =>
            advance 1
            let ends := reader.extended || after.isEmpty || ['\\', ')'].isPrefixOf after ||
              ['\\', '|'].isPrefixOf after
            return if ends then .finish else .only '$'
        | c :: _ =>
            advance 1
            return .only c
        | [] => return .empty

end

def ofText (extended : Bool) (text : List Char) : Except String Regex := do
  let (regex, reader) ← (alternatives (4 * text.length + 8)).run ⟨extended, 0, text⟩
  if reader.rest.isEmpty then return regex else throw "Unmatched ) or \\)"

def ignoringCase : Regex → Regex
  | .only c => .oneOf false [.between c.toLower c.toLower, .between c.toUpper c.toUpper]
  | .oneOf negated ranges =>
      let both := ranges.flatMap fun
        | .between low high =>
            let inside := (List.range (high.toNat + 1 - low.toNat)).map fun offset =>
              Char.ofNat (low.toNat + offset)
            inside.flatMap fun c =>
              [CharacterRange.between c.toLower c.toLower, .between c.toUpper c.toUpper]
        | .named name =>
            if name = "upper".toList || name = "lower".toList then [.named "alpha".toList]
            else [.named name]
      .oneOf negated both
  | .group number inside => .group number (ignoringCase inside)
  | .sequence first second => .sequence (ignoringCase first) (ignoringCase second)
  | .either first second => .either (ignoringCase first) (ignoringCase second)
  | .repeated inside least most => .repeated (ignoringCase inside) least most
  | other => other

structure Spot where
  before : Option Char
  rest : List Char
  groups : List (Nat × List Char)

namespace Spot

def isWord (c : Char) : Bool := c.isAlphanum || c = '_'

def afterWord (spot : Spot) : Bool := spot.before.any isWord

def beforeWord (spot : Spot) : Bool := spot.rest.head?.any isWord

def step? (spot : Spot) (accepts : Char → Bool) : List Spot :=
  match spot.rest with
  | c :: rest => if accepts c then [{ spot with before := some c, rest }] else []
  | [] => []

def stay (spot : Spot) (condition : Bool) : List Spot := if condition then [spot] else []

def textTo (spot later : Spot) : List Char :=
  spot.rest.take (spot.rest.length - later.rest.length)

def skip (spot : Spot) (text : List Char) : List Spot :=
  if text.isPrefixOf spot.rest then
    [{ spot with
      before := text.getLast? <|> spot.before
      rest := spot.rest.drop text.length }]
  else []

end Spot

def repeatStep (step : Spot → List Spot) : Nat → Nat → Option Nat → Spot → List Spot
  | 0, least, _, spot => if least = 0 then [spot] else []
  | fuel + 1, least, most, spot =>
      let further :=
        if most = some 0 then []
        else
          (step spot).flatMap fun next =>
            if next.rest.length = spot.rest.length && least = 0 then []
            else repeatStep step fuel (least - 1) (most.map (· - 1)) next
      if least = 0 then further ++ [spot] else further

def ends : Regex → Spot → List Spot
  | .empty, spot => [spot]
  | .only c, spot => spot.step? (· = c)
  | .anyCharacter, spot => spot.step? fun _ => true
  | .oneOf negated ranges, spot => spot.step? fun c => ranges.any (·.contains c) != negated
  | .start, spot => spot.stay spot.before.isNone
  | .finish, spot => spot.stay spot.rest.isEmpty
  | .boundary negated, spot => spot.stay ((spot.afterWord != spot.beforeWord) != negated)
  | .wordStart, spot => spot.stay (!spot.afterWord && spot.beforeWord)
  | .wordFinish, spot => spot.stay (spot.afterWord && !spot.beforeWord)
  | .noWordBefore, spot => spot.stay (!spot.afterWord)
  | .noWordAfter, spot => spot.stay (!spot.beforeWord)
  | .group number inside, spot =>
      (ends inside spot).map fun last =>
        { last with
          groups := (number, spot.textTo last) :: last.groups.filter (·.1 ≠ number) }
  | .again number, spot =>
      match spot.groups.lookup number with
      | some text => spot.skip text
      | none => []
  | .sequence first second, spot => (ends first spot).flatMap (ends second)
  | .either first second, spot => ends first spot ++ ends second spot
  | .repeated inside least most, spot =>
      repeatStep (ends inside) (spot.rest.length + least + 1) least most spot

structure Occurrence where
  before : List Char
  text : List Char
  rest : List Char
  groups : List (Nat × List Char)

def longest? (regex : Regex) (spot : Spot) : Option Spot :=
  (ends regex spot).foldl (fun best next =>
    match best with
    | none => some next
    | some found => if next.rest.length < found.rest.length then some next else best) none

def search (regex : Regex) (passed : List Char) (before : Option Char) :
    List Char → Option Occurrence
  | [] =>
      (longest? regex ⟨before, [], []⟩).map fun last => ⟨passed.reverse, [], [], last.groups⟩
  | c :: rest =>
      let spot : Spot := ⟨before, c :: rest, []⟩
      match longest? regex spot with
      | some last => some ⟨passed.reverse, spot.textTo last, last.rest, last.groups⟩
      | none => search regex (c :: passed) (some c) rest

def find? (regex : Regex) (text : List Char) : Option Occurrence := search regex [] none text

end Regex

end PackageClosure.Shell
