import PackageClosure.Shell.Enclosed
import PackageClosure.Shell.Word

set_option autoImplicit false

namespace PackageClosure.Shell

inductive Lexeme where
  | word (word : Word)
  | operator (mark : String)
  | descriptor (number : Nat)
  | document (body : Word)
  | wrong (problem : String)
  | finish
deriving DecidableEq, Repr

structure Token where
  lexeme : Lexeme
  line : Nat
deriving DecidableEq, Repr

namespace Scan

def isNameStart (c : Char) : Bool := c.isAlpha || c = '_'

def isNameRest (c : Char) : Bool := c.isAlphanum || c = '_'

def isSpecial (c : Char) : Bool := "@*#?-$!".toList.contains c

def isSeparator (c : Char) : Bool := " \t\n;&|<>()".toList.contains c

def parameterName? : List Char → Option (List Char × List Char)
  | [] => none
  | c :: rest =>
      if isNameStart c then some (c :: rest.takeWhile isNameRest, rest.dropWhile isNameRest)
      else if c.isDigit || isSpecial c then some ([c], rest)
      else none

def change? : List Char → Option (Option Change)
  | [] => some none
  | ':' :: '-' :: word => some (some (.otherwise true word))
  | '-' :: word => some (some (.otherwise false word))
  | ':' :: '=' :: word => some (some (.assign true word))
  | '=' :: word => some (some (.assign false word))
  | ':' :: '?' :: word => some (some (.demand true word))
  | '?' :: word => some (some (.demand false word))
  | ':' :: '+' :: word => some (some (.instead true word))
  | '+' :: word => some (some (.instead false word))
  | '#' :: '#' :: pattern => some (some (.dropStart true pattern))
  | '#' :: pattern => some (some (.dropStart false pattern))
  | '%' :: '%' :: pattern => some (some (.dropEnd true pattern))
  | '%' :: pattern => some (some (.dropEnd false pattern))
  | _ => none

def braced (quoted : Bool) (inside : List Char) : Fragment :=
  let named : Option (List Char × List Char) :=
    match inside.span Char.isDigit with
    | ([], _) => parameterName? inside
    | digits => some digits
  let length? : Option Fragment := do
    let '#' :: first :: rest := inside | none
    let (name, []) ← parameterName? (first :: rest) | none
    return .parameter name (some .length) quoted
  let changed? : Option Fragment := do
    let (name, rest) ← named
    return .parameter name (← change? rest) quoted
  (length? <|> changed?).getD .bad

def arithmetic? (text : List Char) : Option (List Char × List Char) := do
  let '(' :: inside := text | none
  let (expression, rest) ← untilRound inside
  let ')' :: after := rest | none
  return (expression, after)

def linesBetween (text rest : List Char) : Nat :=
  (text.take (text.length - rest.length)).count '\n'

def joined : List Char → List Char
  | '\\' :: '\n' :: rest => joined rest
  | c :: rest => if isNameRest c then c :: joined rest else c :: rest
  | [] => []

-- What a dollar sign begins, and what is wrong with it if it has no end. Where it begins nothing
-- it stands for itself.
def expansion (quoted : Bool) (line : Nat) (text : List Char) :
    Except String (Fragment × List Char) :=
  match joined text with
  | '(' :: '(' :: rest =>
      match arithmetic? ('(' :: rest) with
      | some (expression, after) => .ok (.number expression quoted, after)
      | none => .error "Missing '))'"
  | '(' :: rest =>
      match untilRound rest with
      | some (script, after) => .ok (.output script line quoted, after)
      | none => .error "end of file unexpected (expecting \")\")"
  | '\x7b' :: rest =>
      match untilCurly quoted rest with
      | some (inside, after) => .ok (braced quoted (joined inside), after)
      | none => .error "Missing '\x7d'"
  | text =>
      match parameterName? text with
      | some (name, after) => .ok (.parameter name none quoted, after)
      | none => .ok (.text ['$'] quoted, text)

-- A script up to the closing backquote. Within double quotes their escape is undone as well.
def backquoted (quoted : Bool) : List Char → Except String (List Char × List Char)
  | [] => .error "EOF in backquote substitution"
  | '\x60' :: rest => .ok ([], rest)
  | '\\' :: c :: rest => do
      let (inside, after) ← backquoted quoted rest
      if c = '\x60' || c = '\\' || c = '$' || (quoted && c = '"') then return (c :: inside, after)
      else return ('\\' :: c :: inside, after)
  | c :: rest => do
      let (inside, after) ← backquoted quoted rest
      return (c :: inside, after)

inductive Setting where
  | marks
  | braces
  | document
deriving DecidableEq

def unterminated : String := "Unterminated quoted string"

def quotedFragments (setting : Setting) : Nat → Nat → List Char →
    Except String (Word × List Char)
  | 0, _, _ => .error unterminated
  | fuel + 1, line, text =>
      let onward (fragment : Fragment) (rest : List Char) : Except String (Word × List Char) := do
        let (more, after) ← quotedFragments setting fuel (line + linesBetween text rest) rest
        return (fragment :: more, after)
      match text with
      | [] => if setting = .marks then .error unterminated else .ok ([], [])
      | '\\' :: '\n' :: rest => quotedFragments setting fuel (line + 1) rest
      | '\\' :: c :: rest =>
          if "$`\\".toList.contains c || (c = '"' && setting ≠ .document)
              || (c = '\x7d' && setting = .braces) then
            onward (.text [c] true) rest
          else onward (.text ['\\'] true) (c :: rest)
      | '$' :: rest => do
          let (fragment, after) ← expansion true line rest
          onward fragment after
      | '\x60' :: rest => do
          let (script, after) ← backquoted (setting ≠ .document) rest
          onward (.output script 1 true) after
      | '"' :: rest =>
          match setting with
          | .marks => .ok ([], rest)
          | .braces => quotedFragments setting fuel line rest
          | .document => onward (.text ['"'] true) rest
      | c :: rest => onward (.text [c] true) rest

def wordFragments : Nat → Nat → List Char → Except String (Word × List Char)
  | 0, _, _ => .error unterminated
  | fuel + 1, line, text =>
      let onward (fragments : Word) (rest : List Char) : Except String (Word × List Char) := do
        let (more, after) ← wordFragments fuel (line + linesBetween text rest) rest
        return (fragments ++ more, after)
      match text with
      | [] => .ok ([], [])
      | '\\' :: '\n' :: rest => wordFragments fuel (line + 1) rest
      | '\\' :: c :: rest => onward [.text [c] true] rest
      | '\'' :: rest =>
          match rest.span (· ≠ '\'') with
          | (inside, _ :: after) => onward [.text inside true] after
          | (_, []) => .error unterminated
      | '"' :: rest => do
          let (inside, after) ← quotedFragments .marks (rest.length + 1) line rest
          onward (if inside.isEmpty then [.text [] true] else inside) after
      | '$' :: rest => do
          let (fragment, after) ← expansion false line rest
          onward [fragment] after
      | '\x60' :: rest => do
          let (script, after) ← backquoted false rest
          onward [.output script 1 false] after
      | c :: rest => if isSeparator c then .ok ([], text) else onward [.text [c] false] rest

def operator? (text : List Char) : Option (String × List Char) :=
  ["<<-", "&&", "||", ";;", "<<", ">>", ">&", "<&", ">|", "<>",
    ";", "&", "|", "<", ">", "(", ")", "\n"].findSome? fun mark =>
      if mark.toList.isPrefixOf text then some (mark, text.drop mark.length) else none

def descriptor? : List Char → Option (Nat × List Char)
  | digit :: c :: rest =>
      if digit.isDigit && (c = '<' || c = '>') then some (digit.toNat - '0'.toNat, c :: rest)
      else none
  | _ => none

structure Ending where
  line : List Char
  tabs : Bool
  plain : Bool

def Ending.ofWord (tabs : Bool) (word : Word) : Ending :=
  let spelled := word.flatMap fun
    | .text spelled _ => spelled
    | .parameter name _ _ => '$' :: name
    | _ => []
  let plain := word.any fun
    | .text _ quoted => quoted
    | _ => false
  ⟨spelled, tabs, plain⟩

def documentLines (ending : Ending) : List (List Char) → List (List Char) × List (List Char)
  | [] => ([], [])
  | line :: rest =>
      let line := if ending.tabs then line.dropWhile (· = '\t') else line
      if line = ending.line then ([], rest)
      else
        let (inside, after) := documentLines ending rest
        (line :: inside, after)

def linesOf : List Char → List (List Char)
  | [] => []
  | c :: rest =>
      if c = '\n' then [] :: linesOf rest
      else
        match linesOf rest with
        | [] => [[c]]
        | line :: more => (c :: line) :: more

def document (ending : Ending) (line : Nat) (text : List Char) :
    Except String (Word × List Char × Nat) := do
  let lines := linesOf text
  let (inside, after) := documentLines ending lines
  let body := inside.flatMap (· ++ ['\n'])
  let rest := (after.intersperse ['\n']).flatten ++
    if after.isEmpty || text.getLast? ≠ some '\n' then [] else ['\n']
  let count := lines.length - after.length
  if ending.plain then return ([.text body true], rest, count)
  else
    let (word, _) ← quotedFragments .document (body.length + 1) line body
    return (word, rest, count)

def documents (line : Nat) : List Ending → List Char → List Token × List Char × Nat
  | [], text => ([], text, line)
  | ending :: more, text =>
      match document ending line text with
      | .error problem => ([⟨.wrong problem, line⟩], [], line)
      | .ok (word, rest, count) =>
          let (tokens, rest, last) := documents (line + count) more rest
          (⟨.document word, line⟩ :: tokens, rest, last)

-- The tokens of a script. Documents stand after the line that asks for them.
def tokens : Nat → Nat → List Ending → List Char → List Token
  | 0, line, _, _ => [⟨.finish, line⟩]
  | fuel + 1, line, pending, text =>
      match text with
      | [] => (documents line pending.reverse []).1 ++ [⟨.finish, line⟩]
      | ' ' :: rest | '\t' :: rest => tokens fuel line pending rest
      | '\\' :: '\n' :: rest => tokens fuel (line + 1) pending rest
      | '#' :: rest => tokens fuel line pending (rest.dropWhile (· ≠ '\n'))
      | '\n' :: rest =>
          let (found, rest, last) := documents (line + 1) pending.reverse rest
          ⟨.operator "\n", line + 1⟩ :: found ++ tokens fuel last [] rest
      | _ =>
          match operator? text, descriptor? text with
          | some (mark, rest), _ =>
              let document := mark = "<<" || mark = "<<-"
              let word := rest.dropWhile fun c => c = ' ' || c = '\t'
              match document, wordFragments (word.length + 1) line word with
              | true, .ok (first :: more, after) =>
                  let ending := Ending.ofWord (mark = "<<-") (first :: more)
                  ⟨.operator mark, line⟩ :: tokens fuel line (ending :: pending) after
              | true, .error problem => [⟨.wrong problem, line⟩]
              | _, _ => ⟨.operator mark, line⟩ :: tokens fuel line pending rest
          | none, some (number, rest) =>
              ⟨.descriptor number, line⟩ :: tokens fuel line pending rest
          | none, none =>
              match wordFragments (text.length + 1) line text with
              | .error problem => [⟨.wrong problem, line + text.count '\n'⟩]
              | .ok (fragments, rest) =>
                  let last := line + linesBetween text rest
                  ⟨.word fragments, last⟩ :: tokens fuel last pending rest

def isDocument (token : Token) : Bool :=
  match token.lexeme with
  | .document _ => true
  | _ => false

def placeDocuments (found : List Token) : List Token → List Token
  | [] => []
  | token :: rest =>
      match token.lexeme, found with
      | .document _, _ => placeDocuments found rest
      | .operator mark, first :: more =>
          if mark = "<<" || mark = "<<-" then token :: first :: placeDocuments more rest
          else token :: placeDocuments (first :: more) rest
      | _, _ => token :: placeDocuments found rest

end Scan

def Token.ofScript (line : Nat) (script : List Char) : List Token :=
  let tokens := Scan.tokens (script.length + 1) line [] script
  Scan.placeDocuments (tokens.filter Scan.isDocument) tokens

def Word.ofQuoted (line : Nat) (text : List Char) : Except String Word :=
  (Scan.quotedFragments .braces (text.length + 1) line text).map Prod.fst

def Word.ofDocument (line : Nat) (text : List Char) : Except String Word :=
  (Scan.quotedFragments .document (text.length + 1) line text).map Prod.fst

def Word.ofPieces : Nat → Nat → List Char → Except String Word
  | 0, _, _ => .ok []
  | fuel + 1, line, text => do
      match ← Scan.wordFragments (text.length + 1) line text with
      | (word, []) => return word
      | (word, c :: rest) => return word ++ .text [c] false :: (← Word.ofPieces fuel line rest)

def Word.ofText (line : Nat) (text : List Char) : Except String Word :=
  Word.ofPieces (text.length + 1) line text

end PackageClosure.Shell
