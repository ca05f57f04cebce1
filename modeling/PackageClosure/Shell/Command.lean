import PackageClosure.Shell.Token

set_option autoImplicit false

namespace PackageClosure.Shell

inductive Direction where
  | input
  | output
  | replace
  | append
  | both
  | duplicate
  | document
deriving DecidableEq, Repr

structure Redirection where
  descriptor : Nat
  direction : Direction
  target : Word
deriving DecidableEq, Repr

inductive Command where
  | nothing
  | simple (line : Nat) (assignments : List (List Char × Word)) (words : List Word)
      (redirections : List Redirection)
  | redirected (line : Nat) (command : Command) (redirections : List Redirection)
  | sequence (first second : Command)
  | both (first second : Command)
  | either (first second : Command)
  | negated (command : Command)
  | pipe (source sink : Command)
  | background (command : Command)
  | subshell (line : Nat) (body : Command)
  | choice (condition positive negative : Command)
  | loop (succeeds : Bool) (condition body : Command)
  | each (line : Nat) (name : List Char) (words : Option (List Word)) (body : Command)
  | matching (line : Nat) (subject : Word) (branches : List (List Word × Command))
  | function (name : String) (body : Command)
  | invalid (line : Nat) (problem : String)
deriving Repr

structure Malformed where
  line : Nat
  problem : String

def Token.mark? (token : Token) : Option String :=
  match token.lexeme with
  | .word word => word.literal?
  | .operator mark => some mark
  | _ => none

abbrev Aliases := List (String × String)

abbrev Parser := ReaderT Aliases (StateT (List Token) (Except Malformed))

namespace Parser

def reserved : List String :=
  ["!", "case", "do", "done", "elif", "else", "esac", "fi", "for", "if", "in", "then", "until",
    "while", "\x7b", "\x7d"]

def peek : Parser (Option String) := return (← get).head?.bind Token.mark?

def skip : Parser Unit := modify (List.drop 1)

def lineHere : Parser Nat := return ((← get).head?.map Token.line).getD 1

def described (lexeme : Lexeme) : String :=
  match lexeme with
  | .word word =>
      match word.literal? with
      | some name => if reserved.contains name then s!"\"{name}\"" else "word"
      | none => "word"
  | .operator "\n" => "newline"
  | .operator mark =>
      if mark.contains '<' || mark.contains '>' then "redirection" else s!"\"{mark}\""
  | .descriptor _ => "redirection"
  | _ => "end of file"

def unexpected {α : Type} (expected : Option String) : Parser α := do
  let token := (← get).head?.getD ⟨.finish, 1⟩
  let wish := match expected with
    | some mark => s!" (expecting \"{mark}\")"
    | none => ""
  throw <| match token.lexeme with
    | .wrong problem => ⟨token.line, problem⟩
    | lexeme => ⟨token.line, s!"{described lexeme} unexpected{wish}"⟩

def keyword (expected : String) : Parser Unit := do
  if (← peek) = some expected then skip else unexpected (some expected)

def takes (mark : String) : Parser Bool := do
  if (← peek) = some mark then
    skip
    return true
  else return false

def word? : Parser (Option Word) := do
  match ← get with
  | ⟨.word word, _⟩ :: rest =>
      set rest
      return some word
  | _ => return none

def word (expected : Option String) : Parser Word := do
  match ← word? with
  | some found => return found
  | none => unexpected expected

def newlines : Parser Unit := modify (List.dropWhile fun token => token.lexeme = .operator "\n")

def direction? : String → Option Direction
  | "<" => some .input
  | ">" => some .output
  | ">|" => some .replace
  | "<>" => some .both
  | ">>" => some .append
  | ">&" | "<&" => some .duplicate
  | "<<" | "<<-" => some .document
  | _ => none

-- A redirection, if one begins here. Without a number it is of the standard input or output.
def redirection? : Parser (Option Redirection) := do
  let (number, rest) := match ← get with
    | ⟨.descriptor number, _⟩ :: rest => (some number, rest)
    | tokens => (none, tokens)
  match rest with
  | ⟨.operator mark, _⟩ :: rest =>
      match direction? mark with
      | none => return none
      | some direction =>
          let descriptor := number.getD (if mark.startsWith "<" then 0 else 1)
          set rest
          match rest with
          | ⟨.document body, _⟩ :: rest =>
              set rest
              return some ⟨descriptor, direction, body⟩
          | _ => return some ⟨descriptor, direction, ← word none⟩
  | _ => return none

def isPlain (condition : Char → Bool) : Fragment → Bool
  | .text [c] false => condition c
  | _ => false

def assignment? (word : Word) : Option (List Char × Word) :=
  let name := word.takeWhile (isPlain Scan.isNameRest)
  match name, word.drop name.length with
  | first :: _, equals :: value =>
      if isPlain Scan.isNameStart first && isPlain (· = '=') equals then
        (Word.literal? name).map fun name => (name.toList, value)
      else none
  | _, _ => none

def splitAssignments : List Word → List (List Char × Word) × List Word
  | [] => ([], [])
  | word :: rest =>
      match assignment? word with
      | some assignment =>
          let (assignments, words) := splitAssignments rest
          (assignment :: assignments, words)
      | none => ([], word :: rest)

-- Puts the tokens of a text in the place of an alias that comes next. None is replaced that is in
-- use. A blank at the end of the text means that the next word may be an alias as well.
def withoutAliases (aliases : Aliases) : Nat → List String → List Token → List Token
  | 0, _, tokens => tokens
  | fuel + 1, used, tokens =>
      match tokens with
      | ⟨.word word, line⟩ :: rest =>
          match word.literal?.bind fun name => (aliases.find? (·.1 = name)) with
          | none => tokens
          | some (name, text) =>
              if used.contains name || reserved.contains name then tokens
              else
                let letters := text.toList
                let found := (Token.ofScript line letters).filter (·.lexeme ≠ .finish)
                let goesOn := letters.getLast?.any fun c => c = ' ' || c = '\t'
                let after := if goesOn then withoutAliases aliases fuel used rest else rest
                withoutAliases aliases fuel (name :: used) (found ++ after)
      | _ => tokens

def expandAlias : Parser Unit := do
  let aliases ← read
  if !aliases.isEmpty then modify (withoutAliases aliases (aliases.length + 1) [])

-- Words and redirections in any order. As long as there are only assignments, the next word may be
-- an alias, unless that has been seen to already.
def parts : Nat → Bool → Bool → Parser (List Word × List Redirection)
  | 0, _, _ => return ([], [])
  | fuel + 1, leading, settled => do
      if leading && !settled then expandAlias
      match ← word? with
      | some word =>
          if (← peek) = some "(" && (assignment? word).isSome then unexpected none
          let (words, redirections) ← parts fuel (leading && (assignment? word).isSome) false
          return (word :: words, redirections)
      | none =>
          match ← redirection? with
          | some redirection =>
              let (words, redirections) ← parts fuel leading false
              return (words, redirection :: redirections)
          | none => return ([], [])

def simple : Parser Command := do
  let line ← lineHere
  let (all, redirections) ← parts (4 * (← get).length + 64) true true
  if all.isEmpty && redirections.isEmpty then unexpected none
  let (assignments, words) := splitAssignments all
  return .simple line assignments words redirections

def success : Command := .simple 0 [] [] []

def morePatterns : Nat → Parser (List Word)
  | 0 => return []
  | fuel + 1 => do
      if ← takes "|" then
        let pattern ← word none
        return pattern :: (← morePatterns fuel)
      else
        keyword ")"
        return []

def patterns : Parser (List Word) := do
  let _ ← takes "("
  let first ← word (some ")")
  return first :: (← morePatterns (← get).length)

def words : Nat → Parser (List Word)
  | 0 => return []
  | fuel + 1 => do
      match ← word? with
      | some word => return word :: (← words fuel)
      | none => return []

def redirections : Nat → Parser (List Redirection)
  | 0 => return []
  | fuel + 1 => do
      match ← redirection? with
      | some redirection => return redirection :: (← redirections fuel)
      | none => return []

def redirected (line : Nat) (command : Command) : Parser Command := do
  match ← redirections (← get).length with
  | [] => return command
  | redirections => return .redirected line command redirections

def closers : List String := ["then", "elif", "else", "fi", "do", "done", "esac", "\x7d", ")", ";;"]

def atEnd : Parser Bool := do
  match (← get).head? with
  | none => return true
  | some token => return token.lexeme = .finish || token.mark?.any closers.contains

def specialNames : List String :=
  [".", ":", "break", "continue", "eval", "exec", "exit", "export", "local", "readonly", "return",
    "set", "shift", "times", "trap", "unset"]

def isFunctionName (name : String) : Bool :=
  !specialNames.contains name &&
    match name.toList with
    | [] => false
    | first :: rest => Scan.isNameStart first && rest.all Scan.isNameRest

def functionName? : Parser (Option String) := do
  match ← get with
  | ⟨.word word, line⟩ :: ⟨.operator "(", _⟩ :: rest =>
      if (assignment? word).isSome then return none
      set rest
      if let some ⟨.word _, line⟩ := rest.head? then
        throw ⟨line, "word unexpected (expecting \")\")"⟩
      keyword ")"
      match word.literal? with
      | some name =>
          if isFunctionName name then return some name
          else throw ⟨line, "Bad function name"⟩
      | none => throw ⟨line, "Bad function name"⟩
  | _ => return none

mutual

-- Commands one after the other, up to a word that ends a list. There is at least one before such
-- a word.
def list : Nat → Parser Command
  | 0 => unexpected none
  | fuel + 1 => do
      newlines
      if (← get).head?.all (·.lexeme = .finish) then return .nothing else listFrom fuel

def listFrom : Nat → Parser Command
  | 0 => unexpected none
  | fuel + 1 => do
      let first ← junction fuel
      match ← peek with
      | some ";" | some "\n" =>
          skip
          newlines
          if ← atEnd then return first else return .sequence first (← listFrom fuel)
      | some "&" =>
          skip
          newlines
          if ← atEnd then return .background first
          else return .sequence (.background first) (← listFrom fuel)
      | _ => return first

def junction : Nat → Parser Command
  | 0 => unexpected none
  | fuel + 1 => do junctionAfter fuel (← pipeline fuel)

def junctionAfter : Nat → Command → Parser Command
  | 0, _ => unexpected none
  | fuel + 1, first => do
      match ← peek with
      | some "&&" =>
          skip
          newlines
          junctionAfter fuel (.both first (← pipeline fuel))
      | some "||" =>
          skip
          newlines
          junctionAfter fuel (.either first (← pipeline fuel))
      | _ => return first

def pipeline : Nat → Parser Command
  | 0 => unexpected none
  | fuel + 1 => do
      match ← peek with
      | some "!" =>
          skip
          return .negated (← pipeline fuel)
      | _ => pipes fuel

def pipes : Nat → Parser Command
  | 0 => unexpected none
  | fuel + 1 => do
      let first ← command fuel
      if ← takes "|" then
        newlines
        return .pipe first (← pipes fuel)
      else return first

def command : Nat → Parser Command
  | 0 => unexpected none
  | fuel + 1 => do
      let line ← lineHere
      expandAlias
      match ← peek with
      | some "(" =>
          skip
          let body ← list fuel
          keyword ")"
          redirected line (.subshell line body)
      | some "\x7b" =>
          skip
          let body ← list fuel
          keyword "\x7d"
          redirected line body
      | some "if" =>
          skip
          redirected line (← choice fuel)
      | some "while" =>
          skip
          redirected line (← loop fuel true)
      | some "until" =>
          skip
          redirected line (← loop fuel false)
      | some "for" =>
          skip
          redirected line (← each fuel line)
      | some "case" =>
          skip
          let subject ← word none
          newlines
          keyword "in"
          redirected line (.matching line subject (← branches fuel))
      | found =>
          if found.any fun mark => closers.contains mark || mark = "in" then unexpected none
          else
            match ← functionName? with
            | some name =>
                newlines
                return .function name (← command fuel)
            | none => simple

def choice : Nat → Parser Command
  | 0 => unexpected none
  | fuel + 1 => do
      let condition ← list fuel
      keyword "then"
      let positive ← list fuel
      if ← takes "elif" then return .choice condition positive (← choice fuel)
      else if ← takes "else" then
        let negative ← list fuel
        keyword "fi"
        return .choice condition positive negative
      else
        keyword "fi"
        return .choice condition positive success

def loop : Nat → Bool → Parser Command
  | 0, _ => unexpected none
  | fuel + 1, succeeds => do
      let condition ← list fuel
      keyword "do"
      let body ← list fuel
      keyword "done"
      return .loop succeeds condition body

def each : Nat → Nat → Parser Command
  | 0, _ => unexpected none
  | fuel + 1, line => do
      let some name := (← word?).bind Word.literal? | throw ⟨line, "Bad for loop variable"⟩
      if !(name.toList.head?.any Scan.isNameStart && name.toList.all Scan.isNameRest) then
        throw ⟨line, "Bad for loop variable"⟩
      newlines
      let values ←
        if ← takes "in" then
          let values ← words (← get).length
          match ← peek with
          | some ";" | some "\n" => skip
          | _ => unexpected none
          pure (some values)
        else
          let _ ← takes ";"
          pure none
      newlines
      keyword "do"
      let body ← list fuel
      keyword "done"
      return .each line name.toList values body

def branches : Nat → Parser (List (List Word × Command))
  | 0 => unexpected none
  | fuel + 1 => do
      newlines
      if ← takes "esac" then return []
      let patterns ← patterns
      newlines
      let body ← if ← atEnd then pure .nothing else listFrom fuel
      if ← takes ";;" then return (patterns, body) :: (← branches fuel)
      else if (← peek) = some "esac" then
        skip
        return [(patterns, body)]
      else unexpected (some ";;")

end

def ofLine : Nat → Parser Command
  | 0 => unexpected none
  | fuel + 1 => do
      let first ← junction (fuel + 1)
      let first ← match ← peek with
        | some "&" =>
            skip
            pure (Command.background first)
        | some ";" =>
            skip
            pure first
        | some "\n" => return first
        | _ => if (← get).head?.all (·.lexeme = .finish) then return first else unexpected none
      match (← get).head? with
      | none => return first
      | some token =>
          if token.lexeme = .finish || token.lexeme = .operator "\n" then return first
          else return .sequence first (← ofLine fuel)

def nextLine? (aliases : Aliases) (tokens : List Token) : Option (Command × List Token) :=
  let tokens := tokens.dropWhile fun token => token.lexeme = .operator "\n"
  match tokens with
  | [] | [⟨.finish, _⟩] => none
  | _ =>
      match (ofLine (8 * tokens.length + 64)).run aliases tokens with
      | .error ⟨line, problem⟩ => some (.invalid line problem, [])
      | .ok found => some found

end Parser

end PackageClosure.Shell
