import PackageClosure.Shell.Awk.Token

set_option autoImplicit false

namespace PackageClosure.Shell.Awk

inductive ArrayFact where
  | isArray (function : String) (index : Nat)
  | isGivenTo (function : String) (index : Nat) (other : String) (position : Nat)

structure Call where
  name : String
  arguments : List Expression
  line : Nat

inductive Part where
  | rule
  | edge
  | function
  deriving DecidableEq

structure Reader where
  tokens : List PlacedToken
  line : Nat
  lastLine : Nat
  unclosed : Nat
  functions : List String
  part : Part
  loops : Nat
  current : String
  parameters : List String
  facts : List ArrayFact
  kinds : List (Variable × Bool)
  calls : List Call

structure Problem where
  line : Nat
  text : String

def Problem.message (problem : Problem) : String :=
  let word := if problem.text.startsWith "unexpected character" then "" else "line "
  word ++ toString problem.line ++ ": " ++ problem.text

abbrev Reading := StateT Reader (Except Problem)

namespace Reading

def peek? : Reading (Option Token) := return (← get).tokens.head?.map PlacedToken.token

def second? : Reading (Option Token) := return ((← get).tokens[1]?).map PlacedToken.token

def advance : Reading Unit :=
  modify fun reader =>
    { reader with
      tokens := reader.tokens.drop 1
      line := (reader.tokens.head?.map PlacedToken.line).getD reader.line }

def refuse {α : Type} (problem : String) : Reading α := do throw ⟨(← get).line, problem⟩

def fail {α : Type} : Reading α := do
  let reader ← get
  match reader.tokens with
  | [] =>
      throw ⟨reader.lastLine,
        if 0 < reader.unclosed then "missing \x7d near end of file"
        else "syntax error at or near end of file"⟩
  | placed :: _ =>
      let shown := placed.shown
      let unclosed := 0 < placed.open_
      throw ⟨placed.line,
        match placed.token with
        | .broken problem => problem
        | .newline | .mark ";" | .mark "\x7d" =>
            if unclosed then s!"missing ) near {shown}" else s!"syntax error at or near {shown}"
        | _ => s!"syntax error at or near {shown}"⟩

def isMark (mark : String) : Reading Bool := do
  match ← peek? with
  | some (.mark found) => return found = mark
  | _ => return false

def isWord (word : String) : Reading Bool := do
  match ← peek? with
  | some (.word found) => return found = word
  | _ => return false

def takesMark (mark : String) : Reading Bool := do
  if ← isMark mark then
    advance
    return true
  else return false

def takesWord (word : String) : Reading Bool := do
  if ← isWord word then
    advance
    return true
  else return false

def expect (mark : String) : Reading Unit := do
  if !(← takesMark mark) then fail

def skipNewlines : Nat → Reading Unit
  | 0 => pure ()
  | fuel + 1 => do
      match ← peek? with
      | some .newline =>
          advance
          skipNewlines fuel
      | _ => pure ()

def variableOf (name : String) : Reading Variable := do
  match (← get).parameters.idxOf? name with
  | some index => return .parameter index
  | none => return .global name

def noteKind (isArray : Bool) (name : String) (variable_ : Variable) : Reading Unit := do
  match (← get).kinds.lookup variable_ with
  | some known =>
      if known ≠ isArray then
        let sort := match variable_ with
          | .global _ => ""
          | .parameter _ => "local "
        let word := if known then "array" else "variable"
        refuse s!"illegal reference to {sort}{word} {name}"
  | none => modify fun reader => { reader with kinds := (variable_, isArray) :: reader.kinds }

def noteArray (name : String) (variable_ : Variable) : Reading Unit := do
  noteKind true name variable_
  match variable_ with
  | .parameter index =>
      modify fun reader =>
        { reader with facts := .isArray reader.current index :: reader.facts }
  | .global _ => pure ()

def noteCall (name : String) (arguments : List Expression) : Reading Unit :=
  modify fun reader =>
    let facts := arguments.zipIdx.filterMap fun (argument, position) =>
      match argument with
      | .value (.parameter index) => some (.isGivenTo reader.current index name position)
      | _ => none
    { reader with facts := facts ++ reader.facts, calls := ⟨name, arguments, reader.line⟩ :: reader.calls }

def pattern (letters : Text) : Reading Expression := do
  match Spelling.regex letters with
  | .ok regex => return .pattern regex
  | .error problem =>
      let shown := String.ofList letters
      throw ⟨(← get).line, s!"regular expression compile failed ({problem})\n{shown}"⟩

def asPattern : Expression → Reading Expression
  | .text letters => pattern letters
  | other => return other

def operators (level : Nat) : List (String × (Expression → Expression → Expression)) :=
  match level with
  | 0 => [("||", .either)]
  | 1 => [("&&", .both)]
  | 3 => [("~", .agrees false), ("!~", .agrees true)]
  | 4 => [("==", .compare .equal), ("!=", .compare .different), ("<", .compare .less),
      ("<=", .compare .lessEqual), (">", .compare .greater), (">=", .compare .greaterEqual)]
  | 6 => [("+", .arithmetic .add), ("-", .arithmetic .subtract)]
  | 7 => [("*", .arithmetic .multiply), ("/", .arithmetic .divide),
      ("%", .arithmetic .remainder)]
  | _ => []

def assignments : List (String × Arithmetic) :=
  [("+=", .add), ("-=", .subtract), ("*=", .multiply), ("/=", .divide), ("%=", .remainder),
    ("^=", .power)]

def beginsValue : Token → Bool
  | .number _ | .text _ | .regex _ | .name _ | .called _ | .builtin _ => true
  | .mark mark => ["(", "!", "++", "--", "$", "-", "+"].contains mark
  | .word word => word = "getline"
  | _ => false

def isPlace : Expression → Bool
  | .value _ | .field _ | .element _ _ => true
  | _ => false

def topLevel : Nat := 8

mutual

def expression : Nat → Reading Expression
  | 0 => fail
  | fuel + 1 => do
      let condition ← level fuel 0
      if ← takesMark "?" then
        let positive ← expression fuel
        expect ":"
        return .choice condition positive (← expression fuel)
      else return condition

def level : Nat → Nat → Reading Expression
  | 0, _ => fail
  | fuel + 1, number => do
      if number = topLevel then unary fuel
      else further fuel number (← level fuel (number + 1))

def further : Nat → Nat → Expression → Reading Expression
  | 0, _, left => return left
  | fuel + 1, number, left => do
      match number, ← peek? with
      | 2, some (.word "in") =>
          advance
          match ← peek? with
          | some (.name name) =>
              advance
              let array ← variableOf name
              noteArray name array
              further fuel number (.contains [left] array)
          | _ => fail
      | 5, some token =>
          if beginsValue token then
            let right ← level fuel (number + 1)
            further fuel number (.join left right)
          else return left
      | number, some (.mark mark) =>
          match (operators number).lookup mark with
          | some operator =>
              advance
              let right ← level fuel (number + 1)
              let right ← if number = 3 then asPattern right else pure right
              further fuel number (operator left right)
          | none => return left
      | _, _ => return left

def unary : Nat → Reading Expression
  | 0 => fail
  | fuel + 1 => do
      if ← takesMark "!" then return .negation (← unary fuel)
      else if ← takesMark "-" then return .minus (← unary fuel)
      else if ← takesMark "+" then return .plus (← unary fuel)
      else piped fuel (← power fuel)

def piped : Nat → Expression → Reading Expression
  | 0, left => return left
  | fuel + 1, left => do
      match ← peek?, ← second? with
      | some (.mark "|"), some (.word "getline") =>
          advance
          advance
          piped fuel (.read .command (some left) (← place? fuel))
      | _, _ => return left

def power : Nat → Reading Expression
  | 0 => fail
  | fuel + 1 => do
      let base ← stepped fuel
      if ← takesMark "^" then
        let signed := (← isMark "-") || (← isMark "+") || (← isMark "!")
        let exponent ← if signed then unary fuel else power fuel
        return .arithmetic .power base exponent
      else return base

def stepped : Nat → Reading Expression
  | 0 => fail
  | fuel + 1 => do
      if ← takesMark "++" then return .step true true (← place fuel)
      else if ← takesMark "--" then return .step false true (← place fuel)
      else
        let (found, bare) ← primary fuel
        if !(bare && isPlace found) then return found
        else
          match ← peek? with
          | some (.mark "++") =>
              advance
              return .step true false found
          | some (.mark "--") =>
              advance
              return .step false false found
          | some (.mark "=") =>
              advance
              return .assign found (← expression fuel)
          | some (.mark mark) =>
              match assignments.lookup mark with
              | some operation =>
                  advance
                  return .update operation found (← expression fuel)
              | none => return found
          | _ => return found

def place : Nat → Reading Expression
  | 0 => fail
  | fuel + 1 => do
      match ← place? fuel with
      | some found => return found
      | none => fail

def place? : Nat → Reading (Option Expression)
  | 0 => return none
  | fuel + 1 => do
      match ← peek? with
      | some (.mark "$") =>
          advance
          return some (.field (← fieldIndex fuel))
      | some (.name name) =>
          advance
          let found ← variableOf name
          if ← takesMark "[" then
            noteArray name found
            let subscripts ← expressions fuel
            expect "]"
            return some (.element found subscripts)
          else
            noteKind false name found
            return some (.value found)
      | _ => return none

def fieldIndex : Nat → Reading Expression
  | 0 => fail
  | fuel + 1 => do
      if ← takesMark "++" then return .step true true (← place fuel)
      else if ← takesMark "--" then return .step false true (← place fuel)
      else if ← takesMark "-" then return .minus (← fieldIndex fuel)
      else if ← takesMark "+" then return .plus (← fieldIndex fuel)
      else if ← takesMark "!" then return .negation (← fieldIndex fuel)
      else
        let (found, _) ← primary fuel
        match found with
        | .value (.global "NF") =>
            if ← takesMark "++" then return .step true false found
            else if ← takesMark "--" then return .step false false found
            else return found
        | found => return found

def expressions : Nat → Reading (List Expression)
  | 0 => fail
  | fuel + 1 => do
      let first ← expression fuel
      if ← takesMark "," then return first :: (← expressions fuel) else return [first]

def arguments : Nat → Reading (List Expression)
  | 0 => fail
  | fuel + 1 => do
      expect "("
      if ← takesMark ")" then return []
      else
        let found ← given fuel
        expect ")"
        return found

-- What is given to a function. A variable alone may be an array.
def given : Nat → Reading (List Expression)
  | 0 => fail
  | fuel + 1 => do
      let first ← match ← peek?, ← second? with
        | some (.name name), some (.mark "," ) | some (.name name), some (.mark ")") => do
            if (← get).functions.contains name then expression fuel
            else
              advance
              pure (.value (← variableOf name))
        | _, _ => expression fuel
      if ← takesMark "," then return first :: (← given fuel) else return [first]

def builtinCall : Nat → Builtin → Reading Expression
  | 0, _ => fail
  | fuel + 1, function => do
      match function with
      | .length =>
          if ← isMark "(" then
            let given ← arguments fuel
            if 1 < given.length then refuse "syntax error at or near ,"
            return .builtin function given
          else return .builtin function []
      | .divide =>
          expect "("
          let text ← expression fuel
          expect ","
          match ← peek? with
          | some (.name name) =>
              advance
              let array ← variableOf name
              noteArray name array
              let separator ←
                if ← takesMark "," then do pure [← expression fuel] else pure []
              expect ")"
              return .builtin function (text :: .value array :: separator)
          | _ => fail
      | .locate =>
          expect "("
          let text ← expression fuel
          expect ","
          let second ← asPattern (← expression fuel)
          expect ")"
          return .builtin function [text, second]
      | .replace _ =>
          expect "("
          let first ← asPattern (← expression fuel)
          expect ","
          let replacement ← expression fuel
          let target ← if ← takesMark "," then do pure [← place fuel] else pure []
          expect ")"
          return .builtin function (first :: replacement :: target)
      | function =>
          let values ←
            if ← isMark "(" then do
              advance
              if ← takesMark ")" then pure []
              else
                let found ← expressions fuel
                expect ")"
                pure found
            else fail
          let (least, most) := Scanner.counts function
          if values.length < least || most.any (· < values.length) then
            let name := Scanner.nameOf function
            refuse s!"wrong number of arguments in call to {name}"
          return .builtin function values

def primary : Nat → Reading (Expression × Bool)
  | 0 => fail
  | fuel + 1 => do
      match ← peek? with
      | some (.number quantity) =>
          advance
          return (.number quantity, true)
      | some (.text letters) =>
          advance
          return (.text letters, true)
      | some (.regex letters) =>
          advance
          return (← pattern letters, true)
      | some (.mark "(") =>
          advance
          let found ← expressions fuel
          expect ")"
          match found with
          | [only] =>
              let isField := match only with
                | .field _ => true
                | _ => false
              return (only, isField)
          | several =>
              if !(← takesWord "in") then fail
              else
                match ← peek? with
                | some (.name name) =>
                    advance
                    let array ← variableOf name
                    noteArray name array
                    return (.contains several array, true)
                | _ => fail
      | some (.called name) =>
          advance
          let isVariable := !(← get).functions.contains name && (← get).parameters.contains name
          if isVariable then return (.value (← variableOf name), true)
          else
            let given ← arguments fuel
            noteCall name given
            return (.call name given, true)
      | some (.builtin function) =>
          advance
          return (← builtinCall fuel function, true)
      | some (.word "getline") =>
          advance
          let target ← place? fuel
          if ← takesMark "<" then
            return (.read .file (some (← power fuel)) target, true)
          else return (.read .records none target, true)
      | some (.name name) =>
          let isCall := (← get).functions.contains name
          if isCall then
            advance
            let given ← arguments fuel
            noteCall name given
            return (.call name given, true)
          else return (← place fuel, true)
      | some (.mark "$") => return (← place fuel, true)
      | _ => fail

end

def isAtEnd : Reading Bool := do
  match ← peek? with
  | none | some .newline | some (.mark ";") | some (.mark "\x7d") => return true
  | _ => return false

def endStatement : Reading Unit := do
  match ← peek? with
  | some .newline | some (.mark ";") => advance
  | some (.mark "\x7d") | none => pure ()
  | _ => fail

def endsPrinting : Reading Bool := do
  match ← peek? with
  | some (.leadsTo _) => return true
  | _ => isAtEnd

def printed (fuel : Nat) : Reading (List Expression) := do
  if ← endsPrinting then return []
  else
    let before ← get
    let attempt : Reading (Option (List Expression)) := do
      let found ← arguments fuel
      return if (← endsPrinting) && found.length ≠ 1 then some found else none
    match if ← isMark "(" then attempt.run before else .ok (none, before) with
    | .ok (some found, after) =>
        set after
        return found
    | _ => expressions fuel

def whereTo (fuel : Nat) : Reading (Option (Target × Expression)) := do
  match ← peek? with
  | some (.leadsTo target) =>
      advance
      return some (target, ← expression fuel)
  | _ => return none

def optional (fuel : Nat) : Reading (Option Expression) := do
  if ← isAtEnd then return none else return some (← expression fuel)

mutual

def statements : Nat → Reading Statement
  | 0 => fail
  | fuel + 1 => do
      if ← takesMark "\x7d" then return .nothing
      else
        let first ← statement fuel
        return .sequence first (← statements fuel)

def block : Nat → Reading Statement
  | 0 => fail
  | fuel + 1 => do
      expect "\x7b"
      statements fuel

def guarded : Nat → Reading Statement
  | 0 => fail
  | fuel + 1 => do
      skipNewlines 1
      statement fuel

def looped : Nat → Reading Statement
  | 0 => fail
  | fuel + 1 => do
      modify fun reader => { reader with loops := reader.loops + 1 }
      let body ← guarded fuel
      modify fun reader => { reader with loops := reader.loops - 1 }
      return body

def statement : Nat → Reading Statement
  | 0 => fail
  | fuel + 1 => do
      let simple (found : Statement) : Reading Statement := do
        endStatement
        return found
      match ← peek? with
      | some (.mark "\x7b") => block fuel
      | some (.mark ";") | some .newline =>
          advance
          return .nothing
      | some (.word word) =>
          match word with
          | "if" =>
              advance
              expect "("
              let condition ← expression fuel
              expect ")"
              let positive ← guarded fuel
              if ← takesWord "else" then
                return .choice condition positive (← guarded fuel)
              else return .choice condition positive .nothing
          | "while" =>
              advance
              expect "("
              let condition ← expression fuel
              expect ")"
              return .loop condition (← looped fuel)
          | "do" =>
              advance
              let body ← looped fuel
              if !(← takesWord "while") then fail
              else
                expect "("
                let condition ← expression fuel
                expect ")"
                simple (.loopAfter body condition)
          | "for" =>
              advance
              expect "("
              counted fuel
          | "break" =>
              advance
              if (← get).loops = 0 then refuse "break statement outside of loop"
              simple .leave
          | "continue" =>
              advance
              if (← get).loops = 0 then refuse "continue statement outside of loop"
              simple .again
          | "next" =>
              advance
              if (← get).part ≠ .rule then refuse "improper use of next"
              simple .next
          | "nextfile" =>
              advance
              if (← get).part ≠ .rule then refuse "improper use of nextfile"
              simple .nextFile
          | "exit" =>
              advance
              simple (.finish (← optional fuel))
          | "return" =>
              advance
              if (← get).part ≠ .function then refuse "return outside function body"
              simple (.returns (← optional fuel))
          | "delete" =>
              advance
              match ← peek?, ← second? with
              | some (.name _), some (.mark "[") => do
                  match ← place fuel with
                  | .element array subscripts => simple (.erase array (some subscripts))
                  | _ => fail
              | some (.name name), _ => do
                  advance
                  let array ← variableOf name
                  noteArray name array
                  simple (.erase array none)
              | _, _ => fail
          | "print" | "printf" =>
              advance
              let found ← printed fuel
              if word = "printf" && found.isEmpty then refuse "no arguments in call to printf"
              let target ← whereTo fuel
              simple (.print (word = "printf") found target)
          | "getline" => simple (.evaluate (← expression fuel))
          | _ => fail
      | _ => simple (.evaluate (← expression fuel))

def counted : Nat → Reading Statement
  | 0 => fail
  | fuel + 1 => do
      let tokens := (← get).tokens.map PlacedToken.token
      match tokens with
      | .name target :: .word "in" :: .name array :: .mark ")" :: _ =>
          for _ in [1, 2, 3, 4] do advance
          let variable_ ← variableOf target
          noteKind false target variable_
          let source ← variableOf array
          noteArray array source
          return .each variable_ source (← looped fuel)
      | _ =>
          let part (ending : String) : Reading (Option Expression) := do
            if ← takesMark ending then return none
            else
              let found ← expression fuel
              expect ending
              return some found
          let start ← part ";"
          let condition ← part ";"
          let step ← part ")"
          let run (part : Option Expression) : Statement := part.elim .nothing .evaluate
          return .count (run start) condition (run step) (← looped fuel)

end

def parameterNames : Nat → Reading (List String)
  | 0 => fail
  | fuel + 1 => do
      match ← peek? with
      | some (.mark ")") =>
          advance
          return []
      | some (.name name) =>
          advance
          if ← takesMark "," then return name :: (← parameterNames fuel)
          else
            expect ")"
            return [name]
      | _ => fail

def function (fuel : Nat) : Reading Function := do
  match ← peek? with
  | some (.name name) | some (.called name) =>
      advance
      if (← get).kinds.any (·.1 = .global name) then
        refuse s!"illegal reference to variable {name}"
      expect "("
      let parameters ← parameterNames fuel
      if let some twice := parameters.find? fun name => 1 < parameters.count name then
        refuse s!"{twice} is duplicated in argument list"
      if parameters.contains name then refuse "function parameter cannot be the function"
      skipNewlines 1
      modify fun reader => { reader with current := name, parameters, part := .function }
      let body ← block fuel
      modify fun reader =>
        { reader with
          current := ""
          parameters := []
          part := .rule
          kinds := reader.kinds.filter fun kind => kind.1 matches .global _ }
      return ⟨name, parameters, body⟩
  | _ => fail

def rule (fuel : Nat) : Reading Rule := do
  let edge (condition : When) : Reading Rule := do
    modify fun reader => { reader with part := .edge }
    let action ← block fuel
    modify fun reader => { reader with part := .rule }
    return ⟨condition, some action⟩
  let action (condition : When) : Reading Rule := do
    if ← isMark "\x7b" then return ⟨condition, some (← block fuel)⟩
    else
      endStatement
      return ⟨condition, none⟩
  if ← takesWord "BEGIN" then edge .first
  else if ← takesWord "END" then edge .last
  else if ← isMark "\x7b" then return ⟨.always, some (← block fuel)⟩
  else
    let start ← expression fuel
    if ← takesMark "," then action (.between start (← expression fuel))
    else action (.holds start)

def skipSemicolon : Reading Unit := do
  let reader ← get
  match reader.tokens with
  | placed :: _ =>
      if placed.line = reader.line && placed.token matches .mark ";" then advance
  | [] => pure ()

def items (fuel : Nat) : Nat → Reading (List (Sum Rule Function))
  | 0 => return []
  | count + 1 => do
      match ← peek? with
      | none => return []
      | some (.word "function") =>
          advance
          let first ← function fuel
          skipSemicolon
          return .inr first :: (← items fuel count)
      | _ =>
          let first ← rule fuel
          if first.action.isSome then skipSemicolon
          return .inl first :: (← items fuel count)

def functionNames : List Token → List String
  | .word "function" :: .called name :: rest | .word "function" :: .name name :: rest =>
      name :: functionNames rest
  | _ :: rest => functionNames rest
  | [] => []

def arrayParameters (facts : List ArrayFact) : List (String × Nat) :=
  let direct := facts.filterMap fun fact => match fact with
    | .isArray function index => some (function, index)
    | _ => none
  let step (known : List (String × Nat)) : List (String × Nat) :=
    facts.foldl (fun known fact =>
      match fact with
      | .isGivenTo function index other position =>
          if known.contains (other, position) && !known.contains (function, index) then
            (function, index) :: known
          else known
      | .isArray _ _ => known) known
  (List.range facts.length).foldl (fun known _ => step known) direct.eraseDups

def extraProblems (tokens : List PlacedToken) : List Problem :=
  tokens.filterMap fun placed => match placed.token with
    | .extra mark => some ⟨placed.line, s!"extra '{mark}'"⟩
    | _ => none

def isExtra (placed : PlacedToken) : Bool := placed.token matches .extra _

def unclosedBraces (tokens : List PlacedToken) : Nat :=
  let count (mark : String) : Nat := (tokens.filter fun placed => match placed.token with
    | .mark found => found = mark
    | _ => false).length
  count "\x7b" - count "\x7d"

def callProblem? (arrayParameters : List (String × Nat)) (functions : List Function)
    (call : Call) : Option Problem :=
  let isPlain : Expression → Bool
    | .value _ => false
    | _ => true
  (functions.find? (·.name = call.name)).bind fun function =>
    if function.parameters.length < call.arguments.length then
      some ⟨call.line, s!"too many arguments in call to {call.name}"⟩
    else
      let wrong := call.arguments.zipIdx.find? fun (argument, index) =>
        isPlain argument && arrayParameters.contains (call.name, index)
      wrong.map fun (_, index) =>
        let position := index + 1
        ⟨call.line, s!"type error in arg({position}) in call to {call.name} " ++
          "(actual local variable vs local array)"⟩

def lastProblems (reader : Reader) (first : Problem) : List Problem :=
  let atEnd := first.line + 1 = reader.lastLine && first.text.endsWith "near end of line"
  if atEnd && 0 < reader.unclosed then [⟨reader.lastLine, "missing \x7d near end of file"⟩] else []

end Reading

-- The program that a text spells, or what is wrong with it. Some variables are known to be no
-- arrays, and others to be such.
def Program.ofText (plain arrays : List String) (text : Text) : Except (List Problem) Program :=
  let all := Scanner.ofProgram text
  let tokens := all.filter fun placed => !Reading.isExtra placed
  let extra := Reading.extraProblems all
  let lastLine := text.count '\n' + 2
  let known (isArray : Bool) (names : List String) : List (Variable × Bool) :=
    names.map fun name => (.global name, isArray)
  let reader : Reader :=
    { tokens
      line := 1
      lastLine
      unclosed := Reading.unclosedBraces tokens
      functions := Reading.functionNames (tokens.map PlacedToken.token)
      part := .rule
      loops := 0
      current := ""
      parameters := []
      facts := []
      kinds := known false plain ++ known true arrays
      calls := [] }
  let fuel := 40 * tokens.length + 100
  match (Reading.items fuel (tokens.length + 1)).run reader with
  | .error problem => .error (extra ++ problem :: Reading.lastProblems reader problem)
  | .ok (items, reader) =>
      let rules := items.filterMap fun item => match item with
        | .inl rule => some rule
        | .inr _ => none
      let functions := items.filterMap fun item => match item with
        | .inr function => some function
        | .inl _ => none
      let names := functions.map Function.name
      let arrayParameters := Reading.arrayParameters reader.facts
      let undefined := ((reader.calls.map Call.name).filter (!names.contains ·)).eraseDups
      let wrong := reader.calls.reverse.filterMap
        (Reading.callProblem? arrayParameters functions)
      let twice := names.filter fun name => 1 < names.count name
      let problems := extra ++ undefined.map (fun name =>
          Problem.mk lastLine s!"function {name} never defined") ++
        (twice.take 1).map (fun name => Problem.mk reader.line s!"redefinition of {name}") ++ wrong
      if problems.isEmpty then .ok ⟨rules, functions, arrayParameters⟩
      else .error problems

end PackageClosure.Shell.Awk
