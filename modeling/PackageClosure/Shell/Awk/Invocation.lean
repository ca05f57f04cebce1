import PackageClosure.Shell.Awk.Evaluation
import PackageClosure.Shell.Awk.Reader

set_option autoImplicit false

namespace PackageClosure.Shell.Awk

inductive Task where
  | program (files operands : List Text)
  | version
  | usage
  | nothing

def versionText : String := "mawk 1.3.4 20240123\n"

def usageText : String :=
  "Usage: mawk [Options] [Program] [file ...]\n\nProgram:\n" ++
  "    The -f option value is the name of a file containing program text.\n" ++
  "    If no -f option is given, a \"--\" ends option processing; the following\n" ++
  "    parameters are the program text.\n\nOptions:\n" ++
  "    -f program-file  Program  text is read from file instead of from the\n" ++
  "                     command-line.  Multiple -f options are accepted.\n" ++
  "    -F value         sets the field separator, FS, to value.\n" ++
  "    -v var=value     assigns value to program variable var.\n" ++
  "    --               unambiguous end of options.\n\n" ++
  "    Implementation-specific options are prefixed with \"-W\".  They can be\n" ++
  "    abbreviated:\n\n" ++
  "    -W version       show version information and exit.\n" ++
  "    -W compat        pre-POSIX 2001.\n" ++
  "    -W dump          show assembler-like listing of program and exit.\n" ++
  "    -W help          show this message and exit.\n" ++
  "    -W interactive   set unbuffered output, line-buffered input.\n" ++
  "    -W exec file     use file as program as well as last option.\n" ++
  "    -W posix         stricter POSIX checking.\n" ++
  "    -W random=number set initial random seed.\n" ++
  "    -W sprintf=number adjust size of sprintf buffer.\n" ++
  "    -W usage         show this message and exit.\n"

inductive Extra where
  | version
  | usage
  | exec
  | dump
  | number
  | nothing
  deriving DecidableEq

def extras : List (String × Extra) :=
  [("version", .version), ("dump", .dump), ("exec", .exec), ("help", .usage),
    ("interactive", .nothing), ("posix", .nothing), ("random", .number), ("sprintf", .number),
    ("traditional", .nothing), ("usage", .usage)]

def silentWords : List String := ["lint", "lint-old", "re-interval", "re-int"]

def extra? (word : String) : Option Extra :=
  if word.isEmpty then none else (extras.find? fun entry => entry.1.startsWith word).map Prod.snd

namespace Run

def complain (problem : String) : Run Unit :=
  modify fun machine =>
    let name := Utility.lastPiece machine.state.name
    { machine with state := machine.state.emitError s!"{name}: {problem}\n" }

-- Takes words behind an option of its own, and says what is to be done if it is something other
-- than to go on. The arguments that follow are passed along.
def takeExtras (spelled : String) : List String → List Text → Run (Option Task × List Text)
  | [], rest => return (none, rest)
  | word :: words, rest => do
      let name := (word.takeWhile (· ≠ '=')).toString
      let value? := if word.contains '=' then some (word.drop (name.length + 1)).toString else none
      match extra? name.toLower with
      | some .version => return (some .version, rest)
      | some .usage => return (some .usage, rest)
      | some .dump => return (some .nothing, rest)
      | some .exec =>
          match value?, rest with
          | some file, rest => return (some (.program [innerText file] rest), rest)
          | none, file :: rest => return (some (.program [file] rest), rest)
          | none, [] => return (some (.program [] []), rest)
      | some .number =>
          let (value, rest) := match value? with
            | some value => (value, rest)
            | none => (outerText (rest.headD []), rest.drop 1)
          if value.toInt?.isNone then fail s!"invalid numeric option: \"{value}\""
          takeExtras spelled words rest
      | some .nothing => takeExtras spelled words rest
      | none => do
          if !spelled.isEmpty then complain s!"vacuous option: -W \"{spelled}\""
          return (none, rest)

def checkDivider (text : Text) : Run Unit := do
  match Separator.ofText text with
  | .ok _ => pure ()
  | .error problem =>
      let shown := outerText text
      fail s!"line 0: regular expression compile failed ({problem})\n{shown}"

def takeOptions : Nat → List Text → List Text → Run Task
  | 0, files, rest => return .program files rest
  | _, files, [] => return .program files []
  | fuel + 1, files, argument :: rest => do
      let withValue (letter : Char) (more : Text) (take : Text → List Text → Run Task) :
          Run Task := do
        match more, rest with
        | [], [] => fail s!"option -{letter} lacks argument"
        | [], value :: rest => take value rest
        | value, rest => take value rest
      let extra (spelled : Text) (rest : List Text) : Run Task := do
        let shown := outerText spelled
        let words := (Text.pieces ',' shown.toList).map String.ofList
        match ← takeExtras shown words rest with
        | (some task, _) => return task
        | (none, rest) => takeOptions fuel files rest
      match argument with
      | ['-', '-'] => return .program files rest
      | '-' :: '-' :: word =>
          let name := String.ofList (word.takeWhile (· ≠ '='))
          if silentWords.contains name then takeOptions fuel files rest
          else if (extra? name).isSome then extra word rest
          else fail s!"not an option: {outerText argument}"
      | '-' :: 'f' :: more =>
          withValue 'f' more (fun file rest => takeOptions fuel (files ++ [file]) rest)
      | '-' :: 'F' :: more =>
          withValue 'F' more (fun text rest => do
            let separator := Spelling.unescaped (text.length + 1) text
            checkDivider separator
            putGlobal "FS" (.text separator)
            takeOptions fuel files rest)
      | '-' :: 'v' :: more =>
          withValue 'v' more (fun text rest => do
            match assignment? text with
            | some (name, value) =>
                if name = "FS" || name = "RS" then checkDivider value
                assignOperand name value
                takeOptions fuel files rest
            | none => fail s!"improper assignment: -v {outerText text}")
      | '-' :: 'W' :: more => withValue 'W' more extra
      | '-' :: _ :: _ => fail s!"not an option: {outerText argument}"
      | _ => return .program files (argument :: rest)

def ending (action : Run Unit) : Run (Option Signal) := fun machine =>
  match action machine with
  | .ok () after => .ok none after
  | .error signal after => .ok (some signal) after

def nesting : Nat := 100000

-- Takes the action of a rule. Without one the record is printed.
def perform (rule : Rule) : Run Unit := do
  modify fun machine => { machine with waiting := 0 }
  match rule.action with
  | none => writeValues none [(← get).record]
  | some action =>
      let _ ← execute nesting action

-- Whether a rule is for the record. What it says of a range is kept in mind.
def applies (index : Nat) (condition : When) : Run Bool := do
  let holds (expression : Expression) : Run Bool :=
    return (← evaluate nesting expression).holds
  match condition with
  | .first | .last => return false
  | .always => return true
  | .holds expression => holds expression
  | .between start stop =>
      let begun := (← get).inside.contains index
      if !begun then
        if !(← holds start) then return false
      let ends ← holds stop
      modify fun machine =>
        let others := machine.inside.filter (· ≠ index)
        { machine with inside := if ends then others else index :: others }
      return true

def applyRules : Run Unit := do
  for (rule, index) in (← get).program.rules.zipIdx do
    if ← applies index rule.condition then perform rule

def applyToAll : Nat → Run Unit
  | 0 => pure ()
  | fuel + 1 => do
      match ← nextRecord? with
      | none => pure ()
      | some record =>
          setRecord (.input record)
          match ← ending applyRules with
          | none | some .next => applyToAll fuel
          | some .nextFile =>
              modify fun machine => { machine with reading := none }
              applyToAll fuel
          | some signal => throw signal

def isFirst (rule : Rule) : Bool :=
  match rule.condition with
  | .first => true
  | _ => false

def isLast (rule : Rule) : Bool :=
  match rule.condition with
  | .last => true
  | _ => false

def performAll (rules : List Rule) : Run Unit := do
  for rule in rules do perform rule

-- Goes through a program. What ends it early does not keep the last rules from being applied.
def wholeProgram : Run Unit := do
  let rules := (← get).program.rules
  let others := rules.filter (!isFirst ·)
  let last := rules.filter isLast
  let body : Run Unit := do
    performAll (rules.filter isFirst)
    if !others.isEmpty then applyToAll roundLimit
  match ← ending body with
  | some (.fatal problem) => fail problem
  | _ => pure ()
  match ← ending (performAll last) with
  | some (.fatal problem) => fail problem
  | _ => pure ()

def programText (files : List Text) : Run Text := do
  let texts ← files.mapM fun file => do
    match ← contents? file with
    | .ok text => pure text
    | .error error => fail s!"cannot open \"{outerText file}\" ({Utility.reason error})"
  return (texts.intersperse ['\n']).flatten

def setOperands (operands : List Text) : Run Unit := do
  let name := innerText (Utility.lastPiece (← get).state.name)
  putGlobal "ARGC" (.ofNat (operands.length + 1))
  let number ← arrayOf (.global "ARGV")
  let table := (name :: operands).zipIdx.foldl (fun (table : Table) (operand, index) =>
    table.assign (.number index) (.input operand)) Table.empty
  putTable number table

def setEnvironment : Run Unit := do
  let number ← arrayOf (.global "ENVIRON")
  let table := (← get).state.environment.foldl (fun (table : Table) (name, value) =>
    table.assign (.name (innerText name)) (.input (innerText value))) Table.empty
  putTable number table

def arrayNames : List String := ["ENVIRON", "ARGV"]

def task (arguments : List Text) : Run Unit := do
  if arguments.isEmpty then
    modify fun machine => { machine with state := machine.state.emitError usageText }
  else
    match ← takeOptions (arguments.length + 1) [] arguments with
    | .nothing => pure ()
    | .version => write none versionText.toList
    | .usage => write none usageText.toList
    | .program files operands =>
        let text ← if files.isEmpty then pure (operands.headD []) else programText files
        let operands := if files.isEmpty then operands.drop 1 else operands
        let plain := ((← get).globals.map Prod.fst).filter fun name => !arrayNames.contains name
        match Program.ofText plain arrayNames text with
        | .error problems =>
            let file := match files.getLast? with
              | some file => outerText file ++ ": "
              | none => ""
            for problem in problems.dropLast do complain (file ++ problem.message)
            for problem in problems.getLast? do fail (file ++ problem.message)
        | .ok program =>
            modify fun machine => { machine with program }
            setOperands operands
            setEnvironment
            wholeProgram

end Run

def startGlobals : List (String × Value) :=
  [("FS", .ofString " "), ("OFS", .ofString " "), ("ORS", .ofString "\n"), ("RS", .ofString "\n"),
    ("SUBSEP", .ofString "\x1c"), ("CONVFMT", .ofString "%.6g"), ("OFMT", .ofString "%.6g"),
    ("NR", .ofNat 0), ("FNR", .ofNat 0), ("NF", .ofNat 0)]

def Machine.initial (start : Starter) (state : State) : Machine :=
  { state, start
    program := ⟨[], [], []⟩
    globals := startGlobals
    arrays := []
    tables := []
    next := 0
    parameters := #[]
    waiting := 0
    record := .unset
    fields := []
    printed := []
    outlets := []
    inlets := []
    operand := 1
    reading := none
    hasRead := false
    inside := []
    code := 0
    seed := .ofInt (state.disk.time / Moment.billion)
    chance := (state.disk.time % Nat.pow 2 48).toNat }

def runProgram (start : Starter) (arguments : List String) : Action ExitStatus := fun state =>
  let whole : Run Unit := do
    match ← Run.ending (Run.task (arguments.map innerText)) with
    | some (.fatal problem) =>
        Run.complain problem
        modify fun machine => { machine with code := 2 }
    | _ => pure ()
    let _ ← Run.ending Run.closeAll
  match whole (Machine.initial start state) with
  | .ok _ machine | .error _ machine => .ok (.exited machine.code) machine.state

end PackageClosure.Shell.Awk
