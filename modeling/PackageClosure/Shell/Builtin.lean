import PackageClosure.Shell.External

set_option autoImplicit false

namespace PackageClosure.Shell.Run

def speaking {α : Type} (name : String) (action : Action α) : Action α := do
  let before := (← get).speaker
  modify fun state => { state with speaker := some name }
  action.finallyDo (modify fun state => { state with speaker := before })

def succeed : Action Unit := Action.returning 0

def numberOr (otherwise : Nat) : List String → Action Nat
  | [] => return otherwise
  | text :: _ =>
      match Arithmetic.integer? false text.toList with
      | some (.ofNat value) => return value
      | _ => Action.fail s!"Illegal number: {text}"

def isName (text : List Char) : Bool :=
  text.head?.any Scan.isNameStart && text.all Scan.isNameRest

def splitAssignment (argument : String) : Action (String × Option String) := do
  let name := argument.toList.takeWhile (· ≠ '=')
  if isName name then
    let value :=
      if argument.contains '=' then some (argument.drop (name.length + 1)).toString else none
    return (String.ofList name, value)
  else Action.fail s!"{String.ofList name}: bad variable name"

def requoted (value : String) : String :=
  "'" ++ value.replace "'" "'\"'\"'" ++ "'"

def showVariables (word : String) (wanted : State → String → Bool) : Action Unit := do
  let state ← get
  let chosen := state.bindings.filter fun entry => wanted state entry.1
  let sorted := chosen.mergeSort fun left right => decide (left.1 ≤ right.1)
  for (name, value) in sorted do Action.emitText s!"{word}{name}={requoted value}\n"
  succeed

def lettersOf (known : List Char) : List String → Action (List Char × List String)
  | [] => return ([], [])
  | "--" :: rest => return ([], rest)
  | argument :: rest => do
      match argument.toList with
      | '-' :: first :: more =>
          let letters := first :: more
          match letters.find? (!known.contains ·) with
          | some wrong => Action.fail s!"Illegal option -{wrong}"
          | none =>
              let (found, operands) ← lettersOf known rest
              return (letters ++ found, operands)
      | _ => return ([], argument :: rest)

def plainOperands (arguments : List String) : Action (List String) :=
  return (← lettersOf [] arguments).2

def withoutDashes : List String → List String
  | "--" :: rest => rest
  | arguments => arguments

def exportAll (arguments : List String) : Action Unit := do
  let (letters, operands) ← lettersOf ['p'] arguments
  if operands.isEmpty || letters.contains 'p' then
    showVariables "export " fun state name => state.exported.contains name
  else
    for argument in operands do
      let (name, value) ← splitAssignment argument
      if let some value := value then Action.assign name value
      modify (·.exportVariable name)
    succeed

def keepConstant (arguments : List String) : Action Unit := do
  let (letters, operands) ← lettersOf ['p'] arguments
  if operands.isEmpty || letters.contains 'p' then
    showVariables "readonly " fun state name => state.constants.contains name
  else
    for argument in operands do
      let (name, value) ← splitAssignment argument
      if let some value := value then Action.assign name value
      modify fun state => { state with constants := name :: state.constants }
    succeed

def makeLocal (arguments : List String) : Action Unit := do
  for argument in arguments do
    let (name, value) ← if argument = "-" then pure ("-", none) else splitAssignment argument
    let state ← get
    match state.hidden with
    | none => Action.fail "not in a function"
    | some hidden =>
        let known := hidden.any (·.name = name)
        set { state with hidden := some (if known then hidden else state.hide name :: hidden) }
        if let some value := value then Action.assign name value
  if (← get).hidden.isNone then Action.fail "not in a function" else succeed

def unsetAll (arguments : List String) : Action Unit := do
  let (letters, names) ← lettersOf ['v', 'f'] arguments
  let functions := letters.getLast? = some 'f'
  for name in names do
    let state ← get
    if functions then
      set { state with functions := state.functions.filter (·.1 ≠ name) }
    else if !isName name.toList then Action.fail s!"{name}: bad variable name"
    else if state.constants.contains name then Action.fail s!"{name}: is read only"
    else set (state.unsetVariable name)
  succeed

def setParameters (arguments : List String) : Action Unit := do
  if arguments.isEmpty then showVariables "" fun _ _ => true
  else
    let (_, operands) ← takeOptions [] (arguments.length + 1) arguments
    if let some arguments := operands then modify fun state => { state with arguments }
    succeed

def shiftParameters (arguments : List String) : Action Unit := do
  let count ← numberOr 1 arguments
  let state ← get
  if count ≤ state.arguments.length then
    set { state with arguments := state.arguments.drop count, status := 0 }
  else Action.fail "can't shift that many"

-- A line of some input, with those characters marked that a backslash stands before, and whether
-- it ends with a newline. The rest of the input is returned as well.
def inputLine (raw : Bool) : Nat → Bytes → List (UInt8 × Bool) × Bool × Bytes
  | 0, rest => ([], false, rest)
  | fuel + 1, bytes =>
      match bytes with
      | [] => ([], false, [])
      | 10 :: rest => ([], true, rest)
      | 92 :: next :: rest =>
          if raw then
            let (line, ended, after) := inputLine raw fuel (next :: rest)
            ((92, false) :: line, ended, after)
          else if next = 10 then inputLine raw fuel rest
          else
            let (line, ended, after) := inputLine raw fuel rest
            ((next, true) :: line, ended, after)
      | byte :: rest =>
          let (line, ended, after) := inputLine raw fuel rest
          if byte = 0 || (byte = 92 && !raw) then (line, ended, after)
          else ((byte, false) :: line, ended, after)

abbrev MarkedBytes := List (UInt8 × Bool)

def textOf (bytes : MarkedBytes) : String := String.ofList (Text.rawText (bytes.map Prod.fst))

def isAmong (characters : List Char) (byte : UInt8 × Bool) : Bool :=
  !byte.2 && characters.contains (Char.ofNat byte.1.toNat)

def afterSeparator (separators : Separators) (text : MarkedBytes) : MarkedBytes :=
  let rest := text.dropWhile (isAmong separators.blanks)
  match rest with
  | byte :: more =>
      if isAmong separators.others byte then more.dropWhile (isAmong separators.blanks) else rest
  | [] => []

def fill (separators : Separators) : List String → MarkedBytes → Action Unit
  | [], _ => pure ()
  | name :: more, text => do
      let isEnd (byte : UInt8 × Bool) : Bool :=
        isAmong separators.blanks byte || isAmong separators.others byte
      let field := text.takeWhile (!isEnd ·)
      let rest := afterSeparator separators (text.drop field.length)
      if more.isEmpty && !rest.isEmpty then
        let trimmed := (text.reverse.dropWhile (isAmong separators.blanks)).reverse
        Action.assign name (textOf trimmed)
      else
        Action.assign name (textOf field)
        fill separators more rest

def readLine (arguments : List String) : Action Unit := do
  let switches : Switches := ⟨"r", "pnt", []⟩
  match switches.read true arguments with
  | .error problem =>
      Action.fail <| match problem.toList.reverse with
        | _ :: letter :: _ => s!"Illegal option -{letter}"
        | _ => problem
  | .ok given =>
      if given.operands.isEmpty then Action.fail "arg count"
      for name in given.operands do
        if !isName name.toList then Action.fail s!"{name}: bad variable name"
      let state ← get
      let bytes := state.input
      let (line, ended, rest) := inputLine (given.has 'r') (bytes.length + 1) bytes
      set (state.afterReading rest)
      let separators := state.separators
      fill separators given.operands (line.dropWhile (isAmong separators.blanks))
      Action.returning (if ended then 0 else 1)

def readOption (arguments : List String) : Action Unit := do
  match arguments with
  | wanted :: name :: given =>
      let state ← get
      let words := if given.isEmpty then state.arguments else given
      let index := ((state.bindings.lookup "OPTIND").bind String.toNat?).getD 1
      let quiet := wanted.startsWith ":"
      let letters := wanted.toList
      let within :=
        if state.optionPlace = 0 then []
        else ((words.getD (index - 2) "").toList).drop state.optionPlace
      let finish (letter : Char) (index place status : Nat) : Action Unit := do
        Action.assign "OPTIND" (toString index)
        Action.assign name (String.singleton letter)
        modify fun state => { state with optionPlace := place, status }
      let fresh : Option (List Char) := match within with
        | _ :: _ => none
        | [] =>
            match (words[index - 1]?).map String.toList with
            | some ('-' :: first :: more) => some (first :: more)
            | _ => some []
      let (cluster, index, place) := match fresh with
        | none => (within, index, state.optionPlace)
        | some cluster => (cluster, index + 1, 1)
      match cluster with
      | [] => finish '?' (index - 1) 0 1
      | letter :: rest =>
          if fresh.isSome && letter = '-' && rest.isEmpty then finish '?' index 0 1
          else
            let place := place + 1
            let known := letter ≠ ':' && letters.contains letter
            let follows := (letters.dropWhile (· ≠ letter)).drop 1
            if !known then
              if quiet then Action.assign "OPTARG" (String.singleton letter)
              else
                modify fun state =>
                  (state.emitError s!"Illegal option -{letter}\n").unsetVariable "OPTARG"
              finish '?' index place 0
            else if follows.head? = some ':' then
              match rest, words[index - 1]? with
              | _ :: _, _ =>
                  Action.assign "OPTARG" (String.ofList rest)
                  finish letter index 0 0
              | [], some value =>
                  Action.assign "OPTARG" value
                  finish letter (index + 1) 0 0
              | [], none =>
                  if quiet then
                    Action.assign "OPTARG" (String.singleton letter)
                    finish ':' index 0 0
                  else
                    modify fun state =>
                      (state.emitError s!"No arg for -{letter} option\n").unsetVariable "OPTARG"
                    finish '?' index 0 0
            else
              Action.assign "OPTARG" ""
              finish letter index place 0
  | _ => Action.fail "Usage: getopts optstring var [arg]"

def signalName (number : Nat) : String :=
  let above (name : String) (count : Nat) : String :=
    if count = 0 then name else s!"{name}+{count}"
  if number = 0 then "EXIT"
  else if number = 16 || number = 32 || number = 33 then toString number
  else if 34 ≤ number && number < 50 then above "RTMIN" (number - 34)
  else if 50 ≤ number && number < 64 then s!"RTMAX-{64 - number}"
  else if number = 64 then "RTMAX"
  else (ExitStatus.signalName? number).getD (toString number)

def signalLimit : Nat := 64

def signal? (text : String) : Option Nat :=
  match text.toNat? with
  | some number => if number ≤ signalLimit then some number else none
  | none => (List.range (signalLimit + 1)).find? fun number => signalName number = text.toUpper

def receive (run : Runner) (number : Nat) : Action Unit := do
  let state ← get
  match state.traps.lookup (signalName number) with
  | some "" => succeed
  | some text =>
      script run false 1 text.toList
      succeed
  | none => if ExitStatus.isFatal number then throw (.killed number) else succeed

def killUsage : String :=
  "Usage: kill [-s sigspec | -signum | -sigspec] [pid | job]... or\nkill -l [exitstatus]"

def sendSignal (run : Runner) (number : Nat) (target : String) : Action Unit := do
  let state ← get
  match target.toNat? with
  | none => Action.fail s!"Illegal number: {target}"
  | some process =>
      if process = state.process then
        if number = 0 then succeed else receive run number
      else if (state.jobs.lookup process).isSome then
        set { state with
          jobs := state.jobs.map fun (job : Nat × Nat) =>
            if job.1 = process then (process, 128 + number) else job
          status := 0 }
      else
        Action.complain "No such process\n"
        Action.returning 1

def kill (run : Runner) (arguments : List String) : Action Unit := do
  let send (number : Nat) (targets : List String) : Action Unit := do
    if targets.isEmpty then Action.fail killUsage
    else for target in targets do sendSignal run number target
  match arguments with
  | "-l" :: [] =>
      Action.emitText <| "".intercalate <| (List.range (signalLimit + 1)).map fun number =>
        (if number = 0 then "0" else signalName number) ++ "\n"
      succeed
  | "-l" :: text :: _ =>
      let given ← numberOr 0 [text]
      let number := if 128 < given then given - 128 else given
      if number = 0 || signalLimit < number then
        Action.fail s!"invalid signal number or exit status: {given}"
      Action.emitText (signalName number ++ "\n")
      succeed
  | "-s" :: name :: targets =>
      match signal? name with
      | some number => send number (withoutDashes targets)
      | none => Action.fail s!"invalid signal number or name: {name}"
  | "--" :: targets => send 15 targets
  | first :: targets =>
      match first.toList with
      | '-' :: letter :: more =>
          match signal? (String.ofList (letter :: more)) with
          | some number => send number (withoutDashes targets)
          | none => Action.fail s!"Illegal option -{letter}"
      | _ => send 15 (first :: targets)
  | [] => Action.fail killUsage

def setTraps (arguments : List String) : Action Unit := do
  let arguments ← plainOperands arguments
  match arguments with
  | [] =>
      let number (entry : String × String) : Nat := (signal? entry.1).getD 0
      let sorted := (← get).traps.mergeSort fun left right => number left ≤ number right
      for (name, text) in sorted do Action.emitText s!"trap -- {requoted text} {name}\n"
      succeed
  | first :: rest =>
      let (text, names) :=
        if rest.isEmpty then (none, [first])
        else (if first = "-" then none else some first, rest)
      match names.find? fun name => (signal? name).isNone with
      | some wrong =>
          modify fun state => state.emitError s!"trap: {wrong}: bad trap\n"
          Action.returning 1
      | none =>
          for name in names do
            let name := signalName ((signal? name).getD 0)
            modify fun state =>
              let others := state.traps.filter (·.1 ≠ name)
              { state with traps := (text.map fun text => (name, text)).toList ++ others }
          succeed

def awaitJobs (arguments : List String) : Action Unit := do
  match ← plainOperands arguments with
  | [] => succeed
  | targets =>
      for target in targets do
        match target.toNat? with
        | none => Action.fail s!"Illegal number: {target}"
        | some process => Action.returning (((← get).jobs.lookup process).getD 127)

-- The paths that a directory may have: below those of a list of directories, unless its name says
-- where it is. Says whether the path is to be shown.
def directoryPaths (state : State) (name : String) : List (String × Bool) :=
  let placed := name.startsWith "/" || name = "." || name = ".." || name.startsWith "./" ||
    name.startsWith "../"
  match placed, state.bindings.lookup "CDPATH" with
  | false, some directories =>
      (Text.pieces ':' directories.toList).map fun directory =>
        let text := String.ofList directory
        if text.isEmpty then (name, false)
        else (text ++ "/" ++ name, true)
  | _, _ => []

def changeDirectory (arguments : List String) : Action Unit := do
  let (letters, operands) ← lettersOf ['L', 'P'] arguments
  let physical := letters.getLast? = some 'P'
  let state ← get
  let named := operands.head?
  let target := match named with
    | none => (state.bindings.lookup "HOME").getD ""
    | some "-" => (state.bindings.lookup "OLDPWD").getD ""
    | some target => target
  let isDirectory (path : String) : Bool :=
    match state.disk.stat state.current ⟨path⟩ with
    | .ok (.directory _) => true
    | _ => false
  let (found, listed) := ((directoryPaths state target).find? (isDirectory ·.1)).getD
    (if target.isEmpty then "." else target, false)
  let path := ((⟨state.here⟩ : Path).join ⟨found⟩)
  let rooted := path.text.startsWith "//" && !path.text.startsWith "///"
  let logical := !physical && path.isAbsolute
  let path := if logical then path.normalize else ⟨found⟩
  match state.disk.find state.current true path with
  | .ok ⟨place, some (.directory _)⟩ =>
      let shown := if !logical then (Place.location place).path.text
        else if rooted then "/" ++ path.text else path.text
      modify fun state =>
        let moved := { state with current := state.disk.hold place }
        let before := moved.setVariable "OLDPWD" state.here
        ((before.setVariable "PWD" shown).exportVariable "OLDPWD").exportVariable "PWD"
      if listed || named = some "-" then Action.emitText s!"{shown}\n"
      succeed
  | _ => Action.fail s!"can't cd to {target}"

def showDirectory (arguments : List String) : Action Unit := do
  let (letters, _) ← lettersOf ['L', 'P'] arguments
  let state ← get
  let path := if letters.getLast? = some 'P' then state.directory?.getD state.here else state.here
  Action.emitText s!"{path}\n"
  succeed

def changeMask (arguments : List String) : Action Unit := do
  let (letters, operands) ← lettersOf ['S'] arguments
  let state ← get
  match operands with
  | [] =>
      Action.emitText <|
        (if letters.isEmpty then Mode.digits 4 state.mask else Mode.clauses state.mask) ++ "\n"
      succeed
  | text :: _ =>
      if text.toList.head?.any Char.isDigit then
        if text.toList.all Mode.isOctal then
          set { state with mask := Mode.octal text.toList &&& 0o777, status := 0 }
        else Action.fail s!"Illegal number: {text}"
      else
        match Mode.changes? text with
        | some changes =>
            let left := Mode.apply changes false 0 (0o777 - state.mask)
            set { state with mask := 0o777 - (left &&& 0o777), status := 0 }
        | none => Action.fail s!"Illegal mode: {text}"

def writeOut (name : String) (bytes : Bytes) : Action Unit := do
  if ((← get).channel? 1).isNone && !bytes.isEmpty then
    Action.fail s!"{name}: I/O error"
  else Action.emit bytes

def echo (arguments : List String) : Action Unit := do
  match (← (writeOut "echo" (Format.echo arguments)).outcome) with
  | .ok () => succeed
  | .error _ => Action.returning 1

def printf (arguments : List String) : Action Unit := do
  match arguments with
  | "--" :: format :: rest | format :: rest =>
      let written := Format.printf .shell format rest
      for problem in written.problems do Action.complain problem
      writeOut "printf" written.bytes
      Action.returning (if written.broken then 2 else if written.problems.isEmpty then 0 else 1)
  | [] => Action.fail "usage: printf format [arg ...]"

def test (arguments : List String) : Action Unit := do
  match Condition.decide (← get) arguments with
  | .ok value => Action.returning (if value then 0 else 1)
  | .error problem => Action.fail problem

def bracket (arguments : List String) : Action Unit :=
  if arguments.getLast? = some "]" then test arguments.dropLast else Action.fail "missing ]"

def regularNames : List String :=
  ["[", "alias", "bg", "cd", "command", "echo", "false", "fg", "getopts", "hash", "jobs", "kill",
    "printf", "pwd", "read", "test", "true", "type", "ulimit", "umask", "unalias", "wait"]

def aliasPlace (name : String) : Nat :=
  let bytes := Text.rawBytes name.toList
  let start := (bytes.head?.map UInt8.toNat).getD 0 * 16
  bytes.foldl (fun sum byte => sum + byte.toNat) start % 39

def aliasLine (name value : String) : String := s!"{name}={requoted value}"

def defineAliases (arguments : List String) : Action Unit := do
  let mut status := 0
  if arguments.isEmpty then
    let known := (← get).aliases
    for (name, value) in known.mergeSort fun left right => aliasPlace left.1 ≤ aliasPlace right.1 do
      Action.emitText (aliasLine name value ++ "\n")
  for argument in arguments do
    let state ← get
    match Text.splitFirst '=' argument.toList with
    | some (first :: more, value) =>
        let name := String.ofList (first :: more)
        let value := String.ofList value
        let kept :=
          if state.aliases.any (·.1 = name) then
            state.aliases.map fun entry => if entry.1 = name then (name, value) else entry
          else state.aliases ++ [(name, value)]
        set { state with aliases := kept }
    | _ =>
        match state.aliases.find? (·.1 = argument) with
        | some (name, value) => Action.emitText (aliasLine name value ++ "\n")
        | none =>
            set (state.emitError s!"alias: {argument} not found\n")
            status := 1
  Action.returning status

def removeAliases (arguments : List String) : Action Unit := do
  let (letters, names) ← lettersOf ['a'] arguments
  if letters.contains 'a' then modify fun state => { state with aliases := [] }
  let mut status := 0
  for name in names do
    let state ← get
    if state.aliases.any (·.1 = name) then
      set { state with aliases := state.aliases.filter (·.1 ≠ name) }
    else
      set (state.emitError s!"unalias: {name} not found\n")
      status := 1
  Action.returning status

def meaning? (state : State) (name : String) : Option (String × String) :=
  let value? := (state.aliases.find? (·.1 = name)).map Prod.snd
  if Parser.reserved.contains name then some (name, "is a shell keyword")
  else if let some value := value? then
    some ("alias " ++ aliasLine name value, s!"is an alias for {value}")
  else if (state.functions.lookup name).isSome then some (name, "is a shell function")
  else if Parser.specialNames.contains name then some (name, "is a special shell builtin")
  else if regularNames.contains name then some (name, "is a shell builtin")
  else
    match Utility.programsNamed state name with
    | [] => none
    | path :: _ =>
        if name.contains '/' then some (path, s!"is {path}")
        else some (path, s!"is a tracked alias for {path}")

def describe (names : List String) : Action Unit := do
  let mut status := 0
  for name in names do
    match meaning? (← get) name with
    | some (_, sentence) => Action.emitText s!"{name} {sentence}\n"
    | none =>
        Action.emitText s!"{name}: not found\n"
        status := 127
  Action.returning status

def showMeaning (names : List String) : Action Unit := do
  match names.head? with
  | none => succeed
  | some name =>
      match meaning? (← get) name with
      | some (found, _) =>
          Action.emitText s!"{found}\n"
          succeed
      | none => Action.returning 127

end PackageClosure.Shell.Run
