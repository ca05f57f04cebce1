import PackageClosure.Shell.Builtin

set_option autoImplicit false

namespace PackageClosure.Shell

namespace Run

def leave (nextRound : Bool) (arguments : List String) : Action Unit := do
  let levels ← numberOr 1 arguments
  if levels = 0 then Action.fail "Illegal number: 0"
  succeed
  let loops := (← get).loops
  if loops ≠ 0 then throw (.leave (min levels loops) nextRound)

def within (run : Runner) (guarded : Bool) (text : List Char) : Action Unit :=
  let tokens := Token.ofScript 1 text
  match tokens.find? fun token => token.lexeme ≠ .operator "\n" && token.lexeme ≠ .finish with
  | none => succeed
  | some _ => lines run guarded (tokens.length + 1) tokens

def sourceOf (state : State) (name : String) : Except String (String × Bytes) :=
  let read (path : String) : Option (String × Bytes) :=
    (state.disk.read state.current ⟨path⟩).toOption.map fun bytes => (path, bytes)
  if name.contains '/' then
    match state.disk.read state.current ⟨name⟩ with
    | .ok bytes => .ok (name, bytes)
    | .error (.system .isDirectory) => .ok (name, [])
    | .error error => .error s!"cannot open {name}: {openProblem false error}"
  else
    match (Utility.pathsNamed state name).findSome? read with
    | some found => .ok found
    | none => .error s!"{name}: not found"

def source (run : Runner) (guarded : Bool) (arguments : List String) : Action Unit := do
  match ← plainOperands arguments with
  | [] => succeed
  | name :: _ =>
      match sourceOf (← get) name with
      | .error problem => Action.fail problem
      | .ok (path, bytes) =>
          speaking path do
            match ← (within run guarded (Text.rawText (bytes.filter (· ≠ 0)))).outcome with
            | .error .returns => pure ()
            | result => Action.ofExcept result

def become (run : Runner) (name : String) (arguments : List String) : Action Unit := do
  let before := (← get).traps
  modify fun state => { state with traps := before.filter (·.2 = "") }
  match commandOf (← get) name arguments with
  | .ok launch =>
      match ← program run launchLimit name launch with
      | .exited number => throw (.ends number)
      | .killed signal => throw (.killed signal)
  | .error error =>
      modify fun state => { state with traps := before }
      let missing := error = .notFound || error = .notDirectory
      Action.complain (name ++ ": " ++ if missing then "not found" else error.text)
      throw (.ends (if missing then 127 else 126))

def special? (run : Runner) (guarded : Bool) (name : String) (arguments : List String) :
    Option (Action Unit) :=
  match name with
  | ":" => some succeed
  | "break" => some (leave false arguments)
  | "continue" => some (leave true arguments)
  | "return" => some do
      let status ← numberOr (← get).status arguments
      Action.returning status
      throw .returns
  | "exit" => some do
      let status ← numberOr (← get).status arguments
      throw (.ends status)
  | "eval" => some (within run guarded (" ".intercalate (withoutDashes arguments)).toList)
  | "." => some (source run guarded arguments)
  | "set" => some (setParameters arguments)
  | "shift" => some (shiftParameters arguments)
  | "export" => some (exportAll arguments)
  | "readonly" => some (keepConstant arguments)
  | "local" => some (makeLocal arguments)
  | "unset" => some (unsetAll arguments)
  | "trap" => some (setTraps arguments)
  | "times" => some do
      Action.emitText "0m0.000000s 0m0.000000s\n0m0.000000s 0m0.000000s\n"
      succeed
  | "exec" => some do
      match ← plainOperands arguments with
      | [] => succeed
      | name :: arguments => become run name arguments
  | _ => none

def command (arguments : List String) : Action Unit := do
  let (letters, operands) ← lettersOf ['v', 'V', 'p'] arguments
  if letters.contains 'V' then describe (operands.take 1)
  else if letters.contains 'v' then showMeaning (operands.take 1)
  else succeed

def regular? (run : Runner) (name : String) (arguments : List String) : Option (Action Unit) :=
  match name with
  | "true" | "hash" | "jobs" => some succeed
  | "alias" => some (defineAliases arguments)
  | "unalias" => some (removeAliases arguments)
  | "false" => some (Action.returning 1)
  | "cd" | "chdir" => some (changeDirectory arguments)
  | "pwd" => some (showDirectory arguments)
  | "echo" => some (echo arguments)
  | "printf" => some (printf arguments)
  | "test" => some (test arguments)
  | "[" => some (bracket arguments)
  | "read" => some (readLine arguments)
  | "getopts" => some (readOption arguments)
  | "kill" => some (kill run arguments)
  | "wait" => some (awaitJobs arguments)
  | "type" => some (describe arguments)
  | "command" => some (command arguments)
  | "umask" => some (changeMask arguments)
  | "ulimit" => some do
      let (_, operands) ← lettersOf "HSatfdsmcnvplrwx".toList arguments
      if operands.isEmpty then Action.emitText "unlimited\n"
      succeed
  | "fg" | "bg" => some (Action.fail "No current job")
  | _ => none

def callLimit : Nat := 1000

def call (run : Runner) (guarded : Bool) (body : Command) (arguments : List String) :
    Action Unit := do
  let before ← get
  if callLimit ≤ before.calls then
    Action.fail s!"Maximum function recursion depth ({callLimit}) reached"
  set { before with arguments, hidden := some [], calls := before.calls + 1, loops := 0 }
  let result ← (run guarded body).outcome
  modify fun state =>
    let shown := (state.hidden.getD []).foldl State.reveal state
    { shown with
      arguments := before.arguments
      hidden := before.hidden
      calls := before.calls
      loops := before.loops }
  match result with
  | .error .returns => pure ()
  | other => Action.ofExcept other

def commandWords? : List String → Option (List String)
  | [] => none
  | word :: rest =>
      match word.toList with
      | '-' :: letter :: letters =>
          if letter = '-' && letters.isEmpty then if rest.isEmpty then none else some rest
          else if (letter :: letters).all (· = 'p') then commandWords? rest
          else none
      | _ => some (word :: rest)

-- The words of a command without any `command` in front. Says whether there was one.
def bare (state : State) : Nat → List String → Bool × List String
  | fuel + 1, "command" :: rest =>
      match (state.functions.lookup "command").isNone, commandWords? rest with
      | true, some words => (true, (bare state fuel words).2)
      | _, _ => (false, "command" :: rest)
  | _, words => (false, words)

def declares (state : State) (words : List String) : Bool :=
  match (bare state words.length words).2.head? with
  | some name => name = "export" || name = "readonly" || name = "local"
  | none => false

def expandWords (run : Runner) (words : List Word) : Action (List String) :=
  words.foldlM (fun fields word => do
    let declaration := if declares (← get) fields then Parser.assignment? word else none
    match declaration with
    | some (name, value) =>
        let value ← value.expandText (output run) true
        return fields ++ [String.ofList name ++ "=" ++ value]
    | none => return fields ++ (← word.expandFields (output run))) []

-- Makes assignments one after the other. The values that were assigned are returned.
def assignAll (run : Runner) (exports : Bool) (assignments : List (List Char × Word)) :
    Action (List String) :=
  assignments.mapM fun (assignment : List Char × Word) => do
    let name := String.ofList assignment.1
    let value ← assignment.2.expandText (output run) true
    Action.assign name value
    if exports then modify (·.exportVariable name)
    return name ++ "=" ++ value

def assigning (run : Runner) (assignments : List (List Char × Word))
    (action : List String → Action Unit) : Action Unit := do
  let state ← get
  let hidden := assignments.reverse.map fun assignment => state.hide (String.ofList assignment.1)
  let act : Action Unit := do action (← assignAll run true assignments)
  if assignments.isEmpty then act
  else act.finallyDo (modify fun state => hidden.foldl State.reveal state)

def trace (channel : Option Channel) (words : List String) : Action Unit :=
  modify fun state =>
    let sign := (state.bindings.lookup "PS4").getD "+ "
    match state.has 'x', channel with
    | true, some channel =>
        state.emitTo channel (Text.rawBytes (sign ++ " ".intercalate words ++ "\n").toList)
    | _, _ => state

def forgiving (action : Action Unit) : Action Unit := do
  match ← action.outcome with
  | .error .fault => Action.returning 2
  | other => Action.ofExcept other

def meaning (run : Runner) (guarded : Bool) (state : State) (plain : Bool) (name : String)
    (arguments : List String) : Bool × Action Unit :=
  let function? := if plain then state.functions.lookup name else none
  match special? run guarded name arguments with
  | some action =>
      if plain then (true, speaking name action) else (false, forgiving (speaking name action))
  | none =>
      match function?, regular? run name arguments with
      | some body, _ => (false, call run guarded body arguments)
      | none, some action => (false, forgiving (speaking name action))
      | none, none =>
          (false, do Action.returning (code (← external run name arguments)))

def simple (run : Runner) (guarded : Bool) (line : Nat) (assignments : List (List Char × Word))
    (words : List Word) (redirections : List Redirection) : Action Unit := do
  modify fun state => { state with line, outputStatus := 0 }
  let fields ← expandWords run words
  let opened ← targets run redirections
  let state ← get
  let shown (assigned : List String) : Action Unit :=
    trace (state.channel? 2) (assigned ++ fields)
  let (prefixed, plainWords) := bare state fields.length fields
  match plainWords with
  | [] =>
      let done ← redirecting opened do
        shown (← assignAll run false assignments)
        modify fun state => state.returning state.outputStatus
      if !done then Action.returning 2
  | name :: arguments =>
      let (strict, action) := meaning run guarded state (!prefixed) name arguments
      if strict then
        let act : Action Unit := do
          shown (← assignAll run (name = "exec") assignments)
          action
        if name = "exec" && arguments.isEmpty then
          redirect opened
          act
        else if !(← redirecting opened act) then throw .fault
      else
        let done ← redirecting opened <| assigning run assignments fun assigned => do
          shown assigned
          action
        if !done then Action.returning 2
  check guarded

-- Runs an action as the round of a loop. Says whether another round may follow.
def round (action : Action Unit) : Action Bool := do
  match ← action.outcome with
  | .error (.leave levels nextRound) =>
      if 1 < levels then throw (.leave (levels - 1) nextRound) else return nextRound
  | .error other => throw other
  | .ok () => return true

def looping (action : Action Unit) : Action Unit := do
  modify fun state => { state with loops := state.loops + 1 }
  action.finallyDo (modify fun state => { state with loops := state.loops - 1 })

def roundLimit : Nat := 1000000

def rounds (condition : Action Bool) (body : Action Unit) : Nat → Nat → Action Unit
  | 0, _ => throw (.killed 9)
  | fuel + 1, status => do
      let mut holds := false
      match ← condition.outcome with
      | .ok value => holds := value
      | .error other =>
          let again ← round (throw other)
          if again then return ← rounds condition body fuel status
      if !holds then Action.returning status
      else if ← round body then rounds condition body fuel (← get).status

def branch? (run : Runner) (subject : List Char) :
    List (List Word × Command) → Action (Option Command)
  | [] => return none
  | (patterns, body) :: rest => do
      let covered ← patterns.anyM fun pattern => do
        return Pattern.covers (← pattern.expandPattern (output run)) subject
      if covered then return some body else branch? run subject rest

def step (run : Runner) : Runner := fun guarded command =>
  match command with
  | .nothing => pure ()
  | .simple line assignments words redirections =>
      simple run guarded line assignments words redirections
  | .redirected line (.subshell _ body) redirections => do
      let status ← inCopy run do
        modify fun state => { state with line }
        redirect (← targets run redirections)
        run guarded body
      Action.returning status
      check guarded
  | .redirected line command redirections => do
      modify fun state => { state with line }
      if !(← redirecting (← targets run redirections) (run guarded command)) then
        Action.returning 2
        check guarded
  | .sequence first second => do
      run guarded first
      run guarded second
  | .both first second => do
      run true first
      if (← get).status = 0 then run guarded second
  | .either first second => do
      run true first
      if (← get).status ≠ 0 then run guarded second
  | .negated command => do
      run true command
      modify fun state => state.returning (if state.status = 0 then 1 else 0)
  | .pipe source sink => do
      Action.returning (← piped run (run guarded source) (run guarded sink))
      check guarded
  | .background command => do
      let status ← inCopy run do
        modify fun state => state.setChannel 0 (some .nowhere)
        run guarded command
      modify fun state =>
        let process := state.process + state.jobs.length + 1
        { state with jobs := (process, status) :: state.jobs, status := 0 }
  | .subshell line body => do
      modify fun state => { state with line }
      Action.returning (← inCopy run (run guarded body))
      check guarded
  | .choice condition positive negative => do
      run true condition
      run guarded (if (← get).status = 0 then positive else negative)
  | .loop succeeds condition body =>
      let holds : Action Bool := do
        run true condition
        return ((← get).status = 0) = succeeds
      looping (rounds holds (run guarded body) roundLimit 0)
  | .each line name words body => do
      modify fun state => { state with line }
      let values ← match words with
        | none => pure (← get).arguments
        | some words => do
            pure (← words.mapM fun word => word.expandFields (output run)).flatten
      Action.returning 0
      looping do
        for value in values do
          Action.assign (String.ofList name) value
          if !(← round (run guarded body)) then break
  | .matching line subject branches => do
      modify fun state => { state with line }
      let text ← subject.expandText (output run) false
      match ← branch? run text.toList branches with
      | none | some .nothing => Action.returning 0
      | some body => run guarded body
  | .function name body => do
      modify fun state =>
        { state with
          functions := (name, body) :: state.functions.filter (·.1 ≠ name)
          status := 0 }
  | .invalid line problem => do
      modify fun state => { state with line }
      Action.fail s!"Syntax error: {problem}"

def limit : Nat := 100000

def runFor : Nat → Runner
  | 0 => fun _ _ => throw (.killed 9)
  | fuel + 1 => fun guarded command => do
      let state ← get
      if state.isExpired then throw (.killed 15)
      else if !state.has 'n' then step (runFor fuel) guarded command

end Run

-- Starts a program and waits until it has ended. What it writes to its output is dropped.
def execute (disk : Disk) (current : Held) (environment : Environment) (name : String)
    (arguments : List String) : Except SystemError (Disk × ExitStatus) := do
  let launch ← disk.launch current environment name arguments
  let state := State.initial disk current environment
  match Run.program (Run.runFor Run.limit) Run.launchLimit name launch state with
  | .ok status after => return (after.disk, status)
  | .error _ after => return (after.disk, .killed 9)

end PackageClosure.Shell
