import PackageClosure.Shell.Awk.Invocation
import PackageClosure.Shell.Process
import PackageClosure.Shell.Utility.Catalog
import PackageClosure.Shell.Utility.Finding

set_option autoImplicit false

namespace PackageClosure.Shell.Run

abbrev Starter := String → List String → Action ExitStatus

def optionNames : List (String × Char) :=
  [("errexit", 'e'), ("noglob", 'f'), ("ignoreeof", 'I'), ("interactive", 'i'), ("monitor", 'm'),
    ("noexec", 'n'), ("stdin", 's'), ("xtrace", 'x'), ("verbose", 'v'), ("vi", 'V'), ("emacs", 'E'),
    ("noclobber", 'C'), ("allexport", 'a'), ("notify", 'b'), ("nounset", 'u')]

def isOption (letter : Char) : Bool := optionNames.any (·.2 = letter)

def setOption (letter : Char) (wanted : Bool) : Action Unit :=
  modify fun state =>
    let others := state.options.filter (· ≠ letter)
    { state with options := if wanted then letter :: others else others }

def setLetters (wanted : Bool) (letters : List Char) : Action Unit := do
  for letter in letters do
    if isOption letter then setOption letter wanted
    else Action.fail s!"Illegal option -{letter}"

def showOptions (commands : Bool) : Action Unit := do
  let state ← get
  if !commands then Action.emitText "Current option settings\n"
  let extra := ["privileged", "nolog", "debug"].map fun name => (name, ' ')
  for (name, letter) in optionNames ++ extra do
    let isSet := state.has letter
    Action.emitText <|
      if commands then "set " ++ (if isSet then "-o " else "+o ") ++ name ++ "\n"
      else name ++ String.ofList (List.replicate (16 - name.length) ' ') ++
        (if isSet then "on\n" else "off\n")

def setNamed (spelled : String) (wanted : Bool) (name : String) : Action Unit :=
  match optionNames.lookup name with
  | some letter => setOption letter wanted
  | none => Action.fail s!"Illegal option {spelled} {name}"

-- Sets the options in front of other arguments. The letters that are set apart are returned, and
-- the other arguments if there are any or a mark says so.
def takeOptions (apart : List Char) :
    Nat → List String → Action (List Char × Option (List String))
  | 0, _ | _, [] => return ([], none)
  | _, "--" :: rest => return ([], some rest)
  | fuel + 1, argument :: rest => do
      match argument.toList with
      | sign :: first :: more =>
          if sign = '-' || sign = '+' then
            let wanted := sign = '-'
            let letters := first :: more
            setLetters wanted (letters.filter fun c => c ≠ 'o' && !apart.contains c)
            let rest ← match letters.contains 'o', rest with
              | true, name :: rest =>
                  setNamed argument wanted name
                  pure rest
              | true, [] =>
                  showOptions (!wanted)
                  pure []
              | _, rest => pure rest
            let (found, operands) ← takeOptions apart fuel rest
            return (letters.filter apart.contains ++ found, operands)
          else return ([], some (argument :: rest))
      | _ => return ([], some (if argument = "-" then rest else argument :: rest))

def shell (run : Runner) (arguments : List String) : Action Unit := do
  modify fun state => { state.enter with line := 0 }
  let (sources, operands?) ← takeOptions ['c', 's', 'l'] (arguments.length + 1) arguments
  let operands := operands?.getD []
  if sources.contains 'c' then
    match operands with
    | [] => Action.fail "-c requires an argument"
    | text :: rest =>
        modify fun state =>
          { state with name := rest.headD state.name, arguments := rest.drop 1, line := 1 }
        script run false 1 text.toList
  else
    match sources.contains 's', operands with
    | false, file :: rest =>
        let state ← get
        match state.disk.read state.current ⟨file⟩ with
        | .error (.system .isDirectory) => pure ()
        | .error error => Action.fail s!"cannot open {file}: {openProblem false error}"
        | .ok bytes =>
            modify fun state => { state with name := file, arguments := rest, line := 1 }
            script run false 1 (Text.rawText (bytes.filter (· ≠ 0)))
    | _, arguments =>
        let bytes := (← get).input
        modify fun state => { state.afterReading [] with arguments, line := 1 }
        script run false 1 (Text.rawText bytes)

def utility (action : StateM State Nat) : Action ExitStatus := do
  let status ← Action.always action.run
  return .exited status

def cannotStart (problem : String) (error : SystemError) : Action ExitStatus := do
  let _ ← Action.always (Utility.say s!"{problem}: {error.text}").run
  return .exited (if error = .notFound then 127 else 126)

def splitSettings : List String → List (String × String) × List String
  | [] => ([], [])
  | argument :: rest =>
      match Text.splitFirst '=' argument.toList with
      | some (name, value) =>
          let (settings, words) := splitSettings rest
          ((String.ofList name, String.ofList value) :: settings, words)
      | none => ([], argument :: rest)

def startWithSettings (start : String → List String → Action (Except SystemError ExitStatus))
    (arguments : List String) : Action ExitStatus := do
  let switches : Switches := ⟨"i0v", "uCS", [("ignore-environment", 'i'), ("unset", 'u'),
    ("chdir", 'C'), ("null", '0'), ("split-string", 'S')]⟩
  match switches.read true arguments with
  | .error problem => utility (Utility.misuse 125 problem)
  | .ok given =>
      let dash := given.operands.head? = some "-"
      let operands := (if dash then given.operands.drop 1 else given.operands)
      let split := ((given.value? 'S').map fun text =>
        (Text.pieces ' ' text.toList).filter (!·.isEmpty) |>.map String.ofList).getD []
      let (settings, words) := splitSettings (split ++ operands)
      if given.has 'i' || dash then
        modify fun state => { state with bindings := [], exported := [] }
      for name in given.values 'u' do modify (·.unsetVariable name)
      for (name, value) in settings do
        modify fun state => (state.setVariable name value).exportVariable name
      let state ← get
      let moved : Except SystemError State := match given.value? 'C' with
        | none => .ok state
        | some path =>
            match state.disk.find state.current true ⟨path⟩ with
            | .ok ⟨place, some (.directory _)⟩ =>
                .ok { state with current := state.disk.hold place }
            | .ok ⟨_, some _⟩ => .error .notDirectory
            | .error (.system error) => .error error
            | _ => .error .notFound
      match moved with
      | .error error =>
          let path := Utility.quoted ((given.value? 'C').getD "")
          let _ ← cannotStart s!"cannot change directory to {path}" error
          return .exited 125
      | .ok state =>
          set state
          match words with
          | [] => utility (Utility.printEnvironment [])
          | name :: arguments =>
              match ← start name arguments with
              | .ok status => return status
              | .error error => cannotStart (Utility.quoted name) error

def inputWords : Nat → Option (List Char) → List Char → Option (List (List Char))
  | 0, _, _ => none
  | fuel + 1, begun, text =>
      match text with
      | [] => some begun.toList
      | '\\' :: c :: rest => inputWords fuel (some (begun.getD [] ++ [c])) rest
      | c :: rest =>
          if c = '\'' || c = '"' then
            match rest.span (· ≠ c) with
            | (inside, _ :: after) => inputWords fuel (some (begun.getD [] ++ inside)) after
            | (_, []) => none
          else if Separators.isBlank c then
            (inputWords fuel none rest).map fun more => begun.toList ++ more
          else inputWords fuel (some (begun.getD [] ++ [c])) rest

def groupsOf {α : Type} (size : Nat) : Nat → List α → List (List α)
  | 0, _ => []
  | fuel + 1, elements =>
      if elements.isEmpty then []
      else elements.take size :: groupsOf size fuel (elements.drop size)

def fillIn (mark text word : String) : String :=
  if mark.isEmpty then word else word.replace mark text

def startForEach (start : String → List String → Action (Except SystemError ExitStatus))
    (trace : Bool) : List (List String) → Nat → Action ExitStatus
  | [], status => return .exited status
  | [] :: rest, status => startForEach start trace rest status
  | (name :: arguments) :: rest, status => do
      if trace then
        modify fun state => state.emitError (" ".intercalate (name :: arguments) ++ "\n")
      match ← start name arguments with
      | .error error => cannotStart name error
      | .ok (.killed signal) =>
          let _ ← Action.always (Utility.say s!"{name}: terminated by signal {signal}").run
          return .exited 125
      | .ok (.exited 255) =>
          let _ ← Action.always (Utility.say
            s!"{name}: exited with status 255; aborting").run
          return .exited 124
      | .ok (.exited 0) => startForEach start trace rest status
      | .ok (.exited _) => startForEach start trace rest 123

def startWithInput (start : String → List String → Action (Except SystemError ExitStatus))
    (arguments : List String) : Action ExitStatus := do
  let switches : Switches := ⟨"0rtpxo", "nILPsdEa", [("null", '0'), ("no-run-if-empty", 'r'),
    ("max-args", 'n'), ("max-procs", 'P'), ("delimiter", 'd'), ("verbose", 't'),
    ("replace", 'I'), ("max-lines", 'L')]⟩
  match switches.read true arguments with
  | .error problem => utility (Utility.misuse 1 problem)
  | .ok given =>
      let command := if given.operands.isEmpty then ["echo"] else given.operands
      let bytes ← Action.always Utility.readInput.run
      let text := Text.rawText (bytes.toOption.getD [])
      let separator : Option Char :=
        if given.has '0' then some '\x00'
        else (given.value? 'd').bind fun mark =>
          if mark = "\\n" then some '\n' else if mark = "\\0" then some '\x00'
          else mark.toList.head?
      let lines := (Text.pieces '\n' text).filter fun line => !line.all Separators.isBlank
      let items : Option (List (List Char)) := match separator with
        | some separator =>
            let parts := Text.pieces separator text
            some (if parts.getLast? = some [] then parts.dropLast else parts)
        | none =>
            if given.has 'I' then some (lines.map (·.dropWhile Separators.isBlank))
            else inputWords (text.length + 1) none text
      modify fun state => state.setChannel 0 (some .nowhere)
      let wrong? := ['n', 'L', 'P'].findSome? fun letter =>
        ((given.value? letter).filter (·.toNat?.isNone)).map fun text => (letter, text)
      if let some (letter, text) := wrong? then
        return ← utility (Utility.misuse 1 s!"invalid number \"{text}\" for -{letter} option")
      match items with
      | none => utility <| do
          Utility.say <| "unmatched single quote; by default quotes are special to xargs " ++
            "unless you use the -0 option"
          return 1
      | some items =>
          let words := items.map String.ofList
          let count := ((given.value? 'n').bind String.toNat?).getD
            (((given.value? 'L').bind String.toNat?).getD 5000)
          let groups : List (List String) := match given.value? 'I' with
            | some mark => words.map fun word => command.map (fillIn mark word)
            | none =>
                if given.has 'L' then
                  (groupsOf count (lines.length + 1) lines).map fun group =>
                    command ++ ((inputWords (text.length + 1) none
                      (group.intersperse ['\n']).flatten).getD []).map String.ofList
                else if words.isEmpty then if given.has 'r' then [] else [command]
                else (groupsOf (max count 1) (words.length + 1) words).map (command ++ ·)
          startForEach start (given.has 't') groups 0

structure Progress where
  failed : Bool
  stopped : Bool
  pruned : List Place
  collected : List (List String × String)

def remarkOn (candidate : Utility.Candidate) (file : Option String) (remark : Utility.Remark) :
    Action Unit :=
  modify fun state =>
    let text := candidate.remark state remark
    match file with
    | none => state.emitText text
    | some file =>
        match state.disk.openFile state.current true (state.masked 0o666) ⟨file⟩ with
        | .ok (opened, place) =>
            { state with disk := opened.append place (Text.rawBytes text.toList) }
        | .error _ => state

def commandFor (start : String → List String → Action (Except SystemError ExitStatus))
    (candidate : Utility.Candidate) (inside asks : Bool) (command : List String) :
    Action Bool := do
  let before := (← get).current
  let path := if inside then "./" ++ Utility.lastPiece candidate.path else candidate.path
  let agreed ←
    if !asks then pure true
    else
      let program := command.headD ""
      let question := s!"< {program} ... {candidate.path} > ? "
      let ask : StateM State Bool := do
        modify fun state => state.emitError question
        Utility.answers
      Action.always ask.run
  if !agreed then return false
  else
    match command.map (fillIn "\x7b\x7d" path) with
    | [] => return true
    | name :: arguments =>
        if inside then
          modify fun state =>
            { state with current := state.disk.hold candidate.place.dropLast }
        let result ← start name arguments
        modify fun state => { state with current := before }
        match result with
        | .ok status => return status.isSuccess
        | .error error =>
            let _ ← cannotStart (Utility.quoted name) error
            return false

def fulfil (start : String → List String → Action (Except SystemError ExitStatus))
    (candidate : Utility.Candidate) : Utility.Wish → Progress → Action (Bool × Progress)
  | .both first second, progress => do
      let (value, progress) ← fulfil start candidate first progress
      if value && !progress.stopped then fulfil start candidate second progress
      else return (value, progress)
  | .either first second, progress => do
      let (value, progress) ← fulfil start candidate first progress
      if value || progress.stopped then return (value, progress)
      else fulfil start candidate second progress
  | .afterwards first second, progress => do
      let (value, progress) ← fulfil start candidate first progress
      if progress.stopped then return (value, progress)
      else fulfil start candidate second progress
  | .negated wish, progress => do
      let (value, progress) ← fulfil start candidate wish progress
      return (!value, progress)
  | .put file remark, progress => do
      remarkOn candidate file remark
      return (true, progress)
  | .prune, progress =>
      return (true, { progress with pruned := candidate.place :: progress.pruned })
  | .quit, progress => return (true, { progress with stopped := true })
  | .delete, progress => do
      let state ← get
      let removed :=
        if candidate.node.isDirectory then
          state.disk.removeDirectory state.current ⟨candidate.path⟩
        else state.disk.removeFile state.current ⟨candidate.path⟩
      if candidate.path = "." then return (true, progress)
      else
        let done ← Action.always
          (Utility.settle removed s!"cannot delete {Utility.quoted candidate.path}").run
        return (done, { progress with failed := progress.failed || !done })
  | .run inside asks command, progress => do
      return (← commandFor start candidate inside asks command, progress)
  | .collect command, progress =>
      return (true,
        { progress with collected := progress.collected ++ [(command, candidate.path)] })
  | wish, progress => return (candidate.holds (← get) wish, progress)

-- Runs the commands that are run once for all files. Says whether one of them failed.
def runCollected (start : String → List String → Action (Except SystemError ExitStatus))
    (collected : List (List String × String)) : Action Bool := do
  let commands := (collected.map Prod.fst).eraseDups
  commands.foldlM (fun failed command => do
    let paths := (collected.filter (·.1 = command)).map Prod.snd
    match command ++ paths with
    | [] => return failed
    | name :: arguments =>
        match ← start name arguments with
        | .ok status => return failed || !status.isSuccess
        | .error error =>
            let _ ← cannotStart (Utility.quoted name) error
            return true) false

def searchTree (start : String → List String → Action (Except SystemError ExitStatus))
    (arguments : List String) : Action ExitStatus := do
  match Utility.Wish.ofArguments (← get) arguments with
  | .error problem => utility <| do
      Utility.say problem
      return 1
  | .ok (paths, wish, depths) =>
      for file in wish.files do
        modify fun state =>
          match state.disk.openFile state.current false (state.masked 0o666) ⟨file⟩ with
          | .ok (disk, _) => { state with disk }
          | .error _ => state
      let state ← get
      let fuel := state.disk.nodes.entries.length + 64
      let step (progress : Progress) (candidate : Utility.Candidate) : Action Progress := do
        let hidden := progress.pruned.any fun place =>
          place.isPrefixOf candidate.place && place ≠ candidate.place
        if progress.stopped || hidden || candidate.depth < depths.least then return progress
        else return (← fulfil start candidate wish progress).2
      let progress ← paths.foldlM (fun (progress : Progress) path => do
        let problem? := match state.disk.find state.current false ⟨path⟩ with
          | .ok ⟨_, some _⟩ => none
          | .ok ⟨_, none⟩ => some (SystemError.text .notFound)
          | .error error => some (Utility.reason error)
        match problem? with
        | none => (Utility.candidates state depths path fuel 0 path).foldlM step progress
        | some problem =>
            if progress.stopped then return progress
            else
              let _ ← Action.always (Utility.say s!"{Utility.quoted path}: {problem}").run
              return { progress with failed := true }) ⟨false, false, [], []⟩
      let failed ← runCollected start progress.collected
      return .exited (if failed || progress.failed then 1 else 0)

def startAfter (start : String → List String → Action (Except SystemError ExitStatus))
    (switches : Switches) (problem : String → String) (arguments : List String) :
    Action ExitStatus := do
  match switches.read true arguments with
  | .error problem => utility (Utility.misuse 125 problem)
  | .ok given =>
      match given.operands with
      | [] => utility (Utility.misuse 125 "missing operand")
      | name :: arguments =>
          match ← start name arguments with
          | .ok status => return status
          | .error error => cannotStart (problem name) error

def stoppingSignal? (given : Given) : Option Nat :=
  match given.value? 's' with
  | none => some 15
  | some text =>
      match text.toNat? with
      | some number => some number
      | none =>
          let name := if text.startsWith "SIG" then (text.drop 3).toString else text
          (List.range 32).find? fun number => ExitStatus.signalName? number = some name.toUpper

def startLimited (start : String → List String → Action (Except SystemError ExitStatus))
    (arguments : List String) : Action ExitStatus := do
  let switches : Switches := ⟨"vpf", "sk", [("signal", 's'), ("kill-after", 'k'),
    ("foreground", 'f'), ("preserve-status", 'p'), ("verbose", 'v')]⟩
  let misuse (problem : String) : Action ExitStatus := utility (Utility.misuse 125 problem)
  match switches.read true arguments with
  | .error problem => misuse problem
  | .ok given =>
      match stoppingSignal? given, given.operands with
      | none, _ =>
          let wrong := Utility.quoted ((given.value? 's').getD "")
          misuse s!"{wrong}: invalid signal"
      | _, [] | _, [_] =>
          modify fun state =>
            state.emitError s!"Try '{state.name} --help' for more information.\n"
          return .exited 125
      | some signal, limit :: name :: arguments =>
          match Utility.interval? limit with
          | none => misuse s!"invalid time interval {Utility.quoted limit}"
          | some interval =>
              let before ← get
              let deadline := before.disk.time + interval
              if 0 < interval then
                let earliest := (before.deadline.map (min deadline)).getD deadline
                set { before with deadline := some earliest }
              let result ← start name arguments
              let late := 0 < interval && deadline ≤ (← get).disk.time
              modify fun state => { state with deadline := before.deadline }
              match result with
              | .error error => cannotStart s!"failed to run command {Utility.quoted name}" error
              | .ok status =>
                  if !late then return status
                  else
                    if given.has 'v' then
                      let word := (ExitStatus.signalName? signal).getD (toString signal)
                      let note := s!"sending signal {word} to command {Utility.quoted name}"
                      let _ ← Action.always (Utility.say note).run
                    if signal = 9 || given.has 'p' then return .exited (128 + signal)
                    else return .exited 124

def startBuffered (start : String → List String → Action (Except SystemError ExitStatus))
    (arguments : List String) : Action ExitStatus := do
  let switches : Switches := ⟨"", "ioe", [("input", 'i'), ("output", 'o'), ("error", 'e')]⟩
  match switches.read true arguments with
  | .error problem => utility (Utility.misuse 125 problem)
  | .ok given =>
      let isMode (mode : String) : Bool :=
        mode = "L" || mode = "0" || (Utility.count? mode.toList).isSome
      match given.options.find? (!isMode ·.2), given.operands with
      | some (_, mode), _ => utility (Utility.misuse 125 s!"invalid mode {Utility.quoted mode}")
      | none, [] => utility (Utility.misuse 125 "missing operand")
      | none, name :: arguments =>
          if given.options.isEmpty then
            utility (Utility.misuse 125 "you must specify a buffering mode option")
          else
            match ← start name arguments with
            | .ok status => return status
            | .error error => cannotStart s!"failed to run command {Utility.quoted name}" error

def fileOf (state : State) (name : String) : String :=
  if name.contains '/' then name else (Utility.programsNamed state name).headD name

-- What runs under a name. A file that names no program is read by the shell.
def launchOf (state : State) (name : String) (arguments : List String) :
    Except SystemError Launch :=
  match state.disk.launch state.current state.bindings name arguments with
  | .error .execFormat => .ok ⟨"sh", fileOf state name :: arguments⟩
  | launch => launch

def isBinary (bytes : Bytes) : Bool :=
  ((bytes.take 128).takeWhile (· ≠ 10)).any fun byte =>
    byte = 127 || byte < 9 || (16 ≤ byte && byte < 32 && byte ≠ 27)

-- What a script runs under a name. Without a path there is nowhere to look for a program.
def commandOf (state : State) (name : String) (arguments : List String) :
    Except SystemError Launch :=
  if !name.contains '/' && (state.bindings.lookup "PATH").isNone then .error .notFound
  else
    match state.disk.launch state.current state.bindings name arguments with
    | .error .execFormat =>
        let bytes := (state.disk.read state.current ⟨fileOf state name⟩).toOption.getD []
        if isBinary bytes then .error .execFormat else launchOf state name arguments
    | launch => launch

def childOf (state : State) (name : String) : State :=
  { State.initial state.disk state.current state.environment with
    name
    descriptors := state.descriptors
    streams := state.streams
    traps := state.traps.filter (·.2 = "")
    mask := state.mask
    deadline := state.deadline
    process := state.process + state.jobs.length + 1 }

-- Runs a program of the system in a process of its own. Programs may start each other, but not
-- without end.
def program (run : Runner) : Nat → String → Launch → Action ExitStatus
  | 0, _, _ => return .killed 9
  | depth + 1, name, launch => do
      let before ← get
      set (childOf before name)
      let start (name : String) (arguments : List String) :
          Action (Except SystemError ExitStatus) := do
        match launchOf (← get) name arguments with
        | .ok launch => return .ok (← program run depth name launch)
        | .error error => return .error error
      let failedToRun (name : String) : String := s!"failed to run command {Utility.quoted name}"
      let status ← match launch.program with
        | "sh" | "dash" => toEnd run (shell run launch.arguments)
        | "env" => startWithSettings start launch.arguments
        | "xargs" => startWithInput start launch.arguments
        | "find" => searchTree start launch.arguments
        | "timeout" => startLimited start launch.arguments
        | "nohup" => startAfter start ⟨"", "", []⟩ failedToRun launch.arguments
        | "nice" =>
            if launch.arguments.isEmpty then
              Action.emitText "0\n"
              pure (.exited 0)
            else
              startAfter start ⟨"", "n", [("adjustment", 'n')]⟩ Utility.quoted launch.arguments
        | "stdbuf" => startBuffered start launch.arguments
        | "setsid" => startAfter start ⟨"cfw", "", []⟩ failedToRun launch.arguments
        | "awk" | "mawk" => Awk.runProgram start launch.arguments
        | other =>
            match Utility.named? other with
            | some found =>
                let status ← utility (found launch.arguments)
                pure (if (← get).isExpired then .killed 15 else status)
            | none => pure (.exited 127)
      set (rejoin before (← get))
      return status

def launchLimit : Nat := 100

def lastWords? (signal : Nat) : Option String :=
  match signal with
  | 1 => some "Hangup"
  | 3 => some "Quit"
  | 4 => some "Illegal instruction"
  | 5 => some "Trace/breakpoint trap"
  | 6 => some "Aborted"
  | 7 => some "Bus error"
  | 8 => some "Floating point exception"
  | 9 => some "Killed"
  | 10 => some "User defined signal 1"
  | 11 => some "Segmentation fault"
  | 12 => some "User defined signal 2"
  | 14 => some "Alarm clock"
  | 15 => some "Terminated"
  | _ => none

def external (run : Runner) (name : String) (arguments : List String) : Action ExitStatus := do
  let state ← get
  if name.isEmpty then
    Action.complain ": Permission denied"
    return .exited 127
  else
    match commandOf state name arguments with
    | .ok launch =>
        let status ← program run launchLimit name launch
        match status with
        | .killed signal =>
            if let some words := lastWords? signal then
              if !(← get).isExpired then modify fun state => state.emitError s!"{words}\n"
        | .exited _ => pure ()
        return status
    | .error .notFound | .error .notDirectory =>
        Action.complain s!"{name}: not found"
        return .exited 127
    | .error error =>
        Action.complain s!"{name}: {error.text}"
        return .exited 126

end PackageClosure.Shell.Run
