import PackageClosure.Shell.Expansion

set_option autoImplicit false

namespace PackageClosure.Shell

namespace Run

-- Runs a command. A guarded command may fail without ending a strict script.
abbrev Runner := Bool → Command → Action Unit

def code : ExitStatus → Nat
  | .exited code => code
  | .killed signal => 128 + signal

def check (guarded : Bool) : Action Unit := do
  let state ← get
  if state.has 'e' && !guarded && state.status ≠ 0 then throw (.ends state.status)

-- Runs the lines of a script one after the other. What a line says about aliases counts from the
-- next one on.
def lines (run : Runner) (guarded : Bool) : Nat → List Token → Action Unit
  | 0, _ => pure ()
  | fuel + 1, tokens => do
      match Parser.nextLine? (← get).aliases tokens with
      | none => pure ()
      | some (command, rest) =>
          run guarded command
          lines run guarded fuel rest

def script (run : Runner) (guarded : Bool) (line : Nat) (text : List Char) : Action Unit :=
  let tokens := Token.ofScript line text
  lines run guarded (tokens.length + 1) tokens

def exitStatus (state : State) : Except Interruption Unit → ExitStatus
  | .error (.killed signal) => .killed signal
  | .error (.ends code) => .exited (code % 256)
  | .error .fault => .exited 2
  | _ => .exited (state.status % 256)

def toEnd (run : Runner) (action : Action Unit) : Action ExitStatus := do
  let result ← action.outcome
  let state ← get
  let status := exitStatus state result
  match status, state.traps.lookup "EXIT" with
  | .killed _, _ | _, none => return status
  | .exited number, some text =>
      set { state with status := number, traps := state.traps.filter (·.1 ≠ "EXIT") }
      match ← (script run false 1 text.toList).outcome with
      | .error (.ends code) => return .exited (code % 256)
      | .error (.killed signal) => return .killed signal
      | .error .fault => return .exited 2
      | _ => return status

def rejoin (state inside : State) : State :=
  { state with disk := inside.disk, streams := inside.streams }

-- Runs an action in a copy of the script. What kills the copy kills the script.
def inCopy (run : Runner) (action : Action Unit) : Action Nat := do
  let before ← get
  set { before with traps := before.traps.filter (·.2 = ""), jobs := [] }
  let status ← toEnd run action
  set (rejoin before (← get))
  match status with
  | .killed signal => throw (.killed signal)
  | .exited number => return number

def withStream {α : Type} (stream : Stream) (action : Nat → Action α) : Action α := do
  let count := (← get).streams.length
  modify fun state => { state with streams := state.streams ++ [stream] }
  (action count).finallyDo (modify fun state => { state with streams := state.streams.take count })

def writing (run : Runner) (index : Nat) (action : Action Unit) : Action Nat :=
  inCopy run do
    modify fun state => state.setChannel 1 (some (.stream index))
    action

def output (run : Runner) : OutputOf := fun line text =>
  withStream ⟨[], none⟩ fun index => do
    let status ← writing run index (script run false line text)
    let written := ((← get).streams[index]?.map Stream.bytes).getD []
    modify fun state => { state with outputStatus := status }
    let trimmed := (written.reverse.dropWhile (· = 10)).reverse
    return Text.rawText (trimmed.filter (· ≠ 0))

def piped (run : Runner) (source sink : Action Unit) : Action Nat :=
  withStream ⟨[], none⟩ fun index => do
    let _ ← writing run index source
    inCopy run do
      modify fun state => state.setChannel 0 (some (.stream index))
      sink

def openProblem (making : Bool) (error : FileError) : String :=
  match error with
  | .system .notFound | .system .notDirectory =>
      if making then "Directory nonexistent" else "No such file"
  | .system error => error.text
  | error => error.message

def descriptorAt? (path : String) : Option Nat :=
  match path with
  | "/dev/stdin" => some 0
  | "/dev/stdout" => some 1
  | "/dev/stderr" => some 2
  | _ => if path.startsWith "/dev/fd/" then (path.drop 8).toNat? else none

def openForWriting (descriptor : Nat) (keep : Bool) (path : String) : Action Unit := do
  let state ← get
  match descriptorAt? path with
  | some other => set (state.setChannel descriptor (state.channel? other))
  | none =>
      let isMissing := (state.disk.find state.current true (Disk.trimSlashes ⟨path⟩)).toOption.any
        fun found => found.node.isNone
      let opened :=
        if path.endsWith "/" && isMissing then .error (.system .isDirectory)
        else state.disk.openFile state.current keep (state.masked 0o666) ⟨path⟩
      match opened with
      | .ok (disk, place) =>
          let channel := match disk.node? place with
            | some (.file _) => Channel.file (disk.hold place)
            | _ => .nowhere
          let opened := if keep then state else state.emptied place
          set ({ opened with disk }.setChannel descriptor (some channel))
      | .error error => Action.fail s!"cannot create {path}: {openProblem true error}"

def openForReading (descriptor : Nat) (stream : Stream) : Action Unit :=
  modify fun state =>
    let (channel, opened) := state.openStream stream
    opened.setChannel descriptor (some channel)

def redirectOne (descriptor : Nat) (direction : Direction) (target : String) : Action Unit := do
  let state ← get
  match direction with
  | .output =>
      let present := match state.disk.stat state.current ⟨target⟩ with
        | .ok (.file _) => true
        | _ => false
      if state.has 'C' && present then Action.fail s!"cannot create {target}: File exists"
      else openForWriting descriptor false target
  | .replace => openForWriting descriptor false target
  | .append => openForWriting descriptor true target
  | .document => openForReading descriptor ⟨Text.rawBytes target.toList, none⟩
  | .input | .both =>
      match descriptorAt? target with
      | some other => set (state.setChannel descriptor (state.channel? other))
      | none =>
          if direction = .both && !state.disk.has state.current ⟨target⟩ then
            openForWriting descriptor true target
          else
            match state.disk.read state.current ⟨target⟩ with
            | .ok bytes =>
                let found := (state.disk.find state.current true ⟨target⟩).toOption
                openForReading descriptor
                  ⟨bytes, found.map fun found => state.disk.hold found.place⟩
            | .error (.system .isDirectory) => set (state.setChannel descriptor (some .directory))
            | .error error => Action.fail s!"cannot open {target}: {openProblem false error}"
  | .duplicate =>
      if target = "-" then set (state.setChannel descriptor none)
      else
        match target.toNat?.bind state.channel? with
        | some channel => set (state.setChannel descriptor (some channel))
        | none => Action.fail s!"{target}: Bad file descriptor"

def namesDescriptor (text : String) : Bool :=
  match text.toList with
  | [c] => c = '-' || c.isDigit
  | _ => false

-- The texts of the targets of redirections. What is no descriptor is noticed when all of the line
-- has been read.
def targets (run : Runner) (redirections : List Redirection) :
    Action (List (Nat × Direction × String)) :=
  redirections.mapM fun redirection => do
    let text ← redirection.target.expandText (output run) false
    if redirection.direction = .duplicate && !namesDescriptor text then
      modify fun state => { state with line := state.line + 1 }
      Action.fail "Syntax error: Bad fd number"
    return (redirection.descriptor, redirection.direction, text)

def redirect (opened : List (Nat × Direction × String)) : Action Unit := do
  for (descriptor, direction, target) in opened do redirectOne descriptor direction target

-- Runs an action with redirections that last as long. Says whether they were possible.
def redirecting (opened : List (Nat × Direction × String)) (action : Action Unit) :
    Action Bool := do
  let before := (← get).descriptors
  let restore : Action Unit := modify fun state => { state with descriptors := before }
  match ← (redirect opened).outcome with
  | .error _ =>
      restore
      return false
  | .ok () =>
      action.finallyDo restore
      return true

end Run

end PackageClosure.Shell
