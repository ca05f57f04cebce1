import PackageClosure.Disk.Edit
import PackageClosure.Program.Launch
import PackageClosure.Program.Status
import PackageClosure.Shell.Command
import PackageClosure.Text.Raw

set_option autoImplicit false

namespace PackageClosure.Shell

-- Bytes that have been written and not been read. Those that come from a file can be put back, and
-- are gone when the file is emptied.
structure Stream where
  bytes : Bytes
  source : Option Held

def Stream.rewinds (stream : Stream) : Bool := stream.source.isSome

inductive Channel where
  | nowhere
  | file (file : Held)
  | stream (index : Nat)
  | directory
deriving DecidableEq

structure Hidden where
  name : String
  value : Option String
  exported : Bool

structure State where
  disk : Disk
  current : Held
  mask : Nat
  bindings : Environment
  exported : List String
  constants : List String
  functions : List (String × Command)
  aliases : Aliases
  hidden : Option (List Hidden)
  calls : Nat
  name : String
  arguments : List String
  status : Nat
  outputStatus : Nat
  line : Nat
  speaker : Option String
  options : List Char
  descriptors : List (Nat × Channel)
  streams : List Stream
  traps : List (String × String)
  loops : Nat
  process : Nat
  jobs : List (Nat × Nat)
  optionPlace : Nat
  deadline : Option Int

namespace State

def initial (disk : Disk) (current : Held) (environment : Environment) : State :=
  { disk, current
    mask := 0o022
    bindings := environment
    exported := environment.map Prod.fst
    constants := []
    functions := []
    aliases := []
    hidden := none
    calls := 0
    name := ""
    arguments := []
    status := 0
    outputStatus := 0
    line := 1
    speaker := none
    options := []
    descriptors := [(0, .nowhere), (1, .nowhere), (2, .nowhere)]
    streams := []
    traps := []
    loops := 0
    process := 2
    jobs := []
    optionPlace := 0
    deadline := none }

def modifyStream (state : State) (index : Nat) (change : Stream → Stream) : State :=
  { state with streams := state.streams.modify index change }

def emptied (state : State) (place : Place) : State :=
  { state with
    streams := state.streams.map fun stream =>
      if stream.source.any (state.disk.whereIs · = place) then { stream with bytes := [] }
      else stream }

def emitTo (state : State) (channel : Channel) (bytes : Bytes) : State :=
  match channel with
  | .nowhere | .directory => state
  | .file file => { state with disk := state.disk.append (state.disk.whereIs file) bytes }
  | .stream index =>
      state.modifyStream index fun stream => { stream with bytes := stream.bytes ++ bytes }

def channel? (state : State) (descriptor : Nat) : Option Channel :=
  state.descriptors.lookup descriptor

def setChannel (state : State) (descriptor : Nat) (channel : Option Channel) : State :=
  let others := state.descriptors.filter (·.1 ≠ descriptor)
  { state with
    descriptors := (channel.map fun channel => (descriptor, channel)).toList ++ others }

def openStream (state : State) (stream : Stream) : Channel × State :=
  (.stream state.streams.length, { state with streams := state.streams ++ [stream] })

def emit (state : State) (bytes : Bytes) : State :=
  match state.channel? 1 with
  | some channel => state.emitTo channel bytes
  | none => state

def emitText (state : State) (text : String) : State := state.emit (Text.rawBytes text.toList)

def emitError (state : State) (text : String) : State :=
  match state.channel? 2 with
  | some channel => state.emitTo channel (Text.rawBytes text.toList)
  | none => state

def complain (state : State) (problem : String) : State :=
  let speaker := match state.speaker with
    | some name => s!"{name}: "
    | none => ""
  state.emitError s!"{state.name}: {state.line}: {speaker}{problem}\n"

def inputStream? (state : State) : Option (Nat × Stream) :=
  match state.channel? 0 with
  | some (.stream index) => (state.streams[index]?).map fun stream => (index, stream)
  | _ => none

def input (state : State) : Bytes :=
  match state.inputStream? with
  | some (_, stream) => stream.bytes
  | none => []

def afterReading (state : State) (rest : Bytes) : State :=
  match state.inputStream? with
  | some (index, _) => state.modifyStream index fun stream => { stream with bytes := rest }
  | none => state

def has (state : State) (option : Char) : Bool := state.options.contains option

def isExpired (state : State) : Bool := state.deadline.any (· ≤ state.disk.time)

def returning (state : State) (status : Nat) : State := { state with status }

def exportVariable (state : State) (name : String) : State :=
  { state with exported := name :: state.exported.filter (· ≠ name) }

def setVariable (state : State) (name value : String) : State :=
  let place := if name = "OPTIND" then 0 else state.optionPlace
  let after := { state with bindings := state.bindings.set name value, optionPlace := place }
  if state.has 'a' then after.exportVariable name else after

def unsetVariable (state : State) (name : String) : State :=
  { state with
    bindings := state.bindings.filter (·.1 ≠ name)
    exported := state.exported.filter (· ≠ name) }

def hide (state : State) (name : String) : Hidden :=
  ⟨name, state.bindings.lookup name, state.exported.contains name⟩

def reveal (state : State) (before : Hidden) : State :=
  let cleared := state.unsetVariable before.name
  match before.value with
  | none => cleared
  | some value =>
      let known := { cleared with bindings := cleared.bindings.set before.name value }
      if before.exported then known.exportVariable before.name else known

def environment (state : State) : Environment :=
  state.bindings.filter fun entry => state.exported.contains entry.1

def masked (state : State) (mode : Nat) : Nat := mode &&& (0o7777 - state.mask)

def optionLetters : List Char := "ubaCEVvxnsmiIfe".toList

def parameter? (state : State) (name : String) : Option String :=
  match name with
  | "#" => some (toString state.arguments.length)
  | "?" => some (toString state.status)
  | "$" => some (toString state.process)
  | "-" => some (String.ofList (optionLetters.filter state.has))
  | "!" => state.jobs.head?.map fun job => toString job.1
  | "0" => some state.name
  | _ =>
      match name.toNat? with
      | some 0 => some state.name
      | some position => state.arguments[position - 1]?
      | none => state.bindings.lookup name

def directory? (state : State) : Option String :=
  (state.disk.placeOf? state.current).map fun place => place.location.path.text

def here (state : State) : String :=
  (state.bindings.lookup "PWD").getD (state.directory?.getD "")

-- What a shell starts with. The name of the current directory is kept from the environment if it
-- leads here.
def enter (state : State) : State :=
  let known := match state.bindings.lookup "PWD" with
    | some name =>
        (⟨name⟩ : Path).isAbsolute &&
          match state.disk.find state.current true ⟨name⟩ with
          | .ok found => found.place = state.disk.whereIs state.current
          | .error _ => false
    | none => false
  let named :=
    if known then state
    else
      match state.directory? with
      | some path => state.setVariable "PWD" path
      | none =>
          (state.complain s!"getcwd() failed: {SystemError.text .notFound}").setVariable "PWD" ""
  let directed :=
    if (state.bindings.lookup "PATH").isSome then named
    else named.setVariable "PATH" "/usr/local/sbin:/usr/local/bin:/usr/sbin:/usr/bin:/sbin:/bin"
  let prompted := [("PS1", "# "), ("PS2", "> "), ("PS4", "+ ")].foldl (fun state entry =>
    if (state.bindings.lookup entry.1).isSome then state
    else state.setVariable entry.1 entry.2) directed
  (((prompted.exportVariable "PWD").setVariable "PPID" (toString (state.process - 1))).setVariable
    "OPTIND" "1").setVariable "IFS" " \t\n"

end State

end PackageClosure.Shell
