import PackageClosure.Shell.Action
import PackageClosure.Shell.Awk.Field
import PackageClosure.Shell.Awk.Syntax
import PackageClosure.Shell.Awk.Table
import PackageClosure.Shell.Awk.Template
import PackageClosure.Shell.Process

set_option autoImplicit false

namespace PackageClosure.Shell.Awk

abbrev Starter := String → List String → Action (Except SystemError ExitStatus)

inductive Slot where
  | value (value : Value)
  | array (number : Nat)

structure Outlet where
  name : Text
  channel : Option Channel
  pending : List Text

structure Inlet where
  name : Text
  rest : Text
  status : Option ExitStatus

structure Machine where
  state : State
  start : Starter
  program : Program
  globals : List (String × Value)
  arrays : List (String × Nat)
  tables : List (Nat × Table)
  next : Nat
  parameters : Array Slot
  waiting : Nat
  record : Value
  fields : List Value
  printed : List Text
  outlets : List Outlet
  inlets : List Inlet
  operand : Nat
  reading : Option Text
  hasRead : Bool
  inside : List Nat
  code : Nat
  seed : Value
  chance : Nat

inductive Signal where
  | next
  | nextFile
  | finish
  | fatal (problem : String)

abbrev Run := EStateM Signal Machine

inductive Flow where
  | onward
  | leaves
  | again
  | returns (value : Value)

def outerText (text : Text) : String := String.ofList (Text.rawText (Utility.bytesOf text))

def innerText (text : String) : Text := Utility.charsOf (Text.rawBytes text.toList)

namespace Run

def global (name : String) : Run Value :=
  return ((← get).globals.lookup name).getD .unset

def setEntry {α : Type} (name : String) (value : α) : List (String × α) → List (String × α)
  | [] => [(name, value)]
  | entry :: rest =>
      if entry.1 = name then (name, value) :: rest else entry :: setEntry name value rest

def putGlobal (name : String) (value : Value) : Run Unit :=
  modify fun machine => { machine with globals := setEntry name value machine.globals }

def writer (template : String) : Run (Quantity → Text) := do
  match ← global template with
  | .text letters | .input letters => return Template.number letters
  | _ => return Template.number []

def toText (value : Value) : Run Text :=
  match value with
  | .unset => return []
  | .text letters | .input letters => return letters
  | .number quantity => return numberText (← writer "CONVFMT") quantity

def globalText (name : String) : Run Text := do toText (← global name)

def failHere {α : Type} (problem : String) : Run α := do
  let name := outerText (← globalText "FILENAME")
  let inFile := outerText (← globalText "FNR")
  let inAll := outerText (← globalText "NR")
  throw (.fatal s!"{problem}\n\tFILENAME=\"{name}\" FNR={inFile} NR={inAll}")

def failRunning {α : Type} (problem : String) : Run α := failHere s!"run time error: {problem}"

def fail {α : Type} (problem : String) : Run α := throw (.fatal problem)

def regexOf (text : Text) : Run Regex := do
  match Spelling.regex text with
  | .ok regex => return regex
  | .error problem =>
      let shown := outerText text
      failRunning s!"regular expression compile failed ({problem})\n{shown}"

def waitingLimit : Nat := 1024

def whileWaiting {α : Type} (count : Nat) (action : Run α) : Run α := do
  modify fun machine => { machine with waiting := machine.waiting + count }
  if waitingLimit < (← get).waiting then fail "program limit exceeded: eval stack size=1024"
  let value ← action
  modify fun machine => { machine with waiting := machine.waiting - count }
  return value

def newArray (table : Table) : Run Nat := do
  let number := (← get).next
  modify fun machine =>
    { machine with next := number + 1, tables := (number, table) :: machine.tables }
  return number

def table (number : Nat) : Run Table := return ((← get).tables.lookup number).getD Table.empty

def putTable (number : Nat) (table : Table) : Run Unit :=
  modify fun machine =>
    { machine with
      tables := machine.tables.map fun entry =>
        if entry.1 = number then (number, table) else entry }

-- The number of an array. A variable that has not been used is made one.
def arrayOf (name : Variable) : Run Nat := do
  match name with
  | .global name =>
      match (← get).arrays.lookup name with
      | some number => return number
      | none =>
          let number ← newArray Table.empty
          modify fun machine => { machine with arrays := (name, number) :: machine.arrays }
          return number
  | .parameter index =>
      match (← get).parameters[index]? with
      | some (.array number) => return number
      | _ =>
          let number ← newArray Table.empty
          modify fun machine =>
            { machine with parameters := machine.parameters.setIfInBounds index (.array number) }
          return number

def arrayOf? (name : Variable) : Run (Option Nat) := do
  let machine ← get
  match name with
  | .global name => return machine.arrays.lookup name
  | .parameter index =>
      match machine.parameters[index]? with
      | some (.array number) => return some number
      | _ => return none

def element (number : Nat) (make : Bool) (key : Key) : Run (Option Value) := do
  let (found, after) := (← table number).find make key
  putTable number after
  return found

def separatorOf (text : Text) : Run Separator := do
  match text with
  | [] | [_] => return (Separator.ofText text).toOption.getD .blanks
  | text => return .pattern (← regexOf text)

def setRecord (value : Value) : Run Unit := do
  let separator ← separatorOf (← globalText "FS")
  let fields := (separator.divide (← toText value)).map Value.input
  modify fun machine => { machine with record := value, fields }
  putGlobal "NF" (.ofNat fields.length)

def joinFields : Run Unit := do
  let fields := (← get).fields
  match fields with
  | [only] => modify fun machine => { machine with record := only }
  | fields =>
      let separator ← globalText "OFS"
      let texts ← fields.mapM toText
      modify fun machine =>
        { machine with record := .input (texts.intersperse separator).flatten }

def resize (value : Value) : Run Unit := do
  let count := bounded value.toNumber
  if count < 0 then failRunning "negative value assigned to NF"
  let count := count.toNat
  modify fun machine =>
    let missing := List.replicate (count - machine.fields.length) (Value.input [])
    { machine with fields := machine.fields.take count ++ missing }
  putGlobal "NF" value
  joinFields

def checkField (index : Int) : Run Nat := do
  if index < 0 then failRunning s!"negative field index ${index}"
  return index.toNat

def field (index : Nat) : Run Value := do
  let machine ← get
  if index = 0 then return machine.record
  else return (machine.fields[index - 1]?).getD (.input [])

def setField (index : Nat) (value : Value) : Run Unit := do
  if index = 0 then setRecord value
  else
    if (← get).fields.length < index then resize (.ofNat index)
    modify fun machine => { machine with fields := machine.fields.set (index - 1) value }
    joinFields

-- Sets a variable of the whole program. What divides a text has to make sense.
def setGlobal (name : String) (value : Value) : Run Unit := do
  if name = "NF" then resize value
  else
    if name = "FS" || name = "RS" then
      let _ ← separatorOf (← toText value)
    putGlobal name value

def emit (channel : Channel) (parts : List Text) : Run Unit :=
  modify fun machine =>
    { machine with
      state := machine.state.emitTo channel (Utility.bytesOf parts.reverse.flatten) }

def flushPrinted : Run Unit := do
  let machine ← get
  if !machine.printed.isEmpty then
    if let some channel := machine.state.channel? 1 then emit channel machine.printed
    modify fun machine => { machine with printed := [] }

-- Passes on what has been written to an outlet. Commands get it when they are closed.
def flush (outlet : Outlet) : Run Outlet := do
  match outlet.channel with
  | none => return outlet
  | some channel =>
      emit channel outlet.pending
      return { outlet with pending := [] }

def flushAll : Run Unit := do
  flushPrinted
  let outlets ← (← get).outlets.mapM flush
  modify fun machine => { machine with outlets }

def act {α : Type} (action : Action α) : Run (Option α) := do
  let machine ← get
  match action machine.state with
  | .ok value state =>
      set { machine with state }
      return some value
  | .error _ state =>
      set { machine with state }
      return none

def command (text : Text) : Run ExitStatus := do
  let start := (← get).start
  match ← act (start "sh" ["-c", outerText text]) with
  | some (.ok status) => return status
  | _ => return .exited 127

def commandWith (descriptor : Nat) (bytes : Bytes) (text : Text) : Run (ExitStatus × Bytes) := do
  let before := (← get).state
  let (channel, state) := before.openStream ⟨bytes, none⟩
  modify fun machine => { machine with state := state.setChannel descriptor (some channel) }
  let status ← command text
  let written := ((← get).state.streams[before.streams.length]?).map Stream.bytes
  modify fun machine =>
    { machine with
      state :=
        { machine.state with
          descriptors := before.descriptors
          streams := machine.state.streams.take before.streams.length } }
  return (status, written.getD [])

def codeOf : ExitStatus → Nat
  | .exited code => code
  | .killed signal => 256 + signal

-- Closes an outlet. A command reads now what was written to it.
def closeOutlet (outlet : Outlet) : Run Nat := do
  match outlet.channel with
  | some _ =>
      let _ ← flush outlet
      return 0
  | none =>
      let bytes := Utility.bytesOf outlet.pending.reverse.flatten
      return codeOf (← commandWith 0 bytes outlet.name).1

def channelFor (append : Bool) (name : Text) : Run Channel := do
  let state := (← get).state
  let path := outerText name
  let descriptor := if path = "-" then some 1 else Shell.Run.descriptorAt? path
  match descriptor with
  | some descriptor => return (state.channel? descriptor).getD .nowhere
  | none =>
      match state.disk.openFile state.current append (state.masked 0o666) ⟨path⟩ with
      | .ok (disk, place) =>
          modify fun machine => { machine with state := { machine.state with disk } }
          match disk.node? place with
          | some (.file _) => return .file (disk.hold place)
          | _ => return .nowhere
      | .error error =>
          fail s!"cannot open \"{path}\" for output ({Utility.reason error})"

def isOutput (name : Text) : Bool := name = "/dev/stdout".toList || name = "-".toList

def write (target : Option (Target × Text)) (text : Text) : Run Unit := do
  let print : Run Unit :=
    modify fun machine => { machine with printed := text :: machine.printed }
  match target with
  | none => print
  | some (target, name) =>
      let isCommand := target = .command
      let outlets := (← get).outlets
      let isHere (outlet : Outlet) : Bool :=
        outlet.name = name && outlet.channel.isNone = isCommand
      if !isCommand && isOutput name then print
      else if !isCommand && name = "/dev/stderr".toList then
        if let some channel := (← get).state.channel? 2 then emit channel [text]
      else
        match outlets.find? isHere with
        | some outlet =>
            let outlet := { outlet with pending := text :: outlet.pending }
            let others := outlets.filter (!isHere ·)
            modify fun machine => { machine with outlets := outlet :: others }
        | none =>
            let channel ← match target with
              | .command => do
                  flushAll
                  pure none
              | .file append => some <$> channelFor append name
            modify fun machine =>
              { machine with outlets := ⟨name, channel, [text]⟩ :: machine.outlets }

-- Closes what has a name. Nothing is returned if there is no such thing.
def close (name : Text) : Run (Option Nat) := do
  let machine ← get
  let (closed, outlets) := machine.outlets.partition (·.name = name)
  let (read, inlets) := machine.inlets.partition (·.name = name)
  set { machine with outlets, inlets }
  let codes ← closed.mapM closeOutlet
  let others := read.map fun inlet => (inlet.status.map codeOf).getD 0
  return (codes ++ others).getLast?

def closeAll : Run Unit := do
  let outlets := (← get).outlets
  let (commands, files) := outlets.partition (·.channel.isNone)
  modify fun machine => { machine with outlets := [] }
  for outlet in commands ++ files do
    let _ ← closeOutlet outlet
  flushPrinted

def takeInput : Run Text := do
  match ← act (Action.always Utility.readInput.run) with
  | some (.ok bytes) => return Utility.charsOf bytes
  | some (.error problem) => fail s!"read error ({problem})"
  | none => return []

def contents? (path : Text) : Run (Except FileError Text) := do
  let name := outerText path
  if name = "-" || name = "/dev/stdin" then return .ok (← takeInput)
  else
    let state := (← get).state
    match state.disk.read state.current ⟨name⟩ with
    | .ok bytes => return .ok (Utility.charsOf bytes)
    | .error (.system .isDirectory) => fail s!"read error ({SystemError.text .isDirectory})"
    | .error error => return .error error

def endingOf (text : Text) : Run Ending := do
  match text with
  | [] | [_] => return (Ending.ofText text).toOption.getD .emptyLines
  | text => return .pattern (← regexOf text)

def inlet? (isCommand : Bool) (name : Text) : Run (Option Inlet) := do
  let isHere (inlet : Inlet) : Bool := inlet.name = name && inlet.status.isSome = isCommand
  match (← get).inlets.find? isHere with
  | some inlet => return some inlet
  | none =>
      let opened : Option Inlet ←
        if isCommand then do
          flushAll
          let (status, bytes) ← commandWith 1 [] name
          pure (some ⟨name, Utility.charsOf bytes, some status⟩)
        else do
          pure ((← contents? name).toOption.map fun text => ⟨name, text, none⟩)
      if let some inlet := opened then
        modify fun machine => { machine with inlets := inlet :: machine.inlets }
      return opened

def recordFrom (isCommand : Bool) (name : Text) : Run (Except Int Text) := do
  match ← inlet? isCommand name with
  | none => return .error (-1)
  | some inlet =>
      let ending ← endingOf (← globalText "RS")
      match ending.first? inlet.rest with
      | none => return .error 0
      | some (record, rest) =>
          modify fun machine =>
            { machine with
              inlets := machine.inlets.map fun other =>
                if other.name = name && other.status.isSome = isCommand then
                  { other with rest }
                else other }
          return .ok record

def assignment? (text : Text) : Option (String × Text) :=
  match Text.splitFirst '=' text with
  | some (name, value) =>
      let isName := name.head?.any fun c => c.isAlpha || c = '_'
      if isName && name.all fun c => c.isAlphanum || c = '_' then
        some (String.ofList name, value)
      else none
  | none => none

-- Carries an assignment out. Backslashes mean the same as in a program.
def assignOperand (name : String) (value : Text) : Run Unit :=
  setGlobal name (.input (Spelling.unescaped (value.length + 1) value))

-- Opens the next file that is named by an operand. Without any the input is read.
def openNext : Nat → Run (Option Text)
  | 0 => return none
  | fuel + 1 => do
      let machine ← get
      let count := bounded (← global "ARGC").toNumber
      let operands ← arrayOf (.global "ARGV")
      if (machine.operand : Int) < count then
        modify fun machine => { machine with operand := machine.operand + 1 }
        match ← element operands false (.number machine.operand) with
        | none => openNext fuel
        | some value =>
            let name ← toText value
            if name.isEmpty then openNext fuel
            else
              match assignment? name with
              | some (variable_, value) =>
                  if (machine.arrays.lookup variable_).isSome then
                    failRunning <| s!"cannot command line assign to {variable_}\n" ++
                      "\ttype clash or keyword"
                  assignOperand variable_ value
                  openNext fuel
              | none =>
                  match ← contents? name with
                  | .ok text =>
                      putGlobal "FILENAME" (.input name)
                      putGlobal "FNR" (.ofNat 0)
                      modify fun machine => { machine with hasRead := true }
                      return some text
                  | .error error =>
                      fail s!"cannot open \"{outerText name}\" ({Utility.reason error})"
      else if machine.hasRead then return none
      else
        modify fun machine => { machine with hasRead := true }
        putGlobal "FILENAME" (.text ['-'])
        putGlobal "FNR" (.ofNat 0)
        return some (← takeInput)

def nextRecord : Nat → Run (Option Text)
  | 0 => return none
  | fuel + 1 => do
      match (← get).reading with
      | none =>
          let count := (bounded (← global "ARGC").toNumber).toNat
          match ← openNext (count + 2) with
          | none => return none
          | some text =>
              modify fun machine => { machine with reading := some text }
              nextRecord fuel
      | some text =>
          let ending ← endingOf (← globalText "RS")
          match ending.first? text with
          | none =>
              modify fun machine => { machine with reading := none }
              nextRecord fuel
          | some (record, rest) =>
              modify fun machine => { machine with reading := some rest }
              for name in ["NR", "FNR"] do
                let number := (← global name).toNumber
                putGlobal name (.number (number.add precision (ofNat 1)))
              return some record

def nextRecord? : Run (Option Text) := do
  let count := (bounded (← global "ARGC").toNumber).toNat
  nextRecord (2 * count + 4)

end Run

end PackageClosure.Shell.Awk
