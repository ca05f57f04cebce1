import PackageClosure.CommandLine.Argument
import PackageClosure.CommandLine.Usage

set_option autoImplicit false

namespace PackageClosure

inductive Effect (Settings : Type) where
  | ends (outcome : UsageError)
  | flag (set : Settings → Settings)
  | value (repeats : Bool) (set : String → Settings → Except UsageError Settings)

structure Switch (Settings : Type) where
  long : String
  letter : Option Char
  effect : Effect Settings

namespace Switch

variable {Settings Whole : Type}

def takesValue (switch : Switch Settings) : Bool :=
  match switch.effect with
  | .value _ _ => true
  | _ => false

def within (get : Whole → Settings) (put : Settings → Whole → Whole) (switch : Switch Settings) :
    Switch Whole where
  long := switch.long
  letter := switch.letter
  effect :=
    match switch.effect with
    | .ends outcome => .ends outcome
    | .flag set => .flag fun whole => put (set (get whole)) whole
    | .value repeats set => .value repeats fun text whole =>
        (set text (get whole)).map fun settings => put settings whole

def help : Switch Settings := ⟨"help", some 'h', .ends .help⟩

def version : Switch Settings := ⟨"version", some 'V', .ends .version⟩

end Switch

structure Grammar (Settings : Type) where
  switches : List (Switch Settings)
  commands : List String

structure Reading (Settings : Type) where
  settings : Settings
  given : List String
  -- The option that is yet to take effect, with its value once that has come.
  pending : Option (Switch Settings × Option String)

namespace Reading

variable {Settings : Type}

def start (settings : Settings) : Reading Settings := ⟨settings, [], none⟩

def waits (reading : Reading Settings) : Bool :=
  match reading.pending with
  | some (_, none) => true
  | _ => false

def apply (reading : Reading Settings) (switch : Switch Settings) (value : Option String) :
    Except UsageError (Reading Settings) :=
  let again := reading.given.contains switch.long
  let done (settings : Settings) : Reading Settings :=
    ⟨settings, switch.long :: reading.given, none⟩
  match switch.effect, value with
  | .ends outcome, _ => .error outcome
  | .flag set, _ => if again then .error .repeated else .ok (done (set reading.settings))
  | .value _ _, none => .error .missingValue
  | .value repeats set, some text =>
      if again && !repeats then .error .repeated else (set text reading.settings).map done

def settle (reading : Reading Settings) : Except UsageError (Reading Settings) :=
  match reading.pending with
  | none => .ok reading
  | some (switch, value) => apply { reading with pending := none } switch value

def take (reading : Reading Settings) (switch : Switch Settings) (attached : Option String) :
    Except UsageError (Reading Settings) :=
  match switch.takesValue, attached with
  | true, none => do return { ← reading.settle with pending := some (switch, none) }
  | true, some value => do (← reading.settle).apply switch (some value)
  | false, none => do (← reading.settle).apply switch none
  | false, some _ => .error .needlessValue

end Reading

namespace Grammar

variable {Settings : Type}

def attached : List Char → Option String
  | [] => none
  | '=' :: value => some (String.ofList value)
  | value => some (String.ofList value)

def readLetters (grammar : Grammar Settings) :
    List Char → Reading Settings → Except UsageError (Reading Settings)
  | [], reading => .ok reading
  | letter :: rest, reading =>
      match grammar.switches.find? fun switch => switch.letter = some letter with
      | none => .error .unknownArgument
      | some switch =>
          if switch.takesValue then reading.take switch (attached rest)
          else do grammar.readLetters rest (← reading.take switch none)

def stray (grammar : Grammar Settings) : UsageError :=
  if grammar.commands.isEmpty then .unknownArgument else .unknownCommand

-- Reads up to a command, which is returned with the arguments after it. The option before the
-- command may still be pending.
def read (grammar : Grammar Settings) : List String → Reading Settings →
    Except UsageError (Reading Settings × Option (String × List String))
  | [], reading => .ok (reading, none)
  | text :: rest, reading =>
      if !reading.waits && grammar.commands.contains text then .ok (reading, some (text, rest))
      else
        match Argument.read text with
        | .separator =>
            match rest with
            | [] => .ok (reading, none)
            | next :: _ =>
                .error (if grammar.commands.contains next then .unknownArgument else grammar.stray)
        | .long name value =>
            match grammar.switches.find? fun switch => switch.long = name with
            | none => .error .unknownArgument
            | some switch => do grammar.read rest (← reading.take switch value)
        | .letters letters => do grammar.read rest (← grammar.readLetters letters reading)
        | .plain =>
            match reading.pending with
            | some (switch, none) =>
                grammar.read rest { reading with pending := some (switch, some text) }
            | _ => .error grammar.stray

end Grammar

end PackageClosure
