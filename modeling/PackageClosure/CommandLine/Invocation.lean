import PackageClosure.CommandLine.Settings

set_option autoImplicit false

namespace PackageClosure

inductive Command where
  | resolve
  | addresses
  | sources
  | graph
  | build (compiler : Path) (preopens : List Path)
  | disassemble (file compiler : Path)
deriving DecidableEq, Repr

structure Invocation where
  package : Path
  verbose : Bool
  json : Bool
  settings : BuildSettings
  command : Command
deriving DecidableEq, Repr

namespace Invocation

structure Shared where
  package : Option Path
  verbose : Bool
  json : Bool
  settings : BuildSettings

structure Particular where
  compiler : Option Path
  preopens : List Path
  file : Option Path

abbrev Options := Shared × Particular

def Shared.empty : Shared := ⟨none, false, false, .default⟩

def Particular.empty : Particular := ⟨none, [], none⟩

-- What is given after a command counts before what is given in front of it.
def Shared.override (outer inner : Shared) : Shared where
  package := inner.package <|> outer.package
  verbose := outer.verbose || inner.verbose
  json := outer.json || inner.json
  settings := outer.settings.override inner.settings

def readPath (text : String) : Except UsageError Path :=
  if text.isEmpty then .error .emptyValue else .ok (⟨text⟩ : Path).raw

def sharedSwitches : List (Switch Shared) :=
  [⟨"path", some 'p', .value false fun text options => do
      return { options with package := some (← readPath text) }⟩,
    ⟨"verbose", some 'v', .flag fun options => { options with verbose := true }⟩,
    ⟨"json", none, .flag fun options => { options with json := true }⟩] ++
  BuildSettings.switches.map
    (.within Shared.settings fun settings options => { options with settings := settings })

def compilerSwitch : Switch Particular :=
  ⟨"compiler", none, .value false fun text options => do
    return { options with compiler := some (← readPath text) }⟩

def preopenSwitch : Switch Particular :=
  ⟨"preopen", none, .value true fun text options => do
    return { options with preopens := options.preopens ++ [← readPath text] }⟩

def fileSwitch : Switch Particular :=
  ⟨"file", none, .value false fun text options => do
    return { options with file := some (← readPath text) }⟩

def Particular.compilerOr (setting : Option String) (options : Particular) :
    Except UsageError Path :=
  match options.compiler, setting with
  | some compiler, _ => .ok compiler
  | none, some text => readPath text
  | none, none => .error .missingArgument

structure Form where
  name : String
  switches : List (Switch Particular)
  command : Option String → Particular → Except UsageError Command

def forms : List Form :=
  [⟨"resolve", [], fun _ _ => .ok .resolve⟩,
    ⟨"addresses", [], fun _ _ => .ok .addresses⟩,
    ⟨"sources", [], fun _ _ => .ok .sources⟩,
    ⟨"graph", [], fun _ _ => .ok .graph⟩,
    ⟨"build", [compilerSwitch, preopenSwitch], fun setting options => do
      return .build (← options.compilerOr setting) options.preopens⟩,
    ⟨"disassemble", [fileSwitch, compilerSwitch], fun setting options => do
      let compiler ← options.compilerOr setting
      match options.file with
      | some file => return .disassemble file compiler
      | none => throw .missingArgument⟩]

def Form.grammar (form : Form) : Grammar Options where
  switches := .help ::
    sharedSwitches.map (.within Prod.fst fun shared options => (shared, options.2)) ++
    form.switches.map (.within Prod.snd fun particular options => (options.1, particular))
  commands := []

def Form.read (form : Form) (setting : Option String) (arguments : List String) :
    Except UsageError (Shared × Command) := do
  let (reading, _) ← form.grammar.read arguments (.start (Shared.empty, Particular.empty))
  let (shared, particular) := (← reading.settle).settings
  return (shared, ← form.command setting particular)

def commandNames : List String := forms.map Form.name ++ ["help"]

def outerGrammar : Grammar Shared := ⟨.help :: .version :: sharedSwitches, commandNames⟩

def helpOutcome : List String → UsageError
  | [] => .help
  | [name] => if commandNames.contains name then .help else .unknownCommand
  | _ => .unknownCommand

-- The invocation that arguments ask for, with the compiler that the environment sets. The options
-- before the command take effect last.
def read (setting : Option String) (arguments : List String) :
    Except UsageError Invocation := do
  let (outer, command) ← outerGrammar.read arguments (.start Shared.empty)
  match command with
  | none =>
      throw (if (← outer.settle).given.isEmpty then .nothingGiven else .noCommand)
  | some (name, rest) =>
      match forms.find? fun form => form.name = name with
      | none => throw (helpOutcome rest)
      | some form =>
          let (inner, command) ← form.read setting rest
          let shared := (← outer.settle).settings.override inner
          return {
            package := shared.package.getD ⟨"."⟩
            verbose := shared.verbose
            json := shared.json
            settings := shared.settings
            command }

end Invocation

end PackageClosure
