import PackageClosure.CommandLine.Invocation
import PackageClosure.Compiler.Build
import PackageClosure.Compiler.Disassembly
import PackageClosure.Disk.Storage
import PackageClosure.GitCache.Fetch
import PackageClosure.Graph.Flowchart

set_option autoImplicit false

namespace PackageClosure

inductive PathError where
  | empty
  | adrift (cause : SystemError)
deriving DecidableEq, Repr

def PathError.message : PathError → String
  | .empty => "cannot make an empty path absolute"
  | .adrift cause => cause.message

-- The path from the root on. When the current directory has been removed, a relative path cannot
-- be taken from anywhere.
def Path.absolute (path : Path) (current : Location) : Except PathError Path :=
  if path.text = "" then .error .empty
  else if path.isAbsolute || current.isAbsolute then .ok (path.locate current).path
  else .error (.adrift .notFound)

inductive RunError where
  | resolution (error : ResolutionError)
  | compiler (error : Compiler.Error)
  | buildFailed (package message : String)
  | disassemblyFailed (file : Path) (message : String)
  | lostPackage (path : Path) (cause : PathError)
  | lostPreopen (cause : PathError)
  -- A path that is to be written as JSON is no text.
  | unwritten

namespace RunError

def explanation : RunError → List String
  | .resolution error => error.explanation
  | .compiler error => error.explanation
  | .buildFailed package message => [s!"Failed to build package '{package}':\n{message}"]
  | .disassemblyFailed file message => [s!"Failed to disassemble '{file.shown}':\n{message}"]
  | .lostPackage path cause => [s!"Invalid package path '{path.shown}'", cause.message]
  | .lostPreopen cause => ["Invalid preopen path", cause.message]
  | .unwritten => ["path contains invalid UTF-8 characters"]

def message (error : RunError) : String := ": ".intercalate error.explanation

end RunError

structure Report where
  output : String
  disk : Disk
  result : Except RunError Unit

def Report.failure (error : RunError) (disk : Disk) : Report := ⟨"", disk, .error error⟩

inductive Output where
  | plain (text : String)
  | json (value : Json)

def Output.report (output : Output) (disk : Disk) (result : Except RunError Unit) : Report :=
  match output with
  | .plain text => ⟨text, disk, result⟩
  | .json value =>
      if value.isWritable then ⟨value.pretty ++ "\n", disk, result⟩
      else ⟨value.beginning, disk, .error .unwritten⟩

def lines (texts : List String) : String := "".intercalate (texts.map (· ++ "\n"))

namespace Resolution

def json (resolution : Resolution) : Json :=
  .object
    [("root", .string resolution.manifest.package.name),
      ("root_path", .path resolution.root.path),
      ("packages", .array (resolution.packages.map fun package => .path package.path))]

def listing (resolution : Resolution) : String :=
  lines (resolution.packages.map fun package => package.path.shown)

end Resolution

namespace AddressTable

def listing (table : AddressTable) : String :=
  lines (table.arguments.map AddressArgument.text) ++
    lines (table.conflicts.map fun conflict =>
      s!"# '{conflict.ignored}' in '{conflict.package}' ignored: {conflict.symbol} is bound to " ++
        conflict.kept)

end AddressTable

namespace BuildRequest

def listing (request : BuildRequest) : String :=
  lines (request.sources.map Path.shown) ++
    lines (request.skipped.map fun entry => s!"# skipped '{entry.path.shown}': {entry.reason}")

end BuildRequest

-- What an invocation leaves to others: packages are fetched, and a program with arguments is run in
-- a directory.
structure Tools where
  fetcher : Fetcher Disk
  start : Path → String → List String → Compiler.Backend

def Surroundings.tools (surroundings : Surroundings) (launcher : Launcher) : Tools :=
  ⟨surroundings.fetcher launcher, surroundings.startIn launcher⟩

namespace Invocation

-- A path of more than one step is taken from the current directory; a single name is left for
-- the search of programs.
def executable (current : Location) (compiler : Path) : Path :=
  if 1 < compiler.steps.length then (compiler.locate current).path else compiler

def resolve (invocation : Invocation) (fetcher : Fetcher Disk) (surroundings : Surroundings)
    (disk : Disk) : Except RunError Resolution × Disk :=
  match invocation.package.absolute (surroundings.location disk) with
  | .error cause => (.error (.lostPackage invocation.package cause), disk)
  | .ok package =>
      let (resolution, after) := invocation.settings.resolve
        (fun disk => disk.storage surroundings.current) surroundings.location package
        (some fetcher) disk
      (resolution.mapError .resolution, after)

def print (invocation : Invocation) (fetcher : Fetcher Disk) (surroundings : Surroundings)
    (disk : Disk) (write : Resolution → Disk → Output) : Report :=
  match invocation.resolve fetcher surroundings disk with
  | (.error error, after) => .failure error after
  | (.ok resolution, after) => (write resolution after).report after (.ok ())

def requestOf (invocation : Invocation) (surroundings : Surroundings) (resolution : Resolution)
    (disk : Disk) : BuildRequest :=
  invocation.settings.request (disk.storage surroundings.current) resolution

def accessOf (current : Location) (package : Path) (preopens : List Path) :
    Except RunError Access :=
  if preopens.isEmpty then .ok (.around package)
  else
    match preopens.mapM fun path => path.absolute current with
    | .error cause => .error (.lostPreopen cause)
    | .ok opened => .ok ⟨package, opened⟩

def output (invocation : Invocation) (json : Json) (text : String) : Output :=
  if invocation.json then .json json else .plain text

def runBuild (invocation : Invocation) (tools : Tools) (surroundings : Surroundings)
    (compiler : Path) (preopens : List Path) (disk : Disk) : Report :=
  match invocation.resolve tools.fetcher surroundings disk with
  | (.error error, after) => .failure error after
  | (.ok resolution, after) =>
      let package := resolution.root.path
      let request := invocation.requestOf surroundings resolution after
      let current := surroundings.location after
      let program := executable current compiler
      let backend := tools.start package program.text (request.arguments.map Text.raw)
      match accessOf current package preopens with
      | .error error => .failure error after
      | .ok access =>
          match (Compiler.build surroundings.current program backend access request).run after with
          | (.error error, after) => .failure (.compiler error) after
          | (.ok outcome, after) =>
              match outcome with
              | .success blob hash =>
                  (invocation.output outcome.json s!"Built '{blob.shown}'\nhash: {hash}\n").report
                    after (.ok ())
              | .failure message =>
                  (invocation.output outcome.json "").report after
                    (.error (.buildFailed resolution.manifest.package.name message))

def runDisassembly (invocation : Invocation) (tools : Tools) (surroundings : Surroundings)
    (file compiler : Path) (disk : Disk) : Report :=
  let current := surroundings.location disk
  let bytecode := (file.locate current).path
  let program := executable current compiler
  let backend := tools.start (Compiler.disassemblyDirectory bytecode) program.text
    (Compiler.disassemblyArguments bytecode)
  match (Compiler.disassemble surroundings.current program backend bytecode).run disk with
  | (.error error, after) => .failure (.compiler error) after
  | (.ok outcome, after) =>
      match outcome with
      | .success listing => (invocation.output outcome.json listing).report after (.ok ())
      | .failure message =>
          (invocation.output outcome.json "").report after
            (.error (.disassemblyFailed file message))

def run (invocation : Invocation) (tools : Tools) (surroundings : Surroundings) (disk : Disk) :
    Report :=
  match invocation.command with
  | .resolve =>
      invocation.print tools.fetcher surroundings disk fun resolution _ =>
        invocation.output resolution.json resolution.listing
  | .addresses =>
      invocation.print tools.fetcher surroundings disk fun resolution _ =>
        invocation.output resolution.addresses.json resolution.addresses.listing
  | .sources =>
      invocation.print tools.fetcher surroundings disk fun resolution disk =>
        let request := invocation.requestOf surroundings resolution disk
        invocation.output request.json request.listing
  | .graph =>
      invocation.print tools.fetcher surroundings disk fun resolution _ =>
        .plain (resolution.graph.flowchart (resolution.root.path.parent?.getD ⟨""⟩))
  | .build compiler preopens => invocation.runBuild tools surroundings compiler preopens disk
  | .disassemble file compiler => invocation.runDisassembly tools surroundings file compiler disk

end Invocation

end PackageClosure
