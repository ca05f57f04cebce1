import PackageClosure.Build.Access
import PackageClosure.Disk.Edit
import PackageClosure.Program.Start

set_option autoImplicit false

namespace PackageClosure.Compiler

abbrev Backend := Disk → Except StartError (Disk × ExitStatus)

inductive TextError where
  | file (error : FileError)
  | notText
deriving DecidableEq, Repr

def TextError.message : TextError → String
  | .file error => error.message
  | .notText => "stream did not contain valid UTF-8"

inductive Error where
  | inaccessible (error : AccessError)
  | noBytecode (file : Path)
  | stale (path : Path) (cause : FileError)
  | notStarted (executable : Path) (cause : StartError)
  | noHash (blob : Path) (cause : TextError)
  | unreadable (path : Path) (cause : TextError)
  | nothingBuilt (status : ExitStatus) (blob errors : String)
  | nothingListed (status : ExitStatus) (listing errors : Path)
deriving DecidableEq, Repr

namespace Error

def explanation : Error → List String
  | .inaccessible error => [error.message]
  | .noBytecode file => [s!"Bytecode file '{file.shown}' does not exist"]
  | .stale path cause => [s!"Failed to remove stale '{path.shown}'", cause.message]
  | .notStarted executable cause =>
      [s!"Failed to run compiler '{executable.shown}'", cause.message]
  | .noHash blob cause => [s!"Compiler wrote '{blob.shown}' but no hash", cause.message]
  | .unreadable path cause => [s!"Failed to read '{path.shown}'", cause.message]
  | .nothingBuilt status blob errors =>
      [s!"Compiler exited with {status.message} without writing '{blob}' or '{errors}'"]
  | .nothingListed status listing errors =>
      [s!"Disassembler exited with {status.message} without writing '{listing.shown}' or " ++
        s!"'{errors.shown}'"]

end Error

-- A part of a run: it may fail, and changes the disk also if it does.
abbrev Run := ExceptT Error (StateM Disk)

def clear (current : Held) (path : Path) : Run Unit := do
  match (← get).removeFile current path with
  | .ok after => set after
  | .error (.system .notFound) => pure ()
  | .error cause => throw (.stale path cause)

def runToEnd (executable : Path) (backend : Backend) : Run ExitStatus := do
  match backend (← get) with
  | .ok (after, status) =>
      set after
      return status
  | .error cause => throw (.notStarted executable cause)

def hasFile (current : Held) (path : Path) : Run Bool := do
  return (← get).isFile current path

def readText (current : Held) (failed : TextError → Error) (path : Path) : Run String := do
  match (← get).read current path with
  | .error cause => throw (failed (.file cause))
  | .ok bytes =>
      match Text.decodeUtf8 bytes with
      | .ok text => return text
      | .error _ => throw (failed .notText)

end PackageClosure.Compiler
