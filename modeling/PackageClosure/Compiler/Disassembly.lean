import PackageClosure.Compiler.Backend
import PackageClosure.Json

set_option autoImplicit false

namespace PackageClosure.Compiler

inductive DisassemblyResult where
  | success (listing : String)
  | failure (message : String)
deriving DecidableEq, Repr

def DisassemblyResult.json : DisassemblyResult → Json
  | .success listing =>
      .object [("status", .string "success"), ("disassembly", .string listing)]
  | .failure message => .object [("status", .string "failure"), ("message", .string message)]

def listingOf (file : Path) : Path := file.addSuffix ".d"

def errorsOf (file : Path) : Path := file.addSuffix ".e"

def disassemblyArguments (file : Path) : List String := ["disassemble", "--file_path", file.text]

def disassemblyDirectory (file : Path) : Path := file.parent?.getD ⟨"."⟩

def readDisassembly (current : Held) (file : Path) (status : ExitStatus) :
    Run DisassemblyResult := do
  let listing := listingOf file
  let errors := errorsOf file
  if ← hasFile current listing then
    return .success (← readText current (.unreadable listing) listing)
  else if ← hasFile current errors then
    return .failure (← readText current (.unreadable errors) errors)
  else throw (.nothingListed status listing errors)

def disassemble (current : Held) (executable : Path) (backend : Backend) (file : Path) :
    Run DisassemblyResult := do
  if !(← hasFile current file) then throw (.noBytecode file)
  clear current (listingOf file)
  clear current (errorsOf file)
  let status ← runToEnd executable backend
  readDisassembly current file status

end PackageClosure.Compiler
