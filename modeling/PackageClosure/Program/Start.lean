import PackageClosure.Program.Launch
import PackageClosure.Program.Status

set_option autoImplicit false

namespace PackageClosure

inductive StartError where
  | system (error : SystemError)
  | nulCharacter
deriving DecidableEq, Repr

def StartError.message : StartError → String
  | .system error => error.message
  | .nulCharacter => "nul byte found in provided data"

-- Runs a program to its end, from a directory and with an environment. All texts are raw.
abbrev Launcher :=
  Held → Environment → String → List String → Disk → Except SystemError (Disk × ExitStatus)

def Launcher.start (launcher : Launcher) (current : Held) (environment : Environment)
    (program : String) (arguments : List String) (disk : Disk) :
    Except StartError (Disk × ExitStatus) :=
  if (program :: arguments).any (·.contains '\x00') then .error .nulCharacter
  else (launcher current environment program arguments disk).mapError .system

structure Surroundings where
  current : Held
  environment : Environment

namespace Surroundings

def setting (surroundings : Surroundings) (name : String) : Option String :=
  surroundings.environment.lookup name

-- The current directory as a location. One that has been removed is nowhere, and what is relative
-- to it stays so.
def location (surroundings : Surroundings) (disk : Disk) : Location :=
  match disk.placeOf? surroundings.current with
  | some place => Place.location place
  | none => Location.here

def start (surroundings : Surroundings) (launcher : Launcher) (program : String)
    (arguments : List String) (disk : Disk) : Except StartError (Disk × ExitStatus) :=
  launcher.start surroundings.current surroundings.environment.raw program arguments disk

def startIn (surroundings : Surroundings) (launcher : Launcher) (directory : Path)
    (program : String) (arguments : List String) (disk : Disk) :
    Except StartError (Disk × ExitStatus) :=
  match disk.find surroundings.current true directory with
  | .ok ⟨place, some (.directory _)⟩ =>
      launcher.start (disk.hold place) (surroundings.environment.raw.set "PWD" directory.text)
        program arguments disk
  | .ok ⟨_, some _⟩ => .error (.system .notDirectory)
  | .ok ⟨_, none⟩ => .error (.system .notFound)
  | .error (.system error) => .error (.system error)
  | .error _ => .error .nulCharacter

end Surroundings

end PackageClosure
