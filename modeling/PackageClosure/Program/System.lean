import PackageClosure.CommandLine.Run
import PackageClosure.Shell.Run
import PackageClosure.Shell.Utility.Catalog

set_option autoImplicit false

namespace PackageClosure

def runArguments (surroundings : Surroundings) (arguments : List String) (disk : Disk) :
    Except UsageError Report :=
  let launcher : Launcher := fun current environment program arguments disk =>
    Shell.execute disk current environment program arguments
  (Invocation.read (surroundings.setting "MOVE_WEB_COMPILER") arguments).map fun invocation =>
    invocation.run (surroundings.tools launcher) surroundings disk

namespace Disk

def withDirectories (disk : Disk) (place : Place) : Disk :=
  (List.range place.length).foldl (fun disk count =>
    let above := place.take (count + 1)
    if disk.hasDirectory above then disk else disk.put above (.directory directoryMode)) disk

def placeOf (path : Path) : Place := path.location.names

def having (disk : Disk) (path : String) (node : Node) : Disk :=
  let place := placeOf ⟨path⟩
  (disk.withDirectories place.dropLast).put place node

def withProgram (disk : Disk) (name : String) : Disk :=
  disk.having ("/usr/bin/" ++ name) (.file ⟨binary name, runnableMode, 0, 0⟩)

def startTime : Int := 1767225600000000000

def system : Disk :=
  let programs := Shell.Utility.systemPrograms.foldl withProgram (Disk.empty startTime)
  let linked := programs.having "/bin" (.link ⟨"usr/bin"⟩)
  let devices := ((linked.having "/dev/null" (.device .null)).having "/dev/zero"
    (.device .zero)).having "/dev/full" (.device .full)
  devices.having "/tmp" (.directory 0o1777)

end Disk

end PackageClosure
