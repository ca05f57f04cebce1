import PackageClosure.CommandLine.Run
import PackageClosure.Program.Snapshot

set_option autoImplicit false

namespace PackageClosure.Main

partial def readLines (input : IO.FS.Stream) (lines : List String) : IO (List String) := do
  let line ← input.getLine
  if line.isEmpty then return lines.reverse
  readLines input ((if line.endsWith "\n" then (line.dropEnd 1).toString else line) :: lines)

def run (arguments : List String) (snapshot : Snapshot) : IO UInt32 := do
  match runArguments snapshot.surroundings arguments snapshot.disk with
  | .error outcome =>
      if outcome.isRequest then
        IO.println outcome.message
        return 0
      else
        IO.eprintln s!"error: {outcome.message}"
        return 2
  | .ok report =>
      IO.print report.output
      match report.result with
      | .ok () => return 0
      | .error error =>
          IO.eprintln s!"Error: {error.message}"
          return 1

end PackageClosure.Main

def main (arguments : List String) : IO UInt32 := do
  let lines ← PackageClosure.Main.readLines (← IO.getStdin) []
  match PackageClosure.Snapshot.ofLines lines with
  | .ok snapshot => PackageClosure.Main.run arguments snapshot
  | .error error =>
      IO.eprintln s!"error: {error.message}"
      return 2
