import PackageClosure.Shell.Calendar
import PackageClosure.Shell.Utility.Tree

set_option autoImplicit false

namespace PackageClosure.Shell.Utility

def askedTime (given : Given) : StateM State (Except String Int) := do
  let state ← get
  let now := state.disk.time
  match given.value? 'd', given.value? 't', given.value? 'r' with
  | some text, none, none =>
      return match timeOfText? now text with
        | some time => .ok time
        | none => .error s!"invalid date format {quoted text}"
  | none, some text, _ =>
      return match timeOfDigits? now text with
        | some time => .ok time
        | none => .error s!"invalid date format {quoted text}"
  | text?, _, some reference =>
      match state.disk.stat state.current ⟨reference⟩ with
      | .ok node =>
          match text? with
          | none => return .ok node.changed
          | some text =>
              return match timeOfText? node.changed text with
                | some time => .ok time
                | none => .error s!"invalid date format {quoted text}"
      | .error error =>
          return .error s!"failed to get attributes of {quoted reference}: {reason error}"
  | some _, some _, none => return .error "cannot specify times from more than one source"
  | none, none, none => return .ok now

def withTime (disk : Disk) (place : Place) (time : Int) : Disk :=
  match disk.node? place with
  | some (.file file) => disk.putFile place { file with changed := time }
  | _ => disk

def changesTime (given : Given) : Bool :=
  let named := (given.value? 'T').any fun word =>
    ["modify", "mtime", "modif", "mod"].contains word
  given.has 'm' || named || (!given.has 'a' && !given.has 'T')

def touch : Utility :=
  taking ⟨"camhf", "rdtT", [("no-create", 'c'), ("reference", 'r'), ("date", 'd'),
      ("no-dereference", 'h'), ("time", 'T')]⟩ 1
    fun given => do
      match ← askedTime given with
      | .error problem =>
          say problem
          return 1
      | .ok time =>
          if given.operands.isEmpty then misuse 1 "missing file operand"
          else forEach given.operands fun operand => do
            let state ← get
            let path : Path := ⟨operand⟩
            let touched : Except FileError Disk :=
              match state.disk.find state.current true path with
              | .ok ⟨place, some _⟩ =>
                  .ok (if changesTime given then withTime state.disk place time else state.disk)
              | .ok ⟨_, none⟩ =>
                  if given.has 'c' then .ok state.disk
                  else do
                    let (made, place) ←
                      state.disk.openFile state.current true (state.masked 0o666) path
                    return withTime made place time
              | .error error =>
                  if given.has 'c' && error = .system .notFound then .ok state.disk
                  else .error error
            let missing := operand.endsWith "/" && touched.toOption.isNone
            let problem := if missing then "setting times of" else "cannot touch"
            settle touched s!"{problem} {quoted operand}"

def isRemoval (argument : String) : Bool :=
  match argument.toList with
  | '-' :: letter :: _ =>
      "rwxXstugo=+01234567".toList.contains letter && (Mode.changes? argument).isSome
  | _ => false

def reportMode (given : Given) (path : String) (before after : Nat) : StateM State Unit := do
  let shown (mode : Nat) : String := s!"{Mode.digits 4 mode} ({Mode.letters mode})"
  if before ≠ after then
    if given.has 'v' || given.has 'c' then
      emitText s!"mode of {quoted path} changed from {shown before} to {shown after}\n"
  else if given.has 'v' then emitText s!"mode of {quoted path} retained as {shown before}\n"

-- Changes the mode of one node. A mode that looked like an option may leave more than it seems to
-- say.
def changeNode (given : Given) (changes : List Mode.Change) (strict : Bool)
    (entry : Place × String) : StateM State Bool := do
  let state ← get
  match state.disk.node? entry.1 with
  | some (.link _) | none => return true
  | some node =>
      let changed (mask : Nat) : Nat := Mode.apply changes node.isDirectory mask node.mode
      let mode := changed state.mask
      set { state with disk := state.disk.setMode entry.1 mode }
      reportMode given entry.2 node.mode mode
      if strict && Mode.without mode (changed 0) ≠ 0 then
        say <| s!"{spelled entry.2}: new permissions are {Mode.letters mode}, " ++
          s!"not {Mode.letters (changed 0)}"
        return false
      else return true

def inDirectory (directory name : String) : String :=
  if directory.endsWith "/" then directory ++ name else directory ++ "/" ++ name

def everythingBelow (disk : Disk) (place : Place) (path : String) : List (Place × String) :=
  (disk.below place).map fun entry =>
    (place ++ entry.1, inDirectory path ("/".intercalate (entry.1.map Name.text)))

def changeOne (given : Given) (changes : List Mode.Change) (strict : Bool) (operand : String) :
    StateM State Bool := do
  let state ← get
  let path : Path := ⟨operand⟩
  match state.disk.find state.current true path with
  | .ok ⟨place, some node⟩ =>
      let below := match given.has 'R', node with
        | true, .directory _ => everythingBelow state.disk place operand
        | _, _ => []
      return (← ((place, operand) :: below).mapM (changeNode given changes strict)).all id
  | .ok ⟨_, none⟩ =>
      if given.has 'f' then return false
      else
        match state.disk.find state.current false path with
        | .ok ⟨_, some _⟩ =>
            say s!"cannot operate on dangling symlink {quoted operand}"
            return false
        | _ => settle (.error (.system .notFound)) s!"cannot access {quoted operand}"
  | .error error =>
      if given.has 'f' then return false
      else settle (.error error) s!"cannot access {quoted operand}"

def changeMode : Utility := fun arguments => do
  let removals := arguments.filter isRemoval
  let switches : Switches :=
    ⟨"Rfvc", "r", [("recursive", 'R'), ("silent", 'f'), ("quiet", 'f'), ("verbose", 'v'),
      ("changes", 'c'), ("reference", 'r')]⟩
  match switches.read false (arguments.filter (!isRemoval ·)) with
  | .error problem => misuse 1 problem
  | .ok given =>
      match given.value? 'r', removals ++ given.operands with
      | some reference, operands =>
          let state ← get
          match state.disk.stat state.current ⟨reference⟩ with
          | .error error =>
              say s!"failed to get attributes of {quoted reference}: {reason error}"
              return 1
          | .ok node =>
              let change : Mode.Change := ⟨.replace, Mode.allBits, .bits node.mode, Mode.allBits⟩
              forEach operands (changeOne given [change] false)
      | none, [] => misuse 1 "missing operand"
      | none, [mode] => misuse 1 s!"missing operand after {quoted mode}"
      | none, mode :: operands =>
          match Mode.changes? mode with
          | some changes => forEach operands (changeOne given changes (!removals.isEmpty))
          | none => misuse 1 s!"invalid mode: {quoted mode}"

def isOwner (text : String) : Bool :=
  (Text.pieces ':' text.toList).all fun name =>
    ["", "root", "0", "+0"].contains (String.ofList name)

def changeOwner (group : Bool) : Utility :=
  taking ⟨"RfvchHLP", "rF", [("recursive", 'R'), ("silent", 'f'), ("quiet", 'f'), ("verbose", 'v'),
      ("changes", 'c'), ("no-dereference", 'h'), ("reference", 'r'), ("from", 'F')]⟩ 1
    fun given => do
      let apply (operands : List String) : StateM State Nat :=
        forEach operands fun operand => do
          let state ← get
          match state.disk.find state.current (!given.has 'h') ⟨operand⟩ with
          | .ok ⟨_, some _⟩ => return true
          | .ok ⟨_, none⟩ =>
              if given.has 'f' then return false
              else settle (.error (.system .notFound)) s!"cannot access {quoted operand}"
          | .error error =>
              if given.has 'f' then return false
              else settle (.error error) s!"cannot access {quoted operand}"
      match given.has 'r', given.operands with
      | true, operands => apply operands
      | false, [] => misuse 1 "missing operand"
      | false, [owner] => misuse 1 s!"missing operand after {quoted owner}"
      | false, owner :: operands =>
          if isOwner owner then apply operands
          else
            let kind := if group then "group" else "user"
            say s!"invalid {kind}: {quoted owner}"
            return 1

end PackageClosure.Shell.Utility
