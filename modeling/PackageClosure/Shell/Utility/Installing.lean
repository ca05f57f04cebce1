import PackageClosure.Shell.Utility.Copying

set_option autoImplicit false

namespace PackageClosure.Shell.Utility

def directoryAbove (path : String) : Option String :=
  let trimmed := path.toList.reverse.dropWhile (· = '/')
  let above := (trimmed.dropWhile (· ≠ '/')).dropWhile (· = '/')
  if above.isEmpty then none else some (String.ofList above.reverse)

structure Installation where
  fileMode : Nat
  directoryMode : Nat
  verbose : Bool
  complete : Bool
  faithful : Bool
  lazy : Bool
  backup : Option Backup

def Installation.making (installation : Installation) (last : Nat) : Making :=
  ⟨if installation.verbose then some "creating directory" else none, Disk.directoryMode, last⟩

def installOne (installation : Installation) (source target : String) : StateM State Bool := do
  match ← look true source with
  | .error error => settle (.error error) s!"cannot stat {quoted source}"
  | .ok ⟨_, none⟩ => settle (.error (.system .notFound)) s!"cannot stat {quoted source}"
  | .ok ⟨_, some (.directory _)⟩ =>
      say s!"omitting directory {quoted source}"
      return false
  | .ok ⟨origin, some node⟩ =>
      let ready ← match installation.complete, directoryAbove target with
        | true, some above =>
            makeParents (installation.making Disk.directoryMode) above (pathsAlong above)
        | _, _ => pure true
      if !ready then return false
      else
        let state ← get
        let file := match node with
          | .file file => file
          | _ => state.disk.newFile 0
        let copied : Disk.File :=
          ⟨file.bytes, installation.fileMode,
            if installation.faithful then file.changed else state.disk.time, 0⟩
        let notMade := s!"cannot create regular file {quoted target}"
        let put (disk : Disk) : StateM State Bool := do
          let done ← settle (disk.create state.current ⟨target⟩ (.file copied)) notMade
          return done
        match state.disk.find state.current false ⟨target⟩ with
        | .ok ⟨_, some (.directory _)⟩ =>
            say s!"cannot overwrite directory {quoted target} with non-directory"
            return false
        | .ok ⟨place, some there⟩ =>
            let isSame := match there with
              | .file other => other.bytes = file.bytes && other.mode = installation.fileMode
              | _ => false
            if place = origin || Disk.isShared node (some there) then
              say s!"{quoted source} and {quoted target} are the same file"
              return false
            else if installation.lazy && isSame then return true
            else
              let kept ← setAside installation.backup target
              let disk := (← get).disk
              let done ← put (if kept.isSome then disk else disk.erase place)
              if done && installation.verbose then
                if kept.isNone then emitText s!"removed {quoted target}\n"
                emitText s!"{quoted source} -> {quoted target}{keptNote kept}\n"
              return done
        | .ok ⟨_, none⟩ =>
            if target.endsWith "/" then settle (.error (.system .notDirectory)) notMade
            else
              let done ← put state.disk
              if done && installation.verbose then
                emitText s!"{quoted source} -> {quoted target}\n"
              return done
        | .error error => settle (.error error) notMade

def installDirectory (installation : Installation) (path : String) : StateM State Bool := do
  let made ← makeParents (installation.making installation.directoryMode) path (pathsAlong path)
  if made then
    modify fun state =>
      match state.disk.find state.current true ⟨path⟩ with
      | .ok found =>
          { state with disk := state.disk.setMode found.place installation.directoryMode }
      | .error _ => state
  return made

def install : Utility := fun arguments =>
  taking ⟨"bcCDdpsTv", "mogtSB", [("directory", 'd'), ("mode", 'm'), ("owner", 'o'), ("group", 'g'),
      ("target-directory", 't'), ("no-target-directory", 'T'), ("verbose", 'v'),
      ("preserve-timestamps", 'p'), ("compare", 'C'), ("strip", 's'), ("backup", 'b'),
      ("suffix", 'S')]⟩ 1
    (fun given => do
      let mode := (given.value? 'm').getD "755"
      match Mode.changes? mode, ← backupOf given with
      | _, .error kind => complainOfBackup kind
      | none, _ =>
          say s!"invalid mode {quoted mode}"
          return 1
      | some changes, .ok backup =>
          let installation : Installation :=
            ⟨Mode.apply changes false 0 0, Mode.apply changes true 0 0, given.has 'v',
              given.has 'D', given.has 'p', given.has 'C', backup⟩
          if given.has 'd' then
            if given.operands.isEmpty then misuse 1 "missing file operand"
            else forEach given.operands (installDirectory installation)
          else
            let absent ← match given.value? 't' with
              | some directory => pure ((← nodeAt? true directory).isNone)
              | none => pure false
            let directory := (given.value? 't').getD ""
            if absent && !given.operands.isEmpty then
              if given.has 'D' then
                let making := installation.making Disk.directoryMode
                if !(← makeParents making directory (pathsAlong directory)) then return 1
              else
                say s!"failed to access {quoted directory}: {SystemError.text .notFound}"
                return 1
            carryOut (← planOf given true) (installOne installation))
    (withUpdates arguments)

def sizeOfText? (text : String) : Option (Option Bool × Nat) := do
  let (sign, rest) := match text.toList with
    | '+' :: rest => (some true, rest)
    | '-' :: rest => (some false, rest)
    | rest => (none, rest)
  let (digits, unit) := rest.span Char.isDigit
  let factor ← match unit with
    | [] => some 1
    | ['K'] | ['k'] | ['K', 'i', 'B'] => some 1024
    | ['M'] | ['M', 'i', 'B'] => some 1048576
    | ['k', 'B'] | ['K', 'B'] => some 1000
    | ['M', 'B'] => some 1000000
    | _ => none
  if digits.isEmpty then none else return (sign, Nat.ofDigitChars 10 digits 0 * factor)

def truncate : Utility :=
  taking ⟨"co", "sr", [("size", 's'), ("no-create", 'c'), ("reference", 'r')]⟩ 1 fun given => do
    match given.value? 's', given.operands with
    | none, _ => misuse 1 "you must specify either '--size' or '--reference'"
    | some _, [] => misuse 1 "missing file operand"
    | some text, operands =>
        match sizeOfText? text with
        | none =>
            say s!"Invalid number: {quoted text}"
            return 1
        | some (sign, number) =>
            forEach operands fun operand => do
              let state ← get
              let before := (state.disk.read state.current ⟨operand⟩).toOption
              if before.isNone && given.has 'c' then return true
              else
                let bytes := before.getD []
                let size := match sign with
                  | none => number
                  | some true => bytes.length + number
                  | some false => bytes.length - number
                let resized := bytes.take size ++ List.replicate (size - bytes.length) 0
                settle (state.disk.write state.current (state.masked 0o666) ⟨operand⟩ resized)
                  s!"cannot open {quoted operand} for writing"

end PackageClosure.Shell.Utility
