import PackageClosure.Shell.Mode
import PackageClosure.Shell.Utility.Basic

set_option autoImplicit false

namespace PackageClosure.Shell.Utility

def pathsAlong (path : String) : List String :=
  let steps := (⟨path⟩ : Path).lookupSteps.filter (· ≠ .current)
  (List.range steps.length).map fun count => (Path.ofSteps (steps.take (count + 1))).text

def directoryMode (state : State) (changes : Option (List Mode.Change)) : Nat :=
  match changes with
  | some changes => Mode.apply changes true state.mask 0o777
  | none => state.masked 0o777

structure Making where
  words : Option String
  above : Nat
  last : Nat

def makeParents (making : Making) (path : String) : List String → StateM State Bool
  | [] => return true
  | along :: rest => do
      let state ← get
      if state.disk.isDirectory state.current ⟨along⟩ then makeParents making path rest
      else
        let shown := if rest.isEmpty then path else along
        let mode := if rest.isEmpty then making.last else making.above
        let made := match state.disk.createDirectory state.current mode ⟨along⟩, rest with
          | .error (.system .alreadyExists), _ :: _ => .error (.system .notDirectory)
          | made, _ => made
        if ← settle made s!"cannot create directory {quoted shown}" then
          if let some words := making.words then
            emitText s!"{state.name}: {words} {quoted shown}\n"
          makeParents making path rest
        else return false

def makeDirectory : Utility :=
  taking ⟨"pvZ", "m", [("parents", 'p'), ("verbose", 'v'), ("mode", 'm')]⟩ 1 fun given => do
    let changes := (given.value? 'm').bind Mode.changes?
    if given.operands.isEmpty then misuse 1 "missing operand"
    else if given.has 'm' && changes.isNone then
      say ("invalid mode " ++ quoted ((given.value? 'm').getD ""))
      return 1
    else forEach given.operands fun operand => do
      let state ← get
      if given.has 'p' then
        if operand.isEmpty then settle (.error (.system .notFound)) "cannot create directory ''"
        else
          let words := if given.has 'v' then some "created directory" else none
          let making : Making :=
            ⟨words, state.masked 0o777 ||| 0o300, directoryMode state changes⟩
          makeParents making operand (pathsAlong operand)
      else
        let made :=
          state.disk.createDirectory state.current (directoryMode state changes) ⟨operand⟩
        let done ← settle made s!"cannot create directory {quoted operand}"
        if done && given.has 'v' then
          emitText s!"{state.name}: created directory {quoted operand}\n"
        return done

def removeDirectories (verbose lenient : Bool) : List String → StateM State Bool
  | [] => return true
  | path :: rest => do
      if verbose then emitText s!"{(← get).name}: removing directory, {quoted path}\n"
      let state ← get
      let removed : Except FileError Disk := match lastPiece path with
        | "." => .error (.system .invalidArgument)
        | ".." => .error (.system .notEmpty)
        | _ => state.disk.removeDirectory state.current ⟨path⟩
      match removed with
      | .error (.system .notEmpty) =>
          if lenient then return true
          else settle (.error (.system .notEmpty)) s!"failed to remove {quoted path}"
      | removed =>
          if ← settle removed s!"failed to remove {quoted path}" then
            removeDirectories verbose lenient rest
          else return false

def removeDirectory : Utility :=
  taking ⟨"pv", "", [("parents", 'p'), ("verbose", 'v'), ("ignore-fail-on-non-empty", 'i')]⟩ 1
    fun given => do
      if given.operands.isEmpty then misuse 1 "missing operand"
      else forEach given.operands fun operand =>
        let paths := if given.has 'p' then (pathsAlong operand).reverse.drop 1 else []
        removeDirectories (given.has 'v') (given.has 'i') (operand :: paths)

def contents (disk : Disk) (place : Place) (path : String) : List (String × Bool) :=
  let entries := (disk.below place).map fun (inside, node) =>
    ("/".intercalate (path :: inside.map Name.text), node.isDirectory)
  (entries.reverse ++ [(path, true)])

def removeOne (given : Given) (operand : String) : StateM State Bool := do
  let state ← get
  let path : Path := ⟨operand⟩
  let deep := given.has 'r' || given.has 'R'
  let problem := s!"cannot remove {quoted operand}"
  let piece := lastPiece operand
  if deep && (piece = "." || piece = "..") then
    say s!"refusing to remove '.' or '..' directory: skipping {quoted operand}"
    return false
  else if deep && !given.has 'n' && (state.disk.find state.current false path).toOption.any
      (·.place.isEmpty) then
    say (if operand = "/" then "it is dangerous to operate recursively on '/'"
      else s!"it is dangerous to operate recursively on {quoted operand} (same as '/')")
    say "use --no-preserve-root to override this failsafe"
    return false
  else
    let report (removed : List (String × Bool)) : StateM State Unit := do
      if given.has 'v' then
        emitText <| "".intercalate <| removed.map fun (name, isDirectory) =>
          (if isDirectory then "removed directory " else "removed ") ++ quoted name ++ "\n"
    match state.disk.removeFile state.current path with
    | .ok disk =>
        set { state with disk }
        report [(operand, false)]
        return true
    | .error (.system .isDirectory) =>
        if deep then
          match state.disk.find state.current false path,
              state.disk.find state.current false (Disk.trimSlashes path) with
          | _, .ok ⟨_, some (.link _)⟩ => settle (.error (.system .notDirectory)) problem
          | .ok found, _ =>
              let done ← settle (state.disk.removeTree state.current path) problem
              report (contents state.disk found.place (Disk.trimSlashes path).text)
              return done
          | _, _ => settle (state.disk.removeTree state.current path) problem
        else if given.has 'd' then
          let done ← settle (state.disk.removeDirectory state.current path) problem
          if done then report [(operand, true)]
          return done
        else settle (.error (.system .isDirectory)) problem
    | .error error =>
        let absent := error = .system .notFound || error = .system .notDirectory
        if given.has 'f' && absent then return true
        else settle (.error error) problem

def remove : Utility :=
  taking ⟨"rRfdviI", "", [("recursive", 'r'), ("force", 'f'), ("dir", 'd'), ("verbose", 'v'),
      ("one-file-system", 'o'), ("no-preserve-root", 'n'), ("preserve-root", 'k')]⟩ 1
    fun given => do
      if given.operands.isEmpty then
        if given.has 'f' then return 0 else misuse 1 "missing operand"
      else forEach given.operands (removeOne given)

def removeLink : Utility :=
  taking ⟨"", "", []⟩ 1 fun given => do
    match given.operands with
    | [] => misuse 1 "missing operand"
    | [operand] =>
        let state ← get
        let removed := state.disk.removeFile state.current ⟨operand⟩
        return if ← settle removed s!"cannot unlink {quoted operand}" then 0 else 1
    | _ :: extra :: _ => misuse 1 s!"extra operand {quoted extra}"

end PackageClosure.Shell.Utility
