import PackageClosure.Shell.Utility.Marking

set_option autoImplicit false

namespace PackageClosure.Shell.Utility

def destinationIn (directory source : String) : String :=
  let piece := lastPiece source
  if piece = ".." then directory else inDirectory directory piece

structure Following where
  named : Bool
  below : Bool

def look (follow : Bool) (path : String) : StateM State (Except FileError Disk.Found) := do
  let state ← get
  return state.disk.find state.current follow ⟨path⟩

def nodeAt? (follow : Bool) (path : String) : StateM State (Option Disk.Node) := do
  return match ← look follow path with
    | .ok found => found.node
    | .error _ => none

inductive Occupied where
  | replace
  | keep
  | refuse
  | newer
  | ask
deriving DecidableEq

inductive Duplicate where
  | copy
  | symbolic
  | hard
deriving DecidableEq

structure Backup where
  numbered : Option Bool
  ending : String

def backupKinds : List (String × Option (Option Bool)) :=
  [("none", none), ("off", none), ("simple", some (some false)), ("never", some (some false)),
    ("existing", some none), ("nil", some none), ("numbered", some (some true)),
    ("t", some (some true))]

def backupOf (given : Given) : StateM State (Except String (Option Backup)) := do
  let state ← get
  let asked := given.has 'b' || given.has 'B' || given.has 'S'
  let ending := (given.value? 'S').getD
    ((state.environment.lookup "SIMPLE_BACKUP_SUFFIX").getD "~")
  let ending := if ending.isEmpty || ending.contains '/' then "~" else ending
  if !asked then return .ok none
  else
    let kind := (given.value? 'B').getD ((state.environment.lookup "VERSION_CONTROL").getD "")
    if kind.isEmpty then return .ok (some ⟨none, ending⟩)
    else
      match backupKinds.filter (·.1.startsWith kind), backupKinds.lookup kind with
      | _, some way => return .ok (way.map (⟨·, ending⟩))
      | [(_, way)], none => return .ok (way.map (⟨·, ending⟩))
      | _, _ => return .error kind

def complainOfBackup (kind : String) : StateM State Nat := do
  say s!"invalid argument {quoted kind} for 'backup type'"
  modify fun state => state.emitError <|
    "Valid arguments are:\n  - 'none', 'off'\n  - 'simple', 'never'\n" ++
      "  - 'existing', 'nil'\n  - 'numbered', 't'\n" ++
      s!"Try '{state.name} --help' for more information.\n"
  return 1

def keptNumber? (base : List Char) (name : Name) : Option Nat :=
  let text := name.text.toList
  let start := base ++ ['.', '~']
  let digits := (text.drop start.length).dropLast
  if start.isPrefixOf text && text.getLast? = some '~' && !digits.isEmpty &&
    digits.all Char.isDigit then some (Nat.ofDigitChars 10 digits 0)
  else none

def Backup.nameFor (backup : Backup) (state : State) (target : String) : String :=
  let names := match state.disk.find state.current false ⟨target⟩ with
    | .ok found => state.disk.namesIn found.place.dropLast
    | .error _ => []
  let numbers := names.filterMap (keptNumber? (lastPiece target).toList)
  if backup.numbered.getD (!numbers.isEmpty) then
    s!"{target}.~{numbers.foldl max 0 + 1}~"
  else target ++ backup.ending

structure Copying where
  deep : Bool
  following : Following
  verbose : Bool
  occupied : Occupied
  duplicate : Duplicate
  faithful : Bool
  afresh : Bool
  backup : Option Backup

def setAside (backup : Option Backup) (target : String) : StateM State (Option String) := do
  let state ← get
  match backup, state.disk.find state.current false ⟨target⟩ with
  | some backup, .ok ⟨_, some node⟩ =>
      let name := backup.nameFor state target
      match node.isDirectory, state.disk.rename state.current ⟨target⟩ ⟨name⟩ with
      | false, .ok disk =>
          set { state with disk }
          return some name
      | _, _ => return none
  | _, _ => return none

def keptNote (name : Option String) : String :=
  match name with
  | some name => s!" (backup: {quoted name})"
  | none => ""

def copyOf (state : State) (copying : Copying) (node : Disk.Node) : Disk.File :=
  match node with
  | .file file =>
      if copying.faithful then { file with shared := 0 }
      else ⟨file.bytes, state.masked (file.mode &&& 0o777), state.disk.time, 0⟩
  | other => ⟨[], state.masked (other.mode &&& 0o777), state.disk.time, 0⟩

def copyFile (copying : Copying) (origin : Place) (node : Disk.Node) (source target : String) :
    StateM State Bool := do
  let state ← get
  let cleared := (state.disk.removeFile state.current ⟨target⟩).toOption.getD state.disk
  match node, copying.duplicate with
  | .link goal, .copy =>
      settle (cleared.createLink state.current goal ⟨target⟩)
        s!"cannot create symbolic link {quoted target}"
  | _, .symbolic =>
      let disk := if copying.afresh then cleared else state.disk
      settle (disk.createLink state.current ⟨source⟩ ⟨target⟩)
        s!"cannot create symbolic link {quoted target} to {quoted source}"
  | .file file, .hard =>
      settle (cleared.createName state.current file origin ⟨target⟩)
        s!"cannot create hard link {quoted target} to {quoted source}"
  | _, _ =>
      let disk := if copying.afresh then cleared else state.disk
      let copied := copyOf state copying node
      let cannot := s!"cannot create regular file {quoted target}"
      match disk.find state.current true ⟨target⟩ with
      | .ok ⟨place, none⟩ =>
          if target.endsWith "/" then settle (.error (.system .notDirectory)) cannot
          else if (disk.find state.current false ⟨target⟩).toOption.any (·.node.isSome) then
            say s!"not writing through dangling symlink {quoted target}"
            return false
          else
            set { state with disk := disk.put place (.file copied) }
            return true
      | .ok ⟨place, some (.file there)⟩ =>
          let kept : Disk.File :=
            if copying.faithful then { copied with shared := there.shared }
            else state.disk.rewritten there copied.bytes
          set ({ state with disk := disk.putFile place kept }.emptied place)
          return true
      | .ok _ =>
          settle (disk.write state.current Disk.fileMode ⟨target⟩ copied.bytes) cannot
      | .error error => settle (.error error) cannot

def mayReplace (copying : Copying) (node there : Disk.Node) (source target : String) :
    StateM State (Except Bool Unit) := do
  match copying.occupied with
  | .replace => return .ok ()
  | .keep => return .error true
  | .refuse =>
      say s!"not replacing {quoted target}"
      return .error false
  | .newer =>
      let _ := source
      return if there.changed < node.changed then .ok () else .error true
  | .ask =>
      if ← confirms s!"overwrite {quoted target}" then return .ok () else return .error false

mutual

-- Copies what a path leads to. What is at the place of the copy itself is left out.
def copyNode (copying : Copying) : Nat → Bool → Option Place → String → String → StateM State Bool
  | 0, _, _, _, _ => return false
  | fuel + 1, isNamed, copy, source, target => do
      let follow := if isNamed then copying.following.named else copying.following.below
      let report (kept : Option String) : StateM State Unit := do
        if copying.verbose then emitText s!"{quoted source} -> {quoted target}{keptNote kept}\n"
      match ← look follow source with
      | .error error => settle (.error error) s!"cannot stat {quoted source}"
      | .ok ⟨_, none⟩ => settle (.error (.system .notFound)) s!"cannot stat {quoted source}"
      | .ok ⟨origin, some (.directory mode)⟩ =>
          if !copying.deep then
            say s!"-r not specified; omitting directory {quoted source}"
            return false
          else if copy = some origin then return true
          else
            let there ← nodeAt? true target
            let state ← get
            if there.any (!·.isDirectory) then
              say s!"cannot overwrite non-directory {quoted target} with directory {quoted source}"
              return false
            else if there.isSome then
              copyInside copying fuel copy origin source target (state.disk.namesIn origin)
            else
              let copied := if copying.faithful then mode else state.masked mode
              let made := state.disk.createDirectory state.current copied ⟨target⟩
              if ← settle made s!"cannot create directory {quoted target}" then
                report none
                let goal := (← look true target).toOption.map Disk.Found.place
                let inside := (goal.map origin.isPrefixOf).getD false
                let copied ← copyInside copying fuel (copy <|> goal) origin source target
                  (state.disk.namesIn origin)
                if inside && copy.isNone then
                  say <| s!"cannot copy a directory, {quoted source}, into itself, " ++
                    s!"{quoted target}"
                  return false
                else return copied
              else return false
      | .ok ⟨origin, some node⟩ =>
          match ← look true target with
          | .ok ⟨_, some (.directory _)⟩ =>
              say s!"cannot overwrite directory {quoted target} with non-directory"
              return false
          | .ok ⟨goal, some there⟩ =>
              if goal = origin || Disk.isShared node there then
                say s!"{quoted source} and {quoted target} are the same file"
                return false
              else
                match ← mayReplace copying node there source target with
                | .error result => return result
                | .ok () =>
                    let kept ← setAside copying.backup target
                    let done ← copyFile copying origin node source target
                    if done then report kept
                    return done
          | _ =>
              let kept ← setAside copying.backup target
              let done ← copyFile copying origin node source target
              if done then report kept
              return done

def copyInside (copying : Copying) : Nat → Option Place → Place → String → String → List Name →
    StateM State Bool
  | 0, _, _, _, _, _ => return false
  | _ + 1, _, _, _, _, [] => return true
  | fuel + 1, copy, origin, source, target, name :: rest => do
      let first ←
        if copy = some (origin ++ [name]) then pure true
        else
          copyNode copying fuel false copy (inDirectory source name.text)
            (inDirectory target name.text)
      let others ← copyInside copying fuel copy origin source target rest
      return first && others

end

inductive Plan where
  | pairs (pairs : List (String × String))
  | wrong (code : StateM State Nat)

-- Reads which operands are sources and where they go. Below a directory every source keeps its
-- name.
def planOf (given : Given) (followsTarget : Bool) : StateM State Plan := do
  let isDirectory (path : String) : StateM State Bool := do
    return (← nodeAt? followsTarget path).any Disk.Node.isDirectory
  let into (directory : String) (sources : List String) : Plan :=
    .pairs (sources.map fun source => (source, destinationIn directory source))
  match given.value? 't', given.operands with
  | _, [] => return .wrong (misuse 1 "missing file operand")
  | some directory, sources =>
      match ← nodeAt? true directory with
      | some (.directory _) => return into directory sources
      | some _ =>
          return .wrong do
            say s!"target directory {quoted directory}: Not a directory"
            return 1
      | none =>
          return .wrong do
            say s!"target directory {quoted directory}: No such file or directory"
            return 1
  | none, [source] =>
      return .wrong (misuse 1 s!"missing destination file operand after {quoted source}")
  | none, operands =>
      let target := operands.getLast?.getD ""
      let sources := operands.dropLast
      if given.has 'T' then
        match sources with
        | [source] => return .pairs [(source, target)]
        | _ => return .wrong (misuse 1 s!"extra operand {quoted target}")
      else if ← isDirectory target then return into target sources
      else
        match sources, ← nodeAt? true target with
        | [source], _ => return .pairs [(source, target)]
        | _, some _ =>
            return .wrong do
              say s!"target {quoted target}: Not a directory"
              return 1
        | _, none =>
            return .wrong do
              say s!"target {quoted target}: No such file or directory"
              return 1

def carryOut (plan : Plan) (act : String → String → StateM State Bool) : StateM State Nat :=
  match plan with
  | .wrong code => code
  | .pairs pairs => do
      return if (← pairs.mapM fun (source, target) => act source target).all id then 0 else 1

def copyFuel (state : State) : Nat := 4 * state.disk.nodes.entries.length + 16

def occupiedOf (given : Given) (refusal : Occupied) : Occupied :=
  let choice := (given.options.filter fun option => "nfiuU".toList.contains option.1).getLast?
  match choice with
  | some ('n', _) => refusal
  | some ('i', _) => .ask
  | some ('u', _) => .newer
  | some ('U', word) => if word = "none" then .keep else if word = "older" then .newer else .replace
  | _ => .replace

def wrongUpdate? (given : Given) : Option String :=
  (given.values 'U').find? fun word => !(["all", "none", "older"].contains word)

def complainOfUpdate (word : String) : StateM State Nat := do
  say s!"invalid argument {quoted word} for '--update'"
  modify fun state => state.emitError
    "Valid arguments are:\n  - 'all'\n  - 'none'\n  - 'older'\n"
  modify fun state => state.emitError s!"Try '{state.name} --help' for more information.\n"
  return 1

def withUpdates (arguments : List String) : List String :=
  arguments.flatMap fun argument =>
    if argument.startsWith "--update=" then ["-U", (argument.drop 9).toString]
    else if argument.startsWith "--preserve=" then ["-p"]
    else if argument.startsWith "--no-preserve=" || argument.startsWith "--reflink" ||
      argument.startsWith "--sparse" then []
    else if argument.startsWith "--backup=" then ["-B", (argument.drop 9).toString]
    else [argument]

def copy : Utility := fun arguments =>
  taking ⟨"abdfiHlLnpPrRsuvxTZDA", "tSUB", [("archive", 'a'), ("force", 'f'), ("recursive", 'r'),
      ("no-clobber", 'n'), ("dereference", 'L'), ("no-dereference", 'P'), ("verbose", 'v'),
      ("target-directory", 't'), ("no-target-directory", 'T'), ("update", 'u'), ("preserve", 'p'),
      ("symbolic-link", 's'), ("link", 'l'), ("interactive", 'i'), ("one-file-system", 'x'),
      ("remove-destination", 'D'), ("parents", 'A'), ("backup", 'b'), ("suffix", 'S'),
      ("attributes-only", 'Z'), ("strip-trailing-slashes", 'Z')]⟩ 1
    (fun given => do
      if given.has 'n' then
        say <| "warning: behavior of -n is non-portable and may change in future; " ++
          "use --update=none instead"
      if let some word := wrongUpdate? given then return ← complainOfUpdate word
      let backup ← match ← backupOf given with
        | .error kind => return ← complainOfBackup kind
        | .ok backup => pure backup
      let deep := ['r', 'R', 'a'].any given.has
      let choice := (given.options.filter fun option => "aHLPd".toList.contains option.1).getLast?
      let following : Following := match choice.map Prod.fst with
        | some 'L' => ⟨true, true⟩
        | some 'H' => ⟨true, false⟩
        | some _ => ⟨false, false⟩
        | none => ⟨!deep, !deep⟩
      let duplicate : Duplicate :=
        if given.has 's' then .symbolic else if given.has 'l' then .hard else .copy
      let copying : Copying :=
        ⟨deep, following, given.has 'v', occupiedOf given .keep, duplicate,
          given.has 'p' || given.has 'a', given.has 'D', backup⟩
      let fuel := copyFuel (← get)
      if given.has 'A' then
        match given.operands.getLast?, ← nodeAt? true (given.operands.getLast?.getD "") with
        | some target, some (.directory _) =>
            let pairs := given.operands.dropLast.map fun source => (source, inDirectory target source)
            carryOut (.pairs pairs) fun source goal => do
              let above := (goal.toList.reverse.dropWhile (· ≠ '/')).drop 1
              let above := String.ofList above.reverse
              let making : Making := ⟨none, (← get).masked 0o777, (← get).masked 0o777⟩
              if ← makeParents making above (pathsAlong above) then
                copyNode copying fuel true none source goal
              else return false
        | _, _ => misuse 1 "with --parents, the destination must be a directory"
      else
        carryOut (← planOf given true) fun source target =>
          copyNode copying fuel true none source target) (withUpdates arguments)

def moveOne (copying : Copying) (source target : String) : StateM State Bool := do
  match ← look false source with
  | .error error => settle (.error error) s!"cannot stat {quoted source}"
  | .ok ⟨_, none⟩ => settle (.error (.system .notFound)) s!"cannot stat {quoted source}"
  | .ok ⟨origin, some node⟩ =>
      let piece := lastPiece source
      let cannot := s!"cannot move {quoted source} to {quoted target}"
      if piece = "." || piece = ".." then
        say s!"{cannot}: Device or resource busy"
        return false
      else if target.endsWith "/" && !node.isDirectory && (← nodeAt? true target).isNone then
        settle (.error (.system .notDirectory)) cannot
      else
        let goal ← look false (Disk.trimSlashes ⟨target⟩).text
        let there? := (goal.toOption).bind Disk.Found.node
        let place := (goal.toOption).map Disk.Found.place
        if there?.isSome && (place = some origin || Disk.isShared node there?) then
          say s!"{quoted source} and {quoted target} are the same file"
          return false
        else
          let allowed ← match there? with
            | some there => mayReplace copying node there source target
            | none => pure (.ok ())
          match allowed with
          | .error result => return result
          | .ok () =>
              if there?.any Disk.Node.isDirectory && !node.isDirectory then
                say s!"cannot overwrite directory {quoted target} with non-directory"
                return false
              else if node.isDirectory && there?.any (!·.isDirectory) then
                say <| s!"cannot overwrite non-directory {quoted target} with directory " ++
                  quoted source
                return false
              else
                let kept ← setAside copying.backup target
                let state ← get
                match state.disk.rename state.current ⟨source⟩ ⟨target⟩ with
                | .ok disk =>
                    set { state with disk }
                    if copying.verbose then
                      emitText
                        s!"renamed {quoted source} -> {quoted target}{keptNote kept}\n"
                    return true
                | .error (.system .invalidArgument) =>
                    say <| s!"cannot move {quoted source} to a subdirectory of itself, " ++
                      quoted target
                    return false
                | .error (.system .notEmpty) =>
                    settle (.error (.system .notEmpty)) s!"cannot overwrite {quoted target}"
                | .error error => settle (.error error) cannot

def move : Utility := fun arguments =>
  taking ⟨"bfinuvTZ", "tSUB", [("force", 'f'), ("no-clobber", 'n'), ("verbose", 'v'),
      ("target-directory", 't'), ("no-target-directory", 'T'), ("update", 'u'),
      ("interactive", 'i'), ("backup", 'b'), ("suffix", 'S'), ("strip-trailing-slashes", 'Z')]⟩ 1
    (fun given => do
      if let some word := wrongUpdate? given then return ← complainOfUpdate word
      let backup ← match ← backupOf given with
        | .error kind => return ← complainOfBackup kind
        | .ok backup => pure backup
      let copying : Copying :=
        ⟨true, ⟨false, false⟩, given.has 'v', occupiedOf given .refuse, .copy, true, false,
          backup⟩
      carryOut (← planOf given true) (moveOne copying)) (withUpdates arguments)

def relativePath (base path : Place) : String :=
  let shared := ((base.zip path).takeWhile fun (left, right) => left = right).length
  let up := List.replicate (base.length - shared) ".."
  let text := "/".intercalate (up ++ (path.drop shared).map Name.text)
  if text.isEmpty then "." else text

def linkOne (given : Given) (backup : Option Backup) (source target : String) :
    StateM State Bool := do
  let state ← get
  let symbolic := given.has 's'
  let verb := if symbolic then "symbolic" else "hard"
  let origin ← look (given.has 'L') source
  match symbolic, origin.toOption.bind Disk.Found.node with
  | false, none =>
      let problem := match origin with
        | .error error => error
        | .ok _ => .system .notFound
      settle (.error problem) s!"failed to access {quoted source}"
  | false, some (.directory _) =>
      say s!"{spelled source}: hard link not allowed for directory"
      return false
  | _, node =>
      let there ← look false target
      let occupied := (there.toOption.bind Disk.Found.node).isSome
      let isSame := !symbolic && occupied && match there.toOption, origin.toOption with
        | some goal, some found =>
            goal.place = found.place || (node.any fun node => Disk.isShared node goal.node)
        | _, _ => false
      if isSame && given.has 'f' then
        say s!"{quoted source} and {quoted target} are the same file"
        return false
      else
        let replaced ←
          if given.has 'i' && occupied then confirms s!"replace {quoted target}" else pure true
        if !replaced then return false
        else
          let kept ← setAside backup target
          let state := { state with disk := (← get).disk }
          let cleared :=
            if (given.has 'f' || given.has 'i') && occupied then
              (state.disk.removeFile state.current ⟨target⟩).toOption.getD state.disk
            else state.disk
          let goal :=
            if !given.has 'r' then source
            else
              let above := there.toOption.map fun found => found.place.dropLast
              let meant := (state.disk.find state.current true ⟨source⟩).toOption
              match above, meant with
              | some above, some found => relativePath above found.place
              | _, _ => source
          let made : Except FileError Disk :=
            if symbolic then
              if source.isEmpty then .error (.system .notFound)
              else cleared.createLink state.current ⟨goal⟩ ⟨target⟩
            else
              match node, origin.toOption with
              | some (.file file), some found =>
                  cleared.createName state.current file found.place ⟨target⟩
              | some node, _ => cleared.create state.current ⟨target⟩ node
              | none, _ => .error (.system .notFound)
          let failed := s!"failed to create {verb} link {quoted target}"
          let shown := if source.isEmpty && symbolic then s!"{failed} -> ''"
            else if !symbolic && made.toOption.isNone && !occupied then
              s!"{failed} => {quoted source}"
            else failed
          let done ← settle made shown
          if done && given.has 'v' then
            let arrow := if symbolic then "->" else "=>"
            let note := match kept with
              | some name => s!"{quoted name} ~ "
              | none => ""
            emitText s!"{note}{quoted target} {arrow} {quoted goal}\n"
          return done

def link : Utility := fun arguments =>
  taking ⟨"bdFfinLPrsTv", "tSB", [("symbolic", 's'), ("force", 'f'), ("no-dereference", 'n'),
      ("verbose", 'v'), ("target-directory", 't'), ("no-target-directory", 'T'),
      ("relative", 'r'), ("interactive", 'i'), ("logical", 'L'), ("physical", 'P'),
      ("backup", 'b'), ("suffix", 'S')]⟩ 1
    (fun given => do
      match given.operands, given.value? 't', ← backupOf given with
      | _, _, .error kind => complainOfBackup kind
      | [source], none, .ok backup =>
          carryOut (.pairs [(source, destinationIn "." source)]) (linkOne given backup)
      | _, _, .ok backup => carryOut (← planOf given (!given.has 'n')) (linkOne given backup))
    (withUpdates arguments)

def linkPlainly : Utility :=
  taking ⟨"", "", []⟩ 1 fun given => do
    match given.operands with
    | [] => misuse 1 "missing operand"
    | [source] => misuse 1 s!"missing operand after {quoted source}"
    | [source, target] =>
        let state ← get
        let made : Except FileError Disk := do
          let found ← state.disk.find state.current false ⟨source⟩
          match found.node with
          | some (.file file) => state.disk.createName state.current file found.place ⟨target⟩
          | some (.directory _) => throw (.system .notPermitted)
          | some node => state.disk.create state.current ⟨target⟩ node
          | none => throw (.system .notFound)
        return if ← settle made s!"cannot create link {quoted target} to {quoted source}" then 0
          else 1
    | _ :: _ :: extra :: _ => misuse 1 s!"extra operand {quoted extra}"

end PackageClosure.Shell.Utility
