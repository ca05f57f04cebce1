import PackageClosure.Shell.Condition
import PackageClosure.Shell.Format
import PackageClosure.Shell.Utility.Lines
import PackageClosure.Shell.Utility.Naming

set_option autoImplicit false

namespace PackageClosure.Shell.Utility

def echoOptions : List String → List Char × List String
  | [] => ([], [])
  | argument :: rest =>
      match argument.toList with
      | '-' :: first :: more =>
          if (first :: more).all "neE".toList.contains then
            let (letters, words) := echoOptions rest
            (first :: more ++ letters, words)
          else ([], argument :: rest)
      | _ => ([], argument :: rest)

def echoPlainly : Utility := fun arguments => do
  let (letters, words) := echoOptions arguments
  let text := (" ".intercalate words).toList
  let escapes := (letters.reverse.find? fun c => c = 'e' || c = 'E') = some 'e'
  let written : Format.Escaped :=
    if escapes then Format.unescape (text.length + 1) text else ⟨Text.rawBytes text, false⟩
  let ending := if letters.contains 'n' || written.stops then [] else [10]
  emitBytes (written.bytes ++ ending)
  return 0

def printFormatted : Utility := fun arguments => do
  match arguments with
  | "--" :: format :: rest | format :: rest =>
      let written := Format.printf .program format rest
      for problem in written.problems do say problem
      emitBytes written.bytes
      return if written.problems.isEmpty then 0 else 1
  | [] => misuse 1 "missing operand"

def decideCondition : Utility := fun arguments => do
  match Condition.decide (← get) arguments with
  | .ok value => return if value then 0 else 1
  | .error problem =>
      say problem
      return 2

def decideBracketed : Utility := fun arguments => do
  if arguments.getLast? = some "]" then decideCondition arguments.dropLast
  else
    say "missing ']'"
    return 2

def difference : Nat → Nat → Bytes → Bytes → Option (Nat × Nat × Option Bool)
  | _, _, [], [] => none
  | count, lines, [], _ => some (count, lines, some true)
  | count, lines, _, [] => some (count, lines, some false)
  | count, lines, left :: more, right :: others =>
      if left = right then
        difference (count + 1) (if left = 10 then lines + 1 else lines) more others
      else some (count, lines, none)

def compareFiles : Utility :=
  taking ⟨"bls", "n", [("silent", 's'), ("quiet", 's'), ("bytes", 'n'), ("verbose", 'l')]⟩ 2
    fun given => do
      match given.operands with
      | [] => misuse 2 s!"missing operand after 'cmp'"
      | first :: rest =>
          let second := rest.headD "-"
          let limit (bytes : Bytes) : Bytes :=
            match (given.value? 'n').bind fun text => count? text.toList with
            | some most => bytes.take most
            | none => bytes
          match ← readOperand first, ← readOperand second with
          | .ok left, .ok right =>
              match difference 0 0 (limit left) (limit right) with
              | none => return 0
              | some (count, lines, ended) =>
                  if !given.has 's' then
                    match ended with
                    | none =>
                        emitText s!"{first} {second} differ: char {count + 1}, line {lines + 1}\n"
                    | some isFirst =>
                        let short := if isFirst then first else second
                        let bytes := if isFirst then left else right
                        if bytes.isEmpty then say s!"EOF on {short} which is empty"
                        else
                          let place := if bytes.getLast? = some 10 then s!"line {lines}"
                            else s!"in line {lines + 1}"
                          say s!"EOF on {short} after byte {count}, {place}"
                  return 1
          | .error problem, _ =>
              say s!"{first}: {problem}"
              return 2
          | _, .error problem =>
              say s!"{second}: {problem}"
              return 2

def pasteLines : Utility :=
  taking ⟨"sz", "d", [("serial", 's'), ("delimiters", 'd')]⟩ 1 fun given => do
    let operands := if given.operands.isEmpty then ["-"] else given.operands
    let joints := Text.byteChars (((given.value? 'd').getD "\t").replace "\\n" "\n" |>.replace
      "\\t" "\t").toList
    let join (texts : List Bytes) : Bytes :=
      (texts.zipIdx.map fun (text, index) =>
        if index = 0 then text
        else bytesOf ((joints[(index - 1) % joints.length]?).toList) ++ text).flatten
    let dashes := operands.count "-"
    let input ← if dashes = 0 then pure [] else do
      pure (linesOf ((← readInput).toOption.getD []))
    let files ← operands.zipIdx.mapM fun (operand, index) => do
      if operand = "-" then
        let turn := (operands.take index).count "-"
        let lines := if given.has 's' then if turn = 0 then input else []
          else (input.zipIdx.filter fun entry => entry.2 % dashes = turn).map Prod.fst
        pure (some lines)
      else
        match ← readOperand operand with
        | .ok bytes => pure (some (linesOf bytes))
        | .error problem =>
            say s!"{spelled operand}: {problem}"
            pure none
    if files.any Option.isNone then return 1
    else
      let files := files.filterMap id
      let rows :=
        if given.has 's' then files
        else
          let most := files.foldl (fun most lines => max most lines.length) 0
          (List.range most).map fun row => files.map fun lines => lines.getD row []
      emitBytes (joinLines (rows.map join))
      return 0

def pathsNamed (state : State) (name : String) : List String :=
  if name.contains '/' then [name]
  else
    match state.bindings.lookup "PATH" with
    | none => []
    | some directories =>
        (Text.pieces ':' directories.toList).map fun directory =>
          if directory.isEmpty then name else s!"{String.ofList directory}/{name}"

def programsNamed (state : State) (name : String) : List String :=
  (pathsNamed state name).filter fun path =>
    match state.disk.stat state.current ⟨path⟩ with
    | .ok (.file file) => Disk.isRunnable file.mode
    | _ => false

def locate : Utility := fun arguments => do
  let all := arguments.contains "-a"
  let names := arguments.filter (!·.startsWith "-")
  let state ← get
  let found := names.map (programsNamed state)
  for paths in found do
    for path in (if all then paths else paths.take 1) do emitText s!"{path}\n"
  return if names.isEmpty || found.any List.isEmpty then 1 else 0

def printEnvironment : Utility := fun arguments => do
  let switches : Switches := ⟨"0", "", [("null", '0')]⟩
  match switches.read true arguments with
  | .error problem => misuse 2 problem
  | .ok given =>
      let state ← get
      let ending := endOfName ⟨if given.has '0' then [('z', "")] else [], []⟩
      match given.operands with
      | [] =>
          for (name, value) in state.environment.reverse do emitText s!"{name}={value}{ending}"
          return 0
      | names =>
          forEach names fun name => do
            match state.environment.lookup name with
            | some value =>
                emitText s!"{value}{ending}"
                return true
            | none => return false

def filledTemplate? (number : Nat) (template : String) : Option String :=
  let marks := (template.toList.reverse.takeWhile (· = 'X')).length
  if marks < 3 then none
  else
    let digits := (toString number).toList
    let filled := List.replicate (marks - digits.length) '0' ++ digits.take marks
    some (String.ofList (template.toList.take (template.length - marks) ++ filled))

def freshName? (state : State) (template : String) : Nat → Nat → Option String
  | 0, _ => none
  | more + 1, number =>
      match filledTemplate? number template with
      | none => none
      | some name =>
          match state.disk.find state.current false ⟨name⟩ with
          | .ok ⟨_, some _⟩ => freshName? state template more (number + 1)
          | _ => some name

def makeTemporary : Utility :=
  taking ⟨"dqtu", "p", [("directory", 'd'), ("quiet", 'q'), ("dry-run", 'u'), ("tmpdir", 'p')]⟩ 1
    fun given => do
      let state ← get
      let base := (given.value? 'p').getD ((state.bindings.lookup "TMPDIR").getD "/tmp")
      let template := given.operands.headD "tmp.XXXXXXXXXX"
      let placed := given.operands.isEmpty || given.has 't' || given.has 'p'
      let template := if placed then inDirectory base template else template
      match freshName? state template 1000 1 with
      | none =>
          say ("too few X's in template " ++ quoted (given.operands.headD ""))
          return 1
      | some name =>
          let made :=
            if given.has 'u' then .ok state.disk
            else if given.has 'd' then state.disk.createDirectory state.current 0o700 ⟨name⟩
            else state.disk.create state.current ⟨name⟩ (.file (state.disk.newFile 0o600))
          let kind := if given.has 'd' then "directory" else "file"
          if ← settle made s!"failed to create {kind} via template {quoted template}" then
            emitText s!"{name}\n"
            return 0
          else return 1

def nameSystem : Utility := fun arguments => do
  if arguments.isEmpty || arguments = ["-s"] then
    emitText "Linux\n"
    return 0
  else misuse 1 "extra operand"

def repeatLine : Utility := fun arguments => do
  let words := if arguments.isEmpty then ["y"] else arguments
  let line := Text.rawBytes (" ".intercalate words).toList ++ [10]
  emitBytes (List.replicate (65536 / line.length + 1) line).flatten
  return 0

def tellUser : Utility :=
  taking ⟨"ugnrG", "", [("user", 'u'), ("group", 'g'), ("name", 'n'), ("groups", 'G')]⟩ 1
    fun given => do
      emitText <|
        if !"ugG".toList.any given.has then "uid=0(root) gid=0(root) groups=0(root)\n"
        else if given.has 'n' then "root\n"
        else "0\n"
      return 0

def tellAlways (line : String) : Utility :=
  taking ⟨"", "", []⟩ 1 fun given => do
    match given.operands with
    | [] =>
        emitText (line ++ "\n")
        return 0
    | extra :: _ => misuse 1 s!"extra operand {quoted extra}"

def synchronize : Utility :=
  taking ⟨"df", "", [("data", 'd'), ("file-system", 'f')]⟩ 1 fun given => do
    if given.operands.isEmpty && given.has 'd' then misuse 1 "--data needs at least one argument"
    else forEach given.operands fun operand => do
      let state ← get
      match state.disk.stat state.current ⟨operand⟩ with
      | .ok _ => return true
      | .error error =>
          say s!"error opening {quoted operand}: {reason error}"
          return false

end PackageClosure.Shell.Utility
