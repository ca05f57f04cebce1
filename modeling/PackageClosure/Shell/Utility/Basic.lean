import PackageClosure.Shell.State

set_option autoImplicit false

namespace PackageClosure.Shell

abbrev Utility := List String → StateM State Nat

structure Switches where
  plain : String
  valued : String
  long : List (String × Char)

structure Given where
  options : List (Char × String)
  operands : List String

namespace Given

def has (given : Given) (letter : Char) : Bool := given.options.any (·.1 = letter)

def value? (given : Given) (letter : Char) : Option String :=
  ((given.options.filter (·.1 = letter)).getLast?).map Prod.snd

def values (given : Given) (letter : Char) : List String :=
  (given.options.filter (·.1 = letter)).map Prod.snd

def withOption (given : Given) (letter : Char) (value : String) : Given :=
  { given with options := (letter, value) :: given.options }

def withOperand (given : Given) (operand : String) : Given :=
  { given with operands := operand :: given.operands }

end Given

namespace Switches

def long? (switches : Switches) (name : String) : Option (String × Char) :=
  match switches.long.find? (·.1 = name) with
  | some found => some found
  | none =>
      match switches.long.filter (·.1.startsWith name) with
      | [found] => some found
      | found :: more => if more.all (·.2 = found.2) then some found else none
      | [] => none

def cluster (switches : Switches) :
    List Char → Except String (List (Char × String) × Option Char)
  | [] => .ok ([], none)
  | letter :: rest =>
      if switches.valued.contains letter then
        if rest.isEmpty then .ok ([], some letter) else .ok ([(letter, String.ofList rest)], none)
      else if switches.plain.contains letter then do
        let (more, lacking) ← cluster switches rest
        return ((letter, "") :: more, lacking)
      else .error s!"invalid option -- '{letter}'"

def read (switches : Switches) (strict : Bool) : List String → Except String Given
  | [] => .ok ⟨[], []⟩
  | "--" :: rest => .ok ⟨[], rest⟩
  | argument :: rest =>
      match argument.toList with
      | '-' :: '-' :: spelled =>
          let name := String.ofList (spelled.takeWhile (· ≠ '='))
          let value? := match spelled.dropWhile (· ≠ '=') with
            | _ :: value => some (String.ofList value)
            | [] => none
          match switches.long? name with
          | none => .error s!"unrecognized option '--{String.ofList spelled}'"
          | some (full, letter) =>
              if switches.valued.contains letter then
                match value?, rest with
                | some value, rest => do
                    return (← read switches strict rest).withOption letter value
                | none, value :: rest => do
                    return (← read switches strict rest).withOption letter value
                | none, [] => .error s!"option '--{full}' requires an argument"
              else if value?.isSome then .error s!"option '--{full}' doesn't allow an argument"
              else do return (← read switches strict rest).withOption letter ""
      | '-' :: first :: more => do
          let (options, lacking) ← switches.cluster (first :: more)
          let given ← match lacking, rest with
            | none, rest => read switches strict rest
            | some letter, value :: rest => do
                pure ((← read switches strict rest).withOption letter value)
            | some letter, [] => .error s!"option requires an argument -- '{letter}'"
          return { given with options := options ++ given.options }
      | _ =>
          if strict then .ok ⟨[], argument :: rest⟩
          else do return (← read switches strict rest).withOperand argument

end Switches

namespace Utility

def say (problem : String) : StateM State Unit :=
  modify fun state => state.emitError s!"{state.name}: {problem}\n"

def misuse (code : Nat) (problem : String) : StateM State Nat := do
  say problem
  modify fun state => state.emitError s!"Try '{state.name} --help' for more information.\n"
  return code

def emitText (text : String) : StateM State Unit := modify (·.emitText text)

def emitBytes (bytes : Bytes) : StateM State Unit := modify (·.emit bytes)

def taking (switches : Switches) (code : Nat) (run : Given → StateM State Nat) : Utility :=
  fun arguments =>
    match switches.read false arguments with
    | .ok given => run given
    | .error problem => misuse code problem

def forEach (operands : List String) (act : String → StateM State Bool) : StateM State Nat := do
  return if (← operands.mapM act).all id then 0 else 1

def escapeOf (byte : UInt8) : List Char :=
  match byte.toNat with
  | 7 => ['\\', 'a']
  | 8 => ['\\', 'b']
  | 9 => ['\\', 't']
  | 10 => ['\\', 'n']
  | 11 => ['\\', 'v']
  | 12 => ['\\', 'f']
  | 13 => ['\\', 'r']
  | number => '\\' :: (Nat.toDigits 8 (512 + number)).drop 1

def isPrintable (byte : UInt8) : Bool := 32 ≤ byte && byte < 127

def quotedParts (escaping : Bool) : List UInt8 → List Char
  | [] => []
  | byte :: rest =>
      let mark (other : Bool) : List Char :=
        if escaping = other then [] else if other then "'$'".toList else "''".toList
      if isPrintable byte then
        let shown := if byte = 39 then "'\\''".toList else [Char.ofNat byte.toNat]
        mark false ++ shown ++ quotedParts false rest
      else mark true ++ escapeOf byte ++ quotedParts true rest

def quoted (name : String) : String :=
  let bytes := Text.rawBytes name.toList
  let needsEscapes := bytes.any (!isPrintable ·)
  let special := name.toList.any ['"', '$', '\x60', '\\'].contains
  if name.contains '\'' && !needsEscapes && !special then "\"" ++ name ++ "\""
  else String.ofList ('\'' :: quotedParts false bytes ++ ['\''])

def spelled (name : String) : String :=
  let letters := name.toList
  let isSpecial (c : Char) : Bool := " !\"$&'()*;<=>?[\\^\x60|".toList.contains c
  if letters.isEmpty || letters.any isSpecial || letters.head?.any ['#', '~'].contains ||
    (Text.rawBytes letters).any (!isPrintable ·) then quoted name
  else name

def lastPiece (path : String) : String :=
  let trimmed := path.toList.reverse.dropWhile (· = '/')
  String.ofList (trimmed.takeWhile (· ≠ '/')).reverse

def reason : FileError → String
  | .system error => error.text
  | error => error.message

def settle (changed : Except FileError Disk) (problem : String) : StateM State Bool := do
  match changed with
  | .ok disk =>
      modify fun state => { state with disk }
      return true
  | .error error =>
      say s!"{problem}: {reason error}"
      return false

def readInput : StateM State (Except String Bytes) := do
  let state ← get
  match state.channel? 0 with
  | none => return .error "Bad file descriptor"
  | some .directory => return .error (SystemError.text .isDirectory)
  | some _ =>
      set (state.afterReading [])
      return .ok state.input

def readOperand (operand : String) : StateM State (Except String Bytes) := do
  if operand = "-" || operand = "/dev/stdin" then readInput
  else
    let state ← get
    return (state.disk.read state.current ⟨operand⟩).mapError reason

-- The bytes of all files together. Complains in the given words of those that cannot be read.
def readAllWith (words : String → String → String) (operands : List String) :
    StateM State (Bytes × Bool) := do
  let operands := if operands.isEmpty then ["-"] else operands
  let parts ← operands.mapM fun operand => do
    match ← readOperand operand with
    | .ok bytes => pure (bytes, true)
    | .error problem =>
        say (words operand problem)
        pure ([], false)
  return ((parts.map Prod.fst).flatten, parts.all Prod.snd)

-- The bytes of all files together. Complains of those that cannot be read.
def readAll (operands : List String) : StateM State (Bytes × Bool) :=
  readAllWith (fun operand problem => s!"{spelled operand}: {problem}") operands

def isOutput (state : State) (operand : String) : Bool :=
  match state.disk.find state.current true ⟨operand⟩, state.channel? 1 with
  | .ok found, some (.file file) => found.place = state.disk.whereIs file
  | _, _ => false

def answers : StateM State Bool := do
  let state ← get
  let line := state.input.takeWhile (· ≠ 10)
  set (state.afterReading (state.input.drop (line.length + 1)))
  return line.head?.any fun byte => byte = 0x79 || byte = 0x59

def confirms (question : String) : StateM State Bool := do
  modify fun state => state.emitError s!"{state.name}: {question}? "
  answers

def linesOf (bytes : Bytes) : List Bytes :=
  let pieces := bytes.foldr (fun byte lines =>
    match byte == 10, lines with
    | false, first :: more => (byte :: first) :: more
    | _, _ => [] :: lines) [[]]
  match pieces.getLast? with
  | some [] => pieces.dropLast
  | _ => pieces

def joinLines (lines : List Bytes) : Bytes := lines.flatMap (· ++ [10])

def charsOf (bytes : Bytes) : List Char := bytes.map fun byte => Char.ofNat byte.toNat

def bytesOf (chars : List Char) : Bytes := chars.map fun c => UInt8.ofNat c.toNat

end Utility

end PackageClosure.Shell
