import PackageClosure.Shell.Pattern
import PackageClosure.Shell.Regex
import PackageClosure.Shell.Utility.Attributes

set_option autoImplicit false

namespace PackageClosure.Shell.Utility

inductive Remark where
  | line
  | zero
  | listing
  | format (format : List Char)

inductive Share where
  | exactly
  | all
  | any
deriving DecidableEq

inductive Wish where
  | always
  | named (whole fold : Bool) (pattern : List PatternItem)
  | matches (regex : Regex)
  | ofType (otherView : Bool) (letters : List Char)
  | isEmpty
  | executable
  | reachable
  | size (order : Ordering) (unit count : Nat)
  | mode (share : Share) (bits : Nat)
  | changed (after upTo : Option Int)
  | names (order : Ordering) (count : Nat)
  | numbered (order : Ordering) (number : Nat)
  | samePlace (place : Place) (node : Disk.Node)
  | leadsTo (fold : Bool) (pattern : List PatternItem)
  | put (file : Option String) (remark : Remark)
  | delete
  | prune
  | quit
  | run (inside asks : Bool) (command : List String)
  | collect (command : List String)
  | negated (wish : Wish)
  | both (first second : Wish)
  | either (first second : Wish)
  | afterwards (first second : Wish)

structure Depths where
  least : Nat
  most : Option Nat
  late : Bool
  following : Following

namespace Wish

def acts : Wish → Bool
  | .put _ _ | .delete | .quit | .run _ _ _ | .collect _ => true
  | .negated wish => wish.acts
  | .both first second | .either first second | .afterwards first second =>
      first.acts || second.acts
  | _ => false

def files : Wish → List String
  | .put (some file) _ => [file]
  | .negated wish => wish.files
  | .both first second | .either first second | .afterwards first second =>
      first.files ++ second.files
  | _ => []

-- What a reader knows. The extended spelling of regular expressions is one of three.
structure Reader where
  rest : List String
  depths : Depths
  state : State
  extended : Option Bool

abbrev Reading := StateT Reader (Except String)

def peek : Reading (Option String) := return (← get).rest.head?

def advance : Reading Unit := modify fun reader => { reader with rest := reader.rest.drop 1 }

def argument (predicate : String) : Reading String := do
  match (← get).rest with
  | first :: rest =>
      modify fun reader => { reader with rest }
      return first
  | [] => throw s!"missing argument to \x60{predicate}'"

def changeDepths (change : Depths → Depths) : Reading Wish := do
  modify fun reader => { reader with depths := change reader.depths }
  return .always

def patternOf (fold : Bool) (text : String) : List PatternItem :=
  let text := if fold then text.toList.map Char.toLower else text.toList
  Pattern.ofCharacters (text.map fun c => (c, false))

def commandWords : List String → Option (List String × Bool × List String)
  | [] => none
  | ";" :: rest => some ([], false, rest)
  | "\x7b\x7d" :: "+" :: rest => some ([], true, rest)
  | word :: rest =>
      (commandWords rest).map fun (words, together, after) => (word :: words, together, after)

def count (predicate : String) : Reading Nat := do
  let text ← argument predicate
  match text.toNat? with
  | some value => return value
  | none =>
      throw s!"Expected a positive decimal integer argument to {predicate}, but got '{text}'"

def signed (text : String) : Ordering × List Char :=
  match text.toList with
  | '+' :: rest => (.gt, rest)
  | '-' :: rest => (.lt, rest)
  | rest => (.eq, rest)

def wrong {α : Type} (predicate text : String) : Reading α :=
  throw s!"invalid argument \x60{text}' to \x60{predicate}'"

def comparison (predicate : String) : Reading (Ordering × Nat) := do
  let text ← argument predicate
  let (order, digits) := signed text
  if digits.isEmpty || !digits.all Char.isDigit then wrong predicate text
  else return (order, Nat.ofDigitChars 10 digits 0)

def sizeOf (predicate : String) : Reading Wish := do
  let text ← argument predicate
  let (order, rest) := signed text
  let (digits, unit) := rest.span Char.isDigit
  let unit? : Option Nat := match unit with
    | [] | ['b'] => some 512
    | ['c'] => some 1
    | ['w'] => some 2
    | ['k'] => some 1024
    | ['M'] => some 1048576
    | ['G'] => some 1073741824
    | _ => none
  match unit? with
  | some unit =>
      if digits.isEmpty then throw s!"Invalid argument \x60{text}' to -size"
      else return .size order unit (Nat.ofDigitChars 10 digits 0)
  | none => throw s!"invalid -size type \x60{String.ofList (unit.drop (unit.length - 1))}'"

def modeOf (predicate : String) : Reading Wish := do
  let text ← argument predicate
  let (share, rest) : Share × List Char := match text.toList with
    | '-' :: rest => (.all, rest)
    | '/' :: rest => (.any, rest)
    | rest => (.exactly, rest)
  match Mode.changes? (String.ofList rest) with
  | some changes => return .mode share (Mode.apply changes false 0 0)
  | none => throw s!"invalid mode {quoted text}"

def ageOf (predicate : String) (unit : Int) (days : Bool) : Reading Wish := do
  let text ← argument predicate
  let (order, digits) := signed text
  match DateReader.seconds? digits with
  | none => wrong predicate text
  | some billionths =>
      let now := (← get).state.disk.time + 1
      let ago := now - Int.fdiv (billionths * unit) 1
      let start := if days then ago - unit * Moment.billion else ago
      return match order with
        | .gt => .changed none (some (start - 1))
        | .lt => .changed (some (if days then ago - Moment.billion else ago)) none
        | .eq => .changed (some start) (some (start + unit * Moment.billion))

def timeOfFile (path : String) : Reading Int := do
  let state := (← get).state
  match state.disk.find state.current true ⟨path⟩ with
  | .ok ⟨place, some node⟩ => return changedAt state.disk place node
  | .ok ⟨_, none⟩ => throw s!"{quoted path}: {SystemError.text .notFound}"
  | .error error => throw s!"{quoted path}: {reason error}"

def basicOf : List Char → List Char
  | '\\' :: c :: rest =>
      if c = '+' || c = '?' then c :: basicOf rest else '\\' :: c :: basicOf rest
  | c :: rest => if c = '+' || c = '?' then '\\' :: c :: basicOf rest else c :: basicOf rest
  | [] => []

def regexTypes : List (String × Option Bool) :=
  [("findutils-default", none), ("ed", some false), ("emacs", none), ("gnu-awk", some true),
    ("grep", some false), ("posix-awk", some true), ("awk", some true),
    ("posix-basic", some false), ("posix-egrep", some true), ("egrep", some true),
    ("posix-extended", some true), ("posix-minimal-basic", some false), ("sed", some false)]

def regexOf (predicate : String) (fold : Bool) : Reading Wish := do
  let text := Text.byteChars (← argument predicate).toList
  let read := match (← get).extended with
    | none => Regex.ofText false (basicOf text)
    | some extended => Regex.ofText extended text
  match read with
  | .ok regex =>
      let regex := if fold then regex.ignoringCase else regex
      return .matches (.sequence .start (.sequence regex .finish))
  | .error problem => throw problem

def isRoot (kind : String) (predicate : String) : Reading Wish := do
  let text ← argument predicate
  if text = "root" || text = "0" then return .always
  else if !text.isEmpty && text.toList.all Char.isDigit then return .negated .always
  else throw s!"{quoted text} is not the name of a known {kind}"

def zeroFor (predicate : String) : Reading Wish := do
  let (order, number) ← comparison predicate
  return if compare 0 number = order then .always else .negated .always

def commandOf (predicate : String) (inside asks : Bool) : Reading Wish := do
  match commandWords (← get).rest with
  | none => throw s!"missing argument to \x60{predicate}'"
  | some (words, together, rest) =>
      modify fun reader => { reader with rest }
      return if together && !asks then .collect words else .run inside asks words

def newerThan (predicate : String) (isTime : Bool) : Reading Wish := do
  let text ← argument predicate
  if isTime then
    match timeOfText? (← get).state.disk.time text with
    | some time => return .changed (some time) none
    | none => throw s!"I cannot figure out how to interpret {quoted text} as a date or time"
  else return .changed (some (← timeOfFile text)) none

def typesOf (predicate : String) (otherView : Bool) : Reading Wish := do
  let text ← argument predicate
  let pieces := Text.pieces ',' text.toList
  match pieces.find? fun piece => piece.length ≠ 1, text.toList.find? fun c =>
      !"bcdpflsD,".toList.contains c with
  | _, some wrong => throw s!"Unknown argument to {predicate}: {wrong}"
  | some _, none => throw s!"Must separate multiple arguments to {predicate} using: ','"
  | none, none => return .ofType otherView pieces.flatten

def primary (predicate : String) : Reading Wish := do
  match predicate with
  | "-true" => return .always
  | "-false" | "-nouser" | "-nogroup" => return .negated .always
  | "-name" => return .named false false (patternOf false (← argument predicate))
  | "-iname" => return .named false true (patternOf true (← argument predicate))
  | "-path" | "-wholename" => return .named true false (patternOf false (← argument predicate))
  | "-ipath" | "-iwholename" => return .named true true (patternOf true (← argument predicate))
  | "-lname" => return .leadsTo false (patternOf false (← argument predicate))
  | "-ilname" => return .leadsTo true (patternOf true (← argument predicate))
  | "-regex" => regexOf predicate false
  | "-iregex" => regexOf predicate true
  | "-regextype" =>
      let text ← argument predicate
      match regexTypes.lookup text with
      | some extended =>
          modify fun reader => { reader with extended }
          return .always
      | none =>
          let known := ", ".intercalate (regexTypes.map fun entry => s!"'{entry.1}'")
          throw s!"Unknown regular expression type {quoted text}; valid types are {known}."
  | "-type" => typesOf predicate false
  | "-xtype" => typesOf predicate true
  | "-empty" => return .isEmpty
  | "-executable" => return .executable
  | "-readable" | "-writable" => return .reachable
  | "-size" => sizeOf predicate
  | "-perm" => modeOf predicate
  | "-mtime" | "-atime" | "-ctime" => ageOf predicate 86400 true
  | "-mmin" | "-amin" | "-cmin" => ageOf predicate 60 false
  | "-newer" | "-anewer" | "-cnewer" => newerThan predicate false
  | "-user" => isRoot "user" predicate
  | "-group" => isRoot "group" predicate
  | "-uid" | "-gid" => zeroFor predicate
  | "-links" =>
      let (order, count) ← comparison predicate
      return .names order count
  | "-inum" =>
      let (order, number) ← comparison predicate
      return .numbered order number
  | "-samefile" =>
      let path ← argument predicate
      let state := (← get).state
      match state.disk.find state.current false ⟨path⟩ with
      | .ok ⟨place, some node⟩ => return .samePlace place node
      | _ => throw s!"{quoted path}: {SystemError.text .notFound}"
  | "-print" => return .put none .line
  | "-print0" => return .put none .zero
  | "-printf" => return .put none (.format (← argument predicate).toList)
  | "-ls" => return .put none .listing
  | "-fprint" => return .put (some (← argument predicate)) .line
  | "-fprint0" => return .put (some (← argument predicate)) .zero
  | "-fls" => return .put (some (← argument predicate)) .listing
  | "-fprintf" =>
      let file ← argument predicate
      return .put (some file) (.format (← argument predicate).toList)
  | "-prune" => return .prune
  | "-quit" => return .quit
  | "-delete" =>
      let _ ← changeDepths fun depths => { depths with late := true }
      return .delete
  | "-depth" | "-d" => changeDepths fun depths => { depths with late := true }
  | "-maxdepth" =>
      let most ← count predicate
      changeDepths fun depths => { depths with most := some most }
  | "-mindepth" =>
      let least ← count predicate
      changeDepths fun depths => { depths with least }
  | "-follow" => changeDepths fun depths => { depths with following := ⟨true, true⟩ }
  | "-xdev" | "-mount" | "-noleaf" | "-daystart" | "-warn" | "-nowarn" | "-ignore_readdir_race"
  | "-noignore_readdir_race" => return .always
  | "-exec" => commandOf predicate false false
  | "-execdir" => commandOf predicate true false
  | "-ok" => commandOf predicate false true
  | "-okdir" => commandOf predicate true true
  | _ =>
      let compared := predicate.toList.drop 6
      if predicate.startsWith "-newer" && compared.length = 2 &&
        compared.all "aBcmt".toList.contains then
        newerThan predicate (compared.getLast? = some 't')
      else if predicate.startsWith "-" then throw s!"unknown predicate \x60{predicate}'"
      else throw s!"paths must precede expression: \x60{predicate}'"

mutual

def sequence : Nat → Reading Wish
  | 0 => return .always
  | fuel + 1 => do
      let first ← alternatives fuel
      match ← peek with
      | some "," =>
          advance
          return .afterwards first (← sequence fuel)
      | _ => return first

def alternatives : Nat → Reading Wish
  | 0 => return .always
  | fuel + 1 => do
      let first ← conjunction fuel
      match ← peek with
      | some "-o" | some "-or" =>
          advance
          return .either first (← alternatives fuel)
      | _ => return first

def conjunction : Nat → Reading Wish
  | 0 => return .always
  | fuel + 1 => do
      let first ← operand fuel
      match ← peek with
      | none | some "-o" | some "-or" | some ")" | some "," => return first
      | some "-a" | some "-and" =>
          advance
          return .both first (← conjunction fuel)
      | some _ => return .both first (← conjunction fuel)

def operand : Nat → Reading Wish
  | 0 => return .always
  | fuel + 1 => do
      match ← peek with
      | none => return .always
      | some predicate =>
          advance
          match predicate with
          | "!" | "-not" => return .negated (← operand fuel)
          | "(" =>
              let inside ← sequence fuel
              match ← peek with
              | some ")" =>
                  advance
                  return inside
              | _ =>
                  throw <| "invalid expression; I was expecting to find a ')' somewhere " ++
                    "but did not see one."
          | predicate => primary predicate

end

def begins (argument : String) : Bool :=
  (argument.startsWith "-" && argument ≠ "-") || argument = "!" || argument = "("

def ofArguments (state : State) (arguments : List String) :
    Except String (List String × Wish × Depths) := do
  let isLeading (argument : String) : Bool :=
    ["-L", "-H", "-P"].contains argument ||
      (argument.startsWith "-O" && (argument.drop 2).toString.toNat?.isSome)
  let manner := (arguments.takeWhile isLeading).filter fun argument => !argument.startsWith "-O"
  let following : Following := match manner.getLast? with
    | some "-L" => ⟨true, true⟩
    | some "-H" => ⟨true, false⟩
    | _ => ⟨false, false⟩
  let arguments := arguments.dropWhile isLeading
  let paths := arguments.takeWhile (!begins ·)
  let rest := arguments.drop paths.length
  let reader : Reader := ⟨rest, ⟨0, none, false, following⟩, state, none⟩
  let paths := if paths.isEmpty then ["."] else paths
  if rest.isEmpty then return (paths, .put none .line, reader.depths)
  else
    let (wish, reader) ← (sequence (5 * rest.length + 10)).run reader
    match reader.rest with
    | [] =>
        let whole := if wish.acts then wish else .both wish (.put none .line)
        return (paths, whole, reader.depths)
    | extra :: _ => throw s!"paths must precede expression: \x60{extra}'"

end Wish

end PackageClosure.Shell.Utility
