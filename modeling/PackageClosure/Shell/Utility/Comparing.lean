import PackageClosure.Shell.Utility.Columns
import PackageClosure.Shell.Utility.Difference

set_option autoImplicit false

namespace PackageClosure.Shell.Utility

namespace Difference

inductive Found where
  | file (side : Side)
  | directory (name : String)
  | missing (name : String)
  | broken (problem : String)

def look (name : String) : StateM State Found := do
  let state ← get
  if name = "-" then
    match ← readInput with
    | .ok bytes => return .file ⟨name, bytes, state.disk.time⟩
    | .error problem => return .broken s!"{name}: {problem}"
  else
    match state.disk.find state.current true ⟨name⟩ with
    | .error (.system .notFound) => return .missing name
    | .error error => return .broken s!"{name}: {reason error}"
    | .ok found =>
        match found.node with
        | none => return .missing name
        | some (.directory _) => return .directory name
        | some (.file file) => return .file ⟨name, file.bytes, file.changed⟩
        | some _ =>
            match state.disk.read state.current ⟨name⟩ with
            | .ok bytes => return .file ⟨name, bytes, state.disk.time⟩
            | .error error => return .broken s!"{name}: {reason error}"

def compareSides (plan : Plan) (nested : Bool) (left right : Side) :
    StateM State Nat := do
  let (text, differs) := filesText plan nested left right
  emitText text
  if !differs && plan.tellsSame then emitText s!"Files {left.name} and {right.name} are identical\n"
  let unended (side : Side) : Bool :=
    plan.style = .commands && !side.bytes.isEmpty && side.bytes.getLast? ≠ some 10
  let complaints := [left, right].filter fun side => unended side && left.name ≠ right.name
  for side in complaints do say s!"{side.name}: No newline at end of file\n"
  return if !complaints.isEmpty then 2 else if differs then 1 else 0

def joinedName (directory name : String) : String :=
  if directory.endsWith "/" then directory ++ name else s!"{directory}/{name}"

def typeName (found : Found) : String :=
  match found with
  | .file side => if side.bytes.isEmpty then "regular empty file" else "regular file"
  | _ => "directory"

def namesIn (plan : Plan) (directory : String) : StateM State (List String) := do
  let state ← get
  match state.disk.find state.current true ⟨directory⟩ with
  | .error _ => return []
  | .ok found =>
      let names := (state.disk.namesIn found.place).map Name.text
      let patterns := plan.excluded.map fun pattern =>
        Pattern.ofCharacters (pattern.toList.map fun c => (c, false))
      let kept := names.filter fun name =>
        !patterns.any fun pattern => Pattern.covers pattern name.toList
      return kept.mergeSort Text.rawLe

mutual

def compareFound (plan : Plan) :
    Nat → Bool → Found → Found → StateM State Nat
  | 0, _, _, _ => return 2
  | fuel + 1, nested, left, right => do
      match left, right with
      | .broken problem, .broken other =>
          say problem
          say other
          return 2
      | .broken problem, _ | _, .broken problem =>
          say problem
          return 2
      | .missing name, .missing other =>
          say s!"{name}: No such file or directory"
          say s!"{other}: No such file or directory"
          return 2
      | .file left, .file right => compareSides plan nested left right
      | .directory left, .directory right =>
          if nested && !plan.recursive then
            emitText s!"Common subdirectories: {left} and {right}\n"
            return 0
          else compareDirectories plan fuel left right
      | .missing name, found =>
          if plan.newLeft then
            match found with
            | .file right => compareSides plan nested ⟨name, [], 0⟩ right
            | .directory right => compareDirectories plan fuel name right
            | _ => return 2
          else
            say s!"{name}: No such file or directory"
            return 2
      | found, .missing name =>
          if plan.newRight then
            match found with
            | .file left => compareSides plan nested left ⟨name, [], 0⟩
            | .directory left => compareDirectories plan fuel left name
            | _ => return 2
          else
            say s!"{name}: No such file or directory"
            return 2
      | .file leftSide, .directory name =>
          if nested then
            emitText <| s!"File {leftSide.name} is a {typeName left} while " ++
              s!"file {name} is a {typeName right}\n"
            return 1
          else if leftSide.name = "-" then
            say "cannot compare '-' to a directory"
            return 2
          else
            compareFound plan fuel false left (← look (joinedName name (lastPiece leftSide.name)))
      | .directory name, .file rightSide =>
          if nested then
            emitText <| s!"File {name} is a {typeName left} while " ++
              s!"file {rightSide.name} is a {typeName right}\n"
            return 1
          else if rightSide.name = "-" then
            say "cannot compare '-' to a directory"
            return 2
          else
            compareFound plan fuel false (← look (joinedName name (lastPiece rightSide.name))) right

def compareDirectories (plan : Plan) :
    Nat → String → String → StateM State Nat
  | 0, _, _ => return 2
  | fuel + 1, left, right => do
      let lefts ← namesIn plan left
      let rights ← namesIn plan right
      let all := (lefts ++ rights.filter (!lefts.contains ·)).mergeSort Text.rawLe
      let step (status : Nat) (name : String) : StateM State Nat := do
        let inLeft := lefts.contains name
        let inRight := rights.contains name
        if inLeft && !inRight && !plan.newRight then
          emitText s!"Only in {left}: {name}\n"
          return max status 1
        else if inRight && !inLeft && !plan.newLeft then
          emitText s!"Only in {right}: {name}\n"
          return max status 1
        else
          let leftFound ← look (joinedName left name)
          let rightFound ← look (joinedName right name)
          let onlyDirectory := match leftFound, rightFound with
            | .directory _, .missing _ | .missing _, .directory _ => !plan.recursive
            | _, _ => false
          if onlyDirectory then
            emitText s!"Only in {if inLeft then left else right}: {name}\n"
            return max status 1
          else return max status (← compareFound plan fuel true leftFound rightFound)
      all.foldlM step 0

end

def initialPlan : Plan :=
  { style := .normal, context := 0, brief := false, tellsSame := false, text := false
    recursive := false, fewest := false, newLeft := false, newRight := false, ignoreCase := false
    ignoreAllSpace := false, ignoreSpaceChange := false, ignoreTrailing := false
    ignoreTabs := false, ignoreBlankLines := false, ignored := [], heading := none
    stripReturns := false, expandTabs := false, initialTab := false, commonLeft := false
    withoutCommon := false, width := 130, labels := [], excluded := [], spelled := "" }

structure Draft where
  plan : Plan
  style : Option Style
  context : Option Nat
  explicit : Bool
  digits : Option Nat
  afterDigit : Bool

def Draft.withStyle (draft : Draft) (style : Style) : Except String Draft :=
  if draft.style.any (· ≠ style) then .error "conflicting output style options"
  else .ok { draft with style := some style }

def Draft.withContext (draft : Draft) (count : Nat) : Draft :=
  { draft with context := some (max count (draft.context.getD 0)) }

def Draft.set (draft : Draft) (option : Char × String) : Except String Draft := do
  let (letter, value) := option
  let afterDigit := draft.afterDigit
  let draft := { draft with afterDigit := letter.isDigit }
  let plan := draft.plan
  let numbered (style : Style) : Except String Draft := do
    match if value.isEmpty then none else decimal? value.toList with
    | some count => return { (← draft.withStyle style).withContext count with explicit := true }
    | none => throw s!"invalid context length '{value}'"
  let regex (text : String) : Except String Regex :=
    Regex.ofText false (Text.byteChars text.toList)
  if letter.isDigit then
    let digit := letter.toNat - 48
    return { draft with digits := some (if afterDigit then 10 * draft.digits.getD 0 + digit
      else digit) }
  else
    match letter with
    | 'u' => return (← draft.withStyle .unified).withContext 3
    | 'c' => return (← draft.withStyle .copied).withContext 3
    | 'U' => numbered .unified
    | 'C' => numbered .copied
    | 'e' => draft.withStyle .commands
    | 'n' => draft.withStyle .counted
    | 'y' => draft.withStyle .beside
    | '\x01' => draft.withStyle .normal
    | 'q' => return { draft with plan := { plan with brief := true } }
    | 's' => return { draft with plan := { plan with tellsSame := true } }
    | 'a' => return { draft with plan := { plan with text := true } }
    | 'd' => return { draft with plan := { plan with fewest := true } }
    | 'r' => return { draft with plan := { plan with recursive := true } }
    | 'N' => return { draft with plan := { plan with newLeft := true, newRight := true } }
    | 'P' => return { draft with plan := { plan with newLeft := true } }
    | 'i' => return { draft with plan := { plan with ignoreCase := true } }
    | 'w' => return { draft with plan := { plan with ignoreAllSpace := true } }
    | 'b' => return { draft with plan := { plan with ignoreSpaceChange := true } }
    | 'Z' => return { draft with plan := { plan with ignoreTrailing := true } }
    | 'E' => return { draft with plan := { plan with ignoreTabs := true } }
    | 'B' => return { draft with plan := { plan with ignoreBlankLines := true } }
    | 'I' =>
        return { draft with plan := { plan with ignored := plan.ignored ++ [← regex value] } }
    | 'F' => return { draft with plan := { plan with heading := some (← regex value) } }
    | 'p' =>
        return { draft with plan := { plan with heading := some (← regex "^[[:alpha:]$_]") } }
    | '\x02' => return { draft with plan := { plan with stripReturns := true } }
    | 't' => return { draft with plan := { plan with expandTabs := true } }
    | 'T' => return { draft with plan := { plan with initialTab := true } }
    | '\x03' => return { draft with plan := { plan with commonLeft := true } }
    | '\x04' => return { draft with plan := { plan with withoutCommon := true } }
    | 'W' =>
        match decimal? value.toList with
        | some width =>
            if width = 0 then throw s!"invalid width '{value}'"
            else return { draft with plan := { plan with width } }
        | none => throw s!"invalid width '{value}'"
    | 'L' =>
        return { draft with plan := { plan with labels := plan.labels ++ [value] } }
    | 'x' => return { draft with plan := { plan with excluded := plan.excluded ++ [value] } }
    | _ => return draft

def Draft.finished (draft : Draft) : Plan :=
  let style := draft.style.getD (if draft.plan.heading.isSome && draft.digits.isNone
    then .copied else .normal)
  let usual := draft.context.getD 3
  let context := match draft.digits with
    | some count => if usual < count || (count < usual && !draft.explicit) then count else usual
    | none => usual
  { draft.plan with style, context }

def switches : Switches :=
  ⟨"0123456789abBcdeEhHilnNpPqrstTuwyZ\x01\x02\x03\x04\x05", "CFILSUWxX",
    [("brief", 'q'), ("report-identical-files", 's'), ("text", 'a'), ("recursive", 'r'),
      ("new-file", 'N'), ("unidirectional-new-file", 'P'), ("ignore-case", 'i'),
      ("ignore-all-space", 'w'), ("ignore-space-change", 'b'), ("ignore-trailing-space", 'Z'),
      ("ignore-tab-expansion", 'E'), ("ignore-blank-lines", 'B'), ("ignore-matching-lines", 'I'),
      ("show-function-line", 'F'), ("show-c-function", 'p'), ("strip-trailing-cr", '\x02'),
      ("expand-tabs", 't'), ("initial-tab", 'T'), ("left-column", '\x03'),
      ("suppress-common-lines", '\x04'), ("width", 'W'), ("label", 'L'), ("exclude", 'x'),
      ("side-by-side", 'y'), ("ed", 'e'), ("rcs", 'n'), ("normal", '\x01'),
      ("minimal", 'd'), ("speed-large-files", 'H'), ("no-dereference", '\x05')]⟩

def withoutValues (arguments : List String) : List String :=
  arguments.filterMap fun argument =>
    if argument = "--unified" then some "-u"
    else if argument = "--context" then some "-c"
    else if argument.startsWith "--unified=" then
      some ("-U" ++ (argument.drop 10).toString)
    else if argument.startsWith "--context=" then some ("-C" ++ (argument.drop 10).toString)
    else if argument = "--color" || argument.startsWith "--color=" then none
    else some argument

end Difference

def showDifference : Utility := fun arguments => do
  let misused (problem : String) : StateM State Nat := do
    say problem
    let name := (← get).name
    say s!"Try '{name} --help' for more information."
    return 2
  match Difference.switches.read false (Difference.withoutValues arguments) with
  | .error problem => misused problem
  | .ok given =>
      let draft : Difference.Draft := ⟨Difference.initialPlan, none, none, false, none, false⟩
      match given.options.foldlM Difference.Draft.set draft with
      | .error problem => misused problem
      | .ok draft => do
          if 2 < draft.plan.labels.length then
            say "too many file label options"
            return 2
          let spelled := arguments.filter (!given.operands.contains ·)
          let plan := { draft.finished with
            spelled := "".intercalate (spelled.map fun option => " " ++ option) }
          match given.operands with
          | [left, right] =>
              let left ← Difference.look left
              let right ← Difference.look right
              Difference.compareFound plan 1000 false left right
          | [] => misused s!"missing operand after '{(arguments.getLast?).getD (← get).name}'"
          | [only] => misused s!"missing operand after '{only}'"
          | _ :: _ :: extra :: _ => misused s!"extra operand '{extra}'"

end PackageClosure.Shell.Utility
