import PackageClosure.Shell.Arithmetic
import PackageClosure.Shell.Field
import PackageClosure.Shell.Match
import PackageClosure.Shell.Word

set_option autoImplicit false

namespace PackageClosure.Shell

abbrev OutputOf := Nat → List Char → Action (List Char)

namespace State

def joint (state : State) : List Char :=
  match state.bindings.lookup "IFS" with
  | none => [' ']
  | some separators => separators.toList.take 1

def separators (state : State) : Separators :=
  .ofText ((state.bindings.lookup "IFS").getD " \t\n").toList

def value? (state : State) (name : String) : Option String :=
  if name = "@" || name = "*" then
    if state.arguments.isEmpty then none
    else some (String.ofList (state.joint.intercalate (state.arguments.map String.toList)))
  else state.parameter? name

end State

namespace Word

def isTilde : Fragment → Bool
  | .text ['~'] false => true
  | _ => false

def endsName (value : Bool) : Word → Bool
  | [] => true
  | .text [c] false :: _ => c = '/' || (value && c = ':')
  | _ => false

def withHome (value : Bool) (home : List Char) : Bool → Word → Word
  | _, [] => []
  | fresh, fragment :: rest =>
      if fresh && isTilde fragment && endsName value rest then
        .text home true :: withHome value home false rest
      else fragment :: withHome value home (value && fragment = .text [':'] false) rest

def atHome (state : State) (value : Bool) (word : Word) : Word :=
  match state.bindings.lookup "HOME" with
  | some home => withHome value home.toList true word
  | none => word

end Word

namespace Fragment

def quotedPart (quoted : Bool) (text : List Char) : Part :=
  if quoted then .fixed text true else .loose text

def allArguments (state : State) (separate quoted : Bool) : List Part :=
  match quoted, separate with
  | true, true =>
      (state.arguments.map fun argument => Part.fixed argument.toList true).intersperse .boundary
  | true, false =>
      [.fixed (state.joint.intercalate (state.arguments.map String.toList)) true]
  | false, _ =>
      (state.arguments.map fun argument => Part.loose argument.toList).intersperse .gap

def assignMissing (name : String) (value : List Char) : Action Unit :=
  if name.toList.head?.any Scan.isNameStart then Action.assign name (String.ofList value)
  else Action.fail s!"{name}: bad variable name"

def demandMessage (filled : Bool) (word : List Char) : String :=
  if !word.isEmpty then String.ofList word
  else if filled then "parameter not set or null"
  else "parameter not set"

-- What a parameter comes to. The words inside of it are expanded by the given action.
def expandParameter (nested : Bool → List Char → Action (List Part)) (name : List Char)
    (change : Option Change) (quoted : Bool) : Action (List Part) := do
  let spelled := String.ofList name
  let state ← get
  let value := state.value? spelled
  let whole := match spelled with
    | "@" => allArguments state true quoted
    | "*" => allArguments state false quoted
    | _ => [quotedPart quoted (value.getD "").toList]
  let missing (filled : Bool) : Bool := value.isNone || (filled && value = some "")
  let strictly (parts : List Part) : Action (List Part) := do
    if value.isNone && spelled ≠ "@" && spelled ≠ "*" && state.has 'u' then
      Action.fail s!"{spelled}: parameter not set"
    else return parts
  let shortened (drop : List PatternItem → List Char → List Char) (pattern : List Char) :
      Action (List Part) := do
    let parts ← nested false pattern
    let items := Pattern.ofCharacters (parts.flatMap (Part.characters (← get).joint))
    strictly [quotedPart quoted (drop items (value.getD "").toList)]
  let another (word : List Char) : Action (List Part) :=
    if word.isEmpty then pure [quotedPart quoted []] else nested quoted word
  match change with
  | none => strictly whole
  | some .length =>
      strictly [quotedPart quoted (toString (Text.rawBytes (value.getD "").toList).length).toList]
  | some (.otherwise filled word) => if missing filled then another word else return whole
  | some (.assign filled word) =>
      if missing filled then
        let text := Part.text (← get).joint (← nested quoted word)
        assignMissing spelled text
        return [quotedPart quoted text]
      else return whole
  | some (.demand filled word) =>
      if missing filled then
        let text := Part.text (← get).joint (← nested quoted word)
        Action.fail s!"{spelled}: {demandMessage filled text}"
      else return whole
  | some (.instead filled word) =>
      if missing filled then return [quotedPart quoted []] else another word
  | some (.dropStart longest pattern) => shortened (Pattern.dropStart longest) pattern
  | some (.dropEnd longest pattern) => shortened (Pattern.dropEnd longest) pattern

def expand (outputOf : OutputOf) (nested : Bool → List Char → Action (List Part))
    (fragment : Fragment) : Action (List Part) :=
  match fragment with
  | .text spelled quoted => pure [.fixed spelled quoted]
  | .parameter name change quoted => expandParameter nested name change quoted
  | .output script line quoted => do return [quotedPart quoted (← outputOf line script)]
  | .number expression quoted => do
      let word ← match Word.ofDocument (← get).line expression with
        | .ok word => pure word
        | .error problem => Action.fail s!"Syntax error: {problem}"
      let parts ← (word.mapM fun
        | .text spelled quoted => pure [Part.fixed spelled quoted]
        | .output script line _ => do return [Part.fixed (← outputOf line script) true]
        | .number inside _ => nested true ("$((".toList ++ inside ++ "))".toList)
        | .parameter name change _ => expandParameter nested name change true
        | .bad => Action.fail "Bad substitution")
      let text := Part.text (← get).joint parts.flatten
      return [quotedPart quoted (toString (← Arithmetic.evaluate text)).toList]
  | .bad => Action.fail "Bad substitution"

end Fragment

namespace Word

-- The parts of a word. Words inside braces may hold braces again, but not without end.
def parts (outputOf : OutputOf) : Nat → Word → Action (List Part)
  | 0, _ => pure []
  | depth + 1, word => do
      let nested (quoted : Bool) (text : List Char) : Action (List Part) := do
        let state ← get
        let inside :=
          if quoted then Word.ofQuoted state.line text
          else (Word.ofText state.line text).map (Word.atHome state false)
        match inside with
        | .ok word => return (← parts outputOf depth word).map Part.loosened
        | .error problem => Action.fail s!"Syntax error: {problem}"
      return (← word.mapM (Fragment.expand outputOf nested)).flatten

def nesting : Nat := 32

def expandText (outputOf : OutputOf) (value : Bool) (word : Word) : Action String := do
  let parts ← parts outputOf nesting (Word.atHome (← get) value word)
  return String.ofList (Part.text (← get).joint parts)

def expandFields (outputOf : OutputOf) (word : Word) : Action (List String) := do
  let parts ← parts outputOf nesting (Word.atHome (← get) false word)
  let state ← get
  let fields := Part.fields state.separators parts
  if state.has 'f' then return fields.map Match.plain
  else return fields.flatMap (Match.paths state)

def expandPattern (outputOf : OutputOf) (word : Word) : Action (List PatternItem) := do
  let parts ← parts outputOf nesting (Word.atHome (← get) false word)
  return Pattern.ofCharacters (parts.flatMap (Part.characters (← get).joint))

end Word

end PackageClosure.Shell
