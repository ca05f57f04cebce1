import PackageClosure.Shell.Regex
import PackageClosure.Shell.Utility.Columns
import PackageClosure.Shell.Utility.Copying

set_option autoImplicit false

namespace PackageClosure.Shell.Utility

def literalRegex : List Char → Regex
  | [] => .empty
  | c :: rest => .sequence (.only c) (literalRegex rest)

def searchRegex (given : Given) (patterns : List String) : Except String Regex := do
  let texts := patterns.flatMap fun pattern =>
    Text.pieces '\n' (Text.byteChars pattern.toList)
  let choice := (given.options.filter fun option => "EFGP".toList.contains option.1).getLast?
  let regexes ← texts.mapM fun text =>
    match choice.map Prod.fst with
    | some 'F' => pure (literalRegex text)
    | some 'E' | some 'P' => Regex.ofText true text
    | _ => Regex.ofText false text
  let one := match regexes with
    | [] => .oneOf false []
    | first :: rest => rest.foldl Regex.either first
  let one := if given.has 'i' || given.has 'y' then one.ignoringCase else one
  if given.has 'x' then return .sequence .start (.sequence one .finish)
  else if given.has 'w' then return .sequence .noWordBefore (.sequence one .noWordAfter)
  else return one

def occurrences (regex : Regex) : Nat → Option Char → List Char → List (List Char)
  | 0, _, _ => []
  | fuel + 1, before, text =>
      match Regex.search regex [] before text with
      | none => []
      | some found =>
          match found.text, found.rest with
          | [], [] => []
          | [], c :: rest => occurrences regex fuel (some c) rest
          | text, rest => text :: occurrences regex fuel text.getLast? rest

def numberOption (given : Given) (letter : Char) : Option Nat :=
  (given.value? letter).bind fun text => decimal? text.toList

def shownLines (given : Given) (regex : Regex) (name : Option String)
    (lines : List (List Char × Nat × Bool)) : List (List Char) :=
  let around := (numberOption given 'C').getD 0
  let later := (numberOption given 'A').getD around
  let earlier := (numberOption given 'B').getD around
  let hits := (lines.filter (·.2.2)).map (·.2.1)
  let near (number : Nat) : Bool :=
    hits.any fun hit => number ≤ hit + later && hit ≤ number + earlier
  let head (separator : Char) (number : Nat) : List Char :=
    let title := match name with
      | some name => Text.byteChars name.toList ++ [separator]
      | none => []
    title ++ if given.has 'n' then (toString number).toList ++ [separator] else []
  if given.has 'o' then
    if given.has 'v' then []
    else
      (lines.filter (·.2.2)).flatMap fun (line, number, _) =>
        (occurrences regex (line.length + 1) none line).map fun text => head ':' number ++ text
  else
    let chosen := lines.filter fun (_, number, _) => near number
    let step (before : List (List Char) × Option Nat) (entry : List Char × Nat × Bool) :
        List (List Char) × Option Nat :=
      let (line, number, hit) := entry
      let gap := (later + earlier ≠ 0) && before.2.any (· + 1 < number)
      let shown := head (if hit then ':' else '-') number ++ line
      (before.1 ++ (if gap then ["--".toList] else []) ++ [shown], some number)
    (chosen.foldl step ([], none)).1

def searchBytes (given : Given) (regex : Regex) (name : String) (titled : Bool) (bytes : Bytes) :
    StateM State Bool := do
  let lines := (linesOf bytes).map charsOf
  let numbered := lines.zipIdx.map fun (line, index) =>
    (line, index + 1, (Regex.find? regex line).isSome != given.has 'v')
  let limited : List (List Char × Nat × Bool) := match numberOption given 'm' with
    | none => numbered
    | some most =>
        (numbered.foldl (fun (before : List (List Char × Nat × Bool) × Nat) entry =>
          if entry.2.2 && most ≤ before.2 then (before.1 ++ [(entry.1, entry.2.1, false)], before.2)
          else (before.1 ++ [entry], if entry.2.2 then before.2 + 1 else before.2)) ([], 0)).1
  let count : Nat := (limited.filter (·.2.2)).length
  let title := if titled then some name else none
  let put (text : String) : StateM State Unit := emitText (text ++ "\n")
  if given.has 'q' then return 0 < count
  else if given.has 'L' then
    if count = 0 then put name
    return 0 < count
  else if given.has 'l' then
    if 0 < count then put name
    return 0 < count
  else if given.has 'c' then
    put ((title.map (· ++ ":")).getD "" ++ toString count)
    return 0 < count
  else
    emitBytes (joinLines ((shownLines given regex title limited).map bytesOf))
    return 0 < count

def filesBelow (state : State) (path : String) : List String :=
  match state.disk.find state.current true ⟨path⟩ with
  | .ok ⟨place, some (.directory _)⟩ =>
      (state.disk.below place).filterMap fun (inside, node) =>
        match node with
        | .file _ => some (inDirectory path ("/".intercalate (inside.map Name.text)))
        | _ => none
  | _ => [path]

def misuseOfSearch (problem : Option String) : StateM State Nat := do
  if let some text := problem then say text
  modify fun state => state.emitError <|
    s!"Usage: {state.name} [OPTION]... PATTERNS [FILE]...\n" ++
      s!"Try '{state.name} --help' for more information.\n"
  return 2

def searchSwitches : Switches :=
  ⟨"EFGPivycnlLhHqsowxrRaUzbTIZ", "efmABC", [("extended-regexp", 'E'), ("fixed-strings", 'F'),
    ("basic-regexp", 'G'), ("perl-regexp", 'P'), ("ignore-case", 'i'), ("invert-match", 'v'),
    ("count", 'c'), ("line-number", 'n'), ("files-with-matches", 'l'),
    ("files-without-match", 'L'), ("no-filename", 'h'), ("with-filename", 'H'), ("quiet", 'q'),
    ("silent", 'q'), ("no-messages", 's'), ("only-matching", 'o'), ("word-regexp", 'w'),
    ("line-regexp", 'x'), ("recursive", 'r'), ("text", 'a'), ("regexp", 'e'), ("file", 'f'),
    ("max-count", 'm'), ("after-context", 'A'), ("before-context", 'B'), ("context", 'C')]⟩

def searchLines (manner : Option Char) : Utility := fun arguments => do
  let colourless := arguments.filter fun argument =>
    !(argument.startsWith "--color" || argument.startsWith "--colour")
  match searchSwitches.read false colourless with
  | .error problem => misuseOfSearch (some problem)
  | .ok given =>
      let given := match manner with
        | some letter => given.withOption letter ""
        | none => given
      let listed ← (given.values 'f').mapM readOperand
      match listed.find? (·.toOption.isNone) with
      | some problem =>
          let text := match problem with
            | .error text => text
            | .ok _ => ""
          let name := spelled ((given.value? 'f').getD "")
          say s!"{name}: {text}"
          return 2
      | none =>
          let fromFiles := listed.flatMap fun bytes =>
            (linesOf (bytes.toOption.getD [])).map fun line => String.ofList (Text.rawText line)
          let explicit := given.values 'e' ++ fromFiles
          let written := given.has 'e' || given.has 'f'
          match written, given.operands with
          | false, [] => misuseOfSearch none
          | _, operands =>
              let patterns := if written then explicit else operands.take 1
              let operands := if written then operands else operands.drop 1
              let deep := given.has 'r' || given.has 'R'
              match searchRegex given patterns with
              | .error problem =>
                  say problem
                  return 2
              | .ok regex =>
                  let state ← get
                  let named := if operands.isEmpty then [if deep then "." else "-"] else operands
                  let files := if deep then named.flatMap (filesBelow state) else named
                  let titled := (given.has 'H' || 1 < operands.length || deep) && !given.has 'h'
                  let step (before : Bool × Bool) (file : String) :
                      StateM State (Bool × Bool) := do
                    let itself := file ≠ "-" && isOutput (← get) file
                    match ← readOperand file with
                    | .ok bytes =>
                      if itself && !"qlLm".toList.any given.has then
                        say s!"{file}: input file is also the output"
                        return (before.1, true)
                      else
                        let name := if file = "-" then "(standard input)" else file
                        let found ← searchBytes given regex name titled bytes
                        return (before.1 || found, before.2)
                    | .error problem =>
                        if !given.has 's' then say s!"{file}: {problem}"
                        return (before.1, true)
                  let (found, failed) ← files.foldlM step (false, false)
                  if failed && !(found && given.has 'q') then return 2
                  else return if found then 0 else 1

end PackageClosure.Shell.Utility
