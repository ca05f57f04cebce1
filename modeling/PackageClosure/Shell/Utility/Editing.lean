import PackageClosure.Shell.Regex
import PackageClosure.Shell.Utility.Columns
import PackageClosure.Shell.Utility.Lines

set_option autoImplicit false

namespace PackageClosure.Shell.Utility

namespace Editing

inductive Address where
  | line (number : Nat)
  | finalLine
  | pattern (regex : Option Regex)
  | every (first step : Nat)
  | after (count : Nat)
  | multiple (factor : Nat)

structure Selection where
  first : Option Address
  last : Option Address
  negated : Bool

inductive Piece where
  | text (text : List Char)
  | group (number : Nat)
  | letters (upper : Option Bool) (single : Bool)

structure Substitution where
  regex : Option Regex
  pieces : List Piece
  everywhere : Bool
  first : Nat
  prints : Bool
  file : Option String

inductive Action where
  | opening
  | closing
  | label (name : String)
  | branch (name : String)
  | branchIf (changed : Bool) (name : String)
  | substitute (substitution : Substitution)
  | exchange (pairs : List (Char × Char))
  | append (text : List Char)
  | insert (text : List Char)
  | change (text : List Char)
  | readFile (name : String)
  | writeFile (name : String)
  | quit (silent : Bool) (code : Nat)
  | simple (letter : Char)

structure Instruction where
  selection : Selection
  action : Action

structure Reader where
  rest : List Char
  extended : Bool
  depth : Nat

abbrev Reading := ExceptT String (StateM Reader)

def peek : Reading (Option Char) := return (← get).rest.head?

def advance : Reading Unit := modify fun reader => { reader with rest := reader.rest.drop 1 }

def takeWhile (condition : Char → Bool) : Reading (List Char) := do
  let reader ← get
  let (taken, rest) := reader.rest.span condition
  set { reader with rest }
  return taken

def blanks : Reading Unit := do let _ ← takeWhile isBlankByte

def number? : Reading (Option Nat) := return decimal? (← takeWhile Char.isDigit)

-- A text up to a character. A backslash keeps the character and what else it stands before.
def delimited (ending : Char) (literal : Bool) :
    Nat → Bool → List Char → Option (List Char × List Char)
  | 0, _, _ => none
  | fuel + 1, inBracket, text =>
      let after (taken rest : List Char) (inBracket : Bool) : Option (List Char × List Char) :=
        (delimited ending literal fuel inBracket rest).map fun (inside, rest) =>
          (taken ++ inside, rest)
      match text with
      | [] => none
      | '\\' :: c :: rest =>
          if c = ending && !inBracket then after (if literal then ['\\', c] else [c]) rest inBracket
          else after ['\\', c] rest inBracket
      | c :: rest =>
          if c = ending && !inBracket then some ([], rest)
          else if c = '\n' && !literal then none
          else
            let opens := c = '[' && !literal && !inBracket
            let skipped := if opens && rest.head? = some '^' then 1 else 0
            let first := (rest.drop skipped).head? = some ']'
            if opens && first then
              after (c :: rest.take (skipped + 1)) (rest.drop (skipped + 1)) true
            else after [c] rest ((inBracket && c ≠ ']') || opens)

def readDelimited (ending : Char) (literal : Bool) (problem : String) : Reading (List Char) := do
  let reader ← get
  match delimited ending literal (reader.rest.length + 1) false reader.rest with
  | some (text, rest) =>
      set { reader with rest }
      return text
  | none =>
      set { reader with rest := [] }
      throw problem

def regexOf (text : List Char) (ignoringCase : Bool) : Reading (Option Regex) := do
  if text.isEmpty then return none
  else
    match Regex.ofText (← get).extended text with
    | .ok regex => return some (if ignoringCase then regex.ignoringCase else regex)
    | .error problem => throw problem

def addressPattern (ending : Char) : Reading Address := do
  let text ← readDelimited ending false "unterminated address regex"
  let flags ← takeWhile fun c => c = 'I' || c = 'M'
  return .pattern (← regexOf text (flags.contains 'I'))

def address? : Reading (Option Address) := do
  match ← peek with
  | some '$' =>
      advance
      return some .finalLine
  | some '/' =>
      advance
      return some (← addressPattern '/')
  | some '\\' =>
      advance
      match ← peek with
      | some ending =>
          advance
          return some (← addressPattern ending)
      | none => throw "unexpected end"
  | some '+' =>
      advance
      return some (.after ((← number?).getD 0))
  | some '~' =>
      advance
      return some (.multiple ((← number?).getD 0))
  | some c =>
      if c.isDigit then
        let first := (← number?).getD 0
        if (← peek) = some '~' then
          advance
          return some (.every first ((← number?).getD 0))
        else return some (.line first)
      else return none
  | none => return none

def selection : Reading Selection := do
  let first ← address?
  blanks
  let last ←
    if first.isSome && (← peek) = some ',' then
      advance
      blanks
      match ← address? with
      | some last => pure (some last)
      | none =>
          advance
          throw "unexpected `,'"
    else pure none
  blanks
  let negation ← takeWhile (· = '!')
  blanks
  return ⟨first, last, !negation.isEmpty⟩

def pieces : Nat → List Char → List Piece
  | 0, _ => []
  | fuel + 1, text =>
      match text with
      | [] => []
      | '&' :: rest => .group 0 :: pieces fuel rest
      | '\\' :: c :: rest =>
          if c.isDigit then .group (c.toNat - '0'.toNat) :: pieces fuel rest
          else
            match c with
            | 'n' => .text ['\n'] :: pieces fuel rest
            | 't' => .text ['\t'] :: pieces fuel rest
            | 'U' => .letters (some true) false :: pieces fuel rest
            | 'L' => .letters (some false) false :: pieces fuel rest
            | 'u' => .letters (some true) true :: pieces fuel rest
            | 'l' => .letters (some false) true :: pieces fuel rest
            | 'E' => .letters none false :: pieces fuel rest
            | c => .text [c] :: pieces fuel rest
      | c :: rest => .text [c] :: pieces fuel rest

def fileName : Reading String := do
  blanks
  let name ← takeWhile (· ≠ '\n')
  if name.isEmpty then throw "missing filename in r/R/w/W commands"
  return String.ofList name

def flags : Nat → Substitution → Bool → Reading (Substitution × Bool)
  | 0, substitution, fold => return (substitution, fold)
  | fuel + 1, substitution, fold => do
      match ← peek with
      | some 'g' =>
          advance
          if substitution.everywhere then throw "multiple `g' options to `s' command"
          flags fuel { substitution with everywhere := true } fold
      | some 'p' =>
          advance
          if substitution.prints then throw "multiple `p' options to `s' command"
          flags fuel { substitution with prints := true } fold
      | some 'i' | some 'I' =>
          advance
          flags fuel substitution true
      | some 'm' | some 'M' =>
          advance
          flags fuel substitution fold
      | some 'w' =>
          advance
          blanks
          return ({ substitution with file := some (← fileName) }, fold)
      | some c =>
          if c.isDigit then flags fuel { substitution with first := (← number?).getD 1 } fold
          else if "; \t\n\x7d#".toList.contains c then return (substitution, fold)
          else
            advance
            throw "unknown option to `s'"
      | none => return (substitution, fold)

def substitution : Reading Action := do
  match ← peek with
  | none => throw "unterminated `s' command"
  | some ending =>
      advance
      let pattern ← readDelimited ending false "unterminated `s' command"
      let replacement ← readDelimited ending true "unterminated `s' command"
      let replacement :=
        if ending = '&' || ending = '\\' then replacement
        else replacement
      let plain : Substitution :=
        ⟨none, pieces (replacement.length + 1) replacement, false, 1, false, none⟩
      let (substitution, fold) ← flags ((← get).rest.length + 1) plain false
      return .substitute { substitution with regex := ← regexOf pattern fold }

def unescaped : List Char → List Char
  | '\\' :: 'n' :: rest => '\n' :: unescaped rest
  | '\\' :: c :: rest => c :: unescaped rest
  | c :: rest => c :: unescaped rest
  | [] => []

def exchange : Reading Action := do
  match ← peek with
  | none => throw "unterminated `y' command"
  | some ending =>
      advance
      let source ← readDelimited ending true "unterminated `y' command"
      let target ← readDelimited ending true "unterminated `y' command"
      let source := unescaped source
      let target := unescaped target
      if source.length ≠ target.length then
        throw "strings for `y' command are different lengths"
      else return .exchange (source.zip target)

def textLines : List Char → List Char × List Char
  | '\\' :: c :: rest =>
      let (inside, after) := textLines rest
      (c :: inside, after)
  | '\n' :: rest => ([], rest)
  | c :: rest =>
      let (inside, after) := textLines rest
      (c :: inside, after)
  | [] => ([], [])

def givenText : Reading (List Char) := do
  blanks
  let reader ← get
  let rest := match reader.rest with
    | '\\' :: more =>
        match more.dropWhile isBlankByte with
        | '\n' :: after => after
        | _ => more
    | rest => rest
  if reader.rest = ['\\'] then
    set { reader with rest := [] }
    return []
  else if rest.isEmpty then throw "expected \\ after `a', `c' or `i'"
  else
    let (text, after) := textLines rest
    set { reader with rest := after }
    return text ++ ['\n']

def name : Reading String := do
  blanks
  return String.ofList (← takeWhile fun c => c ≠ '\n' && c ≠ ';' && c ≠ ' ')

def action : Reading Action := do
  match ← peek with
  | none => throw "missing command"
  | some letter =>
      advance
      match letter with
      | '\x7b' =>
          modify fun reader => { reader with depth := reader.depth + 1 }
          return .opening
      | '\x7d' =>
          if (← get).depth = 0 then throw "unexpected `\x7d'"
          modify fun reader => { reader with depth := reader.depth - 1 }
          return .closing
      | ':' =>
          let name ← name
          if name.isEmpty then throw "\":\" lacks a label"
          return .label name
      | 'b' => return .branch (← name)
      | 't' => return .branchIf true (← name)
      | 'T' => return .branchIf false (← name)
      | 's' => substitution
      | 'y' => exchange
      | 'a' => return .append (← givenText)
      | 'i' => return .insert (← givenText)
      | 'c' => return .change (← givenText)
      | 'r' => return .readFile (← fileName)
      | 'w' => return .writeFile (← fileName)
      | 'q' =>
          blanks
          return .quit false ((← number?).getD 0)
      | 'Q' =>
          blanks
          return .quit true ((← number?).getD 0)
      | c =>
          if "dDgGhHlnNpPxz=".toList.contains c then return .simple c
          else throw s!"unknown command: `{c}'"

def needsEnd : Action → Bool
  | .opening | .label _ | .append _ | .insert _ | .change _ => false
  | _ => true

def instructions : Nat → Reading (List Instruction)
  | 0 => return []
  | fuel + 1 => do
      let _ ← takeWhile fun c => c = ';' || c = '\n' || isBlankByte c
      match ← peek with
      | none => return []
      | some '#' =>
          let _ ← takeWhile (· ≠ '\n')
          instructions fuel
      | some _ =>
          let selection ← selection
          let action ← action
          if needsEnd action then
            blanks
            match ← peek with
            | none | some ';' | some '\n' | some '\x7d' | some '#' => pure ()
            | _ =>
                advance
                throw "extra characters after command"
          return ⟨selection, action⟩ :: (← instructions fuel)

def hasLabel (program : List Instruction) (name : String) : Bool :=
  program.any fun instruction =>
    match instruction.action with
    | .label found => found = name
    | _ => false

def missingLabel? (program : List Instruction) : Option String :=
  program.findSome? fun instruction =>
    match instruction.action with
    | .branch name | .branchIf _ name =>
        if name.isEmpty || hasLabel program name then none else some name
    | _ => none

def instructionsOf (extended : Bool) (script : List Char) : Except String (List Instruction) :=
  let (reading, reader) := (instructions (script.length + 1)).run.run ⟨script, extended, 0⟩
  let failing (place : Nat) (problem : String) : Except String (List Instruction) :=
    .error s!"-e expression #1, char {place}: {problem}"
  match reading with
  | .error problem => failing (script.length - reader.rest.length) problem
  | .ok found =>
      if 0 < reader.depth then failing 0 "unmatched `\x7b'"
      else
        match missingLabel? found with
        | some name => .error s!"can't find label for jump to `{name}'"
        | none => .ok found

structure Machine where
  ending : UInt8
  pattern : List Char
  hold : List Char
  number : Nat
  ended : Bool
  upcoming : List (List Char × Bool)
  output : Bytes
  later : Bytes
  changed : Bool
  begun : List (Nat × Nat)
  lastRegex : Option Regex
  files : List (String × Bytes)

namespace Machine

def put (machine : Machine) (text : List Char) : Machine :=
  { machine with
    output := machine.output ++ bytesOf text ++ if machine.ended then [machine.ending] else [] }

def putBytes (machine : Machine) (bytes : Bytes) : Machine :=
  let joint := if !machine.ended && !bytes.isEmpty && !machine.output.isEmpty &&
    machine.output.getLast? ≠ some machine.ending then [machine.ending] else []
  { machine with output := machine.output ++ joint ++ bytes }

def putInto (machine : Machine) (name : String) : Machine :=
  if name = "/dev/stdout" then machine.put machine.pattern
  else
    let line := bytesOf machine.pattern ++ if machine.ended then [machine.ending] else []
    { machine with files := machine.files ++ [(name, line)] }

def flush (machine : Machine) : Machine :=
  if machine.later.isEmpty then machine
  else { machine.putBytes machine.later with later := [] }

def joint (machine : Machine) : Char := Char.ofNat machine.ending.toNat

def isLast (machine : Machine) : Bool := machine.upcoming.isEmpty

def next? (machine : Machine) : Option Machine :=
  match machine.upcoming with
  | [] => none
  | (line, ended) :: rest =>
      some { machine with
        pattern := line, ended := ended, upcoming := rest, number := machine.number + 1 }

def withRegex (machine : Machine) (regex : Option Regex) : Option Regex × Machine :=
  match regex with
  | some regex => (some regex, { machine with lastRegex := some regex })
  | none => (machine.lastRegex, machine)

def holds (machine : Machine) (address : Address) : Bool × Machine :=
  match address with
  | .line number => (machine.number = number, machine)
  | .finalLine => (machine.isLast, machine)
  | .every first step =>
      (if step = 0 then machine.number = first
        else first ≤ machine.number && (machine.number - first) % step = 0, machine)
  | .pattern regex =>
      match machine.withRegex regex with
      | (some regex, machine) => ((Regex.find? regex machine.pattern).isSome, machine)
      | (none, machine) => (false, machine)
  | .after _ | .multiple _ => (false, machine)

def endsRange (machine : Machine) (first : Nat) (address : Address) : Bool × Machine :=
  match address with
  | .line number => (number ≤ machine.number, machine)
  | .after count => (first + count ≤ machine.number, machine)
  | .multiple factor => (factor = 0 || machine.number % factor = 0, machine)
  | other => machine.holds other

def selects (machine : Machine) (index : Nat) (selection : Selection) : Bool × Machine :=
  let close (machine : Machine) : Machine :=
    { machine with begun := machine.begun.filter (·.1 ≠ index) }
  let (found, machine) :=
    match selection.first, selection.last with
    | none, _ => (true, machine)
    | some first, none => machine.holds first
    | some first, some last =>
        match machine.begun.lookup index, first with
        | some start, _ =>
            let passed := match last with
              | .line number => number < machine.number
              | _ => false
            let (ends, machine) := machine.endsRange start last
            (!passed, if ends then close machine else machine)
        | none, first =>
            let fromZero : Bool := match first with
              | .line 0 => machine.number = 1
              | _ => false
            let (begins, machine) := if fromZero then (true, machine) else machine.holds first
            if !begins then (false, machine)
            else
              let (single, machine) := match fromZero, last with
                | true, last => machine.endsRange 0 last
                | false, .line number => (number ≤ machine.number, machine)
                | false, .after count => (count = 0, machine)
                | false, .multiple factor =>
                    (factor = 0 || machine.number % factor = 0, machine)
                | false, _ => (false, machine)
              (true, if single then machine
                else { machine with begun := (index, machine.number) :: machine.begun })
  (found != selection.negated, machine)

end Machine

def inCase (upper : Option Bool) (text : List Char) : List Char :=
  match upper with
  | some true => text.map Char.toUpper
  | some false => text.map Char.toLower
  | none => text

def replacement (found : Regex.Occurrence) :
    List Piece → Option Bool → Option Bool → List Char
  | [], _, _ => []
  | .letters upper single :: rest, mode, once =>
      if single then replacement found rest mode upper else replacement found rest upper once
  | piece :: rest, mode, once =>
      let text := match piece with
        | .text text => text
        | .group 0 => found.text
        | .group number => (found.groups.lookup number).getD []
        | .letters _ _ => []
      let text := inCase mode text
      match once, text with
      | some _, c :: more =>
          inCase once [c] ++ more ++ replacement found rest mode none
      | once, text => text ++ replacement found rest mode once

def replaceFrom (substitution : Substitution) (regex : Regex) :
    Nat → Nat → Option Char → Bool → List Char → Option (List Char)
  | 0, _, _, _, _ => none
  | fuel + 1, count, before, afterMatch, text =>
      match Regex.search regex [] before text with
      | none => none
      | some found =>
          let touching := afterMatch && found.before.isEmpty && found.text.isEmpty
          let isTurn := !touching && substitution.first ≤ count + 1
          let counted := if touching then count else count + 1
          let put :=
            if isTurn then replacement found substitution.pieces none none else found.text
          let onward (moved : List Char) (before : Option Char) (after : Bool)
              (rest : List Char) : Option (List Char) :=
            let start := found.before ++ put ++ moved
            if isTurn && !substitution.everywhere then some (start ++ rest)
            else
              match replaceFrom substitution regex fuel counted before after rest with
              | some more => some (start ++ more)
              | none => if isTurn then some (start ++ rest) else none
          match found.text, found.rest with
          | [], [] => if isTurn then some (found.before ++ put) else none
          | [], c :: rest =>
              if isTurn && !substitution.everywhere then some (found.before ++ put ++ (c :: rest))
              else onward [c] (some c) false rest
          | text, rest => onward [] text.getLast? true rest

def visible (c : Char) : List Char :=
  let code := c.toNat
  match c with
  | '\\' => ['\\', '\\']
  | '\x07' => ['\\', 'a']
  | '\x08' => ['\\', 'b']
  | '\x0c' => ['\\', 'f']
  | '\n' => ['\\', 'n']
  | '\r' => ['\\', 'r']
  | '\t' => ['\\', 't']
  | '\x0b' => ['\\', 'v']
  | _ =>
      if 32 ≤ code && code < 127 then [c]
      else '\\' :: [code / 64 % 8, code / 8 % 8, code % 8].map fun digit =>
        Char.ofNat ('0'.toNat + digit)

def wrapped (width : Nat) : List (List Char) → Nat → List Char
  | [], _ => ['$', '\n']
  | text :: rest, column =>
      if column + text.length ≤ width then text ++ wrapped width rest (column + text.length)
      else '\\' :: '\n' :: text ++ wrapped width rest text.length

def shownLine (text : List Char) : Bytes := bytesOf (wrapped 69 (text.map visible) 0)

inductive Ending where
  | done (deleted : Bool)
  | again
  | quits (silent : Bool) (code : Nat)

def closeOf (program : Array Instruction) : Nat → Nat → Nat → Nat
  | 0, index, _ => index
  | fuel + 1, index, depth =>
      match program[index]? with
      | none => index
      | some instruction =>
          match instruction.action with
          | .opening => closeOf program fuel (index + 1) (depth + 1)
          | .closing =>
              if depth = 0 then index + 1 else closeOf program fuel (index + 1) (depth - 1)
          | _ => closeOf program fuel (index + 1) depth

def labelIndex (program : Array Instruction) (name : String) : Nat :=
  if name.isEmpty then program.size
  else
    (program.toList.findIdx? fun instruction =>
      match instruction.action with
      | .label found => found = name
      | _ => false).getD program.size

def runLine (quiet : Bool) (fileText : String → Bytes) (program : Array Instruction) :
    Nat → Nat → Machine → Ending × Machine
  | 0, _, machine => (.quits true 1, machine)
  | fuel + 1, index, machine =>
      match program[index]? with
      | none => (.done false, machine)
      | some instruction =>
          let (selected, machine) := machine.selects index instruction.selection
          let onward (machine : Machine) : Ending × Machine :=
            runLine quiet fileText program fuel (index + 1) machine
          let jump (name : String) (machine : Machine) : Ending × Machine :=
            runLine quiet fileText program fuel (labelIndex program name) machine
          if !selected then
            match instruction.action with
            | .opening =>
                let target := closeOf program (program.size + 1) (index + 1) 0
                runLine quiet fileText program fuel target machine
            | _ => onward machine
          else
            match instruction.action with
            | .opening | .closing | .label _ => onward machine
            | .branch name => jump name machine
            | .branchIf wanted name =>
                if machine.changed = wanted then jump name { machine with changed := false }
                else onward { machine with changed := if wanted then machine.changed else false }
            | .substitute substitution =>
                match machine.withRegex substitution.regex with
                | (none, machine) => onward machine
                | (some regex, machine) =>
                    match replaceFrom substitution regex (machine.pattern.length + 2) 0 none false
                        machine.pattern with
                    | none => onward machine
                    | some text =>
                        let machine := { machine with pattern := text, changed := true }
                        let machine := if substitution.prints then machine.put text else machine
                        match substitution.file with
                        | none => onward machine
                        | some file => onward (machine.putInto file)
            | .exchange pairs =>
                onward { machine with
                  pattern := machine.pattern.map fun c => (pairs.lookup c).getD c }
            | .append text => onward { machine with later := machine.later ++ bytesOf text }
            | .insert text =>
                onward { machine with output := machine.output ++ bytesOf text }
            | .change text =>
                let ranged := instruction.selection.last.isSome && !instruction.selection.negated
                if ranged && (machine.begun.lookup index).isSome then (.done true, machine)
                else (.done true, { machine with output := machine.output ++ bytesOf text })
            | .readFile name => onward { machine with later := machine.later ++ fileText name }
            | .writeFile name => onward (machine.putInto name)
            | .quit silent code => (.quits silent code, machine)
            | .simple letter =>
                match letter with
                | 'd' => (.done true, machine)
                | 'p' => onward (machine.put machine.pattern)
                | 'P' => onward (machine.put (machine.pattern.takeWhile (· ≠ machine.joint)))
                | 'g' => onward { machine with pattern := machine.hold }
                | 'G' =>
                    onward { machine with
                      pattern := machine.pattern ++ machine.joint :: machine.hold }
                | 'h' => onward { machine with hold := machine.pattern }
                | 'H' =>
                    onward { machine with
                      hold := machine.hold ++ machine.joint :: machine.pattern }
                | 'x' => onward { machine with pattern := machine.hold, hold := machine.pattern }
                | 'z' => onward { machine with pattern := [] }
                | '=' =>
                    let line := (toString machine.number).toList ++ ['\n']
                    onward { machine with output := machine.output ++ bytesOf line }
                | 'n' =>
                    let written := if quiet then machine else machine.put machine.pattern
                    match written.flush.next? with
                    | some machine => onward machine
                    | none => (.quits true 0, written)
                | 'N' =>
                    match machine.flush.next? with
                    | some later =>
                        onward { later with
                          pattern := machine.pattern ++ machine.joint :: later.pattern }
                    | none => (.quits false 0, machine)
                | 'D' =>
                    match machine.pattern.dropWhile (· ≠ machine.joint) with
                    | _ :: rest => (.again, { machine with pattern := rest })
                    | [] => (.done true, machine)
                | 'l' =>
                    onward { machine with output := machine.output ++ shownLine machine.pattern }
                | _ => onward machine

def runLines (quiet : Bool) (fileText : String → Bytes) (program : Array Instruction) :
    Nat → Bool → Machine → Nat × Machine
  | 0, _, machine => (1, machine)
  | fuel + 1, fresh, machine =>
      match if fresh then machine.next? else some machine with
      | none => (0, machine)
      | some machine =>
          let close (machine : Machine) : Machine :=
            (if quiet then machine else machine.put machine.pattern).flush
          match runLine quiet fileText program 100000 0 { machine with changed := false } with
          | (.done true, machine) => runLines quiet fileText program fuel true machine.flush
          | (.done false, machine) => runLines quiet fileText program fuel true (close machine)
          | (.again, machine) => runLines quiet fileText program fuel false machine.flush
          | (.quits silent code, machine) =>
              (code, if silent then machine.flush else close machine)

def inputLines (ending : UInt8) (bytes : Bytes) : List (List Char × Bool) :=
  let pieces := Text.pieces (Char.ofNat ending.toNat) (charsOf bytes)
  let lines := if pieces.getLast? = some [] then pieces.dropLast else pieces
  let unended := !bytes.isEmpty && bytes.getLast? ≠ some ending
  lines.zipIdx.map fun (line, index) => (line, !(unended && index + 1 = lines.length))

end Editing

def lastLines (ending : UInt8) (count : Nat) (bytes : Bytes) : Bytes :=
  let lines := Editing.inputLines ending bytes
  ((lines.drop (lines.length - count)).map fun (line, ended) =>
    bytesOf line ++ if ended then [ending] else []).flatten

open Editing in
def editBytes (ending : UInt8) (quiet : Bool) (program : Array Instruction) (bytes : Bytes) :
    StateM State (Nat × Bytes × Nat) := do
  let state ← get
  let fileText (name : String) : Bytes :=
    (state.disk.read state.current ⟨name⟩).toOption.getD []
  let lines := inputLines ending bytes
  let machine : Machine := ⟨ending, [], [], 0, true, lines, [], [], false, [], none, []⟩
  let (code, machine) := runLines quiet fileText program (4 * lines.length + 1000) true machine
  let named := (program.toList.filterMap fun instruction =>
    match instruction.action with
    | .writeFile name => some name
    | .substitute substitution => substitution.file
    | _ => none).eraseDups
  for name in named do
    let written := (machine.files.filter (·.1 = name)).flatMap Prod.snd
    if name ≠ "/dev/stdout" then
      modify fun state => { state with
        disk := (state.disk.write state.current (state.masked 0o666) ⟨name⟩ written).toOption.getD
          state.disk }
  return (code, machine.output, machine.upcoming.length)

-- The name under which the unedited file is kept. A star in the ending stands for the file.
def keptName (ending file : String) : String :=
  let base := lastPiece file
  let ending := if ending.contains '*' then ending else "*" ++ ending
  let name := ending.replace "*" base
  if name.contains '/' then name
  else (file.take (file.length - base.length)).toString ++ name

def editInPlace (lineEnd : UInt8) (quiet : Bool) (program : Array Editing.Instruction)
    (ending file : String) : StateM State Nat := do
  match ← readOperand file with
  | .error problem =>
      if problem = SystemError.text .isDirectory then
        say s!"couldn't edit {file}: not a regular file"
        return 4
      else
        say s!"can't read {file}: {problem}"
        return 2
  | .ok bytes =>
      let (code, output, _) ← editBytes lineEnd quiet program bytes
      let state ← get
      match state.disk.find state.current false ⟨file⟩, state.disk.stat state.current ⟨file⟩ with
      | .ok ⟨place, some _⟩, .ok (.file before) =>
          let kept :=
            if ending.isEmpty then state.disk
            else
              let renamed := state.disk.rename state.current ⟨file⟩ ⟨keptName ending file⟩
              renamed.toOption.getD state.disk
          let cleared := if (kept.node? place).isSome then kept.bury place else kept
          let edited : Disk.File := ⟨output, before.mode, state.disk.time, 0⟩
          set { state with disk := cleared.put place (.file edited) }
          return code
      | _, _ =>
          say s!"couldn't edit {file}: not a regular file"
          return 4

def withEndings : List String → List String × Option String
  | [] => ([], none)
  | "--" :: rest => ("--" :: rest, none)
  | argument :: rest =>
      let (more, ending) := withEndings rest
      let inPlace := "--in-place"
      if argument.startsWith inPlace then
        (more, some (ending.getD (argument.drop (inPlace.length + 1)).toString))
      else
        match argument.toList with
        | '-' :: letters =>
            if letters.head? = some '-' then (argument :: more, ending)
            else
              let (before, after) := letters.span (· ≠ 'i')
              match after with
              | _ :: value =>
                  if before.any fun c => c = 'e' || c = 'f' then (argument :: more, ending)
                  else
                    (if before.isEmpty then more else String.ofList ('-' :: before) :: more,
                      some (ending.getD (String.ofList value)))
              | [] => (argument :: more, ending)
        | _ => (argument :: more, ending)

def editLines : Utility := fun arguments => do
  let (arguments, ending) := withEndings arguments
  let switches : Switches :=
    ⟨"nErsuz", "efl", [("quiet", 'n'), ("silent", 'n'), ("expression", 'e'), ("file", 'f'),
      ("null-data", 'z'), ("regexp-extended", 'E'), ("separate", 's'), ("unbuffered", 'u')]⟩
  match switches.read false arguments with
  | .error problem => misuse 1 problem
  | .ok given =>
      let explicit := given.has 'e' || given.has 'f'
      match explicit, given.operands with
      | false, [] =>
          modify fun state => state.emitError <|
            s!"Usage: {state.name} [OPTION]... \x7bscript-only-if-no-other-script\x7d " ++
              "[input-file]...\n"
          return 1
      | _, operands =>
          let scripts ← (given.options.filter fun option => "ef".toList.contains option.1).mapM
            fun (letter, text) => do
              if letter = 'e' then pure text
              else
                let bytes := (← readOperand text).toOption.getD []
                pure (String.ofList (Text.rawText (if bytes.getLast? = some 10 then bytes.dropLast
                  else bytes)))
          let scripts := if explicit then scripts else operands.take 1
          let operands := if explicit then operands else operands.drop 1
          let script := Text.byteChars ("\n".intercalate scripts).toList
          let extended := given.has 'E' || given.has 'r'
          let quiet := given.has 'n' || ['#', 'n', '\n'].isPrefixOf script
          let lineEnd : UInt8 := if given.has 'z' then 0 else 10
          match Editing.instructionsOf extended script with
          | .error problem =>
              say problem
              return 1
          | .ok found =>
              let program := found.toArray
              match ending with
              | some ending =>
                  operands.foldlM (fun code operand => do
                    if code = 4 then return code
                    else
                      let next ← editInPlace lineEnd quiet program ending operand
                      return if code = 0 || next = 4 then next else code) 0
              | none =>
                  let operands := if operands.isEmpty then ["-"] else operands
                  let state ← get
                  let isDirectory (operand : String) : Bool :=
                    state.disk.isDirectory state.current ⟨operand⟩
                  let parts ← (operands.takeWhile (!isDirectory ·)).mapM fun operand => do
                    match ← readOperand operand with
                    | .ok bytes => pure (some bytes)
                    | .error problem =>
                        say s!"can't read {operand}: {problem}"
                        pure none
                  let failed := parts.any Option.isNone
                  let joined := parts.filterMap id |>.foldl (fun (before : Bytes) bytes =>
                    if before.isEmpty || before.getLast? = some lineEnd then before ++ bytes
                    else before ++ lineEnd :: bytes) []
                  let rewinds := operands = ["-"] && (← get).inputStream?.any (·.2.rewinds)
                  let inputs := if given.has 's' then parts.filterMap id else [joined]
                  let codes ← inputs.mapM fun bytes => do
                    let (code, output, left) ← editBytes lineEnd quiet program bytes
                    emitBytes output
                    if rewinds then modify (·.afterReading (lastLines lineEnd left bytes))
                    return code
                  let code := codes.foldl (fun code next => if code = 0 then next else code) 0
                  match operands.find? isDirectory with
                  | some directory =>
                      say s!"read error on {directory}: {SystemError.text .isDirectory}"
                      return 4
                  | none => return if code = 0 && failed then 2 else code

end PackageClosure.Shell.Utility
