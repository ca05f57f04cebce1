import PackageClosure.Shell.Utility.Amount

set_option autoImplicit false

namespace PackageClosure.Shell.Utility

def isBlankLetter (c : Char) : Bool := c = ' ' || c = '\t'

structure FoldStyle where
  width : Nat
  bytes : Bool
  spaces : Bool

def FoldStyle.after (style : FoldStyle) (column : Nat) (c : Char) : Nat :=
  if style.bytes then column + 1
  else if c = '\x08' then column - 1
  else if c = '\r' then 0
  else if c = '\t' then column + 8 - column % 8
  else column + 1

def FoldStyle.columnAfter (style : FoldStyle) (text : List Char) : Nat :=
  text.foldl style.after 0

-- A line in pieces that are not too long. What belongs to the next piece is given backwards.
def FoldStyle.broken (style : FoldStyle) :
    Nat → List Char → Nat → List Char → List (List Char)
  | 0, held, _, text => [held.reverse ++ text]
  | _, held, _, [] => [held.reverse]
  | fuel + 1, held, column, c :: rest =>
      let next := style.after column c
      if next ≤ style.width then style.broken fuel (c :: held) next rest
      else
        let moved := held.takeWhile (!isBlankLetter ·)
        if style.spaces && moved.length < held.length then
          let kept := held.drop moved.length
          kept.reverse :: style.broken fuel moved (style.columnAfter moved.reverse) (c :: rest)
        else if held.isEmpty then style.broken fuel [c] next rest
        else held.reverse :: style.broken fuel [] 0 (c :: rest)

def FoldStyle.line (style : FoldStyle) (line : List Char) : List Char :=
  ['\n'].intercalate (style.broken (3 * line.length + 1) [] 0 line)

-- Arguments in which a number that is written as an option becomes the value of one. Letters that
-- stand alone may come before it.
def withNumberFor (plain : String) (letter : Char) : List String → List String
  | [] => []
  | argument :: rest =>
      if argument = "--" then argument :: rest
      else
        let more := withNumberFor plain letter rest
        match argument.toList with
        | '-' :: cluster =>
            let before := cluster.takeWhile plain.toList.contains
            let after := cluster.drop before.length
            if after.head?.any Char.isDigit then
              let number := String.ofList ('-' :: letter :: after)
              if before.isEmpty then number :: more
              else String.ofList ('-' :: before) :: number :: more
            else argument :: more
        | _ => argument :: more

def withoutNewline (bytes : Bytes) : Bytes × Bytes :=
  if bytes.getLast? = some 10 then (bytes.dropLast, [10]) else (bytes, [])

def changeLines (change : List Char → List Char) (operands : List String) : StateM State Nat :=
  forEach (if operands.isEmpty then ["-"] else operands) fun operand => do
    match ← readOperand operand with
    | .error problem =>
        say s!"{spelled operand}: {problem}"
        return false
    | .ok bytes =>
        let (body, ending) := withoutNewline bytes
        if bytes.isEmpty then return true
        else
          let lines := (Text.pieces '\n' (charsOf body)).map change
          emitBytes (bytesOf (['\n'].intercalate lines) ++ ending)
          return true

def foldLines : Utility := fun arguments =>
  taking ⟨"bs", "w", [("bytes", 'b'), ("spaces", 's'), ("width", 'w')]⟩ 1 (fun given => do
    let widths := (given.values 'w').map
      (Amount.between 1 (Amount.largestUnsigned - 9) "" "invalid number of columns")
    match widths.findSome? fun width => match width with
      | .error problem => some problem
      | .ok _ => none with
    | some problem =>
        say problem
        return 1
    | none =>
        let width := (widths.getLast?.bind Except.toOption).getD 80
        let style : FoldStyle := ⟨width.toNat, given.has 'b', given.has 's'⟩
        changeLines style.line given.operands)
    (withNumberFor "bs" 'w' arguments)

structure TabStops where
  listed : List Nat
  multiple : Option Nat
  step : Option Nat

namespace TabStops

def none : TabStops := ⟨[], Option.none, Option.none⟩

inductive Role where
  | plain
  | multiple
  | step

def add (stops : TabStops) (role : Role) (value : Nat) : Except String TabStops :=
  match role with
  | .plain => .ok { stops with listed := stops.listed ++ [value] }
  | .multiple =>
      if stops.multiple.any (0 < ·) then
        .error "'/' specifier only allowed with the last value"
      else .ok { stops with multiple := some value }
  | .step =>
      if stops.step.any (0 < ·) then .error "'+' specifier only allowed with the last value"
      else .ok { stops with step := some value }

-- The stops that are given by a text, added to those that there are already. The value that is
-- being read stands beside them.
def scan : List Char → TabStops → Role → Option Nat → Except String TabStops
  | [], stops, role, value => match value with
      | some value => stops.add role value
      | Option.none => .ok stops
  | c :: rest, stops, role, value =>
      let shown := quoted (String.ofList (c :: rest))
      if c = ',' || isBlankLetter c then
        match value with
        | some value => do scan rest (← stops.add role value) role Option.none
        | Option.none => scan rest stops role Option.none
      else if c = '/' || c = '+' then
        if value.isSome then .error s!"'{c}' specifier not at start of number: {shown}"
        else scan rest stops (if c = '/' then .multiple else .step) value
      else if c.isDigit then
        let value := 10 * value.getD 0 + (c.toNat - 48)
        if Nat.pow 2 64 ≤ value then
          let digits := String.ofList ((toString value).toList ++ rest.takeWhile Char.isDigit)
          .error s!"tab stop is too large {quoted digits}"
        else scan rest stops role (some value)
      else .error s!"tab size contains invalid character(s): {shown}"

def problem? (stops : TabStops) : Option String :=
  let step (before : Nat × Option String) (stop : Nat) : Nat × Option String :=
    if before.2.isSome then before
    else if stop = 0 then (0, some "tab size cannot be 0")
    else if stop ≤ before.1 then (0, some "tab sizes must be ascending")
    else (stop, Option.none)
  let found := (stops.listed.foldl step (0, Option.none)).2
  if found.isSome then found
  else if stops.multiple.any (0 < ·) && stops.step.any (0 < ·) then
    some "'/' specifier is mutually exclusive with '+'"
  else Option.none

def nextMultiple (column size : Nat) : Nat := column + (size - column % size)

def next? (stops : TabStops) (column : Nat) : Option Nat :=
  let multiple := stops.multiple.filter (0 < ·)
  let step := stops.step.filter (0 < ·)
  match stops.listed, multiple, step with
  | [], Option.none, Option.none => some (nextMultiple column 8)
  | [], some size, _ => some (nextMultiple column size)
  | [], _, some size => some (nextMultiple column size)
  | [size], Option.none, Option.none => some (nextMultiple column size)
  | listed, multiple, step =>
      match listed.find? (column < ·), multiple, step with
      | some stop, _, _ => some stop
      | Option.none, some size, _ => some (nextMultiple column size)
      | Option.none, _, some size =>
          let last := listed.getLast?.getD 0
          some (column + (size - (column - last) % size))
      | Option.none, _, _ => Option.none

end TabStops

-- A line with spaces for its tabs, from some column on. If not everything is changed, what comes
-- after the first character that is no blank stays.
def expanded (stops : TabStops) (everything : Bool) : Nat → List Char → List Char
  | _, [] => []
  | column, c :: rest =>
      let after (column : Nat) : List Char :=
        if everything || isBlankLetter c then expanded stops everything column rest else rest
      if c = '\t' then
        let next := (stops.next? column).getD (column + 1)
        List.replicate (next - column) ' ' ++ after next
      else if c = '\x08' then c :: after (column - 1)
      else c :: after (column + 1)

structure Blanks where
  column : Nat
  held : List Char
  single : Bool
  afterBlank : Bool

def Blanks.pending (blanks : Blanks) : List Char :=
  match blanks.held with
  | _ :: second :: more => if blanks.single then '\t' :: second :: more else blanks.held
  | held => held

def unexpanded (stops : TabStops) (everything : Bool) : Blanks → List Char → List Char
  | blanks, [] => blanks.pending
  | blanks, c :: rest =>
      if isBlankLetter c then
        match stops.next? blanks.column with
        | none => blanks.pending ++ c :: rest
        | some next =>
            let onlyFirst (held : List Char) : List Char := if blanks.single then held else []
            if c = '\t' then
              let held := match blanks.held with
                | _ :: more => '\t' :: more
                | [] => []
              let kept := { blanks with held := onlyFirst (held.take 1) }
              kept.pending ++ c :: unexpanded stops everything ⟨next, [], false, true⟩ rest
            else
              let column := blanks.column + 1
              if blanks.afterBlank && column = next then
                let kept := { blanks with held := onlyFirst ['\t'] }
                kept.pending ++ '\t' :: unexpanded stops everything ⟨column, [], false, true⟩ rest
              else
                unexpanded stops everything
                  ⟨column, blanks.held ++ [c], blanks.single || column = next, true⟩ rest
      else
        let column := if c = '\x08' then blanks.column - 1 else blanks.column + 1
        blanks.pending ++ c ::
          (if everything then unexpanded stops everything ⟨column, [], false, false⟩ rest else rest)

def withTabStops (texts : List String) (run : TabStops → StateM State Nat) : StateM State Nat := do
  match texts.foldlM (fun stops text => stops.scan text.toList .plain none) TabStops.none with
  | .error problem =>
      say problem
      return 1
  | .ok stops =>
      match stops.problem? with
      | some problem =>
          say problem
          return 1
      | none => run stops

def expandTabs : Utility := fun arguments =>
  taking ⟨"i", "t", [("initial", 'i'), ("tabs", 't')]⟩ 1 (fun given =>
    withTabStops (given.values 't') fun stops =>
      changeLines (expanded stops (!given.has 'i') 0) given.operands)
    (withNumberFor "i" 't' arguments)

def unexpandBlanks : Utility := fun arguments =>
  taking ⟨"aF", "tn", [("all", 'a'), ("first-only", 'F'), ("tabs", 't')]⟩ 1 (fun given =>
    withTabStops (given.values 't' ++ given.values 'n') fun stops =>
      let everything := (given.has 'a' || given.has 't') && !given.has 'F'
      changeLines (unexpanded stops everything ⟨0, [], false, true⟩) given.operands)
    (withNumberFor "a" 'n' arguments)

end PackageClosure.Shell.Utility
