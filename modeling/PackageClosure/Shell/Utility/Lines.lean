import PackageClosure.Shell.Utility.Basic

set_option autoImplicit false

namespace PackageClosure.Shell.Utility

def visible (byte : UInt8) : List Char :=
  let low (number : Nat) : List Char :=
    if number < 32 then ['^', Char.ofNat (number + 64)]
    else if number = 127 then ['^', '?']
    else [Char.ofNat number]
  if byte < 128 then low byte.toNat else ['M', '-'] ++ low (byte.toNat - 128)

def padLeft (width : Nat) (text : String) : String :=
  String.ofList (List.replicate (width - text.length) ' ') ++ text

structure Numbering where
  number : Nat
  afterEmpty : Bool
  begun : Bool

def decorated (given : Given) (numbering : Numbering) (line : Bytes) (ended : Bool) :
    Bytes × Numbering :=
  let isEmpty := line.isEmpty && ended
  if given.has 's' && isEmpty && numbering.afterEmpty && !numbering.begun then ([], numbering)
  else
    let all := given.has 'A'
    let nonprinting := all || given.has 'v' || given.has 'e' || given.has 't'
    let tabs := all || given.has 'T' || given.has 't'
    let ends := all || given.has 'E' || given.has 'e'
    let counts := !numbering.begun && (if given.has 'b' then !isEmpty else given.has 'n')
    let shown := line.flatMap fun byte =>
      if byte = 9 then if tabs then [94, 73] else [9]
      else if nonprinting then bytesOf (visible byte)
      else [byte]
    let head := if counts then Text.rawBytes (padLeft 6 (toString numbering.number) ++ "\t").toList
      else []
    let tail := if ended then (if ends then [36, 10] else [10]) else []
    (head ++ shown ++ tail,
      ⟨if counts then numbering.number + 1 else numbering.number, isEmpty, !ended⟩)

def decorateAll (given : Given) (numbering : Numbering) (bytes : Bytes) : Bytes × Numbering :=
  let lines := linesOf bytes
  let last := lines.length - 1
  let unended := !bytes.isEmpty && bytes.getLast? ≠ some 10
  let step (before : Bytes × Numbering) (entry : Bytes × Nat) : Bytes × Numbering :=
    let (shown, numbering) := decorated given before.2 entry.1 (!(unended && entry.2 = last))
    (before.1 ++ shown, numbering)
  lines.zipIdx.foldl step ([], numbering)

def concatenate : Utility :=
  taking ⟨"AbeEnstTuv", "", [("show-all", 'A'), ("number-nonblank", 'b'), ("show-ends", 'E'),
      ("number", 'n'), ("squeeze-blank", 's'), ("show-tabs", 'T'), ("show-nonprinting", 'v')]⟩ 1
    fun given => do
      let operands := if given.operands.isEmpty then ["-"] else given.operands
      let plain := given.options.all (·.1 = 'u')
      let step (before : Bool × Numbering) (operand : String) :
          StateM State (Bool × Numbering) := do
        match ← readOperand operand with
        | .error problem =>
            say s!"{spelled operand}: {problem}"
            return (false, before.2)
        | .ok bytes =>
            if operand ≠ "-" && !bytes.isEmpty && isOutput (← get) operand then
              say s!"{spelled operand}: input file is output file"
              return (false, before.2)
            else if plain then
              emitBytes bytes
              return before
            else
              let (shown, numbering) := decorateAll given before.2 bytes
              emitBytes shown
              return (before.1, numbering)
      let (done, _) ← operands.foldlM step (true, ⟨1, false, false⟩)
      return if done then 0 else 1

def count? (text : List Char) : Option Nat :=
  let (digits, unit) := text.span Char.isDigit
  if digits.isEmpty then none
  else
    let factor? : Option Nat := match String.ofList unit with
      | "" => some 1
      | "b" => some 512
      | "k" | "K" | "KiB" => some 1024
      | "kB" | "KB" => some 1000
      | "M" | "MiB" => some 1048576
      | "MB" => some 1000000
      | _ => none
    factor?.map fun factor => Nat.ofDigitChars 10 digits 0 * factor

def withNumbers (plus : Bool) : List String → List String
  | [] => []
  | argument :: rest =>
      match argument.toList with
      | '-' :: digit :: more =>
          if digit.isDigit then "-n" :: String.ofList (digit :: more) :: rest
          else argument :: rest
      | '+' :: digit :: more =>
          if plus && digit.isDigit then "-n" :: argument :: rest
          else String.ofList ('+' :: digit :: more) :: rest
      | _ => argument :: rest

def firstLines (count : Nat) (bytes : Bytes) : Bytes :=
  match count, bytes with
  | 0, _ => []
  | _, [] => []
  | count + 1, byte :: rest =>
      byte :: firstLines (if byte = 10 then count else count + 1) rest
termination_by bytes.length

structure Portion where
  lines : Bool
  opposite : Bool
  count : Nat

def Portion.ofOptions (given : Given) (mark : Char) : Except String Portion :=
  let choice := (given.options.filter fun option => option.1 = 'n' || option.1 = 'c').getLast?
  match choice with
  | none => .ok ⟨true, false, 10⟩
  | some (letter, value) =>
      let text := value.toList
      let opposite := text.head? = some mark
      let signed := text.head? = some '+' || text.head? = some '-'
      match count? (if signed then text.drop 1 else text) with
      | some count => .ok ⟨letter = 'n', opposite, count⟩
      | none =>
          let unit := if letter = 'n' then "lines" else "bytes"
          .error s!"invalid number of {unit}: {quoted value}"

def headOf (portion : Portion) (bytes : Bytes) : Bytes :=
  match portion.lines, portion.opposite with
  | true, false => firstLines portion.count bytes
  | true, true => firstLines ((linesOf bytes).length - portion.count) bytes
  | false, false => bytes.take portion.count
  | false, true => bytes.take (bytes.length - portion.count)

def tailOf (portion : Portion) (bytes : Bytes) : Bytes :=
  let skipped :=
    match portion.lines, portion.opposite with
    | true, false => (firstLines ((linesOf bytes).length - portion.count) bytes).length
    | true, true => (firstLines (portion.count - 1) bytes).length
    | false, false => bytes.length - portion.count
    | false, true => portion.count - 1
  bytes.drop skipped

def showParts (given : Given) (early : Bool) (part : Bytes → Bytes) : StateM State Nat := do
  let operands := if given.operands.isEmpty then ["-"] else given.operands
  let titled := given.has 'v' || (1 < operands.length && !given.has 'q')
  let step (before : Bool × Bool) (operand : String) : StateM State (Bool × Bool) := do
    let title : StateM State Unit := do
      if titled then
        let name := if operand = "-" then "standard input" else operand
        emitText ((if before.2 then "\n" else "") ++ s!"==> {name} <==\n")
    let state ← get
    if operand ≠ "-" && state.disk.isDirectory state.current ⟨operand⟩ then
      title
      say s!"error reading {quoted operand}: {SystemError.text .isDirectory}"
      return (false, true)
    else
      match ← readOperand operand with
      | .ok bytes =>
          title
          let shown := part bytes
          emitBytes shown
          if operand = "-" && early && (state.inputStream?.any fun input => input.2.rewinds) then
            modify (·.afterReading (bytes.drop shown.length))
          return (before.1, true)
      | .error problem =>
          say s!"cannot open {quoted operand} for reading: {problem}"
          return (false, before.2)
  let (done, _) ← operands.foldlM step (true, false)
  return if done then 0 else 1

def partSwitches (more : String) : Switches :=
  ⟨"qvz" ++ more, "nc", [("lines", 'n'), ("bytes", 'c'), ("quiet", 'q'), ("silent", 'q'),
    ("verbose", 'v')]⟩

def showHead : Utility := fun arguments =>
  taking (partSwitches "") 1 (fun given => do
    match Portion.ofOptions given '-' with
    | .error problem =>
        say problem
        return 1
    | .ok portion => showParts given true (headOf portion)) (withNumbers false arguments)

def showTail : Utility := fun arguments =>
  taking (partSwitches "fF") 1 (fun given => do
    match Portion.ofOptions given '+' with
    | .error problem =>
        say problem
        return 1
    | .ok portion => showParts given false (tailOf portion)) (withNumbers true arguments)

def wordCount (bytes : Bytes) : Nat :=
  let isSpace (byte : UInt8) : Bool := byte = 32 || (9 ≤ byte && byte ≤ 13)
  (bytes.foldl (fun (before : Nat × Bool) byte =>
    if isSpace byte then (before.1, false)
    else (if before.2 then before.1 else before.1 + 1, true)) (0, false)).1

def countsOf (bytes : Bytes) : List Nat :=
  let longest := (linesOf bytes).foldl (fun most line => max most line.length) 0
  [bytes.count 10, wordCount bytes, bytes.length, bytes.length, longest]

def joinCounts (left right : List Nat) : List Nat :=
  (left.zip right).zipIdx.map fun ((one, other), column) =>
    if column = 4 then max one other else one + other

def digitCount (number : Nat) : Nat := (toString number).length

def countWidth (state : State) (operands : List String) (single : Bool) : Nat :=
  if single && operands.length ≤ 1 then 1
  else
    let sizes := operands.filterMap fun operand =>
      if operand = "-" then
        match state.inputStream? with
        | some (_, stream) => some (if stream.rewinds then some stream.bytes.length else none)
        | none => some none
      else
        match state.disk.stat state.current ⟨operand⟩ with
        | .ok (.file file) => some (some file.bytes.length)
        | .ok _ => some none
        | .error _ => none
    let total := sizes.foldl (fun sum size => sum + size.getD 0) 0
    max (digitCount total) (if sizes.any Option.isNone then 7 else 1)

def countWords : Utility :=
  taking ⟨"lwcmL", "", [("lines", 'l'), ("words", 'w'), ("bytes", 'c'), ("chars", 'm'),
      ("max-line-length", 'L')]⟩ 1
    fun given => do
      let asked := ['l', 'w', 'm', 'c', 'L'].map given.has
      let asked := if asked.any id then asked else [true, true, false, true, false]
      let operands := if given.operands.isEmpty then ["-"] else given.operands
      let width := countWidth (← get) operands (asked.count true = 1)
      let present (counts : List Nat) (name : Option String) : StateM State Unit := do
        let columns := (counts.zip asked).filterMap fun (count, wanted) =>
          if wanted then some (padLeft width (toString count)) else none
        emitText (" ".intercalate (columns ++ (name.map spelled).toList) ++ "\n")
      let counted ← operands.mapM fun operand => do
        let name := if given.operands.isEmpty then none else some operand
        let state ← get
        if operand ≠ "-" && state.disk.isDirectory state.current ⟨operand⟩ then
          say s!"{spelled operand}: {SystemError.text .isDirectory}"
          present [0, 0, 0, 0, 0] name
          pure (some [0, 0, 0, 0, 0], false)
        else
          match ← readOperand operand with
          | .ok bytes =>
              present (countsOf bytes) name
              pure (some (countsOf bytes), true)
          | .error problem =>
              say s!"{spelled operand}: {problem}"
              pure (none, false)
      if 1 < operands.length then
        present ((counted.filterMap Prod.fst).foldl joinCounts [0, 0, 0, 0, 0]) (some "total")
      return if counted.all Prod.snd then 0 else 1

def tee : Utility :=
  taking ⟨"aip", "", [("append", 'a'), ("ignore-interrupts", 'i')]⟩ 1 fun given => do
    if !given.has 'a' then
      for operand in given.operands do
        modify fun state =>
          match state.disk.find state.current true ⟨operand⟩ with
          | .ok found => state.emptied found.place
          | .error _ => state
    let bytes := (← readInput).toOption.getD []
    let status ← forEach given.operands fun operand => do
      let state ← get
      let written : Except FileError Disk := do
        let (opened, place) ←
          state.disk.openFile state.current (given.has 'a') (state.masked 0o666) ⟨operand⟩
        return opened.append place bytes
      settle written (spelled operand)
    emitBytes bytes
    return status

def reverseLines : Utility :=
  taking ⟨"br", "s", []⟩ 1 fun given => do
    let (bytes, done) ← readAllWith
      (fun operand problem => s!"failed to open {quoted operand} for reading: {problem}")
      given.operands
    let lines := linesOf bytes
    let unended := !bytes.isEmpty && bytes.getLast? ≠ some 10
    match unended, lines.reverse with
    | true, last :: more => emitBytes (last ++ joinLines more)
    | _, lines => emitBytes (joinLines lines)
    return if done then 0 else 1

def reverseCharacters : Utility :=
  taking ⟨"", "", []⟩ 1 fun given => do
    let (bytes, done) ← readAll given.operands
    let unended := !bytes.isEmpty && bytes.getLast? ≠ some 10
    let turned := joinLines ((linesOf bytes).map List.reverse)
    emitBytes (if unended then turned.dropLast else turned)
    return if done then 0 else 1

end PackageClosure.Shell.Utility
