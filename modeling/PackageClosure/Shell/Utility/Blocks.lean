import PackageClosure.Rounding
import PackageClosure.Shell.Utility.Amount

set_option autoImplicit false

namespace PackageClosure.Shell.Utility

structure BlockPlan where
  input : Option String
  output : Option String
  inputSize : Nat
  outputSize : Nat
  direct : Bool
  recordSize : Nat
  skipped : Nat
  skippedBytes : Bool
  passed : Nat
  passedBytes : Bool
  count : Option Nat
  countedBytes : Bool
  conversions : List String
  inputFlags : List String
  outputFlags : List String
  status : String

structure BlockError where
  problem : String
  misused : Bool

namespace BlockPlan

def initial : BlockPlan :=
  ⟨none, none, 512, 512, false, 0, 0, false, 0, false, none, false, [], [], [], ""⟩

def units : String := "bcEGkKMPQRTwYZ0"

def number (whole text : String) : Except BlockError Nat :=
  let factor (piece : List Char) : Except AmountError Nat :=
    let counted := if piece.getLast? = some 'B' then piece.dropLast else piece
    let read (piece : List Char) : Except AmountError Nat := do
      let value ← Amount.read false units piece
      if value < 0 || piece.head? = some '-' then throw .malformed else return value.toNat
    match read piece with
    | .error .stray => read counted
    | found => found
  let result := (Text.pieces 'x' text.toList).foldlM (fun product piece => do
    return product * (← factor piece)) 1
  match result with
  | .ok value =>
      if Nat.pow 2 64 ≤ value then
        .error ⟨s!"invalid number: {quoted whole}: Value too large for defined data type", false⟩
      else .ok value
  | .error .tooLarge =>
      .error ⟨s!"invalid number: {quoted whole}: Value too large for defined data type", false⟩
  | .error _ => .error ⟨s!"invalid number: {quoted whole}", false⟩

def knownConversions : List String :=
  ["ascii", "ebcdic", "ibm", "block", "unblock", "lcase", "ucase", "sparse", "swab", "sync",
    "excl", "nocreat", "notrunc", "noerror", "fdatasync", "fsync"]

def knownFlags : List String :=
  ["append", "binary", "cio", "direct", "directory", "dsync", "noatime", "nocache", "noctty",
    "nofollow", "nolinks", "nonblock", "sync", "text", "fullblock", "count_bytes", "skip_bytes",
    "seek_bytes"]

def words (known : List String) (sort value : String) : Except BlockError (List String) :=
  let pieces := (Text.pieces ',' value.toList).map String.ofList
  match pieces.find? (!known.contains ·) with
  | some word => .error ⟨s!"invalid {sort}: {quoted word}", true⟩
  | none => .ok pieces

def set (plan : BlockPlan) (operand : String) : Except BlockError BlockPlan := do
  let (name, value) ← match Text.splitFirst '=' operand.toList with
    | some (name, value) => pure (String.ofList name, String.ofList value)
    | none => throw ⟨s!"unrecognized operand {quoted operand}", true⟩
  let size : Except BlockError Nat := do
    let size ← number value value
    if size = 0 then throw ⟨s!"invalid number: {quoted value}", false⟩ else return size
  let bytes := value.contains 'B'
  match name with
  | "if" => return { plan with input := some value }
  | "of" => return { plan with output := some value }
  | "ibs" => return { plan with inputSize := ← size }
  | "obs" => return { plan with outputSize := ← size }
  | "bs" =>
      let size ← size
      return { plan with inputSize := size, outputSize := size, direct := true }
  | "cbs" => return { plan with recordSize := ← size }
  | "skip" | "iseek" =>
      return { plan with skipped := ← number value value, skippedBytes := bytes }
  | "seek" | "oseek" =>
      return { plan with passed := ← number value value, passedBytes := bytes }
  | "count" =>
      return { plan with count := some (← number value value), countedBytes := bytes }
  | "conv" =>
      return { plan with
        conversions := plan.conversions ++ (← words knownConversions "conversion" value) }
  | "iflag" =>
      return { plan with
        inputFlags := plan.inputFlags ++ (← words knownFlags "input flag" value) }
  | "oflag" =>
      return { plan with
        outputFlags := plan.outputFlags ++ (← words knownFlags "output flag" value) }
  | "status" =>
      if ["none", "noxfer", "progress"].contains value then return { plan with status := value }
      else throw ⟨s!"invalid status level: {quoted value}", true⟩
  | _ => throw ⟨s!"unrecognized operand {quoted operand}", true⟩

def converts (plan : BlockPlan) (name : String) : Bool := plan.conversions.contains name

def conflict? (plan : BlockPlan) : Option String :=
  if plan.converts "block" && plan.converts "unblock" then some "cannot combine block and unblock"
  else if plan.converts "lcase" && plan.converts "ucase" then
    some "cannot combine lcase and ucase"
  else if plan.converts "excl" && plan.converts "nocreat" then
    some "cannot combine excl and nocreat"
  else none

def skip (plan : BlockPlan) : Nat :=
  if plan.skippedBytes || plan.inputFlags.contains "skip_bytes" then plan.skipped
  else plan.skipped * plan.inputSize

def pass (plan : BlockPlan) : Nat :=
  if plan.passedBytes || plan.outputFlags.contains "seek_bytes" then plan.passed
  else plan.passed * plan.outputSize

def limit? (plan : BlockPlan) : Option Nat :=
  plan.count.map fun count =>
    if plan.countedBytes || plan.inputFlags.contains "count_bytes" then count
    else count * plan.inputSize

end BlockPlan

namespace Blocks

def swapped : Bytes → Bytes
  | first :: second :: rest => second :: first :: swapped rest
  | rest => rest

def split (size : Nat) : Nat → Bytes → List Bytes
  | 0, _ => []
  | fuel + 1, bytes =>
      if bytes.isEmpty then [] else bytes.take size :: split size fuel (bytes.drop size)

def toRecords (size : Nat) (bytes : Bytes) : Bytes × Nat :=
  let lines := linesOf bytes
  let filled := lines.map fun line => line.take size ++ List.replicate (size - line.length) 32
  (filled.flatten, (lines.filter fun line => size < line.length).length)

def ofRecords (size : Nat) (bytes : Bytes) : Bytes :=
  let bare (record : Bytes) : Bytes := (record.reverse.dropWhile (· = 32)).reverse
  (split size (bytes.length + 1) bytes).flatMap fun record => bare record ++ [10]

def scaled (base : Nat) (units : List String) (count : Nat) : String :=
  let power := (List.range units.length).foldl (fun power next =>
    if Nat.pow base next ≤ count then next else power) 0
  let unit := Nat.pow base power
  let tenths := nearestQuotient (count * 10) unit
  let text :=
    if power = 0 then toString count
    else if tenths < 100 then s!"{tenths / 10}.{tenths % 10}"
    else toString (nearestQuotient count unit)
  text ++ " " ++ (units[power]?).getD ""

def decimalUnits : List String := ["B", "kB", "MB", "GB", "TB"]

def binaryUnits : List String := ["B", "KiB", "MiB", "GiB", "TiB"]

def sizesText (count : Nat) : String :=
  if count < 1000 then ""
  else if count < 1024 then s!" ({scaled 1000 decimalUnits count})"
  else s!" ({scaled 1000 decimalUnits count}, {scaled 1024 binaryUnits count})"

def report (status : String) (whole part written rest bytes truncated : Nat) : String :=
  if status = "none" then ""
  else
    let records := s!"{whole}+{part} records in\n{written}+{rest} records out\n"
    let cut := if truncated = 0 then ""
      else if truncated = 1 then "1 truncated record\n"
      else s!"{truncated} truncated records\n"
    let unit := if bytes = 1 then "byte" else "bytes"
    let last := if status = "noxfer" then ""
      else s!"{bytes} {unit}{sizesText bytes} copied, 0 s, Infinity B/s\n"
    records ++ cut ++ last

def converted (plan : BlockPlan) (bytes : Bytes) : Bytes × Nat :=
  let fill : UInt8 := if plan.converts "block" || plan.converts "unblock" then 32 else 0
  let missing := (plan.inputSize - bytes.length % plan.inputSize) % plan.inputSize
  let bytes := if plan.converts "sync" then bytes ++ List.replicate missing fill else bytes
  let bytes := if plan.converts "swab" then swapped bytes else bytes
  let bytes :=
    if plan.converts "ucase" then bytesOf ((charsOf bytes).map Char.toUpper)
    else if plan.converts "lcase" then bytesOf ((charsOf bytes).map Char.toLower)
    else bytes
  if plan.recordSize = 0 then (bytes, 0)
  else if plan.converts "block" then toRecords plan.recordSize bytes
  else if plan.converts "unblock" then (ofRecords plan.recordSize bytes, 0)
  else (bytes, 0)

def openOutput (plan : BlockPlan) (path : String) : StateM State (Except String Bytes) := do
  let state ← get
  let there := state.disk.find state.current true ⟨path⟩
  let exists? := match there with
    | .ok found => found.node.isSome
    | .error _ => false
  if plan.converts "excl" && exists? then return .error (SystemError.text .alreadyExists)
  else if plan.converts "nocreat" && !exists? then return .error (SystemError.text .notFound)
  else
    match state.disk.openFile state.current true (state.masked 0o666) ⟨path⟩ with
    | .error error => return .error (reason error)
    | .ok (disk, _) =>
        set { state with disk }
        let before := (disk.read state.current ⟨path⟩).toOption.getD []
        return .ok (if plan.converts "notrunc" then before else before.take plan.pass)

def placed (plan : BlockPlan) (before bytes : Bytes) : Bytes :=
  if plan.outputFlags.contains "append" then before ++ bytes
  else
    let pass := plan.pass
    before.take pass ++ List.replicate (pass - before.length) 0 ++ bytes ++
      before.drop (pass + bytes.length)

-- The bytes of the input that are copied, and what is wrong with it. The rest of the standard
-- input stays there.
def takeInput (plan : BlockPlan) : StateM State (Bytes × Option String) := do
  let skip := plan.skip
  let cut (bytes : Bytes) : Bytes := plan.limit?.elim (bytes.drop skip) (bytes.drop skip).take
  let short (name : String) (bytes : Bytes) : StateM State Unit := do
    if bytes.length < skip && plan.status ≠ "none" then
      say s!"{spelled name}: cannot skip to specified offset"
  match plan.input with
  | some path =>
      match ← readOperand path with
      | .ok bytes =>
          short path bytes
          return (cut bytes, none)
      | .error problem => return ([], some s!"error reading {quoted path}: {problem}")
  | none =>
      let state ← get
      let bytes := state.input
      short "standard input" bytes
      set (state.afterReading (plan.limit?.elim [] fun limit => bytes.drop (skip + limit)))
      return (cut bytes, none)

def run (plan : BlockPlan) : StateM State Nat := do
  let state ← get
  let missing? : Option String := plan.input.bind fun path =>
    if path = "/dev/stdin" then none
    else match state.disk.read state.current ⟨path⟩ with
      | .error (.system .isDirectory) => none
      | .error error => some s!"failed to open {quoted path}: {reason error}"
      | .ok _ => none
  match missing? with
  | some problem =>
      say problem
      return 1
  | none =>
      let opened ← match plan.output with
        | none => pure (.ok [])
        | some path => openOutput plan path
      match opened, plan.output with
      | .error problem, path =>
          let path := quoted (path.getD "")
          say s!"failed to open {path}: {problem}"
          return 1
      | .ok before, output =>
          let state ← get
          let same := match plan.input, output with
            | some source, some target =>
                match state.disk.find state.current true ⟨source⟩,
                    state.disk.find state.current true ⟨target⟩ with
                | .ok left, .ok right => left.place = right.place
                | _, _ => false
            | _, _ => false
          let (taken, problem) ← takeInput plan
          let bytes := if same && !plan.converts "notrunc" then
              plan.limit?.elim (before.drop plan.skip) (before.drop plan.skip).take
            else taken
          let (bytes', truncated) := converted plan bytes
          if let some problem := problem then say problem
          if let some path := output then
            modify fun state =>
              match state.disk.write state.current (state.masked 0o666) ⟨path⟩
                  (placed plan before bytes') with
              | .ok disk => { state with disk }
              | .error _ => state
          else emitBytes (List.replicate plan.pass 0 ++ bytes')
          let whole := bytes.length / plan.inputSize
          let part := if bytes.length % plan.inputSize = 0 then 0 else 1
          let written := bytes'.length / plan.outputSize
          let rest := if bytes'.length % plan.outputSize = 0 then 0 else 1
          modify (·.emitError
            (report plan.status whole part written rest bytes'.length truncated))
          return if problem.isSome then 1 else 0

end Blocks

def copyBlocks : Utility := fun arguments =>
  match arguments.find? fun argument => argument.startsWith "-" && argument ≠ "--" with
  | some option =>
      if option.startsWith "--" then misuse 1 s!"unrecognized option '{option}'"
      else
        let letter := (option.toList[1]?).getD '-'
        if option = "-" then misuse 1 s!"unrecognized operand {quoted option}"
        else misuse 1 s!"invalid option -- '{letter}'"
  | none => do
      match (arguments.filter (· ≠ "--")).foldlM BlockPlan.set BlockPlan.initial with
      | .error ⟨problem, true⟩ => misuse 1 problem
      | .error ⟨problem, false⟩ =>
          say problem
          return 1
      | .ok plan =>
          match plan.conflict? with
          | some problem =>
              say problem
              return 1
          | none =>
              let state ← get
              let seeks := match state.channel? 1 with
                | some (.file _) => true
                | _ => false
              if plan.output.isNone && plan.pass ≠ 0 && !seeks then
                say "'standard output': cannot seek: Illegal seek"
                modify (·.emitError (Blocks.report plan.status 0 0 0 0 0 0))
                return 1
              else Blocks.run plan

end PackageClosure.Shell.Utility
