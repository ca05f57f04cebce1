import PackageClosure.Shell.Pattern
import PackageClosure.Shell.Utility.Attributes
import PackageClosure.Shell.Version

set_option autoImplicit false

namespace PackageClosure.Shell.Utility

structure Entry where
  name : String
  path : String
  place : Place
  node : Disk.Node

def shownName (given : Given) (name : String) : String :=
  let escape (marks : List Char) (byte : UInt8) : String :=
    let c := Char.ofNat byte.toNat
    if marks.contains c then String.ofList ['\\', c]
    else if c = '\n' then "\\n"
    else if c = '\t' then "\\t"
    else if byte < 32 || 127 ≤ byte then "\\" ++ String.ofList
      ((Nat.toDigits 8 (512 + byte.toNat)).drop 1)
    else String.singleton c
  let bytes := Text.rawBytes name.toList
  if given.has 'Q' then "\"" ++ "".intercalate (bytes.map (escape ['"', '\\'])) ++ "\""
  else if given.has 'b' then "".intercalate (bytes.map (escape [' ', '\\']))
  else if given.has 'q' then
    String.ofList (bytes.map fun byte => if byte < 32 || 127 ≤ byte then '?' else Char.ofNat byte.toNat)
  else name

def markOf (given : Given) (node : Disk.Node) : String :=
  let classified := given.has 'F'
  if !(classified || given.has 'p' || given.has 'y') then ""
  else
    match node with
    | .directory _ => "/"
    | .link _ => if classified || given.has 'y' then "@" else ""
    | .file file => if classified && Disk.isRunnable file.mode then "*" else ""
    | .device _ => ""

def endingOf (name : String) : String :=
  match name.toList.reverse.span (· ≠ '.') with
  | (after, '.' :: _) => String.ofList ('.' :: after.reverse)
  | _ => ""

def sortLetter (given : Given) : Char :=
  let chosen := given.options.filterMap fun option =>
    if "tSvXUf".toList.contains option.1 then some option.1
    else if option.1 = 'O' then
      match option.2 with
      | "time" => some 't'
      | "size" => some 'S'
      | "version" => some 'v'
      | "extension" => some 'X'
      | "none" => some 'U'
      | _ => some 'n'
    else none
  chosen.getLast?.getD 'n'

def arranged (given : Given) (disk : Disk) (entries : List Entry) : List Entry :=
  let byName (left right : Entry) : Bool := Text.rawLe left.name right.name
  let orElse (order : Ordering) (left right : Entry) : Bool :=
    match order with
    | .lt => true
    | .gt => false
    | .eq => byName left right
  let time (entry : Entry) : Int := changedAt disk entry.place entry.node
  let letter := sortLetter given
  let sorted :=
    match letter with
    | 'U' | 'f' => entries
    | 't' => entries.mergeSort fun left right => orElse (compare (time right) (time left)) left right
    | 'S' => entries.mergeSort fun left right =>
        orElse (compare (sizeOfNode right.node) (sizeOfNode left.node)) left right
    | 'v' => entries.mergeSort fun left right =>
        orElse (Version.compareNames left.name.toList right.name.toList) left right
    | 'X' => entries.mergeSort fun left right =>
        let one := endingOf left.name
        let other := endingOf right.name
        if one = other then byName left right else Text.rawLe one other
    | _ => entries.mergeSort byName
  let turned := if given.has 'r' && letter ≠ 'U' && letter ≠ 'f' then sorted.reverse else sorted
  if given.has 'D' then
    turned.filter (·.node.isDirectory) ++ turned.filter (!·.node.isDirectory)
  else turned

def spaces (count : Nat) : String := String.ofList (List.replicate count ' ')

def alignRight (width : Nat) (text : String) : String := spaces (width - text.length) ++ text

def alignLeft (width : Nat) (text : String) : String := text ++ spaces (width - text.length)

def widest (texts : List String) : Nat := texts.foldl (fun most text => max most text.length) 0

def halfYear : Int := 15778476000000000

def listedTime (given : Given) (now time : Int) : String :=
  let moment := Moment.ofTime time
  let recent := now - halfYear < time && time ≤ now
  let style := if given.has 'E' then "full-iso" else (given.value? 'Y').getD "locale"
  match style with
  | "full-iso" => moment.write "%Y-%m-%d %H:%M:%S.%N %z"
  | "long-iso" => moment.write "%Y-%m-%d %H:%M"
  | "iso" => moment.write (if recent then "%m-%d %H:%M" else "%Y-%m-%d ")
  | _ =>
      match style.toList with
      | '+' :: format => moment.write (String.ofList format)
      | _ => moment.write (if recent then "%b %e %H:%M" else "%b %e  %Y")

def shownBlocks (given : Given) (blocks : Nat) : String :=
  if given.has 'h' then roundedSize 1024 (blocks * 1024) else toString blocks

def leading (given : Given) (disk : Disk) (entries : List Entry) : List String :=
  let numbers := entries.map fun entry => toString (numberOf disk entry.place entry.node)
  let blocks := entries.map fun entry => shownBlocks given (blocksOf entry.node)
  (numbers.zip blocks).map fun (number, block) =>
    (if given.has 'i' then alignRight (widest numbers) number ++ " " else "") ++
      (if given.has 's' then alignRight (widest blocks) block ++ " " else "")

def longLines (given : Given) (state : State) (entries : List Entry) : List String :=
  let disk := state.disk
  let counts := entries.map fun entry => toString (namesOf disk entry.place entry.node)
  let sizes := entries.map fun entry =>
    match entry.node with
    | .device device =>
        let (major, minor) := deviceNumbers device
        s!"{major}, {minor}"
    | node =>
        if given.has 'h' then roundedSize 1024 (sizeOfNode node) else toString (sizeOfNode node)
  let user := if given.has 'n' then "0" else "root"
  let owner := if given.has 'g' then "" else user ++ " "
  let group := if given.has 'o' || given.has 'G' then "" else user ++ " "
  let times := entries.map fun entry =>
    listedTime given disk.time (changedAt disk entry.place entry.node)
  let rows := ((entries.zip (leading given disk entries)).zip (counts.zip (sizes.zip times)))
  rows.map fun ((entry, front), (count, (size, time))) =>
    let name := shownName given entry.name
    let shown := match entry.node with
      | .link target =>
          let mark := match state.disk.find state.current true ⟨entry.path⟩ with
            | .ok ⟨_, some node⟩ => markOf given node
            | _ => ""
          s!"{name} -> {shownName given target.text}{mark}"
      | node => name ++ markOf given node
    front ++ String.singleton (kindLetter entry.node) ++ Mode.letters entry.node.mode ++ " " ++
      alignRight (widest counts) count ++ " " ++ owner ++ group ++
      alignRight (widest sizes) size ++ " " ++ alignLeft (widest times) time ++ " " ++ shown

def columnWidths (across : Bool) (count : Nat) (widths : List Nat) : List Nat :=
  let rows := (widths.length + count - 1) / count
  (List.range count).map fun column =>
    let inside := widths.zipIdx.filter fun (_, index) =>
      (if across then index % count else index / rows) = column
    let most := inside.foldl (fun most entry => max most entry.1) 0
    most + if column + 1 = count then 0 else 2

def gap : Nat → Nat → Nat → List Char
  | 0, _, _ => []
  | fuel + 1, start, finish =>
      if finish ≤ start then []
      else if (start + 1) / 8 < finish / 8 then '\t' :: gap fuel ((start / 8 + 1) * 8) finish
      else ' ' :: gap fuel (start + 1) finish

def inColumns (across : Bool) (lineWidth : Nat) (names : List String) : List String :=
  let widths := names.map String.length
  let most := max 1 (min (lineWidth / 3) names.length)
  let fitting := (List.range most).filter fun less =>
    (columnWidths across (less + 1) widths).foldl (· + ·) 0 < lineWidth
  let count := (fitting.getLast?.map (· + 1)).getD 1
  let columns := columnWidths across count widths
  let rows := (names.length + count - 1) / count
  (List.range rows).map fun row =>
    let inside := (List.range count).filterMap fun column =>
      names[if across then row * count + column else column * rows + row]?
    let (text, _) := (inside.zip columns).zipIdx.foldl
      (fun (before : List Char × Nat) ((name, width), index) =>
        let filled := before.1 ++ name.toList
        let reached := before.2 + name.length
        let next := before.2 + width
        if index + 1 = inside.length then (filled, next)
        else (filled ++ gap width reached next, next)) ([], 0)
    String.ofList text

def inSentences (lineWidth : Nat) (names : List String) : List String :=
  let step (lines : List String) (name : String) (last : Bool) : List String :=
    let ended := if last then name else name ++ ","
    match lines with
    | [] => [ended]
    | line :: above =>
        if line.length + 1 + ended.length < lineWidth then (line ++ " " ++ ended) :: above
        else ended :: line :: above
  ((names.zipIdx.foldl (fun lines (name, index) =>
    step lines name (index + 1 = names.length)) []).reverse)

def linesFor (given : Given) (state : State) (entries : List Entry) : List String :=
  if given.has 'l' then longLines given state entries
  else
    let names := ((leading given state.disk entries).zip entries).map fun (front, entry) =>
      front ++ shownName given entry.name ++ markOf given entry.node
    let shape := (given.options.filter fun option => "Cxm1".toList.contains option.1).getLast?
    let width := ((given.value? 'w').bind String.toNat?).getD 80
    let width := if width = 0 then 1000000 else width
    match shape.map Prod.fst with
    | some 'C' => inColumns false width names
    | some 'x' => inColumns true width names
    | some 'm' => inSentences width names
    | _ => names

def entriesIn (given : Given) (state : State) (place : Place) (path : String) : List Entry :=
  let patterns := (given.values 'I').map fun pattern =>
    Pattern.ofCharacters (pattern.toList.map fun c => (c, false))
  let all := given.has 'a' || given.has 'f'
  let names := (state.disk.namesIn place).map Name.text
  let shown := names.filter fun name =>
    (all || given.has 'A' || !name.startsWith ".") &&
      !(given.has 'B' && name.endsWith "~") &&
      !patterns.any fun pattern => Pattern.covers pattern name.toList
  let entry? (name : String) : Option Entry :=
    match state.disk.find state.current (given.has 'L') ⟨inDirectory path name⟩ with
    | .ok ⟨place, some node⟩ => some ⟨name, inDirectory path name, place, node⟩
    | _ => none
  arranged given state.disk
    (((if all then [".", ".."] else []) ++ shown).filterMap entry?)

def listDirectory (given : Given) (state : State) :
    Nat → Bool → Place → String → List (List String)
  | 0, _, _, _ => []
  | fuel + 1, titled, place, path =>
      let entries := entriesIn given state place path
      let title := if titled || given.has 'R' then [spelled path ++ ":"] else []
      let total :=
        if given.has 'l' || given.has 's' then
          let blocks := entries.foldl (fun sum entry => sum + blocksOf entry.node) 0
          ["total " ++ shownBlocks given blocks]
        else []
      let deeper :=
        if given.has 'R' then
          (entries.filter fun entry => entry.name ≠ "." && entry.name ≠ "..").flatMap fun entry =>
            match entry.node with
            | .directory _ => listDirectory given state fuel true entry.place entry.path
            | _ => []
        else []
      (title ++ total ++ linesFor given state entries) :: deeper

def widened (given : Given) : Given :=
  let extra := (if given.has 'n' || given.has 'g' || given.has 'o' || given.has 'E' then [('l', "")]
    else [])
  { given with options := given.options ++ extra }

def listSwitches : Switches :=
  ⟨"aAbBcCdDEfFgGhHiklLmnNopqQrRsStuUvxXyzZ1", "ITwYOK",
    [("all", 'a'), ("almost-all", 'A'), ("directory", 'd'), ("recursive", 'R'),
      ("reverse", 'r'), ("ignore", 'I'), ("hide", 'I'), ("ignore-backups", 'B'),
      ("human-readable", 'h'), ("inode", 'i'), ("size", 's'), ("dereference", 'L'),
      ("dereference-command-line", 'H'), ("numeric-uid-gid", 'n'), ("no-group", 'G'),
      ("full-time", 'E'), ("time-style", 'Y'), ("sort", 'O'), ("file-type", 'y'),
      ("group-directories-first", 'D'), ("quote-name", 'Q'), ("escape", 'b'), ("literal", 'N'),
      ("width", 'w'), ("zero", 'z'), ("hide-control-chars", 'q'), ("show-control-chars", 'N'),
      ("kibibytes", 'k'), ("author", 'c'), ("time", 'K'), ("tabsize", 'T'), ("context", 'Z')]⟩

def withoutColors (arguments : List String) : List String :=
  arguments.filterMap fun argument =>
    if argument.startsWith "--color" || argument.startsWith "--hyperlink" then none
    else if argument = "--classify" || argument = "--classify=always" then some "-F"
    else if argument.startsWith "--classify=" then none
    else if argument = "--indicator-style=slash" then some "-p"
    else if argument = "--indicator-style=classify" then some "-F"
    else if argument = "--indicator-style=file-type" then some "-y"
    else if argument.startsWith "--indicator-style=" then none
    else if argument = "--format=long" || argument = "--format=verbose" then some "-l"
    else if argument = "--format=commas" then some "-m"
    else if argument = "--format=vertical" then some "-C"
    else if argument = "--format=across" || argument = "--format=horizontal" then some "-x"
    else if argument = "--format=single-column" then some "-1"
    else some argument

def operandEntry (given : Given) (state : State) (operand : String) :
    Except FileError (Entry × Bool) := do
  let plain ← state.disk.find state.current (given.has 'L' || given.has 'H') ⟨operand⟩
  let keepsLinks := given.has 'd' || given.has 'F' || given.has 'l'
  let followed := state.disk.find state.current true ⟨operand⟩
  match plain.node with
  | none => throw (.system .notFound)
  | some node =>
      let own : Entry := ⟨operand, operand, plain.place, node⟩
      match node, keepsLinks, followed with
      | .directory _, _, _ => return (own, !given.has 'd')
      | .link _, false, .ok ⟨place, some (.directory mode)⟩ =>
          return (⟨operand, operand, place, .directory mode⟩, true)
      | _, _, _ => return (own, false)

def listNames : Utility := fun arguments =>
  taking listSwitches 2 (fun given => do
    let given := widened given
    let operands := if given.operands.isEmpty then ["."] else given.operands
    let state ← get
    let found ← operands.mapM fun operand => do
      match operandEntry given state operand with
      | .ok entry => pure (some entry)
      | .error error =>
          say s!"cannot access {quoted operand}: {reason error}"
          pure none
    let known := found.filterMap id
    let files := arranged given state.disk ((known.filter (!·.2)).map Prod.fst)
    let directories := arranged given state.disk ((known.filter (·.2)).map Prod.fst)
    let depth := state.disk.nodes.entries.length + 1
    let blocks := (if files.isEmpty then [] else [linesFor given state files]) ++
      directories.flatMap fun entry =>
        listDirectory given state depth (1 < operands.length) entry.place entry.path
    let lines := (blocks.intersperse [""]).flatten
    let ending := if given.has 'z' then "\x00" else "\n"
    emitText ("".intercalate (lines.map (· ++ ending)))
    return if known.length = found.length then 0 else 2) (withoutColors arguments)

end PackageClosure.Shell.Utility
