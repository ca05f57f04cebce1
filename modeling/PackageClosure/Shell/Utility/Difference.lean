import PackageClosure.Shell.Calendar
import PackageClosure.Shell.Edits
import PackageClosure.Shell.Regex
import PackageClosure.Shell.Utility.Amount

set_option autoImplicit false

namespace PackageClosure.Shell.Utility

namespace Difference

inductive Style where
  | normal
  | unified
  | copied
  | commands
  | counted
  | beside
  deriving DecidableEq

structure Plan where
  style : Style
  context : Nat
  brief : Bool
  tellsSame : Bool
  text : Bool
  recursive : Bool
  fewest : Bool
  newLeft : Bool
  newRight : Bool
  ignoreCase : Bool
  ignoreAllSpace : Bool
  ignoreSpaceChange : Bool
  ignoreTrailing : Bool
  ignoreTabs : Bool
  ignoreBlankLines : Bool
  ignored : List Regex
  heading : Option Regex
  stripReturns : Bool
  expandTabs : Bool
  initialTab : Bool
  commonLeft : Bool
  withoutCommon : Bool
  width : Nat
  labels : List String
  excluded : List String
  spelled : String

structure Lines where
  lines : Array (List Char)
  open_ : Bool

def Lines.ofBytes (plan : Plan) (bytes : Bytes) : Lines :=
  let lines := (linesOf bytes).map charsOf
  let bare (line : List Char) : List Char :=
    if line.getLast? = some '\r' then line.dropLast else line
  let unended := !bytes.isEmpty && bytes.getLast? ≠ some 10
  let lines := if !plan.stripReturns then lines
    else lines.zipIdx.map fun (line, index) =>
      if unended && index + 1 = lines.length then line else bare line
  ⟨lines.toArray, unended⟩

def Lines.isOpenAt (lines : Lines) (index : Nat) : Bool :=
  lines.open_ && index + 1 = lines.lines.size

def Lines.get (lines : Lines) (index : Nat) : List Char := lines.lines.getD index []

def isSpace (c : Char) : Bool := c = ' ' || (9 ≤ c.toNat && c.toNat ≤ 13)

def withoutTabs : Nat → List Char → List Char
  | _, [] => []
  | column, '\t' :: rest =>
      let count := 8 - column % 8
      List.replicate count ' ' ++ withoutTabs (column + count) rest
  | column, c :: rest => c :: withoutTabs (column + 1) rest

def withSingleSpaces (afterSpace : Bool) : List Char → List Char
  | [] => []
  | c :: rest =>
      if isSpace c then
        if afterSpace then withSingleSpaces true rest else ' ' :: withSingleSpaces true rest
      else c :: withSingleSpaces false rest

def withoutTrailing (line : List Char) : List Char := (line.reverse.dropWhile isSpace).reverse

def Plan.relevant (plan : Plan) (line : List Char) : List Char :=
  let line := if plan.ignoreCase then line.map Char.toLower else line
  if plan.ignoreAllSpace then line.filter (!isSpace ·)
  else if plan.ignoreSpaceChange then withSingleSpaces false (withoutTrailing line)
  else
    let line := if plan.ignoreTrailing then withoutTrailing line else line
    if plan.ignoreTabs then withoutTabs 0 line else line

def Plan.ignoresEnds (plan : Plan) : Bool :=
  plan.ignoreAllSpace || plan.ignoreSpaceChange || plan.ignoreTrailing

def commonLength {α : Type} [BEq α] : List α → List α → Nat
  | left :: more, right :: others => if left == right then commonLength more others + 1 else 0
  | _, _ => 0

def numbered (keys : List (List Char × Bool)) : List Nat :=
  let step (before : List (List Char × Bool) × List Nat) (key : List Char × Bool) :
      List (List Char × Bool) × List Nat :=
    match before.1.idxOf? key with
    | some place => (before.1, (before.1.length - 1 - place) :: before.2)
    | none => (key :: before.1, before.1.length :: before.2)
  (keys.foldl step ([], [])).2.reverse

-- The edits between two files. Lines at the beginning and at the end that are the same are left
-- out of the comparison, except for some near the others.
def edits (plan : Plan) (left right : Lines) : List Edit :=
  let robust := plan.style ≠ .commands
  let entries (lines : Lines) : List (List Char × Bool) :=
    lines.lines.toList.zipIdx.map fun (line, index) => (line, robust && lines.isOpenAt index)
  let lefts := entries left
  let rights := entries right
  let horizon := match plan.style with
    | .unified | .copied => plan.context
    | _ => 0
  let before := commonLength lefts rights - horizon
  let lefts := lefts.drop before
  let rights := rights.drop before
  let after :=
    if robust && left.open_ ≠ right.open_ then 0
    else commonLength lefts.reverse rights.reverse - horizon
  let key (entry : List Char × Bool) : List Char × Bool :=
    (plan.relevant entry.1, entry.2 && !plan.ignoresEnds)
  let lefts := (lefts.take (lefts.length - after)).map key
  let rights := (rights.take (rights.length - after)).map key
  let numbers := numbered (lefts ++ rights)
  (Edits.between plan.fewest (numbers.take lefts.length) (numbers.drop lefts.length)).map fun edit =>
    { edit with left := edit.left + before, right := edit.right + before }

def Plan.isTrivial (plan : Plan) (line : List Char) : Bool :=
  let line' := if plan.ignoresEnds && line.all isSpace then [] else line
  (plan.ignoreBlankLines && line'.isEmpty) ||
    plan.ignored.any fun regex => (regex.find? line).isSome

def Plan.ignores (plan : Plan) (left right : Lines) (edit : Edit) : Bool :=
  (plan.ignoreBlankLines || !plan.ignored.isEmpty) &&
    (List.range edit.deleted).all (fun index => plan.isTrivial (left.get (edit.left + index))) &&
    (List.range edit.inserted).all (fun index => plan.isTrivial (right.get (edit.right + index)))

def hunks (context : Nat) : List (Edit × Bool) → List (List (Edit × Bool))
  | [] => []
  | entry :: rest =>
      match rest, hunks context rest with
      | next :: _, group :: groups =>
          let gap := next.1.left - (entry.1.left + entry.1.deleted)
          let limit := if entry.2 || next.2 then context else 2 * context + 1
          if gap < limit then (entry :: group) :: groups else [entry] :: group :: groups
      | _, groups => [entry] :: groups

def marked (plan : Plan) (mark : String) (lines : Lines) (index : Nat) : String :=
  let line := lines.get index
  let line := if plan.expandTabs then withoutTabs 0 line else line
  let blank := if mark.isEmpty then "" else if plan.initialTab then "\t"
    else if plan.style = .unified then "" else " "
  let mark := if plan.style = .unified && plan.initialTab && mark = " " then "" else mark
  let ending := if lines.isOpenAt index then "\n\\ No newline at end of file\n" else "\n"
  mark ++ blank ++ String.ofList line ++ ending

def markedAll (plan : Plan) (mark : String) (lines : Lines) (first count : Nat) :
    String :=
  "".intercalate ((List.range count).map fun index => marked plan mark lines (first + index))

def rangeText (before count : Nat) : String :=
  if 1 < count then s!"{before + 1},{before + count}" else toString (before + count)

def editLetter (edit : Edit) : String :=
  if edit.deleted = 0 then "a" else if edit.inserted = 0 then "d" else "c"

def normalText (plan : Plan) (left right : Lines) (edit : Edit) : String :=
  rangeText edit.left edit.deleted ++ editLetter edit ++ rangeText edit.right edit.inserted ++
    "\n" ++ markedAll plan "<" left edit.left edit.deleted ++
    (if edit.deleted = 0 || edit.inserted = 0 then "" else "---\n") ++
    markedAll plan ">" right edit.right edit.inserted

-- The lines that are put in by commands of an editor. A line that would end the command is
-- written in another way.
def insertedText (right : Lines) (edit : Edit) : String :=
  let step (before : String × Bool) (index : Nat) : String × Bool :=
    let line := right.get (edit.right + index)
    let start := if before.2 then before.1 else before.1 ++ "a\n"
    if line = ['.'] then (start ++ "..\n.\ns/.//\n", false)
    else (start ++ String.ofList line ++ "\n", true)
  let (text, inserting) := (List.range edit.inserted).foldl step ("", true)
  if inserting then text ++ ".\n" else text

def commandText (right : Lines) (edit : Edit) : String :=
  rangeText edit.left edit.deleted ++ editLetter edit ++ "\n" ++
    (if edit.inserted = 0 then "" else insertedText right edit)

def countedText (right : Lines) (edit : Edit) : String :=
  let line (index : Nat) : String :=
    String.ofList (right.get index) ++ if right.isOpenAt index then "" else "\n"
  (if edit.deleted = 0 then "" else s!"d{edit.left + 1} {edit.deleted}\n") ++
    (if edit.inserted = 0 then ""
    else
      s!"a{edit.left + edit.deleted} {edit.inserted}\n" ++
        "".intercalate ((List.range edit.inserted).map fun index => line (edit.right + index)))

structure Extent where
  left : Nat
  leftCount : Nat
  right : Nat
  rightCount : Nat

def extentOf (context : Nat) (left right : Lines) (hunk : List Edit) : Option Extent := do
  let first ← hunk.head?
  let last ← hunk.getLast?
  let startLeft := first.left - context
  let startRight := first.right - context
  let endLeft := min (last.left + last.deleted + context) left.lines.size
  let endRight := min (last.right + last.inserted + context) right.lines.size
  return ⟨startLeft, endLeft - startLeft, startRight, endRight - startRight⟩

def headingText (plan : Plan) (left : Lines) (position : Nat) : String :=
  match plan.heading with
  | none => ""
  | some regex =>
      let before := (List.range position).map left.get
      match before.reverse.find? fun line => (regex.find? line).isSome with
      | none => ""
      | some line =>
          " " ++ String.ofList (withoutTrailing ((line.dropWhile isSpace).take 40))

def unifiedLines (plan : Plan) (left right : Lines) :
    Nat → Nat → List Edit → String
  | position, stop, [] => markedAll plan " " left position (stop - position)
  | position, stop, edit :: rest =>
      markedAll plan " " left position (edit.left - position) ++
        markedAll plan "-" left edit.left edit.deleted ++
        markedAll plan "+" right edit.right edit.inserted ++
        unifiedLines plan left right (edit.left + edit.deleted) stop rest

def unifiedRange (before count : Nat) : String :=
  if count = 1 then toString (before + 1)
  else if count = 0 then s!"{before},0"
  else s!"{before + 1},{count}"

def unifiedText (plan : Plan) (left right : Lines) (hunk : List Edit) : String :=
  match extentOf plan.context left right hunk with
  | none => ""
  | some extent =>
      s!"@@ -{unifiedRange extent.left extent.leftCount} " ++
        s!"+{unifiedRange extent.right extent.rightCount} @@" ++
        headingText plan left extent.left ++ "\n" ++
        unifiedLines plan left right extent.left (extent.left + extent.leftCount) hunk

def copiedLines (plan : Plan) (lines : Lines) (first count : Nat)
    (spans : List (Nat × Nat × String)) : String :=
  "".intercalate <| (List.range count).map fun index =>
    let position := first + index
    let span := spans.find? fun (start, size, _) => start ≤ position && position < start + size
    marked plan ((span.map fun (_, _, mark) => mark).getD " ") lines position

def copiedText (plan : Plan) (left right : Lines) (hunk : List Edit) : String :=
  match extentOf plan.context left right hunk with
  | none => ""
  | some extent =>
      let lefts := hunk.map fun edit =>
        (edit.left, edit.deleted, if edit.inserted = 0 then "-" else "!")
      let rights := hunk.map fun edit =>
        (edit.right, edit.inserted, if edit.deleted = 0 then "+" else "!")
      "***************" ++ headingText plan left extent.left ++
        s!"\n*** {rangeText extent.left extent.leftCount} ****\n" ++
        (if hunk.any (0 < ·.deleted) then
          copiedLines plan left extent.left extent.leftCount lefts else "") ++
        s!"--- {rangeText extent.right extent.rightCount} ----\n" ++
        (if hunk.any (0 < ·.inserted) then
          copiedLines plan right extent.right extent.rightCount rights else "")

structure Halves where
  width : Nat
  second : Nat
  expand : Bool

def Halves.ofPlan (plan : Plan) : Halves :=
  let tab := if plan.expandTabs then 1 else 8
  let gutter := tab + 3
  let middle := plan.width / 2 + gutter / 2 + (if plan.width % 2 = 1 && gutter % 2 = 1 then 1 else 0)
  let offset := middle - middle % tab
  let half := min (offset - 3) (plan.width - offset)
  ⟨half, if half = 0 then plan.width else offset, plan.expandTabs⟩

def Halves.gap (halves : Halves) (start stop : Nat) : String :=
  let aligned := stop - stop % 8
  if halves.expand || aligned ≤ start then String.ofList (List.replicate (stop - start) ' ')
  else
    let tabs := aligned / 8 - start / 8
    String.ofList (List.replicate tabs '\t' ++ List.replicate (stop - aligned) ' ')

def Halves.half (halves : Halves) (indent : Nat) : Nat → Nat → List Char → List Char × Nat
  | _, there, [] => ([], there)
  | here, there, c :: rest =>
      let put (shown : List Char) (here there : Nat) : List Char × Nat :=
        let (more, stop) := halves.half indent here there rest
        (shown ++ more, stop)
      if c = '\t' then
        let count := 8 - here % 8
        let stop := there + count
        if here ≠ there then put [] (here + count) there
        else if halves.expand then
          let stop := min stop halves.width
          put (List.replicate (stop - there) ' ') (here + count) (max there stop)
        else if stop < halves.width then put [c] (here + count) stop
        else put [] (here + count) there
      else if c = '\r' then put (c :: (halves.gap 0 indent).toList) 0 0
      else if c = '\x08' then
        if here = 0 || halves.width ≤ here - 1 then put [] (here - 1) there
        else if there ≤ here - 1 then
          put (List.replicate (here - 1 - there) ' ') (here - 1) (here - 1)
        else put [c] (here - 1) (here - 1)
      else if here < halves.width then put [c] (here + 1) (here + 1)
      else put [] (here + 1) there

def Halves.row (halves : Halves) (left : Option (List Char × Bool)) (mark : Char)
    (right : Option (List Char × Bool)) : String :=
  let (leftText, column) := (left.map fun entry => halves.half 0 0 0 entry.1).getD ([], 0)
  let leftEnded := left.any (!·.2)
  let rightEnded := right.any (!·.2)
  let mark := if mark = '|' && leftEnded ≠ rightEnded then if leftEnded then '/' else '\\'
    else mark
  let (middle, column) :=
    if mark = ' ' then ("", column)
    else
      let place := (halves.width + halves.second - 1) / 2
      (halves.gap column place ++ mark.toString, max column place + 1)
  let rest := match right with
    | none => ""
    | some (text, isOpen) =>
        if text.isEmpty && !isOpen then ""
        else
          halves.gap column halves.second ++
            String.ofList (halves.half (max column halves.second) 0 0 text).1
  String.ofList leftText ++ middle ++ rest ++ if leftEnded || rightEnded then "\n" else ""

def besideText (plan : Plan) (left right : Lines) (edits : List Edit) : String :=
  let halves := Halves.ofPlan plan
  let leftAt (index : Nat) : Option (List Char × Bool) := some (left.get index, left.isOpenAt index)
  let rightAt (index : Nat) : Option (List Char × Bool) :=
    some (right.get index, right.isOpenAt index)
  let rows (count : Nat) (row : Nat → String) : String :=
    "".intercalate ((List.range count).map row)
  let common (here there stop stopThere : Nat) : String :=
    if plan.withoutCommon then ""
    else if plan.commonLeft then
      rows (stop - here) fun index => halves.row (leftAt (here + index)) '(' none
    else
      let both := min (stop - here) (stopThere - there)
      rows both (fun index =>
          halves.row (leftAt (here + index)) ' ' (rightAt (there + index))) ++
        rows (stopThere - there - both) (fun index =>
          halves.row none ')' (rightAt (there + both + index))) ++
        rows (stop - here - both) (fun index =>
          halves.row (leftAt (here + both + index)) '(' none)
  let step (before : String × Nat × Nat) (edit : Edit) : String × Nat × Nat :=
    if plan.ignores left right edit then before
    else
      let (text, here, there) := before
      let both := min edit.deleted edit.inserted
      let changed := rows both fun index =>
        halves.row (leftAt (edit.left + index)) '|' (rightAt (edit.right + index))
      let added := rows (edit.inserted - both) fun index =>
        halves.row none '>' (rightAt (edit.right + both + index))
      let removed := rows (edit.deleted - both) fun index =>
        halves.row (leftAt (edit.left + both + index)) '<' none
      (text ++ common here there edit.left edit.right ++ changed ++ added ++ removed,
        edit.left + edit.deleted, edit.right + edit.inserted)
  let (text, here, there) := edits.foldl step ("", 0, 0)
  text ++ common here there left.lines.size right.lines.size

structure Side where
  name : String
  bytes : Bytes
  time : Int

def headingName (name : String) : String :=
  let bytes := Text.rawBytes name.toList
  let isPlain (byte : UInt8) : Bool := 32 < byte && byte < 127 && byte ≠ 34 && byte ≠ 92
  if bytes.all isPlain then name
  else
    let shown := bytes.flatMap fun byte =>
      if byte = 34 || byte = 92 then ['\\', Char.ofNat byte.toNat]
      else if isPrintable byte then [Char.ofNat byte.toNat]
      else escapeOf byte
    "\"" ++ String.ofList shown ++ "\""

def headingTime (style : Style) (time : Int) : String :=
  let moment := Moment.ofTime time
  if style = .copied then moment.write "%a %b %e %T %Y" else moment.write "%Y-%m-%d %H:%M:%S.%N %z"

def titles (plan : Plan) (left right : Side) : String :=
  let title (mark : String) (label : Option String) (side : Side) : String :=
    match label with
    | some label => s!"{mark} {label}\n"
    | none => s!"{mark} {headingName side.name}\t{headingTime plan.style side.time}\n"
  let (first, second) := if plan.style = .unified then ("---", "+++") else ("***", "---")
  title first plan.labels.head? left ++ title second (plan.labels[1]?) right

def filesText (plan : Plan) (nested : Bool) (left right : Side) : String × Bool :=
  let leftName := (plan.labels.head?).getD left.name
  let rightName := (plan.labels[1]?).getD right.name
  let binary := !plan.text && (left.bytes.contains 0 || right.bytes.contains 0)
  let ignoring := plan.ignoresEnds || plan.ignoreCase || plan.ignoreTabs ||
    plan.ignoreBlankLines || !plan.ignored.isEmpty || plan.stripReturns
  if left.bytes = right.bytes && plan.style ≠ .beside then ("", false)
  else if binary then
    if left.bytes = right.bytes then ("", false)
    else if plan.brief then (s!"Files {leftName} and {rightName} differ\n", true)
    else (s!"Binary files {leftName} and {rightName} differ\n", true)
  else if plan.brief && !ignoring then
    if left.bytes = right.bytes then ("", false)
    else (s!"Files {leftName} and {rightName} differ\n", true)
  else
    let leftLines := Lines.ofBytes plan left.bytes
    let rightLines := Lines.ofBytes plan right.bytes
    let found := edits plan leftLines rightLines
    let isIgnored := plan.ignores leftLines rightLines
    let shown := found.filter fun edit => !isIgnored edit
    let differs := !shown.isEmpty
    let groups := (hunks plan.context (found.map fun edit => (edit, isIgnored edit))).filter
      fun hunk => !hunk.all Prod.snd
    let groups := groups.map fun hunk => hunk.map Prod.fst
    let above := if nested then
        s!"diff{plan.spelled} {headingName left.name} {headingName right.name}\n"
      else ""
    let joined (texts : List String) : String := "".intercalate texts
    if plan.brief then
      (if differs then s!"Files {leftName} and {rightName} differ\n" else "", differs)
    else if !differs && plan.style ≠ .beside then ("", false)
    else
      let body := match plan.style with
        | .normal => joined (shown.map (normalText plan leftLines rightLines))
        | .commands => joined (shown.reverse.map (commandText rightLines))
        | .counted => joined (shown.map (countedText rightLines))
        | .unified =>
            titles plan left right ++ joined (groups.map (unifiedText plan leftLines rightLines))
        | .copied =>
            titles plan left right ++ joined (groups.map (copiedText plan leftLines rightLines))
        | .beside => besideText plan leftLines rightLines found
      (above ++ body, differs)

end Difference

end PackageClosure.Shell.Utility
