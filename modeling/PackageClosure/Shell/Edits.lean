set_option autoImplicit false

namespace PackageClosure.Shell

structure Edit where
  left : Nat
  right : Nat
  deleted : Nat
  inserted : Nat
  deriving DecidableEq, Repr

namespace Edits

structure Window where
  leftStart : Int
  leftEnd : Int
  rightStart : Int
  rightEnd : Int

-- How far paths have come on each diagonal between two bounds. A diagonal is a difference of
-- positions; the first one in the array may be negative.
structure Frontier where
  base : Int
  reached : Array Int
  low : Int
  high : Int

namespace Frontier

def on (frontier : Frontier) (diagonal : Int) : Int :=
  frontier.reached.getD (diagonal - frontier.base).toNat 0

def put (frontier : Frontier) (diagonal position : Int) : Frontier :=
  { frontier with
    reached := frontier.reached.setIfInBounds (diagonal - frontier.base).toNat position }

-- Bounds for paths with one change more. Diagonals beyond the new bounds are marked.
def widened (frontier : Frontier) (least most mark : Int) : Frontier :=
  let lower :=
    if least < frontier.low then
      { frontier.put (frontier.low - 2) mark with low := frontier.low - 1 }
    else { frontier with low := frontier.low + 1 }
  if lower.high < most then
    { lower.put (lower.high + 2) mark with high := lower.high + 1 }
  else { lower with high := lower.high - 1 }

def start (window : Window) (diagonal position : Int) : Frontier :=
  let base := window.leftStart - window.rightEnd - 2
  let size := (window.leftEnd - window.rightStart + 3 - base).toNat
  Frontier.put ⟨base, Array.replicate size 0, diagonal, diagonal⟩ diagonal position

end Frontier

structure Pair where
  left : Array Nat
  right : Array Nat

def Pair.agree (pair : Pair) (left right : Int) : Bool :=
  pair.left[left.toNat]? == pair.right[right.toNat]?

def Pair.forward (pair : Pair) (window : Window) : Nat → Int → Int → Int
  | 0, left, _ => left
  | fuel + 1, left, right =>
      if left < window.leftEnd && right < window.rightEnd && pair.agree left right then
        pair.forward window fuel (left + 1) (right + 1)
      else left

def Pair.backward (pair : Pair) (window : Window) : Nat → Int → Int → Int
  | 0, left, _ => left
  | fuel + 1, left, right =>
      if window.leftStart < left && window.rightStart < right &&
          pair.agree (left - 1) (right - 1) then
        pair.backward window fuel (left - 1) (right - 1)
      else left

def Window.size (window : Window) : Nat :=
  (window.leftEnd - window.leftStart + (window.rightEnd - window.rightStart)).toNat

abbrev Meeting := Option (Int × Int)

def Pair.advance (pair : Pair) (window : Window) (other : Option Frontier) :
    Nat → Int → Frontier → Meeting × Frontier
  | 0, _, frontier => (none, frontier)
  | fuel + 1, diagonal, frontier =>
      if diagonal < frontier.low then (none, frontier)
      else
        let below := frontier.on (diagonal - 1)
        let above := frontier.on (diagonal + 1)
        let first := if below < above then above else below + 1
        let left := pair.forward window (window.size + 1) first (first - diagonal)
        let frontier := frontier.put diagonal left
        let meets := other.any fun other =>
          other.low ≤ diagonal && diagonal ≤ other.high && other.on diagonal ≤ left
        if meets then (some (left, left - diagonal), frontier)
        else pair.advance window other fuel (diagonal - 2) frontier

def Pair.retreat (pair : Pair) (window : Window) (other : Option Frontier) :
    Nat → Int → Frontier → Meeting × Frontier
  | 0, _, frontier => (none, frontier)
  | fuel + 1, diagonal, frontier =>
      if diagonal < frontier.low then (none, frontier)
      else
        let below := frontier.on (diagonal - 1)
        let above := frontier.on (diagonal + 1)
        let first := if below < above then below else above - 1
        let left := pair.backward window (window.size + 1) first (first - diagonal)
        let frontier := frontier.put diagonal left
        let meets := other.any fun other =>
          other.low ≤ diagonal && diagonal ≤ other.high && left ≤ other.on diagonal
        if meets then (some (left, left - diagonal), frontier)
        else pair.retreat window other fuel (diagonal - 2) frontier

def Pair.middle (pair : Pair) (window : Window) :
    Nat → Frontier → Frontier → Int × Int
  | 0, _, _ => (window.leftStart, window.rightEnd)
  | fuel + 1, head, tail =>
      let least := window.leftStart - window.rightEnd
      let most := window.leftEnd - window.rightStart
      let odd := (window.leftStart - window.rightStart - (window.leftEnd - window.rightEnd)) % 2 ≠ 0
      let head := head.widened least most (-1)
      match pair.advance window (if odd then some tail else none) (window.size + 3) head.high head
        with
      | (some meeting, _) => meeting
      | (none, head) =>
          let tail := tail.widened least most (window.leftEnd + window.rightEnd + 1)
          match pair.retreat window (if odd then none else some head) (window.size + 3) tail.high
              tail with
          | (some meeting, _) => meeting
          | (none, tail) => pair.middle window fuel head tail

def Pair.changes (pair : Pair) : Nat → Window → List Nat × List Nat
  | 0, _ => ([], [])
  | fuel + 1, window =>
      let start := pair.forward window (window.size + 1) window.leftStart window.rightStart
      let inner := { window with
        leftStart := start, rightStart := window.rightStart + (start - window.leftStart) }
      let stop := pair.backward inner (inner.size + 1) inner.leftEnd inner.rightEnd
      let inner := { inner with
        leftEnd := stop, rightEnd := inner.rightEnd - (inner.leftEnd - stop) }
      let positions (first last : Int) : List Nat :=
        (List.range (last - first).toNat).map (first.toNat + ·)
      if inner.leftStart = inner.leftEnd then ([], positions inner.rightStart inner.rightEnd)
      else if inner.rightStart = inner.rightEnd then
        (positions inner.leftStart inner.leftEnd, [])
      else
        let head := Frontier.start inner (inner.leftStart - inner.rightStart) inner.leftStart
        let tail := Frontier.start inner (inner.leftEnd - inner.rightEnd) inner.leftEnd
        let (left, right) := pair.middle inner (inner.size + 1) head tail
        let before := pair.changes fuel { inner with leftEnd := left, rightEnd := right }
        let after := pair.changes fuel { inner with leftStart := left, rightStart := right }
        (before.1 ++ after.1, before.2 ++ after.2)

inductive Standing where
  | kept
  | alone
  | common
  deriving DecidableEq

def grownBy : Nat → Nat → Nat → Nat
  | 0, _, number => number
  | fuel + 1, size, number => if size / 4 = 0 then number else grownBy fuel (size / 4) (2 * number)

def standingOf (other : Array Nat) (elements : List Nat) : List Standing :=
  let many := grownBy 64 (elements.length / 64) 5
  elements.map fun element =>
    let matched := other.getD element 0
    if matched = 0 then .alone else if many < matched then .common else .kept

def withoutLongRuns (least : Nat) (run : List Standing) : List Standing :=
  let grouped := run.foldr (fun standing (groups : List (List Standing)) =>
    match standing, groups with
    | .common, (.common :: more) :: rest => (.common :: .common :: more) :: rest
    | standing, groups => [standing] :: groups) []
  grouped.flatMap fun group =>
    if group.head? = some .common && least ≤ group.length then group.map fun _ => .kept
    else group

def withoutEarly : Nat → Nat → List Standing → List Standing
  | _, _, [] => []
  | index, alone, standing :: rest =>
      if 8 ≤ index && standing = .alone then standing :: rest
      else
        match standing with
        | .alone =>
            if alone + 1 = 3 then standing :: rest
            else standing :: withoutEarly (index + 1) (alone + 1) rest
        | _ => .kept :: withoutEarly (index + 1) 0 rest

def settledRun (run : List Standing) : List Standing :=
  let common := run.count .common
  if run.length < 4 * common then run.map fun standing =>
    if standing = .common then .kept else standing
  else
    let least := grownBy 64 (run.length / 4) 1 + 1
    let checked := withoutEarly 0 0 (withoutLongRuns least run)
    (withoutEarly 0 0 checked.reverse).reverse

-- Decides for all common elements. They are set aside only between others that are.
def settled : Nat → List Standing → List Standing
  | 0, standings => standings
  | fuel + 1, standings =>
      match standings with
      | [] => []
      | .alone :: _ =>
          let span := standings.takeWhile (· ≠ .kept)
          let run := (span.reverse.dropWhile (· = .common)).reverse
          settledRun run ++ settled fuel (standings.drop run.length)
      | _ :: rest => .kept :: settled fuel rest

abbrev Marks := Array Bool

def Marks.at (marks : Marks) (index : Int) : Bool :=
  if index < 0 then false else marks.getD index.toNat false

def Marks.put (marks : Marks) (index : Int) (mark : Bool) : Marks :=
  marks.setIfInBounds index.toNat mark

def pastMarks (marks : Marks) : Nat → Int → Int
  | 0, index => index
  | fuel + 1, index => if marks.at index then pastMarks marks fuel (index + 1) else index

def beforeMarks (marks : Marks) : Nat → Int → Int
  | 0, index => index
  | fuel + 1, index =>
      if marks.at (index - 1) then beforeMarks marks fuel (index - 1) else index

def unmarkedUpTo (marks : Marks) : Nat → Int → Int
  | 0, index => index
  | fuel + 1, index => if marks.at index then unmarkedUpTo marks fuel (index - 1) else index

structure Shift where
  marks : Marks
  start : Int
  stop : Int
  there : Int
  matching : Int

def Shift.back (shift : Shift) (other : Marks) (fuel : Nat) : Shift :=
  let marks := (shift.marks.put (shift.start - 1) true).put (shift.stop - 1) false
  { shift with
    marks
    start := beforeMarks marks fuel (shift.start - 1)
    stop := shift.stop - 1
    there := unmarkedUpTo other fuel (shift.there - 1) }

def Shift.backAll (elements : Array Nat) (other : Marks) (fuel : Nat) :
    Nat → Shift → Shift
  | 0, shift => shift
  | count + 1, shift =>
      if shift.start ≠ 0 &&
          elements[(shift.start - 1).toNat]? == elements[(shift.stop - 1).toNat]? then
        Shift.backAll elements other fuel count (shift.back other fuel)
      else shift

def Shift.forth (shift : Shift) (other : Marks) (fuel : Nat) : Shift :=
  let marks := (shift.marks.put shift.start false).put shift.stop true
  let stop := pastMarks marks fuel (shift.stop + 1)
  let there := pastMarks other fuel (shift.there + 1)
  { marks
    start := shift.start + 1
    stop
    there
    matching := if shift.there + 1 < there then stop else shift.matching }

def Shift.forthAll (elements : Array Nat) (other : Marks) (fuel : Nat) :
    Nat → Shift → Shift
  | 0, shift => shift
  | count + 1, shift =>
      if shift.stop ≠ elements.size &&
          elements[shift.start.toNat]? == elements[shift.stop.toNat]? then
        Shift.forthAll elements other fuel count (shift.forth other fuel)
      else shift

def Shift.grow (elements : Array Nat) (other : Marks) (fuel : Nat) : Nat → Shift → Shift
  | 0, shift => shift
  | count + 1, shift =>
      let length := shift.stop - shift.start
      let back := shift.backAll elements other fuel fuel
      let matching := if other.at (back.there - 1) then back.stop else elements.size
      let forth := Shift.forthAll elements other fuel fuel { back with matching }
      if length = forth.stop - forth.start then forth
      else Shift.grow elements other fuel count forth

def Shift.toMatching (other : Marks) (fuel : Nat) : Nat → Shift → Shift
  | 0, shift => shift
  | count + 1, shift =>
      if shift.matching < shift.stop then
        let marks := (shift.marks.put (shift.start - 1) true).put (shift.stop - 1) false
        Shift.toMatching other fuel count
          { shift with
            marks
            start := shift.start - 1
            stop := shift.stop - 1
            there := unmarkedUpTo other fuel (shift.there - 1) }
      else shift

def shiftFrom (elements : Array Nat) (other : Marks) (fuel : Nat) :
    Nat → Int → Int → Marks → Marks
  | 0, _, _, marks => marks
  | count + 1, here, there, marks =>
      if here = elements.size then marks
      else if !marks.at here then
        shiftFrom elements other fuel count (here + 1) (pastMarks other fuel there + 1) marks
      else
        let stop := pastMarks marks fuel here
        let grown := Shift.grow elements other fuel fuel
          ⟨marks, here, stop, pastMarks other fuel there, elements.size⟩
        let shifted := Shift.toMatching other fuel fuel grown
        shiftFrom elements other fuel count shifted.stop shifted.there shifted.marks

def shifted (elements : Array Nat) (other marks : Marks) : Marks :=
  let fuel := elements.size + other.size + 2
  shiftFrom elements other fuel (2 * fuel) 0 0 marks

def ofMarks (left right : Marks) : Nat → Nat → Nat → List Edit
  | 0, _, _ => []
  | fuel + 1, here, there =>
      if left.size ≤ here + 1 && right.size ≤ there + 1 then []
      else
        let size := left.size + right.size
        let stop := (pastMarks left size here).toNat
        let stopThere := (pastMarks right size there).toNat
        if stop = here && stopThere = there then ofMarks left right fuel (here + 1) (there + 1)
        else
          ⟨here, there, stop - here, stopThere - there⟩ :: ofMarks left right fuel stop stopThere

def marked (size : Nat) (positions : List Nat) : Marks :=
  positions.foldl (fun marks position => marks.setIfInBounds position true)
    (Array.replicate (size + 1) false)

-- The edits that change one sequence into another. Only if they have to be the fewest, no element
-- is set aside.
def between (fewest : Bool) (left right : List Nat) : List Edit :=
  let limit := (left ++ right).foldl max 0 + 1
  let counts (elements : List Nat) : Array Nat :=
    elements.foldl (fun counts element => counts.modify element (· + 1))
      (Array.replicate limit 0)
  let standings (elements other : List Nat) : List Standing :=
    if fewest then elements.map fun _ => .kept
    else settled (elements.length + 1) (standingOf (counts other) elements)
  let split (elements : List Nat) (standings : List Standing) :
      List (Nat × Nat) × List Nat :=
    let entries := (elements.zip standings).zipIdx
    (entries.filterMap fun ((element, standing), index) =>
        if standing = .kept then some (element, index) else none,
      entries.filterMap fun ((_, standing), index) =>
        if standing = .kept then none else some index)
  let (leftKept, leftAside) := split left (standings left right)
  let (rightKept, rightAside) := split right (standings right left)
  let pair : Pair := ⟨(leftKept.map Prod.fst).toArray, (rightKept.map Prod.fst).toArray⟩
  let (deleted, inserted) := pair.changes (leftKept.length + rightKept.length + 1)
    ⟨0, leftKept.length, 0, rightKept.length⟩
  let places (kept : List (Nat × Nat)) (positions : List Nat) : List Nat :=
    let indices := (kept.map Prod.snd).toArray
    positions.filterMap fun position => indices[position]?
  let leftMarks := marked left.length (leftAside ++ places leftKept deleted)
  let rightMarks := marked right.length (rightAside ++ places rightKept inserted)
  let leftMarks := shifted left.toArray rightMarks leftMarks
  let rightMarks := shifted right.toArray leftMarks rightMarks
  ofMarks leftMarks rightMarks (left.length + right.length + 2) 0 0

end Edits

end PackageClosure.Shell
