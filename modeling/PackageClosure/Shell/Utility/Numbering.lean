import PackageClosure.Shell.Regex
import PackageClosure.Shell.Utility.Amount

set_option autoImplicit false

namespace PackageClosure.Shell.Utility

inductive NumberedLines where
  | all
  | filled
  | none
  | matching (regex : Regex)

inductive PagePart where
  | head
  | body
  | foot
  deriving DecidableEq

inductive NumberPlace where
  | left
  | right
  | zeros

structure LineNumbers where
  head : NumberedLines
  body : NumberedLines
  foot : NumberedLines
  place : NumberPlace
  width : Nat
  separator : String
  first : Int
  step : Int
  joined : Nat
  continues : Bool
  mark : List Char
  problems : List String

namespace LineNumbers

def initial : LineNumbers :=
  ⟨.none, .filled, .none, .right, 6, "\t", 1, 1, 1, false, ['\\', ':'], []⟩

def linesOf? (value : String) : Except String (Option NumberedLines) :=
  match value.toList with
  | 'a' :: _ => .ok (some .all)
  | 't' :: _ => .ok (some .filled)
  | 'n' :: _ => .ok (some .none)
  | 'p' :: pattern => (Regex.ofText false pattern).map fun regex => some (.matching regex)
  | _ => .ok none

def set (numbers : LineNumbers) (option : Char × String) : Except String LineNumbers := do
  let (letter, value) := option
  let styled (part : String) (change : NumberedLines → LineNumbers) :
      Except String LineNumbers := do
    match ← linesOf? value with
    | some lines => return change lines
    | none =>
        let problem := s!"invalid {part} numbering style: {quoted value}"
        return { numbers with problems := numbers.problems ++ [problem] }
  let bounded (least most : Int) (words : String) : Except String Int :=
    Amount.between least most "" s!"invalid {words}" value
  match letter with
  | 'h' => styled "header" fun head => { numbers with head }
  | 'b' => styled "body" fun body => { numbers with body }
  | 'f' => styled "footer" fun foot => { numbers with foot }
  | 'v' =>
      return { numbers with
        first := ← bounded (-Amount.largest - 1) Amount.largest "starting line number" }
  | 'i' =>
      return { numbers with
        step := ← bounded (-Amount.largest - 1) Amount.largest "line number increment" }
  | 'l' =>
      return { numbers with
        joined := (← bounded 1 Amount.largest "line number of blank lines").toNat }
  | 'w' =>
      return { numbers with
        width := (← bounded 1 2147483647 "line number field width").toNat }
  | 'p' => return { numbers with continues := true }
  | 's' => return { numbers with separator := value }
  | 'd' =>
      let mark := Text.byteChars value.toList
      return { numbers with mark := if mark.length = 1 then mark ++ [':'] else mark }
  | _ =>
      match value with
      | "ln" => return { numbers with place := .left }
      | "rn" => return { numbers with place := .right }
      | "rz" => return { numbers with place := .zeros }
      | _ =>
          let problem := s!"invalid line numbering format: {quoted value}"
          return { numbers with problems := numbers.problems ++ [problem] }

def linesIn (numbers : LineNumbers) : PagePart → NumberedLines
  | .head => numbers.head
  | .body => numbers.body
  | .foot => numbers.foot

def part? (numbers : LineNumbers) (line : List Char) : Option PagePart :=
  let mark := numbers.mark
  if mark.length < 2 then none
  else if line = mark ++ mark ++ mark then some .head
  else if line = mark ++ mark then some .body
  else if line = mark then some .foot
  else none

def text (numbers : LineNumbers) (number : Int) : String :=
  let digits := toString number
  let missing := numbers.width - digits.length
  match numbers.place with
  | .left => digits ++ String.ofList (List.replicate missing ' ')
  | .right => String.ofList (List.replicate missing ' ') ++ digits
  | .zeros =>
      let sign := if number < 0 then "-" else ""
      sign ++ String.ofList (List.replicate missing '0') ++ toString number.natAbs

def gap (numbers : LineNumbers) : String :=
  String.ofList (List.replicate (numbers.width + Text.rawLength numbers.separator.toList) ' ')

structure Progress where
  part : PagePart
  number : Int
  empty : Nat

def write (numbers : LineNumbers) (progress : Progress) (line : Bytes) : Bytes × Progress :=
  let chars := charsOf line
  match numbers.part? chars with
  | some part =>
      let number := if numbers.continues then progress.number else numbers.first
      ([10], { progress with part, number })
  | none =>
      let counted : Bytes × Progress :=
        (Text.rawBytes (numbers.text progress.number ++ numbers.separator).toList ++ line ++ [10],
          { progress with number := progress.number + numbers.step })
      let plain : Bytes := Text.rawBytes numbers.gap.toList ++ line ++ [10]
      match numbers.linesIn progress.part with
      | .none => (plain, progress)
      | .filled => if line.isEmpty then (plain, progress) else counted
      | .matching regex => if (regex.find? chars).isSome then counted else (plain, progress)
      | .all =>
          if numbers.joined ≤ 1 then counted
          else if !line.isEmpty || progress.empty + 1 = numbers.joined then
            (counted.1, { counted.2 with empty := 0 })
          else (plain, { progress with empty := progress.empty + 1 })

def writeAll (numbers : LineNumbers) (progress : Progress) (lines : List Bytes) :
    Bytes × Progress :=
  lines.foldl (fun (shown, progress) line =>
    let (bytes, progress) := numbers.write progress line
    (shown ++ bytes, progress)) ([], progress)

end LineNumbers

def numberLines : Utility :=
  taking ⟨"p", "hbfvilsdnw", [("header-numbering", 'h'), ("body-numbering", 'b'),
      ("footer-numbering", 'f'), ("starting-line-number", 'v'), ("line-increment", 'i'),
      ("no-renumber", 'p'), ("join-blank-lines", 'l'), ("number-separator", 's'),
      ("number-width", 'w'), ("number-format", 'n'), ("section-delimiter", 'd')]⟩ 1 fun given => do
    match given.options.foldlM LineNumbers.set LineNumbers.initial with
    | .error problem =>
        say problem
        return 1
    | .ok numbers =>
        for problem in numbers.problems do say problem
        if !numbers.problems.isEmpty then
          modify fun state => state.emitError s!"Try '{state.name} --help' for more information.\n"
          return 1
        else
          let operands := if given.operands.isEmpty then ["-"] else given.operands
          let step (before : Bool × LineNumbers.Progress) (operand : String) :
              StateM State (Bool × LineNumbers.Progress) := do
            match ← readOperand operand with
            | .error problem =>
                say s!"{spelled operand}: {problem}"
                return (false, before.2)
            | .ok bytes =>
                let (shown, progress) := numbers.writeAll before.2 (linesOf bytes)
                emitBytes shown
                return (before.1, progress)
          let (done, _) ← operands.foldlM step (true, ⟨.body, numbers.first, 0⟩)
          return if done then 0 else 1

end PackageClosure.Shell.Utility
