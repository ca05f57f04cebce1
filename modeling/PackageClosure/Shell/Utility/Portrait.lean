import PackageClosure.Shell.Utility.Attributes

set_option autoImplicit false

namespace PackageClosure.Shell.Utility

structure Fitting where
  flags : List Char
  width : Nat
  precision : Option Nat

def Fitting.take (text : List Char) : Fitting × List Char :=
  let (flags, rest) := text.span "-0+ #'I".toList.contains
  let (digits, rest) := rest.span Char.isDigit
  let width := Nat.ofDigitChars 10 digits 0
  match rest with
  | '.' :: after =>
      let (digits, after) := after.span Char.isDigit
      (⟨flags, width, some (Nat.ofDigitChars 10 digits 0)⟩, after)
  | _ => (⟨flags, width, none⟩, rest)

namespace Fitting

def text (fitting : Fitting) (text : String) : String :=
  let kept := match fitting.precision with
    | some most => (text.take most).toString
    | none => text
  let blanks := String.ofList (List.replicate (fitting.width - kept.length) ' ')
  if fitting.flags.contains '-' then kept ++ blanks else blanks ++ kept

def number (fitting : Fitting) (digits : String) : String :=
  let least := match fitting.precision with
    | some least => least
    | none =>
        if fitting.flags.contains '0' && !fitting.flags.contains '-' then fitting.width else 0
  let digits := String.ofList (List.replicate (least - digits.length) '0') ++ digits
  { fitting with precision := none }.text digits

end Fitting

def kindName : Disk.Node → String
  | .file file => if file.bytes.isEmpty then "regular empty file" else "regular file"
  | .directory _ => "directory"
  | .link _ => "symbolic link"
  | .device _ => "character special file"

def kindBits : Disk.Node → Nat
  | .file _ => 0o100000
  | .directory _ => 0o040000
  | .link _ => 0o120000
  | .device _ => 0o020000

def hexadecimal (number : Nat) : String := String.ofList (Nat.toDigits 16 number)

def exactTime (time : Int) : String := (Moment.ofTime time).write "%Y-%m-%d %H:%M:%S.%N %z"

def diskDevice : Nat := 0xfe00

def secondsOf (fitting : Fitting) (dotted : Bool) (time : Int) : String :=
  let seconds := toString (Int.fdiv time Moment.billion)
  match dotted, fitting.precision with
  | true, some wanted =>
      let digits := (toString ((time % Moment.billion).toNat + 1000000000)).toList.drop 1
      let most := if wanted = 0 then 9 else wanted
      let part := digits.take most ++ List.replicate (most - 9) '0'
      { fitting with precision := none }.number (seconds ++ "." ++ String.ofList part)
  | _, _ => { fitting with precision := none }.number seconds

def nameWithTarget (write : String → String) (path : String) : Disk.Node → String
  | .link target => s!"{write path} -> {write target.text}"
  | _ => write path

def describedBy? (disk : Disk) (plainly : Bool) (path : String) (place : Place)
    (node : Disk.Node) (fitting : Fitting) (letter : Char) : Option String :=
  let number (value : Nat) : Option String := some (fitting.number (toString value))
  let time := changedAt disk place node
  let device := match node with
    | .device device => deviceNumbers device
    | _ => (0, 0)
  match letter with
  | 'n' => some (fitting.text path)
  | 'N' =>
      some (fitting.text (nameWithTarget (if plainly then spelled else quoted) path node))
  | 's' => number (sizeOfNode node)
  | 'F' => some (fitting.text (kindName node))
  | 'a' =>
      let digits := String.ofList (Nat.toDigits 8 node.mode)
      some (fitting.number (if fitting.flags.contains '#' then "0" ++ digits else digits))
  | 'A' => some (fitting.text (String.singleton
      (match node with
        | .file _ => '-'
        | node => kindLetter node) ++ Mode.letters node.mode))
  | 'h' => number (namesOf disk place node)
  | 'u' | 'g' => number 0
  | 'U' | 'G' => some (fitting.text "root")
  | 'b' => number (2 * blocksOf node)
  | 'B' => number 512
  | 'o' => number 4096
  | 'i' => number (numberOf disk place node)
  | 't' | 'T' =>
      let part := if letter = 't' then device.1 else device.2
      some (fitting.number (hexadecimal part))
  | 'f' => some (fitting.number (hexadecimal (kindBits node ||| node.mode)))
  | 'm' => some (fitting.text (if node.isDevice then "/dev" else "/"))
  | 'd' => number diskDevice
  | 'D' => some (fitting.number (hexadecimal diskDevice))
  | 'x' | 'y' | 'z' | 'w' => some (fitting.text (exactTime time))
  | 'X' | 'Y' | 'Z' | 'W' => some (secondsOf fitting true time)
  | _ => none

def describe (disk : Disk) (plainly escapes : Bool) (path : String) (place : Place)
    (node : Disk.Node) : Nat → List Char → Except String String
  | 0, _ | _, [] => .ok ""
  | fuel + 1, c :: rest => do
      let go := describe disk plainly escapes path place node fuel
      match c, rest with
      | '%', '%' :: rest => return "%" ++ (← go rest)
      | '%', [] => return "%"
      | '%', rest =>
          let (fitting, after) := Fitting.take rest
          match after with
          | [] => throw (String.ofList ('%' :: rest))
          | 'H' :: 'd' :: after =>
              return fitting.number (toString (diskDevice / 256)) ++ (← go after)
          | 'L' :: 'd' :: after =>
              return fitting.number (toString (diskDevice % 256)) ++ (← go after)
          | letter :: after =>
              let part := describedBy? disk plainly path place node fitting letter
              return part.getD "?" ++ (← go after)
      | '\\', next :: rest =>
          if !escapes then return "\\" ++ (← go (next :: rest))
          else
            let (digits, after) := (next :: rest).span fun c => '0' ≤ c && c ≤ '7'
            if digits.isEmpty then
              let meant := match next with
                | 'n' => "\n"
                | 't' => "\t"
                | 'a' => "\x07"
                | 'b' => "\x08"
                | 'e' => "\x1b"
                | 'f' => "\x0c"
                | 'r' => "\r"
                | 'v' => "\x0b"
                | other => String.singleton other
              return meant ++ (← go rest)
            else
              let byte := UInt8.ofNat (Nat.ofDigitChars 8 (digits.take 3) 0)
              return String.ofList (Text.rawText [byte]) ++ (← go (digits.drop 3 ++ after))
      | c, rest => return String.singleton c ++ (← go rest)

def fullFormat (node : Disk.Node) : String :=
  let numbers := if node.isDevice then
      "Device: %Hd,%Ld\tInode: %-10i  Links: %-5h Device type: %t,%T\n"
    else "Device: %Hd,%Ld\tInode: %-10i  Links: %h\n"
  "  File: %N\n  Size: %-10s\tBlocks: %-10b IO Block: %-6o %F\n" ++ numbers ++
    "Access: (%04a/%10.10A)  Uid: (%5u/%8U)   Gid: (%5g/%8G)\n" ++
    "Access: %x\nModify: %y\nChange: %z\n Birth: %w\n"

def terseFormat : String := "%n %s %b %f %u %g %D %i %h %t %T %X %Y %Z %W %o\n"

def tellAttributes : Utility :=
  taking ⟨"Lt", "cP", [("dereference", 'L'), ("terse", 't'), ("format", 'c'), ("printf", 'P')]⟩ 1
    fun given => do
      if given.operands.isEmpty then misuse 1 "missing operand"
      else
        let chosen := (given.options.filter fun option => "cP".toList.contains option.1).getLast?
        forEach given.operands fun operand => do
          let state ← get
          let describeNode (path : String) (place : Place) (node : Disk.Node) :
              StateM State Bool := do
            let (format, escapes, plainly) := match chosen with
              | some ('P', format) => (format, true, false)
              | some (_, format) => (format ++ "\n", false, false)
              | none =>
                  (if given.has 't' then terseFormat else fullFormat node, false, true)
            match describe state.disk plainly escapes path place node (format.length + 1)
                format.toList with
            | .ok text =>
                emitText text
                return true
            | .error directive =>
                say s!"{quoted directive.trimAsciiEnd.toString}: invalid directive"
                return false
          if operand = "-" then
            match state.inputStream?.bind fun input => input.2.source with
            | some held =>
                let place := state.disk.whereIs held
                describeNode operand place ((state.disk.node? place).getD (.device .null))
            | none => describeNode operand [] (.device .null)
          else
            match state.disk.find state.current (given.has 'L') ⟨operand⟩ with
            | .ok ⟨place, some node⟩ => describeNode operand place node
            | .ok ⟨_, none⟩ =>
                settle (.error (.system .notFound)) s!"cannot statx {quoted operand}"
            | .error error => settle (.error error) s!"cannot statx {quoted operand}"

end PackageClosure.Shell.Utility
