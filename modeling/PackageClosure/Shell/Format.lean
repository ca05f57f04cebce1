import PackageClosure.Shell.Arithmetic
import PackageClosure.Shell.Numeral
import PackageClosure.Shell.Utility.Basic

set_option autoImplicit false

namespace PackageClosure.Shell

namespace Format

def isOctal (c : Char) : Bool := '0' ≤ c && c ≤ '7'

def octal : Nat → Nat → List Char → Nat × List Char
  | 0, number, rest => (number, rest)
  | digits + 1, number, c :: rest =>
      if isOctal c then octal digits (number * 8 + (c.toNat - '0'.toNat)) rest
      else (number, c :: rest)
  | _ + 1, number, [] => (number, [])

def control? : Char → Option UInt8
  | 'a' => some 7
  | 'b' => some 8
  | 't' => some 9
  | 'n' => some 10
  | 'v' => some 11
  | 'f' => some 12
  | 'r' => some 13
  | 'e' => some 27
  | '\\' => some 92
  | _ => none

structure Escaped where
  bytes : Bytes
  stops : Bool

def unescape : Nat → List Char → Escaped
  | 0, _ => ⟨[], false⟩
  | fuel + 1, text =>
      let after (bytes : Bytes) (rest : List Char) : Escaped :=
        let more := unescape fuel rest
        ⟨bytes ++ more.bytes, more.stops⟩
      match text with
      | [] => ⟨[], false⟩
      | '\\' :: 'c' :: _ => ⟨[], true⟩
      | '\\' :: '0' :: rest =>
          let (number, rest) := octal 3 0 rest
          after [UInt8.ofNat number] rest
      | '\\' :: c :: rest =>
          if isOctal c then
            let (number, rest) := octal 3 0 (c :: rest)
            after [UInt8.ofNat number] rest
          else
            match control? c with
            | some byte => after [byte] rest
            | none => after (Text.rawBytes ['\\', c]) rest
      | c :: rest => after (Text.rawBytes [c]) rest

def echo (arguments : List String) : Bytes :=
  let (arguments, ending) : List String × Bytes := match arguments with
    | "-n" :: rest => (rest, [])
    | _ => (arguments, [10])
  let text := (" ".intercalate arguments).toList
  let escaped := unescape (text.length + 1) text
  escaped.bytes ++ if escaped.stops then [] else ending

inductive Measure where
  | fixed (number : Nat)
  | taken

inductive Item where
  | literal (bytes : Bytes)
  | directive (flags : List Char) (width : Option Measure) (precision : Option Measure)
      (conversion : Char)
  | wrong (problem : String)

structure Dialect where
  precision : Precision
  separate : Bool

def Dialect.shell : Dialect := ⟨.double, false⟩

def Dialect.program : Dialect := ⟨.extended, true⟩

def Dialect.unfinished (dialect : Dialect) (argument : String) : String :=
  if dialect.separate then s!"{Utility.quoted argument}: value not completely converted"
  else s!"{argument}: not completely converted"

def Dialect.unexpected (dialect : Dialect) (argument : String) : String :=
  if dialect.separate then s!"{Utility.quoted argument}: expected a numeric value"
  else s!"{argument}: expected numeric value"

def Dialect.outOfRange (dialect : Dialect) (argument : String) : String :=
  if dialect.separate then s!"{Utility.quoted argument}: Numerical result out of range"
  else s!"{argument}: Numerical result out of range"

def measure? (text : List Char) : Option Measure × List Char :=
  match text with
  | '*' :: rest => (some .taken, rest)
  | _ =>
      let (digits, rest) := text.span Char.isDigit
      (if digits.isEmpty then none else some (.fixed (Nat.ofDigitChars 10 digits 0)), rest)

def Dialect.conversions (dialect : Dialect) : List Char :=
  "sbcdiuoxXeEfFgGaA".toList ++ if dialect.separate then ['q'] else []

def directive (dialect : Dialect) (text : List Char) : Item × List Char :=
  let (flags, rest) := text.span fun c => "-0+ #".toList.contains c
  let (width, rest) := measure? rest
  let (precision, rest) := match rest with
    | '.' :: rest =>
        let (precision, rest) := measure? rest
        (some (precision.getD (.fixed 0)), rest)
    | _ => (none, rest)
  match rest with
  | [] => (.wrong "missing format character", [])
  | conversion :: after =>
      if dialect.conversions.contains conversion then
        (.directive flags width precision conversion, after)
      else
        let spelled := String.ofList (text.take (text.length - after.length))
        let problem := if dialect.separate then "conversion specification" else "directive"
        (.wrong s!"%{spelled}: invalid {problem}", [])

def items (dialect : Dialect) : Nat → List Char → List Item
  | 0, _ => []
  | fuel + 1, text =>
      match text with
      | [] => []
      | '%' :: '%' :: rest => .literal [37] :: items dialect fuel rest
      | '%' :: rest =>
          let (item, rest) := directive dialect rest
          item :: items dialect fuel rest
      | '\\' :: c :: rest =>
          if isOctal c then
            let (number, rest) := octal 3 0 (c :: rest)
            .literal [UInt8.ofNat number] :: items dialect fuel rest
          else
            match control? c with
            | some byte => .literal [byte] :: items dialect fuel rest
            | none => .literal (Text.rawBytes ['\\', c]) :: items dialect fuel rest
      | c :: rest => .literal (Text.rawBytes [c]) :: items dialect fuel rest

structure Written where
  bytes : Bytes
  problems : List String
  stops : Bool
  broken : Bool
  arguments : List String

namespace Written

def add (written : Written) (bytes : Bytes) : Written :=
  { written with bytes := written.bytes ++ bytes }

def complain (written : Written) (problem : String) : Written :=
  { written with problems := written.problems ++ [problem] }

def take (written : Written) : String × Written :=
  (written.arguments.headD "", { written with arguments := written.arguments.drop 1 })

end Written

-- The number that an argument is read as, or as much of it as is one. After a quotation mark it
-- is the number of a byte. A number that does not fit is the last one that does.
def number (dialect : Dialect) (signed : Bool) (argument : String) (written : Written) :
    Int × Written :=
  match argument.toList with
  | [] => (0, written)
  | quote :: rest =>
      if quote = '"' || quote = '\'' then
        ((((Text.rawBytes rest).head?.getD 0).toNat : Int), written)
      else
        let text := argument.toList.dropWhile Arithmetic.isBlank
        let (negative, digits) := match text with
          | '-' :: rest => (true, rest)
          | '+' :: rest => (false, rest)
          | _ => (false, text)
        if !digits.head?.any Char.isDigit then
          (0, written.complain (dialect.unexpected argument))
        else
          let (value, rest) := Arithmetic.unlimited digits
          let least : Int := if signed then -9223372036854775808 else -18446744073709551615
          let most : Int := if signed then 9223372036854775807 else 18446744073709551615
          let value := if negative then -value else value
          if value < least || most < value then
            (if signed && negative then least else most,
              written.complain (dialect.outOfRange argument))
          else if rest.isEmpty then (value, written)
          else (value, written.complain (dialect.unfinished argument))

def isLost (precision : Precision) (text : List Char) : Quantity → Bool
  | .infinite _ => text.any Char.isDigit
  | .finite _ mantissa exponent =>
      let shortened := exponent = precision.unit && mantissa.log2 + 1 < precision.bits
      let digits := text.takeWhile fun c => c ≠ 'e' && c ≠ 'E'
      if mantissa = 0 then digits.any fun c => c.isDigit && c ≠ '0' else shortened
  | .undefined _ => false

def quantity (dialect : Dialect) (argument : String) (written : Written) : Quantity × Written :=
  match argument.toList with
  | [] => (.zero, written)
  | quote :: rest =>
      if quote = '"' || quote = '\'' then
        (.ofNat dialect.precision ((Text.rawBytes rest).head?.getD 0).toNat, written)
      else
        let text := argument.toList.dropWhile Arithmetic.isBlank
        match Quantity.ofText? dialect.precision text with
        | none => (.zero, written.complain (dialect.unexpected argument))
        | some (value, rest) =>
            if isLost dialect.precision text value then
              (value, written.complain (dialect.outOfRange argument))
            else if rest.isEmpty then (value, written)
            else (value, written.complain (dialect.unfinished argument))

def measureOf (dialect : Dialect) (measure : Option Measure) (written : Written) :
    Option Int × Written :=
  match measure with
  | none => (none, written)
  | some (.fixed number) => (some (number : Int), written)
  | some .taken =>
      let (argument, written) := written.take
      let (value, written) := number dialect true argument written
      (some value, written)

def digitsIn (base value : Nat) : List Char := Nat.toDigits base value

def numeral (flags : List Char) (width : Int) (precision : Option Nat) (sign digits : List Char) :
    Bytes :=
  let digits := match precision with
    | some 0 => if digits = ['0'] then [] else digits
    | _ => digits
  let digits := List.replicate (precision.getD 0 - digits.length) '0' ++ digits
  let left := flags.contains '-' || width < 0
  let missing := width.natAbs - (sign.length + digits.length)
  let text :=
    if left then sign ++ digits ++ List.replicate missing ' '
    else if flags.contains '0' && precision.isNone then sign ++ List.replicate missing '0' ++ digits
    else List.replicate missing ' ' ++ sign ++ digits
  Text.encodeUtf8 (String.ofList text)

def padded (flags : List Char) (width : Int) (bytes : Bytes) : Bytes :=
  let missing := List.replicate (width.natAbs - bytes.length) 32
  if flags.contains '-' || width < 0 then bytes ++ missing else missing ++ bytes

def convert (dialect : Dialect) (flags : List Char) (width precision : Option Measure)
    (conversion : Char) (written : Written) : Written :=
  let (width, written) := measureOf dialect width written
  let (precision, written) := measureOf dialect precision written
  let width := width.getD 0
  let precision := (precision.filter (0 ≤ ·)).map Int.toNat
  let (argument, written) := written.take
  let cut (bytes : Bytes) : Bytes :=
    match precision with
    | some limit => bytes.take limit
    | none => bytes
  let unsigned (base : Nat) (mark : List Char) (upper : Bool) : Written :=
    let (value, written) := number dialect false argument written
    let digits := digitsIn base (Arithmetic.bits value)
    let digits := if upper then digits.map Char.toUpper else digits
    let mark := if flags.contains '#' && value ≠ 0 then mark else []
    written.add (numeral flags width precision mark digits)
  match conversion with
  | 's' => written.add (padded flags width (cut (Text.rawBytes argument.toList)))
  | 'b' =>
      let escaped := unescape (argument.length + 1) argument.toList
      { written.add (padded flags width (cut escaped.bytes)) with stops := escaped.stops }
  | 'c' =>
      let byte := (Text.rawBytes argument.toList).head?.getD 0
      written.add (padded flags width [byte])
  | 'd' | 'i' =>
      let (value, written) := number dialect true argument written
      let sign :=
        if value < 0 then ['-']
        else if flags.contains '+' then ['+']
        else if flags.contains ' ' then [' ']
        else []
      written.add (numeral flags width precision sign (digitsIn 10 value.natAbs))
  | 'o' => unsigned 8 ['0'] false
  | 'x' => unsigned 16 ['0', 'x'] false
  | 'X' => unsigned 16 ['0', 'X'] true
  | 'u' => unsigned 10 [] false
  | 'q' => written.add (padded flags width (Text.rawBytes (Utility.spelled argument).toList))
  | conversion =>
      let (value, written) := quantity dialect argument written
      let text := Numeral.write dialect.precision.bits flags width precision conversion value
      written.add (Text.encodeUtf8 (String.ofList text))

-- One pass over the format. Places without an argument are filled with empty ones.
def pass (dialect : Dialect) : List Item → Written → Written
  | [], written => written
  | item :: rest, written =>
      if written.stops then written
      else
        match item with
        | .literal bytes => pass dialect rest (written.add bytes)
        | .directive flags width precision conversion =>
            pass dialect rest (convert dialect flags width precision conversion written)
        | .wrong problem => { written.complain problem with stops := true, broken := true }

def passes (dialect : Dialect) (items : List Item) : Nat → Written → Written
  | 0, written => written
  | fuel + 1, written =>
      let after := pass dialect items written
      if after.stops || after.arguments.isEmpty
          || after.arguments.length = written.arguments.length then after
      else passes dialect items fuel after

def printf (dialect : Dialect) (format : String) (arguments : List String) : Written :=
  passes dialect (items dialect (format.length + 1) format.toList) (arguments.length + 1)
    ⟨[], [], false, false, arguments⟩

end Format

end PackageClosure.Shell
