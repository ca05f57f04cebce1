import PackageClosure.Shell.Format
import PackageClosure.Shell.Utility.Amount

set_option autoImplicit false

namespace PackageClosure.Shell.Utility

inductive DumpKind where
  | named
  | characters
  | signed
  | unsigned
  | octal
  | hexadecimal
  | fraction
  deriving DecidableEq

structure DumpRow where
  kind : DumpKind
  size : Nat
  trailer : Bool

namespace Dump

def names : List String :=
  ["nul", "soh", "stx", "etx", "eot", "enq", "ack", "bel", "bs", "ht", "nl", "vt", "ff", "cr",
    "so", "si", "dle", "dc1", "dc2", "dc3", "dc4", "nak", "syn", "etb", "can", "em", "sub", "esc",
    "fs", "gs", "rs", "us", "sp"]

def nameOf (byte : Nat) : String :=
  let low := byte % 128
  if low = 127 then "del" else (names[low]?).getD (Char.ofNat low).toString

def padded (width : Nat) (digits : List Char) : String :=
  String.ofList (List.replicate (width - digits.length) '0' ++ digits)

def characterOf (byte : Nat) : String :=
  match byte with
  | 0 => "\\0"
  | 7 => "\\a"
  | 8 => "\\b"
  | 9 => "\\t"
  | 10 => "\\n"
  | 11 => "\\v"
  | 12 => "\\f"
  | 13 => "\\r"
  | _ =>
      if 32 ≤ byte && byte < 127 then (Char.ofNat byte).toString
      else padded 3 (Nat.toDigits 8 byte)

def mostDigits (base size : Nat) : Nat := (Nat.toDigits base (Nat.pow 256 size - 1)).length

structure FractionForm where
  exponentBits : Nat
  mantissaBits : Nat
  explicit : Bool
  least : Nat
  most : Nat

def FractionForm.ofSize (size : Nat) : FractionForm :=
  if size = 4 then ⟨8, 23, false, 6, 9⟩
  else if size = 8 then ⟨11, 52, false, 15, 17⟩
  else ⟨15, 64, true, 18, 21⟩

def FractionForm.precision (form : FractionForm) : Precision :=
  let top : Int := Nat.pow 2 (form.exponentBits - 1)
  let bits := if form.explicit then form.mantissaBits else form.mantissaBits + 1
  ⟨bits, top, 3 - top - bits⟩

def FractionForm.quantity (form : FractionForm) (word : Nat) : Quantity × Bool :=
  let span := Nat.pow 2 form.mantissaBits
  let highest := Nat.pow 2 (form.exponentBits) - 1
  let mantissa := word % span
  let exponent := word / span % (highest + 1)
  let negative := word / span / (highest + 1) % 2 = 1
  let fraction := if form.explicit then mantissa % (span / 2) else mantissa
  let leading := if form.explicit then span / 2 else span
  if exponent = highest then
    if fraction = 0 && (!form.explicit || leading ≤ mantissa) then (.infinite negative, false)
    else (.undefined negative, false)
  else if exponent = 0 then (.finite negative mantissa form.precision.unit, mantissa < leading)
  else if form.explicit && mantissa < leading then (.undefined negative, false)
  else (.finite negative (fraction + leading) (exponent - 1 + form.precision.unit), false)

def FractionForm.text (form : FractionForm) (word : Nat) : String :=
  let (quantity, small) := form.quantity word
  let write (digits : Nat) : List Char :=
    Numeral.write form.precision.bits [] 0 (some digits) 'g' quantity
  let first := if small then 1 else form.least
  let comesBack (digits : Nat) : Bool :=
    ((Quantity.ofText? form.precision (write digits)).bind fun found =>
      found.1.compare? quantity) = some .eq
  let lengths := (List.range (form.most - first)).map (· + first)
  String.ofList (write ((lengths.find? comesBack).getD form.most))

def widthOf (row : DumpRow) : Nat :=
  match row.kind with
  | .named | .characters => 3
  | .signed => mostDigits 10 row.size + (if row.size = 8 then 0 else 1)
  | .unsigned => mostDigits 10 row.size
  | .octal => mostDigits 8 row.size
  | .hexadecimal => 2 * row.size
  | .fraction =>
      let form := FractionForm.ofSize row.size
      form.most + (if row.size = 4 then 6 else if row.size = 8 then 7 else 8)

def textOf (row : DumpRow) (bytes : Bytes) : String :=
  let word := bytes.foldr (fun byte sum => byte.toNat + 256 * sum) 0
  match row.kind with
  | .named => nameOf word
  | .characters => characterOf word
  | .signed =>
      let span := Nat.pow 256 row.size
      if 2 * word < span then toString word else s!"-{span - word}"
  | .unsigned => toString word
  | .octal => padded (widthOf row) (Nat.toDigits 8 word)
  | .hexadecimal => padded (widthOf row) (Nat.toDigits 16 word)
  | .fraction => (FractionForm.ofSize row.size).text word

structure DumpShape where
  bytes : Nat
  width : Nat
  reversed : Bool

def shaped (rows : List DumpRow) (bytes : Nat) (reversed : Bool) : DumpShape :=
  let widths := rows.map fun row => (widthOf row + 1) * (bytes / row.size)
  ⟨bytes, widths.foldl max 0, reversed⟩

def groups (size : Nat) : Nat → Bytes → List Bytes
  | 0, _ => []
  | count + 1, bytes => bytes.take size :: groups size count (bytes.drop size)

def spaces (count : Nat) : String := String.ofList (List.replicate count ' ')

-- The fields of a row for some bytes. What is left over of the width is spread over them.
def rowText (shape : DumpShape) (row : DumpRow) (bytes : Bytes) : String :=
  let fields := shape.bytes / row.size
  let blank := (shape.bytes - bytes.length) / row.size
  let width := widthOf row
  let spare := shape.width - width * fields
  let shown := fields - blank
  let whole := bytes ++ List.replicate (shown * row.size - bytes.length) 0
  let parts := (groups row.size shown whole).zipIdx.map fun (group, index) =>
    let left := fields - index
    let space := spare * left / fields - spare * (left - 1) / fields
    let text := textOf row (if shape.reversed then group.reverse else group)
    spaces (width + space - text.length) ++ text
  let trailer := if !row.trailer then ""
    else
      let letters := bytes.map fun byte =>
        if isPrintable byte then Char.ofNat byte.toNat else '.'
      spaces (blank * width + spare * blank / fields) ++ "  >" ++ String.ofList letters ++ "<"
  "".intercalate parts ++ trailer ++ "\n"

inductive AddressForm where
  | none
  | number (base width : Nat)

def AddressForm.ofLetter? (letter : Char) : Option AddressForm :=
  match letter with
  | 'd' => some (.number 10 7)
  | 'o' => some (.number 8 7)
  | 'x' => some (.number 16 6)
  | 'n' => some .none
  | _ => Option.none

def AddressForm.text (form : AddressForm) (address : Nat) : String :=
  match form with
  | .none => ""
  | .number base width => padded width (Nat.toDigits base address)

def AddressForm.blank (form : AddressForm) : String :=
  match form with
  | .none => ""
  | .number _ width => spaces width

def blockText (form : AddressForm) (shape : DumpShape) (rows : List DumpRow) (address : Nat)
    (bytes : Bytes) : String :=
  "".intercalate <| rows.zipIdx.map fun (row, index) =>
    (if index = 0 then form.text address else form.blank) ++ rowText shape row bytes

-- All blocks. Of blocks that are all the same only the first is shown, and a mark for the rest.
def blocks (form : AddressForm) (shape : DumpShape) (rows : List DumpRow) (abbreviates : Bool) :
    Nat → Nat → Option Bytes → Bool → Bytes → String
  | 0, _, _, _, _ => ""
  | fuel + 1, address, previous, marked, bytes =>
      let block := bytes.take shape.bytes
      let rest := bytes.drop shape.bytes
      if block.isEmpty then
        match form with
        | .none => ""
        | form => form.text address ++ "\n"
      else
        let next := address + block.length
        let more := fun (marked : Bool) =>
          blocks form shape rows abbreviates fuel next (some block) marked rest
        if abbreviates && block.length = shape.bytes && previous = some block then
          (if marked then "" else "*\n") ++ more true
        else blockText form shape rows address block ++ more false

def stringsIn (least limit : Nat) (limited : Bool) :
    Nat → Nat → Bytes → List (Nat × Bytes)
  | 0, _, _ => []
  | fuel + 1, address, bytes =>
      if limited && limit ≤ least + address then []
      else
        let head := bytes.take least
        if !head.all isPrintable then
          let passed := (head.takeWhile isPrintable).length + 1
          stringsIn least limit limited fuel (address + passed) (bytes.drop passed)
        else if head.length < least then []
        else
          let run := bytes.takeWhile isPrintable
          let run := if limited then run.take (limit - address) else run
          let ended := limited && address + run.length = limit
          match bytes.drop run.length with
          | [] => if ended then [(address - 1, run)] else []
          | byte :: rest =>
              if ended then [(address - 1, run)]
              else
                let next := address + run.length + 1
                let more := stringsIn least limit limited fuel next rest
                if byte = 0 then (address, run) :: more else more

def sizeOf? (fraction : Bool) (text : List Char) : Option (Nat × List Char) :=
  let letters := if fraction then [('F', 4), ('D', 8), ('L', 16)]
    else [('C', 1), ('S', 2), ('I', 4), ('L', 8)]
  match text with
  | [] => none
  | letter :: rest =>
      match letters.lookup letter with
      | some size => some (size, rest)
      | none =>
          let digits := text.takeWhile Char.isDigit
          if digits.isEmpty then none
          else some (Nat.ofDigitChars 10 digits 0, text.drop digits.length)

def rowsOf (whole : String) : Nat → List Char → Except String (List DumpRow)
  | 0, _ => .ok []
  | fuel + 1, text =>
      match text with
      | [] => .ok []
      | letter :: rest => do
          let kind? : Option DumpKind := match letter with
            | 'a' => some .named
            | 'c' => some .characters
            | 'd' => some .signed
            | 'u' => some .unsigned
            | 'o' => some .octal
            | 'x' => some .hexadecimal
            | 'f' => some .fraction
            | _ => none
          match kind? with
          | none => throw s!"invalid character '{letter}' in type string {quoted whole}"
          | some kind =>
              let single := kind = .named || kind = .characters
              let fraction := kind = .fraction
              let (size, rest) :=
                if single then (1, rest)
                else (sizeOf? fraction rest).getD (if fraction then 8 else 4, rest)
              let known := if fraction then [4, 8, 16] else [1, 2, 4, 8]
              if !single && !known.contains size then
                let sort := if fraction then "floating point" else "integral"
                throw <| s!"invalid type string {quoted whole};\n" ++
                  s!"this system doesn't provide a {size}-byte {sort} type"
              else
                let trailer := rest.head? = some 'z'
                let rest := if trailer then rest.drop 1 else rest
                return ⟨kind, size, trailer⟩ :: (← rowsOf whole fuel rest)

def rowsOfText (text : String) : Except String (List DumpRow) := rowsOf text text.length text.toList

def rowTextOf? (letter : Char) : Option String :=
  [('a', "a"), ('b', "o1"), ('c', "c"), ('D', "u4"), ('d', "u2"), ('F', "fD"), ('e', "fD"),
    ('f', "fF"), ('H', "x4"), ('X', "x4"), ('i', "dI"), ('I', "dL"), ('L', "dL"), ('l', "dL"),
    ('O', "o4"), ('B', "o2"), ('o', "o2"), ('s', "d2"), ('h', "x2"), ('x', "x2")].lookup letter

def plainLetters : String := "abcDdeFfHhIiLlOosXxvB"

def switches : Switches :=
  ⟨plainLetters ++ "W\x01\x02", "AjNtSwE", [("address-radix", 'A'), ("skip-bytes", 'j'),
    ("read-bytes", 'N'), ("format", 't'), ("strings", 'S'), ("output-duplicates", 'v'),
    ("width", 'w'), ("endian", 'E'), ("traditional", '\x02')]⟩

def withoutValues (arguments : List String) : List String :=
  arguments.map fun argument =>
    if argument = "--width" then "-W"
    else if argument = "--strings" then "-\x01"
    else
      match argument.toList with
      | '-' :: cluster =>
          let before := cluster.takeWhile plainLetters.toList.contains
          match cluster.drop before.length with
          | ['w'] => String.ofList ('-' :: before ++ ['W'])
          | _ => argument
      | _ => argument

structure DumpPlan where
  rows : List DumpRow
  address : AddressForm
  skipped : Nat
  limit : Option Nat
  width : Option Nat
  strings : Option Nat
  abbreviates : Bool
  reversed : Bool
  modern : Bool
  problems : List String

def DumpPlan.set (plan : DumpPlan) (option : Char × String) : Except String DumpPlan := do
  let (letter, value) := option
  let amount : Except String Nat :=
    match Amount.read true "bEGKkMmPQRTYZ0" value.toList with
    | .ok count =>
        if count < 0 then .error s!"invalid -{letter} argument {quoted value}" else .ok count.toNat
    | .error .malformed => .error s!"invalid -{letter} argument {quoted value}"
    | .error .stray => .error s!"invalid suffix in -{letter} argument {quoted value}"
    | .error .tooLarge => .error s!"-{letter} argument {quoted value} too large"
  let modern := { plan with modern := true }
  let rowsAdded (plan : DumpPlan) (text : String) : DumpPlan :=
    match rowsOfText text with
    | .ok rows => { plan with rows := plan.rows ++ rows }
    | .error problem => { plan with problems := plan.problems ++ [problem] }
  match letter with
  | 'A' =>
      match value.toList.head?.bind AddressForm.ofLetter? with
      | some address => return { modern with address }
      | none =>
          let shown := (value.toList.head?).getD ' '
          throw <| s!"invalid output address radix '{shown}'; " ++
            "it must be one character from [doxn]"
  | 'j' => return { modern with skipped := ← amount }
  | 'N' => return { modern with limit := some (← amount) }
  | 'w' => return { modern with width := some (← amount) }
  | 'W' => return { modern with width := some 32 }
  | 'S' => return { modern with strings := some (← amount) }
  | '\x01' => return { modern with strings := some 3 }
  | 'v' => return { modern with abbreviates := false }
  | 'E' =>
      if ["little", "big"].any fun order => !value.isEmpty && order.startsWith value then
        return { plan with reversed := value.startsWith "b" }
      else
        throw <| s!"invalid argument {quoted value} for '--endian'\nValid arguments are:\n" ++
          "  - 'little'\n  - 'big'"
  | 't' => return rowsAdded modern value
  | _ => return (rowTextOf? letter).elim plan (rowsAdded plan)

def place? (text : String) : Option Nat :=
  let digits := if text.startsWith "+" then text.toList.drop 1 else text.toList
  let unit (rest : List Char) : Option Nat := match rest with
    | [] => some 1
    | ['b'] => some 512
    | ['B'] => some 1024
    | _ => none
  let hexadecimal := match digits with
    | '0' :: 'x' :: rest | '0' :: 'X' :: rest => rest.all Quantity.isHexadecimal && !rest.isEmpty
    | _ => false
  if digits.contains '.' then none
  else if hexadecimal then
    (Amount.digits true digits).map Prod.fst
  else
    let octal := digits.takeWhile Format.isOctal
    if octal.isEmpty then none
    else (unit (digits.drop octal.length)).map (Nat.ofDigitChars 8 octal 0 * ·)

def placed (plan : DumpPlan) (old : Bool) (operands : List String) : List String × Nat :=
  let begins (text : String) (digit : Bool) : Bool :=
    old || text.startsWith "+" || (digit && text.toList.head?.any Char.isDigit)
  if plan.modern && !old then (operands, plan.skipped)
  else
    match operands with
    | [only] =>
        match if begins only false then place? only else none with
        | some place => ([], place)
        | none => (operands, plan.skipped)
    | [file, text] =>
        match if begins text true then place? text else none with
        | some place => ([file], place)
        | none => (operands, plan.skipped)
    | _ => (operands, plan.skipped)

def DumpPlan.write (plan : DumpPlan) (bytes : Bytes) : StateM State Bool := do
  if bytes.length < plan.skipped then
    say "cannot skip past end of combined input"
    return false
  else
    let bytes := bytes.drop plan.skipped
    match plan.strings with
    | some least =>
        let limit := plan.skipped + plan.limit.getD 0
        let found := stringsIn least limit plan.limit.isSome (bytes.length + 1) plan.skipped bytes
        for (address, text) in found do
          let place := plan.address.text address
          emitText (if place.isEmpty then "" else place ++ " ")
          emitBytes (text ++ [10])
        return true
    | none =>
        let bytes := plan.limit.elim bytes bytes.take
        let rows := if plan.rows.isEmpty then [⟨.octal, 2, false⟩] else plan.rows
        let unit := rows.foldl (fun unit row => Nat.lcm unit row.size) 1
        let usual := if unit < 16 then unit * (16 / unit) else unit
        let width := plan.width.getD usual
        let fits := width ≠ 0 && width % unit = 0
        if !fits then say s!"warning: invalid width {width}; using {unit} instead"
        let shape := shaped rows (if fits then width else unit) plan.reversed
        emitText
          (blocks plan.address shape rows plan.abbreviates (bytes.length + 1) plan.skipped none
            false bytes)
        return true

end Dump

def dumpBytes : Utility := fun arguments =>
  taking Dump.switches 1 (fun given => do
    let start : Dump.DumpPlan :=
      ⟨[], .number 8 7, 0, none, none, none, true, false, false, []⟩
    match given.options.foldlM Dump.DumpPlan.set start with
    | .error problem =>
        say problem
        return 1
    | .ok plan =>
        for problem in plan.problems do say problem
        if !plan.problems.isEmpty then return 1
        else
          let (operands, skipped) := Dump.placed plan (given.has '\x02') given.operands
          let files ← (if operands.isEmpty then ["-"] else operands).mapM fun operand => do
            match ← readOperand operand with
            | .ok bytes => pure (some bytes, true)
            | .error problem =>
                say s!"{spelled operand}: {problem}"
                let opened := problem = SystemError.text .isDirectory
                pure (if opened then some [] else none, false)
          if files.all (·.1.isNone) then return 1
          else
            let bytes := (files.filterMap Prod.fst).flatten
            let shown ← Dump.DumpPlan.write { plan with skipped } bytes
            return if shown && files.all Prod.snd then 0 else 1)
    (Dump.withoutValues arguments)

end PackageClosure.Shell.Utility
