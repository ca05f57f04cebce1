import PackageClosure.Shell.Utility.Base64
import PackageClosure.Shell.Utility.WideDigest

set_option autoImplicit false

namespace PackageClosure.Shell.Utility

structure DigestKind where
  title : String
  size : Nat
  digest : Bytes → Bytes

namespace DigestKind

def md5 : DigestKind := ⟨"MD5", 16, Digest.md5⟩

def sha1 : DigestKind := ⟨"SHA1", 20, Digest.sha1⟩

def sha224 : DigestKind := ⟨"SHA224", 28, Digest.sha224⟩

def sha256 : DigestKind := ⟨"SHA256", 32, Digest.sha256⟩

def sha384 : DigestKind := ⟨"SHA384", 48, Digest.sha384⟩

def sha512 : DigestKind := ⟨"SHA512", 64, Digest.sha512⟩

def blake2b (size : Nat) : DigestKind :=
  ⟨if size = 64 then "BLAKE2b" else s!"BLAKE2b-{8 * size}", size, Digest.blake2b size⟩

end DigestKind

def inOneLine (name : String) : String × Bool :=
  let shown := ((name.replace "\\" "\\\\").replace "\n" "\\n").replace "\r" "\\r"
  (shown, shown ≠ name)

structure DigestStyle where
  tagged : Bool
  binary : Bool
  zero : Bool
  base64 : Bool

def DigestStyle.line (style : DigestStyle) (kind : DigestKind) (name : String) (bytes : Bytes) :
    String :=
  let number := kind.digest bytes
  let digits := if style.base64 then String.ofList (Base64.encode number)
    else Digest.hexDigits number
  let (shown, replaced) := if style.zero then (name, false) else inOneLine name
  let mark := if replaced then "\\" else ""
  let ending := if style.zero then "\x00" else "\n"
  if style.tagged then s!"{mark}{kind.title} ({shown}) = {digits}{ending}"
  else
    let manner := if style.binary then "*" else " "
    s!"{mark}{digits} {manner}{shown}{ending}"

def showAllDigests (kind : DigestKind) (style : DigestStyle) (operands : List String) :
    StateM State Nat :=
  forEach (if operands.isEmpty then ["-"] else operands) fun operand => do
    match ← readOperand operand with
    | .ok bytes =>
        emitText (style.line kind operand bytes)
        return true
    | .error problem =>
        say s!"{spelled operand}: {problem}"
        return false

def isHexadecimalDigit (c : Char) : Bool :=
  c.isDigit || ('a' ≤ c && c ≤ 'f') || ('A' ≤ c && c ≤ 'F')

-- The digits and the name in a line. The tag in front of them, if there is one, is that of a kind
-- that is looked for.
def checkedLine? (kinds : List DigestKind) (line : List Char) :
    Option (DigestKind × List Char × List Char) :=
  let escaped := line.head? = some '\\'
  let line := if escaped then line.drop 1 else line
  let unescaped (name : List Char) : List Char :=
    if escaped then
      (String.ofList name).replace "\\n" "\n" |>.replace "\\\\" "\\" |>.toList
    else name
  let tagged := kinds.findSome? fun kind => do
    let start := kind.title.toList ++ [' ', '(']
    if !start.isPrefixOf line then none
    else
      let rest := line.drop start.length
      let digits := (rest.reverse.takeWhile isHexadecimalDigit).reverse
      let before := rest.take (rest.length - digits.length)
      let ending := ") = ".toList
      let name := before.take (before.length - ending.length)
      if before.drop name.length = ending && digits.length = 2 * kind.size then
        some (kind, digits, unescaped name)
      else none
  tagged <|> do
    let (digits, rest) := line.span isHexadecimalDigit
    let kind ← kinds.find? fun kind => digits.length = 2 * kind.size
    match rest with
    | ' ' :: mark :: first :: name =>
        if mark = ' ' || mark = '*' then some (kind, digits, unescaped (first :: name)) else none
    | _ => none

structure CheckCounts where
  wrong : Nat
  unread : Nat
  malformed : Nat
  good : Nat
  missing : Nat

def plural (count : Nat) (one many : String) : String :=
  if count = 1 then s!"1 {one}" else s!"{count} {many}"

def checkFile (kinds : List DigestKind) (given : Given) (operand : String) :
    StateM State Bool := do
  let quiet := given.has 'q' || given.has 's'
  match ← readOperand operand with
  | .error problem =>
      say s!"{spelled operand}: {problem}"
      return false
  | .ok bytes =>
      let lines := (linesOf bytes).map Text.rawText
      let step (counts : CheckCounts) (entry : List Char × Nat) : StateM State CheckCounts := do
        let line := if entry.1.getLast? = some '\r' then entry.1.dropLast else entry.1
        match checkedLine? kinds line with
        | none =>
            if line.isEmpty || line.head? = some '#' then return counts
            else
              if given.has 'w' then
                let title := (kinds.head?.map DigestKind.title).getD ""
                say <| s!"{spelled operand}: {entry.2 + 1}: improperly formatted {title} " ++
                  "checksum line"
              return { counts with malformed := counts.malformed + 1 }
        | some (kind, digits, name) =>
            let name := String.ofList name
            let (shown, replaced) := inOneLine name
            let title := (if replaced then "\\" else "") ++ shown
            match ← readOperand name with
            | .error problem =>
                if given.has 'i' && problem = SystemError.text .notFound then
                  return { counts with missing := counts.missing + 1 }
                else
                  say s!"{spelled name}: {problem}"
                  if !given.has 's' then emitText s!"{title}: FAILED open or read\n"
                  return { counts with unread := counts.unread + 1 }
            | .ok bytes =>
                if (Digest.hexDigits (kind.digest bytes)).toList = digits.map Char.toLower then
                  if !quiet then emitText s!"{title}: OK\n"
                  return { counts with good := counts.good + 1 }
                else
                  if !given.has 's' then emitText s!"{title}: FAILED\n"
                  return { counts with wrong := counts.wrong + 1 }
      let counts ← lines.zipIdx.foldlM step ⟨0, 0, 0, 0, 0⟩
      if counts.wrong + counts.unread + counts.good + counts.missing = 0 then
        say s!"{spelled operand}: no properly formatted checksum lines found"
        return false
      else
        if !given.has 's' then
          if 0 < counts.malformed then
            let lines := plural counts.malformed "line is" "lines are"
            say s!"WARNING: {lines} improperly formatted"
          if 0 < counts.unread then
            let files := plural counts.unread "listed file" "listed files"
            say s!"WARNING: {files} could not be read"
          if 0 < counts.wrong then
            let sums := plural counts.wrong "computed checksum" "computed checksums"
            say s!"WARNING: {sums} did NOT match"
          if given.has 'i' && counts.good = 0 then
            say s!"{spelled operand}: no file was verified"
        return 0 < counts.good && counts.wrong = 0 && counts.unread = 0 &&
          !(given.has 'S' && 0 < counts.malformed)

def digestSwitches (plain valued : String) (long : List (String × Char)) : Switches :=
  ⟨"bctwzqsiST" ++ plain, valued, [("binary", 'b'), ("check", 'c'), ("text", 't'), ("warn", 'w'),
    ("zero", 'z'), ("quiet", 'q'), ("status", 's'), ("ignore-missing", 'i'), ("strict", 'S'),
    ("tag", 'T')] ++ long⟩

def withoutLetters (hidden : List Char) (arguments : List String) : Option Char :=
  arguments.findSome? fun argument =>
    match argument.toList with
    | '-' :: c :: rest => if c = '-' then none else (c :: rest).find? hidden.contains
    | _ => none

def strayOption (given : Given) : Option String :=
  let manner := (given.options.filter fun option => "bt".toList.contains option.1).getLast?
  let checking := given.has 'c'
  let onlyChecking := [("ignore-missing", 'i'), ("status", 's'), ("warn", 'w'), ("quiet", 'q'),
    ("strict", 'S')]
  if given.has 'T' && manner.any (·.1 = 't') then some "--tag does not support --text mode"
  else if checking && given.has 'z' then
    some "the --zero option is not supported when verifying checksums"
  else if checking && given.has 'T' then
    some "the --tag option is meaningless when verifying checksums"
  else if checking && manner.isSome then
    some "the --binary and --text options are meaningless when verifying checksums"
  else if checking then none
  else
    (onlyChecking.find? fun option => given.has option.2).map fun option =>
      s!"the --{option.1} option is meaningful only when verifying checksums"

def digestFiles (kind : DigestKind) (given : Given) : StateM State Nat := do
  match strayOption given with
  | some problem => misuse 1 problem
  | none =>
      if given.has 'c' then
        forEach (if given.operands.isEmpty then ["-"] else given.operands)
          (checkFile [kind] given)
      else
        let manner := (given.options.filter fun option => "bt".toList.contains option.1).getLast?
        let binary := manner.any (·.1 = 'b')
        showAllDigests kind ⟨given.has 'T', binary, given.has 'z', false⟩ given.operands

def showDigests (kind : DigestKind) : Utility := fun arguments =>
  match withoutLetters "qsiST".toList arguments with
  | some letter => misuse 1 s!"invalid option -- '{letter}'"
  | none => taking (digestSwitches "" "" []) 1 (digestFiles kind) arguments

def showMixedDigests : Utility := fun arguments =>
  match withoutLetters "qsiST".toList arguments with
  | some letter => misuse 1 s!"invalid option -- '{letter}'"
  | none =>
      taking (digestSwitches "" "l" [("length", 'l')]) 1 (fun given => do
        let bits := ((given.value? 'l').bind String.toNat?).getD 512
        let bits := if bits = 0 then 512 else bits
        if bits % 8 ≠ 0 || 512 < bits then
          let text := quoted ((given.value? 'l').getD "")
          say s!"invalid length: {text}"
          if bits % 8 ≠ 0 then say "length is not a multiple of 8"
          else say "maximum digest length for 'BLAKE2b' is 512 bits"
          return 1
        else digestFiles (DigestKind.blake2b (bits / 8)) given)
        arguments

def divided (state : UInt32) (byte : UInt8) : UInt32 :=
  (List.range 8).foldl (fun (state : UInt32) _ =>
    if state &&& 0x80000000 = 0 then state <<< 1 else (state <<< 1) ^^^ 0x04c11db7)
    (state ^^^ (UInt32.ofNat byte.toNat <<< 24))

def lengthBytes : Nat → Nat → Bytes
  | 0, _ => []
  | fuel + 1, number =>
      if number = 0 then [] else UInt8.ofNat number :: lengthBytes fuel (number / 256)

def cyclicSum (bytes : Bytes) : Nat :=
  (~~~((bytes ++ lengthBytes 8 bytes.length).foldl divided 0)).toNat

def turnedSum (bytes : Bytes) : Nat :=
  bytes.foldl (fun sum byte => (sum / 2 + sum % 2 * 0x8000 + byte.toNat) % 0x10000) 0

def foldedSum (bytes : Bytes) : Nat :=
  let sum := bytes.foldl (fun sum byte => sum + byte.toNat) 0 % Nat.pow 2 32
  let once := sum % 0x10000 + sum / 0x10000
  once % 0x10000 + once / 0x10000

def sumLine (algorithm : String) (name : Option String) (bytes : Bytes) : String :=
  let ending := (name.map (" " ++ ·)).getD "" ++ "\n"
  let right (width : Nat) (text : String) : String :=
    String.ofList (List.replicate (width - text.length) ' ') ++ text
  match algorithm with
  | "bsd" =>
      let digits := toString (turnedSum bytes)
      String.ofList (List.replicate (5 - digits.length) '0') ++ digits ++ " " ++
        right 5 (toString ((bytes.length + 1023) / 1024)) ++ ending
  | "sysv" => s!"{foldedSum bytes} {(bytes.length + 511) / 512}{ending}"
  | _ => s!"{cyclicSum bytes} {bytes.length}{ending}"

def showSumsOf (algorithm : String) (operands : List String) : StateM State Nat :=
  forEach (if operands.isEmpty then ["-"] else operands) fun operand => do
    match ← readOperand operand with
    | .ok bytes =>
        emitText (sumLine algorithm (if operands.isEmpty then none else some operand) bytes)
        return true
    | .error problem =>
        say s!"{spelled operand}: {problem}"
        return false

def showSums : Utility :=
  taking ⟨"rs", "", [("sysv", 's')]⟩ 1 fun given => do
    let last := given.options.getLast?
    showSumsOf (if last.any (·.1 = 's') then "sysv" else "bsd") given.operands

def digestKinds : List (String × DigestKind) :=
  [("md5", .md5), ("sha1", .sha1), ("sha224", .sha224), ("sha256", .sha256), ("sha384", .sha384),
    ("sha512", .sha512), ("blake2b", .blake2b 64)]

def showCyclicSums : Utility :=
  taking (digestSwitches "" "al" [("algorithm", 'a'), ("length", 'l'), ("untagged", 'U'),
      ("base64", 'B'), ("raw", 'R')] |> fun switches =>
        { switches with plain := switches.plain ++ "UBR" }) 1 fun given => do
    let algorithm := (given.value? 'a').getD "crc"
    match digestKinds.lookup algorithm with
    | some kind =>
        if given.has 'c' then
          forEach (if given.operands.isEmpty then ["-"] else given.operands)
            (checkFile [kind] given)
        else if given.has 'R' then
          forEach (if given.operands.isEmpty then ["-"] else given.operands) fun operand => do
            match ← readOperand operand with
            | .ok bytes =>
                emitBytes (kind.digest bytes)
                return true
            | .error problem =>
                say s!"{spelled operand}: {problem}"
                return false
        else
          let tagged := !given.has 'U'
          showAllDigests kind ⟨tagged, false, given.has 'z', given.has 'B'⟩ given.operands
    | none =>
        if given.has 'c' then
          forEach (if given.operands.isEmpty then ["-"] else given.operands)
            (checkFile (digestKinds.map Prod.snd) given)
        else if ["bsd", "sysv", "crc"].contains algorithm then
          showSumsOf algorithm given.operands
        else
          let known := ["bsd", "sysv", "crc", "md5", "sha1", "sha224", "sha256", "sha384", "sha512",
            "blake2b", "sm3"]
          say s!"invalid argument {quoted algorithm} for '--algorithm'"
          modify fun state => state.emitError <|
            "Valid arguments are:\n" ++
              "".intercalate (known.map fun name => s!"  - {quoted name}\n") ++
              s!"Try '{state.name} --help' for more information.\n"
          return 1

end PackageClosure.Shell.Utility
