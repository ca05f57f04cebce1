import PackageClosure.Shell.Format
import PackageClosure.Shell.Pattern
import PackageClosure.Shell.Utility.Basic

set_option autoImplicit false

namespace PackageClosure.Shell.Utility

structure Span where
  first : Nat
  last : Option Nat

def Span.contains (span : Span) (position : Nat) : Bool :=
  span.first ≤ position && span.last.all (position ≤ ·)

def decimal? (text : List Char) : Option Nat :=
  if text.isEmpty || !text.all Char.isDigit then none else some (Nat.ofDigitChars 10 text 0)

def Span.ofText (unit : String) (text : List Char) : Except String Span :=
  let wrong := s!"invalid {unit} value {quoted (String.ofList text)}"
  let zero := if unit = "field" then "fields are numbered from 1"
    else "byte/character positions are numbered from 1"
  let number (text : List Char) : Except String Nat :=
    match decimal? text with
    | some 0 => .error zero
    | some value => .ok value
    | none => .error wrong
  match Text.splitFirst '-' text with
  | none => do
      let value ← number text
      return ⟨value, some value⟩
  | some ([], []) => .error "invalid range with no endpoint: -"
  | some ([], last) => do return ⟨1, some (← number last)⟩
  | some (first, []) => do return ⟨← number first, none⟩
  | some (first, last) => do
      let span : Span := ⟨← number first, some (← number last)⟩
      if span.last.any (· < span.first) then throw "invalid decreasing range" else return span

def spansOf (unit : String) (text : String) : Except String (List Span) :=
  ((Text.pieces ',' (text.toList.map fun c => if c = ' ' then ',' else c)).mapM
    (Span.ofText unit))

def partsOf (separator : UInt8) (line : Bytes) : List Bytes :=
  line.foldr (fun byte parts =>
    match byte == separator, parts with
    | false, first :: more => (byte :: first) :: more
    | _, _ => [] :: parts) [[]]

def chosen {α : Type} (complement : Bool) (spans : List Span) (elements : List α) : List α :=
  elements.zipIdx.filterMap fun (element, index) =>
    if spans.any (·.contains (index + 1)) != complement then some element else none

def cutLine (given : Given) (spans : List Span) (fields : Bool) (line : Bytes) : Option Bytes :=
  let complement := given.has '!'
  if !fields then some (chosen complement spans line)
  else
    let separator := (((given.value? 'd').map fun text => Text.rawBytes text.toList).bind
      List.head?).getD 9
    let joint := ((given.value? 'O').map fun text => Text.rawBytes text.toList).getD [separator]
    if !line.contains separator then if given.has 's' then none else some line
    else some (joint.intercalate (chosen complement spans (partsOf separator line)))

def cut : Utility :=
  taking ⟨"nsz!", "bcdfO", [("bytes", 'b'), ("characters", 'c'), ("delimiter", 'd'),
      ("fields", 'f'), ("only-delimited", 's'), ("output-delimiter", 'O'), ("complement", '!')]⟩ 1
    fun given => do
      match given.options.filter fun option => "bcf".toList.contains option.1 with
      | [] => misuse 1 "you must specify a list of bytes, characters, or fields"
      | [(letter, text)] =>
          if (given.value? 'd').any fun text => 1 < (Text.rawBytes text.toList).length then
            misuse 1 "the delimiter must be a single character"
          else
            match spansOf (if letter = 'f' then "field" else "byte or character") text with
            | .error problem => misuse 1 problem
            | .ok spans =>
                let (bytes, done) ← readAll given.operands
                let lines := (linesOf bytes).filterMap (cutLine given spans (letter = 'f'))
                emitBytes (joinLines lines)
                return if done then 0 else 1
      | _ => misuse 1 "only one list may be specified"

inductive SetItem where
  | one (c : Char)
  | several (characters : List Char)
  | repeated (c : Char) (times : Nat)

def allBytes : List Char := (List.range 256).map Char.ofNat

def escaped (text : List Char) : Char × List Char :=
  match text with
  | [] => ('\\', [])
  | c :: rest =>
      if Format.isOctal c then
        let (number, rest) := Format.octal 3 0 (c :: rest)
        (Char.ofNat (number % 256), rest)
      else
        match Format.control? c with
        | some byte => (Char.ofNat (if c = 'e' then c.toNat else byte.toNat), rest)
        | none => (c, rest)

def setCharacter : List Char → Option (Char × List Char)
  | [] => none
  | '\\' :: rest => some (escaped rest)
  | c :: rest => some (c, rest)

def bracketed? : List Char → Option (SetItem × List Char)
  | '[' :: ':' :: rest =>
      let name := rest.takeWhile Char.isLower
      match rest.drop name.length with
      | ':' :: ']' :: after =>
          some (.several (allBytes.filter (CharacterRange.isOf (String.ofList name))), after)
      | _ => none
  | '[' :: '=' :: c :: '=' :: ']' :: rest => some (.one c, rest)
  | '[' :: rest => do
      let (c, after) ← setCharacter rest
      let '*' :: after := after | none
      let digits := after.takeWhile Char.isDigit
      let ']' :: after := after.drop digits.length | none
      return (.repeated c (Nat.ofDigitChars 10 digits 0), after)
  | _ => none

def setItems : Nat → List Char → Except String (List SetItem)
  | 0, _ => .ok []
  | fuel + 1, text =>
      match bracketed? text with
      | some (item, rest) => do return item :: (← setItems fuel rest)
      | none =>
          match setCharacter text with
          | none => .ok []
          | some (low, rest) =>
              match rest with
              | '-' :: more =>
                  match setCharacter more with
                  | none => do return .one low :: (← setItems fuel rest)
                  | some (high, after) =>
                      if high < low then
                        .error <| s!"range-endpoints of '{low}-{high}' are in reverse collating " ++
                          "sequence order"
                      else do
                        let between := allBytes.filter fun c => low ≤ c && c ≤ high
                        return .several between :: (← setItems fuel after)
              | _ => do return .one low :: (← setItems fuel rest)

-- The characters of a set. One that is repeated without a number fills it up to a length.
def setOf (length : Nat) (items : List SetItem) : List Char :=
  let size (item : SetItem) : Nat :=
    match item with
    | .one _ => 1
    | .several characters => characters.length
    | .repeated _ times => times
  let known := items.foldl (fun sum item => sum + size item) 0
  items.flatMap fun
    | .one c => [c]
    | .several characters => characters
    | .repeated c 0 => List.replicate (length - known) c
    | .repeated c times => List.replicate times c

def squeezed (set : List Char) : Option Char → List Char → List Char
  | _, [] => []
  | before, c :: rest =>
      if before = some c && set.contains c then squeezed set before rest
      else c :: squeezed set (some c) rest

def parseSet (text : String) : Except String (List SetItem) :=
  let characters := Text.byteChars text.toList
  setItems (characters.length + 1) characters

def translated (given : Given) (first second : List SetItem) (text : List Char) : List Char :=
  let plain := setOf 0 first
  let complement := given.has 'c' || given.has 'C'
  let source := if complement then allBytes.filter (!plain.contains ·) else plain
  let target := setOf source.length second
  let source := if given.has 't' then source.take target.length else source
  let filled :=
    target ++ List.replicate (source.length - target.length) (target.getLast?.getD 'x')
  if given.has 'd' then
    let kept := text.filter (!source.contains ·)
    if given.has 's' then squeezed target none kept else kept
  else if second.isEmpty then squeezed source none text
  else
    let pairs := (source.zip filled).reverse
    let changed := text.map fun c => ((pairs.lookup c).getD c)
    if given.has 's' then squeezed target none changed else changed

def translateInput (given : Given) (target : Bool) (first second : String) :
    StateM State Nat := do
  match parseSet first, parseSet second with
  | .ok first, .ok second =>
      if !given.has 'd' && !given.has 't' && target && second.isEmpty then
        say "when not truncating set1, string2 must be non-empty"
        return 1
      let bytes := (← readInput).toOption.getD []
      emitBytes (bytesOf (translated given first second (charsOf bytes)))
      return 0
  | .error problem, _ | _, .error problem =>
      say problem
      return 1

def misuseOfSets (problem hint : String) : StateM State Nat := do
  say problem
  modify fun state => state.emitError s!"{hint}\nTry '{state.name} --help' for more information.\n"
  return 1

def translate : Utility :=
  taking ⟨"cCdst", "", [("complement", 'c'), ("delete", 'd'), ("squeeze-repeats", 's'),
      ("truncate-set1", 't')]⟩ 1
    fun given => do
      let deletes := given.has 'd'
      let squeezes := given.has 's'
      match given.operands with
      | [] => misuse 1 "missing operand"
      | [first] =>
          if deletes && squeezes then
            misuseOfSets s!"missing operand after {quoted first}"
              "Two strings must be given when both deleting and squeezing repeats."
          else if !deletes && !squeezes then
            misuseOfSets s!"missing operand after {quoted first}"
              "Two strings must be given when translating."
          else translateInput given false first ""
      | [first, second] =>
          if deletes && !squeezes then
            misuseOfSets s!"extra operand {quoted second}"
              "Only one string may be given when deleting without squeezing repeats."
          else translateInput given true first second
      | _ :: _ :: extra :: _ => misuse 1 s!"extra operand {quoted extra}"

structure Collation where
  numeric : Bool
  reverse : Bool
  fold : Bool
  blanks : Bool
  dictionary : Bool
  printable : Bool

def Collation.ofLetters (letters : List Char) : Collation :=
  ⟨letters.any "nghV".toList.contains, letters.contains 'r', letters.contains 'f',
    letters.contains 'b', letters.contains 'd', letters.contains 'i'⟩

-- A part of a line, from a field and character to another. Without a last character a part ends
-- with its field.
structure Key where
  field : Nat
  character : Nat
  last : Option (Nat × Nat)
  letters : List Char

def keyPart (text : List Char) : Option (Nat × Option Nat × List Char × List Char) :=
  let (field, rest) := text.span Char.isDigit
  match decimal? field with
  | none => none
  | some field =>
      let (character, rest) := match rest with
        | '.' :: more =>
            let (digits, more) := more.span Char.isDigit
            (decimal? digits, more)
        | _ => (none, rest)
      let (letters, rest) := rest.span Char.isAlpha
      some (field, character, letters, rest)

def Key.ofText (text : String) : Except String Key :=
  let wrong (what : String) : Except String Key :=
    .error s!"{what}: invalid field specification {quoted text}"
  match keyPart text.toList with
  | none => wrong "invalid number at field start"
  | some (0, _, _, _) => wrong "field number is zero"
  | some (field, character, letters, []) => .ok ⟨field, character.getD 1, none, letters⟩
  | some (field, character, letters, ',' :: rest) =>
      match keyPart rest with
      | some (last, place, more, []) =>
          .ok ⟨field, character.getD 1, some (last, place.getD 0), letters ++ more⟩
      | _ => wrong "invalid number after ','"
  | _ => wrong "stray character in field spec"

def isBlankByte (c : Char) : Bool := c = ' ' || c = '\t'

-- The fields of a line. Without a separator they begin with their blanks.
def fieldsOf (separator : Option Char) (line : List Char) : List (List Char) :=
  match separator with
  | some separator => Text.pieces separator line
  | none =>
      let step (c : Char) (fields : List (List Char)) : List (List Char) :=
        match fields with
        | [] => [[c]]
        | field :: more =>
            if isBlankByte c || !field.head?.any isBlankByte then (c :: field) :: more
            else [c] :: field :: more
      line.foldr step []

def Key.text (key : Key) (separator : Option Char) (collation : Collation) (line : List Char) :
    List Char :=
  let fields := fieldsOf separator line
  let width := if separator.isSome then 1 else 0
  let offset (count : Nat) : Nat :=
    ((fields.take count).foldl (fun sum field => sum + field.length + width) 0)
  let blanksAt (place : Nat) : Nat :=
    if collation.blanks then ((line.drop place).takeWhile isBlankByte).length else 0
  let fieldStart := offset (key.field - 1)
  let start := fieldStart + blanksAt fieldStart + (key.character - 1)
  let finish := match key.last with
    | none => line.length
    | some (field, 0) => offset field - (if field < fields.length then width else 0)
    | some (field, character) =>
        let begin := offset (field - 1)
        begin + blanksAt begin + character
  (line.take finish).drop start

def decimalOf (text : List Char) : Int × Nat :=
  let text := text.dropWhile isBlankByte
  let (negative, digits) := match text with
    | '-' :: rest => (true, rest)
    | _ => (false, text)
  let (whole, rest) := digits.span Char.isDigit
  let part := match rest with
    | '.' :: more => more.takeWhile Char.isDigit
    | _ => []
  let value : Int := ((Nat.ofDigitChars 10 (whole ++ part) 0 : Nat) : Int)
  (if negative then -value else value, part.length)

def compareDecimals (left right : Int × Nat) : Ordering :=
  let scale (digits : Nat) : Int := ((Nat.pow 10 digits : Nat) : Int)
  compare (left.1 * scale right.2) (right.1 * scale left.2)

def Collation.relevant (collation : Collation) (text : List Char) : List Char :=
  let text := if collation.blanks then text.dropWhile isBlankByte else text
  let text :=
    if collation.dictionary then text.filter fun c => c.isAlphanum || isBlankByte c else text
  let text := if collation.printable then text.filter fun c => ' ' ≤ c && c ≤ '~' else text
  if collation.fold then text.map Char.toUpper else text

def compareTexts (left right : List Char) : Ordering :=
  if left < right then .lt else if left = right then .eq else .gt

def Collation.compare (collation : Collation) (left right : List Char) : Ordering :=
  let result :=
    if collation.numeric then compareDecimals (decimalOf left) (decimalOf right)
    else compareTexts (collation.relevant left) (collation.relevant right)
  if collation.reverse then result.swap else result

structure Sorting where
  keys : List (Key × Collation)
  whole : Collation
  separator : Option Char
  stable : Bool

def Sorting.compareKeys (sorting : Sorting) (left right : List Char) : Ordering :=
  match sorting.keys with
  | [] => sorting.whole.compare left right
  | keys => keys.foldl (fun before (key, collation) =>
      before.then <| collation.compare (key.text sorting.separator collation left)
        (key.text sorting.separator collation right)) .eq

def Sorting.compare (sorting : Sorting) (left right : List Char) : Ordering :=
  let result := sorting.compareKeys left right
  if sorting.stable then result
  else
    let last := compareTexts left right
    result.then (if sorting.whole.reverse then last.swap else last)

def distinct (same : List Char → List Char → Bool) :
    Option (List Char) → List (List Char) → List (List Char)
  | _, [] => []
  | before, line :: rest =>
      if before.any (same · line) then distinct same before rest
      else line :: distinct same (some line) rest

def disorder? (wrong : List Char → List Char → Bool) :
    Nat → List (List Char) → Option (Nat × List Char)
  | number, first :: second :: rest =>
      if wrong first second then some (number + 1, second)
      else disorder? wrong (number + 1) (second :: rest)
  | _, _ => none

def sortLines : Utility :=
  taking ⟨"bcCdfghimMnrRsuVz", "koStT", [("numeric-sort", 'n'), ("reverse", 'r'), ("unique", 'u'),
      ("ignore-case", 'f'), ("key", 'k'), ("field-separator", 't'), ("output", 'o'),
      ("stable", 's'), ("check", 'c'), ("merge", 'm'), ("ignore-leading-blanks", 'b'),
      ("dictionary-order", 'd'), ("version-sort", 'V'), ("human-numeric-sort", 'h'),
      ("general-numeric-sort", 'g')]⟩ 2
    fun given => do
      let whole := Collation.ofLetters (given.options.map Prod.fst)
      let separator := (given.value? 't').map String.toList
      match (given.values 'k').mapM Key.ofText, separator with
      | .error problem, _ =>
          say problem
          return 2
      | _, some [] =>
          say "empty tab"
          return 2
      | .ok keys, separator =>
          if separator.any fun text => 1 < text.length && text ≠ ['\\', '0'] then
            say ("multi-character tab " ++ quoted ((given.value? 't').getD ""))
            return 2
          else
            let keys := keys.map fun key =>
              (key, if key.letters.isEmpty then whole else Collation.ofLetters key.letters)
            let unique := given.has 'u'
            let sorting : Sorting :=
              ⟨keys, whole, separator.bind List.head?, given.has 's' || unique⟩
            let operands := if given.operands.isEmpty then ["-"] else given.operands
            let read ← operands.mapM readOperand
            match (operands.zip read).find? (·.2.toOption.isNone) with
            | some (operand, result) =>
                let problem := match result with
                  | .error problem => problem
                  | .ok _ => ""
                say s!"cannot read: {spelled operand}: {problem}"
                return 2
            | none =>
                let lines := read.flatMap fun result =>
                  (linesOf (result.toOption.getD [])).map charsOf
                let same (left right : List Char) : Bool := sorting.compareKeys left right = .eq
                if given.has 'c' || given.has 'C' then
                  let wrong (left right : List Char) : Bool :=
                    let order := sorting.compare left right
                    order = .gt || (unique && order = .eq)
                  match disorder? wrong 1 lines with
                  | none => return 0
                  | some (number, line) =>
                      if given.has 'c' then
                        let name := operands.headD "-"
                        modify fun state => state.emitError
                          s!"{state.name}: {name}:{number}: disorder: {String.ofList line}\n"
                      return 1
                else
                  let sorted := lines.mergeSort fun left right => sorting.compare left right ≠ .gt
                  let kept := if unique then distinct same none sorted else sorted
                  let bytes := joinLines (kept.map bytesOf)
                  match given.value? 'o' with
                  | none =>
                      emitBytes bytes
                      return 0
                  | some file =>
                      let state ← get
                      let written := state.disk.write state.current (state.masked 0o666) ⟨file⟩
                        bytes
                      return if ← settle written s!"open failed: {spelled file}" then 0 else 2

def comparedPart (given : Given) (line : List Char) : List Char :=
  let number (letter : Char) : Option Nat :=
    (given.value? letter).bind fun text => decimal? text.toList
  let skipField (text : List Char) : List Char :=
    (text.dropWhile isBlankByte).dropWhile (!isBlankByte ·)
  let after := (List.range ((number 'f').getD 0)).foldl (fun text _ => skipField text) line
  let after := after.drop ((number 's').getD 0)
  let part := match number 'w' with
    | some width => after.take width
    | none => after
  if given.has 'i' then part.map Char.toLower else part

def runsOf (part : List Char → List Char) : List (List Char) → List (List Char × Nat)
  | [] => []
  | line :: rest =>
      match runsOf part rest with
      | [] => [(line, 1)]
      | (next, count) :: more =>
          if part line = part next then (line, count + 1) :: more
          else (line, 1) :: (next, count) :: more

def repeatedLines (part : List Char → List Char) :
    Option (List Char) → List (List Char) → List (List Char)
  | _, [] => []
  | before, line :: rest =>
      let own := part line
      let more := repeatedLines part (some own) rest
      if before = some own || rest.head?.map part = some own then line :: more else more

def uniqueLines : Utility :=
  taking ⟨"cdDiu", "fsw", [("count", 'c'), ("repeated", 'd'), ("ignore-case", 'i'), ("unique", 'u'),
      ("skip-fields", 'f'), ("skip-chars", 's'), ("check-chars", 'w')]⟩ 1
    fun given => do
      let source := given.operands.headD "-"
      match given.operands with
      | _ :: _ :: extra :: _ => misuse 1 s!"extra operand {quoted extra}"
      | operands =>
          match ← readOperand source with
          | .error problem =>
              say s!"{spelled source}: {problem}"
              return 1
          | .ok bytes =>
              let runs := runsOf (comparedPart given) ((linesOf bytes).map charsOf)
              let kept := runs.filter fun run =>
                !(given.has 'd' && run.2 = 1) && !(given.has 'u' && 1 < run.2)
              let shown := if given.has 'D' then
                  (repeatedLines (comparedPart given) none
                    ((linesOf bytes).map charsOf)).map bytesOf
                else kept.map fun ((line, count) : List Char × Nat) =>
                let digits := (toString count).toList
                let head :=
                  if given.has 'c' then List.replicate (7 - digits.length) ' ' ++ digits ++ [' ']
                  else []
                bytesOf (head ++ line)
              match operands with
              | [_, target] =>
                  let state ← get
                  let written := state.disk.write state.current (state.masked 0o666) ⟨target⟩
                    (joinLines shown)
                  return if ← settle written (spelled target) then 0 else 1
              | _ =>
                  emitBytes (joinLines shown)
                  return 0

end PackageClosure.Shell.Utility
