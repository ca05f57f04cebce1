import PackageClosure.Shell.Awk.Builtin

set_option autoImplicit false

namespace PackageClosure.Shell.Awk

inductive Place where
  | variable_ (name : Variable)
  | field (index : Nat)
  | element (array : Nat) (key : Key)

def Flow.ending? : Flow → Option Flow
  | .leaves => some .onward
  | .returns value => some (.returns value)
  | .onward | .again => none

namespace Run

def valueAt : Place → Run Value
  | .variable_ (.global name) => global name
  | .variable_ (.parameter index) => do
      match (← get).parameters[index]? with
      | some (.value value) => return value
      | _ => return .unset
  | .field index => field index
  | .element array key => return (← element array true key).getD .unset

def assign (place : Place) (value : Value) : Run Unit := do
  match place with
  | .variable_ (.global name) => setGlobal name value
  | .variable_ (.parameter index) =>
      modify fun machine =>
        { machine with parameters := machine.parameters.setIfInBounds index (.value value) }
  | .field index => setField index value
  | .element array key => do putTable array ((← table array).assign key value)

def roundLimit : Nat := Nat.pow 2 40

def rounds (round : Run (Option Flow)) : Nat → Run Flow
  | 0 => fail "program limit exceeded"
  | fuel + 1 => do
      match ← round with
      | some flow => return flow
      | none => rounds round fuel

def keyOf (subscripts : List Value) : Run Key := do
  match subscripts with
  | [.number quantity] =>
      match Key.ofNumber? quantity with
      | some key => return key
      | none => return .name (← toText (.number quantity))
  | [value] => return .name (← toText value)
  | several =>
      let texts ← several.mapM toText
      return .name (texts.intersperse (← globalText "SUBSEP")).flatten

def ordering (left right : Value) : Run Ordering :=
  return compareValues (← writer "CONVFMT") left right

def writeFilled (target : Option (Target × Text)) (values : List Value) : Run Unit := do
  match values with
  | [] => pure ()
  | template :: values =>
      let template ← toText template
      let filled := Template.filled (← writer "CONVFMT") template values
      write target filled.text
      match filled.failure with
      | none => pure ()
      | some .tooFewValues =>
          failRunning s!"not enough arguments passed to printf(\"{outerText template}\")"
      | some (.improper position) =>
          let place := outerText template
          failRunning s!"improper conversion(number {position}) in printf(\"{place}\")"

def writeValues (target : Option (Target × Text)) (values : List Value) : Run Unit := do
  let numbers ← writer "OFMT"
  let texts := values.map (Value.toText numbers)
  let separator ← globalText "OFS"
  let ending ← globalText "ORS"
  write target ((texts.intersperse separator).flatten ++ ending)

mutual

def evaluate : Nat → Expression → Run Value
  | 0, _ => fail "program limit exceeded: eval stack size=1024"
  | fuel + 1, expression => do
      match expression with
      | .number quantity => return .number quantity
      | .text letters => return .text letters
      | .pattern regex => return .ofBool (regex.find? (← toText (← get).record)).isSome
      | .value place => valueAt (.variable_ place)
      | .field _ | .element _ _ => do valueAt (← placeOf fuel expression)
      | .assign target value =>
          let place ← placeOf fuel target
          let value ← whileWaiting 1 (evaluate fuel value)
          assign place value
          return value
      | .update operation target value =>
          let place ← placeOf fuel target
          let right ← whileWaiting 1 (evaluate fuel value)
          let left ← valueAt place
          let result := Value.number (calculate operation left.toNumber right.toNumber)
          assign place result
          return result
      | .step up after target =>
          let place ← placeOf fuel target
          let before := (← valueAt place).toNumber
          let operation := if up then Arithmetic.add else .subtract
          let result := Value.number (calculate operation before (ofNat 1))
          assign place result
          return if after then result else .number before
      | .choice condition positive negative =>
          if (← evaluate fuel condition).holds then evaluate fuel positive
          else evaluate fuel negative
      | .both first second =>
          if (← evaluate fuel first).holds then
            return .ofBool (← evaluate fuel second).holds
          else return .ofBool false
      | .either first second =>
          if (← evaluate fuel first).holds then return .ofBool true
          else return .ofBool (← evaluate fuel second).holds
      | .negation operand => return .ofBool !(← evaluate fuel operand).holds
      | .contains subscripts array =>
          let key ← keyOf (← evaluateAll fuel subscripts)
          return .ofBool (← element (← arrayOf array) false key).isSome
      | .agrees negated subject pattern =>
          let text ← toText (← evaluate fuel subject)
          let regex ← whileWaiting 1 (regexFrom fuel pattern)
          return .ofBool ((regex.find? text).isSome != negated)
      | .compare comparison left right =>
          let left ← evaluate fuel left
          let right ← whileWaiting 1 (evaluate fuel right)
          return .ofBool (comparison.holds (← ordering left right))
      | .arithmetic operation left right =>
          let left ← evaluate fuel left
          let right ← whileWaiting 1 (evaluate fuel right)
          return .number (calculate operation left.toNumber right.toNumber)
      | .minus operand => return .number (← evaluate fuel operand).toNumber.negate
      | .plus operand => return .number (← evaluate fuel operand).toNumber
      | .join left right =>
          let left ← evaluate fuel left
          let right ← whileWaiting 1 (evaluate fuel right)
          return .text ((← toText left) ++ (← toText right))
      | .call name arguments => call fuel name arguments
      | .builtin function arguments => builtin fuel function arguments
      | .read source name target => read fuel source name target

def evaluateAll : Nat → List Expression → Run (List Value)
  | 0, _ | _, [] => return []
  | fuel + 1, first :: rest => do
      let value ← evaluate fuel first
      return value :: (← whileWaiting 1 (evaluateAll fuel rest))

def placeOf : Nat → Expression → Run Place
  | 0, _ => fail "program limit exceeded: eval stack size=1024"
  | fuel + 1, expression => do
      match expression with
      | .value place => return .variable_ place
      | .field index =>
          return .field (← checkField (bounded (← evaluate fuel index).toNumber))
      | .element array subscripts =>
          let key ← keyOf (← evaluateAll fuel subscripts)
          let number ← arrayOf array
          let _ ← element number true key
          return .element number key
      | _ => fail "syntax error"

def regexFrom : Nat → Expression → Run Regex
  | 0, _ => fail "program limit exceeded: eval stack size=1024"
  | fuel + 1, expression => do
      match expression with
      | .pattern regex => return regex
      | expression => do regexOf (← toText (← evaluate fuel expression))

-- Calls a function of the program. Its parameters are there for as long as it runs.
def call : Nat → String → List Expression → Run Value
  | 0, _, _ => fail "program limit exceeded: eval stack size=1024"
  | fuel + 1, name, arguments => do
      let program := (← get).program
      match program.functions.find? (·.name = name) with
      | none => fail s!"function {name} never defined"
      | some function =>
          let before ← get
          let isArray (index : Nat) : Bool := program.arrayParameters.contains (name, index)
          let slots ← slots fuel isArray 0 function.parameters arguments
          let outer := (← get).parameters
          modify fun machine => { machine with parameters := slots.toArray }
          let flow ← whileWaiting (max 1 slots.length) (execute fuel function.body)
          modify fun machine =>
            { machine with
              parameters := outer
              tables := machine.tables.filter fun entry =>
                entry.1 < before.next || machine.arrays.any (·.2 = entry.1) }
          match flow with
          | .returns value => return value
          | _ => return .unset

def slots : Nat → (Nat → Bool) → Nat → List String → List Expression → Run (List Slot)
  | 0, _, _, _, _ | _, _, _, [], _ => return []
  | fuel + 1, isArray, index, _ :: names, arguments => do
      let first ← match arguments with
        | [] =>
            if isArray index then Slot.array <$> newArray Table.empty else pure (.value .unset)
        | .value name :: _ => do
            match ← arrayOf? name with
            | some number => pure (.array number)
            | none =>
                if isArray index then Slot.array <$> arrayOf name
                else Slot.value <$> valueAt (.variable_ name)
        | argument :: _ => Slot.value <$> evaluate fuel argument
      let rest ← whileWaiting 1 (slots fuel isArray (index + 1) names (arguments.drop 1))
      return first :: rest

def builtin : Nat → Builtin → List Expression → Run Value
  | 0, _, _ => fail "program limit exceeded: eval stack size=1024"
  | fuel + 1, function, arguments => do
      match function, arguments with
      | .length, [] => apply .length [(← get).record]
      | .length, [.value name] =>
          match ← arrayOf? name with
          | some number => return .ofNat (← table number).size
          | none => apply .length [← valueAt (.variable_ name)]
      | .locate, [subject, pattern] =>
          let text ← toText (← evaluate fuel subject)
          let regex ← regexFrom fuel pattern
          let (start, length) : Int × Int := match regex.find? text with
            | some found => (found.before.length + 1, found.text.length)
            | none => (0, -1)
          putGlobal "RSTART" (.ofInt start)
          putGlobal "RLENGTH" (.ofInt length)
          return .ofInt start
      | .divide, subject :: .value array :: more =>
          let text ← toText (← evaluate fuel subject)
          let separator ← match more with
            | [] => do separatorOf (← globalText "FS")
            | .pattern regex :: _ => pure (.pattern regex)
            | expression :: _ => do separatorOf (← toText (← evaluate fuel expression))
          let parts := separator.divide text
          putTable (← arrayOf array) (Table.ofParts (parts.map Value.input))
          return .ofNat parts.length
      | .replace everywhere, pattern :: replacement :: more =>
          let regex ← regexFrom fuel pattern
          let template ← toText (← evaluate fuel replacement)
          let place ← match more with
            | [] => pure (.field 0)
            | target :: _ => placeOf fuel target
          let text ← toText (← valueAt place)
          let (count, after) := replaced regex everywhere
            (replacementFor (template.length + 1) template) (2 * text.length + 2) none false text
          if 0 < count then assign place (.text after)
          return .ofNat count
      | function, arguments => do apply function (← evaluateAll fuel arguments)

def read : Nat → Source → Option Expression → Option Expression → Run Value
  | 0, _, _, _ => fail "program limit exceeded: eval stack size=1024"
  | fuel + 1, source, name, target => do
      let name ← match name with
        | some name => do toText (← evaluate fuel name)
        | none => pure []
      let place? ← match target with
        | some target => some <$> placeOf fuel target
        | none => pure none
      let found : Except Int Text ← match source with
        | .records => do pure ((← nextRecord?).elim (.error 0) .ok)
        | .file => recordFrom false name
        | .command => recordFrom true name
      match found with
      | .error code => return .ofInt code
      | .ok record =>
          match place? with
          | some place => assign place (.input record)
          | none => setRecord (.input record)
          return .ofNat 1

def execute : Nat → Statement → Run Flow
  | 0, _ => fail "program limit exceeded: eval stack size=1024"
  | fuel + 1, statement => do
      match statement with
      | .nothing => return .onward
      | .evaluate expression =>
          let _ ← evaluate fuel expression
          return .onward
      | .print formatted arguments target =>
          let values ←
            if arguments.isEmpty then do pure [(← get).record] else evaluateAll fuel arguments
          let target ← match target with
            | some (target, name) => do
                pure (some (target, ← toText (← evaluate fuel name)))
            | none => pure none
          if formatted then writeFilled target values else writeValues target values
          return .onward
      | .sequence first second =>
          match ← execute fuel first with
          | .onward => execute fuel second
          | flow => return flow
      | .choice condition positive negative =>
          if (← evaluate fuel condition).holds then execute fuel positive
          else execute fuel negative
      | .loop condition body =>
          rounds (do
            if (← evaluate fuel condition).holds then return (← execute fuel body).ending?
            else return some .onward) roundLimit
      | .loopAfter body condition =>
          rounds (do
            match (← execute fuel body).ending? with
            | some flow => return some flow
            | none =>
                if (← evaluate fuel condition).holds then return none
                else return some .onward) roundLimit
      | .count start condition step body =>
          let _ ← execute fuel start
          rounds (do
            let goesOn ← match condition with
              | some condition => do pure (← evaluate fuel condition).holds
              | none => pure true
            if !goesOn then return some .onward
            else
              match (← execute fuel body).ending? with
              | some flow => return some flow
              | none =>
                  let _ ← execute fuel step
                  return none) roundLimit
      | .each target array body =>
          let number ← arrayOf array
          let (names, after) := (← table number).names
          putTable number after
          each fuel target names body
      | .leave => return .leaves
      | .again => return .again
      | .next => throw .next
      | .nextFile => throw .nextFile
      | .finish code =>
          if let some code := code then
            let value ← evaluate fuel code
            let number := bounded value.toNumber % 256
            modify fun machine => { machine with code := number.toNat }
          throw .finish
      | .returns value =>
          match value with
          | some value => return .returns (← evaluate fuel value)
          | none => return .returns .unset
      | .erase array subscripts =>
          let number ← arrayOf array
          match subscripts with
          | none => putTable number Table.empty
          | some subscripts =>
              let key ← keyOf (← evaluateAll fuel subscripts)
              putTable number ((← table number).erase key)
          return .onward

def each : Nat → Variable → List Text → Statement → Run Flow
  | 0, _, _, _ => fail "program limit exceeded"
  | fuel + 1, target, names, body => do
      let flow ← names.foldlM (fun (before : Option Flow) name => do
        match before with
        | some flow => return some flow
        | none =>
            assign (.variable_ target) (.text name)
            return (← execute fuel body).ending?) none
      return flow.getD .onward

end

end Run

end PackageClosure.Shell.Awk
