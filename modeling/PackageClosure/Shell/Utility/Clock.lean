import PackageClosure.Shell.Utility.Attributes

set_option autoImplicit false

namespace PackageClosure.Shell.Utility

def interval? (text : String) : Option Int := do
  let letters := text.toList
  let (unit, digits) ← match letters.reverse with
    | 's' :: rest => some (1, rest.reverse)
    | 'm' :: rest => some (60, rest.reverse)
    | 'h' :: rest => some (3600, rest.reverse)
    | 'd' :: rest => some (86400, rest.reverse)
    | _ => some ((1 : Int), letters)
  let digits := if digits.head? = some '.' then '0' :: digits else digits
  if digits.head? = some '-' then none
  else (DateReader.seconds? digits).map (· * unit)

def sleep : Utility :=
  taking ⟨"", "", []⟩ 1 fun given => do
    match given.operands, given.operands.find? fun text => (interval? text).isNone with
    | [], _ => misuse 1 "missing operand"
    | _, some wrong => misuse 1 s!"invalid time interval {quoted wrong}"
    | intervals, none =>
        let total := (intervals.filterMap interval?).foldl (· + ·) 0
        modify fun state =>
          let later := state.disk.time + total
          let reached := match state.deadline with
            | some deadline => min later (max deadline state.disk.time)
            | none => later
          { state with disk := { state.disk with time := reached } }
        return 0

def dateFormat? (name : String) : Option String :=
  let known : List (String × String) :=
    [("date", "%Y-%m-%d"), ("hours", "%Y-%m-%dT%H%:z"), ("minutes", "%Y-%m-%dT%H:%M%:z"),
      ("seconds", "%Y-%m-%dT%H:%M:%S%:z"), ("ns", "%Y-%m-%dT%H:%M:%S,%N%:z")]
  (known.find? fun entry => entry.1.startsWith name).map Prod.snd

def withDateFormats (arguments : List String) : List String :=
  arguments.flatMap fun argument =>
    if argument = "--iso-8601" || argument = "-I" then ["-i", "date"]
    else if argument.startsWith "--iso-8601=" then ["-i", (argument.drop 11).toString]
    else if argument.startsWith "-I" then ["-i", (argument.drop 2).toString]
    else if argument.startsWith "--rfc-3339=" then ["-3", (argument.drop 11).toString]
    else [argument]

def dateFormat (given : Given) : String :=
  let chosen := (given.options.filter fun option => "Ri3".toList.contains option.1).getLast?
  match given.operands.head?.map String.toList, chosen with
  | some ('+' :: format), _ => String.ofList format
  | _, some ('R', _) => "%a, %d %b %Y %H:%M:%S %z"
  | _, some ('3', name) =>
      if "date".startsWith name then "%Y-%m-%d"
      else if "ns".startsWith name then "%Y-%m-%d %H:%M:%S.%N%:z"
      else "%Y-%m-%d %H:%M:%S%:z"
  | _, some (_, name) => (dateFormat? name).getD "%Y-%m-%d"
  | _, none => "%a %b %e %H:%M:%S %Z %Y"

def tellTime : Utility := fun arguments =>
  taking ⟨"uR", "drsi3f", [("utc", 'u'), ("universal", 'u'), ("date", 'd'), ("reference", 'r'),
      ("rfc-email", 'R'), ("rfc-822", 'R'), ("set", 's'), ("file", 'f')]⟩ 1
    (fun given => do
      let state ← get
      let now := state.disk.time
      let put (time : Int) : StateM State Unit :=
        emitText ((Moment.ofTime time).write (dateFormat given) ++ "\n")
      let wrong? := (given.value? 'i').filter fun name => (dateFormat? name).isNone
      match wrong?, given.operands with
      | some name, _ => misuse 1 s!"invalid argument {quoted name} for '--iso-8601'"
      | none, _ :: extra :: _ => misuse 1 s!"extra operand {quoted extra}"
      | none, operands =>
          let plain := operands.find? (!·.startsWith "+")
          match plain, given.value? 'd', given.value? 'r', given.value? 'f' with
          | some operand, _, _, _ =>
              say s!"invalid date {quoted operand}"
              return 1
          | none, some text, _, _ =>
              match timeOfText? now text with
              | some time =>
                  put time
                  return 0
              | none =>
                  say s!"invalid date {quoted text}"
                  return 1
          | none, none, some file, _ =>
              match state.disk.find state.current true ⟨file⟩ with
              | .ok ⟨place, some node⟩ =>
                  put (changedAt state.disk place node)
                  return 0
              | .ok ⟨_, none⟩ =>
                  say s!"{spelled file}: {SystemError.text .notFound}"
                  return 1
              | .error error =>
                  say s!"{spelled file}: {reason error}"
                  return 1
          | none, none, none, some file =>
              match ← readOperand file with
              | .error problem =>
                  say s!"{spelled file}: {problem}"
                  return 1
              | .ok bytes =>
                  forEach ((linesOf bytes).map fun line => String.ofList (Text.rawText line))
                    fun text => do
                      match timeOfText? now text with
                      | some time =>
                          put time
                          return true
                      | none =>
                          say s!"invalid date {quoted text}"
                          return false
          | none, none, none, none =>
              put now
              return 0) (withDateFormats arguments)

end PackageClosure.Shell.Utility
