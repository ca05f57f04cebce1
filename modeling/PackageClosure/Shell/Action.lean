import PackageClosure.Shell.State

set_option autoImplicit false

namespace PackageClosure.Shell

inductive Interruption where
  | leave (levels : Nat) (nextRound : Bool)
  | returns
  | fault
  | ends (code : Nat)
  | killed (signal : Nat)
deriving DecidableEq

abbrev Action := EStateM Interruption State

namespace Action

def always {α : Type} (change : State → α × State) : Action α := fun state =>
  let (value, after) := change state
  .ok value after

def outcome {α : Type} (action : Action α) : Action (Except Interruption α) := fun state =>
  match action state with
  | .ok value after => .ok (.ok value) after
  | .error interruption after => .ok (.error interruption) after

def ofExcept {α : Type} : Except Interruption α → Action α
  | .ok value => pure value
  | .error interruption => throw interruption

def finallyDo {α : Type} (action : Action α) (last : Action Unit) : Action α := do
  let result ← action.outcome
  last
  ofExcept result

def returning (status : Nat) : Action Unit := modify (·.returning status)

def complain (problem : String) : Action Unit := modify (·.complain problem)

def fail {α : Type} (problem : String) : Action α := do
  complain problem
  throw .fault

def emit (bytes : Bytes) : Action Unit := modify (·.emit bytes)

def emitText (text : String) : Action Unit := modify (·.emitText text)

def assign (name value : String) : Action Unit := do
  if (← get).constants.contains name then fail s!"{name}: is read only"
  else modify (·.setVariable name value)

end Action

end PackageClosure.Shell
