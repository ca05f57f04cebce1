set_option autoImplicit false

namespace PackageClosure

inductive ExitStatus where
  | exited (code : Nat)
  | killed (signal : Nat)
deriving DecidableEq, Repr

namespace ExitStatus

def isSuccess (status : ExitStatus) : Bool := status = .exited 0

def signalNames : List String :=
  ["HUP", "INT", "QUIT", "ILL", "TRAP", "ABRT", "BUS", "FPE", "KILL", "USR1", "SEGV", "USR2",
    "PIPE", "ALRM", "TERM", "STKFLT", "CHLD", "CONT", "STOP", "TSTP", "TTIN", "TTOU", "URG", "XCPU",
    "XFSZ", "VTALRM", "PROF", "WINCH", "IO", "PWR", "SYS"]

def signalName? (signal : Nat) : Option String :=
  if signal = 0 then none else signalNames[signal - 1]?

def isFatal (signal : Nat) : Bool :=
  1 ≤ signal && signal ≤ 64 && !([17, 18, 19, 20, 21, 22, 23, 28].contains signal)

def message : ExitStatus → String
  | .exited code => s!"exit status: {code}"
  | .killed signal =>
      match signalName? signal with
      | some name => s!"signal: {signal} (SIG{name})"
      | none => s!"signal: {signal}"

end ExitStatus

end PackageClosure
