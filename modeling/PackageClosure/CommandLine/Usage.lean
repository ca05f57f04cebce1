set_option autoImplicit false

namespace PackageClosure

inductive UsageError where
  | help
  | version
  | nothingGiven
  | noCommand
  | unknownCommand
  | unknownArgument
  | missingArgument
  | missingValue
  | emptyValue
  | repeated
  | needlessValue
  | badValue
deriving DecidableEq, Repr

namespace UsageError

def isRequest : UsageError → Bool
  | .help | .version => true
  | _ => false

def message : UsageError → String
  | .help => "usage: [OPTIONS] resolve | addresses | sources | graph | build | disassemble | help"
  | .version => "0.1.0"
  | .nothingGiven => "a command is required"
  | .noCommand => "a command is required besides the options"
  | .unknownCommand => "unknown command"
  | .unknownArgument => "unexpected argument"
  | .missingArgument => "a required option is missing"
  | .missingValue => "an option needs a value"
  | .emptyValue => "a value is empty"
  | .repeated => "an option is given more than once"
  | .needlessValue => "an option takes no value"
  | .badValue => "a value cannot be read"

end UsageError

end PackageClosure
