set_option autoImplicit false

namespace PackageClosure

inductive SystemError where
  | notPermitted
  | notFound
  | execFormat
  | permissionDenied
  | alreadyExists
  | notDirectory
  | isDirectory
  | invalidArgument
  | nameTooLong
  | notEmpty
  | tooManyLinks
deriving DecidableEq, Repr

namespace SystemError

def number : SystemError → Nat
  | .notPermitted => 1
  | .notFound => 2
  | .execFormat => 8
  | .permissionDenied => 13
  | .alreadyExists => 17
  | .notDirectory => 20
  | .isDirectory => 21
  | .invalidArgument => 22
  | .nameTooLong => 36
  | .notEmpty => 39
  | .tooManyLinks => 40

def text : SystemError → String
  | .notPermitted => "Operation not permitted"
  | .notFound => "No such file or directory"
  | .execFormat => "Exec format error"
  | .permissionDenied => "Permission denied"
  | .alreadyExists => "File exists"
  | .notDirectory => "Not a directory"
  | .isDirectory => "Is a directory"
  | .invalidArgument => "Invalid argument"
  | .nameTooLong => "File name too long"
  | .notEmpty => "Directory not empty"
  | .tooManyLinks => "Too many levels of symbolic links"

def message (error : SystemError) : String := s!"{error.text} (os error {error.number})"

end SystemError

end PackageClosure
