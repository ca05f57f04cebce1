import PackageClosure.Disk.Lookup

set_option autoImplicit false

namespace PackageClosure

abbrev Environment := List (String × String)

def Environment.set (environment : Environment) (name value : String) : Environment :=
  (name, value) :: environment.filter (·.1 ≠ name)

def Environment.raw (environment : Environment) : Environment :=
  environment.map fun entry => (Text.raw entry.1, Text.raw entry.2)

structure Launch where
  program : String
  arguments : List String
deriving DecidableEq, Repr

namespace Disk

def binaryMark : Bytes :=
  [0x7F, 0x45, 0x4C, 0x46, 0x02, 0x01, 0x01, 0x00, 0x00, 0x00, 0x00, 0x00, 0x00, 0x00, 0x00, 0x00,
    0x03, 0x00, 0x3E, 0x00, 0x01, 0x00, 0x00, 0x00, 0xE0, 0xF1, 0x00, 0x00, 0x00, 0x00, 0x00, 0x00]

def binary (name : String) : Bytes := binaryMark ++ Text.encodeUtf8 name

def programNamed? (bytes : Bytes) : Option String :=
  if binaryMark.isPrefixOf bytes then
    some (String.ofList (Text.rawText (bytes.drop binaryMark.length)))
  else none

def isGap (byte : UInt8) : Bool := byte = 0x20 || byte = 0x09

def withoutGaps (line : Bytes) : Bytes := (line.reverse.dropWhile isGap).reverse

def headLength : Nat := 256

-- The line that begins a file after its first two bytes. If it does not end soon, the name in it
-- has to.
def firstLine? (bytes : Bytes) : Option Bytes :=
  let head := (bytes ++ List.replicate headLength 0).take headLength
  if head.contains 0x0A then some (withoutGaps ((head.takeWhile (· ≠ 0x0A)).drop 2))
  else
    let name := (head.drop 2).dropWhile isGap
    if name.any fun byte => isGap byte || byte = 0 then some (withoutGaps (head.dropLast.drop 2))
    else none

def interpreter? (bytes : Bytes) : Option (Path × Option String) :=
  match bytes with
  | 0x23 :: 0x21 :: _ => do
      let line := (← firstLine? bytes).dropWhile isGap
      if line.isEmpty then none
      else
        let (program, rest) := line.span fun byte => !isGap byte && byte ≠ 0
        let argument := (rest.dropWhile isGap).takeWhile (· ≠ 0)
        let text (bytes : Bytes) : String := String.ofList (Text.rawText bytes)
        return (⟨text program⟩, if argument.isEmpty then none else some (text argument))
  | _ => none

def interpreterLimit : Nat := 5

def load (disk : Disk) (current : Held) : Nat → Path → List String → Except SystemError Launch
  | more, path, arguments =>
      match disk.stat current path with
      | .error (.system error) => .error error
      | .error _ => .error .notFound
      | .ok (.file file) =>
          if !isRunnable file.mode then .error .permissionDenied
          else
            match programNamed? file.bytes, interpreter? file.bytes, more with
            | some name, _, _ => .ok ⟨name, arguments⟩
            | none, none, _ => .error .execFormat
            | none, some _, 0 => .error .tooManyLinks
            | none, some (program, argument), more + 1 =>
                load disk current more program (argument.toList ++ path.text :: arguments)
      | .ok _ => .error .permissionDenied

def keepDenied (failed error : SystemError) : SystemError :=
  if failed = .permissionDenied then failed else error

-- Tries the directories in turn. A file that may not be run does not end the search, but is what
-- a search without success reports.
def searchIn (disk : Disk) (current : Held) (name : String) (arguments : List String)
    (failed : SystemError) : List (List Char) → Except SystemError Launch
  | [] => .error failed
  | directory :: rest =>
      let path : Path :=
        if directory.isEmpty then ⟨name⟩ else ⟨String.ofList directory ++ "/" ++ name⟩
      match disk.load current interpreterLimit path arguments with
      | .ok launch => .ok launch
      | .error .permissionDenied => searchIn disk current name arguments .permissionDenied rest
      | .error .notFound => searchIn disk current name arguments (keepDenied failed .notFound) rest
      | .error .notDirectory =>
          searchIn disk current name arguments (keepDenied failed .notDirectory) rest
      | .error error => .error error

def launch (disk : Disk) (current : Held) (environment : Environment) (name : String)
    (arguments : List String) : Except SystemError Launch :=
  let text := name.toList
  if text.contains '/' then disk.load current interpreterLimit ⟨name⟩ arguments
  else if text.isEmpty then .error .notFound
  else if nameLimit < Text.rawLength text then .error .nameTooLong
  else
    let directories := (environment.lookup "PATH").getD "/bin:/usr/bin"
    disk.searchIn current name arguments .notFound (Text.pieces ':' directories.toList)

end Disk

end PackageClosure
