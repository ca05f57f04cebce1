import PackageClosure.Text.Split

set_option autoImplicit false

namespace PackageClosure.Shell

namespace Mode

def allBits : Nat := 0o7777

def without (bits removed : Nat) : Nat := bits &&& (allBits - (removed &&& allBits))

inductive Operator where
  | add
  | remove
  | replace
deriving DecidableEq

inductive Value where
  | bits (bits : Nat)
  | runnable (bits : Nat)
  | copied (bits : Nat)

structure Change where
  operator : Operator
  affected : Nat
  value : Value
  mentioned : Nat

def forAll (bits : Nat) : Nat :=
  let bit (mask : Nat) : Nat := if bits &&& (mask * 0o111) = 0 then 0 else mask * 0o111
  bit 4 + bit 2 + bit 1

def Change.apply (change : Change) (directory : Bool) (mask mode : Nat) : Nat :=
  let omitted := if directory then without 0o6000 change.mentioned else 0
  let value := match change.value with
    | .bits bits => bits
    | .runnable bits =>
        if directory || mode &&& 0o111 ≠ 0 then bits ||| 0o111 else bits
    | .copied bits => forAll (mode &&& bits)
  let limit := if change.affected = 0 then without allBits mask else change.affected
  let value := without (value &&& limit) omitted
  match change.operator with
  | .add => mode ||| value
  | .remove => without mode value
  | .replace =>
      let kept := (if change.affected = 0 then 0 else without allBits change.affected) ||| omitted
      (mode &&& kept) ||| value

def apply (changes : List Change) (directory : Bool) (mask mode : Nat) : Nat :=
  changes.foldl (fun mode change => change.apply directory mask mode) (mode &&& allBits)

def isOctal (c : Char) : Bool := '0' ≤ c && c ≤ '7'

def octal (digits : List Char) : Nat := Nat.ofDigitChars 8 digits 0

def whom (letter : Char) : Nat :=
  match letter with
  | 'u' => 0o4700
  | 'g' => 0o2070
  | 'o' => 0o1007
  | _ => allBits

def rights (letter : Char) : Nat :=
  match letter with
  | 'r' => 0o444
  | 'w' => 0o222
  | 'x' => 0o111
  | 's' => 0o6000
  | 't' => 0o1000
  | _ => 0

def operator? (c : Char) : Option Operator :=
  match c with
  | '+' => some .add
  | '-' => some .remove
  | '=' => some .replace
  | _ => none

def changesFor (affected : Nat) : Nat → List Char → Option (List Change)
  | 0, _ => none
  | _, [] => some []
  | fuel + 1, sign :: rest => do
      let operator ← operator? sign
      let (text, after) := rest.span fun c => (operator? c).isNone
      let more ← changesFor affected fuel after
      let single : Option Change :=
        match text with
        | ['u'] | ['g'] | ['o'] =>
            some ⟨operator, affected, .copied (text.foldl (fun bits c => bits ||| whom c) 0 &&& 0o777),
              0⟩
        | _ =>
            if text.all "rwxXst".toList.contains then
              let bits := text.foldl (fun bits c => bits ||| rights c) 0
              let value : Value := if text.contains 'X' then .runnable bits else .bits bits
              some ⟨operator, affected, value, if affected = 0 then bits else bits &&& affected⟩
            else if !text.isEmpty && text.all isOctal && affected = 0 then
              some ⟨operator, allBits, .bits (octal text), allBits⟩
            else none
      return (← single) :: more

def changes? (text : String) : Option (List Change) :=
  let letters := text.toList
  if letters.isEmpty then none
  else if letters.all isOctal then
    let bits := octal letters
    if allBits < bits then none
    else
      let mentioned := if 5 ≤ letters.length then allBits else (bits &&& 0o6000) ||| 0o1777
      some [⟨.replace, allBits, .bits bits, mentioned⟩]
  else do
    let clauses ← (Text.pieces ',' letters).mapM fun clause => do
      let (whose, rest) := clause.span "ugoa".toList.contains
      let affected := whose.foldl (fun bits letter => bits ||| whom letter) 0
      if rest.isEmpty then none else changesFor affected (rest.length + 1) rest
    return clauses.flatten

def letters (mode : Nat) : String :=
  let group (shift : Nat) (special : Nat) (set unset : Char) : List Char :=
    let bits := mode / shift % 8
    [if bits &&& 4 = 0 then '-' else 'r', if bits &&& 2 = 0 then '-' else 'w',
      if mode &&& special = 0 then if bits &&& 1 = 0 then '-' else 'x'
      else if bits &&& 1 = 0 then unset else set]
  String.ofList (group 64 0o4000 's' 'S' ++ group 8 0o2000 's' 'S' ++ group 1 0o1000 't' 'T')

def digits (width mode : Nat) : String :=
  let digits := Nat.toDigits 8 mode
  String.ofList (List.replicate (width - digits.length) '0' ++ digits)

def clauses (mask : Nat) : String :=
  let part (letter : Char) (shift : Nat) : String :=
    let bits := (0o777 - mask) / shift % 8
    let right (bit : Nat) (c : Char) : List Char := if bits &&& bit = 0 then [] else [c]
    String.ofList (letter :: '=' :: right 4 'r' ++ right 2 'w' ++ right 1 'x')
  ",".intercalate [part 'u' 64, part 'g' 8, part 'o' 1]

end Mode

end PackageClosure.Shell
