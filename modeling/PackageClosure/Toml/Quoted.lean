import PackageClosure.Toml.Scanner

set_option autoImplicit false

namespace PackageClosure.Toml

namespace Quoted

def isPrintable (c : Char) : Bool := c = '\t' || (0x20 ≤ c.toNat && c.toNat ≠ 0x7F)

def isBasic (c : Char) : Bool := isPrintable c && c ≠ '"' && c ≠ '\\'

def isLiteral (c : Char) : Bool := isPrintable c && c ≠ '\''

def hexDigitValue? (c : Char) : Option Nat :=
  if '0' ≤ c ∧ c ≤ '9' then some (c.toNat - '0'.toNat)
  else if 'a' ≤ c ∧ c ≤ 'f' then some (c.toNat - 'a'.toNat + 10)
  else if 'A' ≤ c ∧ c ≤ 'F' then some (c.toNat - 'A'.toNat + 10)
  else none

def scalar? (digits : List Char) : Option Char := do
  let code ← digits.foldlM (fun code c => (hexDigitValue? c).map (code * 16 + ·)) 0
  if code < 0xD800 ∨ (0xDFFF < code ∧ code < 0x110000) then return Char.ofNat code else none

def shortEscape? (c : Char) : Option Char :=
  match c with
  | 'b' => some '\x08'
  | 't' => some '\t'
  | 'n' => some '\n'
  | 'f' => some '\x0c'
  | 'r' => some '\r'
  | '"' => some '"'
  | '\\' => some '\\'
  | _ => none

def basicLine : List Char → Option (List Char × List Char)
  | [] => none
  | '"' :: rest => some ([], rest)
  | '\\' :: 'u' :: a :: b :: c :: d :: rest => do
      let code ← scalar? [a, b, c, d]
      let (text, left) ← basicLine rest
      return (code :: text, left)
  | '\\' :: 'U' :: a :: b :: c :: d :: e :: f :: g :: h :: rest => do
      let code ← scalar? [a, b, c, d, e, f, g, h]
      let (text, left) ← basicLine rest
      return (code :: text, left)
  | '\\' :: letter :: rest => do
      let escaped ← shortEscape? letter
      let (text, left) ← basicLine rest
      return (escaped :: text, left)
  | c :: rest => do
      if !isBasic c then none
      let (text, left) ← basicLine rest
      return (c :: text, left)

-- What the lines of a basic string are read for: their text, the line break that a backslash
-- at the end of a line promises, or the first character after it that is not blank.
inductive Fold where
  | text
  | lineBreak
  | blanks
deriving DecidableEq

def basicLines (fold : Fold) : List Char → Option (List Char × List Char)
  | [] => none
  | '\r' :: '\n' :: rest =>
      match fold with
      | .text => do
          let (text, left) ← basicLines .text rest
          return ('\n' :: text, left)
      | _ => basicLines .blanks rest
  | '\\' :: 'u' :: a :: b :: c :: d :: rest => do
      if fold = .lineBreak then none
      let code ← scalar? [a, b, c, d]
      let (text, left) ← basicLines .text rest
      return (code :: text, left)
  | '\\' :: 'U' :: a :: b :: c :: d :: e :: f :: g :: h :: rest => do
      if fold = .lineBreak then none
      let code ← scalar? [a, b, c, d, e, f, g, h]
      let (text, left) ← basicLines .text rest
      return (code :: text, left)
  | '\\' :: letter :: rest =>
      if fold = .lineBreak then none
      else if letter = ' ' ∨ letter = '\t' then basicLines .lineBreak rest
      else if letter = '\n' then basicLines .blanks rest
      else if letter = '\r' then
        match rest with
        | '\n' :: rest => basicLines .blanks rest
        | _ => none
      else do
        let escaped ← shortEscape? letter
        let (text, left) ← basicLines .text rest
        return (escaped :: text, left)
  | '"' :: '"' :: '"' :: '"' :: '"' :: rest =>
      if fold = .lineBreak then none else some (['"', '"'], rest)
  | '"' :: '"' :: '"' :: '"' :: rest => if fold = .lineBreak then none else some (['"'], rest)
  | '"' :: '"' :: '"' :: rest => if fold = .lineBreak then none else some ([], rest)
  | c :: rest =>
      match fold with
      | .text => do
          if !(isBasic c || c = '"' || c = '\n') then none
          let (text, left) ← basicLines .text rest
          return (c :: text, left)
      | .lineBreak =>
          if c = ' ' ∨ c = '\t' then basicLines .lineBreak rest
          else if c = '\n' then basicLines .blanks rest
          else none
      | .blanks =>
          if c = ' ' ∨ c = '\t' ∨ c = '\n' then basicLines .blanks rest
          else do
            if !(isBasic c || c = '"') then none
            let (text, left) ← basicLines .text rest
            return (c :: text, left)

def literalLine : List Char → Option (List Char × List Char)
  | [] => none
  | '\'' :: rest => some ([], rest)
  | c :: rest => do
      if !isLiteral c then none
      let (text, left) ← literalLine rest
      return (c :: text, left)

def literalLines : List Char → Option (List Char × List Char)
  | [] => none
  | '\'' :: '\'' :: '\'' :: '\'' :: '\'' :: rest => some (['\'', '\''], rest)
  | '\'' :: '\'' :: '\'' :: '\'' :: rest => some (['\''], rest)
  | '\'' :: '\'' :: '\'' :: rest => some ([], rest)
  | '\r' :: '\n' :: rest => do
      let (text, left) ← literalLines rest
      return ('\n' :: text, left)
  | c :: rest => do
      if !(isLiteral c || c = '\'' || c = '\n') then none
      let (text, left) ← literalLines rest
      return (c :: text, left)

def dropLineBreak : List Char → List Char
  | '\n' :: rest => rest
  | '\r' :: '\n' :: rest => rest
  | text => text

def line : Scanner (List Char) := fun
  | '"' :: rest => basicLine rest
  | '\'' :: rest => literalLine rest
  | _ => none

def string : Scanner (List Char) := fun
  | '"' :: '"' :: '"' :: rest => basicLines .text (dropLineBreak rest)
  | '\'' :: '\'' :: '\'' :: rest => literalLines (dropLineBreak rest)
  | text => line text

end Quoted

end PackageClosure.Toml
