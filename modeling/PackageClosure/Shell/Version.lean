set_option autoImplicit false

namespace PackageClosure.Shell

namespace Version

-- The rank of what stands at a place that is no digit. A tilde comes even before the end.
def rank : List Char → Int
  | [] => -1
  | c :: _ =>
      if c.isDigit then 0
      else if c.isAlpha then c.toNat
      else if c = '~' then -2
      else c.toNat + 256

def startsNonDigit (text : List Char) : Bool := text.head?.any (!·.isDigit)

def compareLetters : List Char → List Char → Except Ordering (List Char × List Char)
  | [], [] => .ok ([], [])
  | left, right =>
      if !startsNonDigit left && !startsNonDigit right then .ok (left, right)
      else if rank left ≠ rank right then .error (compare (rank left) (rank right))
      else
        match left, right with
        | _ :: one, _ :: other => compareLetters one other
        | _, _ => .ok (left.drop 1, right.drop 1)

def number (text : List Char) : Nat × List Char :=
  let (digits, rest) := text.span Char.isDigit
  (Nat.ofDigitChars 10 digits 0, rest)

def compareParts : Nat → List Char → List Char → Ordering
  | 0, _, _ => .eq
  | fuel + 1, left, right =>
      if left.isEmpty && right.isEmpty then .eq
      else
        match compareLetters left right with
        | .error order => order
        | .ok (left, right) =>
            let (one, left) := number left
            let (other, right) := number right
            match compare one other with
            | .eq => compareParts fuel left right
            | order => order

def dropEndings : Nat → List Char → List Char
  | fuel + 1, '.' :: c :: rest =>
      if c.isAlpha || c = '~' then
        dropEndings fuel (rest.dropWhile fun c => c.isAlphanum || c = '~')
      else '.' :: c :: rest
  | _, text => text

def stemLength : Nat → Nat → List Char → Nat
  | 0, passed, _ => passed
  | _, passed, [] => passed
  | fuel + 1, passed, _ :: rest =>
      let after := dropEndings rest.length rest
      if after.isEmpty then passed + 1
      else stemLength fuel (passed + 1 + (rest.length - after.length)) after

def stem (text : List Char) : List Char := text.take (stemLength text.length 0 text)

def compareNames (left right : List Char) : Ordering :=
  let place (name : List Char) : Nat :=
    match name with
    | [] => 0
    | ['.'] => 1
    | ['.', '.'] => 2
    | '.' :: _ => 3
    | _ => 4
  match compare (place left) (place right) with
  | .eq =>
      let fuel := left.length + right.length + 1
      match compareParts fuel (stem left) (stem right) with
      | .eq => compareParts fuel left right
      | order => order
  | order => order

end Version

end PackageClosure.Shell
