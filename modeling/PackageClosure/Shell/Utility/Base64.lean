import PackageClosure.Shell.Utility.Lines

set_option autoImplicit false

namespace PackageClosure.Shell.Utility

namespace Base64

def alphabet : List Char :=
  "ABCDEFGHIJKLMNOPQRSTUVWXYZabcdefghijklmnopqrstuvwxyz0123456789+/".toList

def digit (number : Nat) : Char := alphabet.getD (number % 64) '='

def encode : Bytes → List Char
  | first :: second :: third :: rest =>
      let number := first.toNat * 65536 + second.toNat * 256 + third.toNat
      digit (number / 262144) :: digit (number / 4096) :: digit (number / 64) :: digit number ::
        encode rest
  | [first, second] =>
      let number := first.toNat * 65536 + second.toNat * 256
      [digit (number / 262144), digit (number / 4096), digit (number / 64), '=']
  | [first] =>
      let number := first.toNat * 65536
      [digit (number / 262144), digit (number / 4096), '=', '=']
  | [] => []

def bytesOf (count number : Nat) : Bytes :=
  ([number / 65536, number / 256, number].map UInt8.ofNat).take count

def decode : List Char → Bytes × Bool
  | a :: b :: c :: d :: rest =>
      match alphabet.idxOf? a, alphabet.idxOf? b, alphabet.idxOf? c, alphabet.idxOf? d with
      | some a, some b, some c, some d =>
          let (more, whole) := decode rest
          (bytesOf 3 (((a * 64 + b) * 64 + c) * 64 + d) ++ more, whole)
      | some a, some b, some c, none =>
          let bytes := bytesOf 2 (((a * 64 + b) * 64 + c) * 64)
          if d = '=' then
            let (more, whole) := decode rest
            (bytes ++ more, whole)
          else (bytes, false)
      | some a, some b, none, _ =>
          let bytes := bytesOf 1 ((a * 64 + b) * 4096)
          if c = '=' && d = '=' then
            let (more, whole) := decode rest
            (bytes ++ more, whole)
          else (bytes, false)
      | _, _, _, _ => ([], false)
  | [] => ([], true)
  | rest =>
      match rest.map alphabet.idxOf? with
      | [some a, some b] => (bytesOf 1 ((a * 64 + b) * 4096), false)
      | [some a, some b, some c] => (bytesOf 2 (((a * 64 + b) * 64 + c) * 64), false)
      | _ => ([], false)

def wrapped (width : Nat) : Nat → List Char → List Char
  | 0, _ => []
  | fuel + 1, text =>
      if text.isEmpty then []
      else text.take width ++ '\n' :: wrapped width fuel (text.drop width)

end Base64

def convertBase64 : Utility :=
  taking ⟨"di", "w", [("decode", 'd'), ("wrap", 'w'), ("ignore-garbage", 'i')]⟩ 1 fun given => do
    let source := given.operands.headD "-"
    match ← readOperand source with
    | .error problem =>
        say s!"{spelled source}: {problem}"
        return 1
    | .ok bytes =>
        if given.has 'd' then
          let text := (charsOf bytes).filter fun c =>
            c ≠ '\n' && (!given.has 'i' || c = '=' || Base64.alphabet.contains c)
          let (decoded, whole) := Base64.decode text
          emitBytes decoded
          if whole then return 0
          else
            say "invalid input"
            return 1
        else
          let text := Base64.encode bytes
          let wrap := (given.value? 'w').getD "76"
          match wrap.toNat? with
          | none =>
              say s!"invalid wrap size: {quoted wrap}"
              return 1
          | some 0 =>
              emitBytes (bytesOf text)
              return 0
          | some width =>
              emitBytes (bytesOf (Base64.wrapped width (text.length + 1) text))
              return 0

end PackageClosure.Shell.Utility
