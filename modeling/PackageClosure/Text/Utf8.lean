set_option autoImplicit false

namespace PackageClosure

abbrev Bytes := List UInt8

namespace Text

inductive Utf8Error where
  -- At `index` a sequence starts of which only the first `length` bytes could belong to a
  -- character (at least one byte is always named).
  | invalid (length index : Nat)
  | incomplete (index : Nat)
deriving DecidableEq, Repr

def Utf8Error.message : Utf8Error → String
  | .invalid length index => s!"invalid utf-8 sequence of {length} bytes from index {index}"
  | .incomplete index => s!"incomplete utf-8 byte sequence from index {index}"

def between (low high byte : UInt8) : Bool := low ≤ byte && byte ≤ high

def isContinuation (byte : UInt8) : Bool := between 0x80 0xBF byte

structure Lead where
  low : UInt8
  high : UInt8
  more : Nat

-- Overlong forms, surrogates and numbers past U+10FFFF are excluded by the second byte.
def Lead.ofByte? (byte : UInt8) : Option Lead :=
  if between 0xC2 0xDF byte then some ⟨0x80, 0xBF, 0⟩
  else if byte = 0xE0 then some ⟨0xA0, 0xBF, 1⟩
  else if byte = 0xED then some ⟨0x80, 0x9F, 1⟩
  else if between 0xE1 0xEF byte then some ⟨0x80, 0xBF, 1⟩
  else if byte = 0xF0 then some ⟨0x90, 0xBF, 2⟩
  else if byte = 0xF4 then some ⟨0x80, 0x8F, 2⟩
  else if between 0xF1 0xF3 byte then some ⟨0x80, 0xBF, 2⟩
  else none

def assemble (lead : UInt8) (tail : Bytes) : Char :=
  let head := match tail.length with
    | 1 => lead.toNat % 32
    | 2 => lead.toNat % 16
    | _ => lead.toNat % 8
  Char.ofNat (tail.foldl (fun number byte => number * 64 + byte.toNat % 64) head)

def decodeFrom (index : Nat) : Bytes → Except Utf8Error (List Char)
  | [] => .ok []
  | first :: rest =>
      if first < 0x80 then
        return Char.ofNat first.toNat :: (← decodeFrom (index + 1) rest)
      else
        match Lead.ofByte? first with
        | none => .error (.invalid 1 index)
        | some lead =>
            match rest with
            | [] => .error (.incomplete index)
            | second :: rest =>
                if !between lead.low lead.high second then .error (.invalid 1 index)
                else if lead.more = 0 then
                  return assemble first [second] :: (← decodeFrom (index + 2) rest)
                else
                  match rest with
                  | [] => .error (.incomplete index)
                  | third :: rest =>
                      if !isContinuation third then .error (.invalid 2 index)
                      else if lead.more = 1 then
                        return assemble first [second, third] :: (← decodeFrom (index + 3) rest)
                      else
                        match rest with
                        | [] => .error (.incomplete index)
                        | fourth :: rest =>
                            if !isContinuation fourth then .error (.invalid 3 index)
                            else
                              return assemble first [second, third, fourth] ::
                                (← decodeFrom (index + 4) rest)

def decodeUtf8 (bytes : Bytes) : Except Utf8Error String :=
  (decodeFrom 0 bytes).map String.ofList

def encodeUtf8 (text : String) : Bytes := text.toUTF8.data.toList

-- The text that the bytes encode, with something else in place of each character and of the bytes
-- of every failure. The count bounds the failures.
def decodeWith (kept : Char → List Char) (replacement : Bytes → List Char) : Nat → Bytes → List Char
  | 0, _ => []
  | more + 1, bytes =>
      let before (index : Nat) : List Char :=
        (((decodeFrom 0 (bytes.take index)).toOption).getD []).flatMap kept
      match decodeFrom 0 bytes with
      | .ok text => text.flatMap kept
      | .error (.incomplete index) => before index ++ replacement (bytes.drop index)
      | .error (.invalid length index) =>
          let wrong := (bytes.drop index).take length
          before index ++ replacement wrong ++
            decodeWith kept replacement more (bytes.drop (index + length))

def decodeLossy (bytes : Bytes) : String :=
  String.ofList (decodeWith (fun c => [c]) (fun _ => ['\uFFFD']) (bytes.length + 1) bytes)

end Text

end PackageClosure
