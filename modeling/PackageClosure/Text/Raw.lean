import PackageClosure.Text.Utf8

set_option autoImplicit false

namespace PackageClosure.Text

def stray (byte : UInt8) : Char := Char.ofNat (0x10FF00 + byte.toNat)

def isStray (c : Char) : Bool := 0x10FF80 ≤ c.toNat

def rawChar (c : Char) : List Char :=
  if isStray c then (encodeUtf8 (String.singleton c)).map stray else [c]

theorem rawChar_ne_nil (c : Char) : rawChar c ≠ [] := by
  unfold rawChar
  split
  · intro none
    have positive := c.utf8Size_pos
    have size := congrArg List.length none
    simp [encodeUtf8] at size
  · simp

def raw (text : String) : String := String.ofList (text.toList.flatMap rawChar)

def rawBytes (text : List Char) : Bytes :=
  text.flatMap fun c =>
    if isStray c then [UInt8.ofNat (c.toNat - 0x10FF00)] else encodeUtf8 (String.singleton c)

def rawText (bytes : Bytes) : List Char :=
  decodeWith rawChar (List.map stray) (bytes.length + 1) bytes

-- A raw text with the replacement character for bytes that belong to no character.
def shown (text : String) : String :=
  if text.toList.any isStray then decodeLossy (rawBytes text.toList) else text

def byteChars (text : List Char) : List Char :=
  (rawBytes text).map fun byte => Char.ofNat byte.toNat

def rawLe (left right : String) : Bool :=
  if left.toList.any isStray || right.toList.any isStray then
    decide (rawBytes left.toList ≤ rawBytes right.toList)
  else decide (left ≤ right)

def rawLength : List Char → Nat
  | [] => 0
  | c :: rest => (if isStray c then 1 else c.utf8Size) + rawLength rest

theorem length_le_rawLength (text : List Char) : text.length ≤ rawLength text := by
  induction text with
  | nil => simp
  | cons c rest ih =>
      have positive := c.utf8Size_pos
      simp only [rawLength, List.length_cons]
      split <;> omega

end PackageClosure.Text
