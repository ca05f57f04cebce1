import Mathlib.Data.String.Basic
import PackageClosure.Counting
import PackageClosure.Text.Utf8

set_option autoImplicit false

namespace PackageClosure.Text

theorem encodeUtf8_eq (text : String) :
    encodeUtf8 text = text.toList.flatMap String.utf8EncodeChar := by
  rw [encodeUtf8, String.toUTF8_eq_toByteArray, ← String.utf8Encode_toList, List.utf8Encode,
    List.toList_data_toByteArray]

theorem digits_of_lt {m n : Nat} (less : m < n) :
    m / 64 < n / 64 ∨ m / 64 = n / 64 ∧ m % 64 < n % 64 := by
  omega

theorem ofNat_cons_lt {m n : Nat} (left right : Bytes) (small : m < 256) (below : n < 256) :
    UInt8.ofNat m :: left < UInt8.ofNat n :: right ↔ m < n ∨ m = n ∧ left < right := by
  rw [List.cons_lt_cons_iff, UInt8.lt_iff_toNat_lt, ← UInt8.toNat_inj, UInt8.toNat_ofNat',
    UInt8.toNat_ofNat', Nat.mod_eq_of_lt small, Nat.mod_eq_of_lt below]

theorem long_append_lt {m n : Nat} (less : m < n) (bound : n < 0x110000) (left right : Bytes) :
    [UInt8.ofNat (m / 262144 % 8 + 240), UInt8.ofNat (m / 4096 % 64 + 128),
        UInt8.ofNat (m / 64 % 64 + 128), UInt8.ofNat (m % 64 + 128)] ++ left <
      [UInt8.ofNat (n / 262144 % 8 + 240), UInt8.ofNat (n / 4096 % 64 + 128),
        UInt8.ofNat (n / 64 % 64 + 128), UInt8.ofNat (n % 64 + 128)] ++ right := by
  simp only [List.cons_append, List.nil_append]
  rw [ofNat_cons_lt _ _ (by omega) (by omega), ofNat_cons_lt _ _ (by omega) (by omega),
    ofNat_cons_lt _ _ (by omega) (by omega), ofNat_cons_lt _ _ (by omega) (by omega)]
  rcases digits_of_lt less with before | ⟨same, last⟩
  · rcases digits_of_lt before with before | ⟨same, third⟩
    · rcases digits_of_lt before with first | ⟨same, second⟩
      · exact .inl (by omega)
      · exact .inr ⟨by omega, .inl (by omega)⟩
    · exact .inr ⟨by omega, .inr ⟨by omega, .inl (by omega)⟩⟩
  · exact .inr ⟨by omega, .inr ⟨by omega, .inr ⟨by omega, .inl (by omega)⟩⟩⟩

-- Longer encodings begin with greater bytes, and those of one length hold the digits of their
-- characters in order.
theorem utf8EncodeChar_append_lt (one other : Char) (less : one < other) (left right : Bytes) :
    String.utf8EncodeChar one ++ left < String.utf8EncodeChar other ++ right := by
  have bound : other.val.toNat < 0x110000 := Counting.toNat_lt other
  have numbers : one.val.toNat < other.val.toNat := less
  simp only [String.utf8EncodeChar]
  generalize one.val.toNat = m at *
  generalize other.val.toNat = n at *
  by_cases long : m ≤ 0xFFFF
  · split_ifs <;> simp only [List.cons_append, List.nil_append, List.cons_lt_cons_iff,
      UInt8.lt_iff_toNat_lt, ← UInt8.toNat_inj, UInt8.toNat_ofNat'] <;> omega
  · repeat rw [if_neg (by omega)]
    exact long_append_lt numbers bound left right

theorem flatMap_utf8EncodeChar_lt {left right : List Char} (less : left < right) :
    left.flatMap String.utf8EncodeChar < right.flatMap String.utf8EncodeChar := by
  induction left generalizing right with
  | nil =>
      cases right with
      | nil => exact absurd less (List.lt_irrefl [])
      | cons other more =>
          rw [List.flatMap_nil, List.flatMap_cons]
          cases shape : String.utf8EncodeChar other with
          | nil => exact absurd shape String.utf8EncodeChar_ne_nil
          | cons byte rest => exact List.nil_lt_cons _ _
  | cons one rest ih =>
      cases right with
      | nil => exact absurd less (List.not_lt_nil _)
      | cons other more =>
          rw [List.flatMap_cons, List.flatMap_cons]
          rcases List.cons_lt_cons_iff.mp less with before | ⟨rfl, below⟩
          · exact utf8EncodeChar_append_lt one other before _ _
          · exact List.append_left_lt (ih below)

theorem encodeUtf8_lt_iff (left right : String) :
    encodeUtf8 left < encodeUtf8 right ↔ left < right := by
  have forward {one other : String} (less : one < other) : encodeUtf8 one < encodeUtf8 other := by
    rw [encodeUtf8_eq, encodeUtf8_eq]
    exact flatMap_utf8EncodeChar_lt (String.lt_iff_toList_lt.mp less)
  refine ⟨fun less => ?_, forward⟩
  rcases lt_trichotomy left right with before | rfl | after
  · exact before
  · exact absurd less (List.lt_irrefl _)
  · exact absurd (forward after) (List.lt_asymm less)

end PackageClosure.Text
