import PackageClosure.Counting
import PackageClosure.Proofs.Text.ByteOrder

set_option autoImplicit false

namespace PackageClosure.Text

theorem between_iff (low high byte : UInt8) :
    between low high byte = true ↔ low.toNat ≤ byte.toNat ∧ byte.toNat ≤ high.toNat := by
  simp [between, UInt8.le_iff_toNat_le]

theorem bind_cons (c : Char) (decoded : Except Utf8Error (List Char)) :
    (do return c :: (← decoded)) = decoded.map (c :: ·) := by
  cases decoded <;> rfl

theorem isContinuation_iff (byte : UInt8) :
    isContinuation byte = true ↔ 0x80 ≤ byte.toNat ∧ byte.toNat ≤ 0xBF :=
  between_iff 0x80 0xBF byte

section

variable {first second third fourth : UInt8} (index : Nat) (rest : Bytes)

theorem decodeFrom_one (small : first.toNat < 0x80) :
    decodeFrom index (first :: rest) =
      (decodeFrom (index + 1) rest).map (Char.ofNat first.toNat :: ·) := by
  rw [decodeFrom, if_pos (UInt8.lt_iff_toNat_lt.mpr small), bind_cons]

theorem decodeFrom_two (low : 0xC2 ≤ first.toNat) (high : first.toNat ≤ 0xDF)
    (continues : isContinuation second = true) :
    decodeFrom index (first :: second :: rest) =
      (decodeFrom (index + 2) rest).map (assemble first [second] :: ·) := by
  have lead : Lead.ofByte? first = some ⟨0x80, 0xBF, 0⟩ := by
    rw [Lead.ofByte?, if_pos ((between_iff 0xC2 0xDF first).mpr ⟨low, high⟩)]
  have large : ¬ first < 0x80 := by
    simp only [UInt8.lt_iff_toNat_lt, UInt8.reduceToNat]
    omega
  have within : between 0x80 0xBF second = true := continues
  simp [decodeFrom, large, lead, within, ← bind_cons]

theorem decodeFrom_three (low : 0xE0 ≤ first.toNat) (high : first.toNat ≤ 0xEF)
    (continues : isContinuation second = true) (long : first.toNat = 0xE0 → 0xA0 ≤ second.toNat)
    (single : first.toNat = 0xED → second.toNat ≤ 0x9F) (ends : isContinuation third = true) :
    decodeFrom index (first :: second :: third :: rest) =
      (decodeFrom (index + 3) rest).map (assemble first [second, third] :: ·) := by
  have bounds := (isContinuation_iff second).mp continues
  obtain ⟨lead, found, within, more⟩ : ∃ lead, Lead.ofByte? first = some lead ∧
      between lead.low lead.high second = true ∧ lead.more = 1 := by
    simp only [Lead.ofByte?, between_iff, ← UInt8.toNat_inj, UInt8.reduceToNat]
    split_ifs <;>
      first
      | omega
      | exact ⟨_, rfl, by simp only [UInt8.reduceToNat]; omega, rfl⟩
  have large : ¬ first < 0x80 := by
    simp only [UInt8.lt_iff_toNat_lt, UInt8.reduceToNat]
    omega
  simp [decodeFrom, large, found, within, more, ends, ← bind_cons]

theorem decodeFrom_four (low : 0xF0 ≤ first.toNat) (high : first.toNat ≤ 0xF4)
    (continues : isContinuation second = true) (long : first.toNat = 0xF0 → 0x90 ≤ second.toNat)
    (single : first.toNat = 0xF4 → second.toNat ≤ 0x8F) (goesOn : isContinuation third = true)
    (ends : isContinuation fourth = true) :
    decodeFrom index (first :: second :: third :: fourth :: rest) =
      (decodeFrom (index + 4) rest).map (assemble first [second, third, fourth] :: ·) := by
  have bounds := (isContinuation_iff second).mp continues
  obtain ⟨lead, found, within, more⟩ : ∃ lead, Lead.ofByte? first = some lead ∧
      between lead.low lead.high second = true ∧ lead.more = 2 := by
    simp only [Lead.ofByte?, between_iff, ← UInt8.toNat_inj, UInt8.reduceToNat]
    split_ifs <;>
      first
      | omega
      | exact ⟨_, rfl, by simp only [UInt8.reduceToNat]; omega, rfl⟩
  have large : ¬ first < 0x80 := by
    simp only [UInt8.lt_iff_toNat_lt, UInt8.reduceToNat]
    omega
  simp [decodeFrom, large, found, within, more, goesOn, ends, ← bind_cons]

end

theorem isContinuation_ofNat (n : Nat) : isContinuation (UInt8.ofNat (n % 64 + 128)) = true := by
  rw [isContinuation_iff, UInt8.toNat_ofNat']
  omega

theorem decodeFrom_utf8EncodeChar (c : Char) (index : Nat) (rest : Bytes) :
    decodeFrom index (String.utf8EncodeChar c ++ rest) =
      (decodeFrom (index + (String.utf8EncodeChar c).length) rest).map (c :: ·) := by
  have bound : c.val.toNat < 0x110000 := Counting.toNat_lt c
  have valid : c.val.toNat < 0xD800 ∨ 0xDFFF < c.val.toNat := by
    rcases c.valid with low | ⟨high, _⟩
    · exact .inl low
    · exact .inr high
  have back : Char.ofNat c.val.toNat = c := Char.ofNat_toNat c
  simp only [String.utf8EncodeChar]
  generalize c.val.toNat = n at *
  subst back
  split_ifs with one two three
  · have value : (UInt8.ofNat n).toNat = n := by
      rw [UInt8.toNat_ofNat']
      omega
    have small : (UInt8.ofNat n).toNat < 0x80 := by omega
    have read := decodeFrom_one index rest small
    rwa [value] at read
  · have whole : assemble (UInt8.ofNat (n / 64 % 32 + 192)) [UInt8.ofNat (n % 64 + 128)] =
        Char.ofNat n := by
      refine congrArg Char.ofNat ?_
      simp only [List.length_singleton, List.foldl_cons, List.foldl_nil, UInt8.toNat_ofNat']
      omega
    rw [← whole]
    exact decodeFrom_two index rest (by rw [UInt8.toNat_ofNat']; omega)
      (by rw [UInt8.toNat_ofNat']; omega) (isContinuation_ofNat n)
  · have whole : assemble (UInt8.ofNat (n / 4096 % 16 + 224))
        [UInt8.ofNat (n / 64 % 64 + 128), UInt8.ofNat (n % 64 + 128)] = Char.ofNat n := by
      refine congrArg Char.ofNat ?_
      simp only [List.length_cons, List.length_nil, List.foldl_cons, List.foldl_nil,
        UInt8.toNat_ofNat']
      omega
    rw [← whole]
    refine decodeFrom_three index rest ?_ ?_ (isContinuation_ofNat (n / 64)) ?_ ?_
      (isContinuation_ofNat n)
    all_goals
      simp only [UInt8.toNat_ofNat']
      omega
  · have whole : assemble (UInt8.ofNat (n / 262144 % 8 + 240))
        [UInt8.ofNat (n / 4096 % 64 + 128), UInt8.ofNat (n / 64 % 64 + 128),
          UInt8.ofNat (n % 64 + 128)] = Char.ofNat n := by
      refine congrArg Char.ofNat ?_
      simp only [List.length_cons, List.length_nil, List.foldl_cons, List.foldl_nil,
        UInt8.toNat_ofNat']
      omega
    rw [← whole]
    refine decodeFrom_four index rest ?_ ?_ (isContinuation_ofNat (n / 4096)) ?_ ?_
      (isContinuation_ofNat (n / 64)) (isContinuation_ofNat n)
    all_goals
      simp only [UInt8.toNat_ofNat']
      omega

theorem decodeFrom_flatMap (text : List Char) (index : Nat) :
    decodeFrom index (text.flatMap String.utf8EncodeChar) = .ok text := by
  induction text generalizing index with
  | nil => rfl
  | cons c rest ih =>
      rw [List.flatMap_cons, decodeFrom_utf8EncodeChar, ih]
      rfl

theorem decodeUtf8_encodeUtf8 (text : String) : decodeUtf8 (encodeUtf8 text) = .ok text := by
  rw [decodeUtf8, encodeUtf8_eq, decodeFrom_flatMap]
  exact congrArg Except.ok String.ofList_toList

theorem decodeLossy_encodeUtf8 (text : String) : decodeLossy (encodeUtf8 text) = text := by
  rw [decodeLossy, decodeWith, encodeUtf8_eq, decodeFrom_flatMap]
  simp

theorem decodeFrom_eq_nil (index : Nat) (bytes : Bytes) (ok : decodeFrom index bytes = .ok []) :
    bytes = [] := by
  have more (c : Char) (decoded : Except Utf8Error (List Char)) :
      decoded.map (c :: ·) ≠ .ok [] := by
    cases decoded <;> simp [Except.map]
  cases bytes with
  | nil => rfl
  | cons first rest =>
      rw [decodeFrom] at ok
      simp only [bind_cons] at ok
      repeat' split at ok
      all_goals first | cases ok | exact absurd ok (more _ _)

theorem decodeLossy_ne_empty (bytes : Bytes) (filled : bytes ≠ []) : decodeLossy bytes ≠ "" := by
  intro empty
  rw [decodeLossy, String.ofList_eq_empty_iff, decodeWith] at empty
  split at empty
  · rename_i text decoded
    rw [List.flatMap_singleton'] at empty
    exact filled (decodeFrom_eq_nil 0 bytes (empty ▸ decoded))
  · simp at empty
  · simp at empty

end PackageClosure.Text
