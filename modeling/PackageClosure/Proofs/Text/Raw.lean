import PackageClosure.Path.Raw
import PackageClosure.Proofs.Text.Utf8

set_option autoImplicit false

namespace PackageClosure

namespace Text

theorem toNat_stray (byte : UInt8) : (stray byte).toNat = 0x10FF00 + byte.toNat := by
  have small := byte.toNat_lt
  have valid : (0x10FF00 + byte.toNat).isValidChar := Or.inr ⟨by omega, by omega⟩
  rw [stray, Char.ofNat, dif_pos valid]
  rfl

theorem rawLength_append (left right : List Char) :
    rawLength (left ++ right) = rawLength left + rawLength right := by
  induction left with
  | nil => simp [rawLength]
  | cons c rest ih => simp [rawLength, ih, Nat.add_assoc]

theorem le_utf8EncodeChar (c : Char) (high : 0x80 ≤ c.toNat) :
    ∀ byte ∈ String.utf8EncodeChar c, 0x80 ≤ byte.toNat := by
  have number : 0x80 ≤ c.val.toNat := high
  simp only [String.utf8EncodeChar]
  generalize c.val.toNat = n at *
  split_ifs <;> simp [UInt8.toNat_ofNat'] <;> omega

theorem isStray_stray (c : Char) (byte : UInt8) (isStray_c : isStray c = true)
    (member : byte ∈ String.utf8EncodeChar c) : isStray (stray byte) = true := by
  have high : 0x80 ≤ c.toNat := by
    have := of_decide_eq_true isStray_c
    omega
  have above := le_utf8EncodeChar c high byte member
  simp only [isStray, toNat_stray, decide_eq_true_eq]
  omega

theorem encodeUtf8_singleton (c : Char) :
    encodeUtf8 (String.singleton c) = String.utf8EncodeChar c := by
  simp [encodeUtf8_eq]

theorem rawBytes_rawChar (c : Char) : rawBytes (rawChar c) = String.utf8EncodeChar c := by
  by_cases high : isStray c = true
  · have back (byte : UInt8) (member : byte ∈ String.utf8EncodeChar c) :
        (if isStray (stray byte) then [UInt8.ofNat ((stray byte).toNat - 0x10FF00)]
          else encodeUtf8 (String.singleton (stray byte))) = [byte] := by
      rw [if_pos (isStray_stray c byte high member), toNat_stray]
      simp
    rw [rawChar, if_pos high, encodeUtf8_singleton, rawBytes, List.flatMap_map,
      List.flatMap_congr back]
    simp
  · rw [rawChar, if_neg high, rawBytes, List.flatMap_singleton, if_neg high, encodeUtf8_singleton]

theorem rawBytes_raw (text : String) : rawBytes (raw text).toList = encodeUtf8 text := by
  rw [raw, String.toList_ofList, encodeUtf8_eq]
  induction text.toList with
  | nil => rfl
  | cons c rest ih =>
      rw [List.flatMap_cons, List.flatMap_cons, ← ih, ← rawBytes_rawChar]
      simp [rawBytes]

theorem raw_of_plain (text : String) (plain : (raw text).toList.any isStray = false) :
    raw text = text := by
  have same : text.toList.flatMap rawChar = text.toList.flatMap fun c => [c] := by
    refine List.flatMap_congr fun c member => ?_
    by_cases high : isStray c = true
    · obtain ⟨d, inside⟩ := List.exists_mem_of_ne_nil _ (rawChar_ne_nil c)
      have low := List.any_eq_false.mp plain d (by simpa [raw] using ⟨c, member, inside⟩)
      rw [rawChar, if_pos high, encodeUtf8_singleton] at inside
      obtain ⟨byte, here, rfl⟩ := List.mem_map.mp inside
      exact absurd (isStray_stray c byte high here) low
    · rw [rawChar, if_neg high]
  rw [raw, same]
  simp

theorem shown_raw (text : String) : shown (raw text) = text := by
  rw [shown, rawBytes_raw, decodeLossy_encodeUtf8]
  cases plain : (raw text).toList.any isStray with
  | true => rfl
  | false => exact raw_of_plain text plain

theorem raw_ne_empty (text : String) (filled : text ≠ "") : raw text ≠ "" := by
  intro empty
  rw [← shown_raw text, empty] at filled
  exact filled rfl

theorem rawBytes_ne_nil (text : List Char) (filled : text ≠ []) : rawBytes text ≠ [] := by
  cases text with
  | nil => exact absurd rfl filled
  | cons c rest =>
      rw [rawBytes, List.flatMap_cons]
      split
      · simp
      · rw [encodeUtf8_singleton]
        simp

theorem shown_ne_empty (text : String) (filled : text ≠ "") : shown text ≠ "" := by
  unfold shown
  split
  · refine decodeLossy_ne_empty _ (rawBytes_ne_nil _ ?_)
    simpa using filled
  · exact filled

theorem encodeUtf8_le_iff (left right : String) :
    encodeUtf8 left ≤ encodeUtf8 right ↔ left ≤ right := by
  rw [← List.not_lt, encodeUtf8_lt_iff, String.not_lt]

theorem rawBytes_of_plain (text : String) (plain : text.toList.any isStray = false) :
    rawBytes text.toList = encodeUtf8 text := by
  rw [encodeUtf8_eq, rawBytes]
  refine List.flatMap_congr fun c member => ?_
  rw [if_neg (List.any_eq_false.mp plain c member), encodeUtf8_singleton]

theorem rawLe_iff (left right : String) :
    rawLe left right = true ↔ rawBytes left.toList ≤ rawBytes right.toList := by
  rw [rawLe]
  split
  · exact decide_eq_true_iff
  · rename_i plain
    rw [Bool.or_eq_true, not_or, Bool.not_eq_true, Bool.not_eq_true] at plain
    rw [rawBytes_of_plain left plain.1, rawBytes_of_plain right plain.2, encodeUtf8_le_iff,
      decide_eq_true_iff]

theorem rawLe_trans (first second third : String) (one : rawLe first second = true)
    (two : rawLe second third = true) : rawLe first third = true := by
  rw [rawLe_iff] at *
  exact List.le_trans one two

theorem rawLe_total (left right : String) : (rawLe left right || rawLe right left) = true := by
  rw [Bool.or_eq_true, rawLe_iff, rawLe_iff]
  exact List.le_total _ _

theorem pairwise_mergeSort_rawLe {α : Type} (key : α → String) (entries : List α) :
    (entries.mergeSort fun left right => rawLe (key left) (key right)).Pairwise fun left right =>
      rawBytes (key left).toList ≤ rawBytes (key right).toList := by
  have ordered := @List.pairwise_mergeSort α (fun left right => rawLe (key left) (key right))
    (fun _ _ _ => rawLe_trans _ _ _) (fun _ _ => rawLe_total _ _) entries
  exact ordered.imp fun less => (rawLe_iff _ _).mp less

end Text

theorem Path.shown_raw (path : Path) : path.raw.shown = path.text := Text.shown_raw path.text

theorem Path.isText_raw (path : Path) : path.raw.IsText := by
  rw [IsText, shown_raw]
  rfl

namespace Name

theorem bytes_of_isText (name : Name) (text : name.IsText) :
    name.bytes = Text.encodeUtf8 (Text.shown name.text) := by
  rw [bytes, ← Text.rawBytes_raw, text]

theorem isRaw_of_isText (name : Name) (text : name.IsText) : name.IsRaw := by
  rw [IsRaw, name.bytes_of_isText text, Text.rawText, Text.decodeWith, Text.encodeUtf8_eq,
    Text.decodeFrom_flatMap]
  exact text

theorem lt_of_bytes_le (left right : Name) (isLeft : left.IsRaw) (isRight : right.IsRaw)
    (apart : left ≠ right) (ordered : left.bytes ≤ right.bytes) : left.bytes < right.bytes := by
  refine List.not_le.mp fun back => apart (Name.ext ?_)
  rw [← isLeft, ← isRight, List.le_antisymm ordered back]

theorem shown_of_isText (name : Name) (text : name.IsText) : name.shown = name := by
  have kept : ofString? name.text = some name := ofChars?_toList name
  rw [shown, text, kept, Option.getD_some]

theorem isText_shown (name : Name) : name.shown.IsText := by
  have spelled : name.shown.text = Text.raw (Text.shown name.text) ∨ name.shown = replacement := by
    unfold shown ofString? ofChars?
    split
    · exact Or.inl (by simp)
    · exact Or.inr rfl
  rcases spelled with same | same
  · rw [IsText, same, Text.shown_raw]
  · rw [same]
    decide

end Name

end PackageClosure
