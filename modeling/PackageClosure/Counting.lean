set_option autoImplicit false

namespace PackageClosure.Counting

theorem length_le_of_nodup_of_subset {α : Type} [DecidableEq α] (members bag : List α)
    (distinct : members.Nodup) (inside : ∀ a ∈ members, a ∈ bag) :
    members.length ≤ bag.length := by
  induction members generalizing bag with
  | nil => simp
  | cons first rest ih =>
      rw [List.nodup_cons] at distinct
      have member : first ∈ bag := inside first (by simp)
      have below : ∀ a ∈ rest, a ∈ bag.erase first := by
        intro a other
        have differs : a ≠ first := fun same => distinct.1 (same ▸ other)
        exact (List.mem_erase_of_ne differs).mpr (inside a (by simp [other]))
      have shorter := ih (bag.erase first) distinct.2 below
      have erased := List.length_erase_of_mem member
      have positive := List.length_pos_of_mem member
      simp only [List.length_cons]
      omega

-- A number for every text: its characters as the digits of a great base.
def textNumber : List Char → Nat
  | [] => 0
  | c :: rest => (c.toNat + 1) + 0x110001 * textNumber rest

theorem toNat_lt (c : Char) : c.toNat < 0x110000 := by
  have valid := c.valid
  simp only [UInt32.isValidChar, Nat.isValidChar] at valid
  have same : c.val.toNat = c.toNat := rfl
  omega

theorem textNumber_injective {left right : List Char} (same : textNumber left = textNumber right) :
    left = right := by
  induction left generalizing right with
  | nil =>
      cases right with
      | nil => rfl
      | cons c rest =>
          simp only [textNumber] at same
          omega
  | cons c rest ih =>
      cases right with
      | nil =>
          simp only [textNumber] at same
          omega
      | cons d more =>
          simp only [textNumber] at same
          have first := toNat_lt c
          have second := toNat_lt d
          have digits : c.toNat = d.toNat := by omega
          have tails : textNumber rest = textNumber more := by omega
          rw [ih tails, Char.toNat_inj.mp digits]

def textBound : Nat → Nat
  | 0 => 1
  | length + 1 => 0x110001 * textBound length

theorem textBound_le {short long : Nat} (shorter : short ≤ long) :
    textBound short ≤ textBound long := by
  induction shorter with
  | refl => exact Nat.le_refl _
  | step _ ih =>
      rw [textBound]
      omega

theorem textNumber_lt (text : List Char) : textNumber text < textBound text.length := by
  induction text with
  | nil => decide
  | cons c rest ih =>
      have first := toNat_lt c
      simp only [textNumber, List.length_cons, textBound]
      have scaled := Nat.mul_le_mul_left 0x110001 (Nat.succ_le_of_lt ih)
      omega

theorem length_le_of_short (texts : List (List Char)) (limit : Nat) (distinct : texts.Nodup)
    (short : ∀ text ∈ texts, text.length ≤ limit) : texts.length ≤ textBound limit := by
  have numbered : (texts.map textNumber).Nodup :=
    List.Pairwise.map _ (fun _ _ differs same => differs (textNumber_injective same)) distinct
  have bounded : ∀ number ∈ texts.map textNumber, number ∈ List.range (textBound limit) := by
    intro number member
    obtain ⟨text, found, rfl⟩ := List.mem_map.mp member
    rw [List.mem_range]
    exact Nat.lt_of_lt_of_le (textNumber_lt text) (textBound_le (short text found))
  simpa using length_le_of_nodup_of_subset _ _ numbered bounded

end PackageClosure.Counting
