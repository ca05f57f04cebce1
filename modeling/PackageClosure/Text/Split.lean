set_option autoImplicit false

namespace PackageClosure.Text

def splitFirst (separator : Char) : List Char → Option (List Char × List Char)
  | [] => none
  | c :: rest =>
      if c = separator then some ([], rest)
      else (splitFirst separator rest).map fun (left, right) => (c :: left, right)

theorem splitFirst_eq_some_iff (separator : Char) (text left right : List Char) :
    splitFirst separator text = some (left, right) ↔
      text = left ++ separator :: right ∧ separator ∉ left := by
  induction text generalizing left with
  | nil => simp [splitFirst]
  | cons c rest ih =>
      rw [splitFirst]
      by_cases here : c = separator
      · subst here
        rw [if_pos rfl, Option.some.injEq, Prod.mk.injEq]
        constructor
        · rintro ⟨rfl, rfl⟩
          simp
        · rintro ⟨same, absent⟩
          cases left with
          | nil => exact ⟨rfl, (List.cons.inj same).2⟩
          | cons first more =>
              exact absurd (List.cons.inj same).1 (fun same => absent (by simp [same]))
      · rw [if_neg here, Option.map_eq_some_iff]
        constructor
        · rintro ⟨⟨before, after⟩, found, same⟩
          obtain ⟨rfl, rfl⟩ := Prod.mk.inj same
          obtain ⟨whole, absent⟩ := (ih before).mp found
          refine ⟨by rw [whole]; rfl, ?_⟩
          rw [List.mem_cons, not_or]
          exact ⟨fun same => here same.symm, absent⟩
        · rintro ⟨whole, absent⟩
          cases left with
          | nil => exact absurd (List.cons.inj whole).1 here
          | cons first more =>
              obtain ⟨rfl, tail⟩ := List.cons.inj whole
              exact ⟨(more, right), (ih more).mpr ⟨tail, fun inside => absent (by simp [inside])⟩,
                rfl⟩

-- The maximal runs between separators; there is one more of them than there are separators.
def pieces (separator : Char) : List Char → List (List Char)
  | [] => [[]]
  | c :: rest =>
      if c = separator then [] :: pieces separator rest
      else
        match pieces separator rest with
        | [] => [[c]]
        | piece :: more => (c :: piece) :: more

theorem pieces_ne_nil (separator : Char) (text : List Char) : pieces separator text ≠ [] := by
  cases text with
  | nil => simp [pieces]
  | cons c rest =>
      simp only [pieces]
      split
      · simp
      · split <;> simp

theorem pieces_append (separator : Char) (left right : List Char) :
    pieces separator (left ++ separator :: right) =
      pieces separator left ++ pieces separator right := by
  induction left with
  | nil => simp [pieces]
  | cons c rest ih =>
      simp only [List.cons_append, pieces, ih]
      split
      · rfl
      · cases shape : pieces separator rest with
        | nil => exact absurd shape (pieces_ne_nil separator rest)
        | cons piece more => rfl

theorem pieces_of_not_mem (separator : Char) (text : List Char) (absent : separator ∉ text) :
    pieces separator text = [text] := by
  induction text with
  | nil => rfl
  | cons c rest ih =>
      have other : ¬ c = separator := fun same => absent (by simp [same])
      have below : separator ∉ rest := fun inside => absent (by simp [inside])
      rw [pieces, if_neg other, ih below]

theorem pieces_no_separator (separator : Char) (text piece : List Char)
    (member : piece ∈ pieces separator text) : separator ∉ piece := by
  induction text generalizing piece with
  | nil => simp_all [pieces]
  | cons c rest ih =>
      rw [pieces] at member
      split at member
      · rcases List.mem_cons.mp member with rfl | below
        · simp
        · exact ih piece below
      · rename_i other
        cases shape : pieces separator rest with
        | nil => exact absurd shape (pieces_ne_nil separator rest)
        | cons first more =>
            rw [shape] at member ih
            rcases List.mem_cons.mp member with rfl | below
            · have clean := ih first (by simp)
              simp only [List.mem_cons, not_or]
              exact ⟨fun same => other same.symm, clean⟩
            · exact ih piece (by simp [below])

theorem pieces_intercalate (separator : Char) (texts : List (List Char)) (filled : texts ≠ []) :
    pieces separator ([separator].intercalate texts) = texts.flatMap (pieces separator) := by
  induction texts with
  | nil => exact absurd rfl filled
  | cons text rest ih =>
      cases rest with
      | nil => simp
      | cons next more =>
          rw [List.intercalate_cons_cons, List.append_assoc, List.singleton_append, pieces_append,
            ih (List.cons_ne_nil next more)]
          rfl

theorem length_pieces_le (separator : Char) (text : List Char) :
    (pieces separator text).length ≤ text.length + 1 := by
  induction text with
  | nil => simp [pieces]
  | cons c rest ih =>
      rw [pieces]
      split
      · simpa using ih
      · cases shape : pieces separator rest with
        | nil => simp
        | cons first more =>
            rw [shape] at ih
            simp only [List.length_cons] at ih ⊢
            omega

end PackageClosure.Text
