import PackageClosure.Path.Location
import PackageClosure.SortedMap

set_option autoImplicit false

namespace PackageClosure

theorem Name.map_text_injective {left right : List Name}
    (same : left.map Name.text = right.map Name.text) : left = right := by
  induction left generalizing right with
  | nil =>
      cases right with
      | nil => rfl
      | cons name rest => simp at same
  | cons first rest ih =>
      cases right with
      | nil => simp at same
      | cons name more =>
          rw [List.map_cons, List.map_cons, List.cons.injEq] at same
          rw [Name.ext same.1, ih same.2]

instance : KeyOrder (List Name) where
  before left right := decide (left.map Name.text < right.map Name.text)
  irrefl names := by simp
  trans first second third := by
    simp only [decide_eq_true_eq]
    exact List.lt_trans
  connected left right := by
    simp only [decide_eq_false_iff_not]
    exact fun one two => Name.map_text_injective (List.le_antisymm two one)

namespace Location

-- The number of steps before the names, with the root before all relative starts.
def rank (location : Location) : Nat :=
  match location.start with
  | .root => 0
  | .above levels => levels + 1

theorem eq_of_rank_of_names {left right : Location} (rank : left.rank = right.rank)
    (names : left.names = right.names) : left = right := by
  rcases left with ⟨start, leftNames⟩
  rcases right with ⟨other, rightNames⟩
  cases start <;> cases other <;> simp_all [Location.rank]

end Location

instance : KeyOrder Location where
  before left right := left.rank < right.rank ||
    (left.rank = right.rank && KeyOrder.before left.names right.names)
  irrefl location := by simp [KeyOrder.irrefl]
  trans first second third := by
    simp only [Bool.or_eq_true, Bool.and_eq_true, decide_eq_true_eq]
    rintro (one | ⟨one, below⟩) (two | ⟨two, further⟩)
    · exact .inl (by omega)
    · exact .inl (by omega)
    · exact .inl (by omega)
    · exact .inr ⟨by omega, KeyOrder.trans _ _ _ below further⟩
  connected left right := by
    simp only [Bool.or_eq_false_iff, Bool.and_eq_false_iff, decide_eq_false_iff_not]
    rintro ⟨one, below⟩ ⟨two, further⟩
    have rank : left.rank = right.rank := by omega
    have names := KeyOrder.connected left.names right.names
      (below.resolve_left (by simp [rank])) (further.resolve_left (by simp [rank]))
    exact Location.eq_of_rank_of_names rank names

end PackageClosure
