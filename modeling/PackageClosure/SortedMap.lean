set_option autoImplicit false

namespace PackageClosure

class KeyOrder (K : Type) where
  before : K → K → Bool
  irrefl : ∀ key, before key key = false
  trans : ∀ first second third, before first second = true → before second third = true →
    before first third = true
  connected : ∀ left right, before left right = false → before right left = false → left = right

structure SortedMap (K V : Type) [KeyOrder K] where
  entries : List (K × V)
  sorted : entries.Pairwise fun left right => KeyOrder.before left.1 right.1 = true

namespace SortedMap

theorem lookup_cons {K V : Type} [DecidableEq K] (key first : K) (value : V)
    (rest : List (K × V)) :
    ((first, value) :: rest).lookup key =
      if key = first then some value else rest.lookup key := by
  rw [List.lookup_cons]
  by_cases same : key = first
  · simp [same]
  · have apart : (key == first) = false := by simpa using same
    simp [apart, same]

variable {K V : Type} [KeyOrder K]

def empty : SortedMap K V := ⟨[], .nil⟩

theorem eq_of_mem_iff (left right : List (K × V))
    (leftSorted : left.Pairwise fun one two => KeyOrder.before one.1 two.1 = true)
    (rightSorted : right.Pairwise fun one two => KeyOrder.before one.1 two.1 = true)
    (same : ∀ entry, entry ∈ left ↔ entry ∈ right) : left = right := by
  induction left generalizing right with
  | nil =>
      cases right with
      | nil => rfl
      | cons first rest => exact absurd ((same first).mpr (by simp)) (by simp)
  | cons first rest ih =>
      cases right with
      | nil => exact absurd ((same first).mp (by simp)) (by simp)
      | cons other more =>
          rw [List.pairwise_cons] at leftSorted rightSorted
          have heads : first = other := by
            rcases List.mem_cons.mp ((same first).mp (by simp)) with equal | inside
            · exact equal
            · rcases List.mem_cons.mp ((same other).mpr (by simp)) with equal | below
              · exact equal.symm
              · have one := leftSorted.1 other below
                have two := rightSorted.1 first inside
                have round := KeyOrder.trans _ _ _ one two
                rw [KeyOrder.irrefl] at round
                cases round
          subst heads
          have absent (entries : List (K × V))
              (after : ∀ entry ∈ entries, KeyOrder.before first.1 entry.1 = true) :
              first ∉ entries := by
            intro inside
            have order := after first inside
            rw [KeyOrder.irrefl] at order
            cases order
          have tails := ih more leftSorted.2 rightSorted.2 (by
            intro entry
            have whole := same entry
            rw [List.mem_cons, List.mem_cons] at whole
            constructor
            · intro inside
              rcases whole.mp (.inr inside) with equal | below
              · exact absurd (equal ▸ inside) (absent rest leftSorted.1)
              · exact below
            · intro inside
              rcases whole.mpr (.inr inside) with equal | below
              · exact absurd (equal ▸ inside) (absent more rightSorted.1)
              · exact below)
          rw [tails]

variable [DecidableEq K]

def get? (map : SortedMap K V) (key : K) : Option V := map.entries.lookup key

def insertEntry (key : K) (value : V) : List (K × V) → List (K × V)
  | [] => [(key, value)]
  | (first, old) :: rest =>
      if key = first then (key, value) :: rest
      else if KeyOrder.before key first then (key, value) :: (first, old) :: rest
      else (first, old) :: insertEntry key value rest

theorem fst_mem_insertEntry (key : K) (value : V) (entries : List (K × V)) (entry : K × V)
    (member : entry ∈ insertEntry key value entries) : entry = (key, value) ∨ entry ∈ entries := by
  induction entries with
  | nil => simpa [insertEntry] using member
  | cons first rest ih =>
      rw [insertEntry] at member
      split at member
      · rcases List.mem_cons.mp member with same | inside
        · exact .inl same
        · exact .inr (List.mem_cons_of_mem _ inside)
      · split at member
        · simpa using member
        · rcases List.mem_cons.mp member with same | inside
          · exact .inr (by simp [same])
          · rcases ih inside with new | old
            · exact .inl new
            · exact .inr (List.mem_cons_of_mem _ old)

theorem sorted_insertEntry (key : K) (value : V) (entries : List (K × V))
    (sorted : entries.Pairwise fun left right => KeyOrder.before left.1 right.1 = true) :
    (insertEntry key value entries).Pairwise
      fun left right => KeyOrder.before left.1 right.1 = true := by
  induction entries with
  | nil => simp [insertEntry]
  | cons first rest ih =>
      rw [List.pairwise_cons] at sorted
      rw [insertEntry]
      split
      · rename_i same
        rw [List.pairwise_cons]
        exact ⟨fun entry inside => same ▸ sorted.1 entry inside, sorted.2⟩
      · rename_i differs
        split
        · rename_i earlier
          rw [List.pairwise_cons, List.pairwise_cons]
          refine ⟨?_, sorted⟩
          intro entry inside
          rcases List.mem_cons.mp inside with rfl | below
          · exact earlier
          · exact KeyOrder.trans _ _ _ earlier (sorted.1 entry below)
        · rename_i later
          rw [List.pairwise_cons]
          refine ⟨?_, ih sorted.2⟩
          intro entry inside
          rcases fst_mem_insertEntry key value rest entry inside with rfl | old
          · cases order : KeyOrder.before first.1 key with
            | true => rfl
            | false =>
                exact absurd (KeyOrder.connected _ _ (by simpa using later) order) differs
          · exact sorted.1 entry old

def insert (map : SortedMap K V) (key : K) (value : V) : SortedMap K V :=
  ⟨insertEntry key value map.entries, sorted_insertEntry key value map.entries map.sorted⟩

def restrict (map : SortedMap K V) (keep : K → Bool) : SortedMap K V :=
  ⟨map.entries.filter fun entry => keep entry.1, map.sorted.filter _⟩

def erase (map : SortedMap K V) (key : K) : SortedMap K V := map.restrict fun other => other ≠ key

theorem get?_empty (key : K) : (empty : SortedMap K V).get? key = none := rfl

theorem lookup_insertEntry (key other : K) (value : V) (entries : List (K × V)) :
    (insertEntry key value entries).lookup other =
      if other = key then some value else entries.lookup other := by
  induction entries with
  | nil => rw [insertEntry, lookup_cons]
  | cons first rest ih =>
      rcases first with ⟨first, old⟩
      rw [insertEntry]
      split
      · rename_i same
        subst same
        rw [lookup_cons, lookup_cons]
        split <;> rfl
      · rename_i differs
        split
        · rw [lookup_cons]
        · rw [lookup_cons, lookup_cons, ih]
          by_cases here : other = first
          · subst here
            simp [Ne.symm differs]
          · simp [here]

theorem get?_insert (map : SortedMap K V) (key other : K) (value : V) :
    (map.insert key value).get? other = if other = key then some value else map.get? other :=
  lookup_insertEntry key other value map.entries

theorem get?_restrict (map : SortedMap K V) (keep : K → Bool) (key : K) :
    (map.restrict keep).get? key = if keep key then map.get? key else none := by
  unfold get? restrict
  dsimp only
  induction map.entries with
  | nil => simp
  | cons first rest ih =>
      rcases first with ⟨first, value⟩
      rw [List.filter_cons, lookup_cons]
      by_cases here : key = first
      · subst here
        by_cases kept : keep key = true
        · simp [kept]
        · simp [kept, ih]
      · by_cases kept : keep first = true <;> simp [kept, here, ih, lookup_cons]

theorem get?_erase (map : SortedMap K V) (key other : K) :
    (map.erase key).get? other = if other = key then none else map.get? other := by
  rw [erase, get?_restrict]
  by_cases same : other = key <;> simp [same]

theorem lookup_eq_some_iff (entries : List (K × V))
    (sorted : entries.Pairwise fun left right => KeyOrder.before left.1 right.1 = true)
    (key : K) (value : V) : entries.lookup key = some value ↔ (key, value) ∈ entries := by
  induction entries with
  | nil => simp
  | cons first rest ih =>
      rcases first with ⟨first, old⟩
      rw [List.pairwise_cons] at sorted
      rw [lookup_cons]
      by_cases here : key = first
      · subst here
        have absent : ∀ other, (key, other) ∉ rest := by
          intro other inside
          have order := sorted.1 _ inside
          rw [KeyOrder.irrefl] at order
          cases order
        simp [absent, eq_comm]
      · simp [here, ih sorted.2]

theorem get?_eq_some_iff (map : SortedMap K V) (key : K) (value : V) :
    map.get? key = some value ↔ (key, value) ∈ map.entries :=
  lookup_eq_some_iff map.entries map.sorted key value

theorem ext_get? {left right : SortedMap K V} (same : ∀ key, left.get? key = right.get? key) :
    left = right := by
  rcases left with ⟨left, leftSorted⟩
  rcases right with ⟨right, rightSorted⟩
  have entries : left = right := eq_of_mem_iff left right leftSorted rightSorted (by
    intro ⟨key, value⟩
    rw [← lookup_eq_some_iff left leftSorted, ← lookup_eq_some_iff right rightSorted]
    have found := same key
    unfold get? at found
    dsimp only at found
    rw [found])
  subst entries
  rfl

end SortedMap

end PackageClosure
