set_option autoImplicit false

namespace PackageClosure

structure OrderedMap (α : Type) where
  entries : List (String × α)
  distinct : (entries.map Prod.fst).Nodup

namespace OrderedMap

variable {α : Type}

instance [DecidableEq α] : DecidableEq (OrderedMap α) := fun left right =>
  if same : left.entries = right.entries then
    .isTrue (by cases left; cases right; simp_all)
  else .isFalse fun equal => same (by rw [equal])

theorem ext {left right : OrderedMap α} (same : left.entries = right.entries) : left = right := by
  cases left
  cases right
  simp_all

def empty : OrderedMap α := ⟨[], by simp⟩

instance : EmptyCollection (OrderedMap α) := ⟨empty⟩

def keys (map : OrderedMap α) : List String := map.entries.map Prod.fst

def size (map : OrderedMap α) : Nat := map.entries.length

def isEmpty (map : OrderedMap α) : Bool := map.entries.isEmpty

def get? (map : OrderedMap α) (key : String) : Option α := map.entries.lookup key

def contains (map : OrderedMap α) (key : String) : Bool := map.keys.contains key

def insertNew (map : OrderedMap α) (key : String) (value : α) : OrderedMap α :=
  if fresh : key ∈ map.keys then map
  else
    ⟨map.entries ++ [(key, value)], by
      have absent : key ∉ map.entries.map Prod.fst := fresh
      rw [List.map_append, List.nodup_append]
      refine ⟨map.distinct, by simp, ?_⟩
      intro old member new single same
      simp only [List.map_cons, List.map_nil, List.mem_singleton] at single
      exact absent (single ▸ same ▸ member)⟩

def mapValues (map : OrderedMap α) (change : String → α → α) : OrderedMap α where
  entries := map.entries.map fun entry => (entry.1, change entry.1 entry.2)
  distinct := by
    rw [List.map_map]
    exact map.distinct

-- The map of the given entries in order; of entries with one key the first counts.
def ofList (entries : List (String × α)) : OrderedMap α :=
  entries.foldl (fun map entry => map.insertNew entry.1 entry.2) empty

theorem entries_insertNew_of_not_mem (map : OrderedMap α) (key : String) (value : α)
    (absent : key ∉ map.keys) :
    (map.insertNew key value).entries = map.entries ++ [(key, value)] := by
  rw [insertNew, dif_neg absent]

theorem keys_insertNew_of_not_mem (map : OrderedMap α) (key : String) (value : α)
    (absent : key ∉ map.keys) : (map.insertNew key value).keys = map.keys ++ [key] := by
  rw [keys, entries_insertNew_of_not_mem map key value absent, List.map_append]
  rfl

theorem get?_eq_none_iff (map : OrderedMap α) (key : String) :
    map.get? key = none ↔ key ∉ map.keys := by
  rw [get?, List.lookup_eq_none_iff, keys]
  constructor
  · intro apart member
    obtain ⟨entry, inside, same⟩ := List.mem_map.mp member
    have differs := apart entry inside
    simp [same] at differs
  · intro absent entry inside
    have differs : key ≠ entry.1 := fun same => absent (same ▸ List.mem_map_of_mem inside)
    simpa using differs

theorem get?_insertNew_of_not_mem (map : OrderedMap α) (key other : String) (value : α)
    (absent : key ∉ map.keys) :
    (map.insertNew key value).get? other =
      (map.get? other).or (if other = key then some value else none) := by
  rw [get?, entries_insertNew_of_not_mem map key value absent, List.lookup_append, ← get?]
  by_cases same : other = key
  · simp [same]
  · have apart : (other == key) = false := by simpa using same
    simp [List.lookup_cons, apart, same]

theorem entries_foldl_insertNew (entries : List (String × α)) (map : OrderedMap α)
    (distinct : (map.keys ++ entries.map Prod.fst).Nodup) :
    (entries.foldl (fun map entry => map.insertNew entry.1 entry.2) map).entries =
      map.entries ++ entries := by
  induction entries generalizing map with
  | nil => simp
  | cons entry rest ih =>
      rw [List.map_cons, List.nodup_append] at distinct
      have absent : entry.1 ∉ map.keys := fun present =>
        distinct.2.2 entry.1 present entry.1 (by simp) rfl
      rw [List.foldl_cons, ih, entries_insertNew_of_not_mem _ _ _ absent, List.append_assoc]
      · rfl
      · rw [keys_insertNew_of_not_mem _ _ _ absent, List.append_assoc, List.nodup_append]
        exact distinct

theorem entries_ofList (entries : List (String × α)) (distinct : (entries.map Prod.fst).Nodup) :
    (ofList entries).entries = entries := by
  have shape := entries_foldl_insertNew entries empty (by simpa [keys, empty] using distinct)
  simpa [ofList, empty] using shape

end OrderedMap

end PackageClosure
