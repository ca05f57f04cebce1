import PackageClosure.Proofs.Address.Precedence

set_option autoImplicit false

namespace PackageClosure

namespace AddressTable

structure Agrees (table other : AddressTable) : Prop where
  bindings : table.bindings = other.bindings
  conflicts : ∀ conflict, conflict ∈ table.conflicts ↔ conflict ∈ other.conflicts

def Absorbs (table : AddressTable) (declaration : Declaration) : Prop :=
  ∃ existing, table.binding? declaration.symbol = some existing ∧
    (existing.address ≠ declaration.address →
      ⟨declaration.symbol, existing.address, declaration.address, declaration.package⟩ ∈
        table.conflicts)

variable {table other : AddressTable} {declaration : Declaration} {declarations : List Declaration}

theorem Agrees.refl (table : AddressTable) : table.Agrees table := ⟨rfl, fun _ => .rfl⟩

theorem binding?_bind_of_some (table : AddressTable) (declaration : Declaration) (symbol : String)
    (existing : Binding) (bound : table.binding? symbol = some existing) :
    (table.bind declaration).binding? symbol = some existing := by
  cases own : table.binding? declaration.symbol with
  | none =>
      rw [(table.bind_of_none declaration own).2.2, bound]
      rfl
  | some kept =>
      rw [binding?, (table.bind_of_some declaration kept own).1]
      exact bound

theorem conflicts_subset_bind (table : AddressTable) (declaration : Declaration) :
    table.conflicts ⊆ (table.bind declaration).conflicts := by
  cases own : table.binding? declaration.symbol with
  | none =>
      rw [(table.bind_of_none declaration own).1]
      exact fun _ member => member
  | some kept =>
      rw [(table.bind_of_some declaration kept own).2]
      exact List.subset_append_left _ _

theorem absorbs_bind_self (table : AddressTable) (declaration : Declaration) :
    (table.bind declaration).Absorbs declaration := by
  cases own : table.binding? declaration.symbol with
  | none =>
      refine ⟨declaration.binding, ?_, fun differs => absurd rfl differs⟩
      rw [(table.bind_of_none declaration own).2.2, own, if_pos rfl]
      rfl
  | some kept =>
      refine ⟨kept, table.binding?_bind_of_some declaration _ kept own, ?_⟩
      intro differs
      rw [(table.bind_of_some declaration kept own).2, if_neg differs]
      simp

theorem Absorbs.bind (absorbs : table.Absorbs declaration) (next : Declaration) :
    (table.bind next).Absorbs declaration := by
  obtain ⟨existing, bound, recorded⟩ := absorbs
  exact ⟨existing, table.binding?_bind_of_some next _ existing bound,
    fun differs => table.conflicts_subset_bind next (recorded differs)⟩

theorem Absorbs.bindAll (absorbs : table.Absorbs declaration) (more : List Declaration) :
    (table.bindAll more).Absorbs declaration := by
  induction more generalizing table with
  | nil => exact absorbs
  | cons next rest ih => exact ih (absorbs.bind next)

theorem absorbs_bindAll (table : AddressTable) (declarations : List Declaration)
    (member : declaration ∈ declarations) : (table.bindAll declarations).Absorbs declaration := by
  obtain ⟨before, after, rfl⟩ := List.append_of_mem member
  rw [bindAll_append]
  exact (absorbs_bind_self _ declaration).bindAll after

theorem Agrees.bind (agrees : table.Agrees other) (declaration : Declaration) :
    (table.bind declaration).Agrees (other.bind declaration) := by
  have lookup : other.binding? declaration.symbol = table.binding? declaration.symbol := by
    rw [binding?, binding?, agrees.bindings]
  cases own : table.binding? declaration.symbol with
  | none =>
      simp only [AddressTable.bind, lookup, own]
      exact ⟨by rw [agrees.bindings], agrees.conflicts⟩
  | some kept =>
      obtain ⟨bindings, conflicts⟩ := table.bind_of_some declaration kept own
      obtain ⟨others, more⟩ := other.bind_of_some declaration kept (lookup.trans own)
      refine ⟨bindings.trans (agrees.bindings.trans others.symm), ?_⟩
      intro conflict
      rw [conflicts, more, List.mem_append, List.mem_append, agrees.conflicts]

theorem Agrees.bindAll (agrees : table.Agrees other) (declarations : List Declaration) :
    (table.bindAll declarations).Agrees (other.bindAll declarations) := by
  induction declarations generalizing table other with
  | nil => exact agrees
  | cons declaration rest ih => exact ih (agrees.bind declaration)

theorem agrees_bind_of_absorbs (agrees : table.Agrees other)
    (absorbs : table.Absorbs declaration) : table.Agrees (other.bind declaration) := by
  obtain ⟨existing, bound, recorded⟩ := absorbs
  have lookup : other.binding? declaration.symbol = some existing := by
    rw [binding?, ← agrees.bindings]
    exact bound
  obtain ⟨bindings, conflicts⟩ := other.bind_of_some declaration existing lookup
  refine ⟨agrees.bindings.trans bindings.symm, ?_⟩
  intro conflict
  rw [conflicts, List.mem_append, ← agrees.conflicts]
  by_cases same : existing.address = declaration.address
  · simp [same]
  · rw [if_neg same, List.mem_singleton]
    constructor
    · exact .inl
    · rintro (already | rfl)
      · exact already
      · exact recorded same

theorem agrees_bindAll_of_absorbs (agrees : table.Agrees other)
    (absorbs : ∀ declaration ∈ declarations, table.Absorbs declaration) :
    table.Agrees (other.bindAll declarations) := by
  induction declarations generalizing other with
  | nil => exact agrees
  | cons declaration rest ih =>
      have first := agrees_bind_of_absorbs agrees (absorbs declaration List.mem_cons_self)
      exact ih first fun later member => absorbs later (List.mem_cons_of_mem _ member)

end AddressTable

end PackageClosure
