import Mathlib.Data.List.Basic
import PackageClosure.Address.Table

set_option autoImplicit false

namespace PackageClosure

namespace Declaration

def firsts : List Declaration → List Declaration
  | [] => []
  | declaration :: rest =>
      declaration :: (firsts rest).filter fun other => other.symbol ≠ declaration.symbol

def first? (declarations : List Declaration) (symbol : String) : Option Declaration :=
  declarations.find? fun declaration => declaration.symbol = symbol

def conflict? (declarations : List Declaration) (declaration : Declaration) : Option Conflict :=
  match first? declarations declaration.symbol with
  | none => none
  | some first =>
      if first.address = declaration.address then none
      else some ⟨declaration.symbol, first.address, declaration.address, declaration.package⟩

def binding (declaration : Declaration) : Binding := ⟨declaration.address, declaration.package⟩

theorem first?_eq_none_iff (declarations : List Declaration) (symbol : String) :
    first? declarations symbol = none ↔ symbol ∉ declarations.map Declaration.symbol := by
  simp [first?, List.find?_eq_none]

theorem first?_append (declarations more : List Declaration) (symbol : String) :
    first? (declarations ++ more) symbol =
      (first? declarations symbol).or (first? more symbol) := List.find?_append

theorem firsts_concat (declarations : List Declaration) (last : Declaration) :
    firsts (declarations ++ [last]) =
      if last.symbol ∈ declarations.map Declaration.symbol then firsts declarations
      else firsts declarations ++ [last] := by
  induction declarations with
  | nil => simp [firsts]
  | cons declaration rest ih =>
      rw [List.cons_append, firsts, ih, firsts]
      by_cases later : last.symbol ∈ rest.map Declaration.symbol
      · rw [if_pos later, if_pos (by simp [List.mem_map.mp later])]
      · rw [if_neg later, List.filter_append]
        by_cases same : last.symbol = declaration.symbol
        · rw [if_pos (by simp [same])]
          simp [same]
        · rw [if_neg (by simpa [same] using later)]
          simp [same]

theorem conflict?_append (declarations more : List Declaration) (declaration : Declaration)
    (member : declaration ∈ declarations) :
    conflict? (declarations ++ more) declaration = conflict? declarations declaration := by
  cases found : first? declarations declaration.symbol with
  | none =>
      have absent := (first?_eq_none_iff _ _).mp found
      exact absurd (List.mem_map_of_mem member) absent
  | some first => simp [conflict?, first?_append, found]

theorem conflicts_concat (declarations : List Declaration) (last : Declaration) :
    (declarations ++ [last]).filterMap (conflict? (declarations ++ [last])) =
      declarations.filterMap (conflict? declarations) ++
        (conflict? (declarations ++ [last]) last).toList := by
  rw [List.filterMap_append]
  have earlier : declarations.filterMap (conflict? (declarations ++ [last])) =
      declarations.filterMap (conflict? declarations) :=
    List.filterMap_congr fun declaration member => conflict?_append _ _ declaration member
  rw [earlier]
  cases found : conflict? (declarations ++ [last]) last <;> simp [found]

end Declaration

namespace AddressTable

open Declaration

/-- The table holds what a sequence of declarations leaves of it: the first declaration of each
symbol, and a conflict for each later one with another address. -/
structure Holds (table : AddressTable) (declarations : List Declaration) : Prop where
  bindings : table.bindings.entries =
    (firsts declarations).map fun first => (first.symbol, first.binding)
  found : ∀ symbol, table.binding? symbol =
    (first? declarations symbol).map Declaration.binding
  conflicts : table.conflicts = declarations.filterMap (conflict? declarations)

theorem holds_empty : empty.Holds [] := ⟨rfl, fun _ => rfl, rfl⟩

theorem bind_of_none (table : AddressTable) (declaration : Declaration)
    (free : table.binding? declaration.symbol = none) :
    (table.bind declaration).conflicts = table.conflicts ∧
      (table.bind declaration).bindings.entries =
        table.bindings.entries ++ [(declaration.symbol, declaration.binding)] ∧
      ∀ symbol, (table.bind declaration).binding? symbol = (table.binding? symbol).or
        (if symbol = declaration.symbol then some declaration.binding else none) := by
  have absent := (table.bindings.get?_eq_none_iff declaration.symbol).mp free
  simp only [bind, free]
  exact ⟨trivial, table.bindings.entries_insertNew_of_not_mem _ _ absent,
    fun symbol => table.bindings.get?_insertNew_of_not_mem _ symbol _ absent⟩

theorem bind_of_some (table : AddressTable) (declaration : Declaration) (existing : Binding)
    (bound : table.binding? declaration.symbol = some existing) :
    (table.bind declaration).bindings = table.bindings ∧
      (table.bind declaration).conflicts = table.conflicts ++
        if existing.address = declaration.address then []
        else [⟨declaration.symbol, existing.address, declaration.address,
          declaration.package⟩] := by
  simp only [bind, bound]
  split <;> simp

theorem holds_bind (table : AddressTable) (declarations : List Declaration)
    (declaration : Declaration) (holds : table.Holds declarations) :
    (table.bind declaration).Holds (declarations ++ [declaration]) := by
  cases first : first? declarations declaration.symbol with
  | none =>
      have free : table.binding? declaration.symbol = none := by
        rw [holds.found, first]
        rfl
      have absent := (first?_eq_none_iff _ _).mp first
      obtain ⟨conflicts, entries, lookup⟩ := table.bind_of_none declaration free
      constructor
      case bindings =>
          rw [entries, holds.bindings, firsts_concat, if_neg absent, List.map_append]
          rfl
      case found =>
          intro symbol
          rw [lookup, holds.found, first?_append]
          by_cases same : symbol = declaration.symbol
          · simp [same, first?]
          · simp [same, first?, Ne.symm same]
      case conflicts =>
          rw [conflicts, holds.conflicts, conflicts_concat]
          have own : first? [declaration] declaration.symbol = some declaration := by simp [first?]
          simp [conflict?, first?_append, first, own]
  | some kept =>
      have bound : table.binding? declaration.symbol = some kept.binding := by
        rw [holds.found, first]
        rfl
      have present : declaration.symbol ∈ declarations.map Declaration.symbol := by
        by_contra absent
        rw [(first?_eq_none_iff _ _).mpr absent] at first
        cases first
      obtain ⟨bindings, conflicts⟩ := table.bind_of_some declaration kept.binding bound
      constructor
      case bindings => rw [bindings, holds.bindings, firsts_concat, if_pos present]
      case found =>
          intro symbol
          rw [binding?, bindings, ← binding?, holds.found, first?_append]
          by_cases same : symbol = declaration.symbol
          · simp [same, first]
          · simp [first?, Ne.symm same]
      case conflicts =>
          rw [conflicts, holds.conflicts, conflicts_concat]
          congr 1
          simp only [conflict?, first?_append, first, Option.some_or, Declaration.binding]
          by_cases same : kept.address = declaration.address <;> simp [same]

theorem holds_bindAll (table : AddressTable) (declarations more : List Declaration)
    (holds : table.Holds declarations) : (table.bindAll more).Holds (declarations ++ more) := by
  induction more generalizing table declarations with
  | nil => simpa [bindAll] using holds
  | cons declaration rest ih =>
      have step := ih (table.bind declaration) (declarations ++ [declaration])
        (table.holds_bind declarations declaration holds)
      simpa [bindAll, List.append_assoc] using step

theorem bindAll_append (table : AddressTable) (first second : List Declaration) :
    table.bindAll (first ++ second) = (table.bindAll first).bindAll second := List.foldl_append

end AddressTable

end PackageClosure
