import Mathlib.Data.List.Forall2
import PackageClosure.Proofs.Address.Precedence

set_option autoImplicit false

namespace PackageClosure

section

variable {α κ : Type} [DecidableEq κ] (key : α → κ)

def firstsBy (items : List α) : List α :=
  items.eraseDupsBy fun later earlier => key later == key earlier

theorem firstsBy_nil : firstsBy key [] = [] := rfl

theorem firstsBy_cons_filter (first : α) (rest : List α) :
    firstsBy key (first :: rest) =
      first :: firstsBy key (rest.filter fun other => key other ≠ key first) := by
  rw [firstsBy, List.eraseDupsBy_cons, firstsBy]
  simp

-- The induction is on the length: a step leaves a part of the tail and not the tail itself.
theorem firstsBy_filter (keep : κ → Bool) (items : List α) :
    firstsBy key (items.filter fun item => keep (key item)) =
      (firstsBy key items).filter fun item => keep (key item) := by
  match items with
  | [] => rfl
  | first :: rest =>
      have ih := firstsBy_filter keep (rest.filter fun other => key other ≠ key first)
      rw [List.filter_filter] at ih
      rw [firstsBy_cons_filter, List.filter_cons, List.filter_cons, ← ih]
      by_cases kept : keep (key first) = true
      · rw [if_pos kept, if_pos kept, firstsBy_cons_filter, List.filter_filter]
        simp only [Bool.and_comm]
      · rw [if_neg kept, if_neg kept]
        congr 1
        refine List.filter_congr fun other _ => ?_
        by_cases same : key other = key first <;> simp [same, kept]
termination_by items.length
decreasing_by exact Nat.lt_succ_of_le (List.length_filter_le _ rest)

theorem firstsBy_cons (first : α) (rest : List α) :
    firstsBy key (first :: rest) =
      first :: (firstsBy key rest).filter fun other => key other ≠ key first :=
  (firstsBy_cons_filter key first rest).trans
    (congrArg _ (firstsBy_filter key (fun other => decide (other ≠ key first)) rest))

theorem mem_keys_firstsBy (items : List α) (wanted : κ) :
    wanted ∈ (firstsBy key items).map key ↔ wanted ∈ items.map key := by
  induction items with
  | nil => rfl
  | cons first rest ih =>
      rw [firstsBy_cons, List.map_cons, List.mem_cons, List.map_cons, List.mem_cons, ← ih]
      by_cases same : wanted = key first
      · simp [same]
      · simp only [same, false_or, List.mem_map, List.mem_filter]
        grind

theorem nodup_keys_firstsBy (items : List α) : ((firstsBy key items).map key).Nodup := by
  induction items with
  | nil => exact .nil
  | cons first rest ih =>
      rw [firstsBy_cons, List.map_cons, List.nodup_cons]
      refine ⟨?_, ih.sublist (List.filter_sublist.map key)⟩
      rw [List.mem_map]
      rintro ⟨other, member, same⟩
      have differs := (List.mem_filter.mp member).2
      simp [same] at differs

theorem firstsBy_append (items more : List α) :
    firstsBy key (items ++ more) =
      firstsBy key items ++ (firstsBy key more).filter fun item => key item ∉ items.map key := by
  induction items with
  | nil => simp [firstsBy_nil]
  | cons first rest ih =>
      rw [List.cons_append, firstsBy_cons, ih, firstsBy_cons, List.filter_append, List.cons_append,
        List.filter_filter]
      simp [not_or]

theorem firstsBy_append_congr {items others more further : List α}
    (first : firstsBy key items = firstsBy key others)
    (second : firstsBy key more = firstsBy key further) :
    firstsBy key (items ++ more) = firstsBy key (others ++ further) := by
  have keys : ∀ wanted, wanted ∈ items.map key ↔ wanted ∈ others.map key := by
    intro wanted
    rw [← mem_keys_firstsBy, first, mem_keys_firstsBy]
  simp only [firstsBy_append, first, second, keys]

theorem firstsBy_firstsBy (items : List α) :
    firstsBy key (firstsBy key items) = firstsBy key items := by
  induction items with
  | nil => rfl
  | cons first rest ih =>
      have others := firstsBy_filter key (fun other => decide (other ≠ key first))
      rw [firstsBy_cons, firstsBy_cons, others, ih, List.filter_filter]
      simp

theorem firstsBy_flatMap_congr {β γ : Type} {parts : List β} {others : List γ}
    (items : β → List α) (more : γ → List α)
    (same : parts.Forall₂ (fun part other =>
      firstsBy key (items part) = firstsBy key (more other)) others) :
    firstsBy key (parts.flatMap items) = firstsBy key (others.flatMap more) := by
  induction same with
  | nil => rfl
  | cons first _ ih => exact firstsBy_append_congr key first ih

end

theorem firstsBy_id {α : Type} [DecidableEq α] (items : List α) :
    firstsBy id items = items.eraseDups := rfl

theorem Declaration.firsts_eq_firstsBy (declarations : List Declaration) :
    firsts declarations = firstsBy Declaration.symbol declarations := by
  induction declarations with
  | nil => rfl
  | cons declaration rest ih => rw [firsts, ih, firstsBy_cons]

end PackageClosure
