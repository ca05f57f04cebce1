import Mathlib.Data.List.Forall2

set_option autoImplicit false

namespace PackageClosure

variable {ε δ α β : Type}

theorem bind_eq_ok_iff (result : Except ε α) (next : α → Except ε β) (b : β) :
    result >>= next = .ok b ↔ ∃ a, result = .ok a ∧ next a = .ok b := by
  cases result <;> simp [bind, Except.bind]

theorem mapError_eq_ok_iff (result : Except ε α) (change : ε → δ) (a : α) :
    result.mapError change = .ok a ↔ result = .ok a := by
  cases result <;> simp [Except.mapError]

structure Verdict (result : Except ε α) (Fits : α → Prop) (faults : List ε) : Prop where
  accepts : ∀ a, result = .ok a ↔ Fits a
  rejects : ∀ error, result = .error error ↔ faults.head? = some error

namespace Verdict

variable {result : Except ε α} {Fits : α → Prop} {faults : List ε}

theorem accept (a : α) (only : ∀ b, Fits b ↔ b = a) : Verdict (.ok a : Except ε α) Fits [] where
  accepts b := by simp [only b, eq_comm]
  rejects error := by simp

theorem reject (error : ε) (rest : List ε) (unfit : ∀ a, ¬ Fits a) :
    Verdict (.error error : Except ε α) Fits (error :: rest) where
  accepts a := by simp [unfit a]
  rejects other := by simp

theorem faults_of_ok (verdict : Verdict result Fits faults) (a : α) (accepted : result = .ok a) :
    faults = [] := by
  cases shape : faults with
  | nil => rfl
  | cons error rest =>
      have rejected := (verdict.rejects error).mpr (by rw [shape]; rfl)
      rw [accepted] at rejected
      cases rejected

theorem faults_of_error (verdict : Verdict result Fits faults) (error : ε)
    (rejected : result = .error error) : ∃ rest, faults = error :: rest :=
  List.head?_eq_some_iff.mp ((verdict.rejects error).mp rejected)

theorem congr (verdict : Verdict result Fits faults) (Other : α → Prop)
    (same : ∀ a, Fits a ↔ Other a) : Verdict result Other faults where
  accepts a := (verdict.accepts a).trans (same a)
  rejects := verdict.rejects

-- The faults of what comes second do not depend on what the first check has come to, so all of
-- them can be listed even where the first check fails.
theorem bind (verdict : Verdict result Fits faults) (next : α → Except ε β) (Next : α → β → Prop)
    (later : List ε) (verdicts : ∀ a, Fits a → Verdict (next a) (Next a) later) :
    Verdict (result >>= next) (fun b => ∃ a, Fits a ∧ Next a b) (faults ++ later) where
  accepts b := by
    rw [bind_eq_ok_iff]
    constructor
    · rintro ⟨a, accepted, rest⟩
      have fits := (verdict.accepts a).mp accepted
      exact ⟨a, fits, ((verdicts a fits).accepts b).mp rest⟩
    · rintro ⟨a, fits, rest⟩
      exact ⟨a, (verdict.accepts a).mpr fits, ((verdicts a fits).accepts b).mpr rest⟩
  rejects error := by
    cases outcome : result with
    | error first =>
        obtain ⟨rest, rfl⟩ := verdict.faults_of_error first outcome
        simp [Bind.bind, Except.bind]
    | ok a =>
        rw [verdict.faults_of_ok a outcome]
        exact (verdicts a ((verdict.accepts a).mp outcome)).rejects error

theorem map (verdict : Verdict result Fits faults) (f : α → β) :
    Verdict (result >>= fun a => .ok (f a)) (fun b => ∃ a, Fits a ∧ b = f a) faults := by
  have mapped := verdict.bind (fun a => .ok (f a)) (fun a b => b = f a) []
    (fun a _ => accept (f a) fun _ => Iff.rfl)
  rwa [List.append_nil] at mapped

theorem mapM (check : α → Except ε β) (Fits : α → β → Prop) (faults : α → List ε)
    (verdicts : ∀ a, Verdict (check a) (Fits a) (faults a)) (items : List α) :
    Verdict (items.mapM check) (List.Forall₂ Fits items) (items.flatMap faults) := by
  induction items with
  | nil =>
      rw [List.mapM_nil]
      exact accept [] fun _ => List.forall₂_nil_left_iff
  | cons item rest ih =>
      rw [List.mapM_cons, List.flatMap_cons]
      have steps := (verdicts item).bind (fun value => rest.mapM check >>= fun values =>
        .ok (value :: values)) _ _ (fun value _ => ih.map (value :: ·))
      refine steps.congr _ fun values => ?_
      rw [List.forall₂_cons_left_iff]
      constructor
      · rintro ⟨value, fits, values, others, rfl⟩
        exact ⟨value, values, fits, others, rfl⟩
      · rintro ⟨value, values, fits, others, rfl⟩
        exact ⟨value, fits, values, others, rfl⟩

end Verdict

end PackageClosure
