import PackageClosure.Proofs.Fetch.Substitution
import PackageClosure.Proofs.Firsts

set_option autoImplicit false

namespace PackageClosure

def callsFor (aliases : Aliases) (entries : List Entry) : List FetchCall :=
  firstsBy FetchCall.name ((entries.filterMap Entry.fetchCall?).filter fun call =>
    aliases.get? call.name = none)

def Manifest.calls (manifest : Manifest) (aliases : Aliases) : List FetchCall :=
  callsFor aliases manifest.entries

section

variable (aliases : Aliases) (entry : Entry) (rest : List Entry)

theorem callsFor_cons_of_no_call (noCall : entry.fetchCall? = none) :
    callsFor aliases (entry :: rest) = callsFor aliases rest := by
  rw [callsFor, List.filterMap_cons_none noCall, callsFor]

theorem callsFor_cons_of_alias (path : Path) (given : aliases.get? entry.name = some path) :
    callsFor aliases (entry :: rest) = callsFor aliases rest := by
  cases isCall : entry.fetchCall? with
  | none => exact callsFor_cons_of_no_call aliases entry rest isCall
  | some call =>
      have named := ((entry.fetchCall?_eq_some_iff call).mp isCall).1
      rw [callsFor, List.filterMap_cons_some isCall, List.filter_cons_of_neg, callsFor]
      simp [named, given]

-- The alias that a call gives rise to keeps other entries of its name from being fetched.
theorem callsFor_cons_of_call (call : FetchCall) (path : Path)
    (isCall : entry.fetchCall? = some call) (free : aliases.get? entry.name = none) :
    callsFor aliases (entry :: rest) =
      call :: callsFor (aliases.insert call.name path) rest := by
  have named := ((entry.fetchCall?_eq_some_iff call).mp isCall).1
  rw [callsFor, List.filterMap_cons_some isCall, List.filter_cons_of_pos (by simp [named, free]),
    firstsBy_cons_filter, List.filter_filter, callsFor]
  congr 3
  funext other
  rw [SortedMap.get?_insert]
  by_cases same : other.name = call.name <;> simp [same]

theorem free_of_mem_callsFor (entries : List Entry) (call : FetchCall)
    (member : call ∈ callsFor aliases entries) :
    aliases.get? call.name = none := by
  have named := (mem_keys_firstsBy FetchCall.name _ _).mp (List.mem_map_of_mem member)
  obtain ⟨other, wanted, same⟩ := List.mem_map.mp named
  rw [← same]
  simpa using (List.mem_filter.mp wanted).2

end

section

variable {World : Type}

def fetchAll (fetcher : Fetcher World) (calls : List FetchCall) (aliases : Aliases)
    (world : World) : Except ResolutionError Aliases × World :=
  match calls with
  | [] => (.ok aliases, world)
  | call :: rest =>
      match fetcher call world with
      | (.error cause, after) => (.error (.fetchFailed call.name cause), after)
      | (.ok path, after) => fetchAll fetcher rest (aliases.insert call.name path) after

theorem fetchEntries_eq (fetcher : Fetcher World) (entries : List Entry) (aliases : Aliases)
    (world : World) : fetchEntries fetcher entries aliases world =
      fetchAll fetcher (callsFor aliases entries) aliases world := by
  induction entries generalizing aliases world with
  | nil => rfl
  | cons entry rest ih =>
      cases isCall : entry.fetchCall? with
      | none =>
          rw [callsFor_cons_of_no_call aliases entry rest isCall, ← ih]
          simp only [fetchEntries, isCall]
      | some call =>
          cases given : aliases.get? entry.name with
          | some old =>
              rw [callsFor_cons_of_alias aliases entry rest old given, ← ih]
              simp only [fetchEntries, isCall, given]
          | none =>
              have first := callsFor_cons_of_call aliases entry rest call
              cases shape : fetcher call world with
              | mk outcome after =>
                  cases outcome with
                  | error cause =>
                      rw [first ⟨""⟩ isCall given]
                      simp only [fetchEntries, isCall, given, shape, fetchAll]
                  | ok path =>
                      rw [first path isCall given]
                      simp only [fetchEntries, isCall, given, shape, fetchAll]
                      exact ih _ _

end

def recording (answer : FetchCall → Except FetchFailure Path) : Fetcher (List FetchCall) :=
  fun call made => (answer call, made ++ [call])

section

variable (answer : FetchCall → Except FetchFailure Path)

def Extends (answer : FetchCall → Except FetchFailure Path) (calls : List FetchCall)
    (aliases extended : Aliases) : Prop :=
  ∀ name path, extended.get? name = some path ↔
    aliases.get? name = some path ∨ ∃ call ∈ calls, call.name = name ∧ answer call = .ok path

theorem fetchAll_ok (calls : List FetchCall) (aliases : Aliases) (made : List FetchCall)
    (distinct : (calls.map FetchCall.name).Nodup)
    (free : ∀ call ∈ calls, aliases.get? call.name = none)
    (answered : ∀ call ∈ calls, ∃ path, answer call = .ok path) :
    ∃ extended, fetchAll (recording answer) calls aliases made = (.ok extended, made ++ calls) ∧
      Extends answer calls aliases extended := by
  induction calls generalizing aliases made with
  | nil => exact ⟨aliases, by simp [fetchAll], by simp [Extends]⟩
  | cons call rest ih =>
      obtain ⟨path, isPath⟩ := answered call (by simp)
      rw [List.map_cons, List.nodup_cons] at distinct
      have others : ∀ other ∈ rest, other.name ≠ call.name := fun other member same =>
        distinct.1 (same ▸ List.mem_map_of_mem member)
      obtain ⟨extended, ok, found⟩ := ih (aliases.insert call.name path) (made ++ [call])
        distinct.2 (fun other member => by
          rw [SortedMap.get?_insert, if_neg (others other member)]
          exact free other (by simp [member]))
        (fun other member => answered other (by simp [member]))
      refine ⟨extended, ?_, ?_⟩
      · simp only [fetchAll, recording, isPath]
        rw [← List.append_cons] at ok
        exact ok
      · intro name other
        rw [found, SortedMap.get?_insert, List.exists_mem_cons_iff]
        by_cases same : name = call.name
        · subst same
          have none : ¬ ∃ later ∈ rest, later.name = call.name ∧ answer later = .ok other := by
            rintro ⟨later, member, again, _⟩
            exact others later member again
          rw [if_pos rfl, free call (by simp), isPath]
          simp [none]
        · simp [same, Ne.symm same]

theorem fetchAll_error (before after : List FetchCall) (call : FetchCall) (cause : FetchFailure)
    (aliases : Aliases) (made : List FetchCall)
    (answered : ∀ earlier ∈ before, ∃ path, answer earlier = .ok path)
    (failed : answer call = .error cause) :
    fetchAll (recording answer) (before ++ call :: after) aliases made =
      (.error (.fetchFailed call.name cause), made ++ (before ++ [call])) := by
  induction before generalizing aliases made with
  | nil => simp [fetchAll, recording, failed]
  | cons first rest ih =>
      obtain ⟨path, isPath⟩ := answered first (by simp)
      have later := ih (aliases.insert first.name path) (made ++ [first])
        fun earlier member => answered earlier (by simp [member])
      rw [List.cons_append, fetchAll]
      simp only [recording, isPath]
      exact later.trans (by rw [List.append_assoc]; rfl)

theorem exists_first_error (calls : List FetchCall)
    (unanswered : ¬ ∀ call ∈ calls, ∃ path, answer call = .ok path) :
    ∃ before call after cause, calls = before ++ call :: after ∧
      (∀ earlier ∈ before, ∃ path, answer earlier = .ok path) ∧ answer call = .error cause := by
  induction calls with
  | nil => exact absurd (by simp) unanswered
  | cons first rest ih =>
      cases isFirst : answer first with
      | error cause => exact ⟨[], first, rest, cause, rfl, by simp, isFirst⟩
      | ok path =>
          obtain ⟨before, call, after, cause, rfl, answered, failed⟩ := ih fun others =>
            unanswered (List.forall_mem_cons.mpr ⟨⟨path, isFirst⟩, others⟩)
          exact ⟨first :: before, call, after, cause, rfl,
            List.forall_mem_cons.mpr ⟨⟨path, isFirst⟩, answered⟩, failed⟩

theorem fetching_calls (manifest : Manifest) (aliases : Aliases)
    (answer : FetchCall → Except FetchFailure Path) :
    let outcome := manifest.fetchDependencies (recording answer) aliases []
    let calls := manifest.calls aliases
    ((∀ call ∈ calls, ∃ path, answer call = .ok path) →
        outcome.2 = calls ∧ ∃ extended, outcome.1 = .ok extended ∧
          Extends answer calls aliases extended) ∧
      ((¬ ∀ call ∈ calls, ∃ path, answer call = .ok path) →
        ∃ before call after cause, calls = before ++ call :: after ∧
          (∀ earlier ∈ before, ∃ path, answer earlier = .ok path) ∧ answer call = .error cause ∧
          outcome = (.error (.fetchFailed call.name cause), before ++ [call])) := by
  intro outcome calls
  have made : outcome = fetchAll (recording answer) calls aliases [] := fetchEntries_eq _ _ _ _
  rw [made]
  constructor
  · intro answered
    obtain ⟨extended, ok, found⟩ := fetchAll_ok answer calls aliases []
      (nodup_keys_firstsBy _ _) (free_of_mem_callsFor aliases manifest.entries) answered
    exact ⟨congrArg Prod.snd ok, extended, congrArg Prod.fst ok, found⟩
  · intro unanswered
    obtain ⟨before, call, after, cause, split, answered, failed⟩ :=
      exists_first_error answer calls unanswered
    refine ⟨before, call, after, cause, split, answered, failed, ?_⟩
    rw [split, fetchAll_error answer before after call cause aliases [] answered failed]
    rfl

end

namespace Repeated

def manifest : Manifest :=
  ⟨⟨"App", "1", [], none⟩, .empty,
    .ofList [("Lib", .git "https://example.com/lib" none),
      ("Std", .git "https://example.com/std" none)],
    .ofList [("Lib", .git "https://example.com/lib" (some "v1")),
      ("Gone", .git "https://example.com/gone" (some "v2"))]⟩

def aliases : Aliases := .ofList [("Std", ⟨"/std"⟩)]

def lib : FetchCall := ⟨"Lib", "https://example.com/lib", none⟩

def gone : FetchCall := ⟨"Gone", "https://example.com/gone", some "v2"⟩

def cause : FetchFailure := ⟨"no such repository", []⟩

def cached (call : FetchCall) : Except FetchFailure Path := .ok ⟨"/cache/" ++ call.name⟩

def partly (call : FetchCall) : Except FetchFailure Path :=
  if call = gone then .error cause else cached call

theorem calls_eq : manifest.calls aliases = [lib, gone] := by decide

theorem failing (call : FetchCall) (other : FetchFailure) (failed : partly call = .error other) :
    call = gone ∧ other = cause := by
  unfold partly at failed
  split at failed
  · rename_i same
    exact ⟨same, (Except.error.inj failed).symm⟩
  · cases failed

end Repeated

theorem fetching_calls_repeated :
    let answered := Repeated.manifest.fetchDependencies (recording Repeated.cached)
      Repeated.aliases []
    let failed := Repeated.manifest.fetchDependencies (recording Repeated.partly)
      Repeated.aliases []
    (answered.2 = [Repeated.lib, Repeated.gone] ∧ ∃ extended, answered.1 = .ok extended ∧
        extended.get? "Std" = some ⟨"/std"⟩ ∧ extended.get? "Lib" = some ⟨"/cache/Lib"⟩) ∧
      ∃ made, failed = (.error (.fetchFailed "Gone" Repeated.cause), made ++ [Repeated.gone]) := by
  intro answered failed
  have calls := Repeated.calls_eq
  have success := (fetching_calls Repeated.manifest Repeated.aliases Repeated.cached).1
  have failure := (fetching_calls Repeated.manifest Repeated.aliases Repeated.partly).2
  constructor
  · obtain ⟨made, extended, ok, found⟩ := success fun call _ => ⟨_, rfl⟩
    refine ⟨made.trans calls, extended, ok, (found _ _).mpr (.inl (by decide)),
      (found _ _).mpr (.inr ⟨Repeated.lib, ?_, rfl, rfl⟩)⟩
    rw [calls]
    exact List.mem_cons_self
  · have unanswered : ¬ ∀ call ∈ Repeated.manifest.calls Repeated.aliases,
        ∃ path, Repeated.partly call = .ok path := by
      intro all
      obtain ⟨path, isPath⟩ := all Repeated.gone (by rw [calls]; simp)
      cases isPath
    obtain ⟨before, call, after, cause, _, _, isLast, ends⟩ := failure unanswered
    obtain ⟨rfl, rfl⟩ := Repeated.failing call cause isLast
    exact ⟨before, ends⟩

end PackageClosure
