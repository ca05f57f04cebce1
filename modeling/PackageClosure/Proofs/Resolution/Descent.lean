import PackageClosure.Proofs.Resolution.Frame
import PackageClosure.Storage.Memory

set_option autoImplicit false

namespace PackageClosure

structure Journal where
  result : Except ResolutionError Progress
  asked : List Location

namespace Resolver

def scan (resolver : Resolver)
    (inside : List Location → Location → Manifest → Progress → List Location → Option Journal)
    (above : List Location) (package : Location) (aliases : Aliases) (entries : List Entry)
    (progress : Progress) (asked : List Location) : Option Journal :=
  match entries with
  | [] => some ⟨.ok progress, asked⟩
  | entry :: rest =>
      match entry.target? resolver.current aliases package with
      | none => scan resolver inside above package aliases rest progress asked
      | some ⟨next, aliased⟩ =>
          if next ∈ above then
            some ⟨.error (.cyclicDependency next (above ++ [next])), asked⟩
          else if next ∈ progress.completed then
            scan resolver inside above package aliases rest
              (progress.addLink package entry ⟨next, aliased⟩) asked
          else
            match resolver.storage.manifestAt next.path with
            | .error cause => some ⟨.error (.manifestUnreadable next.path cause), asked ++ [next]⟩
            | .ok manifest =>
                match inside (above ++ [next]) next manifest
                    (progress.visit package entry ⟨next, aliased⟩ manifest) (asked ++ [next]) with
                | none => none
                | some ⟨.error error, asked⟩ => some ⟨.error error, asked⟩
                | some ⟨.ok after, asked⟩ =>
                    scan resolver inside above package aliases rest (after.complete next) asked

def descend (resolver : Resolver) (limit : Nat) (above : List Location) (package : Location)
    (aliases : Aliases) (manifest : Manifest) (progress : Progress) (asked : List Location) :
    Option Journal :=
  match limit with
  | 0 => none
  | limit + 1 =>
      let inside above package manifest progress asked :=
        descend resolver limit above package .empty manifest progress asked
      scan resolver inside above package aliases manifest.entries progress asked

end Resolver

namespace Trail

variable {storage : Storage}

theorem innermost_push (trail : Trail storage) (package : Location)
    (fresh : package ∉ trail.packages) (loaded : (storage.manifestAt package.path).isOk = true) :
    (trail.push package fresh loaded).innermost = package := rfl

-- One level less is left below a package, and it is still enough: a trail that can be pushed on is
-- shorter than the storage has files.
theorem exists_level (trail : Trail storage) (limit : Nat) (package : Location)
    (fresh : package ∉ trail.packages) (loaded : (storage.manifestAt package.path).isOk = true)
    (room : storage.fileBound ≤ limit + trail.below.length) :
    ∃ less, limit = less + 1 ∧
      storage.fileBound ≤ less + (trail.push package fresh loaded).below.length := by
  have shorter := (trail.push package fresh loaded).length_below_le
  simp only [push, List.length_cons] at shorter ⊢
  exact ⟨limit - 1, by omega, by omega⟩

structure Asked (trail : Trail storage) (progress : Progress) (asked : List Location) : Prop where
  distinct : (trail.root :: asked).Nodup
  known : ∀ package ∈ asked, package ∈ trail.packages ∨ package ∈ progress.completed
  met : progress.packages = asked

namespace Asked

variable {trail : Trail storage} {progress : Progress} {asked : List Location}

theorem start (root : Location) (unmet : progress.packages = []) :
    (Trail.start root : Trail storage).Asked progress [] :=
  ⟨by simp, by simp, unmet⟩

theorem not_mem (earlier : trail.Asked progress asked) (package : Location)
    (fresh : package ∉ trail.packages) (pending : package ∉ progress.completed) :
    package ∉ trail.root :: asked := by
  intro member
  rcases List.mem_cons.mp member with rfl | inside
  · exact fresh List.mem_cons_self
  · exact (earlier.known package inside).elim fresh pending

theorem distinct_append (earlier : trail.Asked progress asked) (package : Location)
    (fresh : package ∉ trail.packages) (pending : package ∉ progress.completed) :
    (trail.root :: (asked ++ [package])).Nodup := by
  rw [← List.cons_append, ← List.concat_eq_append]
  exact earlier.distinct.concat (earlier.not_mem package fresh pending)

theorem push (earlier : trail.Asked progress asked) (entry : Entry) (target : Target)
    (manifest : Manifest) (fresh : target.location ∉ trail.packages)
    (pending : target.location ∉ progress.completed)
    (loaded : (storage.manifestAt target.location.path).isOk = true) :
    (trail.push target.location fresh loaded).Asked
      (progress.visit trail.innermost entry target manifest) (asked ++ [target.location]) where
  distinct := earlier.distinct_append _ fresh pending
  known := by
    intro other member
    rw [packages_push]
    rcases List.mem_append.mp member with inside | isLast
    · exact (earlier.known other inside).imp_left (List.mem_append_left [target.location])
    · exact .inl (List.mem_append_right _ isLast)
  met := by
    have unmet : target.location ∉ progress.packages := by
      rw [earlier.met]
      exact fun inside => earlier.not_mem _ fresh pending (List.mem_cons_of_mem _ inside)
    rw [progress.packages_visit _ _ _ _ unmet, earlier.met]

theorem pop {package : Location} {fresh : package ∉ trail.packages}
    {loaded : (storage.manifestAt package.path).isOk = true}
    (later : (trail.push package fresh loaded).Asked progress asked) :
    trail.Asked (progress.complete package) asked where
  distinct := later.distinct
  known := by
    intro other member
    have place := later.known other member
    rw [packages_push, List.mem_append] at place
    rcases place with (above | isLast) | done
    · exact .inl above
    · exact .inr (List.mem_append_right _ isLast)
    · exact .inr (List.mem_append_left _ done)
  met := later.met

end Asked

end Trail

namespace Resolver

section

variable (resolver : Resolver)

def Scans (limit : Nat) (trail : Trail resolver.storage) (aliases : Aliases)
    (entries : List Entry) (progress : Progress) (asked : List Location)
    (outcome : Except ResolutionError Progress) : Prop :=
  ∃ later,
    resolver.scan
        (fun above package manifest => resolver.descend limit above package .empty manifest)
        trail.packages trail.innermost aliases entries progress asked = some ⟨outcome, later⟩ ∧
      (trail.root :: later).Nodup ∧
      ∀ done, outcome = .ok done → trail.Asked done later

variable (limit : Nat) (trail : Trail resolver.storage) (aliases : Aliases) (entry : Entry)
  (rest : List Entry) (progress : Progress) (asked : List Location)
  (outcome : Except ResolutionError Progress) (target : Target)

theorem scans_nil (earlier : trail.Asked progress asked) :
    resolver.Scans limit trail aliases [] progress asked (.ok progress) := by
  refine ⟨asked, rfl, earlier.distinct, ?_⟩
  intro done isDone
  cases isDone
  exact earlier

theorem scans_skip (none : entry.target? resolver.current aliases trail.innermost = none)
    (later : resolver.Scans limit trail aliases rest progress asked outcome) :
    resolver.Scans limit trail aliases (entry :: rest) progress asked outcome := by
  unfold Scans at later ⊢
  rw [scan, none]
  exact later

theorem scans_cycle (found : entry.target? resolver.current aliases trail.innermost = some target)
    (above : target.location ∈ trail.packages)
    (earlier : trail.Asked progress asked) :
    resolver.Scans limit trail aliases (entry :: rest) progress asked
      (.error (.cyclicDependency target.location (trail.packages ++ [target.location]))) := by
  refine ⟨asked, ?_, earlier.distinct, fun done isDone => nomatch isDone⟩
  rw [scan, found]
  exact if_pos above

theorem scans_again (found : entry.target? resolver.current aliases trail.innermost = some target)
    (fresh : target.location ∉ trail.packages) (complete : target.location ∈ progress.completed)
    (later : resolver.Scans limit trail aliases rest
      (progress.addLink trail.innermost entry target) asked outcome) :
    resolver.Scans limit trail aliases (entry :: rest) progress asked outcome := by
  unfold Scans at later ⊢
  rw [scan, found]
  simp only [if_neg fresh, if_pos complete]
  exact later

theorem scans_unreadable
    (found : entry.target? resolver.current aliases trail.innermost = some target)
    (fresh : target.location ∉ trail.packages) (pending : target.location ∉ progress.completed)
    (cause : LoadError)
    (failed : resolver.storage.manifestAt target.location.path = .error cause)
    (earlier : trail.Asked progress asked) :
    resolver.Scans limit trail aliases (entry :: rest) progress asked
      (.error (.manifestUnreadable target.location.path cause)) := by
  refine ⟨asked ++ [target.location], ?_, earlier.distinct_append _ fresh pending,
    fun done isDone => nomatch isDone⟩
  rw [scan, found]
  simp only [if_neg fresh, if_neg pending, failed]

theorem scans_inside
    (found : entry.target? resolver.current aliases trail.innermost = some target)
    (fresh : target.location ∉ trail.packages) (pending : target.location ∉ progress.completed)
    (manifest : Manifest)
    (loaded : resolver.storage.manifestAt target.location.path = .ok manifest)
    (readable : (resolver.storage.manifestAt target.location.path).isOk = true)
    (error : ResolutionError)
    (inner : resolver.Scans limit (trail.push target.location fresh readable) .empty
      manifest.entries (progress.visit trail.innermost entry target manifest)
      (asked ++ [target.location]) (.error error)) :
    resolver.Scans (limit + 1) trail aliases (entry :: rest) progress asked (.error error) := by
  obtain ⟨later, scanned, distinct, _⟩ := inner
  refine ⟨later, ?_, distinct, fun done isDone => nomatch isDone⟩
  rw [Trail.packages_push, Trail.innermost_push] at scanned
  rw [scan, found]
  simp only [if_neg fresh, if_neg pending, loaded, descend, scanned]

theorem scans_visit
    (found : entry.target? resolver.current aliases trail.innermost = some target)
    (fresh : target.location ∉ trail.packages) (pending : target.location ∉ progress.completed)
    (manifest : Manifest)
    (loaded : resolver.storage.manifestAt target.location.path = .ok manifest)
    (readable : (resolver.storage.manifestAt target.location.path).isOk = true)
    (after : Progress)
    (inner : resolver.Scans limit (trail.push target.location fresh readable) .empty
      manifest.entries (progress.visit trail.innermost entry target manifest)
      (asked ++ [target.location]) (.ok after))
    (later : ∀ asked, trail.Asked (after.complete target.location) asked →
      resolver.Scans (limit + 1) trail aliases rest (after.complete target.location) asked
        outcome) :
    resolver.Scans (limit + 1) trail aliases (entry :: rest) progress asked outcome := by
  obtain ⟨middle, scanned, _, known⟩ := inner
  have continued := later middle (known after rfl).pop
  unfold Scans at continued ⊢
  rw [Trail.packages_push, Trail.innermost_push] at scanned
  rw [scan, found]
  simp only [if_neg fresh, if_neg pending, loaded, descend, scanned]
  exact continued

end

-- The induction is on the calls of the walk. A call inside another one is on a trail that is longer
-- by one and needs one level less, and a trail is never longer than the storage has files.
theorem walk_within (resolver : Resolver) (limit : Nat) (trail : Trail resolver.storage)
    (aliases : Aliases) (entries : List Entry) (progress : Progress) (asked : List Location)
    (room : resolver.storage.fileBound ≤ limit + trail.below.length)
    (earlier : trail.Asked progress asked) :
    resolver.Scans limit trail aliases entries progress asked
      (resolver.walk trail aliases entries progress) := by
  fun_induction Resolver.walk resolver trail aliases entries progress generalizing limit asked
  case case1 => exact resolver.scans_nil limit _ _ _ _ earlier
  case case2 trail aliases progress entry rest none ih =>
      exact resolver.scans_skip limit trail aliases entry rest progress asked _ none
        (ih limit asked room earlier)
  case case3 trail aliases progress entry rest target found above =>
      exact resolver.scans_cycle limit trail aliases entry rest progress asked target found above
        earlier
  case case4 trail aliases progress entry rest target found fresh complete ih =>
      exact resolver.scans_again limit trail aliases entry rest progress asked _ target found fresh
        complete (ih limit asked room ⟨earlier.distinct, earlier.known, earlier.met⟩)
  case case5 trail aliases progress entry rest target found fresh pending cause unreadable =>
      exact resolver.scans_unreadable limit trail aliases entry rest progress asked target found
        fresh pending cause unreadable earlier
  case case6 trail aliases progress entry rest target found fresh pending manifest loaded deeper
      met error stopped ih =>
      have readable := resolver.storage.isOk_manifestAt _ manifest loaded
      obtain ⟨less, rfl, below⟩ := trail.exists_level limit _ fresh readable room
      have inner := ih less (asked ++ [target.location]) below
        (earlier.push entry target manifest fresh pending readable)
      rw [stopped] at inner
      exact resolver.scans_inside less trail aliases entry rest progress asked target found fresh
        pending manifest loaded readable error inner
  case case7 trail aliases progress entry rest target found fresh pending manifest loaded deeper
      met after isInner ihInner ihRest =>
      have readable := resolver.storage.isOk_manifestAt _ manifest loaded
      obtain ⟨less, rfl, below⟩ := trail.exists_level limit _ fresh readable room
      have inner := ihInner less (asked ++ [target.location]) below
        (earlier.push entry target manifest fresh pending readable)
      rw [isInner] at inner
      exact resolver.scans_visit less trail aliases entry rest progress asked _ target found fresh
        pending manifest loaded readable after inner
        (fun middle known => ihRest (less + 1) middle room known)

end Resolver

theorem explore_within (memory : Memory) (current : Location) (named : List AddressArgument)
    (manifest : Manifest) (root : Location) (aliases : Aliases) :
    let resolver : Resolver := ⟨memory.storage, current, named⟩
    ∃ asked,
      resolver.descend (1 + memory.files.length) [root] root aliases manifest
          (resolver.begin manifest root) [] =
        some ⟨resolver.explore manifest root aliases, asked⟩ ∧
      (root :: asked).Nodup ∧
      ∀ done, resolver.explore manifest root aliases = .ok done → done.packages = asked := by
  intro resolver
  obtain ⟨asked, scanned, distinct, known⟩ := resolver.walk_within memory.files.length
    (.start root) aliases manifest.entries (resolver.begin manifest root) []
    (Nat.le_add_right memory.files.length 0) (.start root rfl)
  refine ⟨asked, ?_, distinct, fun done isDone => (known done isDone).met⟩
  rw [Nat.add_comm, Resolver.descend]
  exact scanned

end PackageClosure
