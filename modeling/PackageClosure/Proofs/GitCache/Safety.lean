import PackageClosure.Proofs.GitCache.Service

set_option autoImplicit false

namespace PackageClosure.GitCache

structure Host.Reliable {World Tree : Type} (host : Host World)
    (tree : Path → World → Option Tree) (root : Path) : Prop where
  removeTree : ∀ name world, (∃ after, host.removeTree (root.child name) world = .ok after) ∨
    (host.removeTree (root.child name) world = .error (.system .notFound) ∧
      tree (root.child name) world = none)
  rename : ∀ source target world, source ≠ target → tree (root.child source) world ≠ none →
    tree (root.child target) world = none →
      ∃ after, host.rename (root.child source) (root.child target) world = .ok after

variable {World : Type}

def Phase.runFor (host : Host World) (job : Job) : Nat → Phase → World → Phase × World
  | 0, phase, world => (phase, world)
  | steps + 1, phase, world =>
      runFor host job steps (phase.step host job world).1 (phase.step host job world).2

theorem Phase.runFor_succ (host : Host World) (job : Job) (steps : Nat) (phase : Phase)
    (world : World) :
    runFor host job (steps + 1) phase world =
      (runFor host job steps phase world).1.step host job
        (runFor host job steps phase world).2 := by
  induction steps generalizing phase world with
  | zero => rfl
  | succ steps ih => exact ih _ _

theorem Phase.runFor_done (host : Host World) (job : Job) (steps : Nat)
    (result : Except FetchFailure Path) (world : World) :
    runFor host job steps (.done result) world = (.done result, world) := by
  induction steps with
  | zero => rfl
  | succ steps ih => exact ih

theorem Phase.runFor_of_rank_le (host : Host World) (job : Job) (steps : Nat) (phase : Phase)
    (world : World) (enough : phase.rank ≤ steps) :
    runFor host job steps phase world =
      (.done (phase.finish host job world).1, (phase.finish host job world).2) := by
  induction phase, world using Phase.finish.induct host job generalizing steps with
  | case1 phase world result ended =>
      obtain rfl := phase.eq_done_of_result? result ended
      rw [runFor_done, finish_done]
  | case2 phase world running next ih =>
      have shorter : next.1.rank < phase.rank :=
        rank_step_lt host job phase world (phase.rank_pos_of_result? running)
      obtain ⟨rest, rfl⟩ : ∃ rest, steps = rest + 1 := ⟨steps - 1, by omega⟩
      rw [finish_of_running host job phase world running]
      exact ih rest (by omega)

structure Attempt (World : Type) where
  host : Host World
  call : FetchCall
  steps : Nat

namespace Attempt

def run (attempt : Attempt World) (root : Path) (world : World) : Phase × World :=
  Phase.runFor attempt.host ⟨root, attempt.call⟩ attempt.steps .look world

def runAll (root : Path) (attempts : List (Attempt World)) (world : World) : World :=
  attempts.foldl (fun world attempt => (attempt.run root world).2) world

theorem run_of_complete (attempt : Attempt World) (root : Path) (world : World)
    (complete : 8 ≤ attempt.steps) :
    attempt.run root world =
      (.done (fetcher attempt.host root attempt.call world).1,
        (fetcher attempt.host root attempt.call world).2) :=
  Phase.runFor_of_rank_le _ _ _ .look world complete

theorem fetcher_of_run (attempt : Attempt World) (root : Path) (world after : World)
    (result : Except FetchFailure Path) (complete : 8 ≤ attempt.steps)
    (ended : attempt.run root world = (.done result, after)) :
    fetcher attempt.host root attempt.call world = (result, after) := by
  rw [attempt.run_of_complete root world complete] at ended
  cases ended
  rfl

end Attempt

section Course

variable {Tree : Type} {host : Host World} {tree : Path → World → Option Tree} {root : Path}
  {call : FetchCall} {filled : call.joined ≠ ""}

def Unbegun (tree : Path → World → Option Tree) (root : Path) (call : FetchCall)
    (filled : call.joined ≠ "") (before world : World) : Prop :=
  KeepsBut tree root [] before world ∧ tree (root.child (call.entry filled)) before = none

def Reaches (host : Host World) (root : Path) (call : FetchCall) (before : World) (phase : Phase)
    (world : World) : Prop :=
  ∃ steps, Phase.runFor host ⟨root, call⟩ steps .look before = (phase, world)

def Cloned (host : Host World) (tree : Path → World → Option Tree) (root : Path)
    (call : FetchCall) (before world : World) : Prop :=
  ∃ start status, Reaches host root call before .clone start ∧
    tree (root.child call.staging) start = none ∧
    host.git ["clone", call.url, (root.child call.staging).text] start = .ok (world, status) ∧
      status.isSuccess

def Staged (host : Host World) (tree : Path → World → Option Tree) (root : Path)
    (call : FetchCall) (before world : World) : Prop :=
  match call.rev with
  | none => Cloned host tree root call before world
  | some rev => ∃ cloned status, Cloned host tree root call before cloned ∧
      host.git ["-C", (root.child call.staging).text, "checkout", rev] cloned =
        .ok (world, status) ∧ status.isSuccess

def Installed (host : Host World) (tree : Path → World → Option Tree) (root : Path)
    (call : FetchCall) (before after : World) : Prop :=
  let job : Job := ⟨root, call⟩
  tree job.entry before = none ∧ ∃ staged, Staged host tree root call before staged ∧
    host.rename job.staging job.entry staged = .ok after ∧
      tree job.entry after = tree job.staging staged

/-- What holds in each phase of a call, from the world before the call. The staging directory is
gone or untouched when a call fails, and complete when it is moved. -/
def Course (host : Host World) (tree : Path → World → Option Tree) (root : Path)
    (call : FetchCall) (filled : call.joined ≠ "") (before : World) (phase : Phase)
    (world : World) : Prop :=
  match phase with
  | .look => KeepsBut tree root [] before world
  | .confirmGit | .createRoot | .clearStaging => Unbegun tree root call filled before world
  | .clone =>
      Pending tree root call filled before world ∧ tree (root.child call.staging) world = none
  | .checkout rev =>
      Pending tree root call filled before world ∧ call.rev = some rev ∧
        Cloned host tree root call before world
  | .install => Pending tree root call filled before world ∧ Staged host tree root call before world
  | .discard _ => Pending tree root call filled before world
  | .done (.error _) =>
      Pending tree root call filled before world ∧
        (tree (root.child call.staging) world = none ∨
          tree (root.child call.staging) world = tree (root.child call.staging) before)
  | .done (.ok _) =>
      KeepsBut tree root [] before world ∨
        (KeepsBut tree root [call.staging, call.entry filled] before world ∧
          Installed host tree root call before world)

theorem Unbegun.pending {before world : World}
    (unbegun : Unbegun tree root call filled before world) :
    Pending tree root call filled before world := ⟨unbegun.1.mono (by simp), unbegun.2⟩

theorem Unbegun.failed {before world : World} (failure : FetchFailure)
    (unbegun : Unbegun tree root call filled before world) :
    Course host tree root call filled before (.done (.error failure)) world :=
  ⟨unbegun.pending, .inr (unbegun.1 _ (by simp))⟩

theorem Pending.entry_eq_none {before world : World}
    (pending : Pending tree root call filled before world) :
    tree (root.child (call.entry filled)) world = none :=
  (KeepsBut.entry_eq pending.1).trans pending.2

theorem removeIfThere_reliable (orderly : host.Orderly tree root)
    (reliable : host.Reliable tree root) (name : Name) (world : World) :
    ∃ after, Phase.removeIfThere host (root.child name) world = .ok after ∧
      tree (root.child name) after = none := by
  rcases reliable.removeTree name world with ⟨after, removed⟩ | ⟨missing, free⟩
  · refine ⟨after, ?_, (orderly.removeTree name world after removed).1⟩
    simp only [Phase.removeIfThere, removed]
  · refine ⟨world, ?_, free⟩
    simp only [Phase.removeIfThere, missing]

theorem course_look {before world : World} (orderly : host.Orderly tree root)
    (course : Course host tree root call filled before .look world) :
    Course host tree root call filled before (Phase.look.step host ⟨root, call⟩ world).1
      (Phase.look.step host ⟨root, call⟩ world).2 := by
  have same := course (call.entry filled) (by simp)
  have seen : host.has (Job.entry ⟨root, call⟩) world =
      (tree (root.child (call.entry filled)) world).isSome :=
    orderly.has_eq (call.entry filled) world
  rw [Phase.step, seen]
  split
  · exact .inl course
  · rename_i missing
    exact ⟨course, by rw [← same]; simpa using missing⟩

theorem course_clearStaging {before world : World} (orderly : host.Orderly tree root)
    (reliable : host.Reliable tree root)
    (course : Course host tree root call filled before .clearStaging world) :
    Course host tree root call filled before
      (Phase.clearStaging.step host ⟨root, call⟩ world).1
      (Phase.clearStaging.step host ⟨root, call⟩ world).2 := by
  obtain ⟨after, removed, free⟩ := removeIfThere_reliable orderly reliable call.staging world
  have keeps := keeps_removeIfThere orderly call.staging world after removed
  rw [Phase.step]
  split
  · rename_i found isFound
    obtain rfl : after = found := Except.ok.inj (removed.symm.trans isFound)
    exact ⟨(Unbegun.pending course).keep keeps, free⟩
  · rename_i error failed
    cases removed.symm.trans failed

theorem course_clone {before world : World} (orderly : host.Orderly tree root)
    (reached : Reaches host root call before .clone world)
    (course : Course host tree root call filled before .clone world) :
    Course host tree root call filled before (Phase.clone.step host ⟨root, call⟩ world).1
      (Phase.clone.step host ⟨root, call⟩ world).2 := by
  obtain ⟨pending, free⟩ := course
  rw [Phase.step]
  refine pending_gitStep _ _ _ pending (orderly.clone call.url call.staging world)
    (fun _ _ still => still) ?_
  intro after status ran success still
  have cloned : Cloned host tree root call before after :=
    ⟨world, status, reached, free, ran, success⟩
  split
  · rename_i rev pinned
    exact ⟨still, pinned, cloned⟩
  · rename_i unpinned
    refine ⟨still, ?_⟩
    simp only at unpinned
    rw [Staged, unpinned]
    exact cloned

theorem course_checkout {before world : World} (orderly : host.Orderly tree root) (rev : String)
    (course : Course host tree root call filled before (.checkout rev) world) :
    Course host tree root call filled before
      ((Phase.checkout rev).step host ⟨root, call⟩ world).1
      ((Phase.checkout rev).step host ⟨root, call⟩ world).2 := by
  obtain ⟨pending, pinned, cloned⟩ := course
  rw [Phase.step]
  refine pending_gitStep _ _ _ pending (orderly.checkout rev call.staging world)
    (fun _ _ still => still) ?_
  intro after status ran success still
  refine ⟨still, ?_⟩
  rw [Staged, pinned]
  exact ⟨world, status, cloned, ran, success⟩

theorem course_install {before world : World} (orderly : host.Orderly tree root)
    (reliable : host.Reliable tree root)
    (course : Course host tree root call filled before .install world) :
    Course host tree root call filled before (Phase.install.step host ⟨root, call⟩ world).1
      (Phase.install.step host ⟨root, call⟩ world).2 := by
  obtain ⟨pending, staged⟩ := course
  have apart := call.staging_ne_entry call filled
  rw [Phase.step]
  split
  · rename_i after renamed
    obtain ⟨-, moved, keeps⟩ := orderly.rename call.staging (call.entry filled) world after apart
      renamed
    exact .inr ⟨(pending.1.mono (by simp)).trans keeps, pending.2, world, staged, renamed, moved⟩
  · rename_i error failed
    refine ⟨pending, .inl ?_⟩
    by_contra there
    obtain ⟨after, renamed⟩ :=
      reliable.rename call.staging (call.entry filled) world apart there pending.entry_eq_none
    cases renamed.symm.trans failed

theorem course_discard {before world : World} (orderly : host.Orderly tree root)
    (reliable : host.Reliable tree root) (failure : FetchFailure)
    (course : Course host tree root call filled before (.discard failure) world) :
    Course host tree root call filled before
      ((Phase.discard failure).step host ⟨root, call⟩ world).1
      ((Phase.discard failure).step host ⟨root, call⟩ world).2 := by
  rw [Phase.step]
  split
  · rename_i after removed
    obtain ⟨gone, keeps⟩ := orderly.removeTree call.staging world after removed
    exact ⟨Pending.keep course keeps, .inl gone⟩
  · rename_i error failed
    refine ⟨course, .inl ?_⟩
    rcases reliable.removeTree call.staging world with ⟨after, removed⟩ | ⟨-, free⟩
    · cases removed.symm.trans failed
    · exact free

theorem course_step {before : World} (orderly : host.Orderly tree root)
    (reliable : host.Reliable tree root) (phase : Phase) (world : World)
    (reached : Reaches host root call before phase world)
    (course : Course host tree root call filled before phase world) :
    Course host tree root call filled before (phase.step host ⟨root, call⟩ world).1
      (phase.step host ⟨root, call⟩ world).2 := by
  cases phase with
  | look => exact course_look orderly course
  | confirmGit =>
      rw [Phase.step]
      split
      · rename_i after status ran
        exact ⟨course.1.trans (orderly.version world after status ran), course.2⟩
      · exact Unbegun.failed _ course
      · exact Unbegun.failed _ course
  | createRoot =>
      rw [Phase.step]
      split
      · rename_i after created
        exact ⟨course.1.trans (orderly.createDirectories world after created), course.2⟩
      · exact Unbegun.failed _ course
  | clearStaging => exact course_clearStaging orderly reliable course
  | clone => exact course_clone orderly reached course
  | checkout rev => exact course_checkout orderly rev course
  | install => exact course_install orderly reliable course
  | discard failure => exact course_discard orderly reliable failure course
  | done result => exact course

theorem course_runFor (orderly : host.Orderly tree root) (reliable : host.Reliable tree root)
    (steps : Nat) (before : World) :
    Course host tree root call filled before
      (Phase.runFor host ⟨root, call⟩ steps .look before).1
      (Phase.runFor host ⟨root, call⟩ steps .look before).2 := by
  induction steps with
  | zero => exact KeepsBut.refl before
  | succ steps ih =>
      rw [Phase.runFor_succ]
      exact course_step orderly reliable _ _ ⟨steps, rfl⟩ ih

theorem Course.installed_or_keeps {before world : World} {phase : Phase}
    (course : Course host tree root call filled before phase world) :
    KeepsBut tree root [call.staging] before world ∨
      (KeepsBut tree root [call.staging, call.entry filled] before world ∧
        Installed host tree root call before world) := by
  cases phase with
  | look => exact .inl (KeepsBut.mono course (by simp))
  | confirmGit => exact .inl (Unbegun.pending course).1
  | createRoot => exact .inl (Unbegun.pending course).1
  | clearStaging => exact .inl (Unbegun.pending course).1
  | clone => exact .inl course.1.1
  | checkout rev => exact .inl course.1.1
  | install => exact .inl course.1.1
  | discard failure => exact .inl course.1
  | done result =>
      cases result with
      | error failure => exact .inl course.1.1
      | ok path => exact course.imp_left fun keeps => keeps.mono (by simp)

end Course

section Attempts

variable {Tree : Type} {tree : Path → World → Option Tree} {root : Path}

/-- An attempt to fetch what has a name in the cache, on a host that does what a cache relies on.
Whether git succeeds is left open. -/
structure Attempt.Sound (tree : Path → World → Option Tree) (root : Path)
    (attempt : Attempt World) : Prop where
  filled : attempt.call.joined ≠ ""
  orderly : attempt.host.Orderly tree root
  reliable : attempt.host.Reliable tree root

theorem Attempt.course (attempt : Attempt World) (sound : attempt.Sound tree root)
    (world : World) :
    Course attempt.host tree root attempt.call sound.filled world (attempt.run root world).1
      (attempt.run root world).2 :=
  course_runFor sound.orderly sound.reliable attempt.steps world

theorem Attempt.entry_after_run (attempt : Attempt World) (sound : attempt.Sound tree root)
    (call : FetchCall) (filled : call.joined ≠ "") (world : World) :
    tree (Job.mk root call).entry (attempt.run root world).2 = tree (Job.mk root call).entry world ∨
      (Job.mk root attempt.call).entry = (Job.mk root call).entry ∧
        Installed attempt.host tree root attempt.call world (attempt.run root world).2 := by
  have notStaging : call.entry filled ≠ attempt.call.staging :=
    (attempt.call.staging_ne_entry call filled).symm
  rcases (attempt.course sound world).installed_or_keeps with keeps | ⟨keeps, installed⟩
  · exact .inl (keeps (call.entry filled) (by simpa using notStaging))
  · by_cases same : attempt.call.entry sound.filled = call.entry filled
    · exact .inr ⟨congrArg root.child same, installed⟩
    · exact .inl (keeps (call.entry filled) (by simp [notStaging, Ne.symm same]))

theorem entry_after_runAll (attempts : List (Attempt World))
    (sound : ∀ attempt ∈ attempts, attempt.Sound tree root) (call : FetchCall)
    (filled : call.joined ≠ "") (world : World)
    (there : tree (Job.mk root call).entry world ≠ none) :
    tree (Job.mk root call).entry (Attempt.runAll root attempts world) =
      tree (Job.mk root call).entry world := by
  induction attempts generalizing world with
  | nil => rfl
  | cons attempt rest ih =>
      obtain ⟨first, others⟩ := List.forall_mem_cons.mp sound
      rcases attempt.entry_after_run first call filled world with same | ⟨shared, missing, -⟩
      · rw [← same] at there ⊢
        exact ih others _ there
      · rw [shared] at missing
        exact absurd missing there

-- By induction on the attempts: the first one after which the entry is there has installed it.
theorem exists_installed (attempts : List (Attempt World))
    (sound : ∀ attempt ∈ attempts, attempt.Sound tree root) (call : FetchCall)
    (filled : call.joined ≠ "") (world : World)
    (missing : tree (Job.mk root call).entry world = none)
    (there : tree (Job.mk root call).entry (Attempt.runAll root attempts world) ≠ none) :
    ∃ earlier attempt later, attempts = earlier ++ attempt :: later ∧
      (Job.mk root attempt.call).entry = (Job.mk root call).entry ∧
      Installed attempt.host tree root attempt.call (Attempt.runAll root earlier world)
        (Attempt.runAll root (earlier ++ [attempt]) world) ∧
      ∀ more, more <+: later →
        tree (Job.mk root call).entry (Attempt.runAll root (earlier ++ attempt :: more) world) =
          tree (Job.mk root call).entry (Attempt.runAll root (earlier ++ [attempt]) world) := by
  induction attempts generalizing world with
  | nil => exact absurd missing there
  | cons attempt rest ih =>
      obtain ⟨first, others⟩ := List.forall_mem_cons.mp sound
      by_cases still : tree (Job.mk root call).entry (attempt.run root world).2 = none
      · obtain ⟨earlier, next, later, rfl, shared, installed, kept⟩ := ih others _ still there
        exact ⟨attempt :: earlier, next, later, rfl, shared, installed, kept⟩
      · rcases attempt.entry_after_run first call filled world with same | ⟨shared, installed⟩
        · exact absurd (same.trans missing) still
        · refine ⟨[], attempt, rest, rfl, shared, installed, fun more isPrefix => ?_⟩
          exact entry_after_runAll more (fun other member => others other (isPrefix.subset member))
            call filled _ still

-- What is staged is nowhere that a repository can be found, not even one without a name.
theorem location_staging_ne (root : Path) (call other : FetchCall) :
    (Job.mk root call).staging.location ≠ (Job.mk root other).entry.location := by
  by_cases filled : other.joined = ""
  · have nameless : (Job.mk root other).entry = root.join ⟨""⟩ := by
      rw [Job.entry, entryName_eq_sanitize, ← FetchCall.joined, filled]
      rfl
    rw [nameless, Path.location_join]
    exact root.location_child_ne call.staging
  · intro same
    exact call.staging_ne_entry other filled
      ((root.location_child_inj call.staging (other.entry filled)).mp same)

/-- A cache that is filled by calls that may fail or be cut off. What comes into it has been cloned
and checked out by the call that moved it there, and stays as it is; a call that fails leaves
nothing behind; and what is staged is never taken for what is complete. -/
theorem cache_safe (attempts : List (Attempt World))
    (sound : ∀ attempt ∈ attempts, attempt.Sound tree root) (world : World) :
    (∀ call : FetchCall, call.joined ≠ "" → tree (Job.mk root call).entry world = none →
      tree (Job.mk root call).entry (Attempt.runAll root attempts world) ≠ none →
        ∃ earlier attempt later, attempts = earlier ++ attempt :: later ∧
          (Job.mk root attempt.call).entry = (Job.mk root call).entry ∧
          Installed attempt.host tree root attempt.call (Attempt.runAll root earlier world)
            (Attempt.runAll root (earlier ++ [attempt]) world) ∧
          ∀ more, more <+: later →
            tree (Job.mk root call).entry
                (Attempt.runAll root (earlier ++ attempt :: more) world) =
              tree (Job.mk root call).entry
                (Attempt.runAll root (earlier ++ [attempt]) world)) ∧
      (∀ earlier attempt later, attempts = earlier ++ attempt :: later →
        let before := Attempt.runAll root earlier world
        let job : Job := ⟨root, attempt.call⟩
        ∀ failure after, attempt.run root before = (.done (.error failure), after) →
          tree job.entry after = none ∧
            (tree job.staging after = none ∨ tree job.staging after = tree job.staging before) ∧
            KeepsBut tree root [attempt.call.staging] before after) ∧
      ∀ call other : FetchCall,
        (Job.mk root call).staging.location ≠ (Job.mk root other).entry.location := by
  refine ⟨fun call filled => exists_installed attempts sound call filled world, ?_,
    location_staging_ne root⟩
  intro earlier attempt later split before job failure after ended
  have course := attempt.course (sound attempt (by simp [split])) before
  rw [ended] at course
  exact ⟨course.1.entry_eq_none, course.2, course.1.1⟩

end Attempts

namespace Shelf

theorem reliable (root : Path) : host.Reliable tree root where
  removeTree name shelf := by
    cases there : tree (root.child name) shelf with
    | none => exact .inr ⟨by simp [host, there], rfl⟩
    | some found => exact .inl ⟨shelf.put (root.child name) none, by simp [host, there]⟩
  rename source target shelf apart there free := by
    obtain ⟨found, stored⟩ := Option.ne_none_iff_exists'.mp there
    exact ⟨_, rename_of_free shelf _ _ found stored free⟩

def offline : Host Shelf := { host with git := fun _ shelf => .ok (shelf, .exited 128) }

theorem orderly_offline (root : Path) : offline.Orderly tree root where
  has_eq := (orderly root).has_eq
  createDirectories := (orderly root).createDirectories
  removeTree := (orderly root).removeTree
  rename := (orderly root).rename
  version world after status ran := by
    cases ran
    exact .refl world
  clone url name world after status ran := by
    cases ran
    exact .refl world
  checkout rev name world after status ran := by
    cases ran
    exact .refl world

theorem reliable_offline (root : Path) : offline.Reliable tree root where
  removeTree := (reliable root).removeTree
  rename := (reliable root).rename

end Shelf

namespace Interrupted

def call : FetchCall := ⟨"Lib", "https://example.com/lib", some "v1"⟩

def job : Job := ⟨⟨"/git"⟩, call⟩

def attempts : List (Attempt Shelf) :=
  [⟨Shelf.host, call, 5⟩, ⟨Shelf.offline, call, 8⟩, ⟨Shelf.host, call, 8⟩]

def empty : Shelf := fun _ => none

theorem sound : ∀ attempt ∈ attempts, attempt.Sound Shelf.tree job.root := by
  have filled : call.joined ≠ "" := by decide
  intro attempt member
  simp only [attempts, List.mem_cons, List.not_mem_nil, or_false] at member
  rcases member with rfl | rfl | rfl
  · exact ⟨filled, Shelf.orderly _, Shelf.reliable _⟩
  · exact ⟨filled, Shelf.orderly_offline _, Shelf.reliable_offline _⟩
  · exact ⟨filled, Shelf.orderly _, Shelf.reliable _⟩

theorem there : Shelf.tree job.entry (Attempt.runAll job.root attempts empty) =
    some ⟨call.url, call.rev⟩ := by
  decide +kernel

end Interrupted

open Interrupted in
theorem cache_safe_interrupted :
    (∀ attempt ∈ attempts, attempt.Sound Shelf.tree job.root) ∧
      (∃ earlier attempt later, attempts = earlier ++ attempt :: later ∧
        Installed attempt.host Shelf.tree job.root attempt.call
          (Attempt.runAll job.root earlier empty)
          (Attempt.runAll job.root (earlier ++ [attempt]) empty)) ∧
      ∃ failure after,
        Attempt.run ⟨Shelf.offline, call, 8⟩ job.root
            (Attempt.runAll job.root [⟨Shelf.host, call, 5⟩] empty) =
          (.done (.error failure), after) ∧
        Shelf.tree job.entry after = none := by
  have filled : call.joined ≠ "" := by decide
  have safe := cache_safe attempts sound empty
  have installed := safe.1 call filled rfl (by
    rw [show (Job.mk job.root call) = job from rfl, there]
    simp)
  refine ⟨sound, ?_, ?_⟩
  · obtain ⟨earlier, attempt, later, split, -, isInstalled, -⟩ := installed
    exact ⟨earlier, attempt, later, split, isInstalled⟩
  · obtain ⟨failure, after, ended⟩ : ∃ failure after,
        Attempt.run ⟨Shelf.offline, call, 8⟩ job.root
            (Attempt.runAll job.root [⟨Shelf.host, call, 5⟩] empty) =
          (.done (.error failure), after) := ⟨_, _, rfl⟩
    exact ⟨failure, after, ended, (safe.2.1 [⟨Shelf.host, call, 5⟩] _ _ rfl failure after ended).1⟩

namespace Nameless

def tree (path : Path) (places : List Location) : Option Unit :=
  if path.location ∈ places then some () else none

def host : Host (List Location) where
  has path places := decide (path.location ∈ places)
  createDirectories path places := .ok (path.location :: places)
  removeTree path places :=
    if path.location ∈ places then .ok (places.filter (· ≠ path.location))
    else .error (.system .notFound)
  rename source target places :=
    if source.location ∈ places ∧ target.location ∉ places then
      .ok (target.location :: places.filter (· ≠ source.location))
    else .error (.system .notFound)
  git _ places := .ok (places, .exited 128)

def call : FetchCall := ⟨"Lib", "", none⟩

def job : Job := ⟨⟨"/git"⟩, call⟩

theorem tree_congr (path : Path) (places after : List Location)
    (same : path.location ∈ after ↔ path.location ∈ places) :
    tree path after = tree path places := by
  simp only [tree, same]

theorem orderly (root : Path) : host.Orderly tree root where
  has_eq name places := by
    by_cases there : (root.child name).location ∈ places <;> simp [host, tree, there]
  createDirectories places after created := by
    cases created
    intro name _
    exact tree_congr _ _ _ (by simp [root.location_child_ne name])
  removeTree name places after removed := by
    simp only [host] at removed
    split at removed
    · cases removed
      refine ⟨by simp [tree], fun other apart => tree_congr _ _ _ ?_⟩
      rw [List.mem_singleton] at apart
      simp [root.location_child_inj, apart]
    · cases removed
  rename source target places after apart renamed := by
    simp only [host] at renamed
    split at renamed
    · rename_i found
      cases renamed
      refine ⟨?_, ?_, fun other others => tree_congr _ _ _ ?_⟩
      · simp [tree, root.location_child_inj, apart]
      · simp [tree, found.1]
      · simp only [List.mem_cons, List.not_mem_nil, or_false, not_or] at others
        simp [root.location_child_inj, others]
    · cases renamed
  version places after status ran := by
    cases ran
    exact .refl places
  clone url name places after status ran := by
    cases ran
    exact .refl places
  checkout rev name places after status ran := by
    cases ran
    exact .refl places

theorem reliable (root : Path) : host.Reliable tree root where
  removeTree name places := by
    by_cases there : (root.child name).location ∈ places
    · exact .inl ⟨_, if_pos there⟩
    · exact .inr ⟨if_neg there, if_neg there⟩
  rename source target places apart there free := by
    have isThere : (root.child source).location ∈ places := by
      by_contra missing
      exact there (if_neg missing)
    have isFree : (root.child target).location ∉ places := by
      intro found
      simp [tree, found] at free
    exact ⟨_, if_pos ⟨isThere, isFree⟩⟩

theorem runs : ∃ failure after,
    Attempt.run ⟨host, call, 8⟩ job.root [] = (.done (.error failure), after) ∧
      tree job.entry after ≠ none ∧
      Attempt.run ⟨host, call, 8⟩ job.root after = (.done (.ok job.entry), after) :=
  ⟨_, _, rfl, by decide, rfl⟩

end Nameless

open Nameless in
theorem nameless_entry_of_failure :
    (host.Orderly tree job.root ∧ host.Reliable tree job.root ∧
      ∀ arguments places after status, host.git arguments places = .ok (after, status) →
        ¬ status.isSuccess) ∧
      tree job.entry [] = none ∧
      ∃ failure after, fetcher host job.root call [] = (.error failure, after) ∧
        tree job.entry after ≠ none ∧
        fetcher host job.root call after = (.ok job.entry, after) := by
  refine ⟨⟨orderly _, reliable _, ?_⟩, by decide, ?_⟩
  · intro arguments places after status ran
    cases ran
    decide
  · obtain ⟨failure, after, first, there, second⟩ := runs
    exact ⟨failure, after, Attempt.fetcher_of_run _ _ _ _ _ (Nat.le_refl 8) first, there,
      Attempt.fetcher_of_run _ _ _ _ _ (Nat.le_refl 8) second⟩

end PackageClosure.GitCache
