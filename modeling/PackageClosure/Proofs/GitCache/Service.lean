import PackageClosure.Proofs.GitCache.Names
import PackageClosure.Proofs.GitCache.Shelf

set_option autoImplicit false

namespace PackageClosure.GitCache

section Fetch

variable {World Tree : Type} {host : Host World} {tree : Path → World → Option Tree} {root : Path}
  {repositories : Repositories Tree} {call : FetchCall} {filled : call.joined ≠ ""}

def Pending (tree : Path → World → Option Tree) (root : Path) (call : FetchCall)
    (filled : call.joined ≠ "") (before world : World) : Prop :=
  KeepsBut tree root [call.staging] before world ∧
    tree (root.child (call.entry filled)) before = none

def Served (tree : Path → World → Option Tree) (root : Path) (repositories : Repositories Tree)
    (call : FetchCall) (filled : call.joined ≠ "") (before after : World) : Prop :=
  KeepsBut tree root [call.staging, call.entry filled] before after ∧
    tree (root.child (call.entry filled)) after =
      some ((tree (root.child (call.entry filled)) before).getD (repositories.content call))

/-- What holds in each phase of a call, from the world before the call. A phase that goes on with
the staging directory relies on what is in it. -/
def Underway (tree : Path → World → Option Tree) (root : Path) (repositories : Repositories Tree)
    (call : FetchCall) (filled : call.joined ≠ "") (before : World) (phase : Phase)
    (world : World) : Prop :=
  match phase with
  | .look => KeepsBut tree root [call.staging] before world
  | .checkout rev =>
      Pending tree root call filled before world ∧ call.rev = some rev ∧
        tree (root.child call.staging) world = some (repositories.cloned call.url)
  | .install =>
      Pending tree root call filled before world ∧
        tree (root.child call.staging) world = some (repositories.content call)
  | .done (.ok path) =>
      path = root.child (call.entry filled) ∧
        Served tree root repositories call filled before world
  | _ => Pending tree root call filled before world

theorem Pending.keep {before world after : World}
    (pending : Pending tree root call filled before world)
    (keeps : KeepsBut tree root [call.staging] world after) :
    Pending tree root call filled before after := ⟨pending.1.trans keeps, pending.2⟩

theorem KeepsBut.entry_eq {before world : World}
    (keeps : KeepsBut tree root [call.staging] before world) :
    tree (root.child (call.entry filled)) world = tree (root.child (call.entry filled)) before :=
  keeps _ fun member =>
    call.staging_ne_entry call filled (List.mem_singleton.mp member).symm

theorem pending_gitStep {holds : Phase → World → Prop} {before world : World}
    (arguments : List String) (failed : Option ExitStatus → FetchFailure) (next : Phase)
    (pending : Pending tree root call filled before world)
    (keeps : ∀ after status, host.git arguments world = .ok (after, status) →
      KeepsBut tree root [call.staging] world after)
    (givesUp : ∀ failure after, Pending tree root call filled before after →
      holds (.discard failure) after)
    (goesOn : ∀ after status, host.git arguments world = .ok (after, status) → status.isSuccess →
      Pending tree root call filled before after → holds next after) :
    holds (Phase.gitStep host arguments failed next world).1
      (Phase.gitStep host arguments failed next world).2 := by
  unfold Phase.gitStep
  split
  · exact givesUp _ world pending
  · rename_i after status ran
    have still := pending.keep (keeps after status ran)
    split
    · rename_i success
      exact goesOn after status ran success still
    · exact givesUp _ after still

theorem keeps_removeIfThere (orderly : host.Orderly tree root) (name : Name) (world after : World)
    (removed : Phase.removeIfThere host (root.child name) world = .ok after) :
    KeepsBut tree root [name] world after := by
  unfold Phase.removeIfThere at removed
  split at removed
  · cases removed
    exact .refl _
  · exact (orderly.removeTree name world after removed).2

theorem underway_look {before world : World} (orderly : host.Orderly tree root)
    (underway : Underway tree root repositories call filled before .look world) :
    Underway tree root repositories call filled before
      (Phase.look.step host ⟨root, call⟩ world).1 (Phase.look.step host ⟨root, call⟩ world).2 := by
  have same : tree (root.child (call.entry filled)) world = _ := KeepsBut.entry_eq underway
  have seen : host.has (Job.entry ⟨root, call⟩) world =
      (tree (root.child (call.entry filled)) world).isSome :=
    orderly.has_eq (call.entry filled) world
  rw [Phase.step, seen]
  split
  · rename_i there
    obtain ⟨found, there⟩ := Option.isSome_iff_exists.mp there
    refine ⟨rfl, underway.mono (by simp), ?_⟩
    rw [← same, there]
    rfl
  · rename_i missing
    exact ⟨underway, by rw [← same]; simpa using missing⟩

theorem underway_clone {before world : World} (orderly : host.Orderly tree root)
    (delivers : host.Delivers tree root repositories)
    (pending : Pending tree root call filled before world) :
    Underway tree root repositories call filled before
      (Phase.clone.step host ⟨root, call⟩ world).1
      (Phase.clone.step host ⟨root, call⟩ world).2 := by
  rw [Phase.step]
  refine pending_gitStep _ _ _ pending (orderly.clone call.url call.staging world)
    (fun _ _ still => still) ?_
  intro after status ran success still
  have cloned := delivers.clone call.url call.staging world after status ran success
  split
  · rename_i rev pinned
    exact ⟨still, pinned, cloned⟩
  · rename_i unpinned
    refine ⟨still, cloned.trans ?_⟩
    simp only at unpinned
    rw [Repositories.content, unpinned]

theorem underway_checkout {before world : World} (orderly : host.Orderly tree root)
    (delivers : host.Delivers tree root repositories) (rev : String)
    (underway : Underway tree root repositories call filled before (.checkout rev) world) :
    Underway tree root repositories call filled before
      ((Phase.checkout rev).step host ⟨root, call⟩ world).1
      ((Phase.checkout rev).step host ⟨root, call⟩ world).2 := by
  obtain ⟨pending, pinned, cloned⟩ := underway
  rw [Phase.step]
  refine pending_gitStep _ _ _ pending (orderly.checkout rev call.staging world)
    (fun _ _ still => still) ?_
  intro after status ran success still
  refine ⟨still, ?_⟩
  rw [delivers.checkout rev call.staging world after status _ cloned ran success,
    Repositories.content, pinned]

theorem underway_install {before world : World} (orderly : host.Orderly tree root)
    (underway : Underway tree root repositories call filled before .install world) :
    Underway tree root repositories call filled before
      (Phase.install.step host ⟨root, call⟩ world).1
      (Phase.install.step host ⟨root, call⟩ world).2 := by
  obtain ⟨pending, staged⟩ := underway
  rw [Phase.step]
  split
  · rename_i after renamed
    obtain ⟨-, installed, keeps⟩ := orderly.rename call.staging (call.entry filled) world after
      (call.staging_ne_entry call filled) renamed
    refine ⟨rfl, (pending.1.mono (by simp)).trans keeps, ?_⟩
    rw [installed, staged, pending.2]
    rfl
  · exact pending

theorem underway_step {before : World} (orderly : host.Orderly tree root)
    (delivers : host.Delivers tree root repositories) (phase : Phase) (world : World)
    (underway : Underway tree root repositories call filled before phase world) :
    Underway tree root repositories call filled before (phase.step host ⟨root, call⟩ world).1
      (phase.step host ⟨root, call⟩ world).2 := by
  have keepsAll {after : World} (keeps : KeepsBut tree root [] world after) :
      KeepsBut tree root [call.staging] world after := keeps.mono (by simp)
  cases phase with
  | look => exact underway_look orderly underway
  | confirmGit =>
      rw [Phase.step]
      split
      · rename_i after status ran
        exact Pending.keep underway (keepsAll (orderly.version world after status ran))
      · exact underway
      · exact underway
  | createRoot =>
      rw [Phase.step]
      split
      · rename_i after created
        exact Pending.keep underway (keepsAll (orderly.createDirectories world after created))
      · exact underway
  | clearStaging =>
      rw [Phase.step]
      split
      · rename_i after removed
        exact Pending.keep underway (keeps_removeIfThere orderly call.staging world after removed)
      · exact underway
  | clone => exact underway_clone orderly delivers underway
  | checkout rev => exact underway_checkout orderly delivers rev underway
  | install => exact underway_install orderly underway
  | discard failure =>
      rw [Phase.step]
      split
      · rename_i after removed
        exact Pending.keep underway (orderly.removeTree call.staging world after removed).2
      · exact underway
  | done result => exact underway

theorem underway_finish {before : World} (orderly : host.Orderly tree root)
    (delivers : host.Delivers tree root repositories) (phase : Phase) (world : World)
    (underway : Underway tree root repositories call filled before phase world) :
    Underway tree root repositories call filled before
      (.done (phase.finish host ⟨root, call⟩ world).1)
      (phase.finish host ⟨root, call⟩ world).2 := by
  induction phase, world using Phase.finish.induct host ⟨root, call⟩ with
  | case1 phase world result ended =>
      obtain rfl := phase.eq_done_of_result? result ended
      rw [Phase.finish_done]
      exact underway
  | case2 phase world running next ih =>
      rw [Phase.finish_of_running host _ phase world running]
      exact ih (underway_step orderly delivers phase world underway)

theorem underway_fetch (orderly : host.Orderly tree root)
    (delivers : host.Delivers tree root repositories) (filled : call.joined ≠ "") (world : World) :
    Underway tree root repositories call filled world (.done (fetcher host root call world).1)
      (fetcher host root call world).2 := by
  have underway : Underway tree root repositories call filled world .look world := .refl world
  exact underway_finish orderly delivers .look world underway

theorem fetch_ok (orderly : host.Orderly tree root)
    (delivers : host.Delivers tree root repositories) (filled : call.joined ≠ "") (world : World)
    (path : Path)
    (returned : (fetcher host root call world).1 = .ok path) :
    path = root.child (call.entry filled) ∧
      Served tree root repositories call filled world (fetcher host root call world).2 := by
  have ended := underway_fetch orderly delivers filled world
  rw [returned] at ended
  exact ended

theorem fetch_error (orderly : host.Orderly tree root)
    (delivers : host.Delivers tree root repositories) (filled : call.joined ≠ "") (world : World)
    (failure : FetchFailure) (returned : (fetcher host root call world).1 = .error failure) :
    Pending tree root call filled world (fetcher host root call world).2 := by
  have ended := underway_fetch orderly delivers filled world
  rw [returned] at ended
  exact ended

end Fetch

section Session

variable {World : Type}

structure Answer (World : Type) where
  call : FetchCall
  result : Except FetchFailure Path
  after : World

def answers (fetcher : Fetcher World) : List FetchCall → World → List (Answer World)
  | [], _ => []
  | call :: rest, world =>
      ⟨call, (fetcher call world).1, (fetcher call world).2⟩ ::
        answers fetcher rest (fetcher call world).2

def firstAlike? (answers : List (Answer World)) (call : FetchCall) : Option FetchCall :=
  (answers.find? fun answer => answer.result.isOk && answer.call.Alike call).map Answer.call

theorem firstAlike?_cons (answer : Answer World) (rest : List (Answer World)) (call : FetchCall) :
    firstAlike? (answer :: rest) call =
      if answer.result.isOk && answer.call.Alike call then some answer.call
      else firstAlike? rest call := by
  rw [firstAlike?, List.find?_cons]
  split <;> simp_all [firstAlike?]

theorem call_mem_of_mem_answers (fetcher : Fetcher World) (calls : List FetchCall) (world : World)
    (answer : Answer World) (given : answer ∈ answers fetcher calls world) :
    answer.call ∈ calls := by
  induction calls generalizing world with
  | nil => cases given
  | cons call rest ih =>
      rcases List.mem_cons.mp given with rfl | later
      · exact List.mem_cons_self ..
      · exact List.mem_cons_of_mem _ (ih _ later)

variable {Tree : Type} {host : Host World} {tree : Path → World → Option Tree} {root : Path}
  {repositories : Repositories Tree}

theorem entry_after_fetch (orderly : host.Orderly tree root)
    (delivers : host.Delivers tree root repositories) (call other : FetchCall)
    (filled : call.joined ≠ "") (otherFilled : other.joined ≠ "") (world : World) :
    tree (root.child (other.entry otherFilled)) (fetcher host root call world).2 =
      if (fetcher host root call world).1.isOk && call.Alike other then
        some ((tree (root.child (other.entry otherFilled)) world).getD (repositories.content call))
      else tree (root.child (other.entry otherFilled)) world := by
  have notStaging : other.entry otherFilled ≠ call.staging :=
    (call.staging_ne_entry other otherFilled).symm
  cases returned : (fetcher host root call world).1 with
  | error failure =>
      have keeps := (fetch_error orderly delivers filled world failure returned).1
      exact keeps _ (by simpa using notStaging)
  | ok path =>
      obtain ⟨-, keeps, served⟩ := fetch_ok orderly delivers filled world path returned
      by_cases alike : call.Alike other
      · rw [(call.entry_eq_iff other filled otherFilled).mpr alike] at served
        simpa [Except.isOk, Except.toBool, alike] using served
      · have notEntry : other.entry otherFilled ≠ call.entry filled := fun same =>
          alike ((call.entry_eq_iff other filled otherFilled).mp same.symm)
        simpa [alike] using keeps _ (by simp [notStaging, notEntry])

-- By induction on the calls: what is under a name was there before, or is from the first call.
theorem served_from (orderly : host.Orderly tree root)
    (delivers : host.Delivers tree root repositories) (calls : List FetchCall) (world : World)
    (filled : ∀ call ∈ calls, call.joined ≠ "") (answer : Answer World)
    (given : answer ∈ answers (fetcher host root) calls world) (path : Path)
    (returned : answer.result = .ok path) :
    path = (Job.mk root answer.call).entry ∧
      ∃ first, firstAlike? (answers (fetcher host root) calls world) answer.call = some first ∧
        tree path answer.after =
          some ((tree path world).getD (repositories.content first)) := by
  induction calls generalizing world with
  | nil => cases given
  | cons call rest ih =>
      have callFilled := filled call (by simp)
      have restFilled : ∀ other ∈ rest, other.joined ≠ "" := fun other member =>
        filled other (by simp [member])
      rcases List.mem_cons.mp given with rfl | later
      · obtain ⟨rfl, -, served⟩ := fetch_ok orderly delivers callFilled world path returned
        refine ⟨rfl, call, ?_, served⟩
        rw [answers, firstAlike?_cons, returned]
        simp [Except.isOk, Except.toBool, call.alike_refl]
      · obtain ⟨rfl, first, isFirst, served⟩ := ih _ restFilled later
        have answerFilled := restFilled _ (call_mem_of_mem_answers _ _ _ _ later)
        have isEntry : (Job.mk root answer.call).entry =
            root.child (answer.call.entry answerFilled) := rfl
        have after :=
          entry_after_fetch orderly delivers call answer.call callFilled answerFilled world
        refine ⟨rfl, ?_⟩
        rw [answers, firstAlike?_cons]
        rw [isEntry] at served ⊢
        by_cases alike : ((fetcher host root call world).1.isOk && call.Alike answer.call) = true
        · rw [if_pos alike] at after
          exact ⟨call, if_pos alike, by rw [served, after]; rfl⟩
        · rw [if_neg alike] at after
          exact ⟨first, (if_neg alike).trans isFirst, by rw [served, after]⟩

theorem served_as_first (orderly : host.Orderly tree root)
    (delivers : host.Delivers tree root repositories) (calls : List FetchCall) (world : World)
    (filled : ∀ call ∈ calls, call.joined ≠ "")
    (empty : ∀ name, tree (root.child name) world = none) (answer : Answer World)
    (given : answer ∈ answers (fetcher host root) calls world) (path : Path)
    (returned : answer.result = .ok path) :
    path = (Job.mk root answer.call).entry ∧
      ∃ first, firstAlike? (answers (fetcher host root) calls world) answer.call = some first ∧
        tree path answer.after = some (repositories.content first) := by
  obtain ⟨rfl, first, isFirst, served⟩ :=
    served_from orderly delivers calls world filled answer given path returned
  have answerFilled := filled _ (call_mem_of_mem_answers _ _ _ _ given)
  have missing : tree (Job.mk root answer.call).entry world = none :=
    empty (answer.call.entry answerFilled)
  refine ⟨rfl, first, isFirst, ?_⟩
  rw [served, missing]
  rfl

theorem mem_of_firstAlike? (answers : List (Answer World)) (call first : FetchCall)
    (found : firstAlike? answers call = some first) :
    first.Alike call ∧ ∃ answer ∈ answers, answer.call = first := by
  obtain ⟨answer, isFirst, rfl⟩ := Option.map_eq_some_iff.mp found
  have accepted := List.find?_some isFirst
  simp only [Bool.and_eq_true, decide_eq_true_eq] at accepted
  exact ⟨accepted.2, answer, List.mem_of_find?_eq_some isFirst, rfl⟩

theorem served_right_iff (orderly : host.Orderly tree root)
    (delivers : host.Delivers tree root repositories) (calls : List FetchCall) (world : World)
    (filled : ∀ call ∈ calls, call.joined ≠ "")
    (empty : ∀ name, tree (root.child name) world = none) :
    (∀ answer ∈ answers (fetcher host root) calls world, ∀ path, answer.result = .ok path →
        tree path answer.after = some (repositories.content answer.call)) ↔
      ∀ answer ∈ answers (fetcher host root) calls world, ∀ path, answer.result = .ok path →
        ∀ first, firstAlike? (answers (fetcher host root) calls world) answer.call = some first →
          repositories.content first = repositories.content answer.call := by
  have served := served_as_first orderly delivers calls world filled empty
  refine ⟨fun right answer given path returned first isFirst => ?_,
    fun same answer given path returned => ?_⟩
  · obtain ⟨-, found, isFound, inPlace⟩ := served answer given path returned
    obtain rfl : found = first := Option.some.inj (isFound.symm.trans isFirst)
    exact Option.some.inj (inPlace.symm.trans (right answer given path returned))
  · obtain ⟨-, first, isFirst, inPlace⟩ := served answer given path returned
    rw [inPlace, same answer given path returned first isFirst]

end Session

namespace Shelf

theorem exists_path_of_mem_answers (root : Path) (calls : List FetchCall)
    (filled : ∀ call ∈ calls, call.joined ≠ "") (shelf : Shelf) (answer : Answer Shelf)
    (given : answer ∈ answers (fetcher host root) calls shelf) :
    ∃ path, answer.result = .ok path := by
  induction calls generalizing shelf with
  | nil => cases given
  | cons call rest ih =>
      rcases List.mem_cons.mp given with rfl | later
      · have apart : Job.entry ⟨root, call⟩ ≠ Job.staging ⟨root, call⟩ := fun same =>
          call.staging_ne_entry call (filled call (by simp))
            ((Path.child_inj root call.staging (call.entry _)).mp same.symm)
        have isOk := isOk_finish ⟨root, call⟩ shelf apart
        cases returned : (Phase.look.finish host ⟨root, call⟩ shelf).1 with
        | error failure => simp [returned, Except.isOk, Except.toBool] at isOk
        | ok path => exact ⟨path, returned⟩
      · exact ih (fun other member => filled other (by simp [member])) _ later

end Shelf

namespace Lookalike

def unpinned : FetchCall := ⟨"Main", "https://example.com/lib_v1", none⟩

def pinned : FetchCall := ⟨"Pinned", "https://example.com/lib", some "v1"⟩

def newer : FetchCall := ⟨"Newer", "https://example.com/lib", some "v2"⟩

def cache : Path := ⟨"/git"⟩

def served (calls : List FetchCall) : List (Answer Shelf) :=
  answers (fetcher Shelf.host cache) calls fun _ => none

end Lookalike

open Lookalike in
theorem served_right_iff_repeated :
    (∀ answer ∈ served [pinned, newer, pinned], ∃ path, answer.result = .ok path) ∧
      ∀ answer ∈ served [pinned, newer, pinned], ∀ path, answer.result = .ok path →
        Shelf.tree path answer.after = some (Shelf.repositories.content answer.call) := by
  have filled : ∀ call ∈ [pinned, newer, pinned], call.joined ≠ "" := by decide
  refine ⟨Shelf.exists_path_of_mem_answers cache _ filled _, ?_⟩
  refine (served_right_iff (Shelf.orderly cache) (Shelf.delivers cache) _ _ filled
    fun _ => rfl).mpr fun answer given path _ first isFirst => ?_
  have apart : ∀ one ∈ [pinned, newer, pinned], ∀ other ∈ [pinned, newer, pinned],
      one.Alike other → Shelf.repositories.content one = Shelf.repositories.content other := by
    decide
  obtain ⟨alike, source, member, rfl⟩ := mem_of_firstAlike? _ _ _ isFirst
  exact apart _ (call_mem_of_mem_answers _ _ _ _ member) _ (call_mem_of_mem_answers _ _ _ _ given)
    alike

open Lookalike in
theorem pinned_served_unpinned :
    Shelf.host.Orderly Shelf.tree cache ∧
      Shelf.host.Delivers Shelf.tree cache Shelf.repositories ∧
      (∀ answer ∈ served [unpinned, pinned], ∃ path, answer.result = .ok path) ∧
      ¬ ∀ answer ∈ served [unpinned, pinned], ∀ path, answer.result = .ok path →
        Shelf.tree path answer.after = some (Shelf.repositories.content answer.call) := by
  have filled : ∀ call ∈ [unpinned, pinned], call.joined ≠ "" := by decide
  have answered : ∀ answer ∈ served [unpinned, pinned], ∃ path, answer.result = .ok path :=
    Shelf.exists_path_of_mem_answers cache [unpinned, pinned] filled fun _ => none
  refine ⟨Shelf.orderly cache, Shelf.delivers cache, answered, fun right => ?_⟩
  obtain ⟨early, late, both, isEarly, isLate⟩ : ∃ early late : Answer Shelf,
      served [unpinned, pinned] = [early, late] ∧ early.call = unpinned ∧ late.call = pinned :=
    ⟨_, _, rfl, rfl, rfl⟩
  have given : late ∈ served [unpinned, pinned] := by simp [both]
  obtain ⟨before, returned⟩ := answered early (by simp [both])
  have isUnpinned : firstAlike? (served [unpinned, pinned]) late.call = some unpinned := by
    have alike : unpinned.Alike pinned := by decide
    rw [both, firstAlike?_cons, returned, isEarly, isLate]
    simp [alike, Except.isOk, Except.toBool]
  obtain ⟨path, returned⟩ := answered late given
  obtain ⟨-, first, isFirst, inPlace⟩ := served_as_first (Shelf.orderly cache)
    (Shelf.delivers cache) [unpinned, pinned] _ filled (fun _ => rfl) late given path returned
  obtain rfl : first = unpinned := Option.some.inj (isFirst.symm.trans isUnpinned)
  have same := Option.some.inj (inPlace.symm.trans (right late given path returned))
  rw [isLate] at same
  revert same
  decide

end PackageClosure.GitCache
