import PackageClosure.Disk.Edit
import PackageClosure.Fetch
import PackageClosure.GitCache.Name
import PackageClosure.Program.Start

set_option autoImplicit false

namespace PackageClosure

namespace GitCache

structure Host (World : Type) where
  has : Path → World → Bool
  createDirectories : Path → World → Except FileError World
  removeTree : Path → World → Except FileError World
  rename : Path → Path → World → Except FileError World
  git : List String → World → Except StartError (World × ExitStatus)

structure Job where
  root : Path
  call : FetchCall

namespace Job

def entry (job : Job) : Path := job.root.join ⟨entryName job.call.url job.call.rev⟩

def staging (job : Job) : Path :=
  job.root.join ⟨stagingName (entryName job.call.url job.call.rev)⟩

end Job

inductive Phase where
  | look
  | confirmGit
  | createRoot
  | clearStaging
  | clone
  | checkout (rev : String)
  | install
  | discard (failure : FetchFailure)
  | done (result : Except FetchFailure Path)

namespace Phase

def gitMissing : FetchFailure :=
  ⟨"git was not found, confirm you have git installed and it is on your PATH. " ++
    "Alternatively, skip with --skip-fetch-git-deps", []⟩

def gitUnusable (error : StartError) : FetchFailure :=
  ⟨s!"Unexpected error occurred when checking for presence of `git`: {error.message}", []⟩

def noRoot (root : Path) (error : FileError) : FetchFailure :=
  ⟨s!"Failed to create git cache '{root.text}'", [error.message]⟩

def notRemoved (path : Path) (error : FileError) : FetchFailure :=
  ⟨s!"Failed to remove '{path.text}'", [error.message]⟩

def notInstalled (job : Job) (error : FileError) : FetchFailure :=
  ⟨s!"Failed to move checkout of '{job.call.name}' into '{job.entry.text}'", [error.message]⟩

def gitFailed (what : String) (status : Option ExitStatus) : FetchFailure :=
  match status with
  | some status => ⟨s!"{what} | Exit status: {status.message}", []⟩
  | none => ⟨what, []⟩

def cloneFailed (call : FetchCall) : Option ExitStatus → FetchFailure :=
  gitFailed s!"Failed to clone Git repository for package '{call.name}'"

def checkoutFailed (call : FetchCall) (rev : String) : Option ExitStatus → FetchFailure :=
  gitFailed s!"Failed to checkout Git reference '{rev}' for package '{call.name}'"

variable {World : Type}

def gitStep (host : Host World) (arguments : List String)
    (failed : Option ExitStatus → FetchFailure) (next : Phase) (world : World) : Phase × World :=
  match host.git arguments world with
  | .error _ => (.discard (failed none), world)
  | .ok (after, status) =>
      if status.isSuccess then (next, after) else (.discard (failed status), after)

def removeIfThere (host : Host World) (path : Path) (world : World) : Except FileError World :=
  match host.removeTree path world with
  | .error (.system .notFound) => .ok world
  | result => result

def step (host : Host World) (job : Job) (phase : Phase) (world : World) : Phase × World :=
  match phase with
  | .look =>
      if host.has job.entry world then (.done (.ok job.entry), world) else (.confirmGit, world)
  | .confirmGit =>
      match host.git ["--version"] world with
      | .ok (after, _) => (.createRoot, after)
      | .error (.system .notFound) => (.done (.error gitMissing), world)
      | .error error => (.done (.error (gitUnusable error)), world)
  | .createRoot =>
      match host.createDirectories job.root world with
      | .ok after => (.clearStaging, after)
      | .error error => (.done (.error (noRoot job.root error)), world)
  | .clearStaging =>
      match removeIfThere host job.staging world with
      | .ok after => (.clone, after)
      | .error error => (.done (.error (notRemoved job.staging error)), world)
  | .clone =>
      let next := match job.call.rev with
        | some rev => .checkout rev
        | none => .install
      gitStep host ["clone", job.call.url, job.staging.text] (cloneFailed job.call) next world
  | .checkout rev =>
      gitStep host ["-C", job.staging.text, "checkout", rev] (checkoutFailed job.call rev) .install
        world
  | .install =>
      match host.rename job.staging job.entry world with
      | .ok after => (.done (.ok job.entry), after)
      | .error error => (.done (.error (notInstalled job error)), world)
  | .discard failure =>
      match host.removeTree job.staging world with
      | .ok after => (.done (.error failure), after)
      | .error _ => (.done (.error failure), world)
  | .done result => (.done result, world)

def rank : Phase → Nat
  | .look => 8
  | .confirmGit => 7
  | .createRoot => 6
  | .clearStaging => 5
  | .clone => 4
  | .checkout _ => 3
  | .install => 2
  | .discard _ => 1
  | .done _ => 0

theorem rank_gitStep_lt (host : Host World) (arguments : List String)
    (failed : Option ExitStatus → FetchFailure) (next : Phase) (world : World) (bound : Nat)
    (below : next.rank < bound) (positive : 1 < bound) :
    (gitStep host arguments failed next world).1.rank < bound := by
  unfold gitStep
  split
  · exact positive
  · split
    · exact below
    · exact positive

theorem rank_step_lt (host : Host World) (job : Job) (phase : Phase) (world : World)
    (running : 0 < phase.rank) : (phase.step host job world).1.rank < phase.rank := by
  cases phase with
  | look =>
      rw [step]
      split <;> simp [rank]
  | confirmGit =>
      rw [step]
      split <;> simp [rank]
  | createRoot =>
      rw [step]
      split <;> simp [rank]
  | clearStaging =>
      rw [step]
      split <;> simp [rank]
  | clone =>
      rw [step]
      refine rank_gitStep_lt host _ _ _ world _ ?_ (by decide)
      split <;> simp [rank]
  | checkout rev =>
      rw [step]
      exact rank_gitStep_lt host _ _ _ world _ (by simp [rank]) (by simp [rank])
  | install =>
      rw [step]
      split <;> simp [rank]
  | discard failure =>
      rw [step]
      split <;> simp [rank]
  | done result => simp [rank] at running

def result? : Phase → Option (Except FetchFailure Path)
  | .done result => some result
  | _ => none

theorem rank_pos_of_result? (phase : Phase) (running : phase.result? = none) : 0 < phase.rank := by
  cases phase <;> simp_all [result?, rank]

theorem eq_done_of_result? (phase : Phase) (result : Except FetchFailure Path)
    (ended : phase.result? = some result) : phase = .done result := by
  cases phase <;> simp_all [result?]

def finish (host : Host World) (job : Job) (phase : Phase) (world : World) :
    Except FetchFailure Path × World :=
  match _running : phase.result? with
  | some result => (result, world)
  | none =>
      let next := phase.step host job world
      finish host job next.1 next.2
termination_by phase.rank
decreasing_by exact rank_step_lt host job phase world (rank_pos_of_result? phase _running)

theorem finish_done (host : Host World) (job : Job) (result : Except FetchFailure Path)
    (world : World) : finish host job (.done result) world = (result, world) := by
  rw [finish]
  rfl

theorem finish_of_running (host : Host World) (job : Job) (phase : Phase) (world : World)
    (running : phase.result? = none) :
    phase.finish host job world =
      (phase.step host job world).1.finish host job (phase.step host job world).2 := by
  rw [finish]
  split
  · rename_i result ended
    simp [running] at ended
  · rfl

end Phase

variable {World : Type}

def fetcher (host : Host World) (root : Path) : Fetcher World := fun call world =>
  Phase.finish host ⟨root, call⟩ .look world

def rootIn (home : Path) : Path := home.join ⟨"git"⟩

end GitCache

namespace Surroundings

-- The cache is named by settings and urls, which are text.
def gitHost (surroundings : Surroundings) (launcher : Launcher) : GitCache.Host Disk where
  has path disk := disk.has surroundings.current path.raw
  createDirectories path disk := disk.createDirectories surroundings.current path.raw
  removeTree path disk := disk.removeTree surroundings.current path.raw
  rename source target disk := disk.rename surroundings.current source.raw target.raw
  git arguments disk := surroundings.start launcher "git" (arguments.map Text.raw) disk

def packageHome (surroundings : Surroundings) : Path :=
  PackageClosure.packageHome (surroundings.setting "MOVE_HOME")
    ((surroundings.setting "HOME").getD "")

def fetcher (surroundings : Surroundings) (launcher : Launcher) : Fetcher Disk := fun call disk =>
  let root := GitCache.rootIn surroundings.packageHome
  let (result, after) := GitCache.fetcher (surroundings.gitHost launcher) root call disk
  (result.map Path.raw, after)

end Surroundings

end PackageClosure
