import Mathlib.Logic.Function.Basic
import PackageClosure.Proofs.GitCache.Laws

set_option autoImplicit false

namespace PackageClosure.GitCache

structure Checkout where
  url : String
  rev : Option String
deriving DecidableEq

abbrev Shelf := String → Option Checkout

namespace Shelf

def put (shelf : Shelf) (path : Path) (checkout : Option Checkout) : Shelf :=
  Function.update shelf path.text checkout

def tree (path : Path) (shelf : Shelf) : Option Checkout := shelf path.text

@[simp] theorem tree_put (shelf : Shelf) (path : Path) (checkout : Option Checkout) :
    tree path (shelf.put path checkout) = checkout := Function.update_self ..

theorem tree_put_of_ne (shelf : Shelf) (path other : Path) (checkout : Option Checkout)
    (apart : other ≠ path) : tree other (shelf.put path checkout) = tree other shelf :=
  Function.update_of_ne (fun same => apart (by cases other; cases path; exact congrArg _ same)) ..

def git (arguments : List String) (shelf : Shelf) : Except StartError (Shelf × ExitStatus) :=
  match arguments with
  | ["clone", url, target] =>
      match tree ⟨target⟩ shelf with
      | none => .ok (shelf.put ⟨target⟩ (some ⟨url, none⟩), .exited 0)
      | some _ => .ok (shelf, .exited 128)
  | ["-C", target, "checkout", rev] =>
      match tree ⟨target⟩ shelf with
      | none => .ok (shelf, .exited 128)
      | some found => .ok (shelf.put ⟨target⟩ (some { found with rev := some rev }), .exited 0)
  | _ => .ok (shelf, .exited 0)

def host : Host Shelf where
  has path shelf := (tree path shelf).isSome
  createDirectories _ shelf := .ok shelf
  removeTree path shelf :=
    match tree path shelf with
    | none => .error (.system .notFound)
    | some _ => .ok (shelf.put path none)
  rename source target shelf :=
    match tree source shelf, tree target shelf with
    | none, _ => .error (.system .notFound)
    | some found, none => .ok ((shelf.put source none).put target (some found))
    | some _, some _ => .error (.system .notEmpty)
  git := git

def repositories : Repositories Checkout where
  cloned url := ⟨url, none⟩
  switched rev found := { found with rev := some rev }

theorem keeps_put (shelf : Shelf) (root : Path) (name : Name) (checkout : Option Checkout) :
    KeepsBut tree root [name] shelf (shelf.put (root.child name) checkout) := by
  intro other apart
  rw [List.mem_singleton] at apart
  exact tree_put_of_ne _ _ _ _ fun same => apart ((Path.child_inj root other name).mp same)

theorem orderly (root : Path) : host.Orderly tree root where
  has_eq _ _ := rfl
  createDirectories world after created := by
    cases created
    exact KeepsBut.refl _
  removeTree name world after removed := by
    simp only [host] at removed
    split at removed
    · cases removed
    · cases removed
      exact ⟨tree_put _ _ _, keeps_put _ _ _ _⟩
  rename source target world after different renamed := by
    have apart : root.child source ≠ root.child target := fun same =>
      different ((Path.child_inj root source target).mp same)
    simp only [host] at renamed
    split at renamed
    · cases renamed
    · rename_i found there _
      cases renamed
      refine ⟨?_, ?_, ?_⟩
      · rw [tree_put_of_ne _ _ _ _ apart, tree_put]
      · rw [tree_put, there]
      · have first : KeepsBut tree root [source, target] world
            (world.put (root.child source) none) :=
          (keeps_put world root source none).mono (by simp)
        exact first.trans ((keeps_put _ _ target _).mono (by simp))
    · cases renamed
  version world after status ran := by
    cases ran
    exact KeepsBut.refl _
  clone url name world after status ran := by
    simp only [host, git] at ran
    split at ran
    · cases ran
      exact keeps_put _ _ _ _
    · cases ran
      exact KeepsBut.refl _
  checkout rev name world after status ran := by
    simp only [host, git] at ran
    split at ran
    · cases ran
      exact KeepsBut.refl _
    · cases ran
      exact keeps_put _ _ _ _

theorem delivers (root : Path) : host.Delivers tree root repositories where
  clone url name world after status ran success := by
    simp only [host, git] at ran
    split at ran
    · cases ran
      exact tree_put _ _ _
    · cases ran
      cases success
  checkout rev name world after status found there ran success := by
    simp only [host, git] at ran
    split at ran
    · cases ran
      cases success
    · rename_i other stored
      cases ran
      obtain rfl : other = found := Option.some.inj (stored.symm.trans there)
      exact tree_put _ _ _

theorem git_clone (shelf : Shelf) (url : String) (target : Path)
    (free : tree target shelf = none) :
    host.git ["clone", url, target.text] shelf =
      .ok (shelf.put target (some ⟨url, none⟩), .exited 0) := by
  simp [host, git, free]

theorem git_checkout (shelf : Shelf) (rev : String) (target : Path) (found : Checkout)
    (there : tree target shelf = some found) :
    host.git ["-C", target.text, "checkout", rev] shelf =
      .ok (shelf.put target (some { found with rev := some rev }), .exited 0) := by
  simp [host, git, there]

theorem rename_of_free (shelf : Shelf) (source target : Path) (found : Checkout)
    (there : tree source shelf = some found) (free : tree target shelf = none) :
    host.rename source target shelf = .ok ((shelf.put source none).put target (some found)) := by
  simp [host, there, free]

theorem removeIfThere_eq (shelf : Shelf) (path : Path) :
    Phase.removeIfThere host path shelf = .ok (shelf.put path none) := by
  cases there : tree path shelf with
  | none =>
      have same : shelf.put path none = shelf := Function.update_eq_self_iff.mpr there.symm
      simp [Phase.removeIfThere, host, there, same]
  | some found => simp [Phase.removeIfThere, host, there]

section Success

variable (job : Job) (shelf : Shelf) (apart : job.entry ≠ job.staging)

theorem isOk_install (found : Checkout) (staged : tree job.staging shelf = some found)
    (missing : tree job.entry shelf = none) :
    (Phase.install.finish host job shelf).1.isOk := by
  rw [Phase.finish_of_running host job .install shelf rfl, Phase.step,
    rename_of_free shelf _ _ found staged missing, Phase.finish_done]
  rfl

include apart

theorem isOk_checkout (rev : String) (found : Checkout)
    (staged : tree job.staging shelf = some found) (missing : tree job.entry shelf = none) :
    ((Phase.checkout rev).finish host job shelf).1.isOk := by
  rw [Phase.finish_of_running host job (.checkout rev) shelf rfl, Phase.step, Phase.gitStep,
    git_checkout shelf rev _ found staged]
  exact isOk_install job _ _ (tree_put ..) ((tree_put_of_ne _ _ _ _ apart).trans missing)

theorem isOk_clone (free : tree job.staging shelf = none)
    (missing : tree job.entry shelf = none) :
    (Phase.clone.finish host job shelf).1.isOk := by
  have still := (tree_put_of_ne shelf _ _ (some ⟨job.call.url, none⟩) apart).trans missing
  rw [Phase.finish_of_running host job .clone shelf rfl, Phase.step, Phase.gitStep,
    git_clone shelf _ _ free]
  cases job.call.rev with
  | none => exact isOk_install job _ _ (tree_put ..) still
  | some rev => exact isOk_checkout job _ apart rev _ (tree_put ..) still

theorem isOk_finish : (Phase.look.finish host job shelf).1.isOk := by
  rw [Phase.finish_of_running host job .look shelf rfl, Phase.step]
  split
  · rw [Phase.finish_done]
    rfl
  · rename_i missing
    rw [Phase.finish_of_running host job .confirmGit shelf rfl]
    change (Phase.finish host job .createRoot shelf).1.isOk
    rw [Phase.finish_of_running host job .createRoot shelf rfl]
    change (Phase.finish host job .clearStaging shelf).1.isOk
    rw [Phase.finish_of_running host job .clearStaging shelf rfl, Phase.step, removeIfThere_eq]
    refine isOk_clone job _ apart (tree_put ..) ((tree_put_of_ne _ _ _ _ apart).trans ?_)
    simpa [host] using missing

end Success

end Shelf

end PackageClosure.GitCache
