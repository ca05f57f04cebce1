import Mathlib.Data.List.Infix
import PackageClosure.Proofs.GitCache.Service

set_option autoImplicit false

namespace PackageClosure

namespace GitCache

section Hosts

variable {World Tree : Type}

/-- What git and the file system refuse to do, and that git leaves a directory as it was or not at
all when it fails. -/
structure Host.Strict (host : Host World) (tree : Path → World → Option Tree) (root : Path) :
    Prop where
  clone_there : ∀ url name world after status, tree (root.child name) world ≠ none →
    host.git ["clone", url, (root.child name).text] world = .ok (after, status) →
      ¬ status.isSuccess
  checkout_missing : ∀ rev name world after status, tree (root.child name) world = none →
    host.git ["-C", (root.child name).text, "checkout", rev] world = .ok (after, status) →
      ¬ status.isSuccess
  rename_missing : ∀ source target world after, tree (root.child source) world = none →
    host.rename (root.child source) (root.child target) world ≠ .ok after
  clone_failed : ∀ url name world after status,
    host.git ["clone", url, (root.child name).text] world = .ok (after, status) →
      ¬ status.isSuccess →
        tree (root.child name) after = tree (root.child name) world ∨
          tree (root.child name) after = none
  checkout_failed : ∀ rev name world after status,
    host.git ["-C", (root.child name).text, "checkout", rev] world = .ok (after, status) →
      ¬ status.isSuccess →
        tree (root.child name) after = tree (root.child name) world ∨
          tree (root.child name) after = none

structure Host.Sound (host : Host World) (tree : Path → World → Option Tree) (root : Path)
    (repositories : Repositories Tree) : Prop where
  orderly : host.Orderly tree root
  delivers : host.Delivers tree root repositories
  strict : host.Strict tree root

end Hosts

structure Wanted (Member : Type) where
  root : Path
  url : String
  rev : String
  name : Member → String

namespace Wanted

variable {Member : Type} (wanted : Wanted Member)

def call (member : Member) : FetchCall := ⟨wanted.name member, wanted.url, some wanted.rev⟩

def job (member : Member) : Job := ⟨wanted.root, wanted.call member⟩

def entry : Name := FetchCall.entry ⟨"", wanted.url, some wanted.rev⟩ (by
  simp [FetchCall.joined, joined])

def staging : Name := FetchCall.staging ⟨"", wanted.url, some wanted.rev⟩

theorem staging_ne_entry : wanted.staging ≠ wanted.entry := FetchCall.staging_ne_entry _ _ _

theorem entry_job (member : Member) : (wanted.job member).entry = wanted.root.child wanted.entry :=
  rfl

theorem staging_job (member : Member) :
    (wanted.job member).staging = wanted.root.child wanted.staging := rfl

end Wanted

inductive Event where
  | cloned
  | checkedOut
  | installed
deriving DecidableEq, Repr

def Phase.event? : Phase → Phase → Option Event
  | .clone, .checkout _ => some .cloned
  | .checkout _, .install => some .checkedOut
  | .install, .done (.ok _) => some .installed
  | _, _ => none

structure Crowd (Member World : Type) where
  phase : Member → Phase
  world : World

structure Turn (Member World : Type) where
  member : Member
  host : Host World

section Crowd

variable {Member World : Type} [DecidableEq Member]

def Turn.take (wanted : Wanted Member) (turn : Turn Member World) (crowd : Crowd Member World) :
    Crowd Member World :=
  let next := (crowd.phase turn.member).step turn.host (wanted.job turn.member) crowd.world
  ⟨Function.update crowd.phase turn.member next.1, next.2⟩

def Turn.event? (wanted : Wanted Member) (turn : Turn Member World)
    (crowd : Crowd Member World) : Option Event :=
  (crowd.phase turn.member).event? ((turn.take wanted crowd).phase turn.member)

namespace Crowd

def start (world : World) : Crowd Member World := ⟨fun _ => .look, world⟩

def run (wanted : Wanted Member) (turns : List (Turn Member World)) (crowd : Crowd Member World) :
    Crowd Member World :=
  turns.foldl (fun crowd turn => turn.take wanted crowd) crowd

def events (wanted : Wanted Member) : List (Turn Member World) → Crowd Member World → List Event
  | [], _ => []
  | turn :: rest, crowd =>
      (turn.event? wanted crowd).toList ++ events wanted rest (turn.take wanted crowd)

end Crowd

end Crowd

section Step

variable {Member World Tree : Type} {host : Host World} {tree : Path → World → Option Tree}
  {repositories : Repositories Tree} {wanted : Wanted Member}

def Wanted.staged? (wanted : Wanted Member) (tree : Path → World → Option Tree) (world : World) :
    Option Tree :=
  tree (wanted.root.child wanted.staging) world

def Wanted.installed? (wanted : Wanted Member) (tree : Path → World → Option Tree)
    (world : World) : Option Tree :=
  tree (wanted.root.child wanted.entry) world

def Wanted.Pinned (wanted : Wanted Member) (repositories : Repositories Tree) (found : Tree) :
    Prop :=
  ∃ source, found = repositories.switched wanted.rev source

def Effect (wanted : Wanted Member) (tree : Path → World → Option Tree)
    (repositories : Repositories Tree) (event : Option Event) (before after : World) : Prop :=
  match event with
  | none =>
      (wanted.staged? tree after = wanted.staged? tree before ∨ wanted.staged? tree after = none) ∧
        wanted.installed? tree after = wanted.installed? tree before
  | some .cloned =>
      wanted.staged? tree after = some (repositories.cloned wanted.url) ∧
        wanted.installed? tree after = wanted.installed? tree before
  | some .checkedOut =>
      (∃ found, wanted.staged? tree after = some found ∧ wanted.Pinned repositories found) ∧
        wanted.installed? tree after = wanted.installed? tree before
  | some .installed =>
      wanted.staged? tree before ≠ none ∧ wanted.staged? tree after = none ∧
        wanted.installed? tree after = wanted.staged? tree before

theorem installed?_of_keeps {before after : World}
    (keeps : KeepsBut tree wanted.root [wanted.staging] before after) :
    wanted.installed? tree after = wanted.installed? tree before :=
  keeps _ fun member => wanted.staging_ne_entry (List.mem_singleton.mp member).symm

theorem effect_of_keeps {before after : World}
    (keeps : KeepsBut tree wanted.root [] before after) :
    Effect wanted tree repositories none before after :=
  ⟨.inl (keeps _ (by simp)), keeps _ (by simp)⟩

theorem effect_refl (world : World) : Effect wanted tree repositories none world world :=
  effect_of_keeps (.refl world)

theorem effect_removeTree (orderly : host.Orderly tree wanted.root) (world after : World)
    (removed : host.removeTree (wanted.root.child wanted.staging) world = .ok after) :
    Effect wanted tree repositories none world after := by
  obtain ⟨gone, keeps⟩ := orderly.removeTree wanted.staging world after removed
  exact ⟨.inr gone, installed?_of_keeps keeps⟩

theorem effect_removeIfThere (orderly : host.Orderly tree wanted.root) (world after : World)
    (removed :
      Phase.removeIfThere host (wanted.root.child wanted.staging) world = .ok after) :
    Effect wanted tree repositories none world after := by
  unfold Phase.removeIfThere at removed
  split at removed
  · cases removed
    exact effect_refl world
  · exact effect_removeTree orderly world after removed

theorem effect_clone (sound : host.Sound tree wanted.root repositories) (member : Member)
    (world : World) :
    let next := Phase.clone.step host (wanted.job member) world
    Effect wanted tree repositories (Phase.clone.event? next.1) world next.2 := by
  intro next
  have shape : next = Phase.gitStep host
      ["clone", wanted.url, (wanted.root.child wanted.staging).text]
      (Phase.cloneFailed (wanted.call member)) (.checkout wanted.rev) world := rfl
  rw [shape, Phase.gitStep]
  split
  · exact effect_refl world
  · rename_i after status ran
    have same := installed?_of_keeps
      (sound.orderly.clone wanted.url wanted.staging world after status ran)
    split
    · rename_i success
      exact ⟨sound.delivers.clone wanted.url wanted.staging world after status ran success, same⟩
    · rename_i failed
      exact ⟨sound.strict.clone_failed wanted.url wanted.staging world after status ran failed,
        same⟩

theorem effect_checkout (sound : host.Sound tree wanted.root repositories) (member : Member)
    (world : World) :
    let next := (Phase.checkout wanted.rev).step host (wanted.job member) world
    Effect wanted tree repositories ((Phase.checkout wanted.rev).event? next.1) world next.2 := by
  intro next
  have shape : next = Phase.gitStep host
      ["-C", (wanted.root.child wanted.staging).text, "checkout", wanted.rev]
      (Phase.checkoutFailed (wanted.call member) wanted.rev) .install world := rfl
  rw [shape, Phase.gitStep]
  split
  · exact effect_refl world
  · rename_i after status ran
    have same := installed?_of_keeps
      (sound.orderly.checkout wanted.rev wanted.staging world after status ran)
    split
    · rename_i success
      refine ⟨?_, same⟩
      cases there : tree (wanted.root.child wanted.staging) world with
      | none =>
          exact absurd success
            (sound.strict.checkout_missing wanted.rev wanted.staging world after status there ran)
      | some source =>
          exact ⟨_, sound.delivers.checkout wanted.rev wanted.staging world after status source
            there ran success, source, rfl⟩
    · rename_i failed
      exact ⟨sound.strict.checkout_failed wanted.rev wanted.staging world after status ran failed,
        same⟩

theorem effect_install (sound : host.Sound tree wanted.root repositories) (member : Member)
    (world : World) :
    let next := Phase.install.step host (wanted.job member) world
    Effect wanted tree repositories (Phase.install.event? next.1) world next.2 := by
  intro next
  simp only [next, Phase.step, wanted.staging_job, wanted.entry_job]
  split
  · rename_i after renamed
    obtain ⟨gone, moved, -⟩ := sound.orderly.rename wanted.staging wanted.entry world after
      wanted.staging_ne_entry renamed
    refine ⟨fun missing => ?_, gone, moved⟩
    exact sound.strict.rename_missing wanted.staging wanted.entry world after missing renamed
  · exact effect_refl world

theorem effect_step (sound : host.Sound tree wanted.root repositories) (member : Member)
    (phase : Phase) (world : World)
    (revision : ∀ other, phase = .checkout other → other = wanted.rev) :
    let next := phase.step host (wanted.job member) world
    Effect wanted tree repositories (phase.event? next.1) world next.2 := by
  cases phase with
  | look =>
      dsimp only [Phase.step]
      split <;> exact effect_refl world
  | confirmGit =>
      dsimp only [Phase.step]
      split
      · rename_i after status ran
        exact effect_of_keeps (sound.orderly.version world after status ran)
      · exact effect_refl world
      · exact effect_refl world
  | createRoot =>
      dsimp only [Phase.step]
      split
      · rename_i after created
        exact effect_of_keeps (sound.orderly.createDirectories world after created)
      · exact effect_refl world
  | clearStaging =>
      dsimp only [Phase.step]
      split
      · rename_i after removed
        exact effect_removeIfThere sound.orderly world after removed
      · exact effect_refl world
  | clone => exact effect_clone sound member world
  | checkout rev =>
      obtain rfl := revision rev rfl
      exact effect_checkout sound member world
  | install => exact effect_install sound member world
  | discard failure =>
      dsimp only [Phase.step]
      split
      · rename_i after removed
        exact effect_removeTree sound.orderly world after removed
      · exact effect_refl world
  | done result => exact effect_refl world

end Step

section Run

variable {Member World Tree : Type} {tree : Path → World → Option Tree}
  {repositories : Repositories Tree} {wanted : Wanted Member}

def Left (wanted : Wanted Member) (repositories : Repositories Tree) (last : Option Event)
    (staged : Option Tree) : Prop :=
  match last with
  | none => True
  | some .cloned => ∀ found ∈ staged, found = repositories.cloned wanted.url
  | some .checkedOut => ∀ found ∈ staged, wanted.Pinned repositories found
  | some .installed => staged = none

/-- What holds of a crowd after its last event. Nobody is about to install before there was one. -/
structure Crowd.Follows (wanted : Wanted Member) (tree : Path → World → Option Tree)
    (repositories : Repositories Tree) (last : Option Event) (crowd : Crowd Member World) :
    Prop where
  revision : ∀ member other, crowd.phase member = .checkout other → other = wanted.rev
  ready : last = none → ∀ member, crowd.phase member ≠ .install
  left : Left wanted repositories last (wanted.staged? tree crowd.world)

def Wanted.PinnedIn (wanted : Wanted Member) (tree : Path → World → Option Tree)
    (repositories : Repositories Tree) (world : World) : Prop :=
  ∀ found ∈ wanted.installed? tree world, wanted.Pinned repositories found

theorem Phase.gitStep_fst (host : Host World) (arguments : List String)
    (failed : Option ExitStatus → FetchFailure) (next : Phase) (world : World) :
    (gitStep host arguments failed next world).1 = next ∨
      ∃ failure, (gitStep host arguments failed next world).1 = .discard failure := by
  unfold gitStep
  split
  · exact .inr ⟨_, rfl⟩
  · split
    · exact .inl rfl
    · exact .inr ⟨_, rfl⟩

theorem step_leads (wanted : Wanted Member) (host : Host World) (member : Member) (phase : Phase)
    (world : World) :
    let next := (phase.step host (wanted.job member) world).1
    (∀ other, next = .checkout other → other = wanted.rev) ∧
      (next = .install → phase.event? next = some .checkedOut) := by
  intro next
  cases phase with
  | clone =>
      rcases Phase.gitStep_fst host ["clone", wanted.url, (wanted.job member).staging.text]
        (Phase.cloneFailed (wanted.call member)) (.checkout wanted.rev) world with
        isNext | ⟨failure, isNext⟩ <;>
      · change next = _ at isNext
        simp [isNext, eq_comm]
  | checkout rev =>
      rcases Phase.gitStep_fst host ["-C", (wanted.job member).staging.text, "checkout", rev]
        (Phase.checkoutFailed (wanted.call member) rev) .install world with
        isNext | ⟨failure, isNext⟩ <;>
      · change next = _ at isNext
        simp [isNext, Phase.event?]
  | done result => simp [next, Phase.step]
  | _ =>
      dsimp only [next, Phase.step]
      split <;> simp

theorem left_of_effect {last event : Option Event} {before after : World}
    (left : Left wanted repositories last (wanted.staged? tree before))
    (effect : Effect wanted tree repositories event before after) :
    Left wanted repositories (event.or last) (wanted.staged? tree after) := by
  cases event with
  | none =>
      rcases effect.1 with same | gone
      · simpa [same] using left
      · rw [gone, Option.none_or]
        cases last with
        | none => trivial
        | some last => cases last <;> simp [Left]
  | some event =>
      cases event with
      | cloned => simp [Left, effect.1]
      | checkedOut =>
          obtain ⟨found, staged, pinned⟩ := effect.1
          simpa [Left, staged] using pinned
      | installed => exact effect.2.1

theorem follows_start (world : World) :
    (Crowd.start world : Crowd Member World).Follows wanted tree repositories none where
  revision member other at_checkout := by cases at_checkout
  ready _ member at_install := by cases at_install
  left := trivial

variable [DecidableEq Member]

theorem phase_take (turn : Turn Member World) (crowd : Crowd Member World) :
    (turn.take wanted crowd).phase turn.member =
      ((crowd.phase turn.member).step turn.host (wanted.job turn.member) crowd.world).1 :=
  Function.update_self ..

theorem phase_take_of_ne (turn : Turn Member World) (crowd : Crowd Member World)
    (member : Member) (other : member ≠ turn.member) :
    (turn.take wanted crowd).phase member = crowd.phase member :=
  Function.update_of_ne other ..

theorem effect_take (turn : Turn Member World) (crowd : Crowd Member World)
    (sound : turn.host.Sound tree wanted.root repositories) (last : Option Event)
    (follows : crowd.Follows wanted tree repositories last) :
    Effect wanted tree repositories (turn.event? wanted crowd) crowd.world
      (turn.take wanted crowd).world := by
  rw [Turn.event?, phase_take]
  exact effect_step sound turn.member _ crowd.world (follows.revision turn.member)

theorem follows_take (turn : Turn Member World) (crowd : Crowd Member World)
    (sound : turn.host.Sound tree wanted.root repositories) (last : Option Event)
    (follows : crowd.Follows wanted tree repositories last) :
    (turn.take wanted crowd).Follows wanted tree repositories
      ((turn.event? wanted crowd).or last) := by
  have leads := step_leads wanted turn.host turn.member (crowd.phase turn.member) crowd.world
  rw [← phase_take] at leads
  constructor
  case revision =>
      intro member other at_checkout
      by_cases same : member = turn.member
      · exact leads.1 other (same ▸ at_checkout)
      · rw [phase_take_of_ne turn crowd member same] at at_checkout
        exact follows.revision member other at_checkout
  case ready =>
      intro nothing member at_install
      obtain ⟨noEvent, noLast⟩ := Option.or_eq_none_iff.mp nothing
      by_cases same : member = turn.member
      · cases noEvent.symm.trans (leads.2 (same ▸ at_install))
      · rw [phase_take_of_ne turn crowd member same] at at_install
        exact follows.ready noLast member at_install
  case left => exact left_of_effect follows.left (effect_take turn crowd sound last follows)

theorem infix_or_iff (last event : Option Event) (more : List Event)
    (harmless : ¬ (last = some .cloned ∧ event = some .installed)) :
    [.cloned, .installed] <:+: last.toList ++ (event.toList ++ more) ↔
      [.cloned, .installed] <:+: (event.or last).toList ++ more := by
  cases event with
  | none => simp
  | some event =>
      cases last with
      | none => simp
      | some last =>
          have apart : ¬ (Event.cloned = last ∧ Event.installed = event) := by
            rintro ⟨rfl, rfl⟩
            exact harmless ⟨rfl, rfl⟩
          simp [List.infix_cons_iff, List.cons_prefix_cons, apart]

theorem forall_prefix_cons_iff (turn : Turn Member World) (rest : List (Turn Member World))
    (crowd : Crowd Member World) (holds : World → Prop) (now : holds crowd.world) :
    (∀ earlier, earlier <+: turn :: rest → holds (Crowd.run wanted earlier crowd).world) ↔
      ∀ earlier, earlier <+: rest →
        holds (Crowd.run wanted earlier (turn.take wanted crowd)).world := by
  constructor
  · intro always earlier isPrefix
    exact always (turn :: earlier) (List.cons_prefix_cons.mpr ⟨rfl, isPrefix⟩)
  · intro always earlier isPrefix
    cases earlier with
    | nil => exact now
    | cons first more =>
        obtain ⟨rfl, below⟩ := List.cons_prefix_cons.mp isPrefix
        exact always more below

theorem Phase.eq_install_of_event? (phase next : Phase)
    (installed : phase.event? next = some .installed) : phase = .install := by
  unfold event? at installed
  split at installed <;> simp_all

theorem pinnedIn_take (turn : Turn Member World) (crowd : Crowd Member World)
    (last : Option Event) (follows : crowd.Follows wanted tree repositories last)
    (effect : Effect wanted tree repositories (turn.event? wanted crowd) crowd.world
      (turn.take wanted crowd).world)
    (harmless : ¬ (last = some .cloned ∧ turn.event? wanted crowd = some .installed))
    (pinned : wanted.PinnedIn tree repositories crowd.world) :
    wanted.PinnedIn tree repositories (turn.take wanted crowd).world := by
  have keep (same : wanted.installed? tree (turn.take wanted crowd).world =
      wanted.installed? tree crowd.world) :
      wanted.PinnedIn tree repositories (turn.take wanted crowd).world := by
    rwa [Wanted.PinnedIn, same]
  cases isEvent : turn.event? wanted crowd with
  | none =>
      rw [isEvent] at effect
      exact keep effect.2
  | some event =>
      rw [isEvent] at effect harmless
      cases event with
      | cloned => exact keep effect.2
      | checkedOut => exact keep effect.2
      | installed =>
          obtain ⟨there, -, moved⟩ := effect
          have atInstall := Phase.eq_install_of_event? _ _ isEvent
          have left := follows.left
          rw [Wanted.PinnedIn, moved]
          match last with
          | none => exact absurd atInstall (follows.ready rfl turn.member)
          | some .cloned => exact absurd ⟨rfl, rfl⟩ harmless
          | some .checkedOut => exact left
          | some .installed => exact absurd left there

-- By induction on the turns. A clone that is installed at once decides what is in place from then
-- on.
theorem pinned_iff_of_follows (turns : List (Turn Member World))
    (sound : ∀ turn ∈ turns, turn.host.Sound tree wanted.root repositories)
    (crowd : Crowd Member World) (last : Option Event)
    (follows : crowd.Follows wanted tree repositories last)
    (pinned : wanted.PinnedIn tree repositories crowd.world) :
    (∀ earlier, earlier <+: turns →
        wanted.PinnedIn tree repositories (Crowd.run wanted earlier crowd).world) ↔
      wanted.Pinned repositories (repositories.cloned wanted.url) ∨
        ¬ [.cloned, .installed] <:+: last.toList ++ Crowd.events wanted turns crowd := by
  induction turns generalizing crowd last with
  | nil => cases last <;> simpa [Crowd.run, Crowd.events, List.infix_cons_iff] using pinned
  | cons turn rest ih =>
      obtain ⟨first, others⟩ := List.forall_mem_cons.mp sound
      have effect := effect_take turn crowd first last follows
      have further := ih others _ _ (follows_take turn crowd first last follows)
      rw [forall_prefix_cons_iff turn rest crowd _ pinned, Crowd.events]
      by_cases direct : last = some .cloned ∧ turn.event? wanted crowd = some .installed
      · obtain ⟨rfl, isEvent⟩ := direct
        rw [isEvent] at effect ⊢
        obtain ⟨there, -, moved⟩ := effect
        obtain ⟨found, staged⟩ := Option.ne_none_iff_exists'.mp there
        obtain rfl : found = repositories.cloned wanted.url := follows.left found staged
        have inPlace := moved.trans staged
        by_cases coincidence : wanted.Pinned repositories (repositories.cloned wanted.url)
        · have still : wanted.PinnedIn tree repositories (turn.take wanted crowd).world := by
            simpa [Wanted.PinnedIn, inPlace] using coincidence
          exact iff_of_true ((further still).mpr (.inl coincidence)) (.inl coincidence)
        · refine iff_of_false (fun always => coincidence ?_) ?_
          · exact always [] List.nil_prefix _ inPlace
          · simp [coincidence, List.infix_cons_iff]
      · rw [infix_or_iff _ _ _ direct]
        exact further (pinnedIn_take turn crowd last follows effect direct pinned)

/-- Any number of calls for one revision, taking their steps in any order. What is in place has the
revision checked out in every state on the way exactly when no clone is moved to its place without
a checkout after it, or when the clone is such a tree itself. -/
theorem pinned_always_iff (wanted : Wanted Member) (turns : List (Turn Member World))
    (sound : ∀ turn ∈ turns, turn.host.Sound tree wanted.root repositories) (world : World)
    (pinned : wanted.PinnedIn tree repositories world) :
    (∀ earlier, earlier <+: turns →
        wanted.PinnedIn tree repositories (Crowd.run wanted earlier (.start world)).world) ↔
      wanted.Pinned repositories (repositories.cloned wanted.url) ∨
        ¬ [.cloned, .installed] <:+: Crowd.events wanted turns (.start world) :=
  pinned_iff_of_follows turns sound (.start world) none (follows_start world) pinned

end Run

namespace Shelf

theorem strict (root : Path) : host.Strict tree root where
  clone_there url name shelf after status there ran := by
    simp only [host, git] at ran
    split at ran
    · rename_i free
      exact absurd free there
    · cases ran
      decide
  checkout_missing rev name shelf after status missing ran := by
    simp only [host, git] at ran
    split at ran
    · cases ran
      decide
    · rename_i stored
      cases stored.symm.trans missing
  rename_missing source target shelf after missing := by simp [host, missing]
  clone_failed url name shelf after status ran failed := by
    simp only [host, git] at ran
    split at ran
    · cases ran
      exact absurd rfl failed
    · cases ran
      exact .inl rfl
  checkout_failed rev name shelf after status ran failed := by
    simp only [host, git] at ran
    split at ran
    · cases ran
      exact .inl rfl
    · cases ran
      exact absurd rfl failed

theorem sound (root : Path) : host.Sound tree root repositories :=
  ⟨orderly root, delivers root, strict root⟩

end Shelf

namespace Rivals

def wanted : Wanted Bool where
  root := ⟨"/git"⟩
  url := "https://example.com/lib"
  rev := "v1"
  name first := if first then "Lib" else "Library"

def steps (count : Nat) (first : Bool) : List (Turn Bool Shelf) :=
  List.replicate count ⟨first, Shelf.host⟩

def empty : Shelf := fun _ => none

def reached (turns : List (Turn Bool Shelf)) : Crowd Bool Shelf :=
  Crowd.run wanted turns (.start empty)

def late : List (Turn Bool Shelf) := steps 6 true ++ steps 6 false ++ steps 1 true

def early : List (Turn Bool Shelf) := steps 6 true ++ steps 5 false ++ steps 1 true

theorem sound (turns : List (Turn Bool Shelf)) (hosts : ∀ turn ∈ turns, turn.host = Shelf.host) :
    ∀ turn ∈ turns, turn.host.Sound Shelf.tree wanted.root Shelf.repositories :=
  fun turn member => hosts turn member ▸ Shelf.sound wanted.root

end Rivals

open Rivals in
theorem pinned_always_late :
    (∀ turn ∈ late, turn.host.Sound Shelf.tree wanted.root Shelf.repositories) ∧
      wanted.PinnedIn Shelf.tree Shelf.repositories empty ∧
      (∀ earlier, earlier <+: late →
        wanted.PinnedIn Shelf.tree Shelf.repositories (reached earlier).world) ∧
      wanted.installed? Shelf.tree (reached late).world = some ⟨wanted.url, wanted.rev⟩ := by
  have isSound := sound late (by simp [late, steps])
  have nothing : wanted.PinnedIn Shelf.tree Shelf.repositories empty := by
    intro found there
    cases there
  have events : Crowd.events wanted late (.start empty) =
      [.cloned, .checkedOut, .cloned, .checkedOut, .installed] := by
    decide +kernel
  refine ⟨isSound, nothing, ?_, by decide +kernel⟩
  refine (pinned_always_iff wanted late isSound empty nothing).mpr (.inr ?_)
  rw [events]
  decide

open Rivals in
theorem clone_installed :
    (∀ turn ∈ early, turn.host.Sound Shelf.tree wanted.root Shelf.repositories) ∧
      wanted.installed? Shelf.tree empty = none ∧
      wanted.installed? Shelf.tree (reached early).world = some ⟨wanted.url, none⟩ ∧
      ¬ wanted.PinnedIn Shelf.tree Shelf.repositories (reached early).world := by
  have inPlace : wanted.installed? Shelf.tree (reached early).world = some ⟨wanted.url, none⟩ := by
    decide +kernel
  refine ⟨sound early (by simp [early, steps]), rfl, inPlace, fun pinned => ?_⟩
  obtain ⟨source, same⟩ := pinned _ inPlace
  cases congrArg Checkout.rev same

end GitCache

end PackageClosure
