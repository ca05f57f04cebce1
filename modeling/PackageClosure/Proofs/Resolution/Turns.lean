import PackageClosure.Proofs.Resolution.Growth

set_option autoImplicit false

namespace PackageClosure

open Relation

structure Call where
  package : Location
  aliases : Aliases
  entries : List Entry

structure Turn where
  visiting : List Location
  progress : Progress
  call : Call
  callers : List Call

inductive Advance where
  | turn (next : Turn)
  | ended (result : Except ResolutionError Progress)

namespace Resolver

def advance (resolver : Resolver) (turn : Turn) : Advance :=
  match turn.call.entries with
  | [] =>
      match turn.callers with
      | [] => .ended (.ok turn.progress)
      | caller :: callers =>
          .turn ⟨turn.visiting.dropLast, turn.progress.complete turn.call.package, caller, callers⟩
  | entry :: rest =>
      let call : Call := ⟨turn.call.package, turn.call.aliases, rest⟩
      match entry.target? resolver.current turn.call.aliases turn.call.package with
      | none => .turn ⟨turn.visiting, turn.progress, call, turn.callers⟩
      | some target =>
          if target.location ∈ turn.visiting then
            .ended (.error (.cyclicDependency target.location
              (turn.visiting ++ [target.location])))
          else if target.location ∈ turn.progress.completed then
            .turn ⟨turn.visiting, turn.progress.addLink turn.call.package entry target, call,
              turn.callers⟩
          else
            match resolver.storage.manifestAt target.location.path with
            | .error cause => .ended (.error (.manifestUnreadable target.location.path cause))
            | .ok manifest =>
                .turn ⟨turn.visiting ++ [target.location],
                  turn.progress.visit turn.call.package entry target manifest,
                  ⟨target.location, .empty, manifest.entries⟩, call :: turn.callers⟩

def Follows (resolver : Resolver) (turn next : Turn) : Prop := resolver.advance turn = .turn next

def Runs (resolver : Resolver) : Turn → Turn → Prop := ReflTransGen resolver.Follows

section

variable (resolver : Resolver) (visiting : List Location) (progress : Progress)
  (package : Location) (aliases : Aliases) (entry : Entry) (rest : List Entry)
  (callers : List Call) (target : Target)

theorem advance_return (caller : Call) :
    resolver.advance ⟨visiting, progress, ⟨package, aliases, []⟩, caller :: callers⟩ =
      .turn ⟨visiting.dropLast, progress.complete package, caller, callers⟩ := rfl

theorem advance_skip (none : entry.target? resolver.current aliases package = none) :
    resolver.advance ⟨visiting, progress, ⟨package, aliases, entry :: rest⟩, callers⟩ =
      .turn ⟨visiting, progress, ⟨package, aliases, rest⟩, callers⟩ := by
  simp only [advance, none]

theorem advance_cycle (found : entry.target? resolver.current aliases package = some target)
    (above : target.location ∈ visiting) :
    resolver.advance ⟨visiting, progress, ⟨package, aliases, entry :: rest⟩, callers⟩ =
      .ended (.error (.cyclicDependency target.location (visiting ++ [target.location]))) := by
  simp only [advance, found, if_pos above]

theorem advance_again (found : entry.target? resolver.current aliases package = some target)
    (fresh : target.location ∉ visiting) (done : target.location ∈ progress.completed) :
    resolver.advance ⟨visiting, progress, ⟨package, aliases, entry :: rest⟩, callers⟩ =
      .turn ⟨visiting, progress.addLink package entry target, ⟨package, aliases, rest⟩,
        callers⟩ := by
  simp only [advance, found, if_neg fresh, if_pos done]

theorem advance_unreadable (found : entry.target? resolver.current aliases package = some target)
    (fresh : target.location ∉ visiting) (new : target.location ∉ progress.completed)
    (cause : LoadError) (failed : resolver.storage.manifestAt target.location.path = .error cause) :
    resolver.advance ⟨visiting, progress, ⟨package, aliases, entry :: rest⟩, callers⟩ =
      .ended (.error (.manifestUnreadable target.location.path cause)) := by
  simp only [advance, found, if_neg fresh, if_neg new, failed]

theorem advance_visit (found : entry.target? resolver.current aliases package = some target)
    (fresh : target.location ∉ visiting) (new : target.location ∉ progress.completed)
    (manifest : Manifest)
    (loaded : resolver.storage.manifestAt target.location.path = .ok manifest) :
    resolver.advance ⟨visiting, progress, ⟨package, aliases, entry :: rest⟩, callers⟩ =
      .turn ⟨visiting ++ [target.location], progress.visit package entry target manifest,
        ⟨target.location, .empty, manifest.entries⟩, ⟨package, aliases, rest⟩ :: callers⟩ := by
  simp only [advance, found, if_neg fresh, if_neg new, loaded]

end

inductive Passes (resolver : Resolver) : Turn → Turn → Prop where
  | back (visiting : List Location) (progress : Progress) (package : Location) (aliases : Aliases)
      (caller : Call) (callers : List Call) :
      Passes resolver ⟨visiting, progress, ⟨package, aliases, []⟩, caller :: callers⟩
        ⟨visiting.dropLast, progress.complete package, caller, callers⟩
  | skip (visiting : List Location) (progress : Progress) (package : Location) (aliases : Aliases)
      (entry : Entry) (rest : List Entry) (callers : List Call)
      (none : entry.target? resolver.current aliases package = none) :
      Passes resolver ⟨visiting, progress, ⟨package, aliases, entry :: rest⟩, callers⟩
        ⟨visiting, progress, ⟨package, aliases, rest⟩, callers⟩
  | again (visiting : List Location) (progress : Progress) (package : Location) (aliases : Aliases)
      (entry : Entry) (rest : List Entry) (callers : List Call) (target : Target)
      (found : entry.target? resolver.current aliases package = some target)
      (fresh : target.location ∉ visiting) (done : target.location ∈ progress.completed) :
      Passes resolver ⟨visiting, progress, ⟨package, aliases, entry :: rest⟩, callers⟩
        ⟨visiting, progress.addLink package entry target, ⟨package, aliases, rest⟩, callers⟩
  | visit (visiting : List Location) (progress : Progress) (package : Location) (aliases : Aliases)
      (entry : Entry) (rest : List Entry) (callers : List Call) (target : Target)
      (manifest : Manifest)
      (found : entry.target? resolver.current aliases package = some target)
      (fresh : target.location ∉ visiting) (new : target.location ∉ progress.completed)
      (loaded : resolver.storage.manifestAt target.location.path = .ok manifest) :
      Passes resolver ⟨visiting, progress, ⟨package, aliases, entry :: rest⟩, callers⟩
        ⟨visiting ++ [target.location], progress.visit package entry target manifest,
          ⟨target.location, .empty, manifest.entries⟩, ⟨package, aliases, rest⟩ :: callers⟩

theorem passes_of_follows (resolver : Resolver) (turn next : Turn)
    (follows : resolver.Follows turn next) : resolver.Passes turn next := by
  obtain ⟨visiting, progress, ⟨package, aliases, entries⟩, callers⟩ := turn
  unfold Follows at follows
  cases entries with
  | nil =>
      cases callers with
      | nil => cases follows
      | cons caller callers =>
          cases follows
          exact .back visiting progress package aliases caller callers
  | cons entry rest =>
      cases found : entry.target? resolver.current aliases package with
      | none =>
          rw [resolver.advance_skip _ _ _ _ _ _ _ found] at follows
          cases follows
          exact .skip visiting progress package aliases entry rest callers found
      | some target =>
          by_cases above : target.location ∈ visiting
          · rw [resolver.advance_cycle _ _ _ _ _ _ _ target found above] at follows
            cases follows
          · by_cases done : target.location ∈ progress.completed
            · rw [resolver.advance_again _ _ _ _ _ _ _ target found above done] at follows
              cases follows
              exact .again visiting progress package aliases entry rest callers target found above
                done
            · cases loaded : resolver.storage.manifestAt target.location.path with
              | error cause =>
                  rw [resolver.advance_unreadable _ _ _ _ _ _ _ target found above done cause
                    loaded] at follows
                  cases follows
              | ok manifest =>
                  rw [resolver.advance_visit _ _ _ _ _ _ _ target found above done manifest
                    loaded] at follows
                  cases follows
                  exact .visit visiting progress package aliases entry rest callers target manifest
                    found above done loaded

end Resolver

namespace Trail

variable {storage : Storage}

def turn (trail : Trail storage) (aliases : Aliases) (entries : List Entry) (progress : Progress)
    (callers : List Call) : Turn :=
  ⟨trail.packages, progress, ⟨trail.innermost, aliases, entries⟩, callers⟩

end Trail

namespace Resolver

/-- Turns that lead from the beginning of a call to what the walk comes to: to the turn at which the
call has nothing left to look at and the stacks are as before, or to an error. -/
def Carries (resolver : Resolver) (trail : Trail resolver.storage) (aliases : Aliases)
    (entries : List Entry) (progress : Progress) (callers : List Call) :
    Except ResolutionError Progress → Prop
  | .ok after =>
      resolver.Runs (trail.turn aliases entries progress callers)
        (trail.turn aliases [] after callers)
  | .error error =>
      ∃ last, resolver.Runs (trail.turn aliases entries progress callers) last ∧
        resolver.advance last = .ended (.error error)

namespace Carries

variable {resolver : Resolver} {trail : Trail resolver.storage} {aliases : Aliases}
  {entries rest : List Entry} {progress between : Progress} {callers : List Call}
  {result : Except ResolutionError Progress}

theorem of_runs
    (runs : resolver.Runs (trail.turn aliases entries progress callers)
      (trail.turn aliases rest between callers))
    (carries : resolver.Carries trail aliases rest between callers result) :
    resolver.Carries trail aliases entries progress callers result := by
  cases result with
  | ok after => exact runs.trans carries
  | error error =>
      obtain ⟨last, further, ends⟩ := carries
      exact ⟨last, runs.trans further, ends⟩

theorem of_ended {error : ResolutionError}
    (ends : resolver.advance (trail.turn aliases entries progress callers) =
      .ended (.error error)) :
    resolver.Carries trail aliases entries progress callers (.error error) :=
  ⟨_, .refl, ends⟩

end Carries

section

variable (resolver : Resolver) (trail : Trail resolver.storage) (aliases : Aliases)
  (rest : List Entry) (callers : List Call) (target : Target)
  (fresh : target.location ∉ trail.packages)
  (readable : (resolver.storage.manifestAt target.location.path).isOk = true)

theorem follows_visit (entry : Entry) (progress : Progress)
    (found : entry.target? resolver.current aliases trail.innermost = some target)
    (new : target.location ∉ progress.completed) (manifest : Manifest)
    (loaded : resolver.storage.manifestAt target.location.path = .ok manifest) :
    resolver.Follows (trail.turn aliases (entry :: rest) progress callers)
      ((trail.push target.location fresh readable).turn .empty manifest.entries
        (progress.visit trail.innermost entry target manifest)
        (⟨trail.innermost, aliases, rest⟩ :: callers)) := by
  have visit := resolver.advance_visit _ progress _ aliases entry rest callers target found fresh
    new manifest loaded
  rwa [← trail.packages_push target.location fresh readable] at visit

theorem follows_return (inner : Aliases) (progress : Progress) :
    resolver.Follows
      ((trail.push target.location fresh readable).turn inner [] progress
        (⟨trail.innermost, aliases, rest⟩ :: callers))
      (trail.turn aliases rest (progress.complete target.location) callers) := by
  have popped : (trail.push target.location fresh readable).packages.dropLast =
      trail.packages := by
    rw [trail.packages_push, List.dropLast_concat]
  have back := resolver.advance_return (trail.push target.location fresh readable).packages progress
    target.location inner callers ⟨trail.innermost, aliases, rest⟩
  rwa [popped] at back

end

-- The induction is on the calls of the walk. A call inside has the rest of the outer one as its
-- first caller, and comes back to it at the turn where it has nothing left.
theorem carries_walk (resolver : Resolver) (trail : Trail resolver.storage) (aliases : Aliases)
    (entries : List Entry) (progress : Progress) (callers : List Call) :
    resolver.Carries trail aliases entries progress callers
      (resolver.walk trail aliases entries progress) := by
  fun_induction Resolver.walk resolver trail aliases entries progress generalizing callers
  case case1 => exact .refl
  case case2 trail aliases progress entry rest none ih =>
      exact (ih callers).of_runs (.single (resolver.advance_skip _ _ _ _ _ _ _ none))
  case case3 trail aliases progress entry rest target found above =>
      exact .of_ended (resolver.advance_cycle _ _ _ _ _ _ _ target found above)
  case case4 trail aliases progress entry rest target found fresh done ih =>
      exact (ih callers).of_runs
        (.single (resolver.advance_again _ _ _ _ _ _ _ target found fresh done))
  case case5 trail aliases progress entry rest target found fresh new cause failed =>
      exact .of_ended
        (resolver.advance_unreadable _ _ _ _ _ _ _ target found fresh new cause failed)
  case case6 trail aliases progress entry rest target found fresh new manifest loaded deeper met
      error failed ih =>
      have readable := resolver.storage.isOk_manifestAt _ manifest loaded
      have enters := resolver.follows_visit trail aliases rest callers target fresh readable entry
        progress found new manifest loaded
      have carries := ih (⟨trail.innermost, aliases, rest⟩ :: callers)
      rw [failed] at carries
      obtain ⟨last, further, ends⟩ := carries
      exact ⟨last, .head enters further, ends⟩
  case case7 trail aliases progress entry rest target found fresh new manifest loaded deeper met
      inner isInner ihInner ihRest =>
      have readable := resolver.storage.isOk_manifestAt _ manifest loaded
      have enters := resolver.follows_visit trail aliases rest callers target fresh readable entry
        progress found new manifest loaded
      have through := ihInner (⟨trail.innermost, aliases, rest⟩ :: callers)
      rw [isInner] at through
      have leaves := resolver.follows_return trail aliases rest callers target fresh readable .empty
        inner
      exact (ihRest callers).of_runs (.head enters (through.tail leaves))

end Resolver

theorem Graph.links_addLink (graph : Graph) (source target : Location) (edge : Edge)
    (isSource : source ∈ graph.locations) (isTarget : target ∈ graph.locations) :
    ∃ first second, graph.indexOf? source = some first ∧ graph.indexOf? target = some second ∧
      (graph.addLink source target edge).links = graph.links ++ [⟨first, second, edge⟩] := by
  obtain ⟨first, firstFound, _⟩ := graph.indexOf?_eq_some source isSource
  obtain ⟨second, secondFound, _⟩ := graph.indexOf?_eq_some target isTarget
  exact ⟨first, second, firstFound, secondFound, by simp only [addLink, firstFound, secondFound]⟩

namespace Progress

def Links (before after : Progress) (source : Location) (entry : Entry) (target : Target) : Prop :=
  ∃ first second, after.graph.indexOf? source = some first ∧
    after.graph.indexOf? target.location = some second ∧
      after.graph.links =
        before.graph.links ++ [⟨first, second, ⟨entry.name, entry.group, target.aliased⟩⟩]

variable (progress : Progress) (source : Location) (entry : Entry) (target : Target)

theorem links_addLink (isSource : source ∈ progress.graph.locations)
    (isTarget : target.location ∈ progress.graph.locations) :
    progress.Links (progress.addLink source entry target) source entry target := by
  obtain ⟨first, second, firstFound, secondFound, links⟩ :=
    progress.graph.links_addLink source target.location
      ⟨entry.name, entry.group, target.aliased⟩ isSource isTarget
  refine ⟨first, second, ?_, ?_, links⟩
  · rwa [Graph.indexOf?, progress.nodes_addLink source entry target]
  · rwa [Graph.indexOf?, progress.nodes_addLink source entry target]

theorem links_visit (manifest : Manifest) (isSource : source ∈ progress.graph.locations)
    (absent : target.location ∉ progress.graph.locations) :
    progress.Links (progress.visit source entry target manifest) source entry target := by
  let met : Progress :=
    { progress with graph := progress.graph.addNode ⟨manifest.package.name, target.location⟩ }
  have locations : met.graph.locations = progress.graph.locations ++ [target.location] := by
    rw [Graph.locations, progress.graph.nodes_addNode _ absent, List.map_append]
    rfl
  have added := met.links_addLink source entry target (by simp [locations, isSource])
    (by simp [locations])
  have same : met.graph.links = progress.graph.links := progress.graph.links_addNode _
  unfold Links at added ⊢
  rwa [same] at added

end Progress

namespace Project

def firstTurn (project : Project) : Turn :=
  ⟨[project.root], project.resolver.begin project.manifest project.root,
    ⟨project.root, project.aliases, project.manifest.entries⟩, []⟩

def Comes (project : Project) (turn : Turn) : Prop :=
  project.resolver.Runs project.firstTurn turn

structure Stands (project : Project) (known : List Location)
    (trail : Trail project.resolver.storage) (call : Call) : Prop where
  here : call.package = trail.innermost
  frame : project.Frame trail call.aliases call.entries
  passed : ∃ manifest seen, project.manifestOf call.package = .ok manifest ∧
    manifest.entries = seen ++ call.entries ∧
      ∀ entry ∈ seen, ∀ target, project.target? call.package entry = some target →
        target.location ∈ known

-- Each call stands somewhere, and each but the first is for a package that its caller has come to
-- and has not completed.
def Nested (project : Project) (completed known : List Location)
    (trail : Trail project.resolver.storage) (call : Call) : List Call → Prop
  | [] => project.Stands known trail call ∧ trail.below = []
  | caller :: callers =>
      project.Stands known trail call ∧
        ∃ (outer : Trail project.resolver.storage) (fresh : call.package ∉ outer.packages)
          (readable : (project.resolver.storage.manifestAt call.package.path).isOk = true),
          trail = outer.push call.package fresh readable ∧
            Nested project completed (call.package :: completed) outer caller callers

def Placed (project : Project) (turn : Turn) : Prop :=
  ∃ trail : Trail project.resolver.storage, turn.visiting = trail.packages ∧
    project.Consistent trail turn.progress ∧
      project.Nested turn.progress.completed turn.progress.completed trail turn.call turn.callers

namespace Stands

variable {project : Project} {known : List Location} {trail : Trail project.resolver.storage}

theorem mono {wider : List Location} {call : Call} (stands : project.Stands known trail call)
    (more : ∀ package ∈ known, package ∈ wider) : project.Stands wider trail call where
  here := stands.here
  frame := stands.frame
  passed := by
    obtain ⟨manifest, seen, loaded, whole, all⟩ := stands.passed
    exact ⟨manifest, seen, loaded, whole,
      fun entry member target found => more _ (all entry member target found)⟩

theorem tail {package : Location} {aliases : Aliases} {entry : Entry} {rest : List Entry}
    (stands : project.Stands known trail ⟨package, aliases, entry :: rest⟩)
    (isKnown : ∀ target, entry.target? project.resolver.current aliases package = some target →
      target.location ∈ known) :
    project.Stands known trail ⟨package, aliases, rest⟩ where
  here := stands.here
  frame := stands.frame.tail
  passed := by
    obtain ⟨manifest, seen, loaded, whole, all⟩ := stands.passed
    refine ⟨manifest, seen ++ [entry], loaded, by rw [whole, List.append_assoc]; rfl, ?_⟩
    intro other member target found
    rcases List.mem_append.mp member with before | last
    · exact all other before target found
    · refine isKnown target ?_
      have here := stands.here
      dsimp only at here found
      rw [here, stands.frame.target?_eq, ← here, ← List.mem_singleton.mp last]
      exact found

theorem known_of_depends_on {package : Location} {aliases : Aliases}
    (stands : project.Stands known trail ⟨package, aliases, []⟩) (next : Location)
    (depends : project.DependsOn package next) : next ∈ known := by
  obtain ⟨manifest, seen, loaded, whole, all⟩ := stands.passed
  obtain ⟨entry, member, target, found, rfl⟩ :=
    project.target_of_depends_on package next manifest loaded depends
  rw [whole, List.append_nil] at member
  exact all entry member target found

end Stands

namespace Nested

variable {project : Project} {completed known : List Location}
  {trail : Trail project.resolver.storage} {call : Call} {callers : List Call}

theorem stands (nested : project.Nested completed known trail call callers) :
    project.Stands known trail call := by
  cases callers with
  | nil => exact nested.1
  | cons caller callers => exact nested.1

theorem move (nested : project.Nested completed known trail call callers) (other : Call)
    (same : other.package = call.package) (stands : project.Stands known trail other) :
    project.Nested completed known trail other callers := by
  cases callers with
  | nil => exact ⟨stands, nested.2⟩
  | cons caller callers =>
      rcases other with ⟨package, aliases, entries⟩
      dsimp only at same
      subst same
      exact ⟨stands, nested.2⟩

theorem mono {more wider : List Location}
    (nested : project.Nested completed known trail call callers)
    (grown : ∀ package ∈ completed, package ∈ more) (widened : ∀ package ∈ known, package ∈ wider) :
    project.Nested more wider trail call callers := by
  induction callers generalizing trail call known wider with
  | nil => exact ⟨nested.1.mono widened, nested.2⟩
  | cons caller callers ih =>
      obtain ⟨stands, outer, fresh, readable, same, around⟩ := nested
      refine ⟨stands.mono widened, outer, fresh, readable, same, ih around ?_⟩
      intro package member
      rcases List.mem_cons.mp member with here | inside
      · exact here ▸ List.mem_cons_self
      · exact List.mem_cons_of_mem _ (grown package inside)

end Nested

theorem placed_first (project : Project) : project.Placed project.firstTurn :=
  ⟨.start project.root, rfl, .start project, ⟨rfl, .start project, project.manifest, [],
    project.manifestOf_root, rfl, by simp⟩, rfl⟩

theorem placed_of_passes (project : Project) (turn next : Turn) (placed : project.Placed turn)
    (passes : project.resolver.Passes turn next) : project.Placed next := by
  obtain ⟨trail, stack, consistent, nested⟩ := placed
  cases passes with
  | back visiting progress package aliases caller callers =>
      obtain ⟨stands, outer, fresh, readable, rfl, around⟩ := nested
      dsimp only at stack consistent stands
      have closed := stands.known_of_depends_on
      obtain ⟨manifest, _, loaded, _⟩ := stands.passed
      have completed := Consistent.complete package manifest fresh
        (around.stands.frame.ne_root package fresh) readable consistent loaded closed
      refine ⟨outer, ?_, completed, around.mono ?_ ?_⟩
      · rw [stack, outer.packages_push, List.dropLast_concat]
      · exact fun other member => List.mem_append_left _ member
      · intro other member
        rcases List.mem_cons.mp member with here | done
        · simp [here, Progress.complete]
        · exact List.mem_append_left _ done
  | skip visiting progress package aliases entry rest callers none =>
      refine ⟨trail, stack, consistent, nested.move _ rfl (nested.stands.tail ?_)⟩
      intro target found
      rw [none] at found
      cases found
  | again visiting progress package aliases entry rest callers target found fresh done =>
      refine ⟨trail, stack, consistent.link package entry target,
        nested.move _ rfl (nested.stands.tail ?_)⟩
      intro other again
      rw [found] at again
      exact Option.some.inj again ▸ done
  | visit visiting progress package aliases entry rest callers target manifest found fresh new
      loaded =>
      have stands := nested.stands
      have here := stands.here
      dsimp only at stack consistent stands here
      subst stack here
      have readable := project.resolver.storage.isOk_manifestAt _ manifest loaded
      have below := stands.frame.push target found fresh manifest loaded readable
      have entered := stands.frame.enter consistent target found fresh new manifest readable
      refine ⟨trail.push target.location fresh readable,
        (trail.packages_push target.location fresh readable).symm, entered, ?_, trail, fresh,
        readable, rfl, ?_⟩
      · exact ⟨rfl, below, manifest, [],
          (stands.frame.manifestOf_fresh _ fresh).trans loaded, rfl, by simp⟩
      · refine (nested.mono (fun _ done => done)
          (fun _ done => List.mem_cons_of_mem _ done)).move _ rfl ?_
        refine (stands.mono fun _ done => List.mem_cons_of_mem _ done).tail ?_
        intro other again
        rw [found] at again
        exact Option.some.inj again ▸ List.mem_cons_self

theorem placed_of_comes (project : Project) (turn : Turn) (comes : project.Comes turn) :
    project.Placed turn := by
  induction comes with
  | refl => exact project.placed_first
  | tail _ follows ih =>
      exact project.placed_of_passes _ _ ih (project.resolver.passes_of_follows _ _ follows)

structure Sound (project : Project) (turn : Turn) : Prop where
  -- The packages that are being visited are different, the root is the first of them, and each of
  -- them depends on the next.
  line : project.Line turn.visiting
  apart : ∀ package ∈ turn.progress.completed, package ∉ turn.visiting
  met : ∀ package, package ∈ turn.progress.packages ↔
    package ∈ turn.progress.completed ∨ package ∈ turn.visiting ∧ package ≠ project.root
  closed : ∀ package ∈ turn.progress.completed, ∀ next, project.DependsOn package next →
    next ∈ turn.progress.completed
  keys : ∀ package, (∃ index, turn.progress.graph.indexOf? package = some index) ↔
    package = project.root ∨ package ∈ turn.progress.packages
  nodes : ∀ package index, turn.progress.graph.indexOf? package = some index →
    turn.progress.graph.locations[index]? = some package
  links : ∀ entry rest target next, turn.call.entries = entry :: rest →
    entry.target? project.resolver.current turn.call.aliases turn.call.package = some target →
      project.resolver.Follows turn next →
        turn.progress.Links next.progress turn.call.package entry target
  -- A call that succeeds comes to a turn with the same stacks and nothing left to look at.
  returns : ∃ trail : Trail project.resolver.storage, trail.packages = turn.visiting ∧
    trail.innermost = turn.call.package ∧
      ∀ after, project.resolver.walk trail turn.call.aliases turn.call.entries turn.progress =
          .ok after →
        turn.progress.completed <+: after.completed ∧
          project.resolver.Runs turn
            ⟨turn.visiting, after, ⟨turn.call.package, turn.call.aliases, []⟩, turn.callers⟩

theorem Consistent.met_iff {project : Project} {trail : Trail project.resolver.storage}
    {progress : Progress} (consistent : project.Consistent trail progress)
    (line : project.Line trail.packages) (package : Location) :
    package ∈ progress.packages ↔
      package ∈ progress.completed ∨ package ∈ trail.packages ∧ package ≠ project.root := by
  have root : trail.root = project.root := by simpa [Trail.packages] using line.starts
  have apart : trail.root ∉ trail.below := by
    simpa [Trail.packages] using (List.nodup_cons.mp line.distinct).1
  rw [consistent.met, Trail.packages, List.mem_cons, List.mem_reverse, ← root]
  have below (member : package ∈ trail.below) : package ≠ trail.root :=
    fun same => apart (same ▸ member)
  tauto

theorem links_of_follows (project : Project) (turn next : Turn) (placed : project.Placed turn)
    (entry : Entry) (rest : List Entry) (target : Target)
    (entries : turn.call.entries = entry :: rest)
    (isTarget : entry.target? project.resolver.current turn.call.aliases turn.call.package =
      some target)
    (follows : project.resolver.Follows turn next) :
    turn.progress.Links next.progress turn.call.package entry target := by
  obtain ⟨trail, stack, consistent, nested⟩ := placed
  have stands := nested.stands
  have hasNode := consistent.has_node stands.frame.line
  have isSource : turn.call.package ∈ turn.progress.graph.locations :=
    hasNode _ (.inl (stands.here ▸ trail.innermost_mem_packages))
  cases project.resolver.passes_of_follows turn next follows with
  | back => cases entries
  | skip visiting progress package aliases entry rest callers none =>
      obtain ⟨rfl, rfl⟩ := List.cons.inj entries
      rw [none] at isTarget
      cases isTarget
  | again visiting progress package aliases entry rest callers target found fresh done =>
      obtain ⟨rfl, rfl⟩ := List.cons.inj entries
      obtain rfl := Option.some.inj (found.symm.trans isTarget)
      exact progress.links_addLink package entry target isSource (hasNode _ (.inr done))
  | visit visiting progress package aliases entry rest callers target manifest found fresh new =>
      obtain ⟨rfl, rfl⟩ := List.cons.inj entries
      obtain rfl := Option.some.inj (found.symm.trans isTarget)
      dsimp only at stack consistent isSource
      subst stack
      refine progress.links_visit package entry target manifest isSource ?_
      rw [consistent.nodes, List.mem_cons, not_or]
      exact ⟨stands.frame.ne_root _ fresh, consistent.fresh_of_new _ fresh new⟩

theorem sound_of_placed (project : Project) (turn : Turn) (placed : project.Placed turn) :
    project.Sound turn := by
  have whole := placed
  obtain ⟨trail, stack, consistent, nested⟩ := placed
  have stands := nested.stands
  have line := stands.frame.line
  constructor
  case line => exact stack ▸ line
  case apart => exact stack ▸ consistent.apart
  case met => exact stack ▸ consistent.met_iff line
  case closed =>
      exact fun package done next depends =>
        (consistent.settled.before package next done (.single depends)).1
  case keys =>
      intro package
      rw [← Option.isSome_iff_exists, ← Option.ne_none_iff_isSome, ne_eq,
        Graph.indexOf?_eq_none_iff, not_not, consistent.nodes, List.mem_cons]
  case nodes =>
      intro package index found
      have member : package ∈ turn.progress.graph.locations := by
        by_contra absent
        rw [(Graph.indexOf?_eq_none_iff _ _).mpr absent] at found
        cases found
      obtain ⟨other, same, here⟩ := turn.progress.graph.indexOf?_eq_some package member
      exact Option.some.inj (found.symm.trans same) ▸ here
  case links =>
      exact fun entry rest target next entries found =>
        project.links_of_follows turn next whole entry rest target entries found
  case returns =>
      refine ⟨trail, stack.symm, stands.here.symm, ?_⟩
      intro after ok
      have carries := project.resolver.carries_walk trail turn.call.aliases turn.call.entries
        turn.progress turn.callers
      rw [ok] at carries
      refine ⟨(project.walk_consistent _ _ _ _ _ stands.frame consistent ok).2.1, ?_⟩
      simpa only [Resolver.Carries, Trail.turn, ← stack, ← stands.here] using carries

theorem comes_to_end (project : Project) :
    ∃ last, project.Comes last ∧ project.resolver.advance last = .ended project.explore := by
  have carries := project.resolver.carries_walk (.start project.root) project.aliases
    project.manifest.entries (project.resolver.begin project.manifest project.root) []
  change project.resolver.Carries _ _ _ _ _ project.explore at carries
  cases outcome : project.explore with
  | ok done =>
      rw [outcome] at carries
      exact ⟨_, carries, rfl⟩
  | error error =>
      rw [outcome] at carries
      exact carries

end Project

theorem turns_sound (project : Project) :
    (∃ last, project.Comes last ∧ project.resolver.advance last = .ended project.explore) ∧
      ∀ turn, project.Comes turn → project.Sound turn :=
  ⟨project.comes_to_end, fun turn comes =>
    project.sound_of_placed turn (project.placed_of_comes turn comes)⟩

namespace Diamond

def project : Project := ⟨resolver, app, place "app", aliases⟩

def toBase (group : Group) : Entry := ⟨"Base", .path ⟨"../base"⟩, group⟩

def toLeft : Entry := ⟨"Left", .path ⟨"../left"⟩, .regular⟩

def toRight : Entry := ⟨"Right", .unspecified, .regular⟩

def leftMet : Progress :=
  (resolver.begin app (place "app")).visit (place "app") toLeft ⟨place "left", false⟩ left

def leftDone : Progress :=
  ((leftMet.visit (place "left") (toBase .regular) ⟨place "base", false⟩ base).complete
    (place "base")).complete (place "left")

def rightMet : Progress :=
  leftDone.visit (place "app") toRight ⟨place "right", true⟩ right

def inRight : Turn :=
  ⟨[place "app", place "right"], rightMet, ⟨place "right", .empty, right.entries⟩,
    [⟨place "app", aliases, [toBase .dev]⟩]⟩

theorem comes_inRight : project.Comes inRight := by
  have ofApp : app.entries = [toLeft, toRight, toBase .dev] := by decide
  have ofLeft : left.entries = [toBase .regular] := by decide
  have ofBase : base.entries = [] := by decide
  rw [Project.Comes, Project.firstTurn]
  change resolver.Runs ⟨_, _, ⟨_, _, app.entries⟩, _⟩ _
  rw [ofApp]
  refine .head (resolver.advance_visit _ _ _ _ _ _ _ ⟨place "left", false⟩ (by decide) (by decide)
    (by decide) left manifestAt_left) ?_
  rw [ofLeft]
  refine .head (resolver.advance_visit _ _ _ _ _ _ _ ⟨place "base", false⟩ (by decide) (by decide)
    (by decide) base manifestAt_base) ?_
  rw [ofBase]
  refine .head (resolver.advance_return _ _ _ _ _ _) (.head (resolver.advance_return _ _ _ _ _ _) ?_)
  exact .single (resolver.advance_visit _ _ _ _ _ _ _ ⟨place "right", true⟩ (by decide) (by decide)
    (by decide) right manifestAt_right)

end Diamond

theorem turns_sound_diamond :
    Diamond.project.Comes Diamond.inRight ∧ Diamond.project.Sound Diamond.inRight :=
  ⟨Diamond.comes_inRight, (turns_sound Diamond.project).2 _ Diamond.comes_inRight⟩

end PackageClosure
