import PackageClosure.Proofs.Address.Absorption
import PackageClosure.Proofs.Resolution.Growth

set_option autoImplicit false

namespace PackageClosure

structure Gathered where
  packages : List Location
  addresses : AddressTable

def Gathered.visit (gathered : Gathered) (package : Location) (manifest : Manifest) : Gathered where
  packages :=
    if package ∈ gathered.packages then gathered.packages else gathered.packages ++ [package]
  addresses := gathered.addresses.bindAll manifest.declarations

namespace Resolver

def gather (resolver : Resolver) (trail : Trail resolver.storage) (aliases : Aliases)
    (entries : List Entry) (gathered : Gathered) : Except ResolutionError Gathered :=
  match entries with
  | [] => .ok gathered
  | entry :: rest =>
      match entry.target? resolver.current aliases trail.innermost with
      | none => gather resolver trail aliases rest gathered
      | some target =>
          if fresh : target.location ∈ trail.packages then
            .error (.cyclicDependency target.location (trail.packages ++ [target.location]))
          else
            match loaded : resolver.storage.manifestAt target.location.path with
            | .error cause => .error (.manifestUnreadable target.location.path cause)
            | .ok manifest =>
                let deeper := trail.push target.location fresh (by rw [loaded]; rfl)
                match gather resolver deeper .empty manifest.entries
                    (gathered.visit target.location manifest) with
                | .error error => .error error
                | .ok after => gather resolver trail aliases rest after
termination_by (resolver.storage.fileBound + 1 - trail.below.length, entries.length)
decreasing_by
  · exact Prod.Lex.right _ (by simp)
  · exact Prod.Lex.left _ _ (push_decreases _ _ _ _ _)
  · exact Prod.Lex.right _ (by simp)

def gatherAll (resolver : Resolver) (manifest : Manifest) (root : Location) (aliases : Aliases) :
    Except ResolutionError Gathered :=
  resolver.gather (.start root) aliases manifest.entries
    ⟨[], (resolver.begin manifest root).addresses⟩

section

variable (resolver : Resolver) (trail : Trail resolver.storage) (aliases : Aliases) (entry : Entry)
  (rest : List Entry) (gathered : Gathered) (target : Target)

theorem gather_nil : resolver.gather trail aliases [] gathered = .ok gathered := by rw [gather]

theorem gather_skip (none : entry.target? resolver.current aliases trail.innermost = none) :
    resolver.gather trail aliases (entry :: rest) gathered =
      resolver.gather trail aliases rest gathered := by
  rw [gather, none]

theorem gather_cycle (found : entry.target? resolver.current aliases trail.innermost = some target)
    (above : target.location ∈ trail.packages) :
    resolver.gather trail aliases (entry :: rest) gathered =
      .error (.cyclicDependency target.location (trail.packages ++ [target.location])) := by
  rw [gather, found]
  simp only [dif_pos above]

theorem gather_unreadable
    (found : entry.target? resolver.current aliases trail.innermost = some target)
    (fresh : target.location ∉ trail.packages) (cause : LoadError)
    (failed : resolver.storage.manifestAt target.location.path = .error cause) :
    resolver.gather trail aliases (entry :: rest) gathered =
      .error (.manifestUnreadable target.location.path cause) := by
  rw [gather, found]
  simp only [dif_neg fresh]
  split <;> simp_all

theorem gather_visit (found : entry.target? resolver.current aliases trail.innermost = some target)
    (fresh : target.location ∉ trail.packages) (manifest : Manifest)
    (loaded : resolver.storage.manifestAt target.location.path = .ok manifest)
    (readable : (resolver.storage.manifestAt target.location.path).isOk = true) :
    resolver.gather trail aliases (entry :: rest) gathered =
      (resolver.gather (trail.push target.location fresh readable) .empty manifest.entries
        (gathered.visit target.location manifest)).bind (resolver.gather trail aliases rest) := by
  rw [gather, found]
  simp only [dif_neg fresh]
  split
  · simp_all
  · rename_i stored isStored
    have same : stored = manifest := Except.ok.inj (isStored.symm.trans loaded)
    subst same
    split <;> simp_all [Except.bind]

end

end Resolver

structure Progress.Agrees (progress : Progress) (gathered : Gathered) : Prop where
  packages : progress.packages = gathered.packages
  addresses : progress.addresses.Agrees gathered.addresses

namespace Progress.Agrees

variable {progress : Progress} {gathered : Gathered}

theorem visit (agrees : progress.Agrees gathered) (source : Location) (entry : Entry)
    (target : Target) (manifest : Manifest) :
    (progress.visit source entry target manifest).Agrees
      (gathered.visit target.location manifest) where
  packages := by
    rw [Gathered.visit, ← agrees.packages]
    rfl
  addresses := agrees.addresses.bindAll manifest.declarations

theorem visit_again (agrees : progress.Agrees gathered) (package : Location) (manifest : Manifest)
    (member : package ∈ progress.packages)
    (absorbs : ∀ declaration ∈ manifest.declarations, progress.addresses.Absorbs declaration) :
    progress.Agrees (gathered.visit package manifest) where
  packages := by
    rw [Gathered.visit, ← agrees.packages, if_pos member]
  addresses := AddressTable.agrees_bindAll_of_absorbs agrees.addresses absorbs

end Progress.Agrees

namespace Project

def Absorbed (project : Project) (progress : Progress) : Prop :=
  ∀ package ∈ progress.packages, ∀ manifest, project.manifestOf package = .ok manifest →
    ∀ declaration ∈ manifest.declarations, progress.addresses.Absorbs declaration

theorem Absorbed.grow {project : Project} {before after : Progress} {visits : List Visit}
    {arcs : List Arc} (absorbed : project.Absorbed before)
    (grows : before.Grows after visits arcs)
    (loads : ∀ visit ∈ visits, project.manifestOf visit.package = .ok visit.manifest) :
    project.Absorbed after := by
  intro package member manifest loaded declaration declared
  rw [grows.addresses]
  rw [grows.packages] at member
  rcases List.mem_append.mp member with earlier | new
  · exact (absorbed package earlier manifest loaded declaration declared).bindAll _
  · obtain ⟨visit, visited, rfl⟩ := List.mem_map.mp new
    have same : visit.manifest = manifest := Except.ok.inj ((loads visit visited).symm.trans loaded)
    refine AddressTable.absorbs_bindAll _ _ (List.mem_flatMap.mpr ⟨visit, visited, ?_⟩)
    rw [Visit.declarations, same]
    exact declared

def Redundant (project : Project) (progress : Progress) (trail : Trail project.resolver.storage)
    (package : Location) : Prop :=
  ∀ aliases entry target rest gathered,
    entry.target? project.resolver.current aliases trail.innermost = some target →
      target.location = package → progress.Agrees gathered →
        ∃ after, progress.Agrees after ∧
          project.resolver.gather trail aliases (entry :: rest) gathered =
            project.resolver.gather trail aliases rest after

theorem gather_of_redundant (project : Project) (progress : Progress)
    (trail : Trail project.resolver.storage) (aliases : Aliases) (entries : List Entry)
    (gathered : Gathered)
    (redundant : ∀ entry ∈ entries, ∀ target,
      entry.target? project.resolver.current aliases trail.innermost = some target →
        project.Redundant progress trail target.location)
    (agrees : progress.Agrees gathered) :
    ∃ after, progress.Agrees after ∧
      project.resolver.gather trail aliases entries gathered = .ok after := by
  induction entries generalizing gathered with
  | nil => exact ⟨gathered, agrees, Resolver.gather_nil ..⟩
  | cons entry rest ih =>
      have later := fun other member => redundant other (List.mem_cons_of_mem entry member)
      cases found : entry.target? project.resolver.current aliases trail.innermost with
      | none =>
          rw [project.resolver.gather_skip trail aliases entry rest gathered found]
          exact ih gathered later agrees
      | some target =>
          obtain ⟨passed, still, same⟩ := redundant entry List.mem_cons_self target found aliases
            entry target rest gathered found rfl agrees
          rw [same]
          exact ih passed later still

-- The induction is on the order of completion: what the last package depends
-- on comes before it, so below it all entries are redundant.
theorem Settled.redundant {project : Project} {done : List Location}
    (settled : project.Settled done) (progress : Progress)
    (met : ∀ package ∈ done, package ∈ progress.packages) (absorbed : project.Absorbed progress)
    (trail : Trail project.resolver.storage)
    (apart : ∀ package ∈ done, package ∉ trail.packages) (package : Location)
    (member : package ∈ done) : project.Redundant progress trail package := by
  induction settled generalizing trail package with
  | nil => simp at member
  | snoc done last manifest earlier new below loaded closed ih =>
      have metEarlier := fun other inside => met other (List.mem_append_left [last] inside)
      have apartEarlier := fun other inside => apart other (List.mem_append_left [last] inside)
      rcases List.mem_append.mp member with inside | isLast
      · exact ih metEarlier trail apartEarlier package inside
      · intro aliases entry target rest gathered found same agrees
        have isTarget : target.location = last := same.trans (List.mem_singleton.mp isLast)
        subst isTarget
        have fresh : target.location ∉ trail.packages := apart _ (by simp)
        have stored := (project.manifestOf_of_ne _ below).symm.trans loaded
        have readable := project.resolver.storage.isOk_manifestAt _ manifest stored
        have deeper : ∀ other ∈ done,
            other ∉ (trail.push target.location fresh readable).packages := by
          intro other inside above
          rw [Trail.packages_push, List.mem_append, List.mem_singleton] at above
          rcases above with higher | isTarget
          · exact apartEarlier other inside higher
          · exact new (isTarget ▸ inside)
        have visited := agrees.visit_again target.location manifest (met _ (by simp))
          (absorbed _ (met _ (by simp)) manifest loaded)
        obtain ⟨after, still, inner⟩ := project.gather_of_redundant progress
          (trail.push target.location fresh readable) .empty manifest.entries _ (by
            intro next isNext further isFurther
            refine ih metEarlier _ deeper _ (closed _ ?_)
            rw [← project.aliasesOf_of_ne _ below] at isFurther
            exact project.depends_on_of_target _ manifest next further loaded isNext isFurther)
          visited
        refine ⟨after, still, ?_⟩
        rw [project.resolver.gather_visit trail aliases entry rest gathered target found fresh
          manifest stored readable, inner]
        rfl

inductive SameOutcome :
    Except ResolutionError Progress → Except ResolutionError Gathered → Prop where
  | success (progress : Progress) (gathered : Gathered) (agrees : progress.Agrees gathered) :
      SameOutcome (.ok progress) (.ok gathered)
  | failure (error : ResolutionError) : SameOutcome (.error error) (.error error)

theorem SameOutcome.eq_ok {progress : Progress} {outcome : Except ResolutionError Gathered}
    (same : SameOutcome (.ok progress) outcome) :
    ∃ gathered, outcome = .ok gathered ∧ progress.Agrees gathered := by
  cases same with
  | success _ gathered agrees => exact ⟨gathered, rfl, agrees⟩

theorem SameOutcome.eq_ok_of_gathered {gathered : Gathered}
    {outcome : Except ResolutionError Progress} (same : SameOutcome outcome (.ok gathered)) :
    ∃ progress, outcome = .ok progress ∧ progress.Agrees gathered := by
  cases same with
  | success progress _ agrees => exact ⟨progress, rfl, agrees⟩

theorem SameOutcome.eq_error {error : ResolutionError} {outcome : Except ResolutionError Gathered}
    (same : SameOutcome (.error error) outcome) : outcome = .error error := by
  cases same
  rfl

theorem Frame.absorb {project : Project} {trail : Trail project.resolver.storage}
    {aliases : Aliases} {entries : List Entry} {progress : Progress}
    (frame : project.Frame trail aliases entries) (consistent : project.Consistent trail progress)
    (absorbed : project.Absorbed progress) (entry : Entry) (target : Target) (manifest : Manifest)
    (fresh : target.location ∉ trail.packages) (new : target.location ∉ progress.completed)
    (loaded : project.resolver.storage.manifestAt target.location.path = .ok manifest) :
    project.Absorbed (progress.visit trail.innermost entry target manifest) := by
  refine absorbed.grow (frame.grows_visit consistent entry target manifest fresh new) ?_
  intro visit member
  rw [List.mem_singleton.mp member]
  exact (frame.manifestOf_fresh _ fresh).trans loaded

theorem walk_agrees (project : Project) (trail : Trail project.resolver.storage)
    (aliases : Aliases) (entries : List Entry) (progress : Progress) (gathered : Gathered)
    (frame : project.Frame trail aliases entries) (consistent : project.Consistent trail progress)
    (absorbed : project.Absorbed progress) (agrees : progress.Agrees gathered) :
    SameOutcome (project.resolver.walk trail aliases entries progress)
      (project.resolver.gather trail aliases entries gathered) := by
  fun_induction Resolver.walk project.resolver trail aliases entries progress generalizing gathered
  case case1 =>
      rw [Resolver.gather_nil]
      exact .success _ _ agrees
  case case2 trail aliases progress entry rest none ih =>
      rw [project.resolver.gather_skip trail aliases entry rest gathered none]
      exact ih gathered frame.tail consistent absorbed agrees
  case case3 trail aliases progress entry rest target found above =>
      rw [project.resolver.gather_cycle trail aliases entry rest gathered target found above]
      exact .failure _
  -- Here the two part: one passes the entry over, the other gathers again what
  -- is below it and comes back with nothing new.
  case case4 trail aliases progress entry rest target found fresh done ih =>
      have met : ∀ package ∈ progress.completed, package ∈ progress.packages :=
        fun package inside => (consistent.met package).mpr (.inl inside)
      obtain ⟨after, still, same⟩ := consistent.settled.redundant progress met absorbed trail
        consistent.apart _ done aliases entry target rest gathered found rfl agrees
      rw [same]
      exact ih after frame.tail (consistent.link _ _ _) absorbed ⟨still.packages, still.addresses⟩
  case case5 trail aliases progress entry rest target found fresh new cause unreadable =>
      rw [project.resolver.gather_unreadable trail aliases entry rest gathered target found fresh
        cause unreadable]
      exact .failure _
  case case6 trail aliases progress entry rest target found fresh new manifest loaded deeper met
      error stopped ih =>
      have readable := project.resolver.storage.isOk_manifestAt _ manifest loaded
      have deep := ih (gathered.visit target.location manifest)
        (frame.push target found fresh manifest loaded readable)
        (frame.enter consistent target found fresh new manifest readable)
        (frame.absorb consistent absorbed entry target manifest fresh new loaded)
        (agrees.visit trail.innermost entry target manifest)
      rw [stopped] at deep
      rw [project.resolver.gather_visit trail aliases entry rest gathered target found fresh
        manifest loaded readable, deep.eq_error]
      exact .failure _
  case case7 trail aliases progress entry rest target found fresh new manifest loaded deeper met
      inner isInner ihInner ihRest =>
      have readable := project.resolver.storage.isOk_manifestAt _ manifest loaded
      have below := frame.push target found fresh manifest loaded readable
      have entered := frame.enter consistent target found fresh new manifest readable
      have bound := frame.absorb consistent absorbed entry target manifest fresh new loaded
      have deep := ihInner (gathered.visit target.location manifest) below entered bound
        (agrees.visit trail.innermost entry target manifest)
      rw [isInner] at deep
      obtain ⟨again, same, still⟩ := deep.eq_ok
      obtain ⟨innerKept, _, covered⟩ := project.walk_consistent _ _ _ _ _ below entered isInner
      have left := frame.leave _ fresh manifest loaded readable innerKept covered
      obtain ⟨visits, arcs, grows, _, loads⟩ :=
        project.walk_grows _ _ _ _ _ below entered isInner
      have after := bound.grow (grows.complete target.location) loads
      rw [project.resolver.gather_visit trail aliases entry rest gathered target found fresh
        manifest loaded readable, same]
      exact ihRest again frame.tail left after ⟨still.packages, still.addresses⟩

theorem explore_same_outcome (project : Project) :
    SameOutcome project.explore
      (project.resolver.gatherAll project.manifest project.root project.aliases) := by
  have absorbed : project.Absorbed (project.resolver.begin project.manifest project.root) := by
    intro package member
    simp [Resolver.begin] at member
  exact project.walk_agrees (.start project.root) project.aliases project.manifest.entries _ _
    (.start project) (.start project) absorbed ⟨rfl, .refl _⟩

end Project

theorem explore_agrees (resolver : Resolver) (manifest : Manifest) (root : Location)
    (aliases : Aliases) :
    Project.SameOutcome (resolver.explore manifest root aliases)
      (resolver.gatherAll manifest root aliases) :=
  Project.explore_same_outcome ⟨resolver, manifest, root, aliases⟩

end PackageClosure
