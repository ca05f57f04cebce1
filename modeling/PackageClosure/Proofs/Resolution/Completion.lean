import PackageClosure.Proofs.Resolution.Frame

set_option autoImplicit false

namespace PackageClosure

open Relation

namespace Project

-- An order of packages in which each one comes after all that it depends on.
-- That the root is not among them is what excludes a cycle through it.
inductive Settled (project : Project) : List Location → Prop where
  | nil : Settled project []
  | snoc (done : List Location) (package : Location) (manifest : Manifest)
      (earlier : Settled project done) (fresh : package ∉ done) (below : package ≠ project.root)
      (loaded : project.manifestOf package = .ok manifest)
      (closed : ∀ next, project.DependsOn package next → next ∈ done) :
      Settled project (done ++ [package])

namespace Settled

variable {project : Project} {done : List Location}

theorem ne_root (settled : project.Settled done) (package : Location) (member : package ∈ done) :
    package ≠ project.root := by
  induction settled with
  | nil => simp at member
  | snoc done last _ _ _ below _ _ ih =>
      rcases List.mem_append.mp member with inside | isLast
      · exact ih inside
      · exact List.mem_singleton.mp isLast ▸ below

theorem loads (settled : project.Settled done) (package : Location) (member : package ∈ done) :
    ∃ manifest, project.manifestOf package = .ok manifest := by
  induction settled with
  | nil => simp at member
  | snoc done last manifest _ _ _ loaded _ ih =>
      rcases List.mem_append.mp member with inside | isLast
      · exact ih inside
      · exact ⟨manifest, List.mem_singleton.mp isLast ▸ loaded⟩

theorem before (settled : project.Settled done) (package next : Location)
    (member : package ∈ done) (depends : TransGen project.DependsOn package next) :
    next ∈ done ∧ next ≠ package := by
  induction settled generalizing package with
  | nil => simp at member
  | snoc done last _ _ fresh _ _ closed ih =>
      have inside : ∀ other ∈ done, TransGen project.DependsOn other next → next ∈ done :=
        fun other found further => (ih other found further).1
      rcases List.mem_append.mp member with found | isLast
      · exact ⟨List.mem_append_left _ (ih package found depends).1, (ih package found depends).2⟩
      · rw [List.mem_singleton.mp isLast] at depends ⊢
        -- The first step leads to an earlier package, and from there all is
        -- earlier by induction.
        have earlier : next ∈ done := by
          rcases TransGen.head'_iff.mp depends with ⟨first, direct, further⟩
          rcases reflTransGen_iff_eq_or_transGen.mp further with same | more
          · exact same ▸ closed first direct
          · exact inside first (closed first direct) more
        exact ⟨List.mem_append_left _ earlier, fun same => fresh (same ▸ earlier)⟩

theorem acyclic (settled : project.Settled done) (package : Location) (member : package ∈ done) :
    ¬ TransGen project.DependsOn package package :=
  fun cycle => (settled.before package package member cycle).2 rfl

end Settled

structure Consistent (project : Project) (trail : Trail project.resolver.storage)
    (progress : Progress) : Prop where
  settled : project.Settled progress.completed
  apart : ∀ package ∈ progress.completed, package ∉ trail.packages
  met : ∀ package, package ∈ progress.packages ↔
    package ∈ progress.completed ∨ package ∈ trail.below
  distinct : progress.packages.Nodup
  reached : ∀ package ∈ progress.packages, TransGen project.DependsOn project.root package
  nodes : progress.graph.locations = project.root :: progress.packages

namespace Consistent

variable {project : Project} {trail : Trail project.resolver.storage} {progress : Progress}

theorem start (project : Project) :
    project.Consistent (.start project.root)
      (project.resolver.begin project.manifest project.root) where
  settled := .nil
  apart := by simp [Resolver.begin]
  met := by simp [Resolver.begin, Trail.start]
  distinct := .nil
  reached := by simp [Resolver.begin]
  nodes := rfl

theorem fresh_of_new (consistent : project.Consistent trail progress) (package : Location)
    (fresh : package ∉ trail.packages) (new : package ∉ progress.completed) :
    package ∉ progress.packages := by
  intro member
  rcases (consistent.met package).mp member with done | above
  · exact new done
  · exact fresh (by simp [Trail.packages, above])

theorem link (consistent : project.Consistent trail progress) (source : Location) (entry : Entry)
    (target : Target) : project.Consistent trail (progress.addLink source entry target) where
  settled := consistent.settled
  apart := consistent.apart
  met := consistent.met
  distinct := consistent.distinct
  reached := consistent.reached
  nodes := by
    rw [Graph.locations, Progress.nodes_addLink]
    exact consistent.nodes

theorem visit (consistent : project.Consistent trail progress) (line : project.Line trail.packages)
    (source : Location) (entry : Entry) (target : Target) (manifest : Manifest)
    (fresh : target.location ∉ trail.packages) (new : target.location ∉ progress.completed)
    (depends : project.DependsOn trail.innermost target.location)
    (readable : (project.resolver.storage.manifestAt target.location.path).isOk = true) :
    project.Consistent (trail.push target.location fresh readable)
      (progress.visit source entry target manifest) := by
  have unmet := consistent.fresh_of_new _ fresh new
  have packages := progress.packages_visit source entry target manifest unmet
  have absent : target.location ∉ progress.graph.locations := by
    rw [consistent.nodes, List.mem_cons]
    rintro (same | member)
    · exact fresh (same ▸ line.root_mem)
    · exact unmet member
  constructor
  case settled => exact consistent.settled
  case apart =>
      intro package done
      rw [Trail.packages_push, List.mem_append, List.mem_singleton]
      rintro (above | same)
      · exact consistent.apart package done above
      · exact new (same ▸ done)
  case met =>
      intro package
      rw [packages, List.mem_append, List.mem_singleton, consistent.met]
      simp only [Progress.visit, Progress.addLink, Trail.push, List.mem_cons]
      tauto
  case distinct =>
      rw [packages, ← List.concat_eq_append]
      exact List.Nodup.concat unmet consistent.distinct
  case reached =>
      intro package member
      rw [packages] at member
      rcases List.mem_append.mp member with met | isLast
      · exact consistent.reached package met
      · rw [List.mem_singleton.mp isLast]
        exact TransGen.tail' (line.reaches _ trail.innermost_mem_packages) depends
  case nodes =>
      rw [Graph.locations, progress.nodes_visit source entry target manifest absent, packages,
        List.map_append, ← Graph.locations, consistent.nodes]
      rfl

theorem complete (package : Location) (manifest : Manifest)
    (fresh : package ∉ trail.packages) (below : package ≠ project.root)
    (readable : (project.resolver.storage.manifestAt package.path).isOk = true)
    (consistent : project.Consistent (trail.push package fresh readable) progress)
    (loaded : project.manifestOf package = .ok manifest)
    (closed : ∀ next, project.DependsOn package next → next ∈ progress.completed) :
    project.Consistent trail (progress.complete package) := by
  have above : ∀ other ∈ progress.completed, other ∉ trail.packages ++ [package] := by
    intro other done
    rw [← trail.packages_push package fresh readable]
    exact consistent.apart other done
  have new : package ∉ progress.completed := fun done => above package done (by simp)
  constructor
  case settled => exact .snoc _ package manifest consistent.settled new below loaded closed
  case apart =>
      intro other member
      rcases List.mem_append.mp member with done | last
      · exact fun inside => above other done (List.mem_append_left _ inside)
      · exact List.mem_singleton.mp last ▸ fresh
  case met =>
      intro other
      refine (consistent.met other).trans ?_
      simp only [Progress.complete, Trail.push, List.mem_cons, List.mem_append]
      tauto
  case distinct => exact consistent.distinct
  case reached => exact consistent.reached
  case nodes => exact consistent.nodes

theorem root_not_mem (consistent : project.Consistent trail progress)
    (line : project.Line trail.packages) : project.root ∉ progress.packages := by
  have root : trail.root = project.root := by simpa [Trail.packages] using line.starts
  intro member
  rcases (consistent.met project.root).mp member with done | below
  · exact consistent.settled.ne_root _ done rfl
  · have distinct := line.distinct
    rw [Trail.packages, List.nodup_cons] at distinct
    exact distinct.1 (root ▸ List.mem_reverse.mpr below)

theorem nodup_locations (consistent : project.Consistent trail progress)
    (line : project.Line trail.packages) : progress.graph.locations.Nodup := by
  rw [consistent.nodes]
  exact List.nodup_cons.mpr ⟨consistent.root_not_mem line, consistent.distinct⟩

end Consistent

namespace Frame

variable {project : Project} {trail : Trail project.resolver.storage} {aliases : Aliases}
  {entry : Entry} {rest : List Entry} {progress : Progress}

theorem enter (frame : project.Frame trail aliases (entry :: rest))
    (consistent : project.Consistent trail progress) (target : Target)
    (found : entry.target? project.resolver.current aliases trail.innermost = some target)
    (fresh : target.location ∉ trail.packages) (new : target.location ∉ progress.completed)
    (manifest : Manifest)
    (readable : (project.resolver.storage.manifestAt target.location.path).isOk = true) :
    project.Consistent (trail.push target.location fresh readable)
      (progress.visit trail.innermost entry target manifest) :=
  consistent.visit frame.line _ entry target manifest fresh new
    (frame.depends List.mem_cons_self target found) readable

theorem leave (frame : project.Frame trail aliases (entry :: rest)) (package : Location)
    (fresh : package ∉ trail.packages) (manifest : Manifest)
    (loaded : project.resolver.storage.manifestAt package.path = .ok manifest)
    (readable : (project.resolver.storage.manifestAt package.path).isOk = true)
    (kept : project.Consistent (trail.push package fresh readable) progress)
    (covered : ∀ below ∈ manifest.entries, ∀ further,
      project.target? package below = some further → further.location ∈ progress.completed) :
    project.Consistent trail (progress.complete package) := by
  have loadedHere := (frame.manifestOf_fresh package fresh).trans loaded
  refine Consistent.complete package manifest fresh (frame.ne_root package fresh) readable kept
    loadedHere ?_
  intro next depends
  obtain ⟨below, member, further, isFurther, rfl⟩ :=
    project.target_of_depends_on _ next manifest loadedHere depends
  exact covered below member further isFurther

end Frame

-- The induction is on the calls of the walk. What the inner call leaves in
-- `completed` covers all that the package depends on, so completing it keeps
-- the order.
theorem walk_consistent (project : Project) (trail : Trail project.resolver.storage)
    (aliases : Aliases) (entries : List Entry) (progress after : Progress)
    (frame : project.Frame trail aliases entries) (consistent : project.Consistent trail progress)
    (ok : project.resolver.walk trail aliases entries progress = .ok after) :
    project.Consistent trail after ∧ progress.completed <+: after.completed ∧
      ∀ entry ∈ entries, ∀ target, project.target? trail.innermost entry = some target →
        target.location ∈ after.completed := by
  fun_induction Resolver.walk project.resolver trail aliases entries progress generalizing after
  case case1 =>
      cases ok
      exact ⟨consistent, List.prefix_refl _, by simp⟩
  case case2 trail aliases progress entry rest none ih =>
      obtain ⟨kept, grown, covered⟩ := ih after frame.tail consistent ok
      refine ⟨kept, grown, ?_⟩
      intro other member target found
      rcases List.mem_cons.mp member with same | inside
      · rw [same, ← frame.target?_eq, none] at found
        cases found
      · exact covered other inside target found
  case case3 => cases ok
  case case4 trail aliases progress entry rest target found fresh done ih =>
      obtain ⟨kept, grown, covered⟩ := ih after frame.tail (consistent.link _ _ _) ok
      refine ⟨kept, grown, ?_⟩
      intro other member second isSecond
      rcases List.mem_cons.mp member with same | inside
      · rw [same, ← frame.target?_eq, found] at isSecond
        rw [← Option.some.inj isSecond]
        exact grown.subset done
      · exact covered other inside second isSecond
  case case5 => cases ok
  case case6 => cases ok
  case case7 trail aliases progress entry rest target found fresh new manifest loaded deeper met
      inner isInner ihInner ihRest =>
      have readable := project.resolver.storage.isOk_manifestAt _ manifest loaded
      obtain ⟨innerKept, innerGrown, innerCovered⟩ := ihInner inner
        (frame.push target found fresh manifest loaded readable)
        (frame.enter consistent target found fresh new manifest readable) isInner
      have completed := frame.leave _ fresh manifest loaded readable innerKept innerCovered
      obtain ⟨kept, grown, covered⟩ := ihRest after frame.tail completed ok
      refine ⟨kept, (innerGrown.trans (List.prefix_append _ _)).trans grown, ?_⟩
      intro other member second isSecond
      rcases List.mem_cons.mp member with same | inside
      · rw [same, ← frame.target?_eq, found] at isSecond
        rw [← Option.some.inj isSecond]
        exact grown.subset (by simp [Progress.complete])
      · exact covered other inside second isSecond

end Project

end PackageClosure
