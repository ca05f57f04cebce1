import PackageClosure.Proofs.Address.Precedence
import PackageClosure.Proofs.Graph.Arcs
import PackageClosure.Proofs.Resolution.Closure

set_option autoImplicit false

namespace PackageClosure

structure Visit where
  package : Location
  manifest : Manifest

def Visit.node (visit : Visit) : Node := ⟨visit.manifest.package.name, visit.package⟩

def Visit.declarations (visit : Visit) : List Declaration := visit.manifest.declarations

def Resolver.HasManifests (resolver : Resolver) (packages : List Location)
    (manifests : List Manifest) : Prop :=
  packages.Forall₂ (fun package manifest =>
    resolver.storage.manifestAt package.path = .ok manifest) manifests

theorem Resolver.has_manifests_of_visits (resolver : Resolver) (visits : List Visit)
    (loads : ∀ visit ∈ visits,
      resolver.storage.manifestAt visit.package.path = .ok visit.manifest) :
    resolver.HasManifests (visits.map Visit.package) (visits.map Visit.manifest) :=
  List.forall₂_map_right_iff.mpr (List.forall₂_map_left_iff.mpr (List.forall₂_same.mpr loads))

namespace Progress

structure Grows (before after : Progress) (visits : List Visit) (arcs : List Arc) : Prop where
  packages : after.packages = before.packages ++ visits.map Visit.package
  addresses : after.addresses = before.addresses.bindAll (visits.flatMap Visit.declarations)
  nodes : after.graph.nodes = before.graph.nodes ++ visits.map Visit.node
  shows : ∀ shown, before.graph.Shows shown → after.graph.Shows (shown ++ arcs)

namespace Grows

variable {before middle after : Progress} {visits more : List Visit} {arcs further : List Arc}

theorem refl (progress : Progress) : progress.Grows progress [] [] :=
  ⟨by simp, rfl, by simp, by simp⟩

theorem trans (first : before.Grows middle visits arcs) (second : middle.Grows after more further) :
    before.Grows after (visits ++ more) (arcs ++ further) where
  packages := by rw [second.packages, first.packages, List.map_append, List.append_assoc]
  addresses := by
    rw [second.addresses, first.addresses, List.flatMap_append, AddressTable.bindAll_append]
  nodes := by rw [second.nodes, first.nodes, List.map_append, List.append_assoc]
  shows := by
    intro shown isShown
    rw [← List.append_assoc]
    exact second.shows _ (first.shows shown isShown)

theorem complete (grows : before.Grows after visits arcs) (package : Location) :
    before.Grows (after.complete package) visits arcs :=
  ⟨grows.packages, grows.addresses, grows.nodes, grows.shows⟩

end Grows

def arc (source : Location) (entry : Entry) (target : Target) : Arc :=
  ⟨source, ⟨entry.name, entry.group, target.aliased⟩, target.location⟩

theorem grows_addLink (progress : Progress) (source : Location) (entry : Entry) (target : Target)
    (isSource : source ∈ progress.graph.locations)
    (isTarget : target.location ∈ progress.graph.locations) :
    progress.Grows (progress.addLink source entry target) [] [arc source entry target] where
  packages := by simp [addLink]
  addresses := rfl
  nodes := by rw [nodes_addLink, List.map_nil, List.append_nil]
  shows := fun shown => progress.graph.shows_addLink shown _ _ _ isSource isTarget

theorem grows_visit (progress : Progress) (source : Location) (entry : Entry) (target : Target)
    (manifest : Manifest) (isSource : source ∈ progress.graph.locations)
    (unmet : target.location ∉ progress.packages)
    (absent : target.location ∉ progress.graph.locations) :
    progress.Grows (progress.visit source entry target manifest) [⟨target.location, manifest⟩]
      [arc source entry target] where
  packages := progress.packages_visit source entry target manifest unmet
  addresses := by
    rw [List.flatMap_singleton]
    rfl
  nodes := progress.nodes_visit source entry target manifest absent
  shows := by
    intro shown isShown
    have locations : (progress.graph.addNode ⟨manifest.package.name, target.location⟩).locations =
        progress.graph.locations ++ [target.location] := by
      rw [Graph.locations, progress.graph.nodes_addNode _ absent, List.map_append]
      rfl
    refine Graph.shows_addLink _ shown _ _ _ ?_ ?_ (progress.graph.shows_addNode shown _ isShown)
    · rw [locations]
      exact List.mem_append_left _ isSource
    · simp [locations]

end Progress

namespace Project

def arcsOf (project : Project) (package : Location) (entries : List Entry) : List Arc :=
  entries.filterMap fun entry =>
    (project.target? package entry).map (Progress.arc package entry)

-- Which arcs the entries of one package and the visits that they lead to give
-- rise to. Arcs of different packages may be mixed, those of one may not.
structure Draws (project : Project) (package : Location) (entries : List Entry)
    (visits : List Visit) (arcs : List Arc) : Prop where
  own : (arcs.filter fun arc => arc.source = package) = project.arcsOf package entries
  others : ∀ visit ∈ visits, (arcs.filter fun arc => arc.source = visit.package) =
    project.arcsOf visit.package visit.manifest.entries
  sources : ∀ arc ∈ arcs, arc.source = package ∨ arc.source ∈ visits.map Visit.package

namespace Draws

variable {project : Project} {package : Location} {entry : Entry} {entries rest : List Entry}
  {visits more : List Visit} {arcs further : List Arc}

theorem nil (project : Project) (package : Location) : project.Draws package [] [] [] :=
  ⟨rfl, by simp, by simp⟩

theorem skip (draws : project.Draws package rest visits arcs)
    (none : project.target? package entry = none) :
    project.Draws package (entry :: rest) visits arcs where
  own := by rw [draws.own, arcsOf, arcsOf, List.filterMap_cons, none, Option.map_none]
  others := draws.others
  sources := draws.sources

theorem no_arcs_from (draws : project.Draws package entries visits arcs) (other : Location)
    (apart : other ≠ package) (unvisited : other ∉ visits.map Visit.package) :
    (arcs.filter fun arc => arc.source = other) = [] := by
  rw [List.filter_eq_nil_iff]
  intro arc member isSource
  have same : arc.source = other := by simpa using isSource
  rcases draws.sources arc member with own | visited
  · exact apart (same.symm.trans own)
  · exact unvisited (same ▸ visited)

theorem link (draws : project.Draws package rest visits arcs) (target : Target)
    (found : project.target? package entry = some target)
    (unvisited : package ∉ visits.map Visit.package) :
    project.Draws package (entry :: rest) visits
      ([Progress.arc package entry target] ++ arcs) where
  own := by
    rw [List.filter_append, draws.own, arcsOf, arcsOf, List.filterMap_cons, found, Option.map_some]
    simp [Progress.arc]
  others := by
    intro visit member
    have apart : package ≠ visit.package :=
      fun same => unvisited (same ▸ List.mem_map_of_mem member)
    rw [List.filter_append, draws.others visit member]
    simp [Progress.arc, apart]
  sources := by
    intro arc member
    rcases List.mem_append.mp member with first | later
    · exact .inl (by rw [List.mem_singleton.mp first, Progress.arc])
    · exact draws.sources arc later

theorem visit (target : Target) (manifest : Manifest)
    (found : project.target? package entry = some target)
    (inner : project.Draws target.location manifest.entries visits arcs)
    (outer : project.Draws package rest more further)
    (distinct : (package :: target.location :: (visits ++ more).map Visit.package).Nodup) :
    project.Draws package (entry :: rest) ([⟨target.location, manifest⟩] ++ visits ++ more)
      ([Progress.arc package entry target] ++ arcs ++ further) := by
  rw [List.nodup_cons, List.nodup_cons, List.map_append, List.nodup_append, List.mem_cons,
    List.mem_append, List.mem_append, not_or, not_or, not_or] at distinct
  obtain ⟨⟨apart, notInner, notOuter⟩, ⟨innerFresh, outerFresh⟩, _, _, disjoint⟩ := distinct
  constructor
  case own =>
      rw [List.filter_append, List.filter_append, inner.no_arcs_from package apart notInner,
        outer.own, arcsOf, arcsOf, List.filterMap_cons, found, Option.map_some]
      simp [Progress.arc]
  -- A package is visited in one of the three parts, and the other two have no
  -- arc from it.
  case others =>
      intro visit member
      have first (other : visit.package ≠ package) :
          ([Progress.arc package entry target].filter
            fun arc => arc.source = visit.package) = [] := by
        simp [Progress.arc, Ne.symm other]
      rw [List.filter_append, List.filter_append]
      rcases List.mem_append.mp member with early | late
      · rcases List.mem_append.mp early with isTarget | isInner
        · rw [List.mem_singleton.mp isTarget] at first ⊢
          rw [first (Ne.symm apart), inner.own, outer.no_arcs_from _ (Ne.symm apart) outerFresh,
            List.nil_append, List.append_nil]
        · have visited : visit.package ∈ visits.map Visit.package := List.mem_map_of_mem isInner
          have other : visit.package ≠ package := fun same => notInner (same ▸ visited)
          have unvisited : visit.package ∉ more.map Visit.package :=
            fun again => disjoint _ visited _ again rfl
          rw [first other, inner.others visit isInner, outer.no_arcs_from _ other unvisited,
            List.nil_append, List.append_nil]
      · have visited : visit.package ∈ more.map Visit.package := List.mem_map_of_mem late
        have other : visit.package ≠ package := fun same => notOuter (same ▸ visited)
        have notTarget : visit.package ≠ target.location := fun same => outerFresh (same ▸ visited)
        have unvisited : visit.package ∉ visits.map Visit.package :=
          fun earlier => disjoint _ earlier _ visited rfl
        rw [first other, inner.no_arcs_from _ notTarget unvisited, outer.others visit late,
          List.nil_append, List.nil_append]
  case sources =>
      intro arc member
      rw [List.map_append, List.map_append, List.mem_append, List.mem_append]
      rcases List.mem_append.mp member with early | late
      · rcases List.mem_append.mp early with first | isInner
        · exact .inl (by rw [List.mem_singleton.mp first, Progress.arc])
        · rcases inner.sources arc isInner with own | visited
          · exact .inr (.inl (.inl (by simp [own])))
          · exact .inr (.inl (.inr visited))
      · rcases outer.sources arc late with own | visited
        · exact .inl own
        · exact .inr (.inr visited)

end Draws

theorem Consistent.has_node {project : Project} {trail : Trail project.resolver.storage}
    {progress : Progress} (consistent : project.Consistent trail progress)
    (line : project.Line trail.packages) (package : Location)
    (known : package ∈ trail.packages ∨ package ∈ progress.completed) :
    package ∈ progress.graph.locations := by
  have root : trail.root = project.root := by simpa [Trail.packages] using line.starts
  rw [consistent.nodes, List.mem_cons, consistent.met]
  rcases known with above | done
  · rcases List.mem_cons.mp above with isRoot | below
    · exact .inl (isRoot.trans root)
    · exact .inr (.inr (List.mem_reverse.mp below))
  · exact .inr (.inl done)

theorem Frame.grows_visit {project : Project} {trail : Trail project.resolver.storage}
    {aliases : Aliases} {entries : List Entry} {progress : Progress}
    (frame : project.Frame trail aliases entries) (consistent : project.Consistent trail progress)
    (entry : Entry) (target : Target) (manifest : Manifest)
    (fresh : target.location ∉ trail.packages) (new : target.location ∉ progress.completed) :
    progress.Grows (progress.visit trail.innermost entry target manifest)
      [⟨target.location, manifest⟩] [Progress.arc trail.innermost entry target] := by
  have unmet := consistent.fresh_of_new _ fresh new
  have absent : target.location ∉ progress.graph.locations := by
    rw [consistent.nodes, List.mem_cons, not_or]
    exact ⟨frame.ne_root _ fresh, unmet⟩
  exact progress.grows_visit trail.innermost entry target manifest
    (consistent.has_node frame.line _ (.inl trail.innermost_mem_packages)) unmet absent

theorem nodup_visits (project : Project) (trail : Trail project.resolver.storage)
    (before after : Progress) (visits : List Visit) (arcs : List Arc)
    (line : project.Line trail.packages) (consistent : project.Consistent trail before)
    (kept : project.Consistent trail after) (grows : before.Grows after visits arcs) :
    (trail.innermost :: visits.map Visit.package).Nodup := by
  have known := consistent.has_node line trail.innermost (.inl trail.innermost_mem_packages)
  have all := kept.nodup_locations line
  rw [kept.nodes, grows.packages, ← List.cons_append, ← consistent.nodes, List.nodup_append] at all
  exact List.nodup_cons.mpr ⟨fun again => all.2.2 _ known _ again rfl, all.2.1⟩

theorem walk_grows (project : Project) (trail : Trail project.resolver.storage)
    (aliases : Aliases) (entries : List Entry) (progress after : Progress)
    (frame : project.Frame trail aliases entries) (consistent : project.Consistent trail progress)
    (ok : project.resolver.walk trail aliases entries progress = .ok after) :
    ∃ visits arcs, progress.Grows after visits arcs ∧
      project.Draws trail.innermost entries visits arcs ∧
      ∀ visit ∈ visits, project.manifestOf visit.package = .ok visit.manifest := by
  fun_induction Resolver.walk project.resolver trail aliases entries progress generalizing after
  case case1 trail _ progress =>
      cases ok
      exact ⟨[], [], .refl progress, .nil project _, by simp⟩
  case case2 trail aliases progress entry rest none ih =>
      obtain ⟨visits, arcs, grows, draws, loads⟩ := ih after frame.tail consistent ok
      exact ⟨visits, arcs, grows, draws.skip (frame.target?_eq entry ▸ none), loads⟩
  case case3 => cases ok
  case case4 trail aliases progress entry rest target found fresh done ih =>
      have linked := consistent.link trail.innermost entry target
      obtain ⟨visits, arcs, grows, draws, loads⟩ := ih after frame.tail linked ok
      have first := progress.grows_addLink trail.innermost entry target
        (consistent.has_node frame.line _ (.inl trail.innermost_mem_packages))
        (consistent.has_node frame.line _ (.inr done))
      have kept := (project.walk_consistent _ _ _ _ _ frame.tail linked ok).1
      have distinct := project.nodup_visits trail _ after visits arcs frame.line linked kept grows
      exact ⟨visits, _, first.trans grows,
        draws.link target (frame.target?_eq entry ▸ found) (List.nodup_cons.mp distinct).1, loads⟩
  case case5 => cases ok
  case case6 => cases ok
  case case7 trail aliases progress entry rest target found fresh new manifest loaded deeper met
      inner isInner ihInner ihRest =>
      have readable := project.resolver.storage.isOk_manifestAt _ manifest loaded
      have below := frame.push target found fresh manifest loaded readable
      have entered := frame.enter consistent target found fresh new manifest readable
      obtain ⟨innerKept, _, covered⟩ := project.walk_consistent _ _ _ _ _ below entered isInner
      have left := frame.leave _ fresh manifest loaded readable innerKept covered
      obtain ⟨visits, arcs, grows, draws, loads⟩ := ihInner inner below entered isInner
      obtain ⟨more, further, growsMore, drawsMore, loadsMore⟩ := ihRest after frame.tail left ok
      have first := frame.grows_visit consistent entry target manifest fresh new
      have whole := ((first.trans grows).complete target.location).trans growsMore
      have kept := (project.walk_consistent _ _ _ _ _ frame.tail left ok).1
      have distinct := project.nodup_visits trail _ after _ _ frame.line consistent kept whole
      refine ⟨_, _, whole, draws.visit target manifest (frame.target?_eq entry ▸ found) drawsMore
        (by simpa using distinct), ?_⟩
      intro visit member
      rcases List.mem_append.mp member with early | late
      · rcases List.mem_append.mp early with isTarget | isInner
        · rw [List.mem_singleton.mp isTarget]
          exact (frame.manifestOf_fresh _ fresh).trans loaded
        · exact loads visit isInner
      · exact loadsMore visit late

theorem explore_grows (project : Project) (done : Progress) (ok : project.explore = .ok done) :
    ∃ visits arcs,
      (project.resolver.begin project.manifest project.root).Grows done visits arcs ∧
        project.Draws project.root project.manifest.entries visits arcs ∧
        ∀ visit ∈ visits, visit.package ≠ project.root ∧
          project.resolver.storage.manifestAt visit.package.path = .ok visit.manifest := by
  obtain ⟨visits, arcs, grows, draws, loads⟩ := project.walk_grows (.start project.root)
    project.aliases project.manifest.entries _ done (.start project) (.start project) ok
  refine ⟨visits, arcs, grows, draws, ?_⟩
  intro visit member
  have met : visit.package ∈ done.packages := by
    rw [grows.packages]
    exact List.mem_append_right _ (List.mem_map_of_mem member)
  have other : visit.package ≠ project.root :=
    fun same => project.not_mem_packages_root done ok (same ▸ met)
  exact ⟨other, (project.manifestOf_of_ne _ other).symm.trans (loads visit member)⟩

end Project

end PackageClosure
