import PackageClosure.Proofs.Resolution.Growth

set_option autoImplicit false

namespace PackageClosure

open Relation

namespace Graph

def linksFrom (graph : Graph) (source : Nat) : List Link :=
  graph.links.filter fun link => link.source = source

def Linked (graph : Graph) (source target : Nat) : Prop :=
  ∃ edge, (⟨source, target, edge⟩ : Link) ∈ graph.links

/-- The nodes of a graph are the packages that a project reaches, and its edges are their entries
that stand for a package, with no edge that begins or ends at no node. -/
structure Mirrors (graph : Graph) (project : Project) : Prop where
  first : graph.locations[0]? = some project.root
  distinct : graph.locations.Nodup
  reached : ∀ package ∈ graph.locations, project.Reaches package
  edges : ∀ index package manifest, graph.locations[index]? = some package →
    project.manifestOf package = .ok manifest →
      (graph.linksFrom index).map graph.arc? =
        (project.arcsOf package manifest.entries).map some
  ends : ∀ link ∈ graph.links, link.source < graph.nodes.length ∧ link.target < graph.nodes.length

namespace Mirrors

variable {graph : Graph} {project : Project}

theorem linked_of_depends_on (mirrors : graph.Mirrors project) (index : Nat)
    (package other : Location) (here : graph.locations[index]? = some package)
    (depends : project.DependsOn package other) :
    ∃ next, graph.locations[next]? = some other ∧ graph.Linked index next := by
  obtain ⟨manifest, loaded⟩ : ∃ manifest, project.manifestOf package = .ok manifest :=
    depends.imp fun _ both => both.1
  obtain ⟨entry, member, target, found, same⟩ :=
    project.target_of_depends_on package other manifest loaded depends
  have isArc : Progress.arc package entry target ∈ project.arcsOf package manifest.entries :=
    List.mem_filterMap.mpr ⟨entry, member, by rw [found]; rfl⟩
  have shown : some (Progress.arc package entry target) ∈
      (graph.linksFrom index).map graph.arc? := by
    rw [mirrors.edges index package manifest here loaded]
    exact List.mem_map_of_mem isArc
  obtain ⟨link, isLink, isShown⟩ := List.mem_map.mp shown
  obtain ⟨inside, starts⟩ := List.mem_filter.mp isLink
  obtain ⟨_, there, _⟩ := (graph.arc?_eq_some_iff link _).mp isShown
  have source : link.source = index := by simpa using starts
  exact ⟨link.target, same ▸ there, link.edge, source ▸ inside⟩

theorem depends_on_of_linked (mirrors : graph.Mirrors project) (loads : project.Loads)
    (index next : Nat) (linked : graph.Linked index next) :
    ∃ package other, graph.locations[index]? = some package ∧
      graph.locations[next]? = some other ∧ project.DependsOn package other := by
  obtain ⟨edge, inside⟩ := linked
  have bound : index < graph.locations.length := by
    rw [locations, List.length_map]
    exact (mirrors.ends _ inside).1
  have here : graph.locations[index]? = some graph.locations[index] := by simp [bound]
  obtain ⟨manifest, loaded⟩ := loads _ (mirrors.reached _ (List.mem_of_getElem? here))
  have isFrom : (⟨index, next, edge⟩ : Link) ∈ graph.linksFrom index :=
    List.mem_filter.mpr ⟨inside, by simp⟩
  have shown := List.mem_map_of_mem (f := graph.arc?) isFrom
  rw [mirrors.edges index _ manifest here loaded] at shown
  obtain ⟨arc, isArc, isShown⟩ := List.mem_map.mp shown
  obtain ⟨entry, member, made⟩ := List.mem_filterMap.mp isArc
  obtain ⟨target, found, rfl⟩ := Option.map_eq_some_iff.mp made
  obtain ⟨_, there, _⟩ := (graph.arc?_eq_some_iff _ _).mp isShown.symm
  exact ⟨_, _, here, there,
    project.depends_on_of_target _ manifest entry target loaded member found⟩

theorem linked_from_root (mirrors : graph.Mirrors project) (package : Location)
    (reached : project.Reaches package) :
    ∃ index, graph.locations[index]? = some package ∧ ReflTransGen graph.Linked 0 index := by
  induction reached with
  | refl => exact ⟨0, mirrors.first, .refl⟩
  | tail _ depends ih =>
      obtain ⟨index, here, linked⟩ := ih
      obtain ⟨next, there, step⟩ := mirrors.linked_of_depends_on index _ _ here depends
      exact ⟨next, there, linked.tail step⟩

theorem linked_to (mirrors : graph.Mirrors project) (index : Nat)
    (bound : index < graph.nodes.length) : ReflTransGen graph.Linked 0 index := by
  have inside : index < graph.locations.length := by rwa [locations, List.length_map]
  have here : graph.locations[index]? = some graph.locations[index] := by simp [inside]
  obtain ⟨other, there, linked⟩ :=
    mirrors.linked_from_root _ (mirrors.reached _ (List.mem_of_getElem? here))
  have same := (List.getElem?_inj inside mirrors.distinct).mp (here.trans there.symm)
  exact same ▸ linked

theorem depends_on_of_linked_trans (mirrors : graph.Mirrors project) (loads : project.Loads)
    (index next : Nat) (linked : TransGen graph.Linked index next) :
    ∃ package other, graph.locations[index]? = some package ∧
      graph.locations[next]? = some other ∧ TransGen project.DependsOn package other := by
  induction linked with
  | single step =>
      obtain ⟨package, other, here, there, depends⟩ := mirrors.depends_on_of_linked loads _ _ step
      exact ⟨package, other, here, there, .single depends⟩
  | tail _ step ih =>
      obtain ⟨package, middle, here, between, depends⟩ := ih
      obtain ⟨again, other, alsoBetween, there, further⟩ :=
        mirrors.depends_on_of_linked loads _ _ step
      have same : middle = again := Option.some.inj (between.symm.trans alsoBetween)
      exact ⟨package, other, here, there, depends.tail (same ▸ further)⟩

theorem not_linked_self (mirrors : graph.Mirrors project) (loads : project.Loads)
    (acyclic : project.Acyclic) (index : Nat) : ¬ TransGen graph.Linked index index := by
  intro cycle
  obtain ⟨package, other, here, there, depends⟩ :=
    mirrors.depends_on_of_linked_trans loads index index cycle
  have same : package = other := Option.some.inj (here.symm.trans there)
  exact acyclic package (mirrors.reached _ (List.mem_of_getElem? here)) (same ▸ depends)

end Mirrors

structure Faithful (graph : Graph) (project : Project) (packages : List Location)
    (manifests : List Manifest) : Prop where
  nodes : graph.nodes = ⟨project.manifest.package.name, project.root⟩ ::
    packages.zipWith (fun package manifest => ⟨manifest.package.name, package⟩) manifests
  mirrors : graph.Mirrors project
  connected : ∀ index < graph.nodes.length, ReflTransGen graph.Linked 0 index
  acyclic : ∀ index, ¬ TransGen graph.Linked index index

end Graph

namespace Project

theorem explore_mirrors (project : Project) (done : Progress) (ok : project.explore = .ok done) :
    done.graph.Mirrors project := by
  obtain ⟨consistent, _⟩ := project.explore_consistent done ok
  obtain ⟨visits, arcs, grows, draws, loads⟩ := project.explore_grows done ok
  have distinct := consistent.nodup_locations (.single project)
  have shows : done.graph.Shows arcs := grows.shows [] rfl
  constructor
  case first =>
      rw [consistent.nodes]
      rfl
  case distinct => exact distinct
  case reached =>
      intro package member
      rw [consistent.nodes] at member
      rcases List.mem_cons.mp member with same | met
      · exact same ▸ ReflTransGen.refl
      · exact (consistent.reached package met).to_reflTransGen
  case edges =>
      intro index package manifest here loaded
      rw [Graph.linksFrom, done.graph.arcs_from arcs distinct shows index package here]
      congr 1
      have member := List.mem_of_getElem? here
      rw [consistent.nodes, grows.packages] at member
      rcases List.mem_cons.mp member with same | met
      · have isGiven : manifest = project.manifest := by
          rw [same, project.manifestOf_root] at loaded
          exact (Except.ok.inj loaded).symm
        rw [same, isGiven]
        exact draws.own
      · obtain ⟨visit, visited, rfl⟩ := List.mem_map.mp met
        obtain ⟨other, stored⟩ := loads visit visited
        have isStored : manifest = visit.manifest := by
          rw [project.manifestOf_of_ne _ other, stored] at loaded
          exact (Except.ok.inj loaded).symm
        rw [isStored]
        exact draws.others visit visited
  case ends =>
      intro link member
      obtain ⟨arc, _, shown⟩ := done.graph.arc?_of_mem arcs shows link member
      obtain ⟨source, target, _⟩ := (done.graph.arc?_eq_some_iff link arc).mp shown
      have sourceBound := (List.getElem?_eq_some_iff.mp source).1
      have targetBound := (List.getElem?_eq_some_iff.mp target).1
      rw [Graph.locations, List.length_map] at sourceBound targetBound
      exact ⟨sourceBound, targetBound⟩

end Project

theorem graph_faithful (resolver : Resolver) (manifest : Manifest) (root : Path)
    (aliases : Aliases) (resolution : Resolution)
    (ok : resolver.resolve manifest root aliases = .ok resolution) :
    ∃ manifests, resolver.HasManifests resolution.packages manifests ∧
      resolution.graph.Faithful (resolver.project manifest root.orDot aliases)
        resolution.packages manifests := by
  obtain ⟨done, explored, rfl⟩ := (resolver.resolve_eq_ok_iff _ _ _ _).mp ok
  let project := resolver.project manifest root.orDot aliases
  obtain ⟨visits, _, grows, _, loads⟩ := project.explore_grows done explored
  have mirrors := project.explore_mirrors done explored
  have packages : done.packages = visits.map Visit.package := grows.packages
  have nodes : done.graph.nodes = ⟨manifest.package.name, project.root⟩ :: visits.map Visit.node :=
    grows.nodes
  refine ⟨visits.map Visit.manifest, ?_, ?_, mirrors, mirrors.linked_to,
    mirrors.not_linked_self (project.loads_of_explore done explored)
      (project.acyclic_of_explore done explored)⟩
  · rw [packages]
    exact resolver.has_manifests_of_visits visits fun visit member => (loads visit member).2
  · rw [nodes, packages, List.zipWith_map, List.zipWith_self]
    rfl

theorem graph_faithful_diamond :
    ∃ manifests, Diamond.resolver.HasManifests Diamond.progress.packages manifests ∧
      Diamond.progress.graph.Faithful
        (Diamond.resolver.project Diamond.app ⟨"/app"⟩ Diamond.aliases)
        Diamond.progress.packages manifests :=
  graph_faithful Diamond.resolver Diamond.app ⟨"/app"⟩ Diamond.aliases _ Diamond.resolve_eq

end PackageClosure
