import PackageClosure.Proofs.Resolution.Closure
import PackageClosure.Proofs.Verdict

set_option autoImplicit false

namespace PackageClosure

namespace AddressTable

structure Begins (table other : AddressTable) : Prop where
  bindings : table.bindings.entries <+: other.bindings.entries
  conflicts : table.conflicts <+: other.conflicts

variable {table middle other : AddressTable}

theorem Begins.refl (table : AddressTable) : table.Begins table :=
  ⟨List.prefix_refl _, List.prefix_refl _⟩

theorem Begins.trans (first : table.Begins middle) (second : middle.Begins other) :
    table.Begins other :=
  ⟨first.bindings.trans second.bindings, first.conflicts.trans second.conflicts⟩

theorem begins_bind (table : AddressTable) (declaration : Declaration) :
    table.Begins (table.bind declaration) := by
  rw [bind]
  split
  · rename_i unbound
    have absent := (table.bindings.get?_eq_none_iff declaration.symbol).mp unbound
    refine ⟨?_, List.prefix_refl _⟩
    rw [table.bindings.entries_insertNew_of_not_mem _ _ absent]
    exact List.prefix_append _ _
  · split
    · exact .refl table
    · exact ⟨List.prefix_refl _, List.prefix_append _ _⟩

theorem begins_bindAll (table : AddressTable) (declarations : List Declaration) :
    table.Begins (table.bindAll declarations) := by
  induction declarations generalizing table with
  | nil => exact .refl table
  | cons declaration rest ih => exact (table.begins_bind declaration).trans (ih _)

end AddressTable

namespace Graph

structure Begins (graph other : Graph) : Prop where
  nodes : graph.nodes <+: other.nodes
  links : graph.links <+: other.links

variable {graph middle other : Graph}

theorem Begins.refl (graph : Graph) : graph.Begins graph :=
  ⟨List.prefix_refl _, List.prefix_refl _⟩

theorem Begins.trans (first : graph.Begins middle) (second : middle.Begins other) :
    graph.Begins other :=
  ⟨first.nodes.trans second.nodes, first.links.trans second.links⟩

theorem begins_addNode (graph : Graph) (node : Node) : graph.Begins (graph.addNode node) := by
  rw [addNode]
  split
  · exact .refl graph
  · exact ⟨List.prefix_append _ _, List.prefix_refl _⟩

theorem begins_addLink (graph : Graph) (source target : Location) (edge : Edge) :
    graph.Begins (graph.addLink source target edge) := by
  rw [addLink]
  split
  · exact ⟨List.prefix_refl _, List.prefix_append _ _⟩
  · exact .refl graph

end Graph

namespace Progress

structure Begins (progress other : Progress) : Prop where
  packages : progress.packages <+: other.packages
  addresses : progress.addresses.Begins other.addresses
  graph : progress.graph.Begins other.graph

variable {progress middle other : Progress}

theorem Begins.refl (progress : Progress) : progress.Begins progress :=
  ⟨List.prefix_refl _, .refl _, .refl _⟩

theorem Begins.trans (first : progress.Begins middle) (second : middle.Begins other) :
    progress.Begins other :=
  ⟨first.packages.trans second.packages, first.addresses.trans second.addresses,
    first.graph.trans second.graph⟩

variable (progress) (source : Location) (entry : Entry) (target : Target)

theorem begins_addLink : progress.Begins (progress.addLink source entry target) :=
  ⟨List.prefix_refl _, .refl _, progress.graph.begins_addLink _ _ _⟩

theorem begins_visit (manifest : Manifest) :
    progress.Begins (progress.visit source entry target manifest) where
  packages := by
    simp only [visit, addLink]
    split
    · exact List.prefix_refl _
    · exact List.prefix_append _ _
  addresses := progress.addresses.begins_bindAll manifest.declarations
  graph := (progress.graph.begins_addNode _).trans (Graph.begins_addLink _ _ _ _)

theorem begins_complete (package : Location) : progress.Begins (progress.complete package) :=
  ⟨List.prefix_refl _, .refl _, .refl _⟩

end Progress

namespace Resolver

variable (resolver : Resolver) (trail : Trail resolver.storage) (aliases : Aliases)

-- The trail is the same before the first entry and after the last one, so what is left to do is a
-- walk of its own.
theorem walk_append (entries more : List Entry) (progress : Progress) :
    resolver.walk trail aliases (entries ++ more) progress =
      resolver.walk trail aliases entries progress >>= resolver.walk trail aliases more := by
  induction entries generalizing progress with
  | nil =>
      rw [walk_nil]
      rfl
  | cons entry rest ih =>
      rw [List.cons_append, walk, walk]
      split
      · exact ih progress
      · split
        · rfl
        · split
          · exact ih _
          · split
            · rfl
            · dsimp only
              split
              · rfl
              · exact ih _

theorem walk_begins (entries : List Entry) (progress after : Progress)
    (ok : resolver.walk trail aliases entries progress = .ok after) : progress.Begins after := by
  fun_induction walk resolver trail aliases entries progress generalizing after
  case case1 =>
      cases ok
      exact .refl _
  case case2 ih => exact ih after ok
  case case3 => cases ok
  case case4 trail aliases progress entry rest target found fresh done ih =>
      exact (progress.begins_addLink trail.innermost entry target).trans (ih after ok)
  case case5 => cases ok
  case case6 => cases ok
  case case7 trail aliases progress entry rest target found fresh new manifest loaded deeper met
      inner isInner ihInner ihRest =>
      have entered : progress.Begins met :=
        progress.begins_visit trail.innermost entry target manifest
      have left := (ihInner inner isInner).trans (inner.begins_complete target.location)
      exact (entered.trans left).trans (ihRest after ok)

theorem explore_append (manifest more : Manifest) (root : Location) (added : List Entry)
    (package : more.package = manifest.package) (addresses : more.addresses = manifest.addresses)
    (entries : more.entries = manifest.entries ++ added) :
    resolver.explore more root aliases =
      resolver.explore manifest root aliases >>= resolver.walk (.start root) aliases added := by
  have start : resolver.begin more root = resolver.begin manifest root := by
    rw [begin, begin, Manifest.declarations, Manifest.declarations, package, addresses]
  rw [explore, explore, entries, start, walk_append]

end Resolver

structure Resolution.Begins (resolution other : Resolution) : Prop where
  packages : resolution.packages <+: other.packages
  addresses : resolution.addresses.Begins other.addresses
  graph : resolution.graph.Begins other.graph

theorem resolution_begins (resolver : Resolver) (manifest more : Manifest) (root : Path)
    (aliases : Aliases) (package : more.package = manifest.package)
    (addresses : more.addresses = manifest.addresses)
    (entries : manifest.entries <+: more.entries) :
    (∀ error, resolver.resolve manifest root aliases = .error error →
        resolver.resolve more root aliases = .error error) ∧
      ∀ resolution, resolver.resolve more root aliases = .ok resolution →
        ∃ part, resolver.resolve manifest root aliases = .ok part ∧ part.Begins resolution := by
  obtain ⟨added, all⟩ := entries
  rw [resolver.resolve_eq_map manifest, resolver.resolve_eq_map more,
    resolver.explore_append aliases manifest more _ added package addresses all.symm]
  generalize root.orDot.locate resolver.current = place
  cases resolver.explore manifest place aliases with
  | error stopped =>
      refine ⟨fun error failed => failed, ?_⟩
      intro resolution ok
      cases ok
  | ok done =>
      refine ⟨fun error failed => (by cases failed), ?_⟩
      intro resolution ok
      change Except.map _ (resolver.walk (.start place) aliases added done) = _ at ok
      cases outcome : resolver.walk (.start place) aliases added done with
      | error stopped =>
          rw [outcome] at ok
          cases ok
      | ok after =>
          rw [outcome] at ok
          cases ok
          have begins := resolver.walk_begins _ _ _ _ _ outcome
          exact ⟨_, rfl, begins.packages, begins.addresses, begins.graph⟩

theorem resolution_begins_diamond :
    let less := Diamond.manifest "App" [("app", "0x0")]
      [("Left", .path ⟨"../left"⟩), ("Right", .unspecified)] []
    (Diamond.app.package = less.package ∧ Diamond.app.addresses = less.addresses ∧
        less.entries <+: Diamond.app.entries) ∧
      ∃ part, Diamond.resolver.resolve less ⟨"/app"⟩ Diamond.aliases = .ok part ∧
        part.Begins ⟨Diamond.place "app", Diamond.app, Diamond.progress.packages,
          Diamond.progress.addresses, Diamond.progress.graph⟩ := by
  intro less
  have package : Diamond.app.package = less.package := by decide
  have addresses : Diamond.app.addresses = less.addresses := by decide
  have entries : less.entries <+: Diamond.app.entries := by decide
  exact ⟨⟨package, addresses, entries⟩,
    (resolution_begins Diamond.resolver less Diamond.app ⟨"/app"⟩ Diamond.aliases package addresses
      entries).2 _ Diamond.resolve_eq⟩

end PackageClosure
