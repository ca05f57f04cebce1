import PackageClosure.Proofs.Path.Absolute
import PackageClosure.Proofs.Resolution.Closure

set_option autoImplicit false

namespace PackageClosure

namespace Aliases

def inline (aliases : Aliases) (current : Location) (name : String) (dependency : Dependency) :
    Dependency :=
  match aliases.get? name with
  | some path => .path (path.locate current).path
  | none => dependency

end Aliases

def Entry.inline (entry : Entry) (aliases : Aliases) (current : Location) : Entry :=
  { entry with dependency := aliases.inline current entry.name entry.dependency }

def Manifest.inline (manifest : Manifest) (aliases : Aliases) (current : Location) : Manifest :=
  { manifest with
    dependencies := manifest.dependencies.mapValues (aliases.inline current)
    devDependencies := manifest.devDependencies.mapValues (aliases.inline current) }

theorem Manifest.entries_inline (manifest : Manifest) (aliases : Aliases) (current : Location) :
    (manifest.inline aliases current).entries =
      manifest.entries.map fun entry => entry.inline aliases current := by
  simp [entries, inline, OrderedMap.mapValues, Entry.inline, Function.comp_def]

def Target.unmarked (target : Target) : Target := ⟨target.location, false⟩

def Link.unmarked (link : Link) : Link :=
  if link.source = 0 then { link with edge := { link.edge with aliased := false } } else link

def Graph.unmarked (graph : Graph) : Graph :=
  { graph with links := graph.links.map Link.unmarked }

def Progress.unmarked (progress : Progress) : Progress :=
  { progress with graph := progress.graph.unmarked }

theorem Entry.target?_inline (entry : Entry) (aliases : Aliases) (current package : Location)
    (placed : aliases.Placed current) :
    (entry.inline aliases current).target? current .empty package =
      (entry.target? current aliases package).map Target.unmarked := by
  rw [target?, SortedMap.get?_empty, inline, Aliases.inline, target?]
  cases given : aliases.get? entry.name with
  | none =>
      simp only [Option.map_map]
      rfl
  | some path =>
      have place := placed entry.name path given
      simp only [Dependency.path?, Option.map_some, Target.unmarked, package.join_path _ place]

theorem Entry.unmarked_target? (entry : Entry) (current package : Location) :
    (entry.target? current .empty package).map Target.unmarked =
      entry.target? current .empty package := by
  rw [target?, SortedMap.get?_empty, Option.map_map]
  rfl

-- Only the entries of the root have aliases, and only edges that leave the root have marks.
theorem Entry.aliased_target? (entry : Entry) (current package : Location) (aliases : Aliases)
    (target : Target) (found : entry.target? current aliases package = some target) (isRoot : Prop)
    (marks : aliases = .empty ∨ isRoot) : target.aliased = false ∨ isRoot := by
  refine marks.imp_left ?_
  rintro rfl
  have unmarked := entry.unmarked_target? current package
  rw [found] at unmarked
  rw [← Option.some.inj unmarked]
  rfl

namespace Graph

theorem indexOf?_addNode (graph : Graph) (node : Node) (location : Location) (index : Nat)
    (found : graph.indexOf? location = some index) :
    (graph.addNode node).indexOf? location = some index := by
  unfold addNode
  split
  · exact found
  · rw [indexOf?, List.findIdx?_append, ← indexOf?, found]
    rfl

theorem indexOf?_addLink (graph : Graph) (source target location : Location) (edge : Edge) :
    (graph.addLink source target edge).indexOf? location = graph.indexOf? location := by
  rw [indexOf?, nodes_addLink, ← indexOf?]

theorem unmarked_addNode (graph : Graph) (node : Node) :
    (graph.addNode node).unmarked = graph.unmarked.addNode node := by
  have same : graph.unmarked.indexOf? node.location = graph.indexOf? node.location := rfl
  rw [addNode, addNode, same]
  cases graph.indexOf? node.location <;> rfl

theorem unmarked_addLink (graph : Graph) (source target : Location) (edge : Edge)
    (marks : edge.aliased = false ∨ graph.indexOf? source = some 0) :
    (graph.addLink source target edge).unmarked =
      graph.unmarked.addLink source target { edge with aliased := false } := by
  have first : graph.unmarked.indexOf? source = graph.indexOf? source := rfl
  have second : graph.unmarked.indexOf? target = graph.indexOf? target := rfl
  rw [addLink, addLink, first, second]
  cases isSource : graph.indexOf? source with
  | none => rfl
  | some start =>
      cases graph.indexOf? target with
      | none => rfl
      | some finish =>
          have link : (⟨start, finish, edge⟩ : Link).unmarked =
              ⟨start, finish, { edge with aliased := false }⟩ := by
            rcases marks with plain | root
            · rw [Link.unmarked, ← plain]
              exact ite_self _
            · obtain rfl : start = 0 := Option.some.inj (isSource.symm.trans root)
              rfl
          simp only [unmarked, List.map_append, List.map_cons, List.map_nil, link]

end Graph

namespace Progress

variable (progress : Progress) (source : Location) (entry : Entry) (target : Target)

theorem unmarked_addLink (other : Entry) (name : other.name = entry.name)
    (group : other.group = entry.group)
    (marks : target.aliased = false ∨ progress.graph.indexOf? source = some 0) :
    (progress.addLink source entry target).unmarked =
      progress.unmarked.addLink source other target.unmarked := by
  have graph := progress.graph.unmarked_addLink source target.location
    ⟨entry.name, entry.group, target.aliased⟩ marks
  simp only [addLink, unmarked, Target.unmarked, graph, name, group]

theorem unmarked_visit (other : Entry) (name : other.name = entry.name)
    (group : other.group = entry.group) (manifest : Manifest)
    (marks : target.aliased = false ∨ progress.graph.indexOf? source = some 0) :
    (progress.visit source entry target manifest).unmarked =
      progress.unmarked.visit source other target.unmarked manifest := by
  rw [visit, unmarked_addLink _ source entry target other name group]
  · simp only [visit, unmarked, Target.unmarked, Graph.unmarked_addNode]
    rfl
  · exact marks.imp_right fun root => progress.graph.indexOf?_addNode _ _ _ root

theorem indexOf?_visit (manifest : Manifest) (location : Location) (index : Nat)
    (found : progress.graph.indexOf? location = some index) :
    (progress.visit source entry target manifest).graph.indexOf? location = some index :=
  (Graph.indexOf?_addLink _ _ _ _ _).trans (progress.graph.indexOf?_addNode _ _ _ found)

end Progress

namespace Resolver

variable (resolver : Resolver)

theorem indexOf?_walk (trail : Trail resolver.storage) (aliases : Aliases) (entries : List Entry)
    (progress after : Progress) (location : Location) (index : Nat)
    (found : progress.graph.indexOf? location = some index)
    (ok : resolver.walk trail aliases entries progress = .ok after) :
    after.graph.indexOf? location = some index := by
  fun_induction walk resolver trail aliases entries progress generalizing after
  case case1 =>
      cases ok
      exact found
  case case2 ih => exact ih after found ok
  case case3 => cases ok
  case case4 ih => exact ih after ((Graph.indexOf?_addLink _ _ _ _ _).trans found) ok
  case case5 => cases ok
  case case6 => cases ok
  case case7 trail aliases progress entry rest target _ _ _ manifest _ _ _ inner isInner ihInner
      ihRest =>
      exact ihRest after (ihInner inner
        (progress.indexOf?_visit _ _ _ manifest location index found) isInner) ok

/-- A walk over entries that stand for the same packages without aliases, and with no marks so far,
ends in the same way, and in a progress without marks if it succeeds. -/
theorem walk_unmarked (trail : Trail resolver.storage) (aliases : Aliases) (entries : List Entry)
    (change : Entry → Entry) (progress : Progress)
    (kept : ∀ entry, (change entry).name = entry.name ∧ (change entry).group = entry.group)
    (stands : ∀ entry ∈ entries,
      (change entry).target? resolver.current .empty trail.innermost =
        (entry.target? resolver.current aliases trail.innermost).map Target.unmarked)
    (marks : aliases = .empty ∨ progress.graph.indexOf? trail.innermost = some 0) :
    resolver.walk trail .empty (entries.map change) progress.unmarked =
      (resolver.walk trail aliases entries progress).map Progress.unmarked := by
  fun_induction walk resolver trail aliases entries progress generalizing change
  case case1 trail aliases progress =>
      exact resolver.walk_nil trail .empty progress.unmarked
  case case2 trail aliases progress entry rest none ih =>
      obtain ⟨first, others⟩ := List.forall_mem_cons.mp stands
      rw [none] at first
      rw [List.map_cons, resolver.walk_skip trail .empty _ _ _ first]
      exact ih change kept others marks
  case case3 trail aliases progress entry rest target found above =>
      have first := (stands entry List.mem_cons_self).trans (congrArg _ found)
      exact resolver.walk_cycle trail .empty _ _ _ target.unmarked first above
  case case4 trail aliases progress entry rest target found fresh done ih =>
      obtain ⟨first, others⟩ := List.forall_mem_cons.mp stands
      rw [found] at first
      have marked := entry.aliased_target? _ _ aliases target found _ marks
      rw [List.map_cons, resolver.walk_again trail .empty _ _ progress.unmarked target.unmarked
        first fresh done, ← progress.unmarked_addLink _ entry target (change entry) (kept entry).1
        (kept entry).2 marked]
      exact ih change kept others
        (marks.imp_right fun root => (Graph.indexOf?_addLink _ _ _ _ _).trans root)
  case case5 trail aliases progress entry rest target found fresh new cause failed =>
      have first := (stands entry List.mem_cons_self).trans (congrArg _ found)
      exact resolver.walk_unreadable trail .empty _ _ progress.unmarked target.unmarked first fresh
        new cause failed
  case case6 trail aliases progress entry rest target found fresh new manifest loaded deeper met
      error inner ih =>
      have first := (stands entry List.mem_cons_self).trans (congrArg _ found)
      have marked := entry.aliased_target? _ _ aliases target found _ marks
      have below := ih id (fun _ => ⟨rfl, rfl⟩)
        (fun entry _ => (entry.unmarked_target? _ _).symm) (.inl rfl)
      rw [List.map_id, inner, progress.unmarked_visit _ entry target (change entry) (kept entry).1
        (kept entry).2 manifest marked] at below
      exact resolver.walk_inside trail .empty _ _ progress.unmarked target.unmarked first fresh
        new manifest loaded _ error below
  case case7 trail aliases progress entry rest target found fresh new manifest loaded deeper met
      after inner ihInner ihRest =>
      obtain ⟨first, others⟩ := List.forall_mem_cons.mp stands
      rw [found] at first
      have marked := entry.aliased_target? _ _ aliases target found _ marks
      have below := ihInner id (fun _ => ⟨rfl, rfl⟩)
        (fun entry _ => (entry.unmarked_target? _ _).symm) (.inl rfl)
      rw [List.map_id, inner, progress.unmarked_visit _ entry target (change entry) (kept entry).1
        (kept entry).2 manifest marked] at below
      rw [List.map_cons, resolver.walk_visit trail .empty _ _ progress.unmarked target.unmarked
        first fresh new manifest loaded _ after.unmarked below]
      refine ihRest change kept others (marks.imp_right fun root => ?_)
      have visited := progress.indexOf?_visit trail.innermost entry target manifest _ 0 root
      exact resolver.indexOf?_walk _ _ _ _ after _ 0 visited inner

theorem explore_inline (manifest : Manifest) (root : Location) (aliases : Aliases)
    (placed : aliases.Placed resolver.current) :
    resolver.explore (manifest.inline aliases resolver.current) root .empty =
      (resolver.explore manifest root aliases).map Progress.unmarked := by
  have start : (resolver.begin manifest root).unmarked = resolver.begin manifest root := rfl
  have first : (resolver.begin manifest root).graph.indexOf? root = some 0 := by
    simp [begin, Graph.addNode, Graph.empty, Graph.indexOf?]
  rw [explore, manifest.entries_inline, explore]
  exact resolver.walk_unmarked (.start root) aliases manifest.entries _
    (resolver.begin manifest root) (fun _ => ⟨rfl, rfl⟩)
    (fun entry _ => entry.target?_inline aliases _ _ placed) (.inr first)

end Resolver

theorem aliases_inlined (resolver : Resolver) (manifest : Manifest) (root : Path)
    (aliases : Aliases) (placed : aliases.Placed resolver.current) :
    resolver.resolve (manifest.inline aliases resolver.current) root .empty =
      (resolver.resolve manifest root aliases).map fun resolution =>
        { resolution with
          manifest := manifest.inline aliases resolver.current
          graph := resolution.graph.unmarked } := by
  rw [resolver.resolve_eq_map, resolver.resolve_eq_map,
    resolver.explore_inline manifest _ aliases placed]
  cases resolver.explore manifest (root.orDot.locate resolver.current) aliases <;> rfl

namespace Diamond

def inlined : Manifest :=
  manifest "App" [("app", "0x0")] [("Left", .path ⟨"../left"⟩), ("Right", .path ⟨"/right"⟩)]
    [("Base", .path ⟨"../base"⟩)]

def unmarkedLinks : List Link :=
  [⟨0, 1, ⟨"Left", .regular, false⟩⟩, ⟨1, 2, ⟨"Base", .regular, false⟩⟩,
    ⟨0, 3, ⟨"Right", .regular, false⟩⟩, ⟨3, 2, ⟨"Base", .regular, false⟩⟩,
    ⟨0, 2, ⟨"Base", .dev, false⟩⟩]

end Diamond

theorem aliases_inlined_diamond :
    Diamond.aliases.Placed Diamond.resolver.current ∧
      Diamond.resolver.resolve Diamond.inlined ⟨"/app"⟩ .empty =
        .ok ⟨Diamond.place "app", Diamond.inlined, Diamond.progress.packages,
          Diamond.progress.addresses, ⟨Diamond.nodes, Diamond.unmarkedLinks⟩⟩ := by
  have placed : Diamond.aliases.Placed Diamond.resolver.current :=
    (Aliases.filled_ofList _ (by decide)).placed _ rfl
  have inlined : Diamond.app.inline Diamond.aliases Diamond.resolver.current = Diamond.inlined := by
    decide +kernel
  have graph : Diamond.progress.graph.unmarked = ⟨Diamond.nodes, Diamond.unmarkedLinks⟩ := by
    decide
  have same := aliases_inlined Diamond.resolver Diamond.app ⟨"/app"⟩ Diamond.aliases placed
  rw [inlined, Diamond.resolve_eq] at same
  refine ⟨placed, same.trans ?_⟩
  rw [Except.map, graph]

-- Without a current directory, an alias stays relative. It is taken as it is, but from the package
-- if it is written into the manifest.
namespace Displaced

def memory : Memory := Memory.empty.addFile ⟨"lib/Move.toml"⟩ Leaf.bytes

def resolver : Resolver := ⟨memory.storage, .here, []⟩

def aliases : Aliases := .ofList [("lib", ⟨"lib"⟩)]

def app : Manifest := Diamond.manifest "app" [] [("lib", .unspecified)] []

def inlined : Manifest := Diamond.manifest "app" [] [("lib", .path ⟨"lib"⟩)] []

def lib : Location := (⟨"lib"⟩ : Path).location

theorem explore_app : ∃ done, resolver.explore app (Diamond.place "app") aliases = .ok done := by
  have ofApp : app.entries = [⟨"lib", .unspecified, .regular⟩] := by decide
  rw [Resolver.explore, ofApp, resolver.walk_leaf _ _ _ _ _ ⟨lib, true⟩ (by decide) (by decide)
    (by decide) (Memory.read_addFile _ _ _ _ (by decide))]
  exact ⟨_, resolver.walk_nil _ _ _⟩

theorem explore_inlined : resolver.explore inlined (Diamond.place "app") .empty =
    .error (.manifestUnreadable ⟨"/app/lib"⟩ (.unreadable (.notFound ⟨"/app/lib/Move.toml"⟩))) := by
  have entries : inlined.entries = [⟨"lib", .path ⟨"lib"⟩, .regular⟩] := by decide
  have missing := memory.storage.manifestAt_of_unreadable (Diamond.place "app/lib").path
    (.notFound ⟨"/app/lib/Move.toml"⟩) (by decide +kernel)
  have path : (Diamond.place "app/lib").path = ⟨"/app/lib"⟩ := by decide
  rw [Resolver.explore, entries, ← path]
  exact resolver.walk_unreadable _ _ _ _ _ ⟨Diamond.place "app/lib", false⟩ (by decide)
    (by decide) (by decide) _ missing

end Displaced

theorem relative_alias_displaced :
    Displaced.aliases.Filled ∧
      (∃ resolution, Displaced.resolver.resolve Displaced.app ⟨"/app"⟩ Displaced.aliases =
        .ok resolution) ∧
      Displaced.resolver.resolve
          (Displaced.app.inline Displaced.aliases Displaced.resolver.current) ⟨"/app"⟩ .empty =
        .error (.manifestUnreadable ⟨"/app/lib"⟩
          (.unreadable (.notFound ⟨"/app/lib/Move.toml"⟩))) := by
  have start : (⟨"/app"⟩ : Path).orDot.locate Displaced.resolver.current = Diamond.place "app" := by
    decide
  have inlined : Displaced.app.inline Displaced.aliases Displaced.resolver.current =
      Displaced.inlined := by decide +kernel
  refine ⟨Aliases.filled_ofList _ (by decide), ?_, ?_⟩
  · obtain ⟨done, explored⟩ := Displaced.explore_app
    rw [Resolver.resolve_eq_map, start, explored]
    exact ⟨_, rfl⟩
  · rw [inlined, Resolver.resolve_eq_map, start, Displaced.explore_inlined]
    rfl

end PackageClosure
