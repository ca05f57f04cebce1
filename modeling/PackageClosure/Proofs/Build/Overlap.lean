import PackageClosure.Build.Settings
import PackageClosure.Proofs.Resolution.Closure
import PackageClosure.Proofs.Sources.Search

set_option autoImplicit false

namespace PackageClosure

open Relation

namespace Memory

variable (memory : Memory)

def sourcesOf (package : Location) : List Path := (memory.storage.sources package.path).files

theorem sourcesOf_subset {outer inner : Location} (encloses : memory.Encloses outer inner) :
    memory.sourcesOf inner ⊆ memory.sourcesOf outer := by
  intro file member
  obtain ⟨directory, ⟨reached, isOpen⟩, rest⟩ := (memory.mem_files_iff inner file).mp member
  exact (memory.mem_files_iff outer file).mpr
    ⟨directory, ⟨encloses.to_reflTransGen.trans reached, isOpen⟩, rest⟩

theorem encloses_of_mem_both {left right : Location} (apart : left ≠ right) (file : Path)
    (one : file ∈ memory.sourcesOf left) (other : file ∈ memory.sourcesOf right) :
    memory.Encloses left right ∨ memory.Encloses right left := by
  obtain ⟨directory, ⟨inLeft, _⟩, _, _, _, spelled, _⟩ := (memory.mem_files_iff left file).mp one
  obtain ⟨again, ⟨inRight, _⟩, _, _, _, same, _⟩ := (memory.mem_files_iff right file).mp other
  obtain ⟨rfl, _⟩ := Location.child_injective (Location.path_injective (spelled.symm.trans same))
  rcases comparable_of_inside inLeft inRight with down | up
  · exact .inl ((reflTransGen_iff_eq_or_transGen.mp down).resolve_left fun same => apart same.symm)
  · exact .inr ((reflTransGen_iff_eq_or_transGen.mp up).resolve_left apart)

theorem disjoint_sourcesOf_iff {left right : Location} (apart : left ≠ right) :
    (memory.sourcesOf left).Disjoint (memory.sourcesOf right) ↔
      (memory.Encloses left right → memory.sourcesOf right = []) ∧
        (memory.Encloses right left → memory.sourcesOf left = []) := by
  constructor
  · intro disjoint
    constructor
    · intro encloses
      refine List.eq_nil_iff_forall_not_mem.mpr fun file member => ?_
      exact disjoint (memory.sourcesOf_subset encloses member) member
    · intro encloses
      refine List.eq_nil_iff_forall_not_mem.mpr fun file member => ?_
      exact disjoint member (memory.sourcesOf_subset encloses member)
  · rintro ⟨rightEmpty, leftEmpty⟩ file one other
    rcases memory.encloses_of_mem_both apart file one other with down | up
    · rw [rightEmpty down] at other
      cases other
    · rw [leftEmpty up] at one
      cases one

-- Different packages share sources only where one of them is inside another one.
theorem pairwise_disjoint_iff (packages : List Location) (distinct : packages.Nodup) :
    packages.Pairwise (Function.onFun List.Disjoint memory.sourcesOf) ↔
      ∀ outer ∈ packages, ∀ inner ∈ packages, memory.Encloses outer inner →
        memory.sourcesOf inner = [] := by
  constructor
  · intro disjoint outer isOuter inner isInner encloses
    have apart : outer ≠ inner := by
      rintro rfl
      exact not_encloses_self outer encloses
    have symmetric : Std.Symm (Function.onFun List.Disjoint memory.sourcesOf) :=
      ⟨fun _ _ apart _ one other => apart other one⟩
    exact ((memory.disjoint_sourcesOf_iff apart).mp
      (disjoint.forall isOuter isInner apart)).1 encloses
  · intro empty
    refine distinct.pairwise_of_forall_ne fun left isLeft right isRight apart => ?_
    exact (memory.disjoint_sourcesOf_iff apart).mpr
      ⟨empty left isLeft right isRight, empty right isRight left isLeft⟩

end Memory

theorem Resolver.nodup_of_resolve (resolver : Resolver) (manifest : Manifest) (root : Path)
    (aliases : Aliases) (resolution : Resolution) (filled : root.text ≠ "")
    (ok : resolver.resolve manifest root aliases = .ok resolution) :
    (resolution.root :: resolution.packages).Nodup := by
  obtain ⟨done, explored, rfl⟩ := (resolver.resolve_eq_ok_iff _ _ _ _).mp ok
  rw [root.orDot_of_filled filled] at explored
  let project := resolver.project manifest root aliases
  exact List.nodup_cons.mpr ⟨project.not_mem_packages_root done explored,
    (project.explore_consistent done explored).1.distinct⟩

namespace BuildSettings

theorem exists_resolve_eq_ok {World : Type} (settings : BuildSettings)
    (storageOf : World → Storage) (current : World → Location) (path : Path)
    (fetcher? : Option (Fetcher World)) (world after : World) (resolution : Resolution)
    (ok : settings.resolve storageOf current path fetcher? world = (.ok resolution, after)) :
    ∃ (resolver : Resolver) (manifest : Manifest) (root : Location) (aliases : Aliases),
      resolver.resolve manifest root.path aliases = .ok resolution := by
  unfold resolve at ok
  dsimp only at ok
  split at ok
  · cases ok
  · split at ok
    · cases ok
    · exact ⟨_, _, _, _, congrArg Prod.fst ok⟩

theorem resolve_without_fetcher {World : Type} (settings : BuildSettings)
    (storageOf : World → Storage) (current : World → Location) (path : Path) (world : World)
    (root : Location) (manifest : Manifest)
    (found : (storageOf world).findRoot (current world) path = .ok root)
    (loaded : (storageOf world).manifestAt root.path = .ok manifest) :
    let resolver : Resolver := ⟨storageOf world, current world, settings.namedAddresses⟩
    settings.resolve storageOf current path none world =
      (resolver.resolve manifest root.path settings.overrides, world) := by
  simp only [resolve, found, loaded, Except.mapError, bind, Except.bind, pure, Except.pure]

theorem resolve_of_explore {World : Type} (settings : BuildSettings)
    (storageOf : World → Storage) (current : World → Location) (path : Path) (world : World)
    (root : Location) (manifest : Manifest) (progress : Progress)
    (found : (storageOf world).findRoot (current world) path = .ok root)
    (loaded : (storageOf world).manifestAt root.path = .ok manifest)
    (located : root.path.locate (current world) = root)
    (explored : Resolver.explore ⟨storageOf world, current world, settings.namedAddresses⟩ manifest
      root settings.overrides = .ok progress) :
    settings.resolve storageOf current path none world =
      (.ok ⟨root, manifest, progress.packages, progress.addresses, progress.graph⟩, world) := by
  rw [settings.resolve_without_fetcher storageOf current path world root manifest found loaded,
    Resolver.resolve_eq_map, Path.orDot_of_filled _ root.text_path_ne_empty]
  simp only [located, explored, Except.map]

theorem resolve_stored (settings : BuildSettings) (memory : Memory) (path : Path) (root : Location)
    (text : String) (manifest : Manifest) (progress : Progress)
    (located : path.locate .root = root) (rooted : root.isAbsolute = true)
    (read : memory.read (root.path.child manifestFile) = .ok (Text.encodeUtf8 text))
    (parsed : (Manifest.parse text).map Manifest.raw = .ok manifest)
    (explored : Resolver.explore ⟨memory.storage, .root, settings.namedAddresses⟩ manifest root
      settings.overrides = .ok progress) :
    settings.resolve (fun _ => memory.storage) (fun _ => .root) path (none : Option (Fetcher Unit))
        () =
      (.ok ⟨root, manifest, progress.packages, progress.addresses, progress.graph⟩, ()) :=
  settings.resolve_of_explore (fun _ : Unit => memory.storage) (fun _ => .root) path () root
    manifest progress
    (memory.storage.findRoot_of_has .root path root located (memory.has_of_read _ _ read))
    (memory.storage.manifestAt_of_text _ text manifest read parsed)
    (Location.locate_path .root root rooted) explored

end BuildSettings

namespace Nested

def text : String :=
  "\n".intercalate ["[package]", "name = \"app\"", "version = \"1\"", "[dependencies]",
    "outer.local = \"../outer\"", "inner.local = \"../outer/inner\""]

def bytes : Bytes := Text.encodeUtf8 text

def source : Path := ⟨"/outer/inner/a.move"⟩

def memory : Memory :=
  (((Memory.empty.addFile source []).addFile ⟨"/outer/inner/Move.toml"⟩ Leaf.bytes).addFile
    ⟨"/outer/Move.toml"⟩ Leaf.bytes).addFile ⟨"/app/Move.toml"⟩ bytes

def place (text : String) : Location := (⟨text⟩ : Path).location

def resolver : Resolver := ⟨memory.storage, .root, []⟩

def app : Manifest :=
  Diamond.manifest "app" [] [("outer", .path ⟨"../outer"⟩), ("inner", .path ⟨"../outer/inner"⟩)] []

def progress : Progress where
  completed := [place "/outer", place "/outer/inner"]
  packages := [place "/outer", place "/outer/inner"]
  addresses := .empty
  graph := ⟨[⟨"app", place "/app"⟩, ⟨"leaf", place "/outer"⟩, ⟨"leaf", place "/outer/inner"⟩],
    [⟨0, 1, ⟨"outer", .regular, false⟩⟩, ⟨0, 2, ⟨"inner", .regular, false⟩⟩]⟩

def resolution : Resolution :=
  ⟨place "/app", app, progress.packages, progress.addresses, progress.graph⟩

theorem explore_eq : resolver.explore app (place "/app") .empty = .ok progress := by
  have ofApp : app.entries = [⟨"outer", .path ⟨"../outer"⟩, .regular⟩,
      ⟨"inner", .path ⟨"../outer/inner"⟩, .regular⟩] := by decide
  rw [Resolver.explore, ofApp,
    resolver.walk_leaf _ _ _ _ _ ⟨place "/outer", false⟩ (by decide) (by decide) (by decide)
      (Memory.read_add_of_read _ _ _ _ _ (by decide) (Memory.read_addFile _ _ _ _ (by decide))),
    resolver.walk_leaf _ _ _ _ _ ⟨place "/outer/inner", false⟩ (by decide) (by decide) (by decide)
      (Memory.read_add_of_read _ _ _ _ _ (by decide) (Memory.read_add_of_read _ _ _ _ _ (by decide)
        (Memory.read_addFile _ _ _ _ (by decide)))),
    resolver.walk_nil]
  exact congrArg Except.ok (by decide)

theorem resolve_eq :
    BuildSettings.default.resolve (fun _ => memory.storage) (fun _ => .root) ⟨"/app"⟩
      (none : Option (Fetcher Unit)) () = (.ok resolution, ()) :=
  BuildSettings.default.resolve_stored memory ⟨"/app"⟩ (place "/app") text app progress (by decide)
    (by decide) (Memory.read_addFile _ _ _ _ (by decide)) (by decide +kernel) explore_eq

def additions : List Memory.Addition :=
  [.file source [], .file ⟨"/outer/inner/Move.toml"⟩ Leaf.bytes,
    .file ⟨"/outer/Move.toml"⟩ Leaf.bytes, .file ⟨"/app/Move.toml"⟩ bytes]

theorem node?_outer : memory.node? (place "/outer") = some .directory :=
  (Memory.node?_ofAdditions additions ⟨"/outer"⟩).trans (by decide +kernel)

theorem node?_inner : memory.node? (place "/outer/inner") = some .directory :=
  (Memory.node?_ofAdditions additions ⟨"/outer/inner"⟩).trans (by decide +kernel)

theorem node?_source : memory.node? (place "/outer/inner/a.move") = some (.file []) :=
  (Memory.node?_ofAdditions additions source).trans (by decide)

theorem shownApart : memory.ShownApart :=
  memory.shownApart_of_text (Memory.isText_of_additions additions (by decide))

theorem inner_in_outer : memory.Encloses (place "/outer") (place "/outer/inner") :=
  .single ⟨⟨node?_outer, by decide⟩, ⟨"inner", by decide⟩, by decide, by decide⟩

theorem source_in_inner : (⟨"/outer/inner/a.move"⟩ : Path) ∈
    (memory.storage.sources (place "/outer/inner").path).files :=
  (memory.mem_files_iff _ _).mpr ⟨place "/outer/inner", ⟨.refl, node?_inner, by decide⟩,
    ⟨"a.move", by decide⟩, [], node?_source, by decide, by decide⟩

end Nested

end PackageClosure
