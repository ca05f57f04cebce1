import PackageClosure.Proofs.Build.Overlap
import PackageClosure.Proofs.Path.Absolute
import PackageClosure.Proofs.Resolution.Closure
import PackageClosure.Proofs.Verdict

set_option autoImplicit false

namespace PackageClosure

open Relation

theorem Storage.readText_eq_ok_iff (storage : Storage) (path : Path) (text : String) :
    storage.readText path = .ok text ↔
      ∃ bytes, storage.read path = .ok bytes ∧ Text.decodeUtf8 bytes = .ok text := by
  rw [readText]
  cases storage.read path <;> simp [mapError_eq_ok_iff]

theorem Storage.manifestAt_eq_ok_iff (storage : Storage) (package : Path) (manifest : Manifest) :
    storage.manifestAt package = .ok manifest ↔
      ∃ text, storage.readText (package.child manifestFile) = .ok text ∧
        (Manifest.parse text).map Manifest.raw = .ok manifest := by
  rw [manifestAt]
  cases storage.readText (package.child manifestFile) <;> simp [mapError_eq_ok_iff]

theorem Memory.read_eq_ok_iff (memory : Memory) (path : Path) (bytes : Bytes) :
    memory.read path = .ok bytes ↔ memory.node? path.location = some (.file bytes) := by
  unfold read
  split <;> simp_all

theorem Memory.manifestAt_eq_ok_congr (memory : Memory) (left right : Path) (manifest : Manifest)
    (same : left.location = right.location) :
    memory.storage.manifestAt left = .ok manifest ↔
      memory.storage.manifestAt right = .ok manifest := by
  have reads (bytes : Bytes) : memory.storage.read (left.child manifestFile) = .ok bytes ↔
      memory.storage.read (right.child manifestFile) = .ok bytes := by
    change memory.read _ = _ ↔ memory.read _ = _
    rw [memory.read_eq_ok_iff, memory.read_eq_ok_iff, Path.location_child, Path.location_child,
      same]
  simp only [Storage.manifestAt_eq_ok_iff, Storage.readText_eq_ok_iff, reads]

namespace Resolver

variable (resolver : Resolver)

theorem load_eq_ok_iff (package : Path) (manifest : Manifest) :
    resolver.load package = .ok manifest ↔
      resolver.storage.manifestAt package = .ok manifest :=
  mapError_eq_ok_iff _ _ manifest

theorem manifest_of_resolve (manifest : Manifest) (root : Path) (aliases : Aliases)
    (resolution : Resolution) (ok : resolver.resolve manifest root aliases = .ok resolution) :
    resolution.manifest = manifest := by
  obtain ⟨done, _, rfl⟩ := (resolver.resolve_eq_ok_iff _ _ _ _).mp ok
  rfl

theorem resolveAt_eq_ok_iff (root : Path) (aliases : Aliases) (resolution : Resolution) :
    resolver.resolveAt root aliases = .ok resolution ↔
      resolver.load root = .ok resolution.manifest ∧
        resolver.resolve resolution.manifest root aliases = .ok resolution := by
  rw [resolveAt, bind_eq_ok_iff]
  constructor
  · rintro ⟨manifest, loaded, ok⟩
    obtain rfl := resolver.manifest_of_resolve manifest root aliases resolution ok
    exact ⟨loaded, ok⟩
  · rintro ⟨loaded, ok⟩
    exact ⟨resolution.manifest, loaded, ok⟩

theorem resolve_locate (manifest : Manifest) (root : Path) (aliases : Aliases)
    (absolute : resolver.current.isAbsolute = true) (filled : root.text ≠ "") :
    resolver.resolve manifest (root.locate resolver.current).path aliases =
      resolver.resolve manifest root aliases := by
  have place := root.isAbsolute_locate _ absolute filled
  have located := Location.locate_path resolver.current _ place
  rw [resolve_eq_map, resolve_eq_map, Path.orDot_of_filled _ (Location.text_path_ne_empty _),
    root.orDot_of_filled filled, located]

end Resolver

theorem resolveAt_locate_iff (memory : Memory) (current : Location)
    (named : List AddressArgument) (root : Path) (aliases : Aliases)
    (absolute : current.isAbsolute = true) (filled : root.text ≠ "") :
    let resolver : Resolver := ⟨memory.storage, current, named⟩
    let place := (root.locate current).path
    ((∀ resolution, resolver.resolveAt root aliases = .ok resolution ↔
          resolver.resolveAt place aliases = .ok resolution) ↔
        ∀ manifest, (∃ resolution, resolver.resolve manifest place aliases = .ok resolution) →
          (resolver.load root = .ok manifest ↔ resolver.load place = .ok manifest)) ∧
      (root.isAbsolute = true → ∀ resolution, resolver.resolveAt root aliases = .ok resolution ↔
        resolver.resolveAt place aliases = .ok resolution) := by
  intro resolver place
  have same (manifest : Manifest) : resolver.resolve manifest place aliases =
      resolver.resolve manifest root aliases :=
    resolver.resolve_locate manifest root aliases absolute filled
  have agree : (∀ resolution, resolver.resolveAt root aliases = .ok resolution ↔
        resolver.resolveAt place aliases = .ok resolution) ↔
      ∀ manifest, (∃ resolution, resolver.resolve manifest place aliases = .ok resolution) →
        (resolver.load root = .ok manifest ↔ resolver.load place = .ok manifest) := by
    simp only [resolver.resolveAt_eq_ok_iff, same]
    constructor
    · rintro both manifest ⟨resolution, ok⟩
      obtain rfl := resolver.manifest_of_resolve manifest root aliases resolution ok
      simpa only [ok, and_true] using both resolution
    · intro found resolution
      exact and_congr_left fun ok => found resolution.manifest ⟨resolution, ok⟩
  refine ⟨agree, ?_⟩
  intro rooted
  refine agree.mpr fun manifest _ => ?_
  rw [resolver.load_eq_ok_iff, resolver.load_eq_ok_iff]
  refine memory.manifestAt_eq_ok_congr root place manifest ?_
  have located : root.locate current = root.location := by
    rw [Path.locate, if_neg filled]
    exact current.join_of_isAbsolute .here root rooted
  change root.location = (root.locate current).path.location
  rw [Location.location_path, located]

namespace Rooted

def single : Memory := Memory.empty.addFile ⟨"/leaf/Move.toml"⟩ Leaf.bytes

def double : Memory := single.addFile ⟨"leaf/Move.toml"⟩ Leaf.bytes

def resolver (memory : Memory) : Resolver := ⟨memory.storage, .root, []⟩

def leaf : Path := ⟨"leaf"⟩

def place : Path := (leaf.locate .root).path

theorem load_single : (resolver single).load place = .ok Leaf.manifest := by
  rw [Resolver.load_eq_ok_iff]
  exact Leaf.manifestAt_eq _ _ (Memory.read_addFile _ _ _ _ (by decide))

theorem load_relative : (resolver single).load leaf =
    .error (.manifestUnreadable leaf (.unreadable (.notFound ⟨"leaf/Move.toml"⟩))) := by
  have failed := single.storage.manifestAt_of_unreadable leaf (.notFound ⟨"leaf/Move.toml"⟩)
    (by decide +kernel)
  rw [Resolver.load]
  exact congrArg (Except.mapError _) failed

theorem load_double (path : Path) (either : path = leaf ∨ path = place) :
    (resolver double).load path = .ok Leaf.manifest := by
  rw [Resolver.load_eq_ok_iff]
  refine Leaf.manifestAt_eq _ _ ?_
  rcases either with rfl | rfl
  · exact Memory.read_addFile _ _ _ _ (by decide)
  · exact Memory.read_add_of_read _ _ _ _ _ (by decide) (Memory.read_addFile _ _ _ _ (by decide))

theorem exists_resolve (memory : Memory) (root : Path) :
    ∃ resolution, (resolver memory).resolve Leaf.manifest root .empty = .ok resolution := by
  have ofLeaf : Leaf.manifest.entries = [] := by decide
  rw [Resolver.resolve_eq_map, Resolver.explore, ofLeaf, Resolver.walk_nil]
  exact ⟨_, rfl⟩

end Rooted

-- The manifest of a relative root is not looked for where the root is from the current directory.
theorem relative_root_not_found :
    (Rooted.resolver Rooted.single).resolveAt Rooted.leaf .empty =
        .error (.manifestUnreadable Rooted.leaf (.unreadable (.notFound ⟨"leaf/Move.toml"⟩))) ∧
      ∃ resolution,
        (Rooted.resolver Rooted.single).resolveAt Rooted.place .empty = .ok resolution := by
  constructor
  · rw [Resolver.resolveAt, Rooted.load_relative]
    rfl
  · obtain ⟨resolution, ok⟩ := Rooted.exists_resolve Rooted.single Rooted.place
    rw [Resolver.resolveAt, Rooted.load_single]
    exact ⟨resolution, ok⟩

theorem resolveAt_locate_iff_double :
    (Location.root.isAbsolute = true ∧ Rooted.leaf.text ≠ "") ∧
      ∀ resolution,
        (Rooted.resolver Rooted.double).resolveAt Rooted.leaf .empty = .ok resolution ↔
          (Rooted.resolver Rooted.double).resolveAt Rooted.place .empty = .ok resolution := by
  have filled : Rooted.leaf.text ≠ "" := by decide
  refine ⟨⟨rfl, filled⟩, ?_⟩
  refine (resolveAt_locate_iff Rooted.double .root [] Rooted.leaf .empty rfl filled).1.mpr ?_
  intro manifest _
  have here := Rooted.load_double Rooted.leaf (.inl rfl)
  have there := Rooted.load_double Rooted.place (.inr rfl)
  exact (congrArg (· = .ok manifest) (here.trans there.symm)).to_iff

namespace Resolution

def places (resolution : Resolution) : List Location :=
  resolution.root :: resolution.packages ++ resolution.graph.locations

def Placed (resolution : Resolution) : Prop :=
  ∀ place ∈ resolution.places, place.path.isAbsolute = true ∧ place.path.normalize = place.path

theorem placed_iff (resolution : Resolution) :
    resolution.Placed ↔ ∀ place ∈ resolution.places, place.isAbsolute = true := by
  refine forall₂_congr fun place _ => ?_
  exact ⟨fun both => place.isAbsolute_of_path both.1,
    fun absolute => ⟨place.isAbsolute_path absolute, place.normalize_path⟩⟩

end Resolution

namespace Project

variable (project : Project)

def Aimed : Prop :=
  ∀ entry ∈ project.manifest.entries, ∀ path,
    project.aliases.get? entry.name = some path → path.text ≠ ""

-- Below the root there are no aliases, and a path is taken from the package that it is read in.
theorem isAbsolute_of_depends_on (here : project.resolver.current.isAbsolute = true)
    (aimed : project.Aimed) (package other : Location) (absolute : package.isAbsolute = true)
    (depends : project.DependsOn package other) : other.isAbsolute = true := by
  obtain ⟨manifest, loaded⟩ : ∃ manifest, project.manifestOf package = .ok manifest :=
    depends.imp fun _ both => both.1
  obtain ⟨entry, member, target, found, rfl⟩ :=
    project.target_of_depends_on package other manifest loaded depends
  refine entry.isAbsolute_target _ _ _ _ here ?_ absolute found
  intro path given
  by_cases same : package = project.root
  · rw [same, project.manifestOf_root] at loaded
    rw [same, project.aliasesOf_root] at given
    exact aimed entry (Except.ok.inj loaded ▸ member) path given
  · rw [project.aliasesOf_of_ne package same] at given
    cases given

theorem isAbsolute_of_depends_on_trans (here : project.resolver.current.isAbsolute = true)
    (aimed : project.Aimed) (rooted : project.root.isAbsolute = true) (package : Location)
    (depends : TransGen project.DependsOn project.root package) : package.isAbsolute = true := by
  induction depends with
  | single step => exact project.isAbsolute_of_depends_on here aimed _ _ rooted step
  | tail _ step ih => exact project.isAbsolute_of_depends_on here aimed _ _ ih step

theorem depends_on_here (entry : Entry) (member : entry ∈ project.manifest.entries)
    (path : Path) (given : project.aliases.get? entry.name = some path) (empty : path.text = "") :
    project.DependsOn project.root .here := by
  have place := path.locate_empty project.resolver.current empty
  refine ⟨project.manifest, project.manifestOf_root, entry, member, true, ?_⟩
  rw [project.aliasesOf_root, ← place]
  exact .byAlias path given

theorem isAbsolute_packages_iff (here : project.resolver.current.isAbsolute = true)
    (rooted : project.root.isAbsolute = true) (done : Progress)
    (ok : project.explore = .ok done) :
    (∀ package ∈ done.packages, package.isAbsolute = true) ↔ project.Aimed := by
  constructor
  · intro absolute entry member path given empty
    have step := project.depends_on_here entry member path given empty
    cases absolute .here ((project.mem_packages_iff done ok .here).mpr (.single step))
  · intro aimed package member
    exact project.isAbsolute_of_depends_on_trans here aimed rooted package
      ((project.mem_packages_iff done ok package).mp member)

end Project

theorem AliasArgument.filled_of_parse (text : String) (argument : AliasArgument)
    (ok : parse text = .ok argument) : argument.path.text ≠ "" := by
  unfold parse at ok
  split at ok
  all_goals cases ok
  rename_i name path read
  obtain ⟨_, _, _, _, _, _, _, filled⟩ := (Text.parsePair_eq_ok_iff '=' text name path).mp read
  exact filled

theorem BuildSettings.filled_overrides (settings : BuildSettings)
    (given : ∀ argument ∈ settings.aliases, ∃ text, AliasArgument.parse text = .ok argument) :
    settings.overrides.Filled := by
  refine Aliases.filled_ofList _ ?_
  intro pair member
  obtain ⟨argument, isGiven, rfl⟩ := List.mem_map.mp member
  obtain ⟨text, ok⟩ := given argument isGiven
  exact Text.raw_ne_empty _ (argument.filled_of_parse text ok)

theorem places_absolute_iff (resolver : Resolver) (manifest : Manifest) (root : Path)
    (aliases : Aliases) (resolution : Resolution) (absolute : resolver.current.isAbsolute = true)
    (ok : resolver.resolve manifest root aliases = .ok resolution) :
    (resolution.Placed ↔ root.text ≠ "" ∧ ∀ entry ∈ manifest.entries, ∀ path,
        aliases.get? entry.name = some path → path.text ≠ "") ∧
      ∀ settings : BuildSettings, settings.overrides = aliases → root.text ≠ "" →
        (∀ argument ∈ settings.aliases, ∃ text, AliasArgument.parse text = .ok argument) →
          resolution.Placed := by
  let project := resolver.project manifest root.orDot aliases
  obtain ⟨done, explored, rfl⟩ := (resolver.resolve_eq_ok_iff _ _ _ _).mp ok
  have rooted : project.root.isAbsolute = true :=
    root.orDot.isAbsolute_locate _ absolute root.text_orDot_ne_empty
  have packages := project.isAbsolute_packages_iff absolute rooted done explored
  have nodes : done.graph.locations = project.root :: done.packages :=
    (project.explore_consistent done explored).1.nodes
  have placed : Resolution.Placed ⟨root.locate resolver.current, manifest, done.packages,
      done.addresses, done.graph⟩ ↔ root.text ≠ "" ∧ project.Aimed := by
    rw [Resolution.placed_iff, ← packages, Resolution.places]
    simp only [nodes, List.cons_append, List.forall_mem_cons, List.forall_mem_append]
    constructor
    · rintro ⟨first, found, -⟩
      refine ⟨?_, found⟩
      intro empty
      rw [root.locate_empty _ empty] at first
      cases first
    · rintro ⟨filled, found⟩
      exact ⟨root.isAbsolute_locate _ absolute filled, found, rooted, found⟩
  refine ⟨placed, ?_⟩
  intro settings same filled given
  refine placed.mpr ⟨filled, ?_⟩
  intro entry _ path found
  exact settings.filled_overrides given entry.name path (same ▸ found)

theorem places_absolute_iff_diamond :
    Diamond.resolver.current.isAbsolute = true ∧
      Diamond.resolver.resolve Diamond.app ⟨"/app"⟩ Diamond.aliases =
        .ok ⟨Diamond.place "app", Diamond.app, Diamond.progress.packages,
          Diamond.progress.addresses, Diamond.progress.graph⟩ ∧
      Resolution.Placed ⟨Diamond.place "app", Diamond.app, Diamond.progress.packages,
        Diamond.progress.addresses, Diamond.progress.graph⟩ := by
  refine ⟨rfl, Diamond.resolve_eq, ?_⟩
  refine (places_absolute_iff Diamond.resolver Diamond.app ⟨"/app"⟩ Diamond.aliases _ rfl
    Diamond.resolve_eq).1.mpr ⟨by decide, ?_⟩
  intro entry _
  exact Aliases.filled_ofList [("Right", ⟨"right"⟩)] (by decide) entry.name

namespace Pathless

def text : String := "[package]\nname = \"app\"\nversion = \"1\"\n[dependencies.lib]"

def bytes : Bytes := Text.encodeUtf8 text

def memory : Memory :=
  ((Memory.empty.addFile ⟨"Move.toml"⟩ Leaf.bytes).addFile ⟨"/Move.toml"⟩ Leaf.bytes).addFile
    ⟨"/app/Move.toml"⟩ bytes

def settings : BuildSettings := { BuildSettings.default with aliases := [⟨"lib", ⟨""⟩⟩] }

def resolver : Resolver := ⟨memory.storage, .root, []⟩

def place : Location := Diamond.place "app"

def app : Manifest := Diamond.manifest "app" [] [("lib", .unspecified)] []

def progress : Progress where
  completed := [.here]
  packages := [.here]
  addresses := .empty
  graph := ⟨[⟨"app", place⟩, ⟨"leaf", .here⟩], [⟨0, 1, ⟨"lib", .regular, true⟩⟩]⟩

theorem parse_text : (Manifest.parse text).map Manifest.raw = .ok app := by decide +kernel

theorem explore_eq : resolver.explore app place settings.overrides = .ok progress := by
  have ofApp : app.entries = [⟨"lib", .unspecified, .regular⟩] := by decide
  rw [Resolver.explore, ofApp,
    resolver.walk_leaf _ _ _ _ _ ⟨.here, true⟩ (by decide) (by decide) (by decide)
      (Memory.read_add_of_read _ _ _ _ _ (by decide) (Memory.read_add_of_read _ _ _ _ _ (by decide)
        (Memory.read_addFile _ _ _ _ (by decide)))),
    resolver.walk_nil]
  exact congrArg Except.ok (by decide)

theorem resolve_eq :
    settings.resolve (fun _ => memory.storage) (fun _ => .root) ⟨"/app"⟩
        (none : Option (Fetcher Unit)) () =
      (.ok ⟨place, app, progress.packages, progress.addresses, progress.graph⟩, ()) :=
  settings.resolve_stored memory ⟨"/app"⟩ place text app progress Diamond.locate_app (by decide)
    (Memory.read_addFile _ _ _ _ (by decide)) parse_text explore_eq

end Pathless

theorem empty_alias_relative :
    BuildSettings.ofJson? Pathless.settings.json = some Pathless.settings ∧
      ∃ resolution,
        Pathless.settings.resolve (fun _ => Pathless.memory.storage) (fun _ => .root) ⟨"/app"⟩
            (none : Option (Fetcher Unit)) () = (.ok resolution, ()) ∧
          ∃ package ∈ resolution.packages, package.path.isAbsolute = false :=
  ⟨by decide, _, Pathless.resolve_eq, .here, by decide, by decide⟩

end PackageClosure
