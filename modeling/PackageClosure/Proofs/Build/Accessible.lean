import PackageClosure.CommandLine.Run
import PackageClosure.Proofs.Build.Overlap
import PackageClosure.Proofs.Compiler.Leftovers
import PackageClosure.Proofs.Disk.Spelled
import PackageClosure.Proofs.Path.Components
import PackageClosure.Proofs.Verdict

set_option autoImplicit false

namespace PackageClosure

theorem BuildSettings.place_of_source (settings : BuildSettings) (storage : Storage)
    (resolution : Resolution) (file : Path)
    (member : file ∈ (settings.request storage resolution).sources)
    (absolute : file.isAbsolute = true) :
    ∃ location : Location, location.isAbsolute = true ∧ file = location.path := by
  simp only [request, BuildRequest.gather, List.mem_flatMap, List.mem_map] at member
  obtain ⟨_, ⟨package, _, rfl⟩, found⟩ := member
  rw [Storage.sources, Sources.mem_filterMap_file?] at found
  obtain ⟨names, rfl⟩ := Sources.exists_names_of_search storage package.path (.file file) found
  rw [Path.isAbsolute_foldl_child _ _ package.text_path_ne_empty] at absolute
  have isRooted := package.isAbsolute_of_path absolute
  exact ⟨package.descend names, isRooted,
    package.foldl_child_path names (Location.ne_here_of_isAbsolute package isRooted)⟩

def Path.EndsIn (file : Path) (directory : Location) : Prop :=
  directory.isAbsolute = true ∧ directory.names <+: (Location.root.join file).names

instance (file : Path) (directory : Location) : Decidable (file.EndsIn directory) := by
  unfold Path.EndsIn
  infer_instance

def Path.isWithin (directories : List Location) (file : Path) : Bool :=
  file.isAbsolute && directories.any fun directory => decide (file.EndsIn directory)

def openDirectories (current package : Location) (preopens : List Path) : List Location :=
  package :: if preopens.isEmpty then package.parent?.toList else preopens.map (·.locate current)

theorem Location.isAbsolute_of_parent? (location above : Location)
    (absolute : location.isAbsolute = true) (parent : location.parent? = some above) :
    above.isAbsolute = true :=
  location.isAbsolute_of_mem_ancestors above absolute
    (by rw [location.ancestors_of_parent? above parent]; exact List.mem_cons_self)

theorem Path.startsWith_eq (file : Path) (directory : Location)
    (rooted : directory.isAbsolute = true)
    (placed : file.isAbsolute = true →
      ∃ location : Location, location.isAbsolute = true ∧ file = location.path) :
    file.startsWith directory.path = (file.isAbsolute && decide (file.EndsIn directory)) := by
  by_cases absolute : file.isAbsolute = true
  · obtain ⟨location, isRooted, rfl⟩ := placed absolute
    rw [absolute, Bool.true_and, Bool.eq_iff_iff, decide_eq_true_iff,
      directory.startsWith_path_iff location rooted isRooted, EndsIn,
      Location.root.join_path location isRooted]
    exact ⟨fun below => ⟨rooted, below⟩, fun ends => ends.2⟩
  · rw [Bool.eq_false_iff.mpr absolute, Bool.false_and, Bool.eq_false_iff]
    intro begins
    rw [startsWith, Location.steps_path _ (directory.ne_here_of_isAbsolute rooted),
      directory.steps_of_isAbsolute rooted, List.isPrefixOf_iff_prefix] at begins
    obtain ⟨rest, steps⟩ := begins
    exact absolute (file.isAbsolute_of_head? (by rw [← steps]; rfl))

theorem Path.absolute_eq_ok (path absolute : Path) (current : Location)
    (ok : path.absolute current = .ok absolute) :
    absolute = (path.locate current).path ∧ (path.locate current).isAbsolute = true := by
  unfold Path.absolute at ok
  split at ok
  · cases ok
  · rename_i filled
    split at ok
    · rename_i rooted
      refine ⟨(Except.ok.inj ok).symm, ?_⟩
      by_cases here : current.isAbsolute = true
      · exact path.isAbsolute_locate current here filled
      · have absolute : path.isAbsolute = true := by simpa [here] using rooted
        rw [locate, if_neg filled, current.join_of_isAbsolute .root path absolute]
        exact Location.root.isAbsolute_join path rfl
    · cases ok

theorem Path.mapM_absolute_eq_ok (paths opened : List Path) (current : Location)
    (ok : paths.mapM (·.absolute current) = .ok opened) :
    opened = (paths.map (·.locate current)).map Location.path ∧
      ∀ directory ∈ paths.map (·.locate current), directory.isAbsolute = true := by
  induction paths generalizing opened with
  | nil =>
      cases ok
      exact ⟨rfl, fun directory none => (List.not_mem_nil none).elim⟩
  | cons path rest ih =>
      rw [List.mapM_cons, bind_eq_ok_iff] at ok
      obtain ⟨absolute, first, ok⟩ := ok
      rw [bind_eq_ok_iff] at ok
      obtain ⟨more, others, same⟩ := ok
      obtain ⟨rfl, rooted⟩ := path.absolute_eq_ok absolute current first
      obtain ⟨rfl, below⟩ := ih more others
      cases same
      refine ⟨rfl, fun directory member => ?_⟩
      rcases List.mem_cons.mp member with rfl | member
      · exact rooted
      · exact below directory member

theorem Invocation.accessOf_eq_ok (current package : Location) (preopens : List Path)
    (access : Access) (rooted : package.isAbsolute = true)
    (ok : accessOf current package.path preopens = .ok access) :
    access.package :: access.preopens =
        (openDirectories current package preopens).map Location.path ∧
      ∀ directory ∈ openDirectories current package preopens, directory.isAbsolute = true := by
  unfold accessOf at ok
  unfold openDirectories
  split at ok
  · rename_i alone
    obtain rfl := Except.ok.inj ok
    rw [if_pos alone, Access.around, package.parent?_path rooted]
    cases parent : package.parent? with
    | none => exact ⟨rfl, fun directory member => List.mem_singleton.mp member ▸ rooted⟩
    | some above =>
        refine ⟨rfl, fun directory member => ?_⟩
        rcases List.mem_cons.mp member with rfl | member
        · exact rooted
        · rw [List.mem_singleton.mp member]
          exact package.isAbsolute_of_parent? above rooted parent
  · rename_i named
    rw [if_neg named]
    split at ok
    · cases ok
    · rename_i opened made
      obtain rfl := Except.ok.inj ok
      obtain ⟨rfl, others⟩ := Path.mapM_absolute_eq_ok preopens opened current made
      refine ⟨rfl, fun directory member => ?_⟩
      rcases List.mem_cons.mp member with rfl | member
      · exact rooted
      · exact others directory member

theorem Access.allows_eq (access : Access) (directories : List Location) (file : Path)
    (same : access.package :: access.preopens = directories.map Location.path)
    (rooted : ∀ directory ∈ directories, directory.isAbsolute = true)
    (placed : file.isAbsolute = true →
      ∃ location : Location, location.isAbsolute = true ∧ file = location.path) :
    access.allows file = file.isWithin directories := by
  have all : access.allows file = (access.package :: access.preopens).any file.startsWith := rfl
  rw [all, same, List.any_map, Path.isWithin]
  clear all same
  induction directories with
  | nil => simp
  | cons directory rest ih =>
      rw [List.any_cons, List.any_cons,
        ih (fun one member => rooted one (List.mem_cons_of_mem directory member)),
        Function.comp_apply,
        file.startsWith_eq directory (rooted directory List.mem_cons_self) placed,
        Bool.and_or_distrib_left]

theorem Storage.isAbsolute_findRoot (storage : Storage) (current : Location) (start : Location)
    (root : Location) (rooted : start.isAbsolute = true)
    (found : storage.findRoot current start.path = .ok root) : root.isAbsolute = true := by
  unfold findRoot at found
  dsimp only at found
  rw [current.locate_path start rooted] at found
  split at found
  · rename_i first isFirst
    obtain rfl := Except.ok.inj found
    rcases List.mem_cons.mp (List.mem_of_find?_eq_some isFirst) with rfl | above
    · exact rooted
    · exact start.isAbsolute_of_mem_ancestors first rooted above
  · cases found

theorem Resolver.root_of_resolve (resolver : Resolver) (manifest : Manifest) (root : Path)
    (aliases : Aliases) (resolution : Resolution)
    (resolved : resolver.resolve manifest root aliases = .ok resolution) :
    resolution.root = root.locate resolver.current := by
  rw [resolver.resolve_eq_map] at resolved
  cases explored : resolver.explore manifest (root.orDot.locate resolver.current) aliases with
  | error error =>
      rw [explored] at resolved
      cases resolved
  | ok done =>
      rw [explored] at resolved
      cases resolved
      rfl

theorem BuildSettings.root_of_resolve {World : Type} (settings : BuildSettings)
    (storageOf : World → Storage) (current : World → Location) (path : Path)
    (fetcher? : Option (Fetcher World)) (world after : World) (resolution : Resolution)
    (resolved : settings.resolve storageOf current path fetcher? world = (.ok resolution, after)) :
    ∃ root, (storageOf world).findRoot (current world) path = .ok root ∧
      resolution.root = root.path.locate (current after) := by
  unfold resolve at resolved
  dsimp only at resolved
  cases found : (storageOf world).findRoot (current world) path with
  | error error =>
      rw [found] at resolved
      cases resolved
  | ok root =>
      refine ⟨root, rfl, ?_⟩
      cases loaded : (storageOf world).manifestAt root.path with
      | error cause =>
          simp only [found, loaded, bind, Except.bind, Except.mapError] at resolved
          cases resolved
      | ok manifest =>
          simp only [found, loaded, bind, Except.bind, Except.mapError, pure, Except.pure]
            at resolved
          split at resolved
          · cases resolved
          · obtain ⟨gathered, rfl⟩ := Prod.mk.inj resolved
            exact Resolver.root_of_resolve _ manifest root.path _ resolution gathered

theorem Invocation.isAbsolute_root (invocation : Invocation) (fetcher : Fetcher Disk)
    (surroundings : Surroundings) (before after : Disk) (resolution : Resolution)
    (resolved : invocation.resolve fetcher surroundings before = (.ok resolution, after)) :
    resolution.root.isAbsolute = true := by
  unfold resolve at resolved
  split at resolved
  · cases resolved
  · rename_i package made
    obtain ⟨rfl, rooted⟩ := invocation.package.absolute_eq_ok package _ made
    rcases run : invocation.settings.resolve (fun disk => disk.storage surroundings.current)
      surroundings.location (invocation.package.locate (surroundings.location before)).path
      (some fetcher) before with ⟨error | done, end_⟩
    · rw [run] at resolved
      cases resolved
    · rw [run] at resolved
      cases resolved
      obtain ⟨root, found, same⟩ := invocation.settings.root_of_resolve _ _ _ _ _ _ _ run
      have isRooted := Storage.isAbsolute_findRoot _ _ _ root rooted found
      rw [same, Location.locate_path _ root isRooted]
      exact isRooted

theorem Invocation.check_eq (invocation : Invocation) (fetcher : Fetcher Disk)
    (surroundings : Surroundings) (preopens : List Path) (before after : Disk)
    (resolution : Resolution) (access : Access)
    (resolved : invocation.resolve fetcher surroundings before = (.ok resolution, after))
    (allowed : accessOf (surroundings.location after) resolution.root.path preopens = .ok access) :
    let request := invocation.requestOf surroundings resolution after
    let directories :=
      openDirectories (surroundings.location after) resolution.root preopens
    access.check request.sources =
      match request.sources.filter fun file => !file.isWithin directories with
      | [] => .ok ()
      | first :: rest => .error ⟨rest.length + 1, first⟩ := by
  intro request directories
  obtain ⟨same, rooted⟩ := accessOf_eq_ok _ resolution.root preopens access
    (invocation.isAbsolute_root fetcher surroundings before after resolution resolved) allowed
  have filtered : (request.sources.filter fun file => !access.allows file) =
      request.sources.filter fun file => !file.isWithin directories := by
    refine List.filter_congr fun file member => ?_
    rw [access.allows_eq directories file same rooted fun absolute =>
      invocation.settings.place_of_source _ resolution file member absolute]
  cases outside : request.sources.filter fun file => !file.isWithin directories with
  | nil => rw [Access.check, filtered, outside]
  | cons first rest => rw [Access.check, filtered, outside]

-- What a compiler would do makes no difference unless every source is in a directory that is open
-- to it. A relative path is in none: the compiler would take it from another directory.
theorem started_within (invocation : Invocation) (tools : Tools) (surroundings : Surroundings)
    (compiler : Path) (preopens : List Path) (before after : Disk) (resolution : Resolution)
    (access : Access)
    (resolved : invocation.resolve tools.fetcher surroundings before = (.ok resolution, after))
    (allowed : Invocation.accessOf (surroundings.location after) resolution.root.path preopens =
      .ok access) :
    let request := invocation.requestOf surroundings resolution after
    let directories :=
      openDirectories (surroundings.location after) resolution.root preopens
    let build (executable : Path) (backend : Compiler.Backend) :=
      (Compiler.build surroundings.current executable backend access request).run after
    (∀ executable backend other, build executable backend ≠ build executable other →
      ∀ file ∈ request.sources, file.isWithin directories = true) ∧
    ((∀ file ∈ request.sources, file.isWithin directories = true) →
      access.check request.sources = .ok ()) ∧
    ∀ first rest,
      (request.sources.filter fun file => !file.isWithin directories) = first :: rest →
        let refusal := AccessError.mk (rest.length + 1) first
        access.check request.sources = .error refusal ∧
          (∀ executable backend,
            build executable backend = (.error (.inaccessible refusal), after)) ∧
          invocation.runBuild tools surroundings compiler preopens before =
            .failure (.compiler (.inaccessible refusal)) after := by
  intro request directories build
  have check := invocation.check_eq tools.fetcher surroundings preopens before after resolution
    access resolved allowed
  have refused (first : Path) (rest : List Path)
      (outside : (request.sources.filter fun file => !file.isWithin directories) = first :: rest) :
      access.check request.sources = .error ⟨rest.length + 1, first⟩ := by
    rw [check, outside]
  have unbuilt (first : Path) (rest : List Path)
      (outside : (request.sources.filter fun file => !file.isWithin directories) = first :: rest)
      (executable : Path) (backend : Compiler.Backend) :
      build executable backend = (.error (.inaccessible ⟨rest.length + 1, first⟩), after) := by
    dsimp only [build]
    rw [Compiler.run_build, refused first rest outside]
  refine ⟨?_, ?_, ?_⟩
  · intro executable backend other differ
    cases outside : request.sources.filter fun file => !file.isWithin directories with
    | nil =>
        intro file member
        have none := List.filter_eq_nil_iff.mp outside file member
        simpa using none
    | cons first rest =>
        rw [unbuilt first rest outside, unbuilt first rest outside] at differ
        exact absurd rfl differ
  · intro within
    have none : (request.sources.filter fun file => !file.isWithin directories) = [] :=
      List.filter_eq_nil_iff.mpr fun file member => by simp [within file member]
    rw [check, none]
  · intro first rest outside
    refine ⟨refused first rest outside, unbuilt first rest outside, ?_⟩
    rw [Invocation.runBuild, resolved]
    dsimp only
    rw [allowed]
    dsimp only
    have refusal := unbuilt first rest outside
    dsimp only [build, request] at refusal
    rw [refusal]

-- A package is built while the fetcher removes the current directory, from which the fetched package
-- is taken. What is above that directory can still be read, but it has no absolute path.
namespace Severed

def gone : Name := ⟨"gone", by decide⟩

def source : Name := ⟨"a.move", by decide⟩

def text : String := "[package]\nname = \"app\"\nversion = \"1\"\n[dependencies.lib]\ngit = \"u\""

def fileOf (bytes : Bytes) : Disk.File := ⟨bytes, Disk.fileMode, 0, 0⟩

def manifest : Disk.File := fileOf (Text.encodeUtf8 text)

def files : Disk :=
  ((Disk.empty 0).put [manifestFile] (.file manifest)).put [source] (.file (fileOf []))

def before : Disk := files.put [gone] (.directory Disk.directoryMode)

def disk : Disk := files.remember [gone] (Disk.grave [gone])

def tools : Tools := ⟨fun _ _ => (.ok ⟨".."⟩, disk), fun _ _ _ disk => .ok (disk, .exited 0)⟩

def current : Held := ⟨[gone], 0⟩

def surroundings : Surroundings := ⟨current, []⟩

def settings : BuildSettings := .default

def invocation : Invocation := ⟨⟨"/"⟩, false, false, settings, .build ⟨"c"⟩ []⟩

def app : Manifest := Diamond.manifest "app" [] [("lib", .git "u" none)] []

def aliases : Aliases := .ofList [("lib", ⟨".."⟩)]

def above : Location := ⟨.above 1, []⟩

def resolver : Resolver := ⟨disk.storage current, .here, []⟩

def progress : Progress where
  completed := [above]
  packages := [above]
  addresses := .empty
  graph := ⟨[⟨"app", .root⟩, ⟨"app", above⟩], [⟨0, 1, ⟨"lib", .regular, true⟩⟩]⟩

def resolution : Resolution :=
  ⟨.root, app, progress.packages, progress.addresses, progress.graph⟩

theorem entries_app : app.entries = [⟨"lib", .git "u" none, .regular⟩] := by decide

theorem whereIs_current : disk.whereIs current = [gone.buried] := by decide

theorem location_eq : surroundings.location disk = .here := by
  have lost : disk.placeOf? surroundings.current = none := by decide
  rw [Surroundings.location, lost]

theorem node?_manifest : files.node? [manifestFile] = some (.file manifest) := by
  rw [files, Disk.node?_put, if_neg (by decide), Disk.node?_put, if_pos rfl]

theorem node?_source : disk.node? [source] = some (.file (fileOf [])) := by
  change files.node? _ = _
  rw [files, Disk.node?_put, if_pos rfl]

theorem stat_root (disk : Disk) (there : disk.node? [manifestFile] = some (.file manifest)) :
    disk.stat current (Location.root.path.child manifestFile) = .ok (.file manifest) :=
  disk.stat_file current _ [.root] manifestFile [] _ (by decide) (by decide) (by decide)
    (disk.leads_root _ _) there

theorem stat_above (name : Name) (file : Disk.File)
    (accepted : Disk.refusal? (above.path.child name) = none)
    (spelled : (above.path.child name).lookupSteps = [.parent, .name name])
    (short : ¬ Disk.nameLimit < Text.rawLength name.text.toList)
    (there : disk.node? [name] = some (.file file)) :
    disk.stat current (above.path.child name) = .ok (.file file) := by
  refine disk.stat_file current _ [.parent] name [] file accepted spelled short ?_ there
  rw [whereIs_current]
  exact disk.leads_parent _ _

theorem stat_manifest : disk.stat current (above.path.child manifestFile) = .ok (.file manifest) :=
  stat_above manifestFile _ (by decide) (by decide) (by decide) node?_manifest

theorem stat_source :
    disk.stat current (above.path.child source) = .ok (.file (fileOf [])) :=
  stat_above source _ (by decide) (by decide) (by decide) node?_source

theorem stat_before :
    before.stat current (Location.root.path.child manifestFile) = .ok (.file manifest) := by
  refine stat_root before ?_
  rw [before, Disk.node?_put, if_neg (by decide), node?_manifest]

theorem manifestAt_of_stat (disk : Disk) (package : Path)
    (there : disk.stat current (package.child manifestFile) = .ok (.file manifest)) :
    (disk.storage current).manifestAt package = .ok app := by
  refine Storage.manifestAt_of_text _ package text app ?_ (by decide +kernel)
  change disk.read current _ = _
  rw [Disk.read, there]
  rfl

theorem list_above : (disk.storage current).list above.path =
    .ok [⟨manifestFile, .file⟩, ⟨source, .file⟩] := by
  have steps : above.path.lookupSteps = [.parent] := by decide
  have find : disk.find current true above.path =
      .ok ⟨[], some (.directory Disk.directoryMode)⟩ := by
    rw [disk.find_of_refusal?_none current true _ (by decide), whereIs_current, steps,
      Disk.walk, Disk.walk]
    decide
  have names : disk.namesIn [] = [manifestFile, source] := by decide
  have shown : manifestFile.shown = manifestFile ∧ source.shown = source := by decide
  change disk.list current above.path = _
  rw [disk.list_of_find _ _ _ _ find, names, List.map_cons, List.map_singleton, Disk.kindOf,
    Disk.kindOf, stat_manifest, stat_source, shown.1, shown.2]

theorem search_above : Sources.search (disk.storage current) above.path =
    [.file (above.path.child source)] := by
  have ordered : Sources.inOrder [⟨manifestFile, .file⟩, ⟨source, .file⟩] =
      [⟨manifestFile, .file⟩, ⟨source, .file⟩] := List.mergeSort_of_pairwise (by decide)
  rw [Sources.search_of_entries _ _ _ list_above, ordered]
  decide

theorem explore_eq : resolver.explore app .root aliases = .ok progress := by
  have loaded := manifestAt_of_stat disk above.path stat_manifest
  have alone : Entry.target? ⟨"lib", .git "u" none, .regular⟩ .here .empty above = none := by decide
  rw [Resolver.explore, entries_app,
    resolver.walk_visit _ _ _ _ _ ⟨above, true⟩ (by decide) (by decide) (by decide) _ loaded
      (resolver.storage.isOk_manifestAt _ _ loaded) _
      (by rw [entries_app, resolver.walk_skip _ _ _ _ _ alone, resolver.walk_nil]),
    resolver.walk_nil]
  exact congrArg Except.ok (by decide)

theorem findRoot_eq : (before.storage current).findRoot (surroundings.location before)
    Location.root.path = .ok .root := by
  refine Storage.findRoot_of_has _ _ Location.root.path .root (by decide) ?_
  change before.has current _ = true
  rw [Disk.has, stat_before]
  rfl

theorem fetch_eq : app.fetchDependencies tools.fetcher settings.overrides before =
    (.ok aliases, disk) := by
  rw [Manifest.fetchDependencies, entries_app]
  rfl

theorem resolve_eq : invocation.resolve tools.fetcher surroundings before =
    (.ok resolution, disk) := by
  have package : invocation.package.absolute (surroundings.location before) =
      .ok Location.root.path := by decide
  have loaded := manifestAt_of_stat before Location.root.path stat_before
  have run : settings.resolve (fun disk => disk.storage current) surroundings.location
      Location.root.path (some tools.fetcher) before = (.ok resolution, disk) := by
    have fetches : settings.skipFetch = false := rfl
    have root : Location.root.path.locate .here = .root := by decide
    have explored : Resolver.explore ⟨disk.storage current, .here, settings.namedAddresses⟩ app
      .root aliases = .ok progress := explore_eq
    simp only [BuildSettings.resolve, findRoot_eq, loaded, fetches, fetch_eq, location_eq,
      Except.mapError, bind, Except.bind, pure, Except.pure]
    simp only [Resolver.resolve_eq_map, Path.orDot_of_filled _ Location.root.text_path_ne_empty,
      root, explored, Except.map, resolution]
  rw [Invocation.resolve, package]
  exact congrArg (fun ended : Except ResolutionError Resolution × Disk =>
    (ended.1.mapError RunError.resolution, ended.2)) run

theorem sources_eq : (invocation.requestOf surroundings resolution disk).sources =
    [above.path.child source] := by
  change ([above].map fun package : Location =>
    (disk.storage current).sources package.path).flatMap SourceSet.files = _
  rw [List.map_singleton, Storage.sources, search_above]
  rfl

end Severed

theorem started_within_severed :
    let refusal := AccessError.mk 1 (Severed.above.path.child Severed.source)
    Severed.invocation.runBuild Severed.tools Severed.surroundings ⟨"c"⟩ [] Severed.before =
      .failure (.compiler (.inaccessible refusal)) Severed.disk := by
  refine ((started_within Severed.invocation Severed.tools Severed.surroundings ⟨"c"⟩ []
    Severed.before Severed.disk Severed.resolution (.around Location.root.path)
    Severed.resolve_eq rfl).2.2 (Severed.above.path.child Severed.source) [] ?_).2.2
  rw [Severed.sources_eq, Severed.location_eq]
  decide

-- A relative source may end in a directory that is open when it is taken from the root, and is out
-- of reach all the same.
theorem relative_source_refused :
    ¬ ∀ (invocation : Invocation) (tools : Tools) (surroundings : Surroundings)
        (preopens : List Path) (before after : Disk) (resolution : Resolution) (access : Access),
      invocation.resolve tools.fetcher surroundings before = (.ok resolution, after) →
      Invocation.accessOf (surroundings.location after) resolution.root.path preopens =
        .ok access →
      (∀ file ∈ (invocation.requestOf surroundings resolution after).sources,
        ∃ directory ∈ openDirectories (surroundings.location after) resolution.root preopens,
          file.EndsIn directory) →
      access.check (invocation.requestOf surroundings resolution after).sources = .ok () := by
  intro all
  have passes := all Severed.invocation Severed.tools Severed.surroundings [] Severed.before
    Severed.disk Severed.resolution (.around Location.root.path) Severed.resolve_eq rfl
  rw [Severed.sources_eq, Severed.location_eq] at passes
  exact absurd (passes (by decide)) (by decide)

end PackageClosure
