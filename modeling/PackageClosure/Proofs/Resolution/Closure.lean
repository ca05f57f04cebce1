import PackageClosure.Proofs.Resolution.Completion
import PackageClosure.Proofs.Text.Utf8
import PackageClosure.Storage.Memory

set_option autoImplicit false

namespace PackageClosure

open Relation

def Resolver.project (resolver : Resolver) (manifest : Manifest) (root : Path) (aliases : Aliases) :
    Project :=
  ⟨resolver, manifest, root.locate resolver.current, aliases⟩

namespace Project

def explore (project : Project) : Except ResolutionError Progress :=
  project.resolver.explore project.manifest project.root project.aliases

theorem explore_consistent (project : Project) (done : Progress)
    (ok : project.explore = .ok done) :
    project.Consistent (.start project.root) done ∧
      ∀ package, project.DependsOn project.root package → package ∈ done.completed := by
  obtain ⟨consistent, _, covered⟩ := project.walk_consistent (.start project.root) project.aliases
    project.manifest.entries (project.resolver.begin project.manifest project.root) done
    (.start project) (.start project) ok
  refine ⟨consistent, ?_⟩
  intro package depends
  obtain ⟨entry, member, target, found, rfl⟩ :=
    project.target_of_depends_on _ package project.manifest project.manifestOf_root depends
  exact covered entry member target found

theorem mem_packages_iff (project : Project) (done : Progress) (ok : project.explore = .ok done)
    (package : Location) :
    package ∈ done.packages ↔ TransGen project.DependsOn project.root package := by
  obtain ⟨consistent, direct⟩ := project.explore_consistent done ok
  constructor
  · exact consistent.reached package
  · intro depends
    refine (consistent.met package).mpr (.inl ?_)
    rcases TransGen.head'_iff.mp depends with ⟨first, step, further⟩
    rcases reflTransGen_iff_eq_or_transGen.mp further with same | more
    · exact same ▸ direct first step
    · exact (consistent.settled.before first package (direct first step) more).1

theorem mem_completed_of_mem_packages (project : Project) (done : Progress)
    (consistent : project.Consistent (.start project.root) done) (package : Location)
    (member : package ∈ done.packages) : package ∈ done.completed := by
  simpa [Trail.start] using (consistent.met package).mp member

theorem not_mem_packages_root (project : Project) (done : Progress)
    (ok : project.explore = .ok done) : project.root ∉ done.packages :=
  (project.explore_consistent done ok).1.root_not_mem (.single project)

theorem loads_of_explore (project : Project) (done : Progress) (ok : project.explore = .ok done) :
    project.Loads := by
  intro package reached
  obtain ⟨consistent, _⟩ := project.explore_consistent done ok
  rcases reflTransGen_iff_eq_or_transGen.mp reached with same | depends
  · exact ⟨project.manifest, same ▸ project.manifestOf_root⟩
  · have member := (project.mem_packages_iff done ok package).mpr depends
    exact consistent.settled.loads package
      (project.mem_completed_of_mem_packages done consistent package member)

theorem acyclic_of_explore (project : Project) (done : Progress)
    (ok : project.explore = .ok done) : project.Acyclic := by
  intro package reached cycle
  obtain ⟨consistent, _⟩ := project.explore_consistent done ok
  have depends : TransGen project.DependsOn project.root package := by
    rcases reflTransGen_iff_eq_or_transGen.mp reached with same | further
    · rw [same] at cycle
      exact same ▸ cycle
    · exact further
  have member := (project.mem_packages_iff done ok package).mpr depends
  exact consistent.settled.acyclic package
    (project.mem_completed_of_mem_packages done consistent package member) cycle

theorem not_justifies (project : Project) (loads : project.Loads) (acyclic : project.Acyclic)
    (error : ResolutionError) : ¬ project.Justifies error := by
  intro justified
  cases justified with
  | cycle above package line linked member =>
      exact acyclic package (line.reaches package member)
        (project.cycle_of_chain above package linked member)
  | unreadable above package cause line loaded failed =>
      obtain ⟨manifest, found⟩ := loads package (line.reaches package (by simp))
      rw [failed] at found
      cases found

theorem explore_ok_iff (project : Project) :
    (∃ done, project.explore = .ok done) ↔ project.Loads ∧ project.Acyclic := by
  constructor
  · rintro ⟨done, ok⟩
    exact ⟨project.loads_of_explore done ok, project.acyclic_of_explore done ok⟩
  · rintro ⟨loads, acyclic⟩
    cases outcome : project.explore with
    | ok done => exact ⟨done, rfl⟩
    | error error =>
        have justified := project.walk_error_justified _ _ _ _ error (.start project) outcome
        exact absurd justified (project.not_justifies loads acyclic error)

end Project

theorem Resolver.resolve_eq_map (resolver : Resolver) (manifest : Manifest) (root : Path)
    (aliases : Aliases) :
    resolver.resolve manifest root aliases =
      (resolver.explore manifest (root.orDot.locate resolver.current) aliases).map fun done =>
        ⟨root.locate resolver.current, manifest, done.packages, done.addresses, done.graph⟩ := rfl

theorem Resolver.resolve_eq_ok_iff (resolver : Resolver) (manifest : Manifest) (root : Path)
    (aliases : Aliases) (resolution : Resolution) :
    let project := resolver.project manifest root.orDot aliases
    resolver.resolve manifest root aliases = .ok resolution ↔
      ∃ done, project.explore = .ok done ∧
        resolution = ⟨root.locate resolver.current, manifest, done.packages, done.addresses,
          done.graph⟩ := by
  intro project
  have same := resolver.resolve_eq_map manifest root aliases
  change resolver.resolve manifest root aliases = project.explore.map _ at same
  rw [same]
  cases project.explore with
  | ok done => simp [Except.map, eq_comm]
  | error error => simp [Except.map]

theorem packages_exact (resolver : Resolver) (manifest : Manifest) (root : Path)
    (aliases : Aliases) :
    let project := resolver.project manifest root aliases
    ((∃ found, resolver.packages manifest root aliases = .ok found) ↔
        project.Loads ∧ project.Acyclic) ∧
      ∀ found, resolver.packages manifest root aliases = .ok found →
        found.Nodup ∧ project.root ∉ found ∧
          ∀ package, package ∈ found ↔ TransGen project.DependsOn project.root package := by
  intro project
  have same : resolver.packages manifest root aliases = project.explore.map Progress.packages := rfl
  rw [same]
  constructor
  · rw [← project.explore_ok_iff]
    cases project.explore with
    | ok done => exact ⟨fun _ => ⟨done, rfl⟩, fun _ => ⟨done.packages, rfl⟩⟩
    | error error => simp [Except.map]
  · intro found ok
    cases outcome : project.explore with
    | error error =>
        rw [outcome] at ok
        cases ok
    | ok done =>
        rw [outcome] at ok
        cases ok
        exact ⟨(project.explore_consistent done outcome).1.distinct,
          project.not_mem_packages_root done outcome, project.mem_packages_iff done outcome⟩

-- Two packages that depend on a third one and disagree on an address. The
-- root names one of them by an alias and the third one for development.
namespace Diamond

def text (name : String) (lines : List String) : Bytes :=
  let package := ["[package]", "name = \"" ++ name ++ "\"", "version = \"1\""]
  Text.encodeUtf8 ("\n".intercalate (package ++ lines))

def memory : Memory :=
  let base := ["[dependencies.Base]", "local = \"../base\""]
  let left := text "Left" (["[addresses]", "std = \"0x1\""] ++ base)
  let right := text "Right" (["[addresses]", "std = \"0x2\""] ++ base)
  ((Memory.empty.addFile ⟨"/left/Move.toml"⟩ left).addFile ⟨"/right/Move.toml"⟩ right).addFile
    ⟨"/base/Move.toml"⟩ (text "Base" ["[addresses]", "base = \"0x3\""])

def resolver : Resolver := ⟨memory.storage, .root, [⟨"extra", "0x9"⟩]⟩

def aliases : Aliases := .ofList [("Right", ⟨"right"⟩)]

def place (name : String) : Location := (⟨"/" ++ name⟩ : Path).location

def manifest (name : String) (addresses : List (String × String))
    (dependencies devDependencies : List (String × Dependency)) : Manifest :=
  ⟨⟨name, "1", [], none⟩, .ofList addresses, .ofList dependencies, .ofList devDependencies⟩

def app : Manifest :=
  manifest "App" [("app", "0x0")] [("Left", .path ⟨"../left"⟩), ("Right", .unspecified)]
    [("Base", .path ⟨"../base"⟩)]

def left : Manifest := manifest "Left" [("std", "0x1")] [("Base", .path ⟨"../base"⟩)] []

def right : Manifest := manifest "Right" [("std", "0x2")] [("Base", .path ⟨"../base"⟩)] []

def base : Manifest := manifest "Base" [("base", "0x3")] [] []

def bindings : OrderedMap Binding :=
  .ofList [("extra", ⟨"0x9", "<command line>"⟩), ("app", ⟨"0x0", "App"⟩),
    ("std", ⟨"0x1", "Left"⟩), ("base", ⟨"0x3", "Base"⟩)]

def nodes : List Node :=
  [⟨"App", place "app"⟩, ⟨"Left", place "left"⟩, ⟨"Base", place "base"⟩, ⟨"Right", place "right"⟩]

def links : List Link :=
  [⟨0, 1, ⟨"Left", .regular, false⟩⟩, ⟨1, 2, ⟨"Base", .regular, false⟩⟩,
    ⟨0, 3, ⟨"Right", .regular, true⟩⟩, ⟨3, 2, ⟨"Base", .regular, false⟩⟩,
    ⟨0, 2, ⟨"Base", .dev, false⟩⟩]

def progress : Progress where
  completed := [place "base", place "left", place "right"]
  packages := [place "left", place "base", place "right"]
  addresses := ⟨bindings, [⟨"std", "0x1", "0x2", "Right"⟩]⟩
  graph := ⟨nodes, links⟩

theorem manifestAt_eq (location : Location) (manifest : Manifest)
    (same : (resolver.storage.manifestAt location.path).toOption = some manifest) :
    resolver.storage.manifestAt location.path = .ok manifest := by
  cases stored : resolver.storage.manifestAt location.path with
  | ok found =>
      rw [stored] at same
      exact congrArg Except.ok (Option.some.inj same)
  | error cause =>
      rw [stored] at same
      cases same

theorem manifestAt_left : resolver.storage.manifestAt (place "left").path = .ok left :=
  manifestAt_eq _ _ (by decide +kernel)

theorem manifestAt_right : resolver.storage.manifestAt (place "right").path = .ok right :=
  manifestAt_eq _ _ (by decide +kernel)

theorem manifestAt_base : resolver.storage.manifestAt (place "base").path = .ok base :=
  manifestAt_eq _ _ (by decide +kernel)

theorem explore_eq : resolver.explore app (place "app") aliases = .ok progress := by
  have ofApp : app.entries = [⟨"Left", .path ⟨"../left"⟩, .regular⟩,
      ⟨"Right", .unspecified, .regular⟩, ⟨"Base", .path ⟨"../base"⟩, .dev⟩] := by decide
  have ofLeft : left.entries = [⟨"Base", .path ⟨"../base"⟩, .regular⟩] := by decide
  have ofRight : right.entries = [⟨"Base", .path ⟨"../base"⟩, .regular⟩] := by decide
  have ofBase : base.entries = [] := by decide
  rw [Resolver.explore, ofApp]
  rw [Resolver.walk_visit resolver _ _ _ _ _ ⟨place "left", false⟩ (by decide)
    (by decide) (by decide) left manifestAt_left
    (resolver.storage.isOk_manifestAt _ left manifestAt_left)]
  case inner =>
      rw [ofLeft, Resolver.walk_visit resolver _ _ _ _ _ ⟨place "base", false⟩ (by decide)
        (by decide) (by decide) base manifestAt_base
        (resolver.storage.isOk_manifestAt _ base manifestAt_base)]
      case inner => rw [ofBase, Resolver.walk_nil]
      rw [Resolver.walk_nil]
  rw [Resolver.walk_visit resolver _ _ _ _ _ ⟨place "right", true⟩ (by decide)
    (by decide) (by decide) right manifestAt_right
    (resolver.storage.isOk_manifestAt _ right manifestAt_right)]
  case inner =>
      rw [ofRight, Resolver.walk_again resolver _ _ _ _ _ ⟨place "base", false⟩ (by decide)
        (by decide) (by decide), Resolver.walk_nil]
  rw [Resolver.walk_again resolver _ _ _ _ _ ⟨place "base", false⟩ (by decide)
    (by decide) (by decide), Resolver.walk_nil]
  exact congrArg Except.ok (by decide)

theorem locate_app : (⟨"/app"⟩ : Path).locate .root = place "app" := by decide

theorem resolve_eq : resolver.resolve app ⟨"/app"⟩ aliases =
    .ok ⟨place "app", app, progress.packages, progress.addresses, progress.graph⟩ := by
  rw [Resolver.resolve_eq_map, Path.orDot_of_filled _ (by decide)]
  change (resolver.explore app ((⟨"/app"⟩ : Path).locate .root) aliases).map (fun done : Progress =>
    Resolution.mk ((⟨"/app"⟩ : Path).locate .root) app done.packages done.addresses done.graph) = _
  rw [locate_app, explore_eq]
  rfl

theorem packages_eq : resolver.packages app ⟨"/app"⟩ aliases = .ok progress.packages := by
  rw [Resolver.packages]
  change (resolver.explore app ((⟨"/app"⟩ : Path).locate .root) aliases).map _ = _
  rw [locate_app, explore_eq]
  rfl

end Diamond

theorem packages_exact_diamond :
    let project := Diamond.resolver.project Diamond.app ⟨"/app"⟩ Diamond.aliases
    (project.Loads ∧ project.Acyclic) ∧
      Diamond.progress.packages.Nodup ∧ project.root ∉ Diamond.progress.packages ∧
        ∀ package, package ∈ Diamond.progress.packages ↔
          TransGen project.DependsOn project.root package := by
  have exact := packages_exact Diamond.resolver Diamond.app ⟨"/app"⟩ Diamond.aliases
  exact ⟨exact.1.mp ⟨_, Diamond.packages_eq⟩, exact.2 _ Diamond.packages_eq⟩

theorem Storage.manifestAt_of_text (storage : Storage) (package : Path) (text : String)
    (manifest : Manifest)
    (read : storage.read (package.child manifestFile) = .ok (Text.encodeUtf8 text))
    (parsed : (Manifest.parse text).map Manifest.raw = .ok manifest) :
    storage.manifestAt package = .ok manifest := by
  have stored : storage.readText (package.child manifestFile) = .ok text := by
    rw [readText, read]
    exact congrArg (Except.mapError _) (Text.decodeUtf8_encodeUtf8 text)
  rw [manifestAt, stored]
  exact congrArg (Except.mapError _) parsed

namespace Leaf

def text : String := "[package]\nname = \"leaf\"\nversion = \"1\""

def bytes : Bytes := Text.encodeUtf8 text

def manifest : Manifest := Diamond.manifest "leaf" [] [] []

theorem manifestAt_eq (storage : Storage) (package : Path)
    (read : storage.read (package.child manifestFile) = .ok bytes) :
    storage.manifestAt package = .ok manifest :=
  storage.manifestAt_of_text package text manifest read (by decide +kernel)

theorem entries_eq : manifest.entries = [] := by decide

end Leaf

theorem Resolver.walk_leaf (resolver : Resolver) (trail : Trail resolver.storage)
    (aliases : Aliases) (entry : Entry) (rest : List Entry) (progress : Progress) (target : Target)
    (found : entry.target? resolver.current aliases trail.innermost = some target)
    (fresh : target.location ∉ trail.packages) (new : target.location ∉ progress.completed)
    (read : resolver.storage.read (target.location.path.child manifestFile) = .ok Leaf.bytes) :
    resolver.walk trail aliases (entry :: rest) progress =
      resolver.walk trail aliases rest
        ((progress.visit trail.innermost entry target Leaf.manifest).complete target.location) := by
  have loaded := Leaf.manifestAt_eq resolver.storage _ read
  rw [resolver.walk_visit trail aliases entry rest progress target found fresh new _ loaded
    (resolver.storage.isOk_manifestAt _ _ loaded)]
  rw [Leaf.entries_eq, resolver.walk_nil]

end PackageClosure
