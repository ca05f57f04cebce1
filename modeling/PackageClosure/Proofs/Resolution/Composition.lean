import PackageClosure.Proofs.Firsts
import PackageClosure.Proofs.Path.Absolute
import PackageClosure.Proofs.Resolution.Addresses
import PackageClosure.Proofs.Resolution.Repetition

set_option autoImplicit false

namespace PackageClosure

namespace Gathered

variable (gathered : Gathered)

def visitAll (visits : List Visit) : Gathered :=
  visits.foldl (fun gathered visit => gathered.visit visit.package visit.manifest) gathered

theorem visitAll_cons (visit : Visit) (visits : List Visit) :
    gathered.visitAll (visit :: visits) =
      (gathered.visit visit.package visit.manifest).visitAll visits := rfl

theorem visitAll_append (visits more : List Visit) :
    gathered.visitAll (visits ++ more) = (gathered.visitAll visits).visitAll more :=
  List.foldl_append

theorem addresses_visitAll (visits : List Visit) :
    (gathered.visitAll visits).addresses =
      gathered.addresses.bindAll (visits.flatMap Visit.declarations) := by
  induction visits generalizing gathered with
  | nil => rfl
  | cons visit rest ih =>
      rw [visitAll_cons, ih, List.flatMap_cons, AddressTable.bindAll_append]
      rfl

theorem packages_visit (package : Location) (manifest : Manifest) (met : List Location)
    (firsts : gathered.packages = met.eraseDups) :
    (gathered.visit package manifest).packages = (met ++ [package]).eraseDups := by
  rw [visit, firsts, List.eraseDups_append]
  by_cases known : package ∈ met
  · simp [known, List.removeAll]
  · simp [known, List.removeAll, List.eraseDups_cons]

theorem packages_visitAll (visits : List Visit) (met : List Location)
    (firsts : gathered.packages = met.eraseDups) :
    (gathered.visitAll visits).packages = (met ++ visits.map Visit.package).eraseDups := by
  induction visits generalizing gathered met with
  | nil => simpa [visitAll] using firsts
  | cons visit rest ih =>
      have next := gathered.packages_visit visit.package visit.manifest met firsts
      rw [visitAll_cons, ih _ _ next, List.append_assoc]
      rfl

end Gathered

structure Tour where
  visit : Visit
  below : List Visit

def Tour.visits (tour : Tour) : List Visit := tour.visit :: tour.below

namespace Resolver

variable (resolver : Resolver)

/-- The tour of a target. It is the same for whatever has been gathered before it and whatever is
named on the command line, and it needs nothing above the target. -/
structure Tours (target : Target) (tour : Tour) : Prop where
  package : tour.visit.package = target.location
  loaded : resolver.storage.manifestAt target.location.path = .ok tour.visit.manifest
  gathers : ∀ named start,
    gather { resolver with named } (.start target.location) .empty tour.visit.manifest.entries
      start = .ok (start.visitAll tour.below)

def targets (aliases : Aliases) (package : Location) (entries : List Entry) : List Target :=
  entries.filterMap fun entry => entry.target? resolver.current aliases package

theorem targets_of_none (aliases : Aliases) (package : Location) (entry : Entry)
    (rest : List Entry) (none : entry.target? resolver.current aliases package = none) :
    resolver.targets aliases package (entry :: rest) = resolver.targets aliases package rest := by
  simp only [targets, List.filterMap_cons, none]

theorem targets_of_some (aliases : Aliases) (package : Location) (entry : Entry)
    (rest : List Entry) (target : Target)
    (found : entry.target? resolver.current aliases package = some target) :
    resolver.targets aliases package (entry :: rest) =
      target :: resolver.targets aliases package rest := by
  simp only [targets, List.filterMap_cons, found]

theorem locate_targets (aliases : Aliases) (package : Location) (entries : List Entry)
    (known : resolver.current.isAbsolute = true ∨ resolver.current = .here)
    (filled : aliases.Filled) (rooted : resolver.current.isAbsolute = true →
      package.isAbsolute = true) :
    ∀ target ∈ resolver.targets aliases package entries,
      target.location.path.locate resolver.current = target.location := by
  intro target member
  obtain ⟨entry, -, found⟩ := List.mem_filterMap.mp member
  rcases known with absolute | missing
  · exact Location.locate_path _ _
      (entry.isAbsolute_target _ aliases package target absolute (filled entry.name)
        (rooted absolute) found)
  · rw [missing]
    exact target.location.locate_path_here

/-- Gathering that succeeds is a tour of each target, and succeeds too where less is above. The
induction is on the calls; what is above matters only for cycles, and there are fewer of them. -/
theorem gather_tours (trail : Trail resolver.storage) (aliases : Aliases) (entries : List Entry)
    (gathered after : Gathered)
    (ok : resolver.gather trail aliases entries gathered = .ok after) :
    ∃ tours : List Tour,
      (resolver.targets aliases trail.innermost entries).Forall₂ resolver.Tours tours ∧
        ∀ (named : List AddressArgument) (other : Trail resolver.storage) (start : Gathered),
          other.innermost = trail.innermost → other.packages ⊆ trail.packages →
            gather { resolver with named } other aliases entries start =
              .ok (start.visitAll (tours.flatMap Tour.visits)) := by
  fun_induction gather resolver trail aliases entries gathered generalizing after
  case case1 =>
      refine ⟨[], .nil, ?_⟩
      intro named other start _ _
      exact gather_nil { resolver with named } other _ start
  case case2 trail aliases gathered entry rest none ih =>
      obtain ⟨tours, tour, everywhere⟩ := ih after ok
      refine ⟨tours, ?_, ?_⟩
      · rw [resolver.targets_of_none aliases _ entry rest none]
        exact tour
      · intro named other start innermost above
        rw [gather_skip { resolver with named } other aliases entry rest start (innermost ▸ none)]
        exact everywhere named other start innermost above
  case case3 => cases ok
  case case4 => cases ok
  case case5 => cases ok
  case case6 trail aliases gathered entry rest target found fresh manifest loaded deeper inner
      isInner ihInner ihRest =>
      obtain ⟨below, _, deep⟩ := ihInner inner isInner
      obtain ⟨tours, tour, everywhere⟩ := ihRest after ok
      have readable := resolver.storage.isOk_manifestAt _ manifest loaded
      have packages := trail.packages_push target.location fresh readable
      refine ⟨⟨⟨target.location, manifest⟩, below.flatMap Tour.visits⟩ :: tours, ?_, ?_⟩
      · rw [resolver.targets_of_some aliases _ entry rest target found]
        refine .cons ⟨rfl, loaded, ?_⟩ tour
        intro named start
        refine deep named (.start target.location) start rfl ?_
        rw [packages]
        exact List.subset_append_right _ _
      · intro named other start innermost above
        have apart : target.location ∉ other.packages := fun inside => fresh (above inside)
        have inside := deep named (other.push target.location apart readable)
          (start.visit target.location manifest) rfl (by
            rw [packages, other.packages_push]
            exact List.append_subset.mpr
              ⟨List.subset_append_of_subset_left _ above, List.subset_append_right _ _⟩)
        rw [gather_visit { resolver with named } other aliases entry rest start target
          (innermost ▸ found) apart manifest loaded readable, inside, List.flatMap_cons,
          Gathered.visitAll_append]
        exact everywhere named other _ innermost above

theorem gathered_visitAll (manifest : Manifest) (root : Location) (visits : List Visit) :
    let start : Gathered := ⟨[], (resolver.begin manifest root).addresses⟩
    (start.visitAll visits).packages = (visits.map Visit.package).eraseDups ∧
      (start.visitAll visits).addresses.Holds
        (resolver.declared manifest [] ++ visits.flatMap Visit.declarations) := by
  intro start
  refine ⟨start.packages_visitAll visits [] rfl, ?_⟩
  rw [start.addresses_visitAll]
  exact AddressTable.holds_bindAll _ _ _ (resolver.holds_begin manifest root)

theorem resolveAt_of_loaded (root : Path) (manifest : Manifest) (aliases : Aliases)
    (loaded : resolver.storage.manifestAt root = .ok manifest) :
    resolver.resolveAt root aliases = resolver.resolve manifest root aliases := by
  rw [resolveAt, load, loaded]
  rfl

theorem resolveAt_of_gatherAll (package : Location) (manifest : Manifest) (gathered : Gathered)
    (place : package.path.locate resolver.current = package)
    (loaded : resolver.storage.manifestAt package.path = .ok manifest)
    (ok : resolver.gatherAll manifest package .empty = .ok gathered) :
    ∃ resolution, resolver.resolveAt package.path .empty = .ok resolution ∧
      resolution.root = package ∧ resolution.packages = gathered.packages ∧
        resolution.addresses.bindings = gathered.addresses.bindings := by
  have same := Project.explore_same_outcome ⟨resolver, manifest, package, .empty⟩
  rw [ok] at same
  obtain ⟨done, explored, agrees⟩ := same.eq_ok_of_gathered
  change resolver.explore manifest package .empty = .ok done at explored
  refine ⟨⟨package, manifest, done.packages, done.addresses, done.graph⟩, ?_, rfl,
    agrees.packages, agrees.addresses.bindings⟩
  rw [resolver.resolveAt_of_loaded _ manifest _ loaded, resolver.resolve_eq_map,
    Path.orDot_of_filled _ package.text_path_ne_empty, place, explored]
  rfl

end Resolver

def AddressTable.declarations (table : AddressTable) : List Declaration :=
  table.bindings.entries.map fun entry => ⟨entry.1, entry.2.address, entry.2.package⟩

theorem AddressTable.Holds.declarations {table : AddressTable} {declarations : List Declaration}
    (holds : table.Holds declarations) :
    table.declarations = Declaration.firsts declarations := by
  rw [AddressTable.declarations, holds.bindings, List.map_map]
  exact List.map_id _

def Resolver.Part (resolver : Resolver) (target : Target) (part : Resolution) : Prop :=
  part.root = target.location ∧
    { resolver with named := [] }.resolveAt target.location.path .empty = .ok part

theorem Resolver.exists_part (resolver : Resolver) (target : Target) (tour : Tour)
    (place : target.location.path.locate resolver.current = target.location)
    (tours : resolver.Tours target tour) :
    ∃ part, resolver.Part target part ∧
      part.packages = (tour.below.map Visit.package).eraseDups ∧
        part.addresses.declarations =
          Declaration.firsts (tour.visits.flatMap Visit.declarations) := by
  let alone : Resolver := { resolver with named := [] }
  let manifest := tour.visit.manifest
  obtain ⟨packages, holds⟩ := alone.gathered_visitAll manifest target.location tour.below
  obtain ⟨part, resolved, root, samePackages, sameBindings⟩ :=
    alone.resolveAt_of_gatherAll target.location manifest _ place tours.loaded
      (tours.gathers [] _)
  refine ⟨part, ⟨root, resolved⟩, samePackages.trans packages, ?_⟩
  have declared : alone.declared manifest [] = tour.visit.declarations :=
    List.append_nil manifest.declarations
  rw [AddressTable.declarations, sameBindings, ← AddressTable.declarations, holds.declarations,
    declared]
  rfl

theorem Resolver.exists_parts (resolver : Resolver) (targets : List Target) (tours : List Tour)
    (places : ∀ target ∈ targets, target.location.path.locate resolver.current = target.location)
    (tour : targets.Forall₂ resolver.Tours tours) :
    ∃ parts, targets.Forall₂ resolver.Part parts ∧
      tours.Forall₂ (fun tour part => firstsBy id (tour.visits.map Visit.package) =
        firstsBy id (part.root :: part.packages)) parts ∧
      tours.Forall₂ (fun tour part =>
        firstsBy Declaration.symbol (tour.visits.flatMap Visit.declarations) =
          firstsBy Declaration.symbol part.addresses.declarations) parts := by
  induction tour with
  | nil => exact ⟨[], .nil, .nil, .nil⟩
  | @cons target tour targets tours first _ ih =>
      obtain ⟨here, others⟩ := List.forall_mem_cons.mp places
      obtain ⟨part, isPart, packages, declarations⟩ := resolver.exists_part target tour here first
      obtain ⟨parts, areParts, samePackages, sameDeclarations⟩ := ih others
      refine ⟨part :: parts, .cons isPart areParts, .cons ?_ samePackages,
        .cons ?_ sameDeclarations⟩
      · have own : firstsBy id [tour.visit.package] = firstsBy id [tour.visit.package] := rfl
        rw [isPart.1, ← first.package, packages, ← firstsBy_id]
        exact firstsBy_append_congr id own (firstsBy_firstsBy id _).symm
      · rw [declarations, Declaration.firsts_eq_firstsBy, firstsBy_firstsBy]

theorem closures_compose (resolver : Resolver) (manifest : Manifest) (root : Path)
    (aliases : Aliases) (resolution : Resolution)
    (known : resolver.current.isAbsolute = true ∨ resolver.current = .here)
    (filled : aliases.Filled) (ok : resolver.resolve manifest root aliases = .ok resolution) :
    ∃ parts,
      (resolver.targets aliases (root.orDot.locate resolver.current) manifest.entries).Forall₂
        resolver.Part parts ∧
      resolution.packages =
        (parts.flatMap fun part => part.root :: part.packages).eraseDups ∧
      resolution.addresses.declarations =
        Declaration.firsts (resolver.declared manifest [] ++
          parts.flatMap fun part => part.addresses.declarations) := by
  obtain ⟨done, explored, rfl⟩ := (resolver.resolve_eq_ok_iff _ _ _ _).mp ok
  let start := root.orDot.locate resolver.current
  have agrees := Project.explore_same_outcome ⟨resolver, manifest, start, aliases⟩
  rw [show Project.explore ⟨resolver, manifest, start, aliases⟩ = .ok done from explored] at agrees
  obtain ⟨gathered, isGathered, agrees⟩ := agrees.eq_ok
  obtain ⟨tours, tour, everywhere⟩ := resolver.gather_tours _ _ _ _ gathered isGathered
  have same : gathered = Gathered.visitAll _ (tours.flatMap Tour.visits) :=
    Except.ok.inj (isGathered.symm.trans
      (everywhere resolver.named (.start start) _ rfl (List.Subset.refl _)))
  obtain ⟨packages, holds⟩ := resolver.gathered_visitAll manifest start (tours.flatMap Tour.visits)
  rw [← same] at packages holds
  have places := resolver.locate_targets aliases start manifest.entries known filled
    fun absolute => root.orDot.isAbsolute_locate _ absolute root.text_orDot_ne_empty
  obtain ⟨parts, areParts, samePackages, sameDeclarations⟩ :=
    resolver.exists_parts _ tours places tour
  refine ⟨parts, areParts, ?_, ?_⟩
  · change done.packages = _
    rw [agrees.packages, packages, List.map_flatMap]
    exact firstsBy_flatMap_congr id _ _ samePackages
  · change done.addresses.declarations = _
    rw [AddressTable.declarations, agrees.addresses.bindings, ← AddressTable.declarations,
      holds.declarations, List.flatMap_assoc, Declaration.firsts_eq_firstsBy,
      Declaration.firsts_eq_firstsBy]
    exact firstsBy_append_congr _ rfl (firstsBy_flatMap_congr _ _ _ sameDeclarations)

theorem closures_compose_diamond :
    ((Diamond.resolver.current.isAbsolute = true ∨ Diamond.resolver.current = .here) ∧
        Diamond.aliases.Filled) ∧
      ∃ parts,
        [⟨Diamond.place "left", false⟩, ⟨Diamond.place "right", true⟩,
          ⟨Diamond.place "base", false⟩].Forall₂ Diamond.resolver.Part parts ∧
        Diamond.progress.packages =
          (parts.flatMap fun part => part.root :: part.packages).eraseDups ∧
        Diamond.progress.addresses.declarations =
          Declaration.firsts (Diamond.resolver.declared Diamond.app [] ++
            parts.flatMap fun part => part.addresses.declarations) := by
  have filled : Diamond.aliases.Filled := Aliases.filled_ofList _ (by decide)
  have targets : Diamond.resolver.targets Diamond.aliases
      ((⟨"/app"⟩ : Path).orDot.locate Diamond.resolver.current) Diamond.app.entries =
        [⟨Diamond.place "left", false⟩, ⟨Diamond.place "right", true⟩,
          ⟨Diamond.place "base", false⟩] := by
    decide
  have composed := closures_compose Diamond.resolver Diamond.app ⟨"/app"⟩ Diamond.aliases _
    (.inl rfl) filled Diamond.resolve_eq
  rw [targets] at composed
  exact ⟨⟨.inl rfl, filled⟩, composed⟩

-- A package under a relative path, with another one beside it. An alias with an empty path leads
-- to it, but a resolution of its own goes out from the current directory.
namespace Adrift

def text : String :=
  "[package]\nname = \"lib\"\nversion = \"1\"\n[dependencies.base]\nlocal = \"base\""

def memory : Memory :=
  (Memory.empty.addFile ⟨"Move.toml"⟩ (Text.encodeUtf8 text)).addFile ⟨"base/Move.toml"⟩ Leaf.bytes

def resolver : Resolver := ⟨memory.storage, .root, []⟩

def aliases : Aliases := .ofList [("lib", ⟨""⟩)]

def app : Manifest := Diamond.manifest "app" [] [("lib", .unspecified)] []

def lib : Manifest := Diamond.manifest "lib" [] [("base", .path ⟨"base"⟩)] []

def base : Location := (⟨"base"⟩ : Path).location

theorem manifestAt_lib : resolver.storage.manifestAt Location.here.path = .ok lib :=
  memory.storage.manifestAt_of_text _ text _
    (Memory.read_add_of_read _ _ _ _ _ (by decide) (Memory.read_addFile _ _ _ _ (by decide)))
    (by decide +kernel)

theorem manifestAt_rooted : resolver.storage.manifestAt (Diamond.place "base").path =
    .error (.unreadable (.notFound ⟨"/base/Move.toml"⟩)) :=
  memory.storage.manifestAt_of_unreadable _ _ (by decide +kernel)

theorem explore_app : ∃ done, resolver.explore app (Diamond.place "app") aliases = .ok done := by
  have ofApp : app.entries = [⟨"lib", .unspecified, .regular⟩] := by decide
  have ofLib : lib.entries = [⟨"base", .path ⟨"base"⟩, .regular⟩] := by decide
  rw [Resolver.explore, ofApp]
  rw [Resolver.walk_visit resolver _ _ _ _ _ ⟨.here, true⟩ (by decide) (by decide) (by decide) lib
    manifestAt_lib (resolver.storage.isOk_manifestAt _ _ manifestAt_lib)]
  case inner =>
      rw [ofLib, resolver.walk_leaf _ _ _ _ _ ⟨base, false⟩ (by decide) (by decide) (by decide)
        (Memory.read_addFile _ _ _ _ (by decide)), Resolver.walk_nil]
  exact ⟨_, resolver.walk_nil _ _ _⟩

theorem resolveAt_lib : resolver.resolveAt Location.here.path .empty =
    .error (.manifestUnreadable ⟨"/base"⟩ (.unreadable (.notFound ⟨"/base/Move.toml"⟩))) := by
  have ofLib : lib.entries = [⟨"base", .path ⟨"base"⟩, .regular⟩] := by decide
  have current : Location.here.path.orDot.locate resolver.current = .root := by decide
  have failed : resolver.explore lib .root .empty = .error (.manifestUnreadable
      (Diamond.place "base").path (.unreadable (.notFound ⟨"/base/Move.toml"⟩))) := by
    rw [Resolver.explore, ofLib]
    exact resolver.walk_unreadable _ _ _ _ _ ⟨Diamond.place "base", false⟩ (by decide)
      (by decide) (by decide) _ manifestAt_rooted
  have path : (Diamond.place "base").path = ⟨"/base"⟩ := by decide
  rw [resolver.resolveAt_of_loaded _ lib _ manifestAt_lib, resolver.resolve_eq_map, current,
    failed, path]
  rfl

end Adrift

theorem empty_alias_adrift :
    (∃ resolution, Adrift.resolver.resolve Adrift.app ⟨"/app"⟩ Adrift.aliases = .ok resolution) ∧
      Adrift.resolver.targets Adrift.aliases (Diamond.place "app") Adrift.app.entries =
        [⟨.here, true⟩] ∧
      { Adrift.resolver with named := [] }.resolveAt Location.here.path .empty =
        .error (.manifestUnreadable ⟨"/base"⟩ (.unreadable (.notFound ⟨"/base/Move.toml"⟩))) := by
  refine ⟨?_, by decide, Adrift.resolveAt_lib⟩
  obtain ⟨done, explored⟩ := Adrift.explore_app
  have start : (⟨"/app"⟩ : Path).orDot.locate Adrift.resolver.current = Diamond.place "app" := by
    decide
  rw [Resolver.resolve_eq_map, start, explored]
  exact ⟨_, rfl⟩

end PackageClosure
