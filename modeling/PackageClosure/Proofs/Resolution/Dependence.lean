import Mathlib.Logic.Relation
import PackageClosure.Resolution.Basic

set_option autoImplicit false

namespace PackageClosure

open Relation

namespace Location

theorem location_join_path (package : Location) (path : Path) :
    (package.path.join path).location = package.join path := by
  rw [Path.location_join, location_path]

end Location

namespace Entry

inductive StandsFor (current : Location) (aliases : Aliases) (package : Location) (entry : Entry) :
    Target → Prop where
  | byAlias (path : Path) (given : aliases.get? entry.name = some path) :
      StandsFor current aliases package entry ⟨path.locate current, true⟩
  | byPath (path : Path) (free : aliases.get? entry.name = none)
      (declared : entry.dependency = .path path) :
      StandsFor current aliases package entry ⟨(package.path.join path).location, false⟩

theorem target?_eq_some_iff (entry : Entry) (current : Location) (aliases : Aliases)
    (package : Location) (target : Target) :
    entry.target? current aliases package = some target ↔
      entry.StandsFor current aliases package target := by
  constructor
  · intro found
    unfold target? at found
    cases given : aliases.get? entry.name with
    | some path =>
        rw [given] at found
        rw [← Option.some.inj found]
        exact .byAlias path given
    | none =>
        rw [given] at found
        cases declared : entry.dependency with
        | path path =>
            rw [declared] at found
            have same : (⟨package.join path, false⟩ : Target) = target := Option.some.inj found
            rw [← same, ← package.location_join_path path]
            exact .byPath path given declared
        | git url rev => simp [declared, Dependency.path?] at found
        | unspecified => simp [declared, Dependency.path?] at found
  · intro stands
    cases stands with
    | byAlias path given => simp [target?, given]
    | byPath path free declared =>
        simp [target?, free, declared, Dependency.path?, package.location_join_path path]

end Entry

structure Project where
  resolver : Resolver
  manifest : Manifest
  root : Location
  aliases : Aliases

namespace Project

-- The root's manifest is given, whatever the storage holds at its place.
def manifestOf (project : Project) (package : Location) : Except LoadError Manifest :=
  if package = project.root then .ok project.manifest
  else project.resolver.storage.manifestAt package.path

-- Aliases are for the root's own entries only.
def aliasesOf (project : Project) (package : Location) : Aliases :=
  if package = project.root then project.aliases else .empty

def DependsOn (project : Project) (package other : Location) : Prop :=
  ∃ manifest, project.manifestOf package = .ok manifest ∧
    ∃ entry ∈ manifest.entries, ∃ aliased,
      entry.StandsFor project.resolver.current (project.aliasesOf package) package
        ⟨other, aliased⟩

def Reaches (project : Project) (package : Location) : Prop :=
  ReflTransGen project.DependsOn project.root package

def Loads (project : Project) : Prop :=
  ∀ package, project.Reaches package → ∃ manifest, project.manifestOf package = .ok manifest

def Acyclic (project : Project) : Prop :=
  ∀ package, project.Reaches package → ¬ TransGen project.DependsOn package package

theorem manifestOf_root (project : Project) :
    project.manifestOf project.root = .ok project.manifest := if_pos rfl

theorem manifestOf_of_ne (project : Project) (package : Location) (other : package ≠ project.root) :
    project.manifestOf package = project.resolver.storage.manifestAt package.path := if_neg other

theorem aliasesOf_root (project : Project) : project.aliasesOf project.root = project.aliases :=
  if_pos rfl

theorem aliasesOf_of_ne (project : Project) (package : Location) (other : package ≠ project.root) :
    project.aliasesOf package = .empty := if_neg other

def target? (project : Project) (package : Location) (entry : Entry) : Option Target :=
  entry.target? project.resolver.current (project.aliasesOf package) package

theorem depends_on_of_target (project : Project) (package : Location) (manifest : Manifest)
    (entry : Entry) (target : Target) (loaded : project.manifestOf package = .ok manifest)
    (member : entry ∈ manifest.entries) (found : project.target? package entry = some target) :
    project.DependsOn package target.location :=
  ⟨manifest, loaded, entry, member, target.aliased, (entry.target?_eq_some_iff _ _ _ _).mp found⟩

theorem target_of_depends_on (project : Project) (package other : Location) (manifest : Manifest)
    (loaded : project.manifestOf package = .ok manifest)
    (depends : project.DependsOn package other) :
    ∃ entry ∈ manifest.entries, ∃ target, project.target? package entry = some target ∧
      target.location = other := by
  obtain ⟨stored, found, entry, member, aliased, stands⟩ := depends
  have same : manifest = stored := Except.ok.inj (loaded.symm.trans found)
  subst same
  exact ⟨entry, member, ⟨other, aliased⟩, (entry.target?_eq_some_iff _ _ _ _).mpr stands, rfl⟩

end Project

end PackageClosure
