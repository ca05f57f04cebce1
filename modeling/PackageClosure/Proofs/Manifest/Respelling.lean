import Mathlib.Data.List.Forall2
import PackageClosure.Proofs.Path.Congruence
import PackageClosure.Proofs.Resolution.Inlining

set_option autoImplicit false

namespace PackageClosure

def Dependency.normalized : Dependency → Dependency
  | .path given => .path given.normalize
  | .git url rev => .git url rev
  | .unspecified => .unspecified

def Entry.normalized (entry : Entry) : Entry :=
  { entry with dependency := entry.dependency.normalized }

def Manifest.normalized (manifest : Manifest) : Manifest :=
  { manifest with
    dependencies := manifest.dependencies.mapValues fun _ => Dependency.normalized
    devDependencies := manifest.devDependencies.mapValues fun _ => Dependency.normalized }

theorem Manifest.entries_normalized (manifest : Manifest) :
    manifest.normalized.entries = manifest.entries.map Entry.normalized := by
  simp [entries, normalized, OrderedMap.mapValues, Entry.normalized, Function.comp_def]

theorem Manifest.package_eq_of_normalized {left right : Manifest}
    (same : left.normalized = right.normalized) : left.package = right.package := by
  have packages := congrArg Manifest.package same
  exact packages

theorem Manifest.addresses_eq_of_normalized {left right : Manifest}
    (same : left.normalized = right.normalized) : left.addresses = right.addresses := by
  have addresses := congrArg Manifest.addresses same
  exact addresses

theorem Manifest.declarations_eq_of_normalized {left right : Manifest}
    (same : left.normalized = right.normalized) : left.declarations = right.declarations := by
  rw [declarations, declarations, addresses_eq_of_normalized same, package_eq_of_normalized same]

namespace Entry

theorem target?_normalized (entry : Entry) (current : Location) (aliases : Aliases)
    (package : Location) :
    entry.normalized.target? current aliases package = entry.target? current aliases package := by
  rw [target?, target?, normalized]
  cases aliases.get? entry.name with
  | some path => rfl
  | none =>
      cases entry.dependency with
      | path path =>
          have same := package.join_congr _ _ path.normalize_normalize
          simp only [Dependency.normalized, Dependency.path?, Option.map_some, same]
      | git url rev => rfl
      | unspecified => rfl

theorem target?_of_places (entry : Entry) (current : Location) (aliases others : Aliases)
    (package : Location)
    (places : (others.get? entry.name).map (Path.locate current) =
      (aliases.get? entry.name).map (Path.locate current)) :
    entry.target? current others package = entry.target? current aliases package := by
  rw [target?, target?]
  cases given : aliases.get? entry.name with
  | none =>
      rw [given, Option.map_none, Option.map_eq_none_iff] at places
      rw [places]
  | some path =>
      rw [given, Option.map_some, Option.map_eq_some_iff] at places
      obtain ⟨spelled, isSpelled, same⟩ := places
      simp only [isSpelled, same]

structure Agrees (current : Location) (aliases others : Aliases) (package : Location)
    (entry other : Entry) : Prop where
  name : other.name = entry.name
  group : other.group = entry.group
  target : other.target? current others package = entry.target? current aliases package

theorem agrees_of_normalized (entry other : Entry) (current : Location) (aliases others : Aliases)
    (package : Location) (same : entry.normalized = other.normalized)
    (places : (others.get? entry.name).map (Path.locate current) =
      (aliases.get? entry.name).map (Path.locate current)) :
    Agrees current aliases others package entry other where
  name := (congrArg Entry.name same).symm
  group := (congrArg Entry.group same).symm
  target := by
    rw [← other.target?_normalized, ← same, entry.target?_normalized]
    exact entry.target?_of_places current aliases others package places

end Entry

namespace Manifest

theorem agrees_of_normalized (left right : Manifest) (current : Location)
    (aliases others : Aliases) (package : Location) (same : left.normalized = right.normalized)
    (places : ∀ name, (others.get? name).map (Path.locate current) =
      (aliases.get? name).map (Path.locate current)) :
    left.entries.Forall₂ (Entry.Agrees current aliases others package) right.entries := by
  have entries : (left.entries.map Entry.normalized).Forall₂ Eq
      (right.entries.map Entry.normalized) := by
    rw [List.forall₂_eq_eq_eq, ← left.entries_normalized, ← right.entries_normalized, same]
  rw [List.forall₂_map_left_iff, List.forall₂_map_right_iff] at entries
  refine entries.imp fun entry other alike => ?_
  exact entry.agrees_of_normalized other current aliases others package alike (places entry.name)

end Manifest

namespace Storage

-- What two storages have to say of a package: one manifest, but for the spelling of its paths, or
-- one reason why there is none.
def Agrees (storage other : Storage) (package : Location) : Prop :=
  (storage.manifestAt package.path).map Manifest.normalized =
    (other.manifestAt package.path).map Manifest.normalized

variable {storage other : Storage} {package : Location}

theorem Agrees.of_ok (agrees : storage.Agrees other package) (manifest : Manifest)
    (loaded : storage.manifestAt package.path = .ok manifest) :
    ∃ respelled, other.manifestAt package.path = .ok respelled ∧
      manifest.normalized = respelled.normalized := by
  rw [Agrees, loaded] at agrees
  cases found : other.manifestAt package.path with
  | ok respelled =>
      rw [found] at agrees
      exact ⟨respelled, rfl, Except.ok.inj agrees⟩
  | error cause =>
      rw [found] at agrees
      cases agrees

theorem Agrees.of_error (agrees : storage.Agrees other package) (cause : LoadError)
    (failed : storage.manifestAt package.path = .error cause) :
    other.manifestAt package.path = .error cause := by
  rw [Agrees, failed] at agrees
  cases found : other.manifestAt package.path with
  | ok respelled =>
      rw [found] at agrees
      cases agrees
  | error reason =>
      rw [found] at agrees
      exact congrArg Except.error (Except.error.inj agrees).symm

theorem agrees_of_read (storage other : Storage) (package : Location)
    (same : other.read (package.path.child manifestFile) =
      storage.read (package.path.child manifestFile)) : storage.Agrees other package := by
  rw [Agrees, manifestAt, manifestAt, readText, readText, same]

end Storage

end PackageClosure
