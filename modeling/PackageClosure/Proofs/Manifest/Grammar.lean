import Mathlib.Data.List.Forall2
import PackageClosure.Manifest.Decode

set_option autoImplicit false

namespace PackageClosure.Manifest

structure IsPackage (table : Toml.Table) (package : PackageInfo) : Prop where
  name : table.lookup "name" = some (.string package.name)
  version : table.lookup "version" = some (.string package.version)
  authors : table.lookup "authors" = none ∧ package.authors = [] ∨
    table.lookup "authors" = some (.array (package.authors.map .string))
  license : table.lookup "license" = package.license.map .string

structure Filled (package : PackageInfo) : Prop where
  name : package.name ≠ ""
  version : package.version ≠ ""

def IsAddress (value : Toml.Value) (address : String) : Prop := value = .string address

inductive Locates : Option String → Option String → Option String → Dependency → Prop where
  | path (text : String) (rev : Option String) : Locates (some text) none rev (.path ⟨text⟩)
  | git (url : String) (rev : Option String) : Locates none (some url) rev (.git url rev)
  | unspecified (rev : Option String) : Locates none none rev .unspecified

inductive IsDependency : Toml.Value → Dependency → Prop where
  | table (fields : Toml.Table) (path url rev : Option String) (dependency : Dependency)
      (onDisk : fields.lookup "local" = path.map .string)
      (hosted : fields.lookup "git" = url.map .string)
      (pinned : fields.lookup "rev" = rev.map .string)
      (located : Locates path url rev dependency) : IsDependency (.table fields) dependency

inductive IsMap {α : Type} (IsItem : Toml.Value → α → Prop) :
    Option Toml.Value → OrderedMap α → Prop where
  | missing : IsMap IsItem none .empty
  | table (entries : Toml.Table) (map : OrderedMap α)
      (items : List.Forall₂ (fun entry item => item.1 = entry.1 ∧ IsItem entry.2 item.2)
        entries map.entries) :
      IsMap IsItem (some (.table entries)) map

structure IsManifest (document : Toml.Table) (manifest : Manifest) : Prop where
  package : ∃ table, document.lookup "package" = some (.table table) ∧
    IsPackage table manifest.package
  addresses : IsMap IsAddress (document.lookup "addresses") manifest.addresses
  dependencies : IsMap IsDependency (document.lookup "dependencies") manifest.dependencies
  devDependencies : IsMap IsDependency (document.lookup "dev-dependencies")
    manifest.devDependencies

theorem string_injective : Function.Injective Toml.Value.string :=
  fun _ _ => Toml.Value.string.inj

theorem text_unique {found : Option Toml.Value} {left right : Option String}
    (first : found = left.map .string) (second : found = right.map .string) : left = right :=
  Option.map_injective string_injective (first.symm.trans second)

theorem isPackage_unique : Relator.RightUnique IsPackage := by
  intro table left right first second
  have names : some left.name = some right.name := text_unique first.name second.name
  have versions : some left.version = some right.version := text_unique first.version second.version
  have authors : left.authors = right.authors := by
    rcases first.authors with ⟨absent, none⟩ | listed <;>
      rcases second.authors with ⟨gone, same⟩ | other
    · rw [none, same]
    · cases absent.symm.trans other
    · cases gone.symm.trans listed
    · have items := listed.symm.trans other
      simp only [Option.some.injEq, Toml.Value.array.injEq] at items
      exact string_injective.list_map items
  have licenses := text_unique first.license second.license
  cases left
  cases right
  simp_all

theorem isAddress_unique : Relator.RightUnique IsAddress :=
  fun _ _ _ first second => string_injective (first.symm.trans second)

theorem Locates.unique {path url rev : Option String} {left right : Dependency}
    (first : Locates path url rev left) (second : Locates path url rev right) : left = right := by
  cases first <;> cases second <;> rfl

theorem isDependency_unique : Relator.RightUnique IsDependency := by
  intro value left right first second
  cases first with
  | table fields path url rev _ onDisk hosted pinned located =>
      cases second with
      | table _ _ _ _ _ alsoOnDisk alsoHosted alsoPinned other =>
          cases text_unique onDisk alsoOnDisk
          cases text_unique hosted alsoHosted
          cases text_unique pinned alsoPinned
          exact located.unique other

theorem isMap_unique {α : Type} {IsItem : Toml.Value → α → Prop}
    (unique : Relator.RightUnique IsItem) : Relator.RightUnique (IsMap IsItem) := by
  intro found left right first second
  cases first with
  | missing =>
      cases second
      rfl
  | table entries _ items =>
      cases second with
      | table _ _ others =>
          have one : Relator.RightUnique fun (entry : String × Toml.Value) (item : String × α) =>
              item.1 = entry.1 ∧ IsItem entry.2 item.2 :=
            fun _ _ _ is other => Prod.ext (is.1.trans other.1.symm) (unique is.2 other.2)
          exact OrderedMap.ext (List.right_unique_forall₂' one items others)

theorem isManifest_unique : Relator.RightUnique IsManifest := by
  intro document left right first second
  obtain ⟨table, found, is⟩ := first.package
  obtain ⟨other, alsoFound, alsoIs⟩ := second.package
  cases found.symm.trans alsoFound
  have packages := isPackage_unique is alsoIs
  have addresses := isMap_unique isAddress_unique first.addresses second.addresses
  have dependencies := isMap_unique isDependency_unique first.dependencies second.dependencies
  have devDependencies :=
    isMap_unique isDependency_unique first.devDependencies second.devDependencies
  cases left
  cases right
  simp_all

-- The faults of each part are listed in the order in which its rules are checked. A rule adds its
-- own whether or not the rules before it are broken.

def requiredFaults (package : Toml.Table) (entry : String) (field : Field) : List Error :=
  match package.lookup entry with
  | none => [.missing field]
  | some (.string text) => if text = "" then [.missing field] else []
  | some other => [.malformed "package" entry (.notString other.sort)]

def textFaults (found : Option Toml.Value) (fault : Toml.ValueSort → Error) : List Error :=
  match found with
  | none | some (.string _) => []
  | some other => [fault other.sort]

def authorFaults : Toml.Value → List Error
  | .string _ => []
  | _ => [.malformed "package" "authors" .authorNotString]

def authorsFaults (package : Toml.Table) : List Error :=
  match package.lookup "authors" with
  | none => []
  | some (.array items) => items.flatMap authorFaults
  | some other => [.malformed "package" "authors" (.notArray other.sort)]

def infoFaults (package : Toml.Table) : List Error :=
  requiredFaults package "name" .name ++ (requiredFaults package "version" .version ++
    (authorsFaults package ++ textFaults (package.lookup "license")
      fun sort => .malformed "package" "license" (.notString sort)))

def packageFaults (document : Toml.Table) : List Error :=
  match document.lookup "package" with
  | none => [.missing .package]
  | some (.table package) => infoFaults package
  | some other => [.malformed "package" "package" (.notTable other.sort)]

def mapFaults (document : Toml.Table) (key : String)
    (entryFaults : String × Toml.Value → List Error) : List Error :=
  match document.lookup key with
  | none => []
  | some (.table entries) => entries.flatMap entryFaults
  | some other => [.malformed key key (.notTable other.sort)]

def addressFaults (entry : String × Toml.Value) : List Error :=
  match entry.2 with
  | .string _ => []
  | other => [.malformed "addresses" entry.1 (.notAddress other.sort)]

def dependencyFaults (table : String) (entry : String × Toml.Value) : List Error :=
  match entry.2 with
  | .table fields =>
      let fieldFaults (field : String) : List Error :=
        textFaults (fields.lookup field) fun sort =>
          .malformed table entry.1 (.fieldNotString field sort)
      fieldFaults "local" ++ (fieldFaults "git" ++ (fieldFaults "rev" ++
        if (fields.lookup "local").isSome ∧ (fields.lookup "git").isSome then
          [.ambiguous entry.1]
        else []))
  | other => [.malformed table entry.1 (.notInlineTable other.sort)]

def faults : Toml.Value → List Error
  | .table document =>
      packageFaults document ++ (mapFaults document "addresses" addressFaults ++
        (mapFaults document "dependencies" (dependencyFaults "dependencies") ++
          mapFaults document "dev-dependencies" (dependencyFaults "dev-dependencies")))
  | _ => [.missing .package]

end PackageClosure.Manifest
