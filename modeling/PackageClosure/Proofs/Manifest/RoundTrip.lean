import PackageClosure.Proofs.Manifest.Decoding

set_option autoImplicit false

namespace PackageClosure.Manifest

theorem isPackage_write (package : PackageInfo) :
    ∃ table, package.write Toml.format = .table table ∧ IsPackage table package := by
  obtain ⟨name, version, authors, license⟩ := package
  refine ⟨_, rfl, ?_⟩
  cases authors with
  | nil =>
      cases license with
      | none => exact ⟨rfl, rfl, .inl ⟨rfl, rfl⟩, rfl⟩
      | some license => exact ⟨rfl, rfl, .inl ⟨rfl, rfl⟩, rfl⟩
  | cons author others =>
      cases license with
      | none => exact ⟨rfl, rfl, .inr rfl, rfl⟩
      | some license => exact ⟨rfl, rfl, .inr rfl, rfl⟩

theorem isDependency_write (dependency : Dependency) :
    IsDependency (dependency.write Toml.format) dependency := by
  cases dependency with
  | path given => exact .table _ _ none none _ rfl rfl rfl (.path given.text none)
  | git url rev =>
      cases rev with
      | none => exact .table _ none _ none _ rfl rfl rfl (.git url none)
      | some rev => exact .table _ none _ (some rev) _ rfl rfl rfl (.git url (some rev))
  | unspecified => exact .table _ none none none _ rfl rfl rfl (.unspecified none)

theorem isMap_write {α : Type} (IsItem : Toml.Value → α → Prop) (write : α → Toml.Value)
    (writes : ∀ item, IsItem (write item) item) (map : OrderedMap α) :
    IsMap IsItem (some (.table (map.entries.map fun entry => (entry.1, write entry.2)))) map := by
  refine .table _ map ?_
  rw [List.forall₂_map_left_iff, List.forall₂_same]
  exact fun entry _ => ⟨rfl, writes entry.2⟩

theorem isManifest_write (manifest : Manifest) :
    ∃ table, manifest.write Toml.format = .table table ∧ IsManifest table manifest := by
  obtain ⟨package, written, is⟩ := isPackage_write manifest.package
  refine ⟨_, rfl, ⟨package, congrArg some written, is⟩, ?_, ?_, ?_⟩
  · exact isMap_write IsAddress .string (fun _ => rfl) manifest.addresses
  · exact isMap_write IsDependency _ isDependency_write manifest.dependencies
  · exact isMap_write IsDependency _ isDependency_write manifest.devDependencies

theorem write_injective (left right : Manifest)
    (same : left.write Toml.format = right.write Toml.format) : left = right := by
  obtain ⟨table, written, is⟩ := isManifest_write left
  obtain ⟨other, alsoWritten, alsoIs⟩ := isManifest_write right
  rw [written, alsoWritten] at same
  cases same
  exact isManifest_unique is alsoIs

theorem distinctItems_texts (texts : List String) :
    Toml.Value.distinctItems (texts.map .string) = true := by
  induction texts with
  | nil => rfl
  | cons text rest ih => simpa [Toml.Value.distinctItems, Toml.Value.distinctKeys] using ih

theorem distinctEntries_of_forall (entries : Toml.Table)
    (each : ∀ entry ∈ entries, entry.2.distinctKeys = true) :
    Toml.Value.distinctEntries entries = true := by
  induction entries with
  | nil => rfl
  | cons entry rest ih =>
      rw [List.forall_mem_cons] at each
      rw [Toml.Value.distinctEntries, each.1, ih each.2]
      rfl

theorem distinctKeys_table (entries : Toml.Table) (keys : (entries.map Prod.fst).Nodup)
    (each : ∀ entry ∈ entries, entry.2.distinctKeys = true) :
    (Toml.Value.table entries).distinctKeys = true := by
  rw [Toml.Value.distinctKeys, distinctEntries_of_forall entries each, decide_eq_true keys]
  rfl

theorem distinctKeys_map {α : Type} (write : α → Toml.Value)
    (distinct : ∀ item, (write item).distinctKeys = true) (map : OrderedMap α) :
    (Toml.Value.table (map.entries.map fun entry => (entry.1, write entry.2))).distinctKeys =
      true := by
  refine distinctKeys_table _ ?_ ?_
  · rw [List.map_map]
    exact map.distinct
  · rw [List.forall_mem_map]
    exact fun entry _ => distinct entry.2

theorem distinctKeys_package (package : PackageInfo) :
    (package.write Toml.format).distinctKeys = true := by
  obtain ⟨name, version, authors, license⟩ := package
  have texts := distinctItems_texts authors
  cases authors <;> cases license <;>
    simp_all [PackageInfo.write, Toml.format, Toml.Value.distinctKeys,
      Toml.Value.distinctEntries]

theorem distinctKeys_dependency (dependency : Dependency) :
    (dependency.write Toml.format).distinctKeys = true := by
  cases dependency with
  | path given => rfl
  | git url rev => cases rev <;> rfl
  | unspecified => rfl

theorem distinctKeys_write (manifest : Manifest) :
    (manifest.write Toml.format).distinctKeys = true := by
  have dependencies := distinctKeys_map _ distinctKeys_dependency
  refine distinctKeys_table _ (by simp) ?_
  simp only [List.forall_mem_cons]
  exact ⟨distinctKeys_package _, distinctKeys_map _ (fun _ => rfl) manifest.addresses,
    dependencies manifest.dependencies, dependencies manifest.devDependencies, by simp⟩

theorem decode_write (manifest : Manifest) (filled : Filled manifest.package) :
    decode (manifest.write Toml.format) = .ok manifest := by
  obtain ⟨table, written, is⟩ := isManifest_write manifest
  have verdict := verdict_decode _ (distinctKeys_write manifest)
  exact (verdict.accepts manifest).mpr ⟨table, written, is, filled⟩

theorem filled_of_decode (document : Toml.Value) (manifest : Manifest)
    (decoded : decode document = .ok manifest) : Filled manifest.package := by
  cases document with
  | table table =>
      rw [decode_table] at decoded
      simp only [bind_eq_ok_iff, Except.ok.injEq] at decoded
      obtain ⟨package, outcome, _, _, _, _, _, _, rfl⟩ := decoded
      exact (((verdict_packageOf table).accepts package).mp outcome).2
  | _ => cases decoded

theorem decode_inverts_write :
    (∀ manifest : Manifest, Filled manifest.package →
      decode (manifest.write Toml.format) = .ok manifest) ∧
    (∀ (document : Toml.Value) (manifest : Manifest), decode document = .ok manifest →
      decode (manifest.write Toml.format) = .ok manifest) ∧
    ∀ left right : Manifest, left.write Toml.format = right.write Toml.format → left = right :=
  ⟨decode_write, fun document manifest decoded =>
    decode_write manifest (filled_of_decode document manifest decoded), write_injective⟩

namespace Rich

def withEntries (entries : List (String × Dependency)) : Manifest where
  package := ⟨"app", "1", ["", "nobody"], some ""⟩
  addresses := .ofList [("std", "0x1"), ("app", "_")]
  dependencies := .ofList entries
  devDependencies := .ofList [("bare", .unspecified)]

def entries : List (String × Dependency) :=
  [("lib", .git "" (some "")), ("base", .path ⟨""⟩), ("tip", .git "tip" none)]

def manifest : Manifest := withEntries entries

def turned : Manifest := withEntries entries.reverse

def document : Toml.Value :=
  .table [
    ("dev-dependencies", .table [("bare", .table [("rev", .string "v1")])]),
    ("build", .table []),
    ("dependencies", .table [
      ("lib", .table [("rev", .string ""), ("git", .string "")]),
      ("base", .table [("local", .string ""), ("rev", .string "")]),
      ("tip", .table [("git", .string "tip"), ("subdir", .array [])])]),
    ("addresses", .table [("std", .string "0x1"), ("app", .string "_")]),
    ("package", .table [
      ("license", .string ""),
      ("authors", .array [.string "", .string "nobody"]),
      ("version", .string "1"),
      ("name", .string "app")])]

end Rich

theorem decode_inverts_write_rich :
    (Filled Rich.turned.package ∧ decode (Rich.turned.write Toml.format) = .ok Rich.turned) ∧
      (decode Rich.document = .ok Rich.manifest ∧
        decode (Rich.manifest.write Toml.format) = .ok Rich.manifest) ∧
      Rich.manifest.write Toml.format ≠ Rich.turned.write Toml.format := by
  have filled : Filled Rich.turned.package := ⟨by decide, by decide⟩
  have decoded : decode Rich.document = .ok Rich.manifest := rfl
  refine ⟨⟨filled, decode_inverts_write.1 _ filled⟩,
    ⟨decoded, decode_inverts_write.2.1 Rich.document _ decoded⟩, ?_⟩
  intro same
  have equal := congrArg (·.dependencies.keys) (decode_inverts_write.2.2 _ _ same)
  exact absurd equal (by decide)

end PackageClosure.Manifest
