import PackageClosure.Proofs.Manifest.Grammar
import PackageClosure.Proofs.Verdict

set_option autoImplicit false

namespace PackageClosure.Manifest

theorem verdict_requiredText (table : Toml.Table) (entry : String) (field : Field) :
    Verdict (requiredText table entry field)
      (fun text => table.lookup entry = some (.string text) ∧ text ≠ "")
      (requiredFaults table entry field) := by
  unfold requiredText requiredFaults
  generalize table.lookup entry = found
  cases found with
  | none => exact .reject _ _ (by simp)
  | some value =>
      cases value with
      | string text =>
          by_cases blank : text = ""
          · simp only [if_pos blank]
            exact .reject _ _ (by simp [blank])
          · simp only [if_neg blank]
            exact .accept _ (by grind)
      | _ => exact .reject _ _ (by simp)

def optionalText (found : Option Toml.Value) (fault : Toml.ValueSort → Error) :
    Except Error (Option String) :=
  match found with
  | none => .ok none
  | some (.string text) => .ok (some text)
  | some other => .error (fault other.sort)

theorem verdict_optionalText (found : Option Toml.Value) (fault : Toml.ValueSort → Error) :
    Verdict (optionalText found fault) (fun text => found = text.map .string)
      (textFaults found fault) := by
  unfold optionalText textFaults
  cases found with
  | none => exact .accept _ (by simp [eq_comm])
  | some value =>
      cases value with
      | string text => exact .accept _ (by simp [eq_comm])
      | _ => exact .reject _ _ (by simp [eq_comm])

theorem verdict_decodeLicense (table : Toml.Table) :
    Verdict (decodeLicense table) (fun license => table.lookup "license" = license.map .string)
      (textFaults (table.lookup "license")
        fun sort => .malformed "package" "license" (.notString sort)) :=
  verdict_optionalText _ fun sort => .malformed "package" "license" (.notString sort)

theorem verdict_dependencyText (table name : String) (fields : Toml.Table) (field : String) :
    Verdict (dependencyText table name fields field)
      (fun text => fields.lookup field = text.map .string)
      (textFaults (fields.lookup field)
        fun sort => .malformed table name (.fieldNotString field sort)) :=
  verdict_optionalText _ fun sort => .malformed table name (.fieldNotString field sort)

theorem verdict_decodeAuthors (table : Toml.Table) :
    Verdict (decodeAuthors table)
      (fun authors => table.lookup "authors" = none ∧ authors = [] ∨
        table.lookup "authors" = some (.array (authors.map .string)))
      (authorsFaults table) := by
  unfold decodeAuthors authorsFaults
  generalize table.lookup "authors" = found
  cases found with
  | none => exact .accept _ (by simp)
  | some value =>
      cases value with
      | array items =>
          refine (Verdict.mapM _ (fun item author => item = .string author) authorFaults ?_
            items).congr _ ?_
          · intro item
            cases item with
            | string author => exact .accept _ (by simp [eq_comm])
            | _ => exact .reject _ _ (by simp)
          · intro authors
            simp only [reduceCtorEq, false_and, false_or, Option.some.injEq, Toml.Value.array.injEq]
            rw [← List.forall₂_eq_eq_eq, List.forall₂_map_right_iff]
      | _ => exact .reject _ _ (by simp)

theorem verdict_decodePackage (table : Toml.Table) :
    Verdict (decodePackage table) (fun package => IsPackage table package ∧ Filled package)
      (infoFaults table) := by
  refine ((verdict_requiredText table "name" .name).bind _ _ _ fun name _ =>
    (verdict_requiredText table "version" .version).bind _ _ _ fun version _ =>
      (verdict_decodeAuthors table).bind _ _ _ fun authors _ =>
        (verdict_decodeLicense table).map fun license =>
          PackageInfo.mk name version authors license).congr _ ?_
  intro package
  constructor
  · rintro ⟨name, ⟨named, filled⟩, version, ⟨versioned, versionFilled⟩, authors, written, license,
      licensed, rfl⟩
    exact ⟨⟨named, versioned, written, licensed⟩, filled, versionFilled⟩
  · rintro ⟨is, filled⟩
    exact ⟨_, ⟨is.name, filled.name⟩, _, ⟨is.version, filled.version⟩, _, is.authors, _,
      is.license, rfl⟩

def location (name : String) (path url rev : Option String) : Except Error (String × Dependency) :=
  match path, url with
  | some path, none => .ok (name, .path ⟨path⟩)
  | none, some url => .ok (name, .git url rev)
  | none, none => .ok (name, .unspecified)
  | some _, some _ => .error (.ambiguous name)

theorem verdict_location (name : String) (fields : Toml.Table) (path url rev : Option String)
    (onDisk : fields.lookup "local" = path.map .string)
    (hosted : fields.lookup "git" = url.map .string) :
    Verdict (location name path url rev)
      (fun item => item.1 = name ∧ Locates path url rev item.2)
      (if (fields.lookup "local").isSome ∧ (fields.lookup "git").isSome then [.ambiguous name]
        else []) := by
  have only (dependency : Dependency) (located : Locates path url rev dependency)
      (item : String × Dependency) :
      item.1 = name ∧ Locates path url rev item.2 ↔ item = (name, dependency) := by
    constructor
    · exact fun is => Prod.ext is.1 (is.2.unique located)
    · rintro rfl
      exact ⟨rfl, located⟩
  rw [onDisk, hosted, Option.isSome_map, Option.isSome_map]
  cases path with
  | none =>
      cases url with
      | none => exact .accept _ (only _ (.unspecified rev))
      | some url => exact .accept _ (only _ (.git url rev))
  | some path =>
      cases url with
      | none => exact .accept _ (only _ (.path path rev))
      | some url => exact .reject _ _ (by rintro item ⟨_, located⟩; cases located)

theorem verdict_decodeDependency (table : String) (entry : String × Toml.Value) :
    Verdict (decodeDependency table entry)
      (fun item => item.1 = entry.1 ∧ IsDependency entry.2 item.2)
      (dependencyFaults table entry) := by
  obtain ⟨name, value⟩ := entry
  cases value with
  | table fields =>
      have texts := verdict_dependencyText table name fields
      refine ((texts "local").bind _ _ _ fun path onDisk => (texts "git").bind _ _ _
        fun url hosted => (texts "rev").bind _ _ _
          fun rev _ => verdict_location name fields path url rev onDisk hosted).congr _ ?_
      intro item
      constructor
      · rintro ⟨path, onDisk, url, hosted, rev, pinned, same, located⟩
        exact ⟨same, .table fields path url rev item.2 onDisk hosted pinned located⟩
      · obtain ⟨_, dependency⟩ := item
        rintro ⟨same, is⟩
        cases is with
        | table _ path url rev _ onDisk hosted pinned located =>
            exact ⟨path, onDisk, url, hosted, rev, pinned, same, located⟩
  | _ =>
      refine .reject _ _ ?_
      rintro ⟨_, dependency⟩ ⟨_, is⟩
      cases is

theorem verdict_decodeAddress (entry : String × Toml.Value) :
    Verdict (decodeAddress entry) (fun item => item.1 = entry.1 ∧ IsAddress entry.2 item.2)
      (addressFaults entry) := by
  obtain ⟨symbol, value⟩ := entry
  cases value with
  | string text => exact .accept _ (by simp [IsAddress, Prod.ext_iff, eq_comm])
  | _ => exact .reject _ _ (by simp [IsAddress])

def decodeMap {α : Type} (document : Toml.Table) (key : String)
    (decodeEntry : String × Toml.Value → Except Error (String × α)) :
    Except Error (OrderedMap α) := do
  let entries := (← table? document key).getD []
  return .ofList (← entries.mapM decodeEntry)

theorem decodeDependencies_eq (document : Toml.Table) (table : String) :
    decodeDependencies document table = decodeMap document table (decodeDependency table) := rfl

theorem keys_of_items {α : Type} (IsItem : Toml.Value → α → Prop) (entries : Toml.Table)
    (items : List (String × α))
    (kept : List.Forall₂ (fun entry item => item.1 = entry.1 ∧ IsItem entry.2 item.2) entries
      items) : items.map Prod.fst = entries.map Prod.fst := by
  induction kept with
  | nil => rfl
  | cons same _ ih => rw [List.map_cons, List.map_cons, same.1, ih]

theorem verdict_decodeMap {α : Type} (document : Toml.Table) (key : String)
    (decodeEntry : String × Toml.Value → Except Error (String × α))
    (IsItem : Toml.Value → α → Prop) (entryFaults : String × Toml.Value → List Error)
    (distinct : ∀ entries, document.lookup key = some (.table entries) →
      (entries.map Prod.fst).Nodup)
    (verdicts : ∀ entry, Verdict (decodeEntry entry)
      (fun item => item.1 = entry.1 ∧ IsItem entry.2 item.2) (entryFaults entry)) :
    Verdict (decodeMap document key decodeEntry) (IsMap IsItem (document.lookup key))
      (mapFaults document key entryFaults) := by
  unfold decodeMap table? mapFaults
  generalize document.lookup key = found at distinct
  cases found with
  | none =>
      refine .accept _ fun map => ⟨?_, ?_⟩
      · rintro ⟨⟩
        rfl
      · rintro rfl
        exact .missing
  | some value =>
      cases value with
      | table entries =>
          refine ((Verdict.mapM decodeEntry _ _ verdicts entries).map OrderedMap.ofList).congr _
            fun map => ?_
          constructor
          · rintro ⟨items, kept, rfl⟩
            have keys := keys_of_items IsItem entries items kept
            refine .table entries _ ?_
            rw [OrderedMap.entries_ofList items (keys ▸ distinct entries rfl)]
            exact kept
          · intro is
            cases is with
            | table _ _ kept =>
                exact ⟨map.entries, kept,
                  OrderedMap.ext (OrderedMap.entries_ofList _ map.distinct).symm⟩
      | _ => exact .reject _ _ (by rintro map ⟨⟩)

def packageOf (document : Toml.Table) : Except Error PackageInfo :=
  match document.lookup "package" with
  | none => .error (.missing .package)
  | some (.table package) => decodePackage package
  | some other => .error (.malformed "package" "package" (.notTable other.sort))

theorem verdict_packageOf (document : Toml.Table) :
    Verdict (packageOf document)
      (fun package => (∃ table, document.lookup "package" = some (.table table) ∧
        IsPackage table package) ∧ Filled package)
      (packageFaults document) := by
  unfold packageOf packageFaults
  generalize document.lookup "package" = found
  cases found with
  | none => exact .reject _ _ (by simp)
  | some value =>
      cases value with
      | table table => exact (verdict_decodePackage table).congr _ (by simp)
      | _ => exact .reject _ _ (by simp)

theorem decode_table (document : Toml.Table) :
    decode (.table document) =
      packageOf document >>= fun package =>
        decodeMap document "addresses" decodeAddress >>= fun addresses =>
          decodeMap document "dependencies" (decodeDependency "dependencies") >>=
            fun dependencies =>
              decodeMap document "dev-dependencies" (decodeDependency "dev-dependencies") >>=
                fun devDependencies =>
                  .ok { package, addresses, dependencies, devDependencies } := by
  simp only [decode, decodeDependencies_eq, decodeMap, packageOf, bind_assoc]
  unfold table?
  generalize document.lookup "package" = found
  cases found with
  | none => rfl
  | some value => cases value <;> rfl

theorem verdict_decode_table (document : Toml.Table)
    (distinct : ∀ key entries, document.lookup key = some (.table entries) →
      (entries.map Prod.fst).Nodup) :
    Verdict (decode (.table document))
      (fun manifest => IsManifest document manifest ∧ Filled manifest.package)
      (faults (.table document)) := by
  rw [decode_table]
  refine ((verdict_packageOf document).bind _ _ _ fun package _ =>
    (verdict_decodeMap document "addresses" _ _ _ (distinct _) verdict_decodeAddress).bind _ _ _
      fun addresses _ =>
        (verdict_decodeMap document "dependencies" _ _ _ (distinct _)
          (verdict_decodeDependency _)).bind _ _ _ fun dependencies _ =>
            (verdict_decodeMap document "dev-dependencies" _ _ _ (distinct _)
              (verdict_decodeDependency _)).map fun devDependencies =>
                Manifest.mk package addresses dependencies devDependencies).congr _ ?_
  intro manifest
  constructor
  · rintro ⟨package, ⟨isPackage, filled⟩, addresses, areAddresses, dependencies, areDependencies,
      devDependencies, areDevDependencies, rfl⟩
    exact ⟨⟨isPackage, areAddresses, areDependencies, areDevDependencies⟩, filled⟩
  · rintro ⟨is, filled⟩
    exact ⟨_, ⟨is.package, filled⟩, _, is.addresses, _, is.dependencies, _, is.devDependencies,
      rfl⟩

theorem distinctKeys_of_lookup (entries : Toml.Table) (key : String) (value : Toml.Value)
    (distinct : Toml.Value.distinctEntries entries = true)
    (found : entries.lookup key = some value) : value.distinctKeys = true := by
  induction entries with
  | nil => cases found
  | cons entry rest ih =>
      obtain ⟨first, other⟩ := entry
      rw [Toml.Value.distinctEntries, Bool.and_eq_true] at distinct
      rw [List.lookup_cons] at found
      split at found
      · cases found
        exact distinct.1
      · exact ih distinct.2 found

theorem verdict_decode (document : Toml.Value) (distinct : document.distinctKeys = true) :
    Verdict (decode document)
      (fun manifest => ∃ table, document = .table table ∧ IsManifest table manifest ∧
        Filled manifest.package)
      (faults document) := by
  cases document with
  | table table =>
      rw [Toml.Value.distinctKeys, Bool.and_eq_true] at distinct
      refine (verdict_decode_table table fun key entries found => ?_).congr _ (by simp)
      have inner := distinctKeys_of_lookup table key _ distinct.2 found
      rw [Toml.Value.distinctKeys, Bool.and_eq_true, decide_eq_true_eq] at inner
      exact inner.1
  | _ => exact .reject _ _ (by simp)

def pick (keys : List String) (trim : String → Toml.Value → Toml.Value) (table : Toml.Table) :
    Toml.Table :=
  keys.filterMap fun key => (table.lookup key).map fun value => (key, trim key value)

def onTable (f : Toml.Table → Toml.Table) : Toml.Value → Toml.Value
  | .table entries => .table (f entries)
  | other => other

def packageEssence : Toml.Table → Toml.Table :=
  pick ["name", "version", "authors", "license"] fun _ => id

def dependencyEssence : Toml.Table → Toml.Table := pick ["local", "git", "rev"] fun _ => id

def partEssence (key : String) : Toml.Value → Toml.Value :=
  if key = "package" then onTable packageEssence
  else if key = "addresses" then id
  else onTable fun entries => entries.map fun entry => (entry.1, onTable dependencyEssence entry.2)

/-- A document without the keys that no rule speaks of. -/
def essence : Toml.Value → Toml.Value :=
  onTable (pick ["package", "addresses", "dependencies", "dev-dependencies"] partEssence)

theorem lookup_pick (keys : List String) (trim : String → Toml.Value → Toml.Value)
    (table : Toml.Table) (key : String) (member : key ∈ keys) :
    (pick keys trim table).lookup key = (table.lookup key).map (trim key) := by
  have whole : (pick keys trim table).lookup key =
      if key ∈ keys then (table.lookup key).map (trim key) else none := by
    clear member
    induction keys with
    | nil => rfl
    | cons first rest ih =>
        rw [pick, List.filterMap_cons, ← pick]
        cases found : table.lookup first with
        | none =>
            rw [Option.map_none, ih]
            by_cases same : key = first
            · simp [same, found]
            · simp [same]
        | some value =>
            by_cases same : key = first
            · simp [same, found]
            · have apart : (key == first) = false := by simpa using same
              simp [List.lookup_cons, apart, ih, same]
  rw [whole, if_pos member]

theorem decodePackage_essence (table : Toml.Table) :
    decodePackage (packageEssence table) = decodePackage table := by
  have same (key : String) (member : key ∈ ["name", "version", "authors", "license"]) :
      (packageEssence table).lookup key = table.lookup key := by
    rw [packageEssence, lookup_pick _ _ _ _ member, Option.map_id, id]
  simp only [decodePackage, requiredText, decodeAuthors, decodeLicense, same, List.mem_cons,
    true_or, or_true]

theorem decodeDependency_essence (table : String) (entry : String × Toml.Value) :
    decodeDependency table (entry.1, onTable dependencyEssence entry.2) =
      decodeDependency table entry := by
  obtain ⟨name, value⟩ := entry
  cases value with
  | table fields =>
      have same (key : String) (member : key ∈ ["local", "git", "rev"]) :
          (dependencyEssence fields).lookup key = fields.lookup key := by
        rw [dependencyEssence, lookup_pick _ _ _ _ member, Option.map_id, id]
      simp only [decodeDependency, onTable, dependencyText, same, List.mem_cons, true_or, or_true]
  | _ => rfl

theorem packageOf_essence (document : Toml.Table) (keys : List String)
    (member : "package" ∈ keys) :
    packageOf (pick keys partEssence document) = packageOf document := by
  unfold packageOf
  rw [lookup_pick _ _ _ _ member]
  cases document.lookup "package" with
  | none => rfl
  | some value =>
      cases value with
      | table table => exact decodePackage_essence table
      | _ => rfl

theorem decodeMap_of_map {α : Type} (left right : Toml.Table) (key : String)
    (decodeEntry : String × Toml.Value → Except Error (String × α))
    (f : String × Toml.Value → String × Toml.Value)
    (blind : ∀ entry, decodeEntry (f entry) = decodeEntry entry)
    (trimmed : left.lookup key = (right.lookup key).map (onTable (List.map f))) :
    decodeMap left key decodeEntry = decodeMap right key decodeEntry := by
  unfold decodeMap table?
  rw [trimmed]
  cases right.lookup key with
  | none => rfl
  | some value =>
      cases value with
      | table entries =>
          have items : (entries.map f).mapM decodeEntry = entries.mapM decodeEntry := by
            rw [List.mapM_map]
            congr 1
            exact funext blind
          exact congrArg (fun outcome => outcome >>= fun items => .ok (OrderedMap.ofList items))
            items
      | _ => rfl

theorem addresses_essence (document : Toml.Table) (keys : List String)
    (member : "addresses" ∈ keys) :
    decodeMap (pick keys partEssence document) "addresses" decodeAddress =
      decodeMap document "addresses" decodeAddress := by
  have same : (pick keys partEssence document).lookup "addresses" =
      document.lookup "addresses" := by
    rw [lookup_pick _ _ _ _ member]
    exact Option.map_id'
  simp only [decodeMap, table?, same]

theorem dependencies_essence (document : Toml.Table) (keys : List String) (table : String)
    (member : table ∈ keys) (notPackage : table ≠ "package") (notAddresses : table ≠ "addresses") :
    decodeMap (pick keys partEssence document) table (decodeDependency table) =
      decodeMap document table (decodeDependency table) := by
  refine decodeMap_of_map _ _ _ _ _ (decodeDependency_essence table) ?_
  rw [lookup_pick _ _ _ _ member, partEssence, if_neg notPackage, if_neg notAddresses]

theorem decode_essence (document : Toml.Value) : decode (essence document) = decode document := by
  cases document with
  | table table =>
      rw [essence, onTable, decode_table, decode_table, packageOf_essence _ _ (by simp),
        addresses_essence _ _ (by simp),
        dependencies_essence _ _ "dependencies" (by simp) (by decide) (by decide),
        dependencies_essence _ _ "dev-dependencies" (by simp) (by decide) (by decide)]
  | _ => rfl

theorem decode_exact (document : Toml.Value) (distinct : document.distinctKeys = true) :
    (∀ manifest, decode document = .ok manifest ↔
      ∃ table, document = .table table ∧ IsManifest table manifest ∧ Filled manifest.package) ∧
    (∀ error, decode document = .error error ↔ (faults document).head? = some error) ∧
    ∀ other, essence other = essence document → decode other = decode document := by
  have verdict := verdict_decode document distinct
  refine ⟨verdict.accepts, verdict.rejects, fun other same => ?_⟩
  rw [← decode_essence other, same, decode_essence]

def clash : Toml.Value :=
  .table [
    ("package", .table [("name", .string "app"), ("version", .string "1"), ("edition", .array [])]),
    ("dependencies", .table [("base", .table [("rev", .string "v1")]),
      ("lib", .table [("git", .string "lib.git"), ("local", .string "../lib")])]),
    ("dev-dependencies", .string "none")]

theorem decode_exact_clash :
    clash.distinctKeys = true ∧ decode clash = .error (.ambiguous "lib") := by
  have distinct : clash.distinctKeys = true := by decide
  exact ⟨distinct, ((decode_exact clash distinct).2.1 _).mpr rfl⟩

end PackageClosure.Manifest
