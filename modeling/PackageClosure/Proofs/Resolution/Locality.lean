import PackageClosure.Proofs.Manifest.Respelling
import PackageClosure.Proofs.Resolution.Closure
import PackageClosure.Proofs.Resolution.Descent

set_option autoImplicit false

namespace PackageClosure

abbrev Inside : Type :=
  List Location → Location → Manifest → Progress → List Location → Option Journal

def Inside.Extends (inside : Inside) : Prop :=
  ∀ above package manifest progress asked journal,
    inside above package manifest progress asked = some journal → asked <+: journal.asked

def Inside.Carries (left right : Inside) (storage other : Storage) : Prop :=
  ∀ above package one two progress asked journal, one.normalized = two.normalized →
    left above package one progress asked = some journal →
    (∀ next ∈ journal.asked, storage.Agrees other next) →
    right above package two progress asked = some journal

namespace Progress

variable (progress : Progress) (source : Location) (entry other : Entry) (target : Target)

theorem addLink_congr (name : other.name = entry.name) (group : other.group = entry.group) :
    progress.addLink source other target = progress.addLink source entry target := by
  rw [addLink, addLink, name, group]

theorem visit_congr (manifest respelled : Manifest) (name : other.name = entry.name)
    (group : other.group = entry.group) (same : manifest.normalized = respelled.normalized) :
    progress.visit source other target respelled = progress.visit source entry target manifest := by
  rw [visit, visit, Manifest.declarations_eq_of_normalized same,
    Manifest.package_eq_of_normalized same, addLink_congr _ _ entry other _ name group]

end Progress

namespace Resolver

variable (resolver : Resolver)

theorem extends_scan (inside : Inside) (above : List Location) (package : Location)
    (aliases : Aliases) (entries : List Entry) (progress : Progress) (asked : List Location)
    (journal : Journal) (deeper : inside.Extends)
    (done : resolver.scan inside above package aliases entries progress asked = some journal) :
    asked <+: journal.asked := by
  fun_induction scan resolver inside above package aliases entries progress asked
  case case1 =>
      cases done
      exact List.prefix_refl _
  case case2 ih => exact ih done
  case case3 =>
      cases done
      exact List.prefix_refl _
  case case4 ih => exact ih done
  case case5 =>
      cases done
      exact List.prefix_append _ _
  case case6 => cases done
  case case7 isInner =>
      cases done
      exact (List.prefix_append _ _).trans (deeper _ _ _ _ _ _ isInner)
  case case8 isInner ih =>
      exact ((List.prefix_append _ _).trans (deeper _ _ _ _ _ _ isInner)).trans (ih done)

theorem extends_descend (limit : Nat) :
    Inside.Extends fun above package manifest progress asked =>
      resolver.descend limit above package .empty manifest progress asked := by
  induction limit with
  | zero =>
      intro above package manifest progress asked journal done
      cases done
  | succ limit ih =>
      intro above package manifest progress asked journal done
      exact resolver.extends_scan _ above package .empty manifest.entries progress asked journal ih
        done

-- The induction is on the entries. Whatever is asked for has been asked for in the end as well, so
-- both storages agree on it.
theorem scan_congr (storage : Storage) (left right : Inside) (above : List Location)
    (package : Location) (aliases others : Aliases) (entries respelled : List Entry)
    (progress : Progress) (asked : List Location) (journal : Journal)
    (same : entries.Forall₂ (Entry.Agrees resolver.current aliases others package) respelled)
    (deeper : left.Extends) (carries : left.Carries right resolver.storage storage)
    (done : resolver.scan left above package aliases entries progress asked = some journal)
    (loads : ∀ next ∈ journal.asked, resolver.storage.Agrees storage next) :
    scan { resolver with storage } right above package others respelled progress asked =
      some journal := by
  fun_induction scan resolver left above package aliases entries progress asked
    generalizing respelled
  case case1 =>
      cases same
      exact done
  case case2 progress asked entry rest none ih =>
      obtain _ | ⟨agrees, later⟩ := same
      rw [scan, agrees.target, none]
      exact ih _ later done
  case case3 progress asked entry rest next aliased found member =>
      obtain _ | ⟨agrees, later⟩ := same
      rw [scan, agrees.target, found]
      simp only [if_pos member]
      exact done
  case case4 progress asked entry rest next aliased found fresh complete ih =>
      obtain _ | ⟨agrees, later⟩ := same
      rw [scan, agrees.target, found]
      simp only [if_neg fresh, if_pos complete]
      rw [progress.addLink_congr package entry _ _ agrees.name agrees.group]
      exact ih _ later done
  case case5 progress asked entry rest next aliased found fresh pending cause failed =>
      obtain _ | ⟨agrees, _⟩ := same
      cases done
      have load := loads next (List.mem_append_right _ List.mem_cons_self)
      rw [scan, agrees.target, found]
      simp only [if_neg fresh, if_neg pending, load.of_error cause failed]
  case case6 => cases done
  case case7 progress asked entry rest next aliased found fresh pending manifest loaded error later
      isInner =>
      obtain _ | ⟨agrees, _⟩ := same
      cases done
      have known : next ∈ later :=
        (deeper _ _ _ _ _ _ isInner).subset (List.mem_append_right _ List.mem_cons_self)
      obtain ⟨two, isTwo, spelled⟩ := (loads next known).of_ok manifest loaded
      have inner := carries _ _ manifest two _ _ _ spelled isInner loads
      rw [scan, agrees.target, found]
      simp only [if_neg fresh, if_neg pending, isTwo]
      rw [progress.visit_congr package entry _ _ manifest two agrees.name agrees.group spelled,
        inner]
  case case8 progress asked entry rest next aliased found fresh pending manifest loaded after
      middle isInner ih =>
      obtain _ | ⟨agrees, later⟩ := same
      have asks :=
        resolver.extends_scan left above package aliases rest _ middle journal deeper done
      have known : next ∈ middle :=
        (deeper _ _ _ _ _ _ isInner).subset (List.mem_append_right _ List.mem_cons_self)
      obtain ⟨two, isTwo, spelled⟩ := (loads next (asks.subset known)).of_ok manifest loaded
      have inner := carries _ _ manifest two _ _ _ spelled isInner
        fun other member => loads other (asks.subset member)
      rw [scan, agrees.target, found]
      simp only [if_neg fresh, if_neg pending, isTwo]
      rw [progress.visit_congr package entry _ _ manifest two agrees.name agrees.group spelled,
        inner]
      exact ih _ later done

-- The limit may be higher over the other storage, which may hold more files.
theorem descend_congr (storage : Storage) (limit more : Nat) (above : List Location)
    (package : Location) (aliases others : Aliases) (manifest respelled : Manifest)
    (progress : Progress) (asked : List Location) (journal : Journal)
    (same : manifest.entries.Forall₂ (Entry.Agrees resolver.current aliases others package)
      respelled.entries)
    (done : resolver.descend limit above package aliases manifest progress asked = some journal)
    (loads : ∀ next ∈ journal.asked, resolver.storage.Agrees storage next) :
    descend { resolver with storage } (limit + more) above package others respelled progress asked =
      some journal := by
  induction limit generalizing above package aliases others manifest respelled progress asked
    journal with
  | zero => cases done
  | succ limit ih =>
      rw [Nat.succ_add, descend]
      refine resolver.scan_congr storage _ _ above package aliases others _ _ progress asked journal
        same (resolver.extends_descend limit) ?_ done loads
      intro above package one two progress asked journal spelled inner loads
      exact ih above package .empty .empty one two progress asked journal
        (one.agrees_of_normalized two _ _ _ package spelled fun _ => rfl) inner loads

theorem exists_descend (limit : Nat) (manifest : Manifest) (root : Location) (aliases : Aliases)
    (room : resolver.storage.fileBound ≤ limit) :
    ∃ asked,
      resolver.descend (limit + 1) [root] root aliases manifest (resolver.begin manifest root) [] =
        some ⟨resolver.explore manifest root aliases, asked⟩ ∧
      ∀ done, resolver.explore manifest root aliases = .ok done → done.packages = asked := by
  obtain ⟨asked, scanned, _, known⟩ := resolver.walk_within limit (.start root) aliases
    manifest.entries (resolver.begin manifest root) [] room (.start root rfl)
  exact ⟨asked, scanned, fun done isDone => (known done isDone).met⟩

def asked (manifest : Manifest) (root : Location) (aliases : Aliases) : List Location :=
  match resolver.descend (resolver.storage.fileBound + 1) [root] root aliases manifest
      (resolver.begin manifest root) [] with
  | some journal => journal.asked
  | none => []

theorem descend_asked (manifest : Manifest) (root : Location) (aliases : Aliases) :
    resolver.descend (resolver.storage.fileBound + 1) [root] root aliases manifest
        (resolver.begin manifest root) [] =
      some ⟨resolver.explore manifest root aliases, resolver.asked manifest root aliases⟩ := by
  obtain ⟨asked, done, _⟩ := resolver.exists_descend _ manifest root aliases (Nat.le_refl _)
  rw [Resolver.asked, done]

theorem asked_of_explore (manifest : Manifest) (root : Location) (aliases : Aliases)
    (done : Progress) (ok : resolver.explore manifest root aliases = .ok done) :
    resolver.asked manifest root aliases = done.packages := by
  obtain ⟨asked, descended, met⟩ :=
    resolver.exists_descend _ manifest root aliases (Nat.le_refl _)
  rw [Resolver.asked, descended, met done ok]

theorem explore_congr (storage : Storage) (manifest respelled : Manifest) (root : Location)
    (aliases others : Aliases) (package : respelled.package = manifest.package)
    (addresses : respelled.addresses = manifest.addresses)
    (same : manifest.entries.Forall₂ (Entry.Agrees resolver.current aliases others root)
      respelled.entries)
    (loads : ∀ next ∈ resolver.asked manifest root aliases, resolver.storage.Agrees storage next) :
    explore { resolver with storage } respelled root others =
      resolver.explore manifest root aliases := by
  let other : Resolver := { resolver with storage }
  have start : other.begin respelled root = resolver.begin manifest root := by
    simp only [begin, Manifest.declarations, package, addresses, other]
  have here := resolver.descend_congr storage _ storage.fileBound [root] root aliases others
    manifest respelled _ [] _ same (resolver.descend_asked manifest root aliases) loads
  obtain ⟨asked, there, _⟩ := other.exists_descend (resolver.storage.fileBound + storage.fileBound)
    respelled root others (Nat.le_add_left _ _)
  rw [start, Nat.add_right_comm] at there
  exact congrArg Journal.result (Option.some.inj (there.symm.trans here))

end Resolver

theorem resolve_local (resolver : Resolver) (storage : Storage) (manifest : Manifest) (root : Path)
    (aliases others : Aliases)
    (reads : ∀ package ∈ resolver.asked manifest (root.orDot.locate resolver.current) aliases,
      storage.read (package.path.child manifestFile) =
        resolver.storage.read (package.path.child manifestFile))
    (agree : ∀ entry ∈ manifest.entries, others.get? entry.name = aliases.get? entry.name) :
    { resolver with storage }.resolve manifest root others =
        resolver.resolve manifest root aliases ∧
      ∀ resolution, resolver.resolve manifest root aliases = .ok resolution →
        resolver.asked manifest (root.orDot.locate resolver.current) aliases =
          resolution.packages := by
  have same := resolver.explore_congr storage manifest manifest
    (root.orDot.locate resolver.current) aliases others rfl rfl
    (List.forall₂_same.mpr fun entry member =>
      entry.agrees_of_normalized entry _ _ _ _ rfl (by rw [agree entry member]))
    (fun package member => resolver.storage.agrees_of_read storage package (reads package member))
  constructor
  · rw [Resolver.resolve_eq_map, Resolver.resolve_eq_map, same]
  · intro resolution ok
    obtain ⟨done, explored, rfl⟩ := (resolver.resolve_eq_ok_iff _ _ _ _).mp ok
    exact resolver.asked_of_explore manifest _ aliases done explored

namespace Diamond

def crowded : Memory :=
  ((memory.addFile ⟨"/other/Move.toml"⟩ Leaf.bytes).addFile ⟨"/base/extra.toml"⟩ []).addUnreadable
    ⟨"/app/Move.toml"⟩ "Permission denied"

def furtherAliases : Aliases := .ofList [("Right", ⟨"right"⟩), ("Base64", ⟨"/other"⟩)]

theorem asked_eq : resolver.asked app ((⟨"/app"⟩ : Path).orDot.locate resolver.current) aliases =
    [place "left", place "base", place "right"] :=
  resolver.asked_of_explore app _ aliases progress explore_eq

end Diamond

theorem resolve_local_diamond :
    let resolver : Resolver := { Diamond.resolver with storage := Diamond.crowded.storage }
    ((∀ package ∈ [Diamond.place "left", Diamond.place "base", Diamond.place "right"],
        resolver.storage.read (package.path.child manifestFile) =
          Diamond.resolver.storage.read (package.path.child manifestFile)) ∧
      ∀ entry ∈ Diamond.app.entries,
        Diamond.furtherAliases.get? entry.name = Diamond.aliases.get? entry.name) ∧
      resolver.resolve Diamond.app ⟨"/app"⟩ Diamond.furtherAliases =
        .ok ⟨Diamond.place "app", Diamond.app, Diamond.progress.packages,
          Diamond.progress.addresses, Diamond.progress.graph⟩ := by
  intro resolver
  have reads : ∀ package ∈ [Diamond.place "left", Diamond.place "base", Diamond.place "right"],
      resolver.storage.read (package.path.child manifestFile) =
        Diamond.resolver.storage.read (package.path.child manifestFile) := by
    decide +kernel
  have agree : ∀ entry ∈ Diamond.app.entries,
      Diamond.furtherAliases.get? entry.name = Diamond.aliases.get? entry.name := by
    decide +kernel
  have same := resolve_local Diamond.resolver Diamond.crowded.storage Diamond.app ⟨"/app"⟩
    Diamond.aliases Diamond.furtherAliases (Diamond.asked_eq ▸ reads) agree
  exact ⟨⟨reads, agree⟩, same.1.trans Diamond.resolve_eq⟩

end PackageClosure
