import PackageClosure.Proofs.Resolution.Locality

set_option autoImplicit false

namespace PackageClosure

-- Where a resolution goes out from hangs only on where its root is. Where the current directory is
-- not known, paths are taken as they are.
theorem Path.locate_orDot (path : Path) (current : Location)
    (known : current.isAbsolute = true ∨ current = .here) :
    path.orDot.locate current =
      if path.locate current = .here then current else path.locate current := by
  by_cases filled : path.text = ""
  · rw [path.locate_empty current filled, if_pos rfl, orDot, if_pos filled]
    exact locate_dot current
  · rw [path.orDot_of_filled filled]
    split
    · rename_i same
      rcases known with absolute | rfl
      · have place := path.isAbsolute_locate current absolute filled
        rw [same] at place
        cases place
      · exact same
    · rfl

theorem spelling_immaterial (resolver : Resolver) (storage : Storage)
    (manifest respelled : Manifest) (root other : Path) (aliases others : Aliases)
    (known : resolver.current.isAbsolute = true ∨ resolver.current = .here)
    (roots : root.locate resolver.current = other.locate resolver.current)
    (places : ∀ name, (others.get? name).map (Path.locate resolver.current) =
      (aliases.get? name).map (Path.locate resolver.current))
    (manifests : manifest.normalized = respelled.normalized)
    (loads : ∀ package ∈ resolver.asked manifest (root.orDot.locate resolver.current) aliases,
      resolver.storage.Agrees storage package) :
    { resolver with storage }.resolve respelled other others =
      (resolver.resolve manifest root aliases).map fun resolution =>
        { resolution with manifest := respelled } := by
  let start := root.orDot.locate resolver.current
  have starts : other.orDot.locate resolver.current = start := by
    rw [other.locate_orDot _ known, ← roots, ← root.locate_orDot _ known]
  have same := resolver.explore_congr storage manifest respelled start aliases others
    (Manifest.package_eq_of_normalized manifests).symm
    (Manifest.addresses_eq_of_normalized manifests).symm
    (manifest.agrees_of_normalized respelled _ aliases others start manifests places) loads
  rw [Resolver.resolve_eq_map, Resolver.resolve_eq_map, starts, same, ← roots]
  cases resolver.explore manifest start aliases <;> rfl

namespace Diamond

def rewrittenText : String :=
  "\n".intercalate ["[package]", "name = \"Left\"", "version = \"1\"", "[addresses]",
    "std = \"0x1\"", "[dependencies.Base]", "local = \"./../right/..//base/\""]

def rewritten : Memory :=
  memory.addFile ⟨"/left/Move.toml"⟩ (Text.encodeUtf8 rewrittenText)

def rewrittenLeft : Manifest :=
  manifest "Left" [("std", "0x1")] [("Base", .path ⟨"./../right/..//base/"⟩)] []

def rewrittenApp : Manifest :=
  manifest "App" [("app", "0x0")] [("Left", .path ⟨"..//left/."⟩), ("Right", .unspecified)]
    [("Base", .path ⟨"./x/../../base"⟩)]

def rewrittenAliases : Aliases := .ofList [("Right", ⟨"./left/../right/"⟩)]

theorem agrees_left : resolver.storage.Agrees rewritten.storage (place "left") := by
  have loaded : rewritten.storage.manifestAt (place "left").path = .ok rewrittenLeft :=
    rewritten.storage.manifestAt_of_text _ rewrittenText _
      (Memory.read_addFile _ _ _ _ (by decide)) (by decide +kernel)
  rw [Storage.Agrees, manifestAt_left, loaded]
  decide +kernel

theorem agrees_rewritten : ∀ package ∈ [place "left", place "base", place "right"],
    resolver.storage.Agrees rewritten.storage package := by
  have agrees_base : resolver.storage.Agrees rewritten.storage (place "base") :=
    Storage.agrees_of_read _ _ _ (by decide +kernel)
  have agrees_right : resolver.storage.Agrees rewritten.storage (place "right") :=
    Storage.agrees_of_read _ _ _ (by decide +kernel)
  simp only [List.forall_mem_cons, List.not_mem_nil, false_implies, implies_true, and_true]
  exact ⟨agrees_left, agrees_base, agrees_right⟩

theorem places_rewritten (name : String) :
    (rewrittenAliases.get? name).map (Path.locate .root) =
      (aliases.get? name).map (Path.locate .root) := by
  simp only [rewrittenAliases, aliases, Aliases.ofList, List.foldl_cons, List.foldl_nil,
    SortedMap.get?_insert, SortedMap.get?_empty]
  split
  · decide
  · rfl

end Diamond

theorem spelling_immaterial_diamond :
    let resolver : Resolver := { Diamond.resolver with storage := Diamond.rewritten.storage }
    ((⟨"/app"⟩ : Path).locate .root = (⟨"x/..//app/."⟩ : Path).locate .root ∧
      (∀ name, (Diamond.rewrittenAliases.get? name).map (Path.locate .root) =
        (Diamond.aliases.get? name).map (Path.locate .root)) ∧
      Diamond.app.normalized = Diamond.rewrittenApp.normalized ∧
      ∀ package ∈ [Diamond.place "left", Diamond.place "base", Diamond.place "right"],
        Diamond.resolver.storage.Agrees resolver.storage package) ∧
      resolver.resolve Diamond.rewrittenApp ⟨"x/..//app/."⟩ Diamond.rewrittenAliases =
        .ok ⟨Diamond.place "app", Diamond.rewrittenApp, Diamond.progress.packages,
          Diamond.progress.addresses, Diamond.progress.graph⟩ := by
  have roots : (⟨"/app"⟩ : Path).locate .root = (⟨"x/..//app/."⟩ : Path).locate .root := by decide
  have manifests : Diamond.app.normalized = Diamond.rewrittenApp.normalized := by decide +kernel
  have same := spelling_immaterial Diamond.resolver Diamond.rewritten.storage Diamond.app
    Diamond.rewrittenApp ⟨"/app"⟩ ⟨"x/..//app/."⟩ Diamond.aliases Diamond.rewrittenAliases
    (.inl rfl) roots Diamond.places_rewritten manifests
    (Diamond.asked_eq ▸ Diamond.agrees_rewritten)
  rw [Diamond.resolve_eq] at same
  exact ⟨⟨roots, Diamond.places_rewritten, manifests, Diamond.agrees_rewritten⟩, same⟩

end PackageClosure
