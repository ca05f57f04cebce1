import PackageClosure.Proofs.Resolution.Growth

set_option autoImplicit false

namespace PackageClosure

def Resolver.declared (resolver : Resolver) (manifest : Manifest) (manifests : List Manifest) :
    List Declaration :=
  resolver.named.map (fun argument => ⟨argument.symbol, argument.address, commandLine⟩) ++
    manifest.declarations ++ manifests.flatMap Manifest.declarations

theorem Resolver.holds_begin (resolver : Resolver) (manifest : Manifest) (root : Location) :
    (resolver.begin manifest root).addresses.Holds (resolver.declared manifest []) := by
  rw [declared, List.flatMap_nil, List.append_nil]
  exact AddressTable.empty.holds_bindAll [] _ AddressTable.holds_empty

theorem addresses_unified (resolver : Resolver) (manifest : Manifest) (root : Path)
    (aliases : Aliases) (resolution : Resolution)
    (ok : resolver.resolve manifest root aliases = .ok resolution) :
    ∃ manifests, resolver.HasManifests resolution.packages manifests ∧
      resolution.addresses.Holds (resolver.declared manifest manifests) := by
  obtain ⟨done, explored, rfl⟩ := (resolver.resolve_eq_ok_iff _ _ _ _).mp ok
  let project := resolver.project manifest root.orDot aliases
  obtain ⟨visits, _, grows, _, loads⟩ := project.explore_grows done explored
  refine ⟨visits.map Visit.manifest, ?_, ?_⟩
  · rw [grows.packages]
    exact resolver.has_manifests_of_visits visits fun visit member => (loads visit member).2
  · have begun := resolver.holds_begin manifest project.root
    have all := AddressTable.holds_bindAll _ _ (visits.flatMap Visit.declarations) begun
    have same : resolver.declared manifest [] ++ visits.flatMap Visit.declarations =
        resolver.declared manifest (visits.map Visit.manifest) := by
      rw [Resolver.declared, Resolver.declared, List.flatMap_nil, List.append_nil,
        List.flatMap_map]
      rfl
    rw [grows.addresses, ← same]
    exact all

theorem addresses_unified_diamond :
    ∃ manifests, Diamond.resolver.HasManifests Diamond.progress.packages manifests ∧
      Diamond.progress.addresses.Holds (Diamond.resolver.declared Diamond.app manifests) :=
  addresses_unified Diamond.resolver Diamond.app ⟨"/app"⟩ Diamond.aliases _ Diamond.resolve_eq

end PackageClosure
