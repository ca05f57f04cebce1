import Mathlib.Data.List.Nodup
import PackageClosure.Graph.Basic

set_option autoImplicit false

namespace PackageClosure

structure Arc where
  source : Location
  edge : Edge
  target : Location
deriving DecidableEq

namespace Graph

def arc? (graph : Graph) (link : Link) : Option Arc :=
  match graph.locations[link.source]?, graph.locations[link.target]? with
  | some source, some target => some ⟨source, link.edge, target⟩
  | _, _ => none

def Shows (graph : Graph) (arcs : List Arc) : Prop := graph.links.map graph.arc? = arcs.map some

theorem arc?_eq_some_iff (graph : Graph) (link : Link) (arc : Arc) :
    graph.arc? link = some arc ↔ graph.locations[link.source]? = some arc.source ∧
      graph.locations[link.target]? = some arc.target ∧ link.edge = arc.edge := by
  unfold arc?
  cases graph.locations[link.source]? <;> cases graph.locations[link.target]? <;>
    cases arc <;> simp [and_comm]

theorem indexOf?_eq_some (graph : Graph) (location : Location)
    (member : location ∈ graph.locations) :
    ∃ index, graph.indexOf? location = some index ∧ graph.locations[index]? = some location := by
  cases found : graph.indexOf? location with
  | none => exact absurd member ((graph.indexOf?_eq_none_iff location).mp found)
  | some index =>
      refine ⟨index, rfl, ?_⟩
      obtain ⟨bound, same, _⟩ := List.findIdx?_eq_some_iff_getElem.mp found
      simpa [locations, bound] using same

theorem locations_addNode_prefix (graph : Graph) (node : Node) :
    graph.locations <+: (graph.addNode node).locations := by
  unfold addNode
  split
  · exact List.prefix_refl _
  · simp [locations]

theorem arc?_of_prefix (graph next : Graph) (grown : graph.locations <+: next.locations)
    (link : Link) (arc : Arc) (shown : graph.arc? link = some arc) :
    next.arc? link = some arc := by
  obtain ⟨source, target, edge⟩ := (graph.arc?_eq_some_iff link arc).mp shown
  obtain ⟨more, same⟩ := grown
  refine (next.arc?_eq_some_iff link arc).mpr ⟨?_, ?_, edge⟩
  · rw [← same, List.getElem?_append_left (List.getElem?_eq_some_iff.mp source).1, source]
  · rw [← same, List.getElem?_append_left (List.getElem?_eq_some_iff.mp target).1, target]

theorem arc?_of_mem (graph : Graph) (arcs : List Arc) (shows : graph.Shows arcs) (link : Link)
    (member : link ∈ graph.links) : ∃ arc ∈ arcs, graph.arc? link = some arc := by
  have inside : graph.arc? link ∈ arcs.map some := shows ▸ List.mem_map_of_mem member
  obtain ⟨arc, isArc, same⟩ := List.mem_map.mp inside
  exact ⟨arc, isArc, same.symm⟩

theorem shows_of_prefix (graph next : Graph) (arcs : List Arc)
    (grown : graph.locations <+: next.locations) (same : next.links = graph.links)
    (shows : graph.Shows arcs) : next.Shows arcs := by
  have kept : graph.links.map next.arc? = graph.links.map graph.arc? := by
    apply List.map_congr_left
    intro link member
    obtain ⟨arc, _, shown⟩ := graph.arc?_of_mem arcs shows link member
    rw [shown, graph.arc?_of_prefix next grown link arc shown]
  rw [Shows, same, kept]
  exact shows

theorem shows_addNode (graph : Graph) (arcs : List Arc) (node : Node)
    (shows : graph.Shows arcs) : (graph.addNode node).Shows arcs :=
  graph.shows_of_prefix _ arcs (graph.locations_addNode_prefix node) (graph.links_addNode node)
    shows

theorem shows_addLink (graph : Graph) (arcs : List Arc) (source target : Location) (edge : Edge)
    (isSource : source ∈ graph.locations) (isTarget : target ∈ graph.locations)
    (shows : graph.Shows arcs) :
    (graph.addLink source target edge).Shows (arcs ++ [⟨source, edge, target⟩]) := by
  obtain ⟨first, firstFound, firstHere⟩ := graph.indexOf?_eq_some source isSource
  obtain ⟨second, secondFound, secondHere⟩ := graph.indexOf?_eq_some target isTarget
  have links : (graph.addLink source target edge).links =
      graph.links ++ [⟨first, second, edge⟩] := by
    simp only [addLink, firstFound, secondFound]
  have arcs? : (graph.addLink source target edge).arc? = graph.arc? := by
    funext link
    rw [arc?, arc?, locations, graph.nodes_addLink source target edge, ← locations]
  have added : graph.arc? ⟨first, second, edge⟩ = some ⟨source, edge, target⟩ :=
    (graph.arc?_eq_some_iff _ _).mpr ⟨firstHere, secondHere, rfl⟩
  rw [Shows, links, arcs?, List.map_append, List.map_append, shows]
  exact congrArg _ (congrArg (fun arc => [arc]) added)

theorem arcs_from (graph : Graph) (arcs : List Arc) (distinct : graph.locations.Nodup)
    (shows : graph.Shows arcs) (index : Nat) (location : Location)
    (here : graph.locations[index]? = some location) :
    (graph.links.filter fun link => link.source = index).map graph.arc? =
      (arcs.filter fun arc => arc.source = location).map some := by
  have same : ∀ link ∈ graph.links, ∀ arc, graph.arc? link = some arc →
      (link.source = index ↔ arc.source = location) := by
    intro link _ arc shown
    obtain ⟨source, _, _⟩ := (graph.arc?_eq_some_iff link arc).mp shown
    obtain ⟨bound, isHere⟩ := List.getElem?_eq_some_iff.mp here
    obtain ⟨linkBound, isSource⟩ := List.getElem?_eq_some_iff.mp source
    rw [← isHere, ← isSource, distinct.getElem_inj_iff]
  -- Edges and arcs are gone through side by side. No location has two nodes,
  -- so an edge is dropped exactly when its arc is.
  rw [Shows] at shows
  generalize graph.links = links at same shows
  induction links generalizing arcs with
  | nil =>
      have none : arcs = [] := by simpa using shows.symm
      rw [none]
      rfl
  | cons link rest ih =>
      cases arcs with
      | nil => simp at shows
      | cons arc more =>
          rw [List.map_cons, List.map_cons, List.cons.injEq] at shows
          have tail := ih more (fun other member => same other (List.mem_cons_of_mem _ member))
            shows.2
          have first := same link List.mem_cons_self arc shows.1
          by_cases here : arc.source = location
          · simp only [List.filter_cons, first.mpr here, here, decide_true, if_true,
              List.map_cons, shows.1, tail]
          · have away : ¬ link.source = index := fun isHere => here (first.mp isHere)
            simp only [List.filter_cons, away, here, decide_false, Bool.false_eq_true, if_false,
              tail]

end Graph

end PackageClosure
