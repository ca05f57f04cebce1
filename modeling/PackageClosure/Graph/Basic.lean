import PackageClosure.Manifest.Basic
import PackageClosure.Path.Location

set_option autoImplicit false

namespace PackageClosure

structure Node where
  name : String
  location : Location
deriving DecidableEq

structure Edge where
  name : String
  group : Group
  -- An alias took the place of what the entry says.
  aliased : Bool
deriving DecidableEq, Repr

structure Link where
  source : Nat
  target : Nat
  edge : Edge
deriving DecidableEq, Repr

structure Graph where
  nodes : List Node
  links : List Link
deriving DecidableEq

namespace Graph

def empty : Graph := ⟨[], []⟩

def indexOf? (graph : Graph) (location : Location) : Option Nat :=
  graph.nodes.findIdx? fun node => node.location = location

def addNode (graph : Graph) (node : Node) : Graph :=
  match graph.indexOf? node.location with
  | some _ => graph
  | none => { graph with nodes := graph.nodes ++ [node] }

def addLink (graph : Graph) (source target : Location) (edge : Edge) : Graph :=
  match graph.indexOf? source, graph.indexOf? target with
  | some source, some target => { graph with links := graph.links ++ [⟨source, target, edge⟩] }
  | _, _ => graph

def locations (graph : Graph) : List Location := graph.nodes.map Node.location

theorem indexOf?_eq_none_iff (graph : Graph) (location : Location) :
    graph.indexOf? location = none ↔ location ∉ graph.locations := by
  simp [indexOf?, locations, List.findIdx?_eq_none_iff]

theorem nodes_addNode (graph : Graph) (node : Node) (fresh : node.location ∉ graph.locations) :
    (graph.addNode node).nodes = graph.nodes ++ [node] := by
  have none := (graph.indexOf?_eq_none_iff node.location).mpr fresh
  simp [addNode, none]

theorem links_addNode (graph : Graph) (node : Node) :
    (graph.addNode node).links = graph.links := by
  unfold addNode
  split <;> rfl

theorem nodes_addLink (graph : Graph) (source target : Location) (edge : Edge) :
    (graph.addLink source target edge).nodes = graph.nodes := by
  unfold addLink
  split <;> rfl

end Graph

end PackageClosure
