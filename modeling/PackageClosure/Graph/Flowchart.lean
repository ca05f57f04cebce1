import PackageClosure.Graph.Basic
import PackageClosure.Path.Raw

set_option autoImplicit false

namespace PackageClosure

-- The path of a location from a base, or the whole path if the location is not below it.
def Location.pathFrom (location : Location) (base : Path) : Path :=
  if location.path.startsWith base then
    if base.steps = [] then location.path
    else .ofSteps (location.path.steps.drop base.steps.length)
  else location.path

def Edge.label (edge : Edge) : String :=
  edge.name ++ (if edge.group = .dev then " (dev)" else "") ++
    (if edge.aliased then " (alias)" else "")

namespace Graph

def nodeLine (base : Path) (index : Nat) (node : Node) : String :=
  s!"    N{index}[\"{node.name}<br><br>{(node.location.pathFrom base).shown}\"]\n"

def linkLine (link : Link) : String :=
  s!"    N{link.source} -->|{link.edge.label}| N{link.target}\n"

def flowchart (graph : Graph) (base : Path) : String :=
  "flowchart TD\n" ++
    "".intercalate (graph.nodes.mapIdx fun index node => nodeLine base index node) ++
    "".intercalate (graph.links.map linkLine)

end Graph

end PackageClosure
