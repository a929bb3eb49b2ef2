import TableSearch.Yaml.Tag
import TableSearch.Yaml.Token

/-!
# The nodes of a YAML text

A node is a scalar, a list of nodes or a mapping between nodes.  A node that has a
name stands once, beside the others; where it occurs, a reference to its name stands
in its place.  So a node may occur in several places, and even inside of itself.
-/

namespace TableSearch.Yaml

inductive Node where
  | scalar (tag : Tag) (content : Content)
  | list (tag : Tag) (items : List Node)
  | map (tag : Tag) (entries : List (Node × Node))
  | reference (name : String)

/-- A node with the nodes that have names, in the order in which they end.  What a
node refers to stands in front of it, unless it is inside of what it refers to. -/
structure Document where
  root : Node
  named : List (String × Node)

def Node.empty : Node := .scalar .null { text := "" }

end TableSearch.Yaml
