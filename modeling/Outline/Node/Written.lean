import Outline.Node
import Outline.Json.Writer

/-!
# Nodes as JSON

The JSON of a node is an object with the members `kind`, `name`, `value` if there is one, and
`children` for a group, in this order. It is read back as the same node.
-/

namespace Outline.Node

open Outline.Json (Value)

/-- The members that show kind, name and value. -/
def headMembers (kind name : String) (value : Option String) : List (String × Value) :=
  ("kind", .string kind) :: ("name", .string name) ::
    (value.map fun v => ("value", Value.string v)).toList

mutual

/-- The JSON of a node. -/
def toJson : Node → Value
  | leaf n v => .object (headMembers "leaf" n v)
  | group n v cs => .object (headMembers "group" n v ++ [("children", .array (listToJson cs))])

/-- The JSON of each node of a list. -/
def listToJson : List Node → List Value
  | [] => []
  | n :: ns => n.toJson :: listToJson ns

end

/-- The JSON text of a node, without blanks. -/
def json (n : Node) : String := n.toJson.text

/-- The JSON text of a list of nodes, without blanks. -/
def jsonList (ns : List Node) : String := (Value.array (ns.map toJson)).text

end Outline.Node
