import Outline.Node
import Outline.Text.Quoted

/-!
# Nodes in diagnostics

A node can be described by all its parts, on one line (`Node.describe`) or spread over lines with
four spaces for each level (`Node.describeOver`).
-/

namespace Outline

/-- An optional value on one line. -/
def describeValue : Option String → String
  | none => "None"
  | some v => "Some(" ++ Text.quote v ++ ")"

namespace Node

/-! ### On one line -/

mutual

/-- A node on one line. -/
def describe : Node → String
  | leaf n v =>
    "Leaf \x7b name: " ++ Text.quote n ++ ", value: " ++ describeValue v ++ " \x7d"
  | group n v cs =>
    "Group \x7b name: " ++ Text.quote n ++ ", value: " ++ describeValue v ++
      ", children: [" ++ describeList cs ++ "] \x7d"

/-- Nodes on one line, with commas between them. -/
def describeList : List Node → String
  | [] => ""
  | [n] => n.describe
  | n :: ns => n.describe ++ ", " ++ describeList ns

end

/-! ### Over several lines -/

/-- A line break and the spaces of a level. -/
def lineBreak (level : Nat) : String :=
  "\n" ++ String.ofList (List.replicate (4 * level) ' ')

/-- An optional value over several lines, where the value stands one level deeper. -/
def describeValueOver (level : Nat) : Option String → String
  | none => "None"
  | some v => "Some(" ++ lineBreak (level + 1) ++ Text.quote v ++ "," ++ lineBreak level ++ ")"

mutual

/-- A node over several lines, as it stands at a level. -/
def describeAt (level : Nat) : Node → String
  | leaf n v =>
    "Leaf \x7b" ++ lineBreak (level + 1) ++ "name: " ++ Text.quote n ++ "," ++
      lineBreak (level + 1) ++ "value: " ++ describeValueOver (level + 1) v ++ "," ++
      lineBreak level ++ "\x7d"
  | group n v cs =>
    "Group \x7b" ++ lineBreak (level + 1) ++ "name: " ++ Text.quote n ++ "," ++
      lineBreak (level + 1) ++ "value: " ++ describeValueOver (level + 1) v ++ "," ++
      lineBreak (level + 1) ++ "children: [" ++ describeListAt (level + 2) cs ++
      (if cs.isEmpty then "" else lineBreak (level + 1)) ++ "]," ++ lineBreak level ++ "\x7d"

/-- Nodes over several lines, each followed by a comma. -/
def describeListAt (level : Nat) : List Node → String
  | [] => ""
  | n :: ns => lineBreak level ++ n.describeAt level ++ "," ++ describeListAt level ns

end

/-- A node over several lines. -/
def describeOver (n : Node) : String := n.describeAt 0

end Node

end Outline
