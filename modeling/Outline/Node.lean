/-!
# Nodes of an outline

A node is a leaf or a group. Both have a name and may carry a value; a group also has children,
in display order. Nodes are compared as values: two nodes are equal when kind, name, value and
all children agree, wherever they stand.

`Node.walk` lists a node and everything below it in pre-order, and `Node.walkAll` does so for a
forest. The lemmas beside them say what each lists.
-/

namespace Outline

/-- A leaf, or a group with children in display order. -/
inductive Node where
  /-- A node that cannot be expanded. -/
  | leaf (name : String) (value : Option String)
  /-- A node that can be expanded to show its children. -/
  | group (name : String) (value : Option String) (children : List Node)

instance : Inhabited Node := ⟨.leaf "" none⟩

namespace Node

/-! ### Parts -/

/-- The text of the name column. -/
def name : Node → String
  | leaf n _ => n
  | group n _ _ => n

/-- The text of the value column, if there is one. -/
def value : Node → Option String
  | leaf _ v => v
  | group _ v _ => v

/-- The children in display order; a leaf has none. -/
def children : Node → List Node
  | leaf _ _ => []
  | group _ _ cs => cs

/-- Whether the node can be expanded. -/
def isGroup : Node → Bool
  | leaf _ _ => false
  | group _ _ _ => true

/-- Whether the node cannot be expanded. -/
def isLeaf (n : Node) : Bool := !n.isGroup

/-- The node with another value, its kind, name and children kept. -/
def withValue (v : String) : Node → Node
  | leaf n _ => leaf n (some v)
  | group n _ cs => group n (some v) cs

@[simp] theorem value_withValue (n : Node) (v : String) : (n.withValue v).value = some v := by
  cases n <;> rfl

@[simp] theorem name_withValue (n : Node) (v : String) : (n.withValue v).name = n.name := by
  cases n <;> rfl

@[simp] theorem children_withValue (n : Node) (v : String) :
    (n.withValue v).children = n.children := by
  cases n <;> rfl

@[simp] theorem isGroup_withValue (n : Node) (v : String) :
    (n.withValue v).isGroup = n.isGroup := by
  cases n <;> rfl

/-! ### Equality -/

mutual

/-- Structural equality of nodes is decidable. -/
protected def decEq : (a b : Node) → Decidable (a = b)
  | leaf n v, leaf m w =>
    if hn : n = m then
      if hv : v = w then isTrue (by rw [hn, hv])
      else isFalse fun h => hv (by injection h)
    else isFalse fun h => hn (by injection h)
  | group n v cs, group m w ds =>
    if hn : n = m then
      if hv : v = w then
        match Node.decEqList cs ds with
        | isTrue hc => isTrue (by rw [hn, hv, hc])
        | isFalse hc => isFalse fun h => hc (by injection h)
      else isFalse fun h => hv (by injection h)
    else isFalse fun h => hn (by injection h)
  | leaf _ _, group _ _ _ => isFalse fun h => by injection h
  | group _ _ _, leaf _ _ => isFalse fun h => by injection h

/-- Structural equality of forests is decidable. -/
protected def decEqList : (as bs : List Node) → Decidable (as = bs)
  | [], [] => isTrue rfl
  | a :: as, b :: bs =>
    match Node.decEq a b with
    | isTrue ha =>
      match Node.decEqList as bs with
      | isTrue hs => isTrue (by rw [ha, hs])
      | isFalse hs => isFalse fun h => hs (by injection h)
    | isFalse ha => isFalse fun h => ha (by injection h)
  | [], _ :: _ => isFalse fun h => by injection h
  | _ :: _, [] => isFalse fun h => by injection h

end

instance : DecidableEq Node := Node.decEq

/-! ### Pre-order -/

mutual

/-- The node itself and then everything below it, in pre-order. -/
def walk : Node → List Node
  | leaf n v => [leaf n v]
  | group n v cs => group n v cs :: walkAll cs

/-- The nodes of a forest, in pre-order. -/
def walkAll : List Node → List Node
  | [] => []
  | n :: ns => n.walk ++ walkAll ns

end

/-- A node's pre-order begins with the node and goes on with the pre-order of its children. -/
theorem walk_eq (n : Node) : n.walk = n :: walkAll n.children := by
  cases n <;> simp [walk, children, walkAll]

end Node

end Outline
