import Outline.Document

/-!
# Nodes in memory

A node is made once and shared from then on: whoever has it has a reference to its slot in memory,
and its children are references as well. Beside the parts of the node a slot holds a digest. It is
taken when the node is made, from kind, name and value and from the digests of the children, so that
nobody has to go through a subtree to take it again. How digests are taken is a parameter
throughout.

`Memory.node` is the node that a reference shows, as a value, and `Memory.same` tells whether two
references show equal nodes. It says yes to one reference given twice, says no where the digests
differ, and looks at the parts in all other cases.

There are five ways to make a node: as a leaf or as a group without a value, from another node with
a value put in, from any parts, and by reading a document. Nothing that lies in memory changes by
any of them; a new slot refers to older ones only.
-/

namespace Outline

/-! ### Parts -/

/-- The parts of a node, with anything in place of its children. -/
inductive Payload (α : Type) where
  /-- The parts of a leaf. -/
  | leaf (name : String) (value : Option String)
  /-- The parts of a group. -/
  | group (name : String) (value : Option String) (children : List α)

namespace Payload

variable {α β : Type}

/-- What stands for the children; a leaf has none. -/
def children : Payload α → List α
  | leaf _ _ => []
  | group _ _ cs => cs

/-- The same parts with something else in place of each child. -/
def map (f : α → β) : Payload α → Payload β
  | leaf n v => leaf n v
  | group n v cs => group n v (cs.map f)

/-- The parts with another value. -/
def withValue (v : String) : Payload α → Payload α
  | leaf n _ => leaf n (some v)
  | group n _ cs => group n (some v) cs

/-- Whether kind, name and value are the same and the children are, one by one and in order. -/
def agrees (same : α → α → Bool) : Payload α → Payload α → Bool
  | leaf n v, leaf m w => n == m && v == w
  | group n v cs, group m w ds => n == m && v == w && cs.isEqv ds same
  | _, _ => false

/-- The node with these parts. -/
def toNode : Payload Node → Node
  | leaf n v => .leaf n v
  | group n v cs => .group n v cs

/-- The parts of a node with something in place of its children. -/
def ofNode (n : Node) (cs : List α) : Payload α :=
  match n with
  | .leaf n v => leaf n v
  | .group n v _ => group n v cs

end Payload

/-! ### Slots -/

/-- A node as it lies in memory. -/
structure Slot where
  /-- What was taken from the parts when the node was made. -/
  digest : UInt64
  /-- The parts, with a reference for each child. -/
  payload : Payload Nat

instance : Inhabited Slot := ⟨0, .leaf "" none⟩

/-- All slots filled so far, the latest first. -/
abbrev Memory := List Slot

namespace Memory

/-- The slot that a reference leads to. A reference is the number of slots older than its own, so it
leads to the same slot when more are filled. -/
def slot : Memory → Nat → Slot
  | [], _ => default
  | s :: older, a => if a = older.length then s else slot older a

/-- The digest of the node at a reference. -/
def digest (m : Memory) (a : Nat) : UInt64 := (m.slot a).digest

/-- The parts of the node at a reference. -/
def payload (m : Memory) (a : Nat) : Payload Nat := (m.slot a).payload

/-- The node at a reference, as a value. The children lie in older slots. -/
def node : Memory → Nat → Node
  | [], _ => default
  | s :: older, a =>
    if a = older.length then (s.payload.map (node older)).toNode else node older a

/-- Whether two references show equal nodes: the same reference does, different digests do not, and
else the parts decide. -/
def same : Memory → Nat → Nat → Bool
  | [], a, b => a == b
  | s :: older, a, b =>
    a == b || (digest (s :: older) a == digest (s :: older) b &&
      (payload (s :: older) a).agrees (same older) (payload (s :: older) b))

/-! ### Making nodes -/

variable (H : Payload UInt64 → UInt64)

/-- Make a node of any parts. The answer is its reference. -/
def make (m : Memory) (p : Payload Nat) : Nat × Memory :=
  (m.length, ⟨H (p.map m.digest), p⟩ :: m)

/-- Make a leaf without a value. -/
def leaf (m : Memory) (name : String) : Nat × Memory := m.make H (.leaf name none)

/-- Make a group without a value. -/
def group (m : Memory) (name : String) (children : List Nat) : Nat × Memory :=
  m.make H (.group name none children)

/-- Make a node like another one, with a value put in. -/
def withValue (m : Memory) (a : Nat) (v : String) : Nat × Memory :=
  m.make H ((m.payload a).withValue v)

mutual

/-- Make a node and everything below it afresh, the children before the node. -/
def hold (m : Memory) : Node → Nat × Memory
  | .leaf n v => m.make H (.leaf n v)
  | .group n v cs =>
    let (as, m) := holdAll m cs
    m.make H (.group n v as)

/-- Make the nodes of a forest afresh. -/
def holdAll (m : Memory) : List Node → List Nat × Memory
  | [] => ([], m)
  | n :: ns =>
    let (a, m) := hold m n
    let (as, m) := holdAll m ns
    (a :: as, m)

end

/-- Make the nodes of a document. -/
def read (m : Memory) (text : String) : Except Document.Refusal (List Nat × Memory) :=
  (Document.read text).map (m.holdAll H)

end Memory

end Outline
