import Outline.Document.Shape
import Outline.Proofs.Node.Written

/-!
# Nodes and the JSON values they stand for

The JSON of a node stands for this node, on top of a document and below another node
(`nodeOf_toJson`).

In the other direction, the nesting of any value that stands for a node bounds the height of the
node (`two_mul_height_le_of_nodeOf`), although a value can leave out the children of a group and
need not be the JSON of the node. Each node on the way down costs two brackets but for the last
one, which costs at least one. The argument only needs to know where the children of a node come
from (`children_of_nodeOf_object`, `children_of_nodeOf_array`).
-/

namespace Outline.Document

open Outline.Json (Value)

/-! ### The JSON of a node -/

/-- The kind of a node. -/
def kindOfNode : Node → Kind
  | .leaf _ _ => .leaf
  | .group _ _ _ => .group

theorem kindOf_kindName (numbered : Bool) (n : Node) :
    kindOf numbered (.string n.kindName) = .ok (kindOfNode n) := by
  cases n <;> simp [kindOf, Node.kindName, kindOfNode]

/-- Once a kind is known, it stays if no other one follows. -/
theorem kindOfMembers_some {numbered : Bool} {k : Kind} {ms : List (String × Value)}
    (h : ∀ m ∈ ms, m.1 ≠ "kind") : kindOfMembers numbered (some k) ms = .ok k := by
  induction ms with
  | nil => rfl
  | cons m ms ih =>
    obtain ⟨key, v⟩ := m
    rw [List.forall_mem_cons] at h
    rw [kindOfMembers, if_neg (show key ≠ Field.kind.key from h.1), ih h.2]

/-- The parts of a node are found among its members if its children are found in their list. -/
theorem partsOf_contentMembers {n : Node}
    (h : nodesOf (Node.listToJson n.children) = .ok n.children) :
    ∃ p, partsOf (kindOfNode n) {} (("kind", .string n.kindName) :: n.contentMembers) = .ok p ∧
      p.toNode (kindOfNode n) = .ok n := by
  rcases n with ⟨s, _ | v⟩ | ⟨s, _ | v, cs⟩
  · exact ⟨_, rfl, rfl⟩
  · exact ⟨_, rfl, rfl⟩
  · rw [Node.children] at h
    refine ⟨⟨some s, none, some cs⟩, ?_, rfl⟩
    simp [partsOf, Node.contentMembers, Field.key, textOf, childrenOf, h, kindOfNode]
  · rw [Node.children] at h
    refine ⟨⟨some s, some (some v), some cs⟩, ?_, rfl⟩
    simp [partsOf, Node.contentMembers, Field.key, textOf, optionalTextOf, Except.map, childrenOf,
      h, kindOfNode]

theorem nodeOf_toJson_of_children (numbered : Bool) {n : Node}
    (h : nodesOf (Node.listToJson n.children) = .ok n.children) :
    nodeOf numbered n.toJson = .ok n := by
  have hkind : kindOfMembers numbered none
      (("kind", .string n.kindName) :: n.contentMembers) = .ok (kindOfNode n) := by
    rw [kindOfMembers, if_pos (show "kind" = Field.kind.key from rfl)]
    simp only [kindOf_kindName]
    exact kindOfMembers_some fun m hm => (Node.of_mem_contentMembers hm).1
  obtain ⟨p, hp, hn⟩ := partsOf_contentMembers h
  rw [Node.toJson_eq, nodeOf]
  simp only [hkind, hp, hn]

theorem nodesOf_listToJson (ns : List Node) : nodesOf (Node.listToJson ns) = .ok ns := by
  induction ns using Node.forest_induction with
  | nil => rfl
  | cons n ns ihc ihs =>
    rw [Node.listToJson, nodesOf, nodeOf_toJson_of_children true ihc]
    simp only [ihs]

/-- **The JSON of a node stands for the node**, wherever it is found. -/
theorem nodeOf_toJson (numbered : Bool) (n : Node) : nodeOf numbered n.toJson = .ok n :=
  nodeOf_toJson_of_children numbered (nodesOf_listToJson n.children)

/-! ### Where the children come from -/

/-- The children among the parts were met before, or one of the members holds them. -/
theorem children_of_partsOf {k : Kind} {p q : Parts} {ms : List (String × Value)}
    (h : partsOf k p ms = .ok q) :
    q.children = p.children ∨ ∃ m ∈ ms, ∃ cs, childrenOf m.2 = .ok cs ∧ q.children = some cs := by
  induction ms generalizing p with
  | nil =>
    rw [partsOf] at h
    exact .inl (Except.ok.inj h ▸ rfl)
  | cons m ms ih =>
    obtain ⟨key, v⟩ := m
    have weaken : (∃ m ∈ ms, ∃ cs, childrenOf m.2 = .ok cs ∧ q.children = some cs) →
        ∃ m ∈ (key, v) :: ms, ∃ cs, childrenOf m.2 = .ok cs ∧ q.children = some cs :=
      fun ⟨m, hm, hcs⟩ => ⟨m, List.mem_cons_of_mem _ hm, hcs⟩
    rw [partsOf] at h
    split at h
    · repeat' split at h
      · nomatch h
      · nomatch h
      · exact (ih h).imp_right weaken
    split at h
    · repeat' split at h
      · nomatch h
      · nomatch h
      · exact (ih h).imp_right weaken
    split at h
    · split at h
      · nomatch h
      split at h
      · nomatch h
      · rename_i cs hcs
        -- these are the children, unless a later member replaced them
        rcases ih h with hq | hq
        · exact .inr ⟨(key, v), List.mem_cons_self, cs, hcs, hq⟩
        · exact .inr (weaken hq)
    · exact (ih h).imp_right weaken

/-- The children of a node are among its parts, if any. -/
theorem children_of_toNode {k : Kind} {p : Parts} {n : Node} (h : p.toNode k = .ok n) :
    n.children = [] ∨ p.children = some n.children := by
  rw [Parts.toNode] at h
  split at h
  · nomatch h
  · cases k with
    | leaf => exact .inl (Except.ok.inj h ▸ rfl)
    | group =>
      rw [← Except.ok.inj h, Node.children]
      cases p.children with
      | none => exact .inl rfl
      | some cs => exact .inr rfl

/-- One of the members of an object holds the children of the node, if it has any. -/
theorem children_of_nodeOf_object {numbered : Bool} {ms : List (String × Value)} {n : Node}
    (h : nodeOf numbered (.object ms) = .ok n) :
    n.children = [] ∨ ∃ m ∈ ms, childrenOf m.2 = .ok n.children := by
  rw [nodeOf] at h
  split at h
  · nomatch h
  split at h
  · nomatch h
  rename_i k _ p hp
  refine (children_of_toNode h).imp_right fun hn => ?_
  rcases children_of_partsOf hp with hq | ⟨m, hm, cs, hcs, hq⟩
  · exact nomatch hn.symm.trans hq
  · obtain rfl := Option.some.inj (hn.symm.trans hq)
    exact ⟨m, hm, hcs⟩

/-- One of the items that follow the kind holds the children of the node, if it has any. -/
theorem children_of_nodeOfItems {k : Kind} {vs : List Value} {n : Node}
    (h : nodeOfItems k vs = .ok n) :
    n.children = [] ∨ ∃ v ∈ vs, childrenOf v = .ok n.children := by
  rcases vs with _ | ⟨name, _ | ⟨value, _ | ⟨third, more⟩⟩⟩ <;> rw [nodeOfItems] at h
  · cases h
  · split at h
    · cases h
    · exact (children_of_toNode h).imp_right fun hn => by cases hn
  · split at h
    · cases h
    · cases h
    · exact (children_of_toNode h).imp_right fun hn => by cases hn
  · split at h
    · cases h
    · cases h
    cases k with
    | leaf => cases h
    | group =>
      dsimp only at h
      split at h
      · cases h
      rename_i cs hcs
      split at h
      · rw [← Except.ok.inj h, Node.children]
        exact .inr ⟨third, by simp, hcs⟩
      · cases h

/-- One of the items of an array holds the children of the node, if it has any. -/
theorem children_of_nodeOf_array {numbered : Bool} {vs : List Value} {n : Node}
    (h : nodeOf numbered (.array vs) = .ok n) :
    n.children = [] ∨ ∃ v ∈ vs, childrenOf v = .ok n.children := by
  cases vs with
  | nil => nomatch h
  | cons v vs =>
    rw [nodeOf] at h
    split at h
    · nomatch h
    · exact (children_of_nodeOfItems h).imp_right fun ⟨w, hw, hcs⟩ =>
        ⟨w, List.mem_cons_of_mem v hw, hcs⟩

/-! ### Nesting bounds height -/

/-- Each of the nodes that items stand for is one that an item stands for. -/
theorem mem_of_nodesOf {vs : List Value} {ns : List Node} (h : nodesOf vs = .ok ns) {n : Node}
    (hn : n ∈ ns) : ∃ v ∈ vs, nodeOf true v = .ok n := by
  induction vs generalizing ns with
  | nil =>
    rw [nodesOf] at h
    exact absurd (Except.ok.inj h ▸ hn) List.not_mem_nil
  | cons v vs ih =>
    rw [nodesOf] at h
    split at h
    · nomatch h
    rename_i m hm
    split at h
    · nomatch h
    rename_i ms hms
    rw [← Except.ok.inj h, List.mem_cons] at hn
    rcases hn with rfl | hn
    · exact ⟨v, List.mem_cons_self, hm⟩
    · obtain ⟨w, hw, hwn⟩ := ih hms hn
      exact ⟨w, List.mem_cons_of_mem v hw, hwn⟩

/-- The brackets of a value are enough for the height of the node it stands for, and for that of the
nodes it stands for below another node. -/
def BoundsHeight (v : Value) : Prop :=
  (∀ numbered n, nodeOf numbered v = .ok n → 2 * n.height ≤ v.nesting + 1) ∧
    ∀ ns, childrenOf v = .ok ns → 2 * Node.heightAll ns ≤ v.nesting

/-- A node whose children come from within a value is no higher than its brackets allow. -/
theorem two_mul_height_le_of_children {n : Node} {b : Nat}
    (h : n.children = [] ∨ 2 * Node.heightAll n.children ≤ b) : 2 * n.height ≤ b + 1 + 1 := by
  rw [Node.height_eq]
  rcases h with h | h
  · rw [h, Node.heightAll]
    omega
  · omega

theorem boundsHeight (v : Value) : BoundsHeight v := by
  induction v using Value.contents_induction with
  | scalar v hv =>
    cases v with
    | array vs => exact absurd hv (Nat.succ_ne_zero _)
    | object ms => exact absurd hv (Nat.succ_ne_zero _)
    | _ => exact ⟨fun _ _ h => (by cases h), fun _ h => (by cases h)⟩
  | array vs ih =>
    constructor
    · intro numbered n h
      rw [Value.nesting]
      refine two_mul_height_le_of_children ((children_of_nodeOf_array h).imp_right ?_)
      rintro ⟨v, hv, hcs⟩
      exact Nat.le_trans ((ih v hv).2 _ hcs) (Value.nesting_le_nestingOfItems hv)
    · intro ns h
      rw [childrenOf] at h
      rw [Value.nesting]
      -- the bracket of the list makes up for the one of which its items may be short
      have hns : Node.heightAll ns ≤ (Value.nestingOfItems vs + 1) / 2 := by
        refine Node.heightAll_le_iff.mpr fun n hn => ?_
        obtain ⟨v, hv, hvn⟩ := mem_of_nodesOf h hn
        have hheight := (ih v hv).1 true n hvn
        have hitem := Value.nesting_le_nestingOfItems hv
        omega
      omega
  | object ms ih =>
    constructor
    · intro numbered n h
      rw [Value.nesting]
      refine two_mul_height_le_of_children ((children_of_nodeOf_object h).imp_right ?_)
      rintro ⟨m, hm, hcs⟩
      exact Nat.le_trans ((ih m hm).2 _ hcs) (Value.nesting_le_nestingOfMembers hm)
    · intro ns h
      cases h

/-- **A value that stands for a node is nested deep enough for its height**: with two brackets for
each node on the way down, except that one may do for the last. -/
theorem two_mul_height_le_of_nodeOf {numbered : Bool} {v : Value} {n : Node}
    (h : nodeOf numbered v = .ok n) : 2 * n.height ≤ v.nesting + 1 :=
  (boundsHeight v).1 numbered n h

end Outline.Document
