import Outline.Node.Written
import Outline.Proofs.Json.Value
import Outline.Proofs.Node

/-!
# How deep a written node is nested

A leaf is written with one bracket, and a group with two around its children: those of the object
and of the list in it. `Node.nest` counts them, and `Node.nestAll` is the most that any node of a
forest needs; `nesting_toJson` says that the JSON of the node has this nesting.

By `nest_le` no node needs more than two brackets for each node on the way down, its height. The
bound is not exact, since a leaf at the end needs only one.
-/

namespace Outline.Node

open Outline.Json (Value)

/-! ### Brackets and heights -/

mutual

/-- How many brackets are open at once in the text of a node. -/
def nest : Node → Nat
  | leaf _ _ => 1
  | group _ _ cs => 2 + nestAll cs

/-- How many brackets are open at once in the text of any node of a forest. -/
def nestAll : List Node → Nat
  | [] => 0
  | n :: ns => max n.nest (nestAll ns)

end

mutual

/-- The number of nodes on the longest way down from a node. -/
def height : Node → Nat
  | leaf _ _ => 1
  | group _ _ cs => 1 + heightAll cs

/-- The number of nodes on the longest way down in a forest. -/
def heightAll : List Node → Nat
  | [] => 0
  | n :: ns => max n.height (heightAll ns)

end

theorem height_eq (n : Node) : n.height = 1 + heightAll n.children := by
  cases n <;> rfl

theorem heightAll_le_iff {ns : List Node} {b : Nat} :
    heightAll ns ≤ b ↔ ∀ n ∈ ns, n.height ≤ b := by
  induction ns with
  | nil => simp [heightAll]
  | cons n ns ih => rw [heightAll, Nat.max_le, ih, List.forall_mem_cons]

theorem nestAll_le_iff {ns : List Node} {b : Nat} : nestAll ns ≤ b ↔ ∀ n ∈ ns, n.nest ≤ b := by
  induction ns with
  | nil => simp [nestAll]
  | cons n ns ih => rw [nestAll, Nat.max_le, ih, List.forall_mem_cons]

/-- A node needs at most two brackets for each node on the way down. -/
theorem nest_le_of_nestAll_children_le {n : Node}
    (h : nestAll n.children ≤ 2 * heightAll n.children) : n.nest ≤ 2 * n.height := by
  cases n with
  | leaf _ _ => exact Nat.le_succ 1
  | group _ _ cs =>
    rw [children] at h
    rw [nest, height]
    omega

theorem nestAll_le (ns : List Node) : nestAll ns ≤ 2 * heightAll ns := by
  induction ns using forest_induction with
  | nil => exact Nat.le_refl 0
  | cons n ns ihc ihs =>
    have hn := nest_le_of_nestAll_children_le ihc
    rw [nestAll, heightAll]
    omega

theorem nest_le (n : Node) : n.nest ≤ 2 * n.height :=
  nest_le_of_nestAll_children_le (nestAll_le n.children)

/-! ### The JSON of a node -/

/-- The name of the kind in the JSON of a node. -/
def kindName : Node → String
  | leaf _ _ => "leaf"
  | group _ _ _ => "group"

/-- The members that follow the kind in the JSON of a node. -/
def contentMembers : Node → List (String × Value)
  | leaf s v => ("name", .string s) :: (v.map fun v => ("value", Value.string v)).toList
  | group s v cs => ("name", .string s) :: (v.map fun v => ("value", Value.string v)).toList ++
      [("children", .array (listToJson cs))]

theorem toJson_eq (n : Node) :
    n.toJson = .object (("kind", .string n.kindName) :: n.contentMembers) := by
  cases n <;> rfl

/-- Behind the kind there is no other kind, and only texts and the children are given. -/
theorem of_mem_contentMembers {n : Node} {m : String × Value} (h : m ∈ n.contentMembers) :
    m.1 ≠ "kind" ∧ ((∃ s, m.2 = .string s) ∨ m.2 = .array (listToJson n.children)) := by
  have hname : "name" ≠ "kind" := by decide
  have hvalue : "value" ≠ "kind" := by decide
  have hchildren : "children" ≠ "kind" := by decide
  rcases n with ⟨s, _ | v⟩ | ⟨s, _ | v, cs⟩ <;>
    simp only [contentMembers, Option.map_none, Option.map_some, Option.toList_none,
      Option.toList_some, List.nil_append, List.cons_append, List.mem_cons, List.not_mem_nil,
      or_false] at h
  · obtain rfl := h
    exact ⟨hname, .inl ⟨s, rfl⟩⟩
  · obtain rfl | rfl := h
    · exact ⟨hname, .inl ⟨s, rfl⟩⟩
    · exact ⟨hvalue, .inl ⟨v, rfl⟩⟩
  · obtain rfl | rfl := h
    · exact ⟨hname, .inl ⟨s, rfl⟩⟩
    · exact ⟨hchildren, .inr rfl⟩
  · obtain rfl | rfl | rfl := h
    · exact ⟨hname, .inl ⟨s, rfl⟩⟩
    · exact ⟨hvalue, .inl ⟨v, rfl⟩⟩
    · exact ⟨hchildren, .inr rfl⟩

theorem numberFree_contentMembers_of_children {n : Node}
    (h : ∀ v ∈ listToJson n.children, v.NumberFree) : ∀ m ∈ n.contentMembers, m.2.NumberFree := by
  intro m hm
  obtain ⟨-, ⟨s, hs⟩ | hc⟩ := of_mem_contentMembers hm
  · exact hs ▸ .string s
  · exact hc ▸ .array h

/-- The JSON of a node holds no numbers if what follows the kind holds none. -/
theorem numberFree_toJson_of_contentMembers {n : Node}
    (h : ∀ m ∈ n.contentMembers, m.2.NumberFree) : n.toJson.NumberFree := by
  rw [toJson_eq]
  exact .object (List.forall_mem_cons.mpr ⟨.string _, h⟩)

theorem numberFree_listToJson (ns : List Node) : ∀ v ∈ listToJson ns, v.NumberFree := by
  induction ns using forest_induction with
  | nil => exact fun _ hv => absurd hv List.not_mem_nil
  | cons n ns ihc ihs =>
    have hn := numberFree_contentMembers_of_children ihc
    exact List.forall_mem_cons.mpr ⟨numberFree_toJson_of_contentMembers hn, ihs⟩

theorem numberFree_contentMembers (n : Node) : ∀ m ∈ n.contentMembers, m.2.NumberFree :=
  numberFree_contentMembers_of_children (numberFree_listToJson n.children)

/-- **The JSON of a node holds no numbers.** -/
theorem numberFree_toJson (n : Node) : n.toJson.NumberFree :=
  numberFree_toJson_of_contentMembers n.numberFree_contentMembers

theorem nesting_toJson_of_children {n : Node}
    (h : Value.nestingOfItems (listToJson n.children) = nestAll n.children) :
    n.toJson.nesting = n.nest := by
  rcases n with ⟨s, _ | v⟩ | ⟨s, _ | v, cs⟩ <;>
    simp only [toJson, headMembers, Option.map_none, Option.map_some, Option.toList_none,
      Option.toList_some, List.cons_append, List.nil_append, Value.nesting,
      Value.nestingOfMembers, nest, Nat.max_self, Nat.zero_max, Nat.max_zero]
  all_goals
    rw [children] at h
    omega

theorem nestingOfItems_listToJson (ns : List Node) :
    Value.nestingOfItems (listToJson ns) = nestAll ns := by
  induction ns using forest_induction with
  | nil => rfl
  | cons n ns ihc ihs =>
    rw [listToJson, Value.nestingOfItems, nesting_toJson_of_children ihc, ihs, nestAll]

/-- **The nesting of the JSON of a node** is two for each group on the way down and one for a leaf
at its end. -/
theorem nesting_toJson (n : Node) : n.toJson.nesting = n.nest :=
  nesting_toJson_of_children (nestingOfItems_listToJson n.children)

end Outline.Node
