import Outline.Node

/-!
# Induction over forests

Whatever holds of the empty forest, and of a forest as soon as it holds of the children of its
first node and of the other nodes, holds of every forest (`Node.forest_induction`). Functions that
go through a node and a forest by turns are treated by this one induction.

The first use is that a node never occurs below itself (`Node.not_mem_walkAll_children`).
-/

namespace Outline.Node

mutual

private theorem of_children {P : List Node → Prop} (nil : P [])
    (cons : ∀ (n : Node) (ns : List Node), P n.children → P ns → P (n :: ns)) :
    (n : Node) → P n.children
  | .leaf _ _ => nil
  | .group _ _ cs => of_forest nil cons cs

private theorem of_forest {P : List Node → Prop} (nil : P [])
    (cons : ∀ (n : Node) (ns : List Node), P n.children → P ns → P (n :: ns)) :
    (ns : List Node) → P ns
  | [] => nil
  | n :: ns => cons n ns (of_children nil cons n) (of_forest nil cons ns)

end

/-- **Induction over forests**: by the children of the first node and by the other nodes. -/
@[elab_as_elim]
theorem forest_induction {P : List Node → Prop} (nil : P [])
    (cons : ∀ (n : Node) (ns : List Node), P n.children → P ns → P (n :: ns))
    (ns : List Node) : P ns := of_forest nil cons ns

/-- Only groups have children. -/
theorem isGroup_of_mem_children {n m : Node} (h : m ∈ n.children) : n.isGroup = true := by
  cases n with
  | leaf _ _ => exact absurd h List.not_mem_nil
  | group _ _ _ => rfl

theorem children_eq_nil_of_isGroup_eq_false {n : Node} (h : n.isGroup = false) :
    n.children = [] := by
  cases n with
  | leaf _ _ => rfl
  | group _ _ _ => exact absurd h (by simp [isGroup])

@[simp] theorem walkAll_nil : walkAll [] = [] := rfl

theorem walkAll_cons (n : Node) (ns : List Node) :
    walkAll (n :: ns) = n :: (walkAll n.children ++ walkAll ns) := by
  rw [walkAll, walk_eq, List.cons_append]

/-- Below a node of a forest there are fewer nodes than in the forest. -/
theorem length_walkAll_children_lt {m : Node} {ns : List Node} (h : m ∈ walkAll ns) :
    (walkAll m.children).length < (walkAll ns).length := by
  induction ns using forest_induction with
  | nil => exact absurd h List.not_mem_nil
  | cons n ns ihc ihs =>
    rw [walkAll_cons, List.mem_cons, List.mem_append] at h
    rw [walkAll_cons, List.length_cons, List.length_append]
    rcases h with rfl | h | h
    · omega
    · have := ihc h
      omega
    · have := ihs h
      omega

/-- **A node does not occur below itself.** -/
theorem not_mem_walkAll_children (n : Node) : n ∉ walkAll n.children :=
  fun h => Nat.lt_irrefl _ (length_walkAll_children_lt h)

end Outline.Node
