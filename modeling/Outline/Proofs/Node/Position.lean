import Outline.Proofs.Node

/-!
# Positions in a forest

A position is the list of indices on the way down to a node: first that of a root, then one among
the children for each level. `Node.at?` is the node that stands there. Equal nodes may stand at many
positions, but at one position stands one node.

A node occurs in a forest when it stands at some position (`Node.Occurs`). The pre-order of the
forest lists what occurs in it (`Node.mem_walkAll_iff_occurs`), so occurrence can be decided. A
forest is known from what stands at its positions (`Node.eq_of_forall_at?`), hence a group is known
from its name, its value and what stands at the positions below it (`Node.eq_iff_of_isGroup`).
-/

namespace Outline.Node

/-- The node at a position of a forest, if the position leads to one. The empty position leads to
none, since a forest has no root of its own. -/
def at? (ns : List Node) : List Nat → Option Node
  | [] => none
  | [i] => ns[i]?
  | i :: j :: p => ns[i]?.bind fun n => at? n.children (j :: p)

variable {ns ms : List Node} {n m : Node} {p : List Nat}

@[simp] theorem at?_nil (ns : List Node) : at? ns [] = none := rfl

@[simp] theorem at?_singleton (ns : List Node) (i : Nat) : at? ns [i] = ns[i]? := rfl

/-- Below a root the way goes on among its children. -/
theorem at?_cons (ns : List Node) (i : Nat) (hp : p ≠ []) :
    at? ns (i :: p) = ns[i]?.bind fun n => at? n.children p := by
  cases p with
  | nil => exact absurd rfl hp
  | cons j p => rfl

theorem at?_zero (n : Node) (ns : List Node) (hp : p ≠ []) :
    at? (n :: ns) (0 :: p) = at? n.children p := at?_cons (n :: ns) 0 hp

/-- Behind the first tree the positions are those of the other trees. -/
theorem at?_succ (n : Node) (ns : List Node) (i : Nat) (p : List Nat) :
    at? (n :: ns) ((i + 1) :: p) = at? ns (i :: p) := by
  cases p <;> rfl

/-- Forests with the same nodes at the same positions are equal. -/
theorem eq_of_forall_at? (h : ∀ p, at? ns p = at? ms p) : ns = ms :=
  List.ext_getElem? fun i => h [i]

/-! ### Occurrence -/

/-- A node occurs in a forest when it stands at some position, at whatever depth. -/
def Occurs (n : Node) (ns : List Node) : Prop := ∃ p, at? ns p = some n

/-- **The pre-order of a forest lists what occurs in it.** -/
theorem mem_walkAll_iff_occurs : m ∈ walkAll ns ↔ Occurs m ns := by
  induction ns using forest_induction with
  | nil =>
    refine iff_of_false List.not_mem_nil ?_
    rintro ⟨_ | ⟨i, _ | ⟨j, p⟩⟩, hp⟩ <;> exact absurd hp (by simp [at?])
  | cons n ns ihc ihs =>
    rw [walkAll_cons, List.mem_cons, List.mem_append, ihc, ihs]
    constructor
    · rintro (rfl | ⟨p, hp⟩ | ⟨p, hp⟩)
      · exact ⟨[0], rfl⟩
      · have hne : p ≠ [] := by
          rintro rfl
          exact absurd hp (by simp)
        exact ⟨0 :: p, (at?_zero n ns hne).trans hp⟩
      · obtain _ | ⟨i, p⟩ := p
        · exact absurd hp (by simp)
        · exact ⟨(i + 1) :: p, (at?_succ n ns i p).trans hp⟩
    · rintro ⟨_ | ⟨_ | i, p⟩, hp⟩
      · exact absurd hp (by simp)
      · -- the position is that of the first root, or leads on among its children
        by_cases hne : p = []
        · subst hne
          exact .inl (Option.some.inj hp).symm
        · exact .inr (.inl ⟨p, (at?_zero n ns hne).symm.trans hp⟩)
      · exact .inr (.inr ⟨i :: p, (at?_succ n ns i p).symm.trans hp⟩)

instance (n : Node) (ns : List Node) : Decidable (Occurs n ns) :=
  decidable_of_iff (n ∈ walkAll ns) mem_walkAll_iff_occurs

/-! ### Equality, part by part -/

/-- **Groups are equal exactly when name, value and all that stands below them agree.** -/
theorem eq_iff_of_isGroup (hn : n.isGroup = true) (hm : m.isGroup = true) :
    n = m ↔ n.name = m.name ∧ n.value = m.value ∧ ∀ p, at? n.children p = at? m.children p := by
  constructor
  · rintro rfl
    exact ⟨rfl, rfl, fun _ => rfl⟩
  · rintro ⟨hname, hvalue, hbelow⟩
    have hchildren := eq_of_forall_at? hbelow
    cases n with
    | leaf _ _ => exact absurd hn (by simp [isGroup])
    | group _ _ _ =>
      cases m with
      | leaf _ _ => exact absurd hm (by simp [isGroup])
      | group _ _ _ =>
        simp only [name, value, children] at hname hvalue hchildren
        rw [hname, hvalue, hchildren]

end Outline.Node
