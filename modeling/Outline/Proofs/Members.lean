import Mathlib.Data.Finset.Card
import Outline.Proofs.Splice

/-!
# The set of expanded groups

An expansion is a list of groups whose order carries no meaning. This module takes the meaning to be
a finite set (`Expansion.members`) and shows that nothing else of the list can be told from outside.
Each operation is an operation on the set (`Expansion.members_step`), the size is the number of
members (`Expansion.WellFormed.card_members`), comparing is comparing sets
(`Expansion.sameAs_iff_members_eq`), and the flag tells whether the set changed
(`Expansion.result_step_eq_true_iff`).

What is done at a node depends on this node alone being a member (`Verb.apply_congr`) and concerns no
other (`Verb.mem_apply_of_ne`), so operations at different nodes can change places.
-/

namespace Outline

open Outcome (stateAfter)

/-! ### Operations as data -/

/-- What can be done to an expansion. -/
inductive Expansion.Command where
  /-- Expand, collapse or toggle a node. -/
  | act (verb : Verb) (n : Node)
  /-- Forget everything. -/
  | clear

namespace Expansion

/-- Carry out a command on an expansion; the answer is whether the members changed. -/
def step (k : Expansion) : Command → Outcome Expansion Bool
  | .act verb n => ⟨(verb.apply k n).1, (verb.apply k n).2, []⟩
  | .clear => ⟨k.clear.1, k.clear.2, []⟩

/-- What a command does to a set of groups. -/
def Command.onSet (s : Finset Node) : Command → Finset Node
  | .act .expand n => if n.isGroup then insert n s else s
  | .act .collapse n => s.erase n
  | .act .toggle n => if n ∈ s then s.erase n else if n.isGroup then insert n s else s
  | .clear => ∅

/-! ### Members -/

/-- The expanded groups as a set. -/
def members (k : Expansion) : Finset Node := k.groups.toFinset

variable {j k : Expansion} {n : Node}

@[simp] theorem mem_members : n ∈ k.members ↔ n ∈ k := List.mem_toFinset

theorem contains_eq_iff : j.contains n = k.contains n ↔ (n ∈ j ↔ n ∈ k) := by
  rw [Bool.eq_iff_iff, contains_eq_true, contains_eq_true]

theorem WellFormed.card_members (h : k.WellFormed) : k.members.card = k.size :=
  List.toFinset_card_of_nodup h.nodup

/-- Two expansions are the same when their sets are. -/
theorem sameAs_iff_members_eq : j.sameAs k = true ↔ j.members = k.members := by
  simp only [sameAs_iff, Finset.ext_iff, mem_members]

/-- It is enough to look at the members of the one when both are of the same size. -/
theorem sameAs_iff_size_eq (hj : j.WellFormed) (hk : k.WellFormed) :
    j.sameAs k = true ↔ j.size = k.size ∧ ∀ n ∈ j, n ∈ k := by
  rw [sameAs_iff_members_eq, ← hj.card_members, ← hk.card_members]
  constructor
  · intro h
    exact ⟨congrArg Finset.card h, fun n hn => mem_members.mp (h ▸ mem_members.mpr hn)⟩
  · rintro ⟨hcard, hsub⟩
    refine Finset.eq_of_subset_of_card_le (fun n hn => ?_) hcard.ge
    exact mem_members.mpr (hsub n (mem_members.mp hn))

theorem isEmpty_iff_size_eq_zero : k.isEmpty = true ↔ k.size = 0 := by
  rw [isEmpty, size, List.isEmpty_iff, List.length_eq_zero_iff]

/-! ### One command -/

/-- **A command does to the members what it does to a set.** -/
theorem members_step (k : Expansion) (c : Command) :
    (k.step c).state.members = c.onSet k.members := by
  ext m
  rw [mem_members]
  cases c with
  | act verb n =>
    cases verb with
    | expand =>
      rw [step, Verb.apply, mem_expand, Command.onSet]
      split <;> simp [*, or_comm]
    | collapse =>
      rw [step, Verb.apply, mem_collapse, Command.onSet, Finset.mem_erase, mem_members, and_comm]
    | toggle =>
      rw [step, Verb.apply, mem_toggle, Command.onSet]
      by_cases hn : n ∈ k
      · simp [hn, and_comm]
      · cases hg : n.isGroup <;> simp [hn, or_comm]
  | clear => simp [step, Command.onSet]

theorem collapse_changed (k : Expansion) (n : Node) : (k.collapse n).1 = k.contains n := by
  unfold collapse
  split
  · next h => exact h.symm
  · next h => exact (Bool.eq_false_iff.mpr h).symm

/-- **The answer tells whether the members changed.** -/
theorem result_step_eq_true_iff (k : Expansion) (c : Command) :
    (k.step c).result = true ↔ (k.step c).state.members ≠ k.members := by
  rw [members_step]
  cases c with
  | act verb n =>
    cases verb with
    | expand =>
      rw [step, Verb.apply, expand_changed, Command.onSet]
      cases hg : n.isGroup <;> simp
    | collapse =>
      rw [step, Verb.apply, collapse_changed, contains_eq_true, Command.onSet,
        Finset.erase_ne_self, mem_members]
    | toggle =>
      rw [step, Verb.apply, toggle, Command.onSet]
      by_cases hn : n ∈ k
      · simp [hn, collapse_changed]
      · cases hg : n.isGroup <;> simp [hn, hg, expand_changed]
  | clear =>
    rw [step, clear_changed, Command.onSet, ne_comm, ← Finset.nonempty_iff_ne_empty]
    exact exists_congr fun n => mem_members.symm

theorem WellFormed.step (h : k.WellFormed) (c : Command) : (k.step c).state.WellFormed := by
  cases c with
  | act verb n => exact h.apply verb n
  | clear => exact wellFormed_clear k

end Expansion

/-! ### Two commands -/

namespace Verb

variable {j k : Expansion} {m n : Node}

/-- What is done at a node depends on this node alone being a member. -/
theorem apply_congr (verb : Verb) (h : n ∈ j ↔ n ∈ k) :
    (verb.apply j n).1 = (verb.apply k n).1 ∧
      (n ∈ (verb.apply j n).2 ↔ n ∈ (verb.apply k n).2) := by
  have hcontains : j.contains n = k.contains n := Expansion.contains_eq_iff.mpr h
  cases verb with
  | expand => simp [apply, Expansion.expand_changed, Expansion.mem_expand, hcontains, h]
  | collapse => simp [apply, Expansion.collapse_changed, Expansion.mem_collapse, hcontains]
  | toggle =>
    simp only [apply, Expansion.toggle, hcontains]
    split
    · simp [Expansion.collapse_changed, Expansion.mem_collapse, hcontains]
    · simp [Expansion.expand_changed, Expansion.mem_expand, hcontains, h]

/-- **What is done at different nodes can be done in either order**, with the same answers and
members. -/
theorem apply_comm (v w : Verb) (h : m ≠ n) (k : Expansion) :
    (w.apply (v.apply k m).2 n).1 = (w.apply k n).1 ∧
      ∀ x, x ∈ (w.apply (v.apply k m).2 n).2 ↔ x ∈ (v.apply (w.apply k n).2 m).2 := by
  obtain ⟨hflag, hn⟩ := w.apply_congr (v.mem_apply_of_ne (k := k) h.symm)
  obtain ⟨-, hm⟩ := v.apply_congr (w.mem_apply_of_ne (k := k) h)
  refine ⟨hflag, fun x => ?_⟩
  by_cases hxn : x = n
  · subst hxn
    rw [hn, v.mem_apply_of_ne h.symm]
  · rw [w.mem_apply_of_ne hxn]
    by_cases hxm : x = m
    · subst hxm
      exact hm.symm
    · rw [v.mem_apply_of_ne hxm, v.mem_apply_of_ne hxm, w.mem_apply_of_ne hxn]

end Verb

/-! ### Whole histories -/

namespace Expansion

theorem wellFormed_stateAfter (cs : List Command) : (stateAfter step empty cs).WellFormed :=
  Outcome.stateAfter_induction (fun _ c h => h.step c) wellFormed_empty cs

theorem members_stateAfter (k : Expansion) (cs : List Command) :
    (stateAfter step k cs).members = cs.foldl Command.onSet k.members := by
  induction cs generalizing k with
  | nil => rfl
  | cons c cs ih =>
    rw [List.foldl_cons, ← members_step]
    exact ih (k.step c).state

end Expansion

/-- **An expansion is a finite set of groups.** Let an expansion be the result of any commands given
to the empty one, on any nodes, leaves included.

* Its members are what the same commands make of the empty set. They are groups, the size is their
  number, and the expansion is empty exactly if the size is zero.
* It compares equal to the result of any other commands exactly when both have the same members, and
  for this it is enough that the sizes are equal and the members of the one are members of the other.
* A command answers yes exactly if afterwards the members are others than before.
* Two commands at different nodes can be given in either order: each answers the same, and the
  results compare equal. -/
theorem expansions_are_finite_sets (cs : List Expansion.Command) :
    let k := stateAfter Expansion.step .empty cs
    (k.members = cs.foldl Expansion.Command.onSet ∅ ∧ (∀ n, n ∈ k.members ↔ k.contains n = true) ∧
      (∀ n ∈ k.members, n.isGroup = true) ∧ k.size = k.members.card ∧
      (k.isEmpty = true ↔ k.size = 0)) ∧
    (∀ ds : List Expansion.Command,
      let j := stateAfter Expansion.step .empty ds
      (k.sameAs j = true ↔ ∀ n, k.contains n = j.contains n) ∧
        (k.sameAs j = true ↔ k.size = j.size ∧ ∀ n, k.contains n = true → j.contains n = true)) ∧
    (∀ c, (k.step c).result = true ↔ ∃ n, (k.step c).state.contains n ≠ k.contains n) ∧
    ∀ (v w : Verb) (m n : Node), m ≠ n →
      let first := k.step (.act v m)
      let second := k.step (.act w n)
      (first.state.step (.act w n)).result = second.result ∧
        (second.state.step (.act v m)).result = first.result ∧
        (first.state.step (.act w n)).state.sameAs (second.state.step (.act v m)).state = true := by
  intro k
  have hk : k.WellFormed := Expansion.wellFormed_stateAfter cs
  refine ⟨⟨Expansion.members_stateAfter .empty cs, fun n => ?_, fun n hn => ?_, ?_,
    Expansion.isEmpty_iff_size_eq_zero⟩, fun ds => ⟨?_, ?_⟩, fun c => ?_, fun v w m n hmn => ?_⟩
  · rw [Expansion.mem_members, Expansion.contains_eq_true]
  · exact hk.isGroup n (Expansion.mem_members.mp hn)
  · exact hk.card_members.symm
  · simp only [Expansion.sameAs_iff, Expansion.contains_eq_iff]
  · simp only [Expansion.contains_eq_true]
    exact Expansion.sameAs_iff_size_eq hk (Expansion.wellFormed_stateAfter ds)
  · rw [Expansion.result_step_eq_true_iff, Ne, Finset.ext_iff, not_forall]
    simp only [Expansion.mem_members, ne_eq, Expansion.contains_eq_iff]
  · obtain ⟨hsecond, hmembers⟩ := v.apply_comm w hmn k
    exact ⟨hsecond, (w.apply_comm v hmn.symm k).1, Expansion.sameAs_iff.mpr hmembers⟩

/-- Two groups are expanded, one of them twice, a leaf is toggled without effect, and the other group
is toggled away. The one member that is left can also be had by toggling it alone. -/
theorem expansions_are_finite_sets_twice :
    let c := Node.leaf "c" none
    let g := Node.group "g" none [c]
    let h := Node.group "h" (some "v") [g, g]
    let cs : List Expansion.Command :=
      [.act .expand g, .act .toggle c, .act .expand h, .act .expand h, .act .toggle g]
    let ds : List Expansion.Command := [.act .collapse g, .act .toggle h]
    let k := stateAfter Expansion.step .empty cs
    let j := stateAfter Expansion.step .empty ds
    k.members = {h} ∧ k.size = 1 ∧ k.sameAs j = true ∧ (k.step .clear).result = true ∧ g ≠ c ∧
      ((k.step (.act .toggle g)).state.step (.act .expand c)).state.sameAs
        ((k.step (.act .expand c)).state.step (.act .toggle g)).state = true := by
  intro c g h cs ds k j
  have hne : g ≠ c := by decide
  obtain ⟨⟨hset, hmem, -, hsize, -⟩, hsame, hflag, hcomm⟩ := expansions_are_finite_sets cs
  have hmembers : k.members = {h} := hset.trans (by decide)
  refine ⟨hmembers, ?_, (hsame ds).2.mpr ⟨by decide, ?_⟩, (hflag .clear).mpr ⟨h, by decide⟩, hne,
    (hcomm .toggle .expand g c hne).2.2⟩
  · exact hsize.trans (congrArg Finset.card hmembers)
  · intro n hn
    have hnh : n = h := Finset.mem_singleton.mp (hmembers ▸ (hmem n).mpr hn)
    rw [hnh]
    decide

end Outline
