import Mathlib.Tactic.ByContra
import Outline.Proofs.Block
import Outline.Proofs.EditBinding
import Outline.Proofs.ExpansionHistory
import Outline.Proofs.Splice

/-!
# When an edit survives

The edit in progress is looked for in the rows whenever these were rebuilt, and dropped if its node
is not shown. So after any command to the view of a reachable table the edit is gone exactly when no
row shows its node (`Table.Reachable.editing_eq_none_iff`): where the rows were left alone, the row
of the edit still does.

What remains is to say which rows there are. After collapsing a group they are those that lie in no
block below a row showing it (`mem_pruneBelow_iff`); the rows of the group itself are among them, and
so the edit of the group survives. After an expansion all rows are still there
(`flattenAt_sublist`), and after collapsing everything there are the roots only.
-/

namespace Outline

/-! ### Pruned rows -/

variable {g : Node} {r s : Row} {rows rest : List Row} {i j : Nat}

/-- **What is left of the rows when a group is pruned** are those that lie in no block below a row
showing it. -/
theorem mem_pruneBelow_iff :
    s ∈ pruneBelow g rows ↔
      ∃ j, rows[j]? = some s ∧ ∀ i r, rows[i]? = some r → r.node = g → ¬ LiesBelow rows i j := by
  induction rows using pruneBelow.induct g with
  | case1 => simp [pruneBelow]
  | case2 r rows hr ih =>
    -- a row that shows the group: the run behind it goes, and what follows is no deeper
    let run := rows.takeWhile fun s => decide (r.depth < s.depth)
    let rest := rows.dropWhile fun s => decide (r.depth < s.depth)
    have hrows : r :: rows = r :: run ++ rest :=
      congrArg (r :: ·) List.takeWhile_append_dropWhile.symm
    have hrun : ∀ s ∈ run, r.depth < s.depth := fun s hs =>
      of_decide_eq_true (List.all_eq_true.mp List.all_takeWhile s hs)
    have hrest : ∀ s ∈ rest.head?, s.depth ≤ r.depth := fun s hs => by
      have hstop := List.head?_dropWhile_not (fun s : Row => decide (r.depth < s.depth)) rows
      rw [Option.mem_def.mp hs] at hstop
      exact Nat.not_lt.mp (of_decide_eq_false hstop)
    rw [pruneBelow, if_pos hr, List.mem_cons, ih]
    constructor
    · rintro (rfl | ⟨j, hj, hfree⟩)
      · exact ⟨0, rfl, fun _ _ _ _ => not_liesBelow_zero⟩
      · rw [hrows]
        refine ⟨(r :: run).length + j, ?_, fun i u hu hug => ?_⟩
        · rw [getElem?_append_length_add]
          exact hj
        · by_cases hi : i < (r :: run).length
          · exact not_liesBelow_of_head hrun hrest hi hj
          · obtain ⟨i, rfl⟩ := Nat.exists_eq_add_of_le (Nat.not_lt.mp hi)
            rw [getElem?_append_length_add] at hu
            rw [liesBelow_append_iff]
            exact hfree i u hu hug
    · rintro ⟨j, hj, hfree⟩
      cases j with
      | zero => exact .inl (Option.some.inj hj).symm
      | succ j =>
        have hj' : (r :: run).length ≤ j + 1 := by
          refine Nat.succ_le_succ (Nat.not_lt.mp fun hlt => ?_)
          exact hfree 0 r rfl hr (liesBelow_takeWhile hlt)
        obtain ⟨m, hm⟩ := Nat.exists_eq_add_of_le hj'
        rw [hrows, hm] at hj hfree
        rw [getElem?_append_length_add] at hj
        refine .inr ⟨m, hj, fun i u hu hug hb => ?_⟩
        exact hfree ((r :: run).length + i) u ((getElem?_append_length_add _ _ i).trans hu) hug
          ((liesBelow_append_iff _).mpr hb)
  | case3 r rows hr ih =>
    rw [pruneBelow, if_neg hr, List.mem_cons, ih]
    constructor
    · rintro (rfl | ⟨j, hj, hfree⟩)
      · exact ⟨0, rfl, fun _ _ _ _ => not_liesBelow_zero⟩
      · refine ⟨j + 1, hj, fun i u hu hug => ?_⟩
        cases i with
        | zero => exact absurd hug (Option.some.inj hu ▸ hr)
        | succ i =>
          rw [liesBelow_cons_iff]
          exact hfree i u hu hug
    · rintro ⟨j, hj, hfree⟩
      cases j with
      | zero => exact .inl (Option.some.inj hj).symm
      | succ j =>
        refine .inr ⟨j, hj, fun i u hu hug hb => ?_⟩
        exact hfree (i + 1) u hu hug (liesBelow_cons_iff.mpr hb)

/-- Every row that shows the node lies in the block below some row that shows the group. -/
def HiddenBelow (g n : Node) (rows : List Row) : Prop :=
  ∀ j s, rows[j]? = some s → s.node = n →
    ∃ i r, rows[i]? = some r ∧ r.node = g ∧ LiesBelow rows i j

/-- Pruning a group takes away all rows of a node exactly when the node is hidden below the group. -/
theorem forall_mem_pruneBelow_ne_iff {n : Node} :
    (∀ s ∈ pruneBelow g rows, s.node ≠ n) ↔ HiddenBelow g n rows := by
  simp only [mem_pruneBelow_iff]
  constructor
  · intro h j s hs hn
    by_contra hfree
    exact h s ⟨j, hs, fun i r hr hg hb => hfree ⟨i, r, hr, hg, hb⟩⟩ hn
  · rintro h s ⟨j, hs, hfree⟩ hn
    obtain ⟨i, r, hr, hg, hb⟩ := h j s hs hn
    exact hfree i r hr hg hb

/-! ### The rows after an operation -/

namespace View

variable {v : View}

/-- A node that is shown is still shown after an operation at one of its rows. -/
theorem shows_act (hv : v.Reachable) (hr : v.row i = .ok r) (verb : Verb) :
    ∃ s ∈ (v.act verb i).state.rows, s.node = r.node := by
  obtain ⟨f, hf⟩ := exists_findRow hr
  rw [← findRow_act hv hr verb, findRow_eq_some_iff] at hf
  obtain ⟨s, hs, hn⟩ := hf.1
  exact ⟨s, List.mem_of_getElem? (row_eq_ok_iff.mp hs), hn⟩

/-- What is forgotten of a group is pruned from the rows, be it much or nothing. -/
theorem rows_act_of_collapse (hv : v.Reachable) (hr : v.row i = .ok r) {verb : Verb}
    (hverb : verb.apply v.expansion r.node = v.expansion.collapse r.node) :
    (v.act verb i).state.rows = pruneBelow r.node v.rows := by
  have hprune : pruneBelow r.node (flattenAt v.expansion 0 v.nodes ++ []) =
      flattenAt (v.expansion.collapse r.node).2 0 v.nodes ++ pruneBelow r.node [] :=
    pruneBelow_flattenAt_append (fun m => Expansion.mem_collapse) (by simp)
  rw [rows_act hv hr, hverb, hv.coherent.rows]
  simpa [flatten, pruneBelow] using hprune.symm

/-- With nothing expanded the rows are the roots. -/
theorem forall_mem_flatten_empty_iff {ns : List Node} {P : Node → Prop} :
    (∀ r ∈ flatten ns .empty, P r.node) ↔ ∀ n ∈ ns, P n := by
  rw [flatten_empty, List.forall_mem_map]

end View

/-! ### The edit after a command -/

/-- What an adjustment answers tells what became of the edit. -/
theorem Editing.adjust_answers (e : Editing) (rows : List Row) :
    ((e.adjust rows).result = .idle ↔ e = none) ∧
      ((e.adjust rows).result = .cancelled ↔ e ≠ none ∧ (e.adjust rows).state = none) ∧
      ∀ x, e = some x →
        ((e.adjust rows).result = .unchanged ↔
          (rows.findIdx? fun r => decide (r.node = x.node)) = some x.row) ∧
        ∀ a b, (e.adjust rows).result = .moved a b ↔
          a = x.row ∧ (rows.findIdx? fun r => decide (r.node = x.node)) = some b ∧ b ≠ x.row := by
  cases e with
  | none => simp [adjust]
  | some x =>
    rw [result_adjust, state_adjust]
    cases hfind : rows.findIdx? fun r => decide (r.node = x.node) with
    | none => simp [hfind]
    | some i =>
      simp only [Option.some.injEq, forall_eq', hfind]
      -- the first row that shows the node is the row of the edit, or another one
      by_cases hi : i = x.row
      · subst hi
        simp
      · simp [hi]
        omega

namespace Table

variable {t : Table} {x : Edit}

/-- **After a command to the view the edit is gone exactly when no row shows its node.** -/
theorem Reachable.editing_eq_none_iff (ht : t.Reachable) (hx : t.editing = some x)
    (c : View.Command) :
    (t.step (.view c)).state.editing = none ↔
      ∀ s ∈ (t.view.step c).state.rows, s.node ≠ x.node := by
  rw [editing_step]
  cases hc : c.cause (t.view.step c).result with
  | some cause =>
    rw [Option.isSome_some, if_pos rfl, hx]
    exact Editing.adjust_state_eq_none_iff
  | none =>
    -- the rows are the ones before, and that of the edit shows its node
    obtain ⟨r, hr, hn⟩ := (ht.boundTo hx).shown
    rw [Option.isSome_none, if_neg Bool.false_ne_true, hx, (View.step_quiet hc).rows]
    simp only [reduceCtorEq, false_iff]
    exact fun h => h r (List.mem_of_getElem? hr) hn

/-- The edit outlives whatever leaves its row shown. -/
theorem Reachable.editing_ne_none_of_sublist (ht : t.Reachable) (hx : t.editing = some x)
    {c : View.Command} (h : t.view.rows.Sublist (t.view.step c).state.rows) :
    (t.step (.view c)).state.editing ≠ none := by
  obtain ⟨r, hr, hn⟩ := (ht.boundTo hx).shown
  rw [Ne, ht.editing_eq_none_iff hx]
  exact fun hgone => hgone r (h.subset (List.mem_of_getElem? hr)) hn

/-- What is done at a row that shows the node of the edit does not end the edit. -/
theorem Reachable.editing_act_ne_none (ht : t.Reachable) (hx : t.editing = some x)
    (hr : t.view.row i = .ok r) (hn : r.node = x.node) (verb : Verb) :
    (t.act verb i).state.editing ≠ none := by
  obtain ⟨s, hs, hsn⟩ := View.shows_act ht.view hr verb
  exact fun hgone =>
    (ht.editing_eq_none_iff hx (.act verb i)).mp hgone s hs (hsn.trans hn)

/-- Collapsing ends the edit exactly when its node is hidden below the group. -/
theorem Reachable.editing_collapse_eq_none_iff (ht : t.Reachable) (hx : t.editing = some x)
    (hr : t.view.row i = .ok r) {verb : Verb}
    (hverb : verb.apply t.view.expansion r.node = t.view.expansion.collapse r.node) :
    (t.act verb i).state.editing = none ↔ HiddenBelow r.node x.node t.view.rows := by
  rw [← forall_mem_pruneBelow_ne_iff, ← View.rows_act_of_collapse ht.view hr hverb]
  exact ht.editing_eq_none_iff hx (.act verb i)

end Table

/-- **When an edit survives.** In a reachable table let there be an edit.

* Expanding, expanding everything and a toggle that expands never end it.
* Collapsing a group, or toggling an expanded one, ends it exactly when each row that shows its node
  lies in the block below some row that shows the group. So the edit of the group itself is never
  ended by collapsing or toggling the group.
* Collapsing everything ends it exactly when its node is no root.
* A replacement ends it exactly when its node is not among the rows of the new forest under the old
  expansion.

A replacement answers that nothing was edited exactly when there was no edit, and that the edit was
cancelled exactly when it ended it. Otherwise it compares the row of the edit with the first row
that shows the node now: it answers that nothing changed exactly when they are the same, and else
both of them. -/
theorem edit_survives {t : Table} (ht : t.Reachable) :
    (∀ x, t.editing = some x →
      ((∀ i, (t.expand i).state.editing ≠ none) ∧ t.expandAll.state.editing ≠ none ∧
        ∀ i r, t.view.row i = .ok r → r.node ∉ t.view.expansion →
          (t.toggle i).state.editing ≠ none) ∧
      (∀ i r, t.view.row i = .ok r →
        ((t.collapse i).state.editing = none ↔ HiddenBelow r.node x.node t.view.rows) ∧
        (r.node ∈ t.view.expansion →
          ((t.toggle i).state.editing = none ↔ HiddenBelow r.node x.node t.view.rows)) ∧
        (r.node = x.node →
          (t.collapse i).state.editing ≠ none ∧ (t.toggle i).state.editing ≠ none)) ∧
      (t.collapseAll.state.editing = none ↔ x.node ∉ t.view.nodes) ∧
      ∀ ns, ((t.replace ns).state.editing = none ↔
        ∀ r ∈ flatten ns t.view.expansion, r.node ≠ x.node)) ∧
    ∀ ns, let o := t.replace ns
      (o.result = .idle ↔ t.editing = none) ∧
      (o.result = .cancelled ↔ t.editing ≠ none ∧ o.state.editing = none) ∧
      ∀ x, t.editing = some x →
        (o.result = .unchanged ↔ o.state.view.findRow x.node = some x.row) ∧
        ∀ a b, o.result = .moved a b ↔
          a = x.row ∧ o.state.view.findRow x.node = some b ∧ b ≠ x.row := by
  have hv := ht.view
  refine ⟨fun x hx => ⟨⟨fun i => ?_, ?_, fun i r hr hn => ?_⟩,
    fun i r hr => ⟨?_, fun hk => ?_, fun hn => ?_⟩, ?_,
    fun ns => ht.editing_eq_none_iff hx (.replace ns)⟩,
    fun ns => t.editing.adjust_answers (t.replace ns).state.view.rows⟩
  · exact ht.editing_ne_none_of_sublist hx (c := .act .expand i) (View.sublist_expand hv i)
  · exact ht.editing_ne_none_of_sublist hx (c := .expandAll) (View.sublist_expandAll hv)
  · exact ht.editing_ne_none_of_sublist hx (c := .act .toggle i)
      (View.sublist_toggle_of_not_mem hv hr hn)
  · have hcollapse : Verb.collapse.apply t.view.expansion r.node =
        t.view.expansion.collapse r.node := rfl
    exact ht.editing_collapse_eq_none_iff hx hr hcollapse
  · have htoggle : Verb.toggle.apply t.view.expansion r.node =
        t.view.expansion.collapse r.node := by
      simp [Verb.apply, Expansion.toggle, hk]
    exact ht.editing_collapse_eq_none_iff hx hr htoggle
  · exact ⟨ht.editing_act_ne_none hx hr hn .collapse, ht.editing_act_ne_none hx hr hn .toggle⟩
  · have hgone := ht.editing_eq_none_iff hx .collapseAll
    rw [View.step, Outcome.state_map, View.rows_collapseAll hv] at hgone
    rw [← List.forall_mem_ne', ← View.forall_mem_flatten_empty_iff (P := fun n => n ≠ x.node)]
    exact hgone

/-- The edited leaf stands in the group `g`, which is shown twice. Collapsing `h` leaves the leaf one
row, and collapsing `g` at either row leaves it none. A forest with the leaf in front takes the edit
up. -/
theorem edit_survives_once_shown :
    let c := Node.leaf "c" none
    let g := Node.group "g" none [c]
    let h := Node.group "h" none [g]
    let t := ((Table.ofView (.ofExpansion [g, h] (.ofList [g, h]))).step (.startEditing 4 1)).state
    t.Reachable ∧ t.editing = some ⟨c, .value, 4, ""⟩ ∧
      ¬ HiddenBelow h c t.view.rows ∧ (t.collapse 2).state.editing = some ⟨c, .value, 1, ""⟩ ∧
      HiddenBelow g c t.view.rows ∧ (t.toggle 0).state.editing = none ∧
      c ∉ t.view.nodes ∧ t.collapseAll.state.editing = none ∧
      (t.replace [c, g]).result = .moved 4 0 := by
  intro c g h t
  have ht : t.Reachable := .step (.ofView (.fresh [g, h] [g, h])) (.startEditing 4 1)
  have hx : t.editing = some ⟨c, .value, 4, ""⟩ := by decide
  have hh : t.view.row 2 = .ok ⟨h, 0⟩ := by rfl
  have hg : t.view.row 0 = .ok ⟨g, 0⟩ := by rfl
  obtain ⟨hedit, hanswer⟩ := edit_survives ht
  obtain ⟨-, hcollapse, hall, -⟩ := hedit _ hx
  have hkept : (t.collapse 2).state.editing = some ⟨c, .value, 1, ""⟩ := by decide
  have hgone : (t.toggle 0).state.editing = none := by decide
  have hroots : t.collapseAll.state.editing = none := by decide
  have hshown : ¬ HiddenBelow h c t.view.rows := fun hhidden => by
    rw [((hcollapse 2 _ hh).1).mpr hhidden] at hkept
    cases hkept
  have hhidden : HiddenBelow g c t.view.rows := ((hcollapse 0 _ hg).2.1 (by decide)).mp hgone
  obtain ⟨-, -, hplace⟩ := hanswer [c, g]
  have hmoved : (t.replace [c, g]).result = .moved 4 0 :=
    ((hplace _ hx).2 4 0).mpr ⟨rfl, by decide, by decide⟩
  exact ⟨ht, hx, hshown, hkept, hhidden, hgone, hall.mp hroots, hroots, hmoved⟩

end Outline
