import Outline.Proofs.FindRow
import Outline.Proofs.Reachable
import Outline.Proofs.Row

/-!
# The rows after an operation

The rows of a reachable view are those of its forest under its expansion, so the rows after an
operation are known as soon as the expansion after it is: `View.rows_act`, `View.rows_expandAll` and
`View.rows_collapseAll` say which it is, and `flatten_empty` which rows there are with nothing
expanded. An operation that takes nothing away from the expansion hides no row and leaves the rows
in their order (`View.sublist_expand`, `View.sublist_toggle_of_not_mem`, `View.sublist_expandAll`).
-/

namespace Outline

/-- With nothing expanded the rows are the roots. -/
theorem flatten_empty (ns : List Node) : flatten ns .empty = ns.map fun n => ⟨n, 0⟩ := by
  induction ns with
  | nil => rfl
  | cons n ns ih =>
    rw [flatten, flattenAt_cons, if_neg (Expansion.not_mem_empty n), List.nil_append, ← flatten, ih,
      List.map_cons]

namespace View

variable {v : View} {i : Nat} {r : Row}

/-! ### Which rows there are -/

theorem rows_act (hv : v.Reachable) (hr : v.row i = .ok r) (verb : Verb) :
    (v.act verb i).state.rows = flatten v.nodes (verb.apply v.expansion r.node).2 := by
  have hrows := (hv.step (.act verb i)).coherent.rows
  rw [step, Outcome.state_map] at hrows
  rw [hrows, act_of_row_eq_ok hr]
  simp only [nodes_adopt, expansion_adopt]

theorem rows_expandAll (hv : v.Reachable) :
    v.expandAll.state.rows =
      flatten v.nodes (v.expansion.expandList (Node.walkAll v.nodes)).2 := by
  have hrows := (hv.step .expandAll).coherent.rows
  rw [step, Outcome.state_map] at hrows
  rw [hrows]
  simp only [expandAll, nodes_adopt, expansion_adopt]

theorem rows_collapseAll (hv : v.Reachable) :
    v.collapseAll.state.rows = flatten v.nodes .empty := by
  have hrows := (hv.step .collapseAll).coherent.rows
  rw [step, Outcome.state_map] at hrows
  rw [hrows]
  simp only [collapseAll, nodes_adopt, expansion_adopt]
  rfl

/-! ### Operations that hide no row -/

theorem sublist_expand (hv : v.Reachable) (i : Nat) :
    v.rows.Sublist (v.act .expand i).state.rows := by
  cases hr : v.row i with
  | error e => exact (congrArg rows (congrArg Outcome.state (act_of_row_eq_error hr _))).symm ▸
      List.Sublist.refl _
  | ok r =>
    rw [rows_act hv hr, hv.coherent.rows]
    exact flattenAt_sublist fun m hm => Expansion.mem_expand.mpr (.inl hm)

theorem sublist_toggle_of_not_mem (hv : v.Reachable) (hr : v.row i = .ok r)
    (hn : r.node ∉ v.expansion) : v.rows.Sublist (v.act .toggle i).state.rows := by
  rw [rows_act hv hr, hv.coherent.rows]
  refine flattenAt_sublist fun m hm => ?_
  rw [Verb.apply, Expansion.mem_toggle, if_neg hn]
  exact .inl hm

theorem sublist_expandAll (hv : v.Reachable) : v.rows.Sublist v.expandAll.state.rows := by
  rw [rows_expandAll hv, hv.coherent.rows]
  exact flattenAt_sublist fun m hm => Expansion.mem_expandList.mpr (.inl hm)

end View

end Outline
