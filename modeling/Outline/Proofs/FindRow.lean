import Outline.View
import Outline.Editing

/-!
# Finding a node among the rows

The first row that shows a node is what a view answers when it is asked for the node
(`View.findRow_eq_some_iff`) and where an edit is put after the rows were rebuilt
(`Editing.state_adjust`). Both look through the rows from the top.
-/

namespace Outline

/-- The search meets the node first at this index. -/
theorem findIdx?_node_eq_some_iff {rows : List Row} {n : Node} {i : Nat} :
    (rows.findIdx? fun r => decide (r.node = n)) = some i ↔
      (∃ r, rows[i]? = some r ∧ r.node = n) ∧
        ∀ j < i, ∀ r, rows[j]? = some r → r.node ≠ n := by
  rw [List.findIdx?_eq_some_iff_getElem]
  simp only [decide_eq_true_eq]
  constructor
  · rintro ⟨hi, hn, hlt⟩
    refine ⟨⟨rows[i], List.getElem?_eq_getElem hi, hn⟩, fun j hj r hr => ?_⟩
    obtain ⟨_, rfl⟩ := List.getElem?_eq_some_iff.mp hr
    exact hlt j hj
  · rintro ⟨⟨r, hr, hn⟩, hlt⟩
    obtain ⟨hi, rfl⟩ := List.getElem?_eq_some_iff.mp hr
    refine ⟨hi, hn, fun j hj => hlt j hj _ (List.getElem?_eq_getElem (Nat.lt_trans hj hi))⟩

namespace View

theorem row_eq_ok_iff {v : View} {i : Nat} {r : Row} : v.row i = .ok r ↔ v.rows[i]? = some r := by
  unfold row
  split
  · next s hs => rw [hs, Except.ok.injEq, Option.some.injEq]
  · next hs => simp [hs]

/-- A view finds a node at the first of the rows that show it. -/
theorem findRow_eq_some_iff {v : View} {n : Node} {i : Nat} :
    v.findRow n = some i ↔
      (∃ r, v.row i = .ok r ∧ r.node = n) ∧ ∀ j < i, ∀ r, v.row j = .ok r → r.node ≠ n := by
  simp only [row_eq_ok_iff]
  exact findIdx?_node_eq_some_iff

/-- A node that some row shows is found. -/
theorem exists_findRow {v : View} {i : Nat} {r : Row} (hr : v.row i = .ok r) :
    ∃ f, v.findRow r.node = some f := by
  rw [← Option.isSome_iff_exists, findRow, List.findIdx?_isSome, List.any_eq_true]
  exact ⟨r, List.mem_of_getElem? (row_eq_ok_iff.mp hr), decide_eq_true rfl⟩

end View

/-- Adjusting puts an edit on the first row that shows its node, and drops it if there is none. -/
theorem Editing.state_adjust (x : Edit) (rows : List Row) :
    (Editing.adjust (some x) rows).state =
      (rows.findIdx? fun r => decide (r.node = x.node)).map fun i => { x with row := i } := by
  simp only [Editing.adjust]
  cases rows.findIdx? fun r => decide (r.node = x.node) with
  | none => rfl
  | some i =>
    by_cases h : i = x.row
    · subst h
      simp
    · simp [h]

/-- Adjusting answers where the first row that shows the node is, compared with the row of the
edit. -/
theorem Editing.result_adjust (x : Edit) (rows : List Row) :
    (Editing.adjust (some x) rows).result =
      match rows.findIdx? fun r => decide (r.node = x.node) with
      | some i => if i = x.row then .unchanged else .moved x.row i
      | none => .cancelled := by
  simp only [Editing.adjust]
  cases rows.findIdx? fun r => decide (r.node = x.node) with
  | none => rfl
  | some i => by_cases h : i = x.row <;> simp [h]

end Outline
