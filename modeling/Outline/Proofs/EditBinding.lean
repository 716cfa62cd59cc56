import Outline.Proofs.FindRow
import Outline.Proofs.Reachable

/-!
# The edit stays on its node

An edit remembers its node and a row. `Edit.BoundTo` says that the row shows the node, and that the
cell is one that may be edited. Beginning an edit binds it (`Table.startEditing_cases`); a
rebuilding of the rows binds it anew, to the first row that shows its node, or drops it
(`Edit.boundTo_of_adjust`); nothing else touches rows or edit. So the edit of a reachable table is
always bound (`Table.Reachable.boundTo`).
-/

namespace Outline

/-- The row of the edit shows its node, and the cell may be edited: it is in the value column, of a
leaf or of a node with a value. -/
structure Edit.BoundTo (x : Edit) (rows : List Row) : Prop where
  shown : ∃ r, rows[x.row]? = some r ∧ r.node = x.node
  column : x.column = .value
  editable : x.node.isLeaf = true ∨ x.node.value.isSome = true

/-- An edit that survives an adjustment is bound to the rows to which it was adjusted, whichever
rows it was bound to before. -/
theorem Edit.boundTo_of_adjust {x y : Edit} {old rows : List Row} (hx : x.BoundTo old)
    (h : (Editing.adjust (some x) rows).state = some y) : y.BoundTo rows := by
  rw [Editing.state_adjust, Option.map_eq_some_iff] at h
  obtain ⟨i, hi, rfl⟩ := h
  exact ⟨(findIdx?_node_eq_some_iff.mp hi).1, hx.column, hx.editable⟩

namespace Table

/-! ### Beginning an edit -/

/-- For a cell that there is, only column and node decide whether it can be edited. -/
theorem editable_eq_ok {t : Table} {row column : Nat} {c : Column} {r : Row}
    (hc : Column.ofIndex column = .ok c) (hr : t.view.row row = .ok r) :
    t.editable row column =
      .ok (decide (c = .value) && (r.node.isLeaf || r.node.value.isSome)) := by
  simp [editable, hc, hr, bind, Except.bind, pure, Except.pure]

theorem editable_eq_true_iff {t : Table} {row column : Nat} :
    t.editable row column = .ok true ↔
      column = Column.value.index ∧ ∃ r, t.view.row row = .ok r ∧
        (r.node.isLeaf = true ∨ r.node.value.isSome = true) := by
  cases hc : Column.ofIndex column with
  | error e =>
    have hne : column ≠ Column.value.index := by
      rintro rfl
      simp at hc
    simp [editable, hc, hne, bind, Except.bind]
  | ok c =>
    have hcol : column = Column.value.index ↔ c = .value := by
      match column, hc with
      | 0, rfl => decide
      | 1, rfl => decide
    cases hr : t.view.row row with
    | error e => simp [editable, hc, hr, bind, Except.bind]
    | ok r =>
      rw [editable_eq_ok hc hr, hcol]
      simp

theorem startEditing_of_error {t : Table} {row column : Nat} {e : OutOfRange}
    (h : t.editable row column = .error e) :
    t.startEditing row column = ⟨.error (.outOfRange e), t, []⟩ := by
  rw [startEditing, h]
  rfl

theorem startEditing_of_false {t : Table} {row column : Nat}
    (h : t.editable row column = .ok false) :
    t.startEditing row column = ⟨.error (.notEditable row column), t, []⟩ := by
  rw [startEditing, h]
  rfl

/-- An edit begins with the value shown at the row, and the answer is the edit that it ends. -/
theorem startEditing_of_true {t : Table} {row : Nat} {r : Row}
    (h : t.editable row Column.value.index = .ok true) (hr : t.view.row row = .ok r) :
    t.startEditing row Column.value.index =
      ⟨.ok t.editing, { t with editing := some ⟨r.node, .value, row, r.node.value.getD ""⟩ },
        []⟩ := by
  rw [startEditing, h, hr]
  rfl

/-- An attempt to edit is refused and leaves the table as it was, or an edit of the value shown at
the row begins. -/
theorem startEditing_cases (t : Table) (row column : Nat) :
    (∃ e, t.startEditing row column = ⟨.error e, t, []⟩) ∨
      ∃ r, t.view.row row = .ok r ∧ (r.node.isLeaf = true ∨ r.node.value.isSome = true) ∧
        t.startEditing row column =
          ⟨.ok t.editing, { t with editing := some ⟨r.node, .value, row, r.node.value.getD ""⟩ },
            []⟩ := by
  cases h : t.editable row column with
  | error e => exact .inl ⟨_, startEditing_of_error h⟩
  | ok b =>
    cases b with
    | false => exact .inl ⟨_, startEditing_of_false h⟩
    | true =>
      obtain ⟨rfl, r, hr, he⟩ := editable_eq_true_iff.mp h
      exact .inr ⟨r, hr, he, startEditing_of_true h hr⟩

/-! ### The invariant -/

/-- A command of editing keeps the edit bound. -/
private theorem boundTo_step_of_editing {t : Table} {c : Command} (hc : c.toView? = none)
    (h : ∀ x, t.editing = some x → x.BoundTo t.view.rows) {y : Edit}
    (hy : (t.step c).state.editing = some y) : y.BoundTo t.view.rows := by
  cases c with
  | view w => exact absurd hc (by simp [Command.toView?])
  | startEditing row column =>
    rcases t.startEditing_cases row column with ⟨e, he⟩ | ⟨r, hr, hed, he⟩
    · rw [step, Outcome.state_map, he] at hy
      exact h y hy
    · rw [step, Outcome.state_map, he] at hy
      obtain rfl := Option.some.inj hy
      exact ⟨⟨r, View.row_eq_ok_iff.mp hr, rfl⟩, rfl, hed⟩
  | setText text =>
    obtain ⟨x, hx, rfl⟩ := Option.map_eq_some_iff.mp hy
    exact ⟨(h x hx).shown, (h x hx).column, (h x hx).editable⟩
  | commit => exact absurd hy (by simp [step, commit, Editing.commit])
  | cancel => exact absurd hy (by simp [step, cancel, Editing.cancel])

/-- **The edit of a reachable table is bound to the rows.** -/
theorem Reachable.boundTo {t : Table} (h : t.Reachable) {x : Edit} (hx : t.editing = some x) :
    x.BoundTo t.view.rows := by
  induction h generalizing x with
  | ofView _ => exact absurd hx (by simp [Table.ofView])
  | @step t _ c ih =>
    cases hc : c.cause (t.step c).result with
    | some cause =>
      -- the rows were rebuilt: the edit that is left was put on a row that shows its node
      rw [editing_step_of_rebuilt (by simp [hc])] at hx
      cases he : t.editing with
      | none => simp [he, Editing.adjust] at hx
      | some y => exact Edit.boundTo_of_adjust (ih he) (he ▸ hx)
    | none =>
      rw [(quiet_step hc).2.2]
      cases hv : c.toView? with
      | none => exact boundTo_step_of_editing hv (fun _ => ih) hx
      | some w =>
        obtain rfl := Command.eq_view_of_toView?_eq_some hv
        rw [Command.cause, cause_step] at hc
        rw [editing_step, hc] at hx
        exact ih hx

end Table

/-! ### The edit follows its node -/

/-- **As long as there is an edit, its row shows its node.** In every reachable table the row of
the edit is one of the rows and shows the very node that the edit remembers; the edit is of the
value column, of a leaf or of a node with a value. A command leaves forest, expansion and rows
alone, or it rebuilds the rows and leaves an edit that survives on the first row showing its node,
with node, column and text in progress as they were. -/
theorem edit_follows_node {t : Table} (h : t.Reachable) :
    (∀ x, t.editing = some x →
      x.row < t.rowCount ∧ (∃ r, t.view.row x.row = .ok r ∧ r.node = x.node) ∧
        x.column = .value ∧ (x.node.isLeaf = true ∨ x.node.value.isSome = true)) ∧
    ∀ c : Table.Command,
      (c.cause (t.step c).result = none →
        (t.step c).state.view.nodes = t.view.nodes ∧
          (t.step c).state.view.expansion = t.view.expansion ∧
          (t.step c).state.view.rows = t.view.rows) ∧
      (c.cause (t.step c).result ≠ none → ∀ x y, t.editing = some x →
        (t.step c).state.editing = some y →
          (t.step c).state.view.findRow y.node = some y.row ∧
            y.node = x.node ∧ y.column = x.column ∧ y.text = x.text) := by
  refine ⟨fun x hx => ?_, fun c => ⟨Table.quiet_step, fun hc x y hx hy => ?_⟩⟩
  · obtain ⟨⟨r, hr, hn⟩, hcol, hed⟩ := h.boundTo hx
    exact ⟨(List.getElem?_eq_some_iff.mp hr).1, ⟨r, View.row_eq_ok_iff.mpr hr, hn⟩, hcol, hed⟩
  · rw [Table.editing_step_of_rebuilt hc, hx, Editing.state_adjust,
      Option.map_eq_some_iff] at hy
    obtain ⟨i, hi, rfl⟩ := hy
    exact ⟨hi, rfl, rfl, rfl⟩

/-- The group above the edited leaf is expanded, and the edit moves down with its leaf. -/
theorem edit_follows_node_downwards :
    let a := Node.leaf "a" none
    let t := Outcome.stateAfter Table.step (.ofNodes [.group "g" none [.leaf "c" none], a])
      [.startEditing 1 1, .setText "x"]
    let s := (t.step (.view (.act .expand 0))).state
    t.Reachable ∧ t.editing = some ⟨a, .value, 1, "x"⟩ ∧ s.editing = some ⟨a, .value, 2, "x"⟩ ∧
      s.view.findRow a = some 2 := by
  intro a t s
  have ht : t.Reachable := Outcome.stateAfter_induction (fun _ c h => .step h c) (.ofNodes _) _
  have hx : t.editing = some ⟨a, .value, 1, "x"⟩ := by decide
  have hy : s.editing = some ⟨a, .value, 2, "x"⟩ := by decide
  exact ⟨ht, hx, hy, (((edit_follows_node ht).2 _).2 (by decide) _ _ hx hy).1⟩

end Outline
