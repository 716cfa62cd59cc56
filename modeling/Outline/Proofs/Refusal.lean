import Outline.Proofs.EditBinding

/-!
# Refusals

Whatever addresses a row or a cell is refused by one rule. `View.rowFault?` and `View.cellFault?`
state it on the address alone: of a cell the column is looked at first, and the row only if there is
such a column. Every operation that takes an address looks it up before it does anything else, so
two lemmas about the look-up (`View.lookup_row_eq_error_iff`, `View.lookup_cell_eq_error_iff`) serve
all of them.

An attempt to edit asks first whether the cell can be edited, and ends the edit in progress only
once nothing can go wrong. So a refusal, of an operation at a row or of an attempt to edit, is the
whole outcome: the table is the one before, the edit in progress included, and nobody is told
anything (`Table.step_of_refuses`). By induction a run is what it would have been without its
refused commands (`Table.stateAfter_accepted`).
-/

namespace Outline

open Outcome (stateAfter)

/-- Whether an answer refuses the command. -/
def Answer.refuses : Answer → Bool
  | outOfRange _ => true
  | refused _ => true
  | _ => false

/-- An index is that of a column exactly when it is its position. -/
theorem Column.ofIndex_eq_ok_iff {i : Nat} {c : Column} : ofIndex i = .ok c ↔ i = c.index := by
  constructor
  · intro h
    rcases i with _ | _ | i <;> cases h <;> rfl
  · rintro rfl
    exact ofIndex_index c

namespace View

/-! ### The rule -/

/-- What is wrong with the index of a row: it may lie beyond the present rows. -/
def rowFault? (v : View) (row : Nat) : Option OutOfRange :=
  if row < v.rowCount then none else some (.row row v.rowCount)

/-- What is wrong with the address of a cell. A column that there is not is told before a row that
there is not. -/
def cellFault? (v : View) (row column : Nat) : Option OutOfRange :=
  if column < Column.count then v.rowFault? row else some (.column column Column.count)

variable {v : View} {row column : Nat} {e : OutOfRange} {α : Type}

theorem row_eq_error_iff_rowFault? : v.row row = .error e ↔ v.rowFault? row = some e := by
  rw [row_eq_error_iff, rowFault?]
  by_cases hr : row < v.rowCount
  · have hle : ¬ v.rowCount ≤ row := Nat.not_le.mpr hr
    simp [hr, hle]
  · simp [hr, Nat.not_lt.mp hr, eq_comm]

/-- What is computed from a row is refused exactly when the row is. -/
theorem lookup_row_eq_error_iff (f : Row → α) :
    (v.row row >>= fun r => pure (f r)) = .error e ↔ v.rowFault? row = some e := by
  rw [← row_eq_error_iff_rowFault?]
  cases v.row row <;> simp [bind, Except.bind, pure, Except.pure]

/-- What is computed from a column and a row is refused exactly when the cell is. -/
theorem lookup_cell_eq_error_iff (f : Column → Row → α) :
    (Column.ofIndex column >>= fun c => v.row row >>= fun r => pure (f c r)) = .error e ↔
      v.cellFault? row column = some e := by
  rw [cellFault?]
  cases hc : Column.ofIndex column with
  | error e' =>
    obtain ⟨hcol, rfl⟩ := Column.ofIndex_eq_error_iff.mp hc
    rw [if_neg (Nat.not_lt.mpr hcol)]
    simp [bind, Except.bind]
  | ok c =>
    have hcol : column < Column.count := by
      obtain rfl := Column.ofIndex_eq_ok_iff.mp hc
      cases c <;> decide
    rw [if_pos hcol]
    exact lookup_row_eq_error_iff (f c)

theorem result_act_eq_error_iff (verb : Verb) :
    (v.act verb row).result = .error e ↔ v.rowFault? row = some e := by
  rw [← row_eq_error_iff_rowFault?]
  cases hr : v.row row with
  | error e' => simp [act_of_row_eq_error hr]
  | ok r => simp [act_of_row_eq_ok hr]

end View

namespace Table

variable {t : Table} {row column : Nat}

/-! ### Attempts to edit -/

/-- A cell that there is cannot be edited exactly when it shows a name, or the value of a group that
has none. -/
theorem editable_eq_false_iff : t.editable row column = .ok false ↔
    ∃ r, t.view.row row = .ok r ∧
      (column = Column.name.index ∨
        column = Column.value.index ∧ r.node.isGroup = true ∧ r.node.value = none) := by
  cases hc : Column.ofIndex column with
  | error e =>
    have hne : ∀ c : Column, column ≠ c.index := by
      rintro c rfl
      simp at hc
    simp [editable, hc, hne, bind, Except.bind]
  | ok c =>
    cases hr : t.view.row row with
    | error e => simp [editable, hc, hr, bind, Except.bind]
    | ok r =>
      rw [editable_eq_ok hc hr]
      obtain rfl := Column.ofIndex_eq_ok_iff.mp hc
      cases c <;> simp [Column.index, Node.isLeaf]

/-- An attempt to edit is answered by what is known of the cell. -/
theorem result_startEditing (t : Table) (row column : Nat) :
    (t.startEditing row column).result =
      match t.editable row column with
      | .error e => .error (.outOfRange e)
      | .ok false => .error (.notEditable row column)
      | .ok true => .ok t.editing := by
  cases h : t.editable row column with
  | error e => rw [startEditing_of_error h]
  | ok b =>
    cases b with
    | false => rw [startEditing_of_false h]
    | true =>
      obtain ⟨rfl, r, hr, -⟩ := editable_eq_true_iff.mp h
      rw [startEditing_of_true h hr]

/-! ### A refusal is the whole outcome -/

/-- A refused operation at a row does nothing. -/
theorem act_of_result_eq_error {verb : Verb} {e : OutOfRange}
    (h : (t.act verb row).result = .error e) : t.act verb row = ⟨.error e, t, []⟩ := by
  have hview : (t.view.act verb row).result = .error e := by
    rwa [act, result_follow] at h
  have hr := View.row_eq_error_iff_rowFault?.mpr ((View.result_act_eq_error_iff verb).mp hview)
  rw [act, View.act_of_row_eq_error hr]
  rfl

/-- A refused attempt to edit does nothing; an edit in progress goes on. -/
theorem startEditing_of_result_eq_error {e : EditRefusal}
    (h : (t.startEditing row column).result = .error e) :
    t.startEditing row column = ⟨.error e, t, []⟩ := by
  rcases t.startEditing_cases row column with ⟨e', he⟩ | ⟨r, -, -, he⟩
  · rw [he] at h ⊢
    cases h
    rfl
  · rw [he] at h
    cases h

/-- A refused command does nothing. -/
theorem step_of_refuses {t : Table} {c : Command} (h : (t.step c).result.refuses = true) :
    t.step c = ⟨(t.step c).result, t, []⟩ := by
  cases c with
  | view w =>
    cases w with
    | act verb i =>
      cases hr : (t.act verb i).result with
      | error e => simp only [step, act_of_result_eq_error hr, Outcome.map]
      | ok b => simp [step, Outcome.map, hr, Answer.ofResult, Answer.refuses] at h
    | _ => simp [step, Outcome.map, Answer.refuses] at h
  | startEditing i j =>
    cases hr : (t.startEditing i j).result with
    | error e => simp only [step, startEditing_of_result_eq_error hr, Outcome.map]
    | ok b => simp [step, Outcome.map, hr, Answer.ofStart, Answer.refuses] at h
  | _ => simp [step, Outcome.map, Answer.refuses] at h

/-! ### Runs -/

/-- The commands of a run that were not refused. -/
def accepted (t : Table) : List Command → List Command
  | [] => []
  | c :: cs =>
    if (t.step c).result.refuses then accepted t cs else c :: accepted (t.step c).state cs

/-- **A run is what it would have been without its refused commands**: it ends in the same table,
and its events are the same. -/
theorem stateAfter_accepted (t : Table) (cs : List Command) :
    stateAfter step t (t.accepted cs) = stateAfter step t cs ∧
      (Outcome.runFrom step t (t.accepted cs)).flatMap (·.events) =
        (Outcome.runFrom step t cs).flatMap (·.events) := by
  induction cs generalizing t with
  | nil => exact ⟨rfl, rfl⟩
  | cons c cs ih =>
    rw [accepted]
    split
    · next h =>
      have hstate : (t.step c).state = t := by rw [step_of_refuses h]
      have hevents : (t.step c).events = [] := by rw [step_of_refuses h]
      obtain ⟨ihs, ihe⟩ := ih t
      refine ⟨?_, ?_⟩
      · rw [ihs]
        change _ = stateAfter step (t.step c).state cs
        rw [hstate]
      · rw [ihe, Outcome.runFrom, List.flatMap_cons, hevents, hstate, List.nil_append]
    · obtain ⟨ihs, ihe⟩ := ih (t.step c).state
      refine ⟨ihs, ?_⟩
      rw [Outcome.runFrom, Outcome.runFrom, List.flatMap_cons, List.flatMap_cons, ihe]

end Table

/-- **Refusals are exact, and a refusal changes nothing.** In every table, for every row and every
column:

* operations and questions that address a row are refused exactly when it is not below the number of
  rows, with the row and that number;
* questions that address a cell are refused exactly when the column is not below the number of
  columns, and otherwise exactly when the row is not below the number of rows;
* an edit begins exactly when the cell can be edited; it is refused for the address exactly when the
  question whether it can be edited is, and otherwise exactly when the answer is no: for the name of
  a row, and for the value of a group that has none;
* a refused operation or attempt leaves the whole table as it was, with the edit in progress, and no
  listener is called. (Questions leave it as it was in any case.) -/
theorem refusals_exact_and_atomic (t : Table) (row column : Nat) :
    (∀ e,
      (∀ verb, (t.act verb row).result = .error e ↔ t.view.rowFault? row = some e) ∧
      (t.view.row row = .error e ↔ t.view.rowFault? row = some e) ∧
      (t.view.depth row = .error e ↔ t.view.rowFault? row = some e) ∧
      (t.view.isExpanded row = .error e ↔ t.view.rowFault? row = some e) ∧
      (t.view.valueAt row column = .error e ↔ t.view.cellFault? row column = some e) ∧
      (t.view.cellText row column = .error e ↔ t.view.cellFault? row column = some e) ∧
      (t.editable row column = .error e ↔ t.view.cellFault? row column = some e)) ∧
    ((∃ x, (t.startEditing row column).result = .ok x) ↔ t.editable row column = .ok true) ∧
    (∀ e, (t.startEditing row column).result = .error (.outOfRange e) ↔
      t.editable row column = .error e) ∧
    (∀ i j, (t.startEditing row column).result = .error (.notEditable i j) ↔
      t.editable row column = .ok false ∧ i = row ∧ j = column) ∧
    (t.editable row column = .ok false ↔ ∃ r, t.view.row row = .ok r ∧
      (column = Column.name.index ∨
        column = Column.value.index ∧ r.node.isGroup = true ∧ r.node.value = none)) ∧
    (∀ verb e, (t.act verb row).result = .error e → t.act verb row = ⟨.error e, t, []⟩) ∧
    (∀ e, (t.startEditing row column).result = .error e →
      t.startEditing row column = ⟨.error e, t, []⟩) := by
  have hstart := t.result_startEditing row column
  refine ⟨fun e => ⟨fun verb => ?_, View.row_eq_error_iff_rowFault?,
    View.lookup_row_eq_error_iff Row.depth,
    View.lookup_row_eq_error_iff fun r => t.view.expansion.contains r.node,
    View.lookup_cell_eq_error_iff fun _ r => r.node,
    View.lookup_cell_eq_error_iff fun c r => c.textOf r.node,
    View.lookup_cell_eq_error_iff fun c r =>
      decide (c = .value) && (r.node.isLeaf || r.node.value.isSome)⟩,
    ?_, fun e => ?_, fun i j => ?_, Table.editable_eq_false_iff,
    fun verb e => Table.act_of_result_eq_error, fun e => Table.startEditing_of_result_eq_error⟩
  · rw [Table.act, Table.result_follow]
    exact View.result_act_eq_error_iff verb
  all_goals
    rw [hstart]
    cases t.editable row column with
    | error e' => simp
    | ok b => cases b <;> simp [eq_comm]

/-- With an edit in progress and a listener, an operation beyond the rows, an attempt beyond the
columns and one at the value of a group that has none are refused, and the edit goes on. -/
theorem refusals_exact_and_atomic_editing :
    let t := stateAfter Table.step (.ofNodes [.group "g" none [], .leaf "a" (some "1")])
      [.view (.listen "l"), .startEditing 1 1, .setText "2"]
    t.Reachable ∧ t.editing = some ⟨.leaf "a" (some "1"), .value, 1, "2"⟩ ∧
      t.act .toggle 2 = ⟨.error (.row 2 2), t, []⟩ ∧
      t.startEditing 9 5 = ⟨.error (.outOfRange (.column 5 2)), t, []⟩ ∧
      t.startEditing 0 1 = ⟨.error (.notEditable 0 1), t, []⟩ := by
  intro t
  have ht : t.Reachable :=
    Outcome.stateAfter_induction (fun _ c h => .step h c) (.ofNodes _) _
  have htoggle : (t.act .toggle 2).result = .error (.row 2 2) :=
    (((refusals_exact_and_atomic t 2 0).1 _).1 .toggle).mpr (by decide)
  have hcolumn : (t.startEditing 9 5).result = .error (.outOfRange (.column 5 2)) := rfl
  have hvalue : (t.startEditing 0 1).result = .error (.notEditable 0 1) := rfl
  obtain ⟨-, -, -, -, -, hact, -⟩ := refusals_exact_and_atomic t 2 0
  obtain ⟨-, -, -, -, -, -, hbeyond⟩ := refusals_exact_and_atomic t 9 5
  obtain ⟨-, -, -, -, -, -, hgroup⟩ := refusals_exact_and_atomic t 0 1
  exact ⟨ht, by decide, hact .toggle _ htoggle, hbeyond _ hcolumn, hgroup _ hvalue⟩

end Outline
