import Outline.Column
import Outline.Row
import Outline.Event

/-!
# The edit in progress

At most one cell is edited at a time. An `Edit` remembers the node by value, so that after the
rows were rebuilt it can be put on the first row that shows an equal node, or be dropped if no row
does (`Editing.adjust`). Column and text in progress are never touched by that.

A committed edit is handed out as it stood.
-/

namespace Outline

/-- A cell with the text typed into it so far. -/
structure Edit where
  /-- The node whose cell it is. -/
  node : Node
  /-- The column of the cell. -/
  column : Column
  /-- The row that showed the node when last looked at. -/
  row : Nat
  /-- The text so far. -/
  text : String
deriving DecidableEq

/-- What became of the edit when the rows were rebuilt. -/
inductive Adjustment where
  /-- Nothing was being edited. -/
  | idle
  /-- The first row showing the node is the row of the edit. -/
  | unchanged
  /-- The edit went to the first row showing the node. -/
  | moved (source target : Nat)
  /-- No row shows the node; the edit was dropped. -/
  | cancelled
deriving DecidableEq

/-- The adjustment as a report words it. -/
def Adjustment.describe : Adjustment → String
  | idle => "Idle"
  | unchanged => "Unchanged"
  | moved i j => "Moved \x7b from: " ++ toString i ++ ", to: " ++ toString j ++ " \x7d"
  | cancelled => "Cancelled"

/-- The edit in progress, if any. -/
abbrev Editing := Option Edit

namespace Editing

/-- Begin another edit; the answer is the one that it ends. -/
def start (e : Editing) (next : Edit) : Option Edit × Editing := (e, some next)

/-- Replace the text in progress; the answer is whether there was an edit. -/
def setText (e : Editing) (text : String) : Bool × Editing :=
  (e.isSome, e.map fun x => { x with text })

/-- End the edit and hand it out. -/
def commit (e : Editing) : Option Edit × Editing := (e, none)

/-- Drop the edit; the answer is whether there was one. -/
def cancel (e : Editing) : Bool × Editing := (e.isSome, none)

/-- Put the edit on the first row that shows its node, or drop it. -/
def adjust (e : Editing) (rows : List Row) : Outcome Editing Adjustment :=
  match e with
  | none => ⟨.idle, none, []⟩
  | some x =>
    match rows.findIdx? fun r => decide (r.node = x.node) with
    | some i =>
      if i = x.row then ⟨.unchanged, some x, []⟩
      else ⟨.moved x.row i, some { x with row := i }, [.editFollowed x.node x.row i]⟩
    | none => ⟨.cancelled, none, [.editDropped x.node]⟩

/-- The edit is dropped exactly when no row shows its node. -/
theorem adjust_state_eq_none_iff {x : Edit} {rows : List Row} :
    (adjust (some x) rows).state = none ↔ ∀ r ∈ rows, r.node ≠ x.node := by
  simp only [adjust]
  split
  · next i h =>
    have ⟨hi, hp, _⟩ := List.findIdx?_eq_some_iff_getElem.mp h
    simp only [decide_eq_true_eq] at hp
    have hex : ¬ ∀ r ∈ rows, r.node ≠ x.node := fun hall =>
      hall _ (List.getElem_mem hi) hp
    split <;> simp [hex]
  · next h =>
    simpa [List.findIdx?_eq_none_iff] using h

/-- Node, column and text stay as they were as long as the edit lives. -/
theorem adjust_state_eq_some {x y : Edit} {rows : List Row}
    (h : (adjust (some x) rows).state = some y) :
    y.node = x.node ∧ y.column = x.column ∧ y.text = x.text := by
  simp only [adjust] at h
  split at h
  · split at h <;> (injection h with h; subst h; exact ⟨rfl, rfl, rfl⟩)
  · simp at h

end Editing

end Outline
