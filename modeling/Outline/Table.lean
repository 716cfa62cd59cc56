import Outline.View
import Outline.Editing

/-!
# A view with an edit

A `Table` pairs a view with the edit in progress. Whatever rebuilds the rows also adjusts the
edit, after the listeners were told, so that the edit never points at a row that shows another
node.

Only the value column can be edited: of a leaf always, of a group when it has a value.
-/

namespace Outline

/-- Why an edit was not begun. -/
inductive EditRefusal where
  /-- There is no such cell. -/
  | outOfRange (e : OutOfRange)
  /-- The cell cannot be edited. -/
  | notEditable (row column : Nat)
deriving DecidableEq

/-- One sentence for the reader of the refusal. -/
def EditRefusal.message : EditRefusal → String
  | outOfRange e => e.message
  | notEditable r c => s!"cell at row {r}, column {c} is not editable"

/-- The refusal with all its parts. -/
def EditRefusal.describe : EditRefusal → String
  | outOfRange e => "Projection(" ++ e.describe ++ ")"
  | notEditable r c =>
    "NotEditable \x7b row: " ++ toString r ++ ", column: " ++ toString c ++ " \x7d"

/-- A view together with the edit in progress. -/
structure Table where
  /-- The rows and what they show. -/
  view : View
  /-- The edit in progress. -/
  editing : Editing

namespace Table

/-- The table over a view; nothing is edited. -/
def ofView (view : View) : Table := ⟨view, none⟩

/-- The table over a forest with every group collapsed. -/
def ofNodes (nodes : List Node) : Table := ofView (View.ofNodes nodes)

/-- The number of rows. -/
def rowCount (t : Table) : Nat := t.view.rowCount

/-! ### Changing the rows -/

/-- Go over to another view and adjust the edit to its rows. -/
def settle (t : Table) (view : View) : Outcome Table Adjustment :=
  let o := t.editing.adjust view.rows
  ⟨o.result, ⟨view, o.state⟩, o.events⟩

/-- Take over what an operation did to the view; the edit is adjusted if the answer is said to be
a change. -/
def follow {α : Type} (t : Table) (changed : α → Bool) (o : Outcome View α) : Outcome Table α :=
  if changed o.result then
    let s := t.settle o.state
    ⟨o.result, s.state, o.events ++ s.events⟩
  else ⟨o.result, ⟨o.state, t.editing⟩, o.events⟩

/-- Whether a row operation succeeded and changed something. -/
def didChange (r : Except OutOfRange Bool) : Bool := r matches .ok true

/-- Expand, collapse or toggle the group at a row. -/
def act (t : Table) (verb : Verb) (row : Nat) : Outcome Table (Except OutOfRange Bool) :=
  t.follow didChange (t.view.act verb row)

/-- Expand the group at a row. -/
def expand (t : Table) (row : Nat) : Outcome Table (Except OutOfRange Bool) := t.act .expand row

/-- Collapse the group at a row. -/
def collapse (t : Table) (row : Nat) : Outcome Table (Except OutOfRange Bool) :=
  t.act .collapse row

/-- Toggle the group at a row. -/
def toggle (t : Table) (row : Nat) : Outcome Table (Except OutOfRange Bool) := t.act .toggle row

/-- Expand every group. -/
def expandAll (t : Table) : Outcome Table Bool := t.follow id t.view.expandAll

/-- Collapse everything. -/
def collapseAll (t : Table) : Outcome Table Bool := t.follow id t.view.collapseAll

/-- Show another forest; expansion and edit follow their nodes by value. -/
def replace (t : Table) (nodes : List Node) : Outcome Table Adjustment :=
  let o := t.view.replace nodes
  let s := t.settle o.state
  ⟨s.result, s.state, o.events ++ s.events⟩

/-- Expand the first row that shows a collapsed group of this name; the answer is whether there is
one. -/
def expandNamed (t : Table) (name : String) : Outcome Table Bool :=
  let hit (r : Row) : Bool :=
    r.node.isGroup && r.node.name == name && !t.view.expansion.contains r.node
  match t.view.rows.findIdx? hit with
  | some i =>
    let o := t.expand i
    ⟨didChange o.result, o.state, o.events⟩
  | none => ⟨false, t, []⟩

/-! ### Listeners -/

/-- Register a listener; the answer is its number. -/
def listen (t : Table) (tag : String) : Outcome Table Nat :=
  t.follow (fun _ => false) (t.view.listen tag)

/-- Remove a listener; the answer is whether it was registered. -/
def unlisten (t : Table) (id : Nat) : Outcome Table Bool :=
  t.follow (fun _ => false) (t.view.unlisten id)

/-! ### Editing -/

/-- Whether a cell can be edited. -/
def editable (t : Table) (row column : Nat) : Except OutOfRange Bool := do
  let column ← Column.ofIndex column
  let node := (← t.view.row row).node
  return column = .value && (node.isLeaf || node.value.isSome)

/-- Begin to edit a cell, with its text to start from. The answer is the edit that this ends. -/
def startEditing (t : Table) (row column : Nat) :
    Outcome Table (Except EditRefusal (Option Edit)) :=
  let begun : Except EditRefusal Edit := do
    if ← (t.editable row column).mapError .outOfRange then
      let c ← (Column.ofIndex column).mapError .outOfRange
      let r ← (t.view.row row).mapError .outOfRange
      return ⟨r.node, c, row, (c.textOf r.node).getD ""⟩
    else
      throw (.notEditable row column)
  match begun with
  | .error e => ⟨.error e, t, []⟩
  | .ok next =>
    let (previous, editing) := t.editing.start next
    ⟨.ok previous, { t with editing }, []⟩

/-- Replace the text in progress; the answer is whether there is an edit. -/
def setText (t : Table) (text : String) : Outcome Table Bool :=
  let (found, editing) := t.editing.setText text
  ⟨found, { t with editing }, []⟩

/-- End the edit and hand it out. -/
def commit (t : Table) : Outcome Table (Option Edit) :=
  let (edit, editing) := t.editing.commit
  ⟨edit, { t with editing }, []⟩

/-- Drop the edit; the answer is whether there was one. -/
def cancel (t : Table) : Outcome Table Bool :=
  let (found, editing) := t.editing.cancel
  ⟨found, { t with editing }, []⟩

end Table

end Outline
