import Outline.Column
import Outline.Row
import Outline.Listeners

/-!
# The view of a forest

A `View` shows a forest as rows. It keeps the forest, the expansion, the rows that these two
determine, and the listeners. The rows are rebuilt exactly by those operations that report a
change, and every rebuilding is told to every listener once.

Operations that name a row refuse an index outside the present rows before they touch anything.
-/

namespace Outline

/-- The operation on expansions that a verb stands for. -/
def Verb.apply : Verb → Expansion → Node → Bool × Expansion
  | expand => Expansion.expand
  | collapse => Expansion.collapse
  | toggle => Expansion.toggle

/-- A forest shown as rows. -/
structure View where
  /-- The top level nodes. -/
  nodes : List Node
  /-- The expanded groups, shown or not. -/
  expansion : Expansion
  /-- The rows shown. -/
  rows : List Row
  /-- Who is told of changes. -/
  listeners : Listeners

namespace View

/-- The view of a forest under an expansion, without listeners. -/
def ofExpansion (nodes : List Node) (k : Expansion) : View :=
  ⟨nodes, k, flatten nodes k, .empty⟩

/-- The view of a forest with every group collapsed. -/
def ofNodes (nodes : List Node) : View := ofExpansion nodes .empty

/-! ### Looking -/

/-- The number of rows. -/
def rowCount (v : View) : Nat := v.rows.length

/-- The row at an index. -/
def row (v : View) (i : Nat) : Except OutOfRange Row :=
  match v.rows[i]? with
  | some r => .ok r
  | none => .error (.row i v.rowCount)

/-- A row is refused exactly when the index is not below the number of rows. -/
theorem row_eq_error_iff {v : View} {i : Nat} {e : OutOfRange} :
    v.row i = .error e ↔ v.rowCount ≤ i ∧ e = .row i v.rowCount := by
  unfold row rowCount
  split
  · next h =>
    have := (List.getElem?_eq_some_iff.mp h).1
    simp only [reduceCtorEq, false_iff, not_and]
    omega
  · next h =>
    simp [List.getElem?_eq_none_iff.mp h, eq_comm]

/-- The node behind a cell. All columns of a row show the same node. -/
def valueAt (v : View) (row column : Nat) : Except OutOfRange Node := do
  let _ ← Column.ofIndex column
  return (← v.row row).node

/-- The text of a cell, if it has one. -/
def cellText (v : View) (row column : Nat) : Except OutOfRange (Option String) := do
  let column ← Column.ofIndex column
  return column.textOf (← v.row row).node

/-- The depth of the node at a row. -/
def depth (v : View) (row : Nat) : Except OutOfRange Nat := do
  return (← v.row row).depth

/-- Whether the node at a row is an expanded group. -/
def isExpanded (v : View) (row : Nat) : Except OutOfRange Bool := do
  return v.expansion.contains (← v.row row).node

/-- The first row that shows a node. -/
def findRow (v : View) (n : Node) : Option Nat := v.rows.findIdx? fun r => decide (r.node = n)

/-- Whether the rows are those that forest and expansion determine. -/
def consistent (v : View) : Bool := decide (flatten v.nodes v.expansion = v.rows)

/-! ### Changing -/

/-- Rebuild the rows and tell every listener. -/
def refresh (v : View) (cause : Cause) : View × List Event :=
  let rows := flatten v.nodes v.expansion
  let change : Change := ⟨cause, rows.length⟩
  ({ v with rows }, .rowsRebuilt change :: (v.listeners.notify change).map .called)

/-- Take over an expansion; the rows are rebuilt only if it is said to have changed. -/
def adopt (v : View) (changed : Bool) (k : Expansion) (before : List Event) : Outcome View Bool :=
  let v := { v with expansion := k }
  if changed then
    let (v, events) := v.refresh .expansion
    ⟨true, v, before ++ events⟩
  else ⟨false, v, []⟩

/-- Expand, collapse or toggle the group at a row. The answer is whether anything changed: a leaf,
an expanded group to be expanded and a collapsed one to be collapsed change nothing. -/
def act (v : View) (verb : Verb) (row : Nat) : Outcome View (Except OutOfRange Bool) :=
  match v.row row with
  | .error e => ⟨.error e, v, []⟩
  | .ok r =>
    let (changed, k) := verb.apply v.expansion r.node
    let o := v.adopt changed k [.expansionChanged verb row]
    ⟨.ok o.result, o.state, o.events⟩

/-- Expand the group at a row. -/
def expand (v : View) (row : Nat) : Outcome View (Except OutOfRange Bool) := v.act .expand row

/-- Collapse the group at a row. -/
def collapse (v : View) (row : Nat) : Outcome View (Except OutOfRange Bool) := v.act .collapse row

/-- Toggle the group at a row. -/
def toggle (v : View) (row : Nat) : Outcome View (Except OutOfRange Bool) := v.act .toggle row

/-- Expand every group of the forest, shown or hidden, at once. -/
def expandAll (v : View) : Outcome View Bool :=
  let (changed, k) := v.expansion.expandList (Node.walkAll v.nodes)
  v.adopt changed k []

/-- Collapse everything, also what the forest does not hold. -/
def collapseAll (v : View) : Outcome View Bool :=
  let (changed, k) := v.expansion.clear
  v.adopt changed k []

/-- Show another forest under the same expansion. The listeners are told even if it is equal. -/
def replace (v : View) (nodes : List Node) : Outcome View Unit :=
  let (v, events) := { v with nodes }.refresh .replacement
  ⟨(), v, events⟩

/-- Register a listener; the answer is its number. -/
def listen (v : View) (tag : String) : Outcome View Nat :=
  let (id, listeners) := v.listeners.add tag
  ⟨id, { v with listeners }, []⟩

/-- Remove a listener; the answer is whether it was registered. -/
def unlisten (v : View) (id : Nat) : Outcome View Bool :=
  let (found, listeners) := v.listeners.remove id
  ⟨found, { v with listeners }, []⟩

end View

end Outline
