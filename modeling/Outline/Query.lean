import Outline.Table

/-!
# Questions

Looking at a view or a table, as data, beside the commands that change them. A question is answered
by `View.ask` or `Table.ask`; the type of the reply depends on the question. Asking is a function of
the state, so it changes nothing and calls nobody.
-/

namespace Outline

/-- What can be asked of a view. -/
inductive View.Query where
  /-- How many rows there are. -/
  | rowCount
  /-- All rows. -/
  | rows
  /-- The forest shown. -/
  | nodes
  /-- Which groups are expanded, shown or not. -/
  | expansion
  /-- The row at an index. -/
  | row (row : Nat)
  /-- The node behind a cell. -/
  | valueAt (row column : Nat)
  /-- The text of a cell. -/
  | cellText (row column : Nat)
  /-- How deep the node at a row stands. -/
  | depth (row : Nat)
  /-- Whether the node at a row is expanded. -/
  | isExpanded (row : Nat)
  /-- The first row that shows a node. -/
  | findRow (node : Node)

/-- What a view replies to a question. -/
def View.Query.Reply : View.Query → Type
  | .rowCount => Nat
  | .rows => List Row
  | .nodes => List Node
  | .expansion => Expansion
  | .row _ => Except OutOfRange Row
  | .valueAt _ _ => Except OutOfRange Node
  | .cellText _ _ => Except OutOfRange (Option String)
  | .depth _ => Except OutOfRange Nat
  | .isExpanded _ => Except OutOfRange Bool
  | .findRow _ => Option Nat

/-- Ask a view. -/
def View.ask (v : View) : (q : View.Query) → q.Reply
  | .rowCount => v.rowCount
  | .rows => v.rows
  | .nodes => v.nodes
  | .expansion => v.expansion
  | .row i => v.row i
  | .valueAt i j => v.valueAt i j
  | .cellText i j => v.cellText i j
  | .depth i => v.depth i
  | .isExpanded i => v.isExpanded i
  | .findRow n => v.findRow n

/-- What can be asked of a table. -/
inductive Table.Query where
  /-- A question to the view. -/
  | view (q : View.Query)
  /-- Whether a cell can be edited. -/
  | editable (row column : Nat)
  /-- The edit in progress. -/
  | editing

/-- What a table replies to a question. -/
def Table.Query.Reply : Table.Query → Type
  | .view q => q.Reply
  | .editable _ _ => Except OutOfRange Bool
  | .editing => Editing

/-- Ask a table. -/
def Table.ask (t : Table) : (q : Table.Query) → q.Reply
  | .view q => t.view.ask q
  | .editable i j => t.editable i j
  | .editing => t.editing

end Outline
