import Outline.Table

/-!
# Commands

The operations that change a view or a table, as data. A command is carried out by `View.step` or
`Table.step`; `runFrom` carries out a list of them and keeps the outcome of each, and `stateAfter`
keeps only the last state.

A table understands every command of a view, and the commands of editing beside them.
-/

namespace Outline

/-- What a command answers. -/
inductive Answer where
  /-- There is nothing to say. -/
  | done
  /-- Yes or no. -/
  | flag (b : Bool)
  /-- The number of a listener. -/
  | number (n : Nat)
  /-- What became of the edit. -/
  | adjusted (a : Adjustment)
  /-- The edit that ended, if any. -/
  | ended (e : Option Edit)
  /-- The row or column addresses nothing. -/
  | outOfRange (e : OutOfRange)
  /-- The edit was not begun. -/
  | refused (e : EditRefusal)
deriving DecidableEq

namespace Answer

/-- The answer of an operation that may miss its row. -/
def ofResult : Except OutOfRange Bool → Answer
  | .ok b => flag b
  | .error e => outOfRange e

/-- The answer of an attempt to edit. -/
def ofStart : Except EditRefusal (Option Edit) → Answer
  | .ok e => ended e
  | .error e => refused e

end Answer

namespace Outcome

variable {σ α β γ : Type}

/-- The outcome with its answer in other words. -/
def map (f : α → β) (o : Outcome σ α) : Outcome σ β := ⟨f o.result, o.state, o.events⟩

@[simp] theorem state_map (f : α → β) (o : Outcome σ α) : (o.map f).state = o.state := rfl

@[simp] theorem events_map (f : α → β) (o : Outcome σ α) : (o.map f).events = o.events := rfl

@[simp] theorem calls_map (f : α → β) (o : Outcome σ α) : (o.map f).calls = o.calls := rfl

/-- The outcomes of commands carried out one after the other. -/
def runFrom (step : σ → γ → Outcome σ α) (s : σ) : List γ → List (Outcome σ α)
  | [] => []
  | c :: cs => step s c :: runFrom step (step s c).state cs

/-- The state after commands carried out one after the other. -/
def stateAfter (step : σ → γ → Outcome σ α) (s : σ) (cs : List γ) : σ :=
  cs.foldl (fun s c => (step s c).state) s

theorem stateAfter_append (step : σ → γ → Outcome σ α) (s : σ) (cs ds : List γ) :
    stateAfter step s (cs ++ ds) = stateAfter step (stateAfter step s cs) ds :=
  List.foldl_append

end Outcome

/-! ### Views -/

/-- The commands that a view understands. -/
inductive View.Command where
  /-- Expand, collapse or toggle the group at a row. -/
  | act (verb : Verb) (row : Nat)
  /-- Expand every group. -/
  | expandAll
  /-- Collapse everything. -/
  | collapseAll
  /-- Show another forest. -/
  | replace (nodes : List Node)
  /-- Register a listener. -/
  | listen (tag : String)
  /-- Remove a listener. -/
  | unlisten (id : Nat)

/-- Carry out a command on a view. -/
def View.step (v : View) : View.Command → Outcome View Answer
  | .act verb row => (v.act verb row).map .ofResult
  | .expandAll => v.expandAll.map .flag
  | .collapseAll => v.collapseAll.map .flag
  | .replace nodes => (v.replace nodes).map fun _ => .done
  | .listen tag => (v.listen tag).map .number
  | .unlisten id => (v.unlisten id).map .flag

/-! ### Tables -/

/-- The commands that a table understands. -/
inductive Table.Command where
  /-- A command to the view; replacing the forest answers what became of the edit. -/
  | view (c : View.Command)
  /-- Begin to edit a cell. -/
  | startEditing (row column : Nat)
  /-- Replace the text in progress. -/
  | setText (text : String)
  /-- End the edit and hand it out. -/
  | commit
  /-- Drop the edit. -/
  | cancel

/-- Carry out a command on a table. -/
def Table.step (t : Table) : Table.Command → Outcome Table Answer
  | .view (.act verb row) => (t.act verb row).map .ofResult
  | .view .expandAll => t.expandAll.map .flag
  | .view .collapseAll => t.collapseAll.map .flag
  | .view (.replace nodes) => (t.replace nodes).map .adjusted
  | .view (.listen tag) => (t.listen tag).map .number
  | .view (.unlisten id) => (t.unlisten id).map .flag
  | .startEditing row column => (t.startEditing row column).map .ofStart
  | .setText text => (t.setText text).map .flag
  | .commit => t.commit.map .ended
  | .cancel => t.cancel.map .flag

end Outline
