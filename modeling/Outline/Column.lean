import Outline.Node

/-!
# Columns and addresses

A table has two columns, the name and the value. Rows and columns are addressed by index; an index
outside the table is an `OutOfRange`, which never clamps and names the bound that it missed.
-/

namespace Outline

/-- An index that addresses nothing. -/
inductive OutOfRange where
  /-- No such row among the present ones. -/
  | row (row rowCount : Nat)
  /-- No such column. -/
  | column (column columnCount : Nat)
deriving DecidableEq

/-- One sentence for the reader of the refusal. -/
def OutOfRange.message : OutOfRange → String
  | row r n => s!"row {r} is out of range (row count {n})"
  | column c n => s!"column {c} is out of range (column count {n})"

/-- The refusal with all its parts. -/
def OutOfRange.describe : OutOfRange → String
  | row r n =>
    "RowOutOfRange \x7b row: " ++ toString r ++ ", row_count: " ++ toString n ++ " \x7d"
  | column c n =>
    "ColumnOutOfRange \x7b column: " ++ toString c ++ ", column_count: " ++ toString n ++ " \x7d"

/-- A column of the table. -/
inductive Column where
  /-- The name of the node. -/
  | name
  /-- The value of the node, where it has one. -/
  | value
deriving DecidableEq

namespace Column

/-- The number of columns. -/
def count : Nat := 2

/-- The position of the column, from the left. -/
def index : Column → Nat
  | name => 0
  | value => 1

/-- The column at an index. -/
def ofIndex : Nat → Except OutOfRange Column
  | 0 => .ok name
  | 1 => .ok value
  | i => .error (.column i count)

@[simp] theorem ofIndex_index (c : Column) : ofIndex c.index = .ok c := by cases c <;> rfl

/-- An index is refused exactly when it is not below the number of columns. -/
theorem ofIndex_eq_error_iff {i : Nat} {e : OutOfRange} :
    ofIndex i = .error e ↔ count ≤ i ∧ e = .column i count := by
  match i with
  | 0 => simp [ofIndex, count]
  | 1 => simp [ofIndex, count]
  | i + 2 => simp [ofIndex, count, eq_comm]

/-- The text that the column shows for a node. -/
def textOf : Column → Node → Option String
  | name, n => some n.name
  | value, n => n.value

end Column

end Outline
