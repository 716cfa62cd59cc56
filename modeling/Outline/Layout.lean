import Outline.View
import Outline.Text.Width

/-!
# The printed table

Every row is printed on a line of its own: spaces for its depth, a marker that tells a leaf from a
collapsed and an expanded group, the name, and, if wanted, the value. Values begin in one column,
two cells beyond the widest of all names.

A row cannot be indented by more than `maxIndent` spaces; a view with such a row is not printed at
all.
-/

namespace Outline

/-- How rows are printed. -/
structure Layout where
  /-- Spaces for each level of depth. -/
  indent : Nat
  /-- Whether values are printed. -/
  values : Bool
deriving DecidableEq

/-- The largest number of spaces before a row. -/
def maxIndent : Nat := 65535

/-- The cells between the widest name and the values. -/
def columnGap : Nat := 2

/-- The sign before a name. -/
def Expansion.marker (k : Expansion) (n : Node) : String :=
  if n.isLeaf then "- " else if k.contains n then "v " else "> "

namespace Layout

/-- Two spaces for each level, and values. -/
def standard : Layout := ⟨2, true⟩

/-- The spaces before a row. -/
def indentOf (l : Layout) (r : Row) : Nat := r.depth * l.indent

/-- Whether each row can be indented as far as its depth asks. -/
def fits (l : Layout) (rows : List Row) : Bool := rows.all fun r => l.indentOf r ≤ maxIndent

/-- So many spaces. -/
def spaces (n : Nat) : String := String.ofList (List.replicate n ' ')

/-- A row up to the end of its name. -/
def lead (l : Layout) (k : Expansion) (r : Row) : String :=
  spaces (l.indentOf r) ++ k.marker r.node ++ r.node.name

/-- The cells of the widest name, with what stands before it. -/
def leadWidth (l : Layout) (k : Expansion) (rows : List Row) : Nat :=
  rows.foldl (fun w r => max w (Text.width (l.lead k r))) 0

/-- The spaces between a name and the value beside it. -/
def padding (l : Layout) (k : Expansion) (w : Nat) (r : Row) : Nat :=
  w - Text.width (l.lead k r) + columnGap

/-- What follows the name of a row, if names take `w` cells. -/
def tail (l : Layout) (k : Expansion) (w : Nat) (r : Row) : String :=
  match r.node.value with
  | some v => if l.values then spaces (l.padding k w r) ++ v else ""
  | none => ""

/-- The line of a row, if names take `w` cells. -/
def line (l : Layout) (k : Expansion) (w : Nat) (r : Row) : String :=
  l.lead k r ++ l.tail k w r ++ "\n"

/-- The lines of all rows. -/
def lines (l : Layout) (k : Expansion) (rows : List Row) : List String :=
  rows.map (l.line k (l.leadWidth k rows))

/-- The printed view, or nothing if a row is too deep for the indentation. -/
def render (l : Layout) (v : View) : Option String :=
  if l.fits v.rows then some (String.join (l.lines v.expansion v.rows)) else none

/-- A view is not printed exactly when some row would be indented too far. -/
theorem render_eq_none_iff {l : Layout} {v : View} :
    l.render v = none ↔ ∃ r ∈ v.rows, maxIndent < r.depth * l.indent := by
  have h : l.fits v.rows = false ↔ ∃ r ∈ v.rows, maxIndent < r.depth * l.indent := by
    rw [fits, List.all_eq_false]
    exact exists_congr fun r => and_congr_right fun _ => by
      rw [decide_eq_true_iff, Nat.not_le, indentOf]
  rw [← h, render]
  cases l.fits v.rows <;> simp

end Layout

end Outline
