import Outline.Layout

/-!
# Printing in words

`Layout.render` counts in numbers of any size. A machine counts in words of 64 bits, and stops where
a result is no word: where a product or a sum is too large or a difference would fall below zero. It
also stops where a text is to be padded with more than `maxIndent` blanks. `Layout.renderInWords`
prints a view step by step in this way: first every row up to the end of its name, then the widest
of these, then the lines.
-/

namespace Outline

/-- Why printing stops. -/
inductive Trap where
  /-- A product is no word. -/
  | product
  /-- A sum is no word. -/
  | sum
  /-- A difference is no word. -/
  | difference
  /-- A text is padded too far. -/
  | padding
deriving DecidableEq

namespace Machine

/-- The number of words. -/
def wordCount : Nat := UInt64.size

/-- The product of two words. -/
def mul (a b : Nat) : Except Trap Nat := if a * b < wordCount then .ok (a * b) else .error .product

/-- The sum of two words. -/
def add (a b : Nat) : Except Trap Nat := if a + b < wordCount then .ok (a + b) else .error .sum

/-- The difference of two words. -/
def sub (a b : Nat) : Except Trap Nat := if b ≤ a then .ok (a - b) else .error .difference

end Machine

namespace Layout

/-- An empty text padded with so many blanks. -/
def pad (n : Nat) : Except Trap String := if n ≤ maxIndent then .ok (spaces n) else .error .padding

/-- A row up to the end of its name. -/
def leadInWords (l : Layout) (k : Expansion) (r : Row) : Except Trap String := do
  let indent ← pad (← Machine.mul r.depth l.indent)
  return indent ++ k.marker r.node ++ r.node.name

/-- The line of a row that was written up to the end of its name, if names take `w` cells. -/
def lineInWords (l : Layout) (w : Nat) (lead : String) (r : Row) : Except Trap String :=
  match r.node.value.filter fun _ => l.values with
  | some v => do
    let gap ← Machine.add (← Machine.sub w (Text.width lead)) columnGap
    return lead ++ spaces gap ++ v ++ "\n"
  | none => return lead ++ "\n"

/-- The printed view, or why printing stopped. -/
def renderInWords (l : Layout) (v : View) : Except Trap String := do
  let leads ← v.rows.mapM (l.leadInWords v.expansion)
  let w := (leads.map Text.width).foldl max 0
  let lines ← (leads.zip v.rows).mapM fun (lead, r) => l.lineInWords w lead r
  return String.join lines

end Layout

end Outline
