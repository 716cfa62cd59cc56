import Outline.Layout
import Outline.Proofs.Text.Width

/-!
# Where values begin

The values of a printed view begin in one column. The column is found by a pass over all rows, and
the padding of a row by another look at the same row. That the two agree is a matter of
`leadWidth_le_iff`: the column is the maximum of what the second pass takes off, over all rows and
not only over those with a value.

Counted in cells of the terminal the parts of a line simply add up, whatever characters the names
are made of, since the parts are kept apart by blanks (`width_lead`, `width_append_spaces_append`).
-/

namespace Outline

open Text (width)

namespace Layout

variable {l : Layout} {k : Expansion} {r : Row} {rows : List Row} {v : View} {out : String}

/-! ### The cells of a line -/

theorem toList_spaces (n : Nat) : (spaces n).toList = List.replicate n ' ' :=
  String.toList_ofList

theorem spaces_succ (n : Nat) : spaces (n + 1) = " " ++ spaces n := by
  rw [← String.toList_inj, String.toList_append, toList_spaces, toList_spaces]
  rfl

/-- Blanks at the left take a cell each. -/
theorem width_spaces_append (n : Nat) (s : String) : width (spaces n ++ s) = n + width s := by
  induction n with
  | zero =>
    rw [Nat.zero_add]
    exact congrArg width String.empty_append
  | succ n ih =>
    have hsplit : spaces (n + 1) ++ s = "" ++ " " ++ (spaces n ++ s) := by
      rw [spaces_succ, String.empty_append, String.append_assoc]
    have hempty : width "" = 0 := rfl
    rw [hsplit, Text.width_append_blank, ih, hempty]
    omega

/-- Blanks between two parts keep them apart. -/
theorem width_append_spaces_append {n : Nat} (hn : 0 < n) (s t : String) :
    width (s ++ spaces n ++ t) = width s + n + width t := by
  obtain ⟨n, rfl⟩ := Nat.exists_eq_add_one_of_ne_zero (Nat.ne_of_gt hn)
  have hsplit : s ++ spaces (n + 1) ++ t = s ++ " " ++ (spaces n ++ t) := by
    simp only [spaces_succ, String.append_assoc]
  rw [hsplit, Text.width_append_blank, width_spaces_append]
  omega

/-- Every marker is a sign of one cell, neither a blank nor a line feed, and a blank. -/
theorem exists_marker_eq (k : Expansion) (n : Node) :
    ∃ c : Char, k.marker n = String.singleton c ++ " " ∧ c ≠ ' ' ∧ c ≠ '\n' ∧
      width (String.singleton c) = 1 := by
  unfold Expansion.marker
  split
  · exact ⟨'-', rfl, by decide⟩
  · split
    · exact ⟨'v', rfl, by decide⟩
    · exact ⟨'>', rfl, by decide⟩

/-- The cells of a row up to the end of its name. -/
theorem width_lead (l : Layout) (k : Expansion) (r : Row) :
    width (l.lead k r) = r.depth * l.indent + 2 + width r.node.name := by
  obtain ⟨c, hc, -, -, hcell⟩ := exists_marker_eq k r.node
  have hsplit : l.lead k r =
      spaces (l.indentOf r) ++ (String.singleton c ++ " " ++ r.node.name) := by
    rw [lead, hc, String.append_assoc]
  rw [hsplit, width_spaces_append, Text.width_append_blank, hcell, indentOf]
  omega

/-! ### The column of values -/

private theorem foldl_max_le_iff (f : Row → Nat) (rows : List Row) (b m : Nat) :
    rows.foldl (fun w r => max w (f r)) b ≤ m ↔ b ≤ m ∧ ∀ r ∈ rows, f r ≤ m := by
  induction rows generalizing b with
  | nil => simp
  | cons r rows ih => rw [List.foldl_cons, ih, Nat.max_le, List.forall_mem_cons, and_assoc]

/-- The first pass finds the maximum. -/
theorem leadWidth_le_iff {m : Nat} :
    l.leadWidth k rows ≤ m ↔ ∀ r ∈ rows, width (l.lead k r) ≤ m := by
  rw [leadWidth, foldl_max_le_iff]
  exact and_iff_right (Nat.zero_le m)

theorem width_lead_le (hr : r ∈ rows) : width (l.lead k r) ≤ l.leadWidth k rows :=
  leadWidth_le_iff.mp (Nat.le_refl _) r hr

/-- The padding fills a row up to the column. -/
theorem width_lead_add_padding (hr : r ∈ rows) :
    width (l.lead k r) + l.padding k (l.leadWidth k rows) r = l.leadWidth k rows + columnGap := by
  have hle := width_lead_le (l := l) (k := k) hr
  rw [padding]
  omega

/-! ### Printing -/

theorem render_eq_some_iff :
    l.render v = some out ↔
      l.fits v.rows = true ∧ out = String.join (l.lines v.expansion v.rows) := by
  rw [render]
  cases l.fits v.rows <;> simp [eq_comm]

theorem lead_eq (l : Layout) (k : Expansion) (r : Row) :
    l.lead k r = spaces (r.depth * l.indent) ++
      (if r.node.isGroup then if r.node ∈ k then "v " else "> " else "- ") ++ r.node.name := by
  rw [lead, Expansion.marker, Node.isLeaf, indentOf]
  cases r.node.isGroup <;> simp [Expansion.contains]

/-- Without values the line of a row ends with its name. -/
theorem line_of_values_eq_false (hl : l.values = false) (k : Expansion) (w : Nat) (r : Row) :
    l.line k w r = l.lead k r ++ "\n" := by
  have htail : l.tail k w r = "" := by
    rw [tail]
    cases r.node.value <;> simp [hl]
  rw [line, htail, String.append_empty]

end Layout

/-- **Values begin in one column.** Let a view be printed. For each row let its front be one blank
for each level of depth and each space of indentation, the marker and the name. There is a number
`W`, the maximum of the widths of the fronts of *all* rows (zero if there are none), such that:

* The text is made of the lines of the rows, in order. A line is the front of the row, then, if
  values are wanted and the node has one, be it empty, a gap of blanks and the value, and a line
  feed.
* No front is wider than `W`, and every gap fills its front up to `W + 2`, so it has at least two
  blanks. On the terminal, too, whatever follows the gap begins after `W + 2` cells.
* Without values the view is printed as well, with each line cut off behind the front. -/
theorem values_begin_in_one_column {l : Layout} {v : View} {out : String}
    (h : l.render v = some out) :
    let front (r : Row) : String :=
      Layout.spaces (r.depth * l.indent) ++
        (if r.node.isGroup then if r.node ∈ v.expansion then "v " else "> " else "- ") ++
          r.node.name
    ∃ W : Nat, (∀ m, W ≤ m ↔ ∀ r ∈ v.rows, width (front r) ≤ m) ∧
      let gap (r : Row) : Nat := W - width (front r) + 2
      let back (r : Row) : String :=
        match r.node.value with
        | some s => if l.values then Layout.spaces (gap r) ++ s else ""
        | none => ""
      out = String.join (v.rows.map fun r => front r ++ back r ++ "\n") ∧
      (∀ r ∈ v.rows, width (front r) ≤ W ∧ 2 ≤ gap r ∧ width (front r) + gap r = W + 2 ∧
        ∀ s, width (front r ++ Layout.spaces (gap r) ++ s) = W + 2 + width s) ∧
      ({ l with values := false } : Layout).render v =
        some (String.join (v.rows.map fun r => front r ++ "\n")) := by
  intro front
  have hfront : front = l.lead v.expansion := funext fun r => (l.lead_eq v.expansion r).symm
  rw [hfront]
  obtain ⟨hfits, rfl⟩ := Layout.render_eq_some_iff.mp h
  refine ⟨l.leadWidth v.expansion v.rows, fun m => Layout.leadWidth_le_iff, ?_⟩
  intro gap back
  have hgap : ∀ r, gap r = l.padding v.expansion (l.leadWidth v.expansion v.rows) r := fun r => rfl
  refine ⟨rfl, fun r hr => ?_, ?_⟩
  · have hfill := Layout.width_lead_add_padding (l := l) (k := v.expansion) hr
    have hpos : 0 < gap r := Nat.succ_pos _
    refine ⟨Layout.width_lead_le hr, Nat.le_add_left 2 _, hfill, fun s => ?_⟩
    rw [Layout.width_append_spaces_append hpos, hgap, hfill]
    rfl
  · refine Layout.render_eq_some_iff.mpr ⟨hfits, congrArg String.join ?_⟩
    exact List.map_congr_left fun r _ =>
      (Layout.line_of_values_eq_false (l := { l with values := false }) rfl v.expansion _ r).symm

/-- Two wide characters take four cells, so the values begin after six cells and two blanks. The
leaf in the group has an empty value and blanks before it, and the group has neither. -/
theorem values_begin_in_one_column_wide :
    let g := Node.group "ab" none [.leaf "c" (some "")]
    let v := View.ofExpansion [.leaf "名前" (some "x"), g] (.ofList [g])
    Layout.standard.render v = some "- 名前  x\nv ab\n  - c   \n" ∧
      (⟨2, false⟩ : Layout).render v = some "- 名前\nv ab\n  - c\n" := by
  intro g v
  have h : Layout.standard.render v = some "- 名前  x\nv ab\n  - c   \n" := by decide +kernel
  obtain ⟨W, -, -, -, hhidden⟩ := values_begin_in_one_column h
  exact ⟨h, hhidden.trans (by decide +kernel)⟩

end Outline
