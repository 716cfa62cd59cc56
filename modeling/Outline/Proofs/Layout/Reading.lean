import Outline.Proofs.FindRow
import Outline.Proofs.Layout.Alignment
import Outline.Proofs.Reachable

/-!
# Reading a printed view

A view that is printed without values can be read again: the text tells of each row how deep it
stands, whether it shows a group and an expanded one, and the name (`Glance.readAll_render`). The
blanks at the front of a line belong to the indentation, since every marker begins with another
sign; what follows the marker is the name, be it empty, begin with blanks or look like a marker.
Only a line feed in a name would be taken for the end of its line.

So the text is unambiguous (`printed_rows_unambiguous`).
-/

namespace Outline

/-- What the line of a row tells without its value. -/
structure Glance where
  /-- How many groups the row stands in. -/
  depth : Nat
  /-- Whether it shows a group. -/
  isGroup : Bool
  /-- Whether the group is expanded. -/
  expanded : Bool
  /-- The name of its node. -/
  name : String
deriving DecidableEq

/-- What there is to tell of a row. -/
def Row.glance (k : Expansion) (r : Row) : Glance :=
  ⟨r.depth, r.node.isGroup, k.contains r.node, r.node.name⟩

namespace Glance

/-- What a line tells, if rows are indented by so many blanks for each level. -/
def read (indent : Nat) (line : List Char) : Option Glance :=
  let depth := (line.takeWhile (· == ' ')).length / indent
  match line.dropWhile (· == ' ') with
  | '-' :: ' ' :: name => some ⟨depth, false, false, String.ofList name⟩
  | '>' :: ' ' :: name => some ⟨depth, true, false, String.ofList name⟩
  | 'v' :: ' ' :: name => some ⟨depth, true, true, String.ofList name⟩
  | _ => none

/-- What the lines of a text tell, each of which is ended by a line feed. -/
def readAll (indent : Nat) (text : String) : List (Option Glance) :=
  (text.toList.splitOn '\n').dropLast.map (read indent)

/-! ### One line -/

variable {k : Expansion} {l : Layout} {r : Row} {v w : View} {out : String}

/-- The characters of a row up to the end of its name. -/
theorem exists_toList_lead (l : Layout) (k : Expansion) (r : Row) :
    ∃ c, (k.marker r.node).toList = [c, ' '] ∧ c ≠ ' ' ∧ c ≠ '\n' ∧
      (l.lead k r).toList =
        List.replicate (r.depth * l.indent) ' ' ++ c :: ' ' :: r.node.name.toList := by
  obtain ⟨c, hmarker, hblank, hline, -⟩ := Layout.exists_marker_eq k r.node
  have hc : (k.marker r.node).toList = [c, ' '] := by
    rw [hmarker, String.toList_append, String.toList_singleton]
    rfl
  refine ⟨c, hc, hblank, hline, ?_⟩
  rw [Layout.lead, String.toList_append, String.toList_append, Layout.toList_spaces, hc,
    List.append_assoc]
  rfl

/-- The blanks before the marker are split off. -/
theorem takeWhile_lead (l : Layout) (k : Expansion) (r : Row) :
    ((l.lead k r).toList.takeWhile (· == ' ')).length = r.depth * l.indent ∧
      (l.lead k r).toList.dropWhile (· == ' ') =
        (k.marker r.node).toList ++ r.node.name.toList := by
  obtain ⟨c, hc, hne, -, hlead⟩ := exists_toList_lead l k r
  have hblank : ∀ a ∈ List.replicate (r.depth * l.indent) ' ', (a == ' ') = true := by
    intro a ha
    rw [List.eq_of_mem_replicate ha]
    rfl
  have hstop : (c == ' ') = false := beq_eq_false_iff_ne.mpr hne
  rw [hlead, hc, List.takeWhile_append_of_pos hblank, List.dropWhile_append_of_pos hblank,
    List.takeWhile_cons, List.dropWhile_cons, hstop]
  simp

/-- **A line is read as its row**, if the expansion holds groups only. -/
theorem read_lead (hi : 0 < l.indent) (hk : ∀ n ∈ k, n.isGroup = true) (r : Row) :
    read l.indent (l.lead k r).toList = some (r.glance k) := by
  obtain ⟨hfront, hback⟩ := takeWhile_lead l k r
  have hdepth : r.depth * l.indent / l.indent = r.depth := Nat.mul_div_cancel r.depth hi
  rw [read, hfront, hback, hdepth]
  unfold Expansion.marker Row.glance
  cases hg : r.node.isGroup with
  | false =>
    have hn : k.contains r.node = false :=
      Expansion.contains_eq_false.mpr fun h => by simp [hk _ h] at hg
    simp [Node.isLeaf, hg, hn]
  | true => cases hn : k.contains r.node <;> simp [Node.isLeaf, hg]

/-! ### All lines -/

/-- Lines that are each ended by a line feed are found again. -/
theorem splitOn_flatMap {ss : List (List Char)} (h : ∀ s ∈ ss, '\n' ∉ s) :
    ((ss.flatMap fun s => s ++ ['\n']).splitOn '\n').dropLast = ss := by
  have hjoin : (ss.flatMap fun s => s ++ ['\n']) = ['\n'].intercalate (ss ++ [[]]) := by
    clear h
    induction ss with
    | nil => rfl
    | cons s ss ih =>
      obtain ⟨t, ts, ht⟩ := List.exists_cons_of_ne_nil (show ss ++ [[]] ≠ [] by simp)
      rw [List.flatMap_cons, ih, List.cons_append, ht, List.intercalate_cons_cons,
        List.append_assoc]
  have hfree : ∀ s ∈ ss ++ [[]], '\n' ∉ s := by
    intro s hs
    rcases List.mem_append.mp hs with hs | hs
    · exact h s hs
    · rw [List.mem_singleton.mp hs]
      exact List.not_mem_nil
  rw [hjoin, List.splitOn_intercalate '\n' hfree (by simp), List.dropLast_concat]

/-- No line feed comes into a line but by the name. -/
theorem newline_not_mem_lead (h : '\n' ∉ r.node.name.toList) (l : Layout) (k : Expansion) :
    '\n' ∉ (l.lead k r).toList := by
  obtain ⟨c, -, -, hline, hlead⟩ := exists_toList_lead l k r
  rw [hlead, List.mem_append, List.mem_cons, List.mem_cons, not_or, not_or, not_or]
  refine ⟨fun hmem => ?_, hline.symm, by decide, h⟩
  exact absurd (List.eq_of_mem_replicate hmem) (by decide)

/-- **A view that is printed without values is read again row by row.** -/
theorem readAll_render (hv : l.values = false) (hi : 0 < l.indent)
    (hk : ∀ n ∈ v.expansion, n.isGroup = true) (hname : ∀ r ∈ v.rows, '\n' ∉ r.node.name.toList)
    (h : l.render v = some out) :
    readAll l.indent out = v.rows.map fun r => some (r.glance v.expansion) := by
  obtain ⟨-, rfl⟩ := Layout.render_eq_some_iff.mp h
  have htext : (String.join (l.lines v.expansion v.rows)).toList =
      (v.rows.map fun r => (l.lead v.expansion r).toList).flatMap fun s => s ++ ['\n'] := by
    have hline : ∀ r, (l.line v.expansion (l.leadWidth v.expansion v.rows) r).toList =
        (l.lead v.expansion r).toList ++ ['\n'] := by
      intro r
      rw [Layout.line_of_values_eq_false hv, String.toList_append]
      rfl
    rw [String.toList_join, Layout.lines, List.flatMap_map, List.flatMap_map, funext hline]
  have hfree : ∀ s ∈ v.rows.map fun r => (l.lead v.expansion r).toList, '\n' ∉ s := by
    rw [List.forall_mem_map]
    exact fun r hr => newline_not_mem_lead (hname r hr) l v.expansion
  rw [readAll, htext, splitOn_flatMap hfree, List.map_map]
  exact List.map_congr_left fun r _ => read_lead hi hk r

end Glance

/-- **The text of a printed view is unambiguous.** Let two reachable views be printed without
values, with the same indentation of at least one blank for each level, and let no name that is
shown contain a line feed. If the texts are the same, then there are as many rows in one view as in
the other, and row by row the depth, the kind, whether it is expanded and the name are the same. -/
theorem printed_rows_unambiguous {v w : View} (hv : v.Reachable) (hw : w.Reachable) {indent : Nat}
    (hi : 1 ≤ indent) (hvname : ∀ r ∈ v.rows, '\n' ∉ r.node.name.toList)
    (hwname : ∀ r ∈ w.rows, '\n' ∉ r.node.name.toList) {out : String}
    (hvout : (⟨indent, false⟩ : Layout).render v = some out)
    (hwout : (⟨indent, false⟩ : Layout).render w = some out) :
    v.rowCount = w.rowCount ∧ ∀ (i : Nat) (r s : Row), v.row i = .ok r → w.row i = .ok s →
      r.depth = s.depth ∧ r.node.isGroup = s.node.isGroup ∧
        v.expansion.contains r.node = w.expansion.contains s.node ∧ r.node.name = s.node.name := by
  have hread := Glance.readAll_render (l := ⟨indent, false⟩) rfl hi
    hv.coherent.wellFormed.isGroup hvname hvout
  have hread' := Glance.readAll_render (l := ⟨indent, false⟩) rfl hi
    hw.coherent.wellFormed.isGroup hwname hwout
  have hsame := hread.symm.trans hread'
  refine ⟨by simpa [View.rowCount] using congrArg List.length hsame, fun i r s hr hs => ?_⟩
  have hrow : (v.rows[i]?.map fun r => some (r.glance v.expansion)) =
      w.rows[i]?.map fun r => some (r.glance w.expansion) := by
    rw [← List.getElem?_map, ← List.getElem?_map, hsame]
  rw [View.row_eq_ok_iff.mp hr, View.row_eq_ok_iff.mp hs] at hrow
  have hglance : r.glance v.expansion = s.glance w.expansion := by simpa using hrow
  unfold Row.glance at hglance
  injection hglance with hdepth hgroup hexpanded hname
  exact ⟨hdepth, hgroup, hexpanded, hname⟩

/-- Names that look like markers and blanks, an empty one among them. The views differ in values and
in what is not shown, which the text does not tell. -/
theorem printed_rows_unambiguous_markers :
    let g := Node.group "" none [.leaf "  v x" none]
    let h := Node.group "" (some "1") [.leaf "  v x" (some "2")]
    let v := View.ofExpansion [g, .leaf "> " none, .group "c" none []] (.ofList [g])
    let w := View.ofExpansion [h, .leaf "> " none, .group "c" none [g]] (.ofList [h, g])
    let text := "v \n -   v x\n- > \n> c\n"
    (⟨1, false⟩ : Layout).render v = some text ∧ (⟨1, false⟩ : Layout).render w = some text ∧
      v.rows ≠ w.rows ∧ v.rowCount = w.rowCount ∧
      ∀ (i : Nat) (r s : Row), v.row i = .ok r → w.row i = .ok s →
        r.depth = s.depth ∧ r.node.name = s.node.name := by
  intro g h v w text
  have hv : v.Reachable := .fresh _ [g]
  have hw : w.Reachable := .fresh _ [h, g]
  have hvout : (⟨1, false⟩ : Layout).render v = some text := by decide +kernel
  have hwout : (⟨1, false⟩ : Layout).render w = some text := by decide +kernel
  obtain ⟨hcount, hrows⟩ := printed_rows_unambiguous hv hw (Nat.le_refl 1) (by decide) (by decide)
    hvout hwout
  refine ⟨hvout, hwout, by decide, hcount, fun i r s hr hs => ?_⟩
  obtain ⟨hdepth, -, -, hname⟩ := hrows i r s hr hs
  exact ⟨hdepth, hname⟩

end Outline
