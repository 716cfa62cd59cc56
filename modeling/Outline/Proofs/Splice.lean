import Outline.Proofs.Rebuilding

/-!
# Expanding and collapsing, row by row

A view rebuilds all its rows from the forest. This module says what that comes to: expanding a
group puts one block of rows below every row that shows the group (`spliceBelow`), collapsing it
takes away the deeper rows that follow each such row (`pruneBelow`), and no other row changes.

Both rest on a node never occurring below itself. So the group's own block is not touched by the
change (`flatten_children_congr`), and blocks of equal groups never lie within each other.
-/

namespace Outline

/-! ### The local change -/

/-- The rows with a block, at depth zero, put one level below every row that shows the node. -/
def spliceBelow (g : Node) (block rows : List Row) : List Row :=
  rows.flatMap fun r => if r.node = g then r :: block.map (Row.shift (r.depth + 1)) else [r]

/-- The rows without the run of deeper rows that follows a row that shows the node. -/
def pruneBelow (g : Node) : List Row → List Row
  | [] => []
  | r :: rs =>
    if r.node = g then r :: pruneBelow g (rs.dropWhile fun s => decide (r.depth < s.depth))
    else r :: pruneBelow g rs
termination_by rows => rows.length
decreasing_by
  · have := (List.dropWhile_sublist (l := rs) fun s => decide (r.depth < s.depth)).length_le
    simp only [List.length_cons]
    omega
  · simp

/-- How many rows show the node. -/
def showing (n : Node) (rows : List Row) : Nat := rows.countP fun r => decide (r.node = n)

variable {g : Node} {k k' : Expansion} {d : Nat} {ns : List Node}

@[simp] theorem spliceBelow_nil (g : Node) (block : List Row) : spliceBelow g block [] = [] := rfl

theorem spliceBelow_cons (g : Node) (block : List Row) (r : Row) (rows : List Row) :
    spliceBelow g block (r :: rows) =
      (if r.node = g then r :: block.map (Row.shift (r.depth + 1)) else [r]) ++
        spliceBelow g block rows := rfl

theorem spliceBelow_append (g : Node) (block rows rows' : List Row) :
    spliceBelow g block (rows ++ rows') =
      spliceBelow g block rows ++ spliceBelow g block rows' := List.flatMap_append

theorem length_spliceBelow (g : Node) (block rows : List Row) :
    (spliceBelow g block rows).length = rows.length + showing g rows * block.length := by
  induction rows with
  | nil => simp [showing]
  | cons r rows ih =>
    rw [spliceBelow_cons, List.length_append, ih, showing, showing, List.countP_cons]
    by_cases h : r.node = g
    · simp only [h, if_true, decide_true, List.length_cons, List.length_map, Nat.add_mul]
      omega
    · simp only [h, if_false, decide_false, List.length_cons, List.length_nil]
      simp
      omega

/-- A block that does not show the node leaves as many rows that do. -/
theorem showing_spliceBelow {block : List Row} (hb : ∀ r ∈ block, r.node ≠ g)
    (rows : List Row) : showing g (spliceBelow g block rows) = showing g rows := by
  induction rows with
  | nil => rfl
  | cons r rows ih =>
    have hmap : ∀ s ∈ block.map (Row.shift (r.depth + 1)), ¬ decide (s.node = g) = true := by
      intro s hs
      obtain ⟨t, ht, rfl⟩ := List.mem_map.mp hs
      exact fun h => hb t ht (of_decide_eq_true h)
    unfold showing at ih ⊢
    rw [spliceBelow_cons, List.countP_append, ih]
    by_cases h : r.node = g
    · rw [if_pos h, List.countP_cons, List.countP_cons, List.countP_eq_zero.mpr hmap]
      omega
    · rw [if_neg h, List.countP_cons, List.countP_cons]
      simp [h]

/-- Below the first row that shows the node is where the first block is put, so this row stays where
it is. -/
theorem findIdx?_spliceBelow (g : Node) (block rows : List Row) :
    ((spliceBelow g block rows).findIdx? fun r => decide (r.node = g)) =
      rows.findIdx? fun r => decide (r.node = g) := by
  induction rows with
  | nil => rfl
  | cons r rows ih =>
    rw [spliceBelow_cons]
    by_cases h : r.node = g
    · simp [h, List.findIdx?_cons]
    · simp [h, List.findIdx?_cons, ih]

/-- The rows up to the first one that shows the node are not touched. -/
theorem take_spliceBelow {block rows : List Row} {i : Nat}
    (hi : (rows.findIdx? fun r => decide (r.node = g)) = some i) :
    (spliceBelow g block rows).take (i + 1) = rows.take (i + 1) := by
  induction rows generalizing i with
  | nil => simp at hi
  | cons r rows ih =>
    rw [spliceBelow_cons]
    rw [List.findIdx?_cons] at hi
    by_cases h : r.node = g
    · obtain rfl : 0 = i := by simpa [h] using hi
      simp [h]
    · obtain ⟨j, hj, rfl⟩ : ∃ j, (rows.findIdx? fun r => decide (r.node = g)) = some j ∧
          j + 1 = i := by simpa [h] using hi
      simp [h, ih hj]

/-! ### On the rows of a forest -/

/-- Whether a group itself is expanded makes no difference to the rows of its children. -/
theorem flatten_children_congr (hk : ∀ m, m ≠ g → (m ∈ k ↔ m ∈ k')) :
    flatten g.children k = flatten g.children k' := by
  refine flatten_congr fun m hm => hk m ?_
  rintro rfl
  exact Node.not_mem_walkAll_children m hm

/-- **One more expanded group is a splice.** -/
theorem flattenAt_eq_spliceBelow (hg : g ∉ k) (hk : ∀ m, m ∈ k' ↔ m ∈ k ∨ m = g) :
    flattenAt k' d ns = spliceBelow g (flatten g.children k) (flattenAt k d ns) := by
  induction ns using Node.forest_induction generalizing d with
  | nil => rfl
  | cons n ns ihc ihs =>
    rw [flattenAt_cons, flattenAt_cons, spliceBelow_cons, spliceBelow_append, ← ihs]
    by_cases hn : n = g
    · -- the row of the group itself: its block is new
      subst hn
      have hc : flatten n.children k' = flatten n.children k :=
        flatten_children_congr fun m hm => by rw [hk]; simp [hm]
      rw [if_pos ((hk n).mpr (.inr rfl)), if_neg hg, if_pos rfl, flattenAt_eq_map, hc]
      rfl
    · have hmem : n ∈ k' ↔ n ∈ k := by rw [hk]; simp [hn]
      rw [if_neg hn]
      by_cases hnk : n ∈ k
      · rw [if_pos (hmem.mpr hnk), if_pos hnk, ihc]
        rfl
      · rw [if_neg fun h => hnk (hmem.mp h), if_neg hnk]
        rfl

/-- Expansions that differ at most in one group give the same rows, or the rows of the one are those
of the other with a block spliced in below the group. -/
theorem flatten_eq_or_splice (ns : List Node) (hk : ∀ m, m ≠ g → (m ∈ k ↔ m ∈ k')) :
    flatten ns k' = flatten ns k ∨
      (∃ block, flatten ns k' = spliceBelow g block (flatten ns k)) ∨
      ∃ block, flatten ns k = spliceBelow g block (flatten ns k') := by
  by_cases hg : g ∈ k
  · by_cases hg' : g ∈ k'
    · refine .inl (flatten_congr fun m _ => ?_)
      by_cases hm : m = g
      · simp [hm, hg, hg']
      · exact (hk m hm).symm
    · refine .inr (.inr ⟨_, flattenAt_eq_spliceBelow hg' fun m => ?_⟩)
      by_cases hm : m = g
      · simp [hm, hg]
      · simp [hm, hk m hm]
  · by_cases hg' : g ∈ k'
    · refine .inr (.inl ⟨_, flattenAt_eq_spliceBelow hg fun m => ?_⟩)
      by_cases hm : m = g
      · simp [hm, hg']
      · simp [hm, hk m hm]
    · refine .inl (flatten_congr fun m _ => ?_)
      by_cases hm : m = g
      · simp [hm, hg, hg']
      · exact (hk m hm).symm

/-- **Whether a group is expanded makes no difference up to its first row**: it is found at the same
place, and the rows up to there are the same. -/
theorem first_row_congr (ns : List Node) (hk : ∀ m, m ≠ g → (m ∈ k ↔ m ∈ k')) :
    ((flatten ns k').findIdx? fun r => decide (r.node = g)) =
        ((flatten ns k).findIdx? fun r => decide (r.node = g)) ∧
      ∀ i, ((flatten ns k).findIdx? fun r => decide (r.node = g)) = some i →
        (flatten ns k').take (i + 1) = (flatten ns k).take (i + 1) := by
  rcases flatten_eq_or_splice ns hk with h | ⟨block, h⟩ | ⟨block, h⟩
  · rw [h]
    exact ⟨rfl, fun i _ => rfl⟩
  · rw [h]
    exact ⟨findIdx?_spliceBelow g block _, fun i hi => take_spliceBelow hi⟩
  · rw [h]
    have hfind := findIdx?_spliceBelow g block (flatten ns k')
    exact ⟨hfind.symm, fun i hi => (take_spliceBelow (hfind ▸ hi)).symm⟩

/-- **One expanded group less is a pruning**, whatever rows follow, as long as they begin no deeper
than the roots stand. If the group was collapsed already, there is nothing to prune. -/
theorem pruneBelow_flattenAt_append (hk : ∀ m, m ∈ k' ↔ m ∈ k ∧ m ≠ g)
    {rest : List Row} (h : ∀ r ∈ rest.head?, r.depth ≤ d) :
    pruneBelow g (flattenAt k d ns ++ rest) = flattenAt k' d ns ++ pruneBelow g rest := by
  induction ns using Node.forest_induction generalizing d rest with
  | nil => rfl
  | cons n ns ihc ihs =>
    have htail := head_flattenAt_append k ns h
    rw [flattenAt_cons, flattenAt_cons, List.cons_append, List.append_assoc, pruneBelow]
    by_cases hn : n = g
    · -- the block below the group, if there is one, is the run that is dropped
      subst hn
      rw [if_pos rfl, if_neg fun h => ((hk n).mp h).2 rfl]
      by_cases hnk : n ∈ k
      · rw [if_pos hnk, dropWhile_flattenAt_append (Nat.lt_succ_self d) htail, ihs h]
        rfl
      · rw [if_neg hnk, List.nil_append, dropWhile_eq_self_of_head htail, ihs h]
        rfl
    · rw [if_neg hn]
      by_cases hnk : n ∈ k
      · rw [if_pos hnk, if_pos ((hk n).mpr ⟨hnk, hn⟩),
          ihc fun r hr => Nat.le_succ_of_le (htail r hr), ihs h]
        simp
      · rw [if_neg hnk, if_neg fun h => hnk ((hk n).mp h).1, List.nil_append, List.nil_append,
          ihs h]
        rfl

/-! ### On a view -/

/-- What is done at a row concerns no other node than the one shown there. -/
theorem Verb.mem_apply_of_ne (verb : Verb) {n m : Node} (h : m ≠ n) :
    m ∈ (verb.apply k n).2 ↔ m ∈ k := by
  cases verb with
  | expand => simp [apply, Expansion.mem_expand, h]
  | collapse => simp [apply, Expansion.mem_collapse, h]
  | toggle =>
    rw [apply, Expansion.mem_toggle]
    split <;> simp [h]

namespace View

section

variable {v : View} {i : Nat} {r : Row}

/-- What is done at a row leaves its node where it is found. -/
theorem findRow_act (hv : v.Reachable) (hr : v.row i = .ok r) (verb : Verb) :
    (v.act verb i).state.findRow r.node = v.findRow r.node := by
  have hothers : ∀ m, m ≠ r.node →
      (m ∈ v.expansion ↔ m ∈ (verb.apply v.expansion r.node).2) :=
    fun m hm => (verb.mem_apply_of_ne hm).symm
  rw [findRow, findRow, rows_act hv hr, hv.coherent.rows]
  exact (first_row_congr v.nodes hothers).1

/-- What is done at a row touches no row up to the first one that shows its node. -/
theorem take_rows_act (hv : v.Reachable) (hr : v.row i = .ok r) (verb : Verb) {f : Nat}
    (hf : v.findRow r.node = some f) :
    (v.act verb i).state.rows.take (f + 1) = v.rows.take (f + 1) := by
  have hothers : ∀ m, m ≠ r.node →
      (m ∈ v.expansion ↔ m ∈ (verb.apply v.expansion r.node).2) :=
    fun m hm => (verb.mem_apply_of_ne hm).symm
  rw [findRow, hv.coherent.rows] at hf
  rw [rows_act hv hr, hv.coherent.rows]
  exact (first_row_congr v.nodes hothers).2 f hf

end

section

variable {v : View} {i : Nat} {r : Row} {verb : Verb}

/-- An operation at a row that changes the expansion rebuilds the rows from it. -/
theorem act_of_apply_eq_true (hr : v.row i = .ok r)
    (hp : verb.apply v.expansion r.node = (true, k')) :
    (v.act verb i).result = .ok true ∧
      (v.act verb i).state = { v with expansion := k', rows := flatten v.nodes k' } := by
  simp only [act_of_row_eq_ok hr, hp]
  exact ⟨rfl, rfl⟩

/-- Whatever remembers a collapsed group splices its block below all its rows. -/
private theorem act_eq_splice (hv : v.Reachable) (hr : v.row i = .ok r)
    (hn : r.node ∉ v.expansion) (hp : verb.apply v.expansion r.node = (true, k'))
    (hm : ∀ m, m ∈ k' ↔ m ∈ v.expansion ∨ m = r.node) :
    (v.act verb i).result = .ok true ∧
      (v.act verb i).state.nodes = v.nodes ∧
      (v.act verb i).state.rows =
        spliceBelow r.node (flatten r.node.children v.expansion) v.rows ∧
      (v.act verb i).state.rowCount = v.rowCount +
        showing r.node v.rows * (flatten r.node.children v.expansion).length := by
  obtain ⟨hres, hst⟩ := act_of_apply_eq_true hr hp
  have hrows : (v.act verb i).state.rows =
      spliceBelow r.node (flatten r.node.children v.expansion) v.rows := by
    rw [hst, hv.coherent.rows]
    exact flattenAt_eq_spliceBelow hn hm
  refine ⟨hres, by rw [hst], hrows, ?_⟩
  rw [rowCount, hrows, length_spliceBelow, rowCount]

/-- Whatever forgets an expanded group prunes the rows below all its rows. -/
private theorem act_eq_prune (hv : v.Reachable) (hr : v.row i = .ok r)
    (hn : r.node ∈ v.expansion) (hp : verb.apply v.expansion r.node = (true, k'))
    (hm : ∀ m, m ∈ k' ↔ m ∈ v.expansion ∧ m ≠ r.node) :
    (v.act verb i).result = .ok true ∧
      (v.act verb i).state.nodes = v.nodes ∧
      (v.act verb i).state.rows = pruneBelow r.node v.rows ∧
      (v.act verb i).state.rowCount +
        showing r.node v.rows * (flatten r.node.children v.expansion).length = v.rowCount := by
  obtain ⟨hres, hst⟩ := act_of_apply_eq_true hr hp
  have hrows : (v.act verb i).state.rows = flatten v.nodes k' := by rw [hst]
  have hprune : pruneBelow r.node v.rows = (v.act verb i).state.rows := by
    have h : pruneBelow r.node (flattenAt v.expansion 0 v.nodes ++ []) =
        flattenAt k' 0 v.nodes ++ pruneBelow r.node [] :=
      pruneBelow_flattenAt_append hm (by simp)
    rw [hrows, hv.coherent.rows]
    simpa [flatten, pruneBelow] using h
  -- the old rows are the new ones with the block spliced in again
  have hsplice : v.rows = spliceBelow r.node (flatten r.node.children v.expansion)
      (v.act verb i).state.rows := by
    have hback : ∀ m, m ∈ v.expansion ↔ m ∈ k' ∨ m = r.node := by
      intro m
      rw [hm]
      by_cases hmn : m = r.node
      · simp [hmn, hn]
      · simp [hmn]
    have hblock : flatten r.node.children v.expansion = flatten r.node.children k' :=
      flatten_children_congr fun m hmn => by rw [hm]; simp [hmn]
    rw [hrows, hblock, hv.coherent.rows]
    exact flattenAt_eq_spliceBelow (fun h => ((hm _).mp h).2 rfl) hback
  have hblock : ∀ s ∈ flatten r.node.children v.expansion, s.node ≠ r.node := by
    intro s hs hsn
    have hwalk := mem_walkAll_of_mem_flattenAt hs
    rw [hsn] at hwalk
    exact Node.not_mem_walkAll_children _ hwalk
  have hshow : showing r.node v.rows = showing r.node (v.act verb i).state.rows :=
    (congrArg (showing r.node) hsplice).trans (showing_spliceBelow hblock _)
  have hlength := congrArg List.length hsplice
  rw [length_spliceBelow] at hlength
  exact ⟨hres, by rw [hst], hprune.symm, by rw [hshow, rowCount, rowCount, hlength]⟩

end

end View

/-- **Expanding is a splice and collapsing a prune.** In a reachable view let a row show a group.
If the group is collapsed, expanding or toggling at the row puts, directly below *every* row that
shows the group, the rows of its children under the old expansion, one level deeper than that row.
If the group is expanded, collapsing or toggling takes away, below every row that shows it, the
maximal run of deeper rows. Nothing else about the rows changes, and their number changes by that
of the rows showing the group times that of the block. -/
theorem act_splices_or_prunes {v : View} (hv : v.Reachable) {i : Nat} {r : Row}
    (hr : v.row i = .ok r) (hg : r.node.isGroup = true) :
    (r.node ∉ v.expansion → ∀ o ∈ [v.expand i, v.toggle i],
      o.result = .ok true ∧ o.state.nodes = v.nodes ∧
      o.state.rows = spliceBelow r.node (flatten r.node.children v.expansion) v.rows ∧
      o.state.rowCount = v.rowCount +
        showing r.node v.rows * (flatten r.node.children v.expansion).length) ∧
    (r.node ∈ v.expansion → ∀ o ∈ [v.collapse i, v.toggle i],
      o.result = .ok true ∧ o.state.nodes = v.nodes ∧
      o.state.rows = pruneBelow r.node v.rows ∧
      o.state.rowCount +
        showing r.node v.rows * (flatten r.node.children v.expansion).length = v.rowCount) := by
  constructor
  · intro hn o ho
    let k' : Expansion := ⟨r.node :: v.expansion.groups⟩
    have hm : ∀ m, m ∈ k' ↔ m ∈ v.expansion ∨ m = r.node := by
      intro m
      simp [k', Expansion.mem_def, or_comm]
    have hexpand : Verb.expand.apply v.expansion r.node = (true, k') := by
      simp [Verb.apply, Expansion.expand, hg, hn, k']
    have htoggle : Verb.toggle.apply v.expansion r.node = (true, k') := by
      simp [Verb.apply, Expansion.toggle, Expansion.expand, hg, hn, k']
    simp only [List.mem_cons, List.not_mem_nil, or_false] at ho
    rcases ho with rfl | rfl
    · exact View.act_eq_splice hv hr hn hexpand hm
    · exact View.act_eq_splice hv hr hn htoggle hm
  · intro hn o ho
    have hm : ∀ m, m ∈ (v.expansion.collapse r.node).2 ↔ m ∈ v.expansion ∧ m ≠ r.node :=
      fun m => Expansion.mem_collapse
    have hcollapse : Verb.collapse.apply v.expansion r.node =
        (true, (v.expansion.collapse r.node).2) := by
      simp [Verb.apply, Expansion.collapse, hn]
    have htoggle : Verb.toggle.apply v.expansion r.node =
        (true, (v.expansion.collapse r.node).2) := by
      simp [Verb.apply, Expansion.toggle, Expansion.collapse, hn]
    simp only [List.mem_cons, List.not_mem_nil, or_false] at ho
    rcases ho with rfl | rfl
    · exact View.act_eq_prune hv hr hn hcollapse hm
    · exact View.act_eq_prune hv hr hn htoggle hm

/-- The group `g` is shown twice, once within an expanded group. Expanding it at its second row
puts its child below both rows, and collapsing it at its first row takes both away. -/
theorem act_splices_or_prunes_twice :
    let c := Node.leaf "c" none
    let g := Node.group "g" none [c]
    let h := Node.group "h" none [g]
    let v := View.ofExpansion [h, g] (.ofList [h])
    let w := (v.expand 2).state
    v.rows = [⟨h, 0⟩, ⟨g, 1⟩, ⟨g, 0⟩] ∧
      w.rows = spliceBelow g (flatten [c] v.expansion) v.rows ∧ w.rowCount = 3 + 2 * 1 ∧
      (w.collapse 1).state.rows = pruneBelow g w.rows := by
  intro c g h v w
  have hv : v.Reachable := .fresh [h, g] [h]
  have hexp := ((act_splices_or_prunes hv (i := 2) (r := ⟨g, 0⟩) rfl rfl).1
    (by decide) (v.expand 2) (by simp)).2.2
  have hw : w.Reachable := hv.step (.act .expand 2)
  have hcol := ((act_splices_or_prunes hw (i := 1) (r := ⟨g, 1⟩) rfl rfl).2
    (by decide) (w.collapse 1) (by simp)).2.2
  exact ⟨by decide, hexp.1, hexp.2, hcol.1⟩

end Outline
