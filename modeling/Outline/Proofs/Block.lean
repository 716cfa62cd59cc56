import Outline.Proofs.Decoding

/-!
# Blocks

The block below a row is the run of deeper rows that directly follows it (`LiesBelow`). In the rows
of a forest it is made of the rows of the node's children if the node is expanded, and is empty
otherwise (`takeWhile_drop_flattenAt`): nothing of a later sibling, of an ancestor's sibling or of
an equal node elsewhere gets into it.

So depths alone tell how the rows hang together (`rows_form_blocks`). The depth grows by one at most
from a row to the next, hence above every row there is one of each smaller depth with only deeper
rows between them (`exists_liesBelow`), and the one that is one level higher shows the parent.
-/

namespace Outline

variable {k : Expansion} {d e i j : Nat} {ns : List Node} {r s : Row} {rows rest : List Row}

/-! ### What lies below a row -/

/-- The row at `j` lies in the block below the row at `i`, the run of deeper rows that directly
follows it. -/
def LiesBelow (rows : List Row) (i j : Nat) : Prop :=
  i < j ∧ ∃ r, rows[i]? = some r ∧
    ∀ m s, i < m → m ≤ j → rows[m]? = some s → r.depth < s.depth

theorem not_liesBelow_zero : ¬ LiesBelow rows i 0 := fun h => Nat.not_lt_zero i h.1

theorem getElem?_append_length_add (front rows : List Row) (m : Nat) :
    (front ++ rows)[front.length + m]? = rows[m]? := by
  rw [List.getElem?_append_right (Nat.le_add_right _ _), Nat.add_sub_cancel_left]

/-- Rows in front of all others change no block. -/
theorem liesBelow_append_iff (front : List Row) :
    LiesBelow (front ++ rows) (front.length + i) (front.length + j) ↔ LiesBelow rows i j := by
  unfold LiesBelow
  rw [getElem?_append_length_add, Nat.add_lt_add_iff_left]
  refine and_congr_right fun _ => exists_congr fun r => and_congr_right fun _ => ?_
  constructor
  · intro h m s him hmj hs
    exact h (front.length + m) s (by omega) (by omega)
      ((getElem?_append_length_add front rows m).trans hs)
  · intro h m s him hmj hs
    obtain ⟨n, rfl⟩ := Nat.exists_eq_add_of_le (m := front.length) (n := m) (by omega)
    exact h n s (by omega) (by omega) ((getElem?_append_length_add front rows n).symm.trans hs)

theorem liesBelow_cons_iff : LiesBelow (r :: rows) (i + 1) (j + 1) ↔ LiesBelow rows i j := by
  rw [Nat.add_comm i, Nat.add_comm j]
  exact liesBelow_append_iff [r]

/-- The run of deeper rows at the front lies below the row before it. -/
theorem liesBelow_takeWhile (hj : j < (rows.takeWhile fun s => decide (r.depth < s.depth)).length) :
    LiesBelow (r :: rows) 0 (j + 1) := by
  refine ⟨Nat.succ_pos j, r, rfl, fun m s hm hmj hs => ?_⟩
  obtain ⟨m, rfl⟩ := Nat.exists_eq_add_one_of_ne_zero (Nat.ne_of_gt hm)
  rw [List.getElem?_cons_succ] at hs
  have hlt : m < (rows.takeWhile fun s => decide (r.depth < s.depth)).length := by omega
  have hmem : s ∈ rows.takeWhile fun s => decide (r.depth < s.depth) := by
    rw [← List.takeWhile_append_dropWhile (p := fun s => decide (r.depth < s.depth)) (l := rows),
      List.getElem?_append_left hlt] at hs
    exact List.mem_of_getElem? hs
  exact of_decide_eq_true (List.all_eq_true.mp List.all_takeWhile s hmem)

/-- Nothing behind a row that is no deeper lies below the row or below one in its block. -/
theorem not_liesBelow_of_head {run : List Row} (hrun : ∀ s ∈ run, r.depth < s.depth)
    (hrest : ∀ s ∈ rest.head?, s.depth ≤ r.depth) (hi : i < (r :: run).length)
    (hj : rest[j]? = some s) : ¬ LiesBelow (r :: run ++ rest) i ((r :: run).length + j) := by
  rintro ⟨-, u, hu, hdeep⟩
  cases rest with
  | nil => simp at hj
  | cons t rest =>
    have ht : (r :: run ++ t :: rest)[(r :: run).length]? = some t := by
      rw [List.getElem?_append_right (Nat.le_refl _), Nat.sub_self]
      rfl
    have hut : u.depth < t.depth := hdeep _ t hi (Nat.le_add_right _ _) ht
    have hru : r.depth ≤ u.depth := by
      rw [List.getElem?_append_left hi] at hu
      rcases List.mem_cons.mp (List.mem_of_getElem? hu) with rfl | hu
      · exact Nat.le_refl _
      · exact Nat.le_of_lt (hrun u hu)
    have htr : t.depth ≤ r.depth := hrest t rfl
    omega

/-! ### Blocks of a forest -/

/-- In front of rows that begin no deeper, the run of deeper rows ends. -/
theorem takeWhile_append_of_head {block : List Row} (hblock : ∀ s ∈ block, d < s.depth)
    (h : ∀ s ∈ rest.head?, s.depth ≤ d) :
    (block ++ rest).takeWhile (fun s => decide (d < s.depth)) = block := by
  have hrest : rest.takeWhile (fun s => decide (d < s.depth)) = [] := by
    have hsplit := List.takeWhile_append_dropWhile (p := fun s : Row => decide (d < s.depth))
      (l := rest)
    rw [dropWhile_eq_self_of_head h] at hsplit
    exact List.append_left_eq_self.mp hsplit
  rw [List.takeWhile_append_of_pos fun s hs => decide_eq_true (hblock s hs), hrest,
    List.append_nil]

/-- **The block below a row** is made of the rows of its node's children if the node is expanded,
and is empty otherwise. -/
theorem takeWhile_drop_flattenAt (h : (flattenAt k d ns)[i]? = some r) :
    ((flattenAt k d ns).drop (i + 1)).takeWhile (fun s => decide (r.depth < s.depth)) =
      if r.node ∈ k then flattenAt k (r.depth + 1) r.node.children else [] := by
  obtain ⟨rest, hdrop, hhead⟩ := drop_flattenAt h
  rw [hdrop]
  refine takeWhile_append_of_head (fun s hs => ?_) hhead
  split at hs
  · exact le_depth_of_mem_flattenAt hs
  · exact absurd hs List.not_mem_nil

/-- The first row stands no deeper than the roots. -/
theorem depth_head_flattenAt (h : r ∈ (flattenAt k d ns).head?) : r.depth ≤ d := by
  have hnil : ∀ s ∈ ([] : List Row).head?, s.depth ≤ d := by simp
  refine head_flattenAt_append k ns hnil r ?_
  rwa [List.append_nil]

/-- From a row to the next the depth grows by one at most. -/
theorem depth_le_succ_of_flattenAt (hr : (flattenAt k d ns)[i]? = some r)
    (hs : (flattenAt k d ns)[i + 1]? = some s) : s.depth ≤ r.depth + 1 := by
  obtain ⟨rest, hdrop, hhead⟩ := drop_flattenAt hr
  have hnext : s ∈ ((flattenAt k d ns).drop (i + 1)).head? := by
    rw [List.head?_drop]
    exact hs
  have hrest : ∀ t ∈ rest.head?, t.depth ≤ r.depth + 1 := fun t ht => Nat.le_succ_of_le (hhead t ht)
  rw [hdrop] at hnext
  split at hnext
  · exact head_flattenAt_append k _ hrest s hnext
  · exact hrest s hnext

/-! ### Rows above a row -/

/-- **Above every row there is one of each smaller depth**, such that all rows between them are
deeper. -/
theorem exists_liesBelow (hhead : ∀ r ∈ rows.head?, r.depth = 0)
    (hstep : ∀ i r s, rows[i]? = some r → rows[i + 1]? = some s → s.depth ≤ r.depth + 1)
    (hr : rows[i]? = some r) (he : e < r.depth) :
    ∃ j p, rows[j]? = some p ∧ p.depth = e ∧ LiesBelow rows j i := by
  induction i generalizing r with
  | zero =>
    have hzero := hhead r (by rw [List.head?_eq_getElem?]; exact hr)
    omega
  | succ i ih =>
    have hi : i < rows.length := by
      have := (List.getElem?_eq_some_iff.mp hr).1
      omega
    obtain ⟨q, hq⟩ : ∃ q, rows[i]? = some q := ⟨rows[i], List.getElem?_eq_getElem hi⟩
    have hqr := hstep i q r hq hr
    by_cases hqe : q.depth = e
    · -- the row just before is the one
      refine ⟨i, q, hq, hqe, Nat.lt_succ_self i, q, hq, fun m s him hmi hs => ?_⟩
      obtain rfl : m = i + 1 := by omega
      obtain rfl : r = s := Option.some.inj (hr.symm.trans hs)
      omega
    · obtain ⟨j, p, hp, hpe, hji, p', hp', hdeep⟩ := ih hq (by omega)
      obtain rfl : p = p' := Option.some.inj (hp.symm.trans hp')
      refine ⟨j, p, hp, hpe, Nat.lt_succ_of_lt hji, p, hp, fun m s hjm hmi hs => ?_⟩
      by_cases hm : m = i + 1
      · subst hm
        obtain rfl : r = s := Option.some.inj (hr.symm.trans hs)
        omega
      · exact hdeep m s hjm (by omega) hs

/-- What lies in the block below a row is in the run of deeper rows behind it. -/
theorem mem_takeWhile_of_liesBelow (h : LiesBelow rows i j) (hr : rows[i]? = some r)
    (hs : rows[j]? = some s) :
    s ∈ (rows.drop (i + 1)).takeWhile fun s => decide (r.depth < s.depth) := by
  obtain ⟨hij, r', hr', hdeep⟩ := h
  obtain rfl : r = r' := Option.some.inj (hr.symm.trans hr')
  obtain ⟨m, rfl⟩ := Nat.exists_eq_add_of_le hij
  have hfront : ∀ t ∈ (rows.drop (i + 1)).take (m + 1), r.depth < t.depth := by
    intro t ht
    obtain ⟨n, hn⟩ := List.mem_iff_getElem?.mp ht
    have hnm : n < m + 1 := by
      have := (List.getElem?_eq_some_iff.mp hn).1
      rw [List.length_take] at this
      omega
    rw [List.getElem?_take_of_lt hnm, List.getElem?_drop] at hn
    exact hdeep (i + 1 + n) t (by omega) (by omega) hn
  rw [← List.take_append_drop (m + 1) (rows.drop (i + 1)),
    List.takeWhile_append_of_pos fun t ht => decide_eq_true (hfront t ht), List.mem_append]
  refine .inl (List.mem_of_getElem? (i := m) ?_)
  rw [List.getElem?_take_of_lt (Nat.lt_succ_self m), List.getElem?_drop]
  exact hs

/-- **What lies in the block below a row is among the rows of its node's children**, and the node is
expanded. -/
theorem mem_flattenAt_of_liesBelow (h : LiesBelow (flattenAt k d ns) i j)
    (hr : (flattenAt k d ns)[i]? = some r) (hs : (flattenAt k d ns)[j]? = some s) :
    r.node ∈ k ∧ s ∈ flattenAt k (r.depth + 1) r.node.children := by
  have hmem := mem_takeWhile_of_liesBelow h hr hs
  rw [takeWhile_drop_flattenAt hr] at hmem
  split at hmem
  · exact ⟨‹_›, hmem⟩
  · exact absurd hmem List.not_mem_nil

/-- Rows at the depth of the roots show roots. -/
theorem node_mem_of_depth_eq (h : r ∈ flattenAt k d ns) (hd : r.depth = d) : r.node ∈ ns := by
  rw [← roots_flattenAt k d ns]
  exact List.mem_map_of_mem (List.mem_filter.mpr ⟨h, decide_eq_true hd⟩)

/-- **Depths alone tell how the rows hang together.** Whatever the forest and whatever is expanded:

* The maximal run of deeper rows directly behind a row is made of the rows of its node's children,
  each as many levels deeper as the row is deep and one more, if the node is an expanded group. If
  it is not, the run is empty.
* The first row, if there is one, stands at depth zero, and from a row to the next the depth grows by
  one at most.
* A row at a depth above zero has a nearest row before it that is one level higher. That row shows
  an expanded group, and the node of the row is one of its children. -/
theorem rows_form_blocks (ns : List Node) (k : Expansion) :
    let rows := flatten ns k
    (∀ (i : Nat) (r : Row), rows[i]? = some r →
      (rows.drop (i + 1)).takeWhile (fun s => decide (r.depth < s.depth)) =
        if r.node.isGroup = true ∧ r.node ∈ k then
          (flatten r.node.children k).map (Row.shift (r.depth + 1))
        else []) ∧
    (∀ r : Row, rows[0]? = some r → r.depth = 0) ∧
    (∀ (i : Nat) (r s : Row), rows[i]? = some r → rows[i + 1]? = some s →
      s.depth ≤ r.depth + 1) ∧
    ∀ (i : Nat) (r : Row), rows[i]? = some r → 0 < r.depth →
      ∃ (j : Nat) (p : Row), j < i ∧ rows[j]? = some p ∧ p.depth + 1 = r.depth ∧
        (∀ (m : Nat) (s : Row), j < m → m < i → rows[m]? = some s → s.depth ≠ p.depth) ∧
        p.node.isGroup = true ∧ p.node ∈ k ∧ r.node ∈ p.node.children := by
  intro rows
  have hfirst : ∀ r ∈ rows.head?, r.depth = 0 := fun r hr =>
    Nat.eq_zero_of_le_zero (depth_head_flattenAt hr)
  have hstep : ∀ i r s, rows[i]? = some r → rows[i + 1]? = some s → s.depth ≤ r.depth + 1 :=
    fun i r s => depth_le_succ_of_flattenAt
  refine ⟨fun i r hr => ?_, fun r hr => hfirst r (List.head?_eq_getElem?.trans hr), hstep,
    fun i r hr hd => ?_⟩
  · have hblock := takeWhile_drop_flattenAt hr
    rw [flattenAt_eq_map k (r.depth + 1) r.node.children] at hblock
    refine hblock.trans ?_
    cases hg : r.node.isGroup with
    | true => simp
    | false => simp [Node.children_eq_nil_of_isGroup_eq_false hg]
  · obtain ⟨j, p, hp, hpd, hbelow⟩ := exists_liesBelow hfirst hstep hr (e := r.depth - 1) (by omega)
    obtain ⟨hk, hmem⟩ := mem_flattenAt_of_liesBelow hbelow hp hr
    have hchild := node_mem_of_depth_eq hmem (by omega)
    obtain ⟨hji, p', hp', hdeep⟩ := hbelow
    obtain rfl : p = p' := Option.some.inj (hp.symm.trans hp')
    refine ⟨j, p, hji, hp, by omega, fun m s hjm hmi hs => ?_, Node.isGroup_of_mem_children hchild,
      hk, hchild⟩
    have := hdeep m s hjm (Nat.le_of_lt hmi) hs
    omega

/-- The groups `h` and `g` are expanded, and `g` is shown in `h` and behind it. The block below the
first row ends before the second `g`, and the row of `e` finds its parent above the block of the
first. -/
theorem rows_form_blocks_nested :
    let c := Node.leaf "c" none
    let e := Node.leaf "e" none
    let g := Node.group "g" none [c]
    let h := Node.group "h" none [g, e]
    let k := Expansion.ofList [h, g]
    let rows := flatten [h, g] k
    rows = [⟨h, 0⟩, ⟨g, 1⟩, ⟨c, 2⟩, ⟨e, 1⟩, ⟨g, 0⟩, ⟨c, 1⟩] ∧
      (rows.drop 1).takeWhile (fun s => decide (0 < s.depth)) =
        (flatten [g, e] k).map (Row.shift 1) ∧
      ∃ (j : Nat) (p : Row), j < 3 ∧ rows[j]? = some p ∧ p.depth + 1 = 1 ∧ p.node ∈ k ∧
        e ∈ p.node.children := by
  intro c e g h k rows
  obtain ⟨hblock, -, -, hparent⟩ := rows_form_blocks [h, g] k
  obtain ⟨j, p, hj, hp, hd, -, -, hk, he⟩ := hparent 3 ⟨e, 1⟩ (by rfl) Nat.one_pos
  exact ⟨by decide, hblock 0 ⟨h, 0⟩ rfl, j, p, hj, hp, hd, hk, he⟩

end Outline
