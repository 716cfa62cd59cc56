import Outline.Proofs.Row

/-!
# What the rows tell

The rows of a forest tell the forest, and they tell of each group that they show, unless it is
empty, whether it is expanded; of the expansion they tell nothing else (`flatten_eq_iff`).

The forest is read off the rows at depth zero (`roots_flattenAt`). The rest is decoded row by row:
the block below a row ends where the depth falls back, so equal rows have equal blocks, and the
roots of a block are the children of its group or nothing (`mem_iff_of_flattenAt_eq`). Conversely
the rows are built by asking only for the nodes shown (`flattenAt_congr_of_shown`), which is more
than `flattenAt_congr` says: there every node of the forest is asked for, shown or not.
-/

namespace Outline

variable {k k' : Expansion} {d : Nat} {ns : List Node}

/-- The rows at the depth of the roots show the roots. -/
theorem roots_flattenAt (k : Expansion) (d : Nat) (ns : List Node) :
    ((flattenAt k d ns).filter fun r => decide (r.depth = d)).map Row.node = ns := by
  induction ns with
  | nil => rfl
  | cons n ns ih =>
    -- all rows of the block below a root are deeper than the root
    have hblock : (if n ∈ k then flattenAt k (d + 1) n.children else []).filter
        (fun r => decide (r.depth = d)) = [] := by
      rw [List.filter_eq_nil_iff]
      intro r hr
      split at hr
      · have := le_depth_of_mem_flattenAt hr
        simp only [decide_eq_true_eq]
        omega
      · exact absurd hr List.not_mem_nil
    rw [flattenAt_cons, List.filter_cons_of_pos (by simp), List.filter_append, hblock,
      List.nil_append, List.map_cons, ih]

/-- Equal rows are the rows of equal forests. -/
theorem eq_of_flattenAt_eq {ms : List Node} (h : flattenAt k d ns = flattenAt k' d ms) :
    ns = ms := by
  rw [← roots_flattenAt k d ns, h, roots_flattenAt]

/-- The block below a row, as the rows of a forest. -/
theorem flattenAt_cons_eq (k : Expansion) (d : Nat) (n : Node) (ns : List Node) :
    flattenAt k d (n :: ns) =
      ⟨n, d⟩ :: (flattenAt k (d + 1) (if n ∈ k then n.children else []) ++ flattenAt k d ns) := by
  rw [flattenAt_cons]
  split <;> rfl

/-- Equal rows have equal blocks below the first row, and equal rows after them. -/
theorem blocks_of_flattenAt_eq {n : Node}
    (h : flattenAt k d (n :: ns) = flattenAt k' d (n :: ns)) :
    flattenAt k (d + 1) (if n ∈ k then n.children else []) =
        flattenAt k' (d + 1) (if n ∈ k' then n.children else []) ∧
      flattenAt k d ns = flattenAt k' d ns := by
  have hhead : ∀ k : Expansion, ∀ r ∈ (flattenAt k d ns).head?, r.depth ≤ d := by
    intro k
    have hnil : ∀ r ∈ ([] : List Row).head?, r.depth ≤ d := by simp
    simpa using head_flattenAt_append k ns hnil
  rw [flattenAt_cons_eq, flattenAt_cons_eq] at h
  have htail := (List.cons.inj h).2
  -- dropping the deeper rows on both sides leaves what follows the blocks
  have hrest : flattenAt k d ns = flattenAt k' d ns := by
    have hdrop := congrArg (List.dropWhile fun s : Row => decide (d < s.depth)) htail
    rwa [dropWhile_flattenAt_append (Nat.lt_succ_self d) (hhead k),
      dropWhile_flattenAt_append (Nat.lt_succ_self d) (hhead k')] at hdrop
  rw [hrest] at htail
  exact ⟨List.append_cancel_right htail, hrest⟩

/-- **Equal rows tell the same about every group shown that has children.** -/
theorem mem_iff_of_flattenAt_eq (h : flattenAt k d ns = flattenAt k' d ns) :
    ∀ r ∈ flattenAt k d ns, r.node.children ≠ [] → (r.node ∈ k ↔ r.node ∈ k') := by
  induction ns using Node.forest_induction generalizing d with
  | nil => exact fun r hr => absurd hr List.not_mem_nil
  | cons n ns ihc ihs =>
    obtain ⟨hblock, hrest⟩ := blocks_of_flattenAt_eq h
    have hroots := eq_of_flattenAt_eq hblock
    intro r hr hne
    rw [flattenAt_cons, List.mem_cons, List.mem_append] at hr
    rcases hr with rfl | hr | hr
    · -- one block has the children for its roots exactly when the other has
      by_cases hk : n ∈ k <;> by_cases hk' : n ∈ k' <;> simp_all
    · split at hr
      · next hk =>
        rw [if_pos hk] at hblock hroots
        have hchildren : flattenAt k (d + 1) n.children = flattenAt k' (d + 1) n.children := by
          rw [hblock, ← hroots]
        exact ihc hchildren r hr hne
      · exact absurd hr List.not_mem_nil
    · exact ihs hrest r hr hne

/-- **The rows depend on the groups shown that have children, and on no others.** -/
theorem flattenAt_congr_of_shown
    (h : ∀ r ∈ flattenAt k d ns, r.node.children ≠ [] → (r.node ∈ k ↔ r.node ∈ k')) :
    flattenAt k d ns = flattenAt k' d ns := by
  induction ns using Node.forest_induction generalizing d with
  | nil => rfl
  | cons n ns ihc ihs =>
    rw [flattenAt_cons] at h
    rw [flattenAt_cons, flattenAt_cons, ihs fun r hr =>
      h r (List.mem_cons_of_mem _ (List.mem_append_right _ hr))]
    by_cases hne : n.children = []
    · -- an empty group has no rows below it, expanded or not
      simp [hne]
    · have hn : n ∈ k ↔ n ∈ k' := h ⟨n, d⟩ List.mem_cons_self hne
      by_cases hk : n ∈ k
      · rw [if_pos hk, if_pos (hn.mp hk), ihc fun r hr =>
          h r (List.mem_cons_of_mem _ (List.mem_append_left _ (by rwa [if_pos hk])))]
      · rw [if_neg hk, if_neg fun hk' => hk (hn.mpr hk')]

/-- **Rows, forest and expansion determine each other**, as far as anything is shown. Two forests
under two expansions have the same rows exactly when the forests are equal and the expansions agree
on every group that is shown and has children. So if two expansions differ in one group, the rows
are the same exactly when the group is not shown (because it is not in the forest, or stands within
a collapsed group) or is empty. -/
theorem flatten_eq_iff (ns : List Node) (k k' : Expansion) :
    (∀ ms, flatten ns k = flatten ms k' ↔
      ns = ms ∧ ∀ r ∈ flatten ns k, r.node.isGroup = true → r.node.children ≠ [] →
        (r.node ∈ k ↔ r.node ∈ k')) ∧
    ∀ g, (∀ m, m ≠ g → (m ∈ k ↔ m ∈ k')) → ¬ (g ∈ k ↔ g ∈ k') →
      (flatten ns k = flatten ns k' ↔ (∀ r ∈ flatten ns k, r.node ≠ g) ∨ g.children = []) := by
  have hgroup : ∀ n : Node, n.children ≠ [] → n.isGroup = true := by
    intro n hn
    cases n with
    | leaf _ _ => exact absurd rfl hn
    | group _ _ _ => rfl
  refine ⟨fun ms => ⟨fun h => ?_, ?_⟩, fun g hother hg => ⟨fun h => ?_, fun h => ?_⟩⟩
  · obtain rfl := eq_of_flattenAt_eq h
    exact ⟨rfl, fun r hr _ => mem_iff_of_flattenAt_eq h r hr⟩
  · rintro ⟨rfl, h⟩
    exact flattenAt_congr_of_shown fun r hr hne => h r hr (hgroup _ hne) hne
  · by_cases hne : g.children = []
    · exact .inr hne
    · refine .inl fun r hr hrg => hg ?_
      rw [← hrg] at hne ⊢
      exact mem_iff_of_flattenAt_eq h r hr hne
  · refine flattenAt_congr_of_shown fun r hr hne => hother r.node fun hrg => ?_
    rcases h with h | h
    · exact h r hr hrg
    · exact hne (hrg ▸ h)

/-- A group hidden in a collapsed one, an empty group and one that is not in the forest are
expanded to no effect. The group that is shown makes the difference. -/
theorem flatten_eq_iff_idle :
    let inner := Node.group "inner" none [.leaf "c" none]
    let outer := Node.group "outer" none [inner]
    let void := Node.group "void" none []
    let k := Expansion.ofList [inner, void, .group "stale" none [inner]]
    flatten [outer, void] k = flatten [outer, void] .empty ∧
      flatten [outer, void] (k.expand outer).2 ≠ flatten [outer, void] k := by
  intro inner outer void k
  refine ⟨((flatten_eq_iff _ _ _).1 _).mpr ⟨rfl, by decide⟩, fun h => ?_⟩
  have hother : ∀ m, m ≠ outer → (m ∈ (k.expand outer).2 ↔ m ∈ k) := by
    intro m hm
    simp [Expansion.mem_expand, hm]
  rcases ((flatten_eq_iff _ _ _).2 outer hother (by decide)).mp h with hshown | hempty
  · exact hshown ⟨outer, 0⟩ (by decide) rfl
  · exact absurd hempty (by decide)

end Outline
