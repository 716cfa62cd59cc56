import Outline.View

/-!
# Expansions as sets of groups

An expansion is **well formed** when it holds groups only and holds none of them twice. Every
operation keeps this (`WellFormed.apply`, `WellFormed.expandList`, `wellFormed_empty`), and every
well-formed expansion can be built by expanding alone (`wellFormed_iff_exists_ofList`), so
`Expansion.ofList` leaves none out.

The flag that an operation answers is exact: where it says that nothing changed, the expansion is
the very same (`apply_unchanged`, `expandList_unchanged`, `clear_unchanged`). A view that rebuilds
its rows only when the flag is set relies on this.
-/

namespace Outline

namespace Expansion

/-- An expansion holds groups, and none of them twice. -/
structure WellFormed (k : Expansion) : Prop where
  /-- A leaf is never remembered. -/
  isGroup : ∀ n ∈ k, n.isGroup = true
  /-- A group is remembered once. -/
  nodup : k.groups.Nodup

theorem wellFormed_empty : empty.WellFormed :=
  ⟨fun n hn => absurd hn (not_mem_empty n), List.nodup_nil⟩

theorem wellFormed_clear (k : Expansion) : k.clear.2.WellFormed := wellFormed_empty

theorem WellFormed.expand {k : Expansion} (h : k.WellFormed) (n : Node) :
    (k.expand n).2.WellFormed := by
  refine ⟨fun m hm => ?_, ?_⟩
  · rcases mem_expand.mp hm with hm | ⟨hg, rfl⟩
    · exact h.isGroup m hm
    · exact hg
  · unfold Expansion.expand
    split
    · next hn =>
      simp only [Bool.and_eq_true, Bool.not_eq_true', contains_eq_false] at hn
      exact List.nodup_cons.mpr ⟨hn.2, h.nodup⟩
    · exact h.nodup

theorem WellFormed.collapse {k : Expansion} (h : k.WellFormed) (n : Node) :
    (k.collapse n).2.WellFormed := by
  refine ⟨fun m hm => h.isGroup m (mem_collapse.mp hm).1, ?_⟩
  unfold Expansion.collapse
  split
  · exact h.nodup.filter _
  · exact h.nodup

theorem WellFormed.toggle {k : Expansion} (h : k.WellFormed) (n : Node) :
    (k.toggle n).2.WellFormed := by
  unfold Expansion.toggle
  split
  · exact h.collapse n
  · exact h.expand n

/-- Whatever is done at a row leaves a well-formed expansion. -/
theorem WellFormed.apply {k : Expansion} (h : k.WellFormed) (verb : Verb) (n : Node) :
    (verb.apply k n).2.WellFormed := by
  cases verb with
  | expand => exact h.expand n
  | collapse => exact h.collapse n
  | toggle => exact h.toggle n

/-! ### Many groups at once -/

/-- The flag is carried along by the fold and has no part in the members. -/
private theorem foldl_expand_eq (ns : List Node) (b : Bool) (k : Expansion) :
    ns.foldl (fun (changed, k) n => let (new, k) := k.expand n; (changed || new, k)) (b, k) =
      (b || (k.expandList ns).1, (k.expandList ns).2) := by
  unfold expandList
  induction ns generalizing b k with
  | nil => simp
  | cons n ns ih =>
    simp only [List.foldl_cons]
    rw [ih, ih (false || (k.expand n).1)]
    simp [Bool.or_assoc]

@[simp] theorem expandList_nil (k : Expansion) : k.expandList [] = (false, k) := rfl

theorem expandList_cons (k : Expansion) (n : Node) (ns : List Node) :
    k.expandList (n :: ns) =
      ((k.expand n).1 || ((k.expand n).2.expandList ns).1, ((k.expand n).2.expandList ns).2) :=
  foldl_expand_eq ns _ _

/-- Expanding a list adds its groups and takes nothing away. -/
theorem mem_expandList {k : Expansion} {ns : List Node} {m : Node} :
    m ∈ (k.expandList ns).2 ↔ m ∈ k ∨ m.isGroup = true ∧ m ∈ ns := by
  induction ns generalizing k with
  | nil => simp
  | cons n ns ih =>
    rw [expandList_cons, ih, mem_expand, List.mem_cons]
    constructor
    · rintro ((hm | ⟨hg, rfl⟩) | ⟨hg, hm⟩)
      · exact .inl hm
      · exact .inr ⟨hg, .inl rfl⟩
      · exact .inr ⟨hg, .inr hm⟩
    · rintro (hm | ⟨hg, rfl | hm⟩)
      · exact .inl (.inl hm)
      · exact .inl (.inr ⟨hg, rfl⟩)
      · exact .inr ⟨hg, hm⟩

theorem WellFormed.expandList {k : Expansion} (h : k.WellFormed) (ns : List Node) :
    (k.expandList ns).2.WellFormed := by
  induction ns generalizing k with
  | nil => exact h
  | cons n ns ih =>
    rw [expandList_cons]
    exact ih (h.expand n)

theorem wellFormed_ofList (ns : List Node) : (ofList ns).WellFormed :=
  wellFormed_empty.expandList ns

/-- Expanding groups that are new puts them in front, the last one first. -/
private theorem expandList_of_new {k : Expansion} {ns : List Node}
    (hg : ∀ n ∈ ns, n.isGroup = true) (hd : (ns ++ k.groups).Nodup) :
    (k.expandList ns).2 = ⟨ns.reverse ++ k.groups⟩ := by
  induction ns generalizing k with
  | nil => rfl
  | cons n ns ih =>
    have hn : n ∉ k := fun hk =>
      (List.nodup_cons.mp hd).1 (List.mem_append_right ns hk)
    have hk : (k.expand n).2 = ⟨n :: k.groups⟩ := by
      simp [Expansion.expand, hg n List.mem_cons_self, contains_eq_false.mpr hn]
    have hperm : (ns ++ n :: k.groups).Perm (n :: ns ++ k.groups) := List.perm_middle
    rw [expandList_cons, hk]
    simp only
    rw [ih (fun m hm => hg m (List.mem_cons_of_mem n hm)) (hperm.nodup_iff.mpr hd)]
    simp

/-- **Expanding alone builds every well-formed expansion**, so a statement about all
`Expansion.ofList gs` is one about all expansions that the operations can build. -/
theorem wellFormed_iff_exists_ofList {k : Expansion} :
    k.WellFormed ↔ ∃ gs, ofList gs = k := by
  constructor
  · intro h
    have hd : (k.groups.reverse ++ empty.groups).Nodup := by
      simpa [empty] using (List.reverse_perm k.groups).nodup_iff.mpr h.nodup
    refine ⟨k.groups.reverse, ?_⟩
    rw [ofList, expandList_of_new (fun n hn => h.isGroup n (List.mem_reverse.mp hn)) hd]
    simp [empty]
  · rintro ⟨gs, rfl⟩
    exact wellFormed_ofList gs

/-! ### The flag is exact -/

theorem expand_unchanged {k : Expansion} {n : Node} (h : (k.expand n).1 = false) :
    (k.expand n).2 = k := by
  unfold Expansion.expand at h ⊢
  split at h
  · exact absurd h (by simp)
  · next hn => rw [if_neg hn]

theorem collapse_unchanged {k : Expansion} {n : Node} (h : (k.collapse n).1 = false) :
    (k.collapse n).2 = k := by
  unfold Expansion.collapse at h ⊢
  split at h
  · exact absurd h (by simp)
  · next hn => rw [if_neg hn]

theorem expandList_unchanged {k : Expansion} {ns : List Node} (h : (k.expandList ns).1 = false) :
    (k.expandList ns).2 = k := by
  induction ns generalizing k with
  | nil => rfl
  | cons n ns ih =>
    rw [expandList_cons] at h ⊢
    simp only [Bool.or_eq_false_iff] at h
    have hk : (k.expand n).2 = k := expand_unchanged h.1
    rw [hk] at h ⊢
    exact ih h.2

theorem expand_changed (k : Expansion) (n : Node) :
    (k.expand n).1 = (n.isGroup && !k.contains n) := by
  unfold Expansion.expand
  split
  · next hn => exact hn.symm
  · next hn => exact (Bool.eq_false_iff.mpr hn).symm

/-- Expanding a list changes something exactly when one of its groups is new. -/
theorem expandList_changed {k : Expansion} {ns : List Node} :
    (k.expandList ns).1 = true ↔ ∃ n ∈ ns, n.isGroup = true ∧ n ∉ k := by
  induction ns generalizing k with
  | nil => simp
  | cons n ns ih =>
    simp only [expandList_cons, Bool.or_eq_true, List.mem_cons, exists_eq_or_imp]
    cases hn : (k.expand n).1 with
    | true =>
      rw [expand_changed, Bool.and_eq_true, Bool.not_eq_true', contains_eq_false] at hn
      exact iff_of_true (.inl rfl) (.inl hn)
    | false =>
      -- the expansion is the same as before, and so the others are new or not as they were
      have hsame : ¬ (n.isGroup = true ∧ n ∉ k) := by
        rw [expand_changed, Bool.and_eq_false_iff, Bool.not_eq_false', contains_eq_true] at hn
        rintro ⟨hg, hk⟩
        rcases hn with hn | hn
        · exact Bool.false_ne_true (hn.symm.trans hg)
        · exact hk hn
      simp only [Bool.false_eq_true, false_or, hsame]
      rw [expand_unchanged hn, ih]

theorem clear_changed {k : Expansion} : k.clear.1 = true ↔ ∃ n, n ∈ k := by
  obtain ⟨groups⟩ := k
  cases groups with
  | nil => simp [clear, isEmpty, mem_def]
  | cons g gs => exact iff_of_true rfl ⟨g, List.mem_cons_self⟩

theorem clear_unchanged {k : Expansion} (h : k.clear.1 = false) : k.clear.2 = k := by
  obtain ⟨groups⟩ := k
  cases groups with
  | nil => rfl
  | cons g gs => exact absurd h (by simp [clear, isEmpty])

end Expansion

/-- The flag of an operation at a row is exact. -/
theorem Verb.apply_unchanged {verb : Verb} {k : Expansion} {n : Node}
    (h : (verb.apply k n).1 = false) : (verb.apply k n).2 = k := by
  cases verb with
  | expand => exact Expansion.expand_unchanged h
  | collapse => exact Expansion.collapse_unchanged h
  | toggle =>
    simp only [Verb.apply, Expansion.toggle] at h ⊢
    split at h
    · next hk => rw [if_pos hk]; exact Expansion.collapse_unchanged h
    · next hk => rw [if_neg hk]; exact Expansion.expand_unchanged h

end Outline
