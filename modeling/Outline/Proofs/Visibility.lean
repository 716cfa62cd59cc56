import Mathlib.Data.List.NodupEquivFin
import Outline.Proofs.Node.Position
import Outline.Proofs.Row

/-!
# Which nodes are shown, and in which order

A position of a forest is shown when the way down to it leads through expanded groups only
(`Shown`). This speaks of all ancestors at once, while the rows are made one node at a time.

`shownPositions` lists the positions in the way the rows are made. It lists each shown position
(`mem_shownPositions`), in lexicographic order, a position before those below it
(`pairwise_shownPositions`), and next to the rows it tells where each row's node stands
(`forall₂_flattenAt`). So the rows are the shown positions, one by one and in order
(`rows_are_shown_positions`), even where equal nodes stand at many of them.
-/

namespace Outline

open Node (at? at?_zero at?_succ at?_cons)

/-- A position is shown when a node stands there, and an expanded one at every proper part of the
way down to it. -/
structure Shown (k : Expansion) (ns : List Node) (p : List Nat) : Prop where
  /-- The position leads to a node. -/
  exists_node : ∃ n, at? ns p = some n
  /-- All that it stands below is expanded. -/
  expanded : ∀ q, q <+: p → q ≠ [] → q ≠ p → ∃ m, at? ns q = some m ∧ m ∈ k

variable {k : Expansion} {ns : List Node} {n : Node} {p q : List Nat}

/-! ### One step down -/

theorem Shown.ne_nil (h : Shown k ns p) : p ≠ [] := by
  rintro rfl
  obtain ⟨n, hn⟩ := h.exists_node
  exact absurd hn (by simp)

/-- All roots are shown. -/
theorem shown_singleton {i : Nat} : Shown k ns [i] ↔ ∃ n, ns[i]? = some n := by
  refine ⟨fun h => h.exists_node, fun h => ⟨h, fun q hq hne hne' => ?_⟩⟩
  -- a part of a way of one step is empty or the whole
  rcases List.prefix_cons_iff.mp hq with rfl | ⟨t, rfl, ht⟩
  · exact absurd rfl hne
  · rw [List.prefix_nil.mp ht] at hne'
    exact absurd rfl hne'

/-- What stands below a root is shown when the root is expanded and it is shown among the root's
children. -/
theorem shown_cons {i : Nat} (hp : p ≠ []) :
    Shown k ns (i :: p) ↔ ∃ n, ns[i]? = some n ∧ n ∈ k ∧ Shown k n.children p := by
  constructor
  · rintro ⟨⟨m, hm⟩, hexp⟩
    have hroot : [i] <+: i :: p := ⟨p, rfl⟩
    obtain ⟨n, hn, hk⟩ := hexp [i] hroot (by simp) (by simpa using hp.symm)
    rw [Node.at?_singleton] at hn
    rw [at?_cons ns i hp, hn] at hm
    refine ⟨n, hn, hk, ⟨m, hm⟩, fun q hq hne hne' => ?_⟩
    have hlong := hexp (i :: q) ((List.prefix_cons_inj i).mpr hq) (by simp) (by simpa using hne')
    rwa [at?_cons ns i hne, hn] at hlong
  · rintro ⟨n, hn, hk, ⟨m, hm⟩, hexp⟩
    refine ⟨⟨m, by rw [at?_cons ns i hp, hn]; exact hm⟩, fun q hq hne hne' => ?_⟩
    rcases List.prefix_cons_iff.mp hq with rfl | ⟨t, rfl, ht⟩
    · exact absurd rfl hne
    · -- the root itself, or a part of the way among its children
      by_cases htn : t = []
      · subst htn
        exact ⟨n, hn, hk⟩
      · rw [at?_cons ns i htn, hn]
        exact hexp t ht htn fun h => hne' (by rw [h])

/-- Below the first root. -/
theorem shown_zero (hp : p ≠ []) :
    Shown k (n :: ns) (0 :: p) ↔ n ∈ k ∧ Shown k n.children p := by
  rw [shown_cons hp]
  simp

/-- Behind the first tree. -/
theorem shown_succ {i : Nat} : Shown k (n :: ns) ((i + 1) :: p) ↔ Shown k ns (i :: p) := by
  by_cases hp : p = []
  · subst hp
    rw [shown_singleton, shown_singleton, List.getElem?_cons_succ]
  · rw [shown_cons hp, shown_cons hp, List.getElem?_cons_succ]

/-! ### The list of shown positions -/

mutual

/-- The positions that are shown below a node, among its children. -/
def shownBelow (k : Expansion) : Node → List (List Nat)
  | .leaf _ _ => []
  | .group n v cs => if k.contains (.group n v cs) then shownPositions k cs else []

/-- The positions of a forest that are shown, in the order of the rows. -/
def shownPositions (k : Expansion) : List Node → List (List Nat)
  | [] => []
  | n :: ns =>
    [0] :: ((shownBelow k n).map (0 :: ·) ++ (shownPositions k ns).map (List.modifyHead (· + 1)))

end

@[simp] theorem shownPositions_nil (k : Expansion) : shownPositions k [] = [] := rfl

theorem shownPositions_cons (k : Expansion) (n : Node) (ns : List Node) :
    shownPositions k (n :: ns) =
      [0] :: ((if n ∈ k then shownPositions k n.children else []).map (0 :: ·) ++
        (shownPositions k ns).map (List.modifyHead (· + 1))) := by
  cases n with
  | leaf n v => simp [shownPositions, shownBelow, Node.children]
  | group n v cs => simp [shownPositions, shownBelow, Node.children]

/-- Behind the first tree the first index is one more. -/
theorem cons_mem_map_modifyHead {ps : List (List Nat)} {i : Nat} :
    i :: p ∈ ps.map (List.modifyHead (· + 1)) ↔ ∃ j, i = j + 1 ∧ j :: p ∈ ps := by
  rw [List.mem_map]
  constructor
  · rintro ⟨_ | ⟨j, q⟩, hq, he⟩
    · exact absurd he (by simp)
    · obtain ⟨rfl, rfl⟩ : j + 1 = i ∧ q = p := by simpa using he
      exact ⟨j, rfl, hq⟩
  · rintro ⟨j, rfl, hj⟩
    exact ⟨j :: p, hj, rfl⟩

/-- **Each shown position is listed, and no other.** -/
theorem mem_shownPositions : p ∈ shownPositions k ns ↔ Shown k ns p := by
  induction ns using Node.forest_induction generalizing p with
  | nil =>
    refine iff_of_false List.not_mem_nil fun h => ?_
    obtain ⟨m, hm⟩ := h.exists_node
    obtain _ | ⟨i, _ | ⟨j, p⟩⟩ := p <;> exact absurd hm (by simp [at?])
  | cons n ns ihc ihs =>
    rw [shownPositions_cons, List.mem_cons, List.mem_append]
    obtain _ | ⟨_ | i, p⟩ := p
    · -- no position that is listed is empty
      refine iff_of_false ?_ fun h => h.ne_nil rfl
      rintro (h | h | h)
      · exact absurd h (by simp)
      · exact absurd h (by simp)
      · obtain ⟨q, hq, he⟩ := List.mem_map.mp h
        have hq' := (ihs.mp hq).ne_nil
        cases q with
        | nil => exact hq' rfl
        | cons j q => exact absurd he (by simp)
    · have hlater : 0 :: p ∉ (shownPositions k ns).map (List.modifyHead (· + 1)) := by
        intro h
        obtain ⟨j, hj, -⟩ := cons_mem_map_modifyHead.mp h
        exact absurd hj (by omega)
      by_cases hp : p = []
      · subst hp
        exact iff_of_true (.inl rfl) (shown_singleton.mpr ⟨n, rfl⟩)
      · rw [shown_zero hp]
        by_cases hk : n ∈ k
        · simp [hk, hp, hlater, ihc]
        · simp [hk, hp, hlater]
    · have hfirst : (i + 1) :: p ∉
          (if n ∈ k then shownPositions k n.children else []).map (0 :: ·) := by
        simp
      rw [shown_succ, ← ihs]
      constructor
      · rintro (h | h | h)
        · exact absurd h (by simp)
        · exact absurd h hfirst
        · obtain ⟨j, hj, hmem⟩ := cons_mem_map_modifyHead.mp h
          obtain rfl : i = j := by omega
          exact hmem
      · intro h
        exact .inr (.inr (cons_mem_map_modifyHead.mpr ⟨i, rfl, h⟩))

/-- **The shown positions are listed in lexicographic order**, a position before all below it. -/
theorem pairwise_shownPositions (k : Expansion) (ns : List Node) :
    (shownPositions k ns).Pairwise (· < ·) := by
  induction ns using Node.forest_induction with
  | nil => exact List.Pairwise.nil
  | cons n ns ihc ihs =>
    have hbelow : (if n ∈ k then shownPositions k n.children else []).Pairwise (· < ·) := by
      split
      · exact ihc
      · exact List.Pairwise.nil
    have hlater : ∀ q ∈ (shownPositions k ns).map (List.modifyHead (· + 1)),
        ∃ i p, q = (i + 1) :: p := by
      intro q hq
      obtain ⟨p, hp, rfl⟩ := List.mem_map.mp hq
      have hne := (mem_shownPositions.mp hp).ne_nil
      obtain ⟨i, p, rfl⟩ := List.exists_cons_of_ne_nil hne
      exact ⟨i, p, rfl⟩
    rw [shownPositions_cons, List.pairwise_cons, List.pairwise_append]
    refine ⟨fun q hq => ?_, ?_, ?_, fun p hp q hq => ?_⟩
    · -- the first root comes before what is below it and before the other trees
      rcases List.mem_append.mp hq with hq | hq
      · obtain ⟨p, hp, rfl⟩ := List.mem_map.mp hq
        have hne : p ≠ [] := by
          split at hp
          · exact (mem_shownPositions.mp hp).ne_nil
          · exact absurd hp List.not_mem_nil
        obtain ⟨i, p, rfl⟩ := List.exists_cons_of_ne_nil hne
        exact List.cons_lt_cons_self.mpr (List.nil_lt_cons i p)
      · obtain ⟨i, p, rfl⟩ := hlater q hq
        exact List.cons_lt_cons_iff.mpr (.inl (Nat.succ_pos i))
    · rw [List.pairwise_map]
      exact hbelow.imp fun h => List.cons_lt_cons_self.mpr h
    · rw [List.pairwise_map]
      refine ihs.imp_of_mem fun {p q} hp hq h => ?_
      obtain ⟨i, p, rfl⟩ := List.exists_cons_of_ne_nil (mem_shownPositions.mp hp).ne_nil
      obtain ⟨j, q, rfl⟩ := List.exists_cons_of_ne_nil (mem_shownPositions.mp hq).ne_nil
      rw [List.modifyHead_cons, List.modifyHead_cons, List.cons_lt_cons_iff]
      rcases List.cons_lt_cons_iff.mp h with hij | ⟨rfl, hpq⟩
      · exact .inl (Nat.succ_lt_succ hij)
      · exact .inr ⟨rfl, hpq⟩
    · obtain ⟨p, -, rfl⟩ := List.mem_map.mp hp
      obtain ⟨i, q, rfl⟩ := hlater q hq
      exact List.cons_lt_cons_iff.mpr (.inl (Nat.succ_pos i))

/-- **Each row shows the node at its position**, as deep as the position is long. -/
theorem forall₂_flattenAt (k : Expansion) (d : Nat) (ns : List Node) :
    List.Forall₂ (fun p r => at? ns p = some r.node ∧ p.length + d = r.depth + 1)
      (shownPositions k ns) (flattenAt k d ns) := by
  induction ns using Node.forest_induction generalizing d with
  | nil => exact .nil
  | cons n ns ihc ihs =>
    rw [shownPositions_cons, flattenAt_cons]
    refine .cons ⟨rfl, by simp [Nat.add_comm]⟩ (List.rel_append ?_ ?_)
    · rw [List.forall₂_map_left_iff]
      split
      · refine (ihc (d + 1)).imp fun p r h => ?_
        have hne : p ≠ [] := by
          rintro rfl
          exact absurd h.1 (by simp)
        rw [at?_zero n ns hne, List.length_cons]
        exact ⟨h.1, by omega⟩
      · exact .nil
    · rw [List.forall₂_map_left_iff]
      refine (ihs d).imp fun p r h => ?_
      cases p with
      | nil => exact absurd h.1 (by simp)
      | cons i p =>
        rw [List.modifyHead_cons, at?_succ, List.length_cons]
        exact h

/-! ### Rows and positions -/

/-- **The rows of a forest are its shown positions, one by one and in order.** There is a bijection
from the row indices to the positions that are shown, which takes rows further down to positions
later in lexicographic order (where a position comes before all that extend it), such that each row
shows the node at its position, at a depth that is the length of the position less one. -/
theorem rows_are_shown_positions (ns : List Node) (k : Expansion) :
    ∃ e : Fin (flatten ns k).length ≃ {p // Shown k ns p},
      (∀ i j, i < j → (e i).1 < (e j).1) ∧
        ∀ i, at? ns (e i).1 = some (flatten ns k)[i].node ∧
          (flatten ns k)[i].depth = (e i).1.length - 1 := by
  have hsorted := pairwise_shownPositions k ns
  have hrows := forall₂_flattenAt k 0 ns
  have hlength : (flatten ns k).length = (shownPositions k ns).length := hrows.length_eq.symm
  have hnodup : (shownPositions k ns).Nodup := by
    refine List.Pairwise.imp ?_ hsorted
    rintro p q hpq rfl
    exact List.lt_irrefl p hpq
  refine ⟨(finCongr hlength).trans ((List.Nodup.getEquiv _ hnodup).trans
    (Equiv.subtypeEquivRight fun _ => mem_shownPositions)), fun i j hij => ?_, fun i => ?_⟩
  · exact List.pairwise_iff_getElem.mp hsorted i j _ _ hij
  · obtain ⟨hnode, hdepth⟩ := hrows.get (hlength ▸ i.isLt) i.isLt
    exact ⟨hnode, Nat.eq_sub_of_add_eq hdepth.symm⟩

end Outline
