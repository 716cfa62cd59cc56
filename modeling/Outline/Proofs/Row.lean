import Outline.Row
import Outline.Proofs.Node

/-!
# Rows of a forest

`flattenAt_cons` takes the rows of a forest apart: the row of its first node, the block of rows
below that node when it is expanded, and the rows of the other nodes. By induction over the forest
the rows depend only on which of the nodes that occur in it are expanded (`flattenAt_congr`), show
only nodes that occur in it (`mem_walkAll_of_mem_flattenAt`), and are at least as deep as its roots
(`le_depth_of_mem_flattenAt`). So the block below a row is the run of deeper rows that follows it
(`dropWhile_flattenAt_append`), and it is made of the rows of its node's children or empty
(`drop_flattenAt`).
-/

namespace Outline

variable {k k' : Expansion} {d : Nat} {ns : List Node} {r : Row}

@[simp] theorem flattenAt_nil (k : Expansion) (d : Nat) : flattenAt k d [] = [] := rfl

/-- The rows of a forest are the row of its first node, the rows of that node's children if it is
expanded, and the rows of the other nodes. -/
theorem flattenAt_cons (k : Expansion) (d : Nat) (n : Node) (ns : List Node) :
    flattenAt k d (n :: ns) =
      ⟨n, d⟩ :: ((if n ∈ k then flattenAt k (d + 1) n.children else []) ++ flattenAt k d ns) := by
  cases n with
  | leaf n v => simp [flattenAt, flattenNode, Node.children]
  | group n v cs => simp [flattenAt, flattenNode, Node.children]

/-- Expansions that agree on the nodes of a forest give it the same rows. -/
theorem flattenAt_congr (h : ∀ m ∈ Node.walkAll ns, m ∈ k ↔ m ∈ k') :
    flattenAt k d ns = flattenAt k' d ns := by
  induction ns using Node.forest_induction generalizing d with
  | nil => rfl
  | cons n ns ihc ihs =>
    simp only [Node.walkAll_cons, List.mem_cons, List.mem_append] at h
    have hn : n ∈ k ↔ n ∈ k' := h n (.inl rfl)
    rw [flattenAt_cons, flattenAt_cons, ihc fun m hm => h m (.inr (.inl hm)),
      ihs fun m hm => h m (.inr (.inr hm))]
    simp only [hn]

/-- Expansions that agree on the nodes of a forest give it the same rows. -/
theorem flatten_congr (h : ∀ m ∈ Node.walkAll ns, m ∈ k ↔ m ∈ k') :
    flatten ns k = flatten ns k' := flattenAt_congr h

/-- Only nodes of the forest are shown. -/
theorem mem_walkAll_of_mem_flattenAt (h : r ∈ flattenAt k d ns) : r.node ∈ Node.walkAll ns := by
  induction ns using Node.forest_induction generalizing d with
  | nil => exact absurd h List.not_mem_nil
  | cons n ns ihc ihs =>
    rw [flattenAt_cons, List.mem_cons, List.mem_append] at h
    rw [Node.walkAll_cons, List.mem_cons, List.mem_append]
    rcases h with rfl | h | h
    · exact .inl rfl
    · split at h
      · exact .inr (.inl (ihc h))
      · exact absurd h List.not_mem_nil
    · exact .inr (.inr (ihs h))

/-- No row stands above the roots. -/
theorem le_depth_of_mem_flattenAt (h : r ∈ flattenAt k d ns) : d ≤ r.depth := by
  induction ns using Node.forest_induction generalizing d with
  | nil => exact absurd h List.not_mem_nil
  | cons n ns ihc ihs =>
    rw [flattenAt_cons, List.mem_cons, List.mem_append] at h
    rcases h with rfl | h | h
    · exact Nat.le_refl d
    · split at h
      · exact Nat.le_of_succ_le (ihc h)
      · exact absurd h List.not_mem_nil
    · exact ihs h

/-- The rows that follow a forest begin no deeper than its roots stand, also after a part of the
forest. -/
theorem head_flattenAt_append (k : Expansion) (ns : List Node) {rest : List Row}
    (h : ∀ r ∈ rest.head?, r.depth ≤ d) :
    ∀ r ∈ (flattenAt k d ns ++ rest).head?, r.depth ≤ d := by
  cases ns with
  | nil => exact h
  | cons n ns =>
    intro r hr
    rw [flattenAt_cons] at hr
    obtain rfl : (⟨n, d⟩ : Row) = r := by simpa using hr
    exact Nat.le_refl d

/-- Rows that begin no deeper have no run of deeper rows at their front. -/
theorem dropWhile_eq_self_of_head {rows : List Row} (h : ∀ r ∈ rows.head?, r.depth ≤ d) :
    rows.dropWhile (fun s => decide (d < s.depth)) = rows := by
  cases rows with
  | nil => rfl
  | cons r rows =>
    have hr : ¬ d < r.depth := Nat.not_lt.mpr (h r rfl)
    rw [List.dropWhile_cons, if_neg (by simpa using hr)]

/-- The run of deeper rows below a row is the block of its children, when what follows the block
is no deeper than the row. -/
theorem dropWhile_flattenAt_append {rest : List Row} {e : Nat} (hde : d < e)
    (h : ∀ r ∈ rest.head?, r.depth ≤ d) :
    (flattenAt k e ns ++ rest).dropWhile (fun s => decide (d < s.depth)) = rest := by
  rw [List.dropWhile_append_of_pos fun r hr =>
    decide_eq_true (Nat.lt_of_lt_of_le hde (le_depth_of_mem_flattenAt hr))]
  exact dropWhile_eq_self_of_head h

/-- **Whatever is shown stays shown, in its order, when more is expanded.** -/
theorem flattenAt_sublist (hk : ∀ m ∈ k, m ∈ k') :
    (flattenAt k d ns).Sublist (flattenAt k' d ns) := by
  induction ns using Node.forest_induction generalizing d with
  | nil => exact List.Sublist.refl []
  | cons n ns ihc ihs =>
    rw [flattenAt_cons, flattenAt_cons]
    refine (List.Sublist.append ?_ ihs).cons_cons _
    by_cases hn : n ∈ k
    · rw [if_pos hn, if_pos (hk n hn)]
      exact ihc
    · rw [if_neg hn]
      exact List.nil_sublist _

/-- **Directly below a row stand the rows of its node's children**, one level deeper, if the node is
expanded, and nothing deeper than the row otherwise. -/
theorem drop_flattenAt {i : Nat} (h : (flattenAt k d ns)[i]? = some r) :
    ∃ rest, (flattenAt k d ns).drop (i + 1) =
        (if r.node ∈ k then flattenAt k (r.depth + 1) r.node.children else []) ++ rest ∧
      ∀ s ∈ rest.head?, s.depth ≤ r.depth := by
  induction ns using Node.forest_induction generalizing d i with
  | nil => exact absurd h (by simp)
  | cons n ns ihc ihs =>
    have hnil : ∀ s ∈ ([] : List Row).head?, s.depth ≤ d := by simp
    have hrest : ∀ s ∈ (flattenAt k d ns).head?, s.depth ≤ d := by
      simpa using head_flattenAt_append k ns hnil
    rw [flattenAt_cons] at h ⊢
    rw [List.drop_succ_cons]
    cases i with
    | zero =>
      obtain rfl : (⟨n, d⟩ : Row) = r := by simpa using h
      exact ⟨flattenAt k d ns, rfl, hrest⟩
    | succ i =>
      rw [List.getElem?_cons_succ] at h
      by_cases hi : i < (if n ∈ k then flattenAt k (d + 1) n.children else []).length
      · -- a row within the block below the first root: what follows the block is no deeper
        rw [List.getElem?_append_left hi] at h
        rw [List.drop_append_of_le_length hi]
        split at h
        · have hdeep := le_depth_of_mem_flattenAt (List.mem_of_getElem? h)
          obtain ⟨rest, hdrop, hhead⟩ := ihc h
          refine ⟨rest ++ flattenAt k d ns, by rw [if_pos ‹n ∈ k›, hdrop, List.append_assoc], ?_⟩
          cases rest with
          | nil => exact fun s hs => Nat.le_trans (hrest s hs) (Nat.le_of_succ_le hdeep)
          | cons s rest => exact hhead
        · exact absurd h (by simp)
      · rw [List.getElem?_append_right (Nat.not_lt.mp hi)] at h
        obtain ⟨rest, hdrop, hhead⟩ := ihs h
        refine ⟨rest, ?_, hhead⟩
        rw [← hdrop, List.drop_append, List.drop_of_length_le (by omega), List.nil_append,
          Nat.sub_add_comm (Nat.not_lt.mp hi)]

end Outline
