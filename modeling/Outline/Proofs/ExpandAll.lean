import Outline.Proofs.Rebuilding
import Outline.Proofs.Visibility

/-!
# Everything expanded, everything collapsed

An expansion opens a forest when it holds all groups of it (`Expansion.Opens`). Then every position
of the forest is shown (`Expansion.Opens.shown_iff`), and so the rows are all nodes of the forest in
pre-order, as deep as they stand (`Expansion.Opens.map_node_flattenAt`,
`Expansion.Opens.exists_positions`). Expanding everything brings this about from any expansion, and
a second time there is nothing left to do (`View.expandAll_expandAll`). Collapsing everything leaves
the roots.

Both tell whether they changed anything, and only if they did are the rows rebuilt and the listeners
called. A group that is not part of the forest counts for collapsing and not for expanding.
-/

namespace Outline

open Node (at? walkAll Occurs)

/-! ### Opened forests -/

/-- The expansion holds every group of the forest, at any depth. -/
def Expansion.Opens (k : Expansion) (ns : List Node) : Prop :=
  ∀ n ∈ walkAll ns, n.isGroup = true → n ∈ k

variable {k : Expansion} {d : Nat} {n : Node} {ns : List Node} {p : List Nat}

namespace Expansion

theorem opens_cons :
    k.Opens (n :: ns) ↔ (n.isGroup = true → n ∈ k) ∧ k.Opens n.children ∧ k.Opens ns := by
  simp only [Opens, Node.walkAll_cons, List.forall_mem_cons, List.forall_mem_append]

theorem Opens.of_mem (h : k.Opens ns) (hn : n ∈ ns) :
    (n.isGroup = true → n ∈ k) ∧ k.Opens n.children := by
  induction ns with
  | nil => exact absurd hn List.not_mem_nil
  | cons m ns ih =>
    rw [opens_cons] at h
    rcases List.mem_cons.mp hn with rfl | hn
    · exact ⟨h.1, h.2.1⟩
    · exact ih h.2.2 hn

/-- Expanding all nodes of a forest opens it. -/
theorem opens_expandList (k : Expansion) (ns : List Node) :
    (k.expandList (walkAll ns)).2.Opens ns :=
  fun _ hn hg => mem_expandList.mpr (.inr ⟨hg, hn⟩)

/-- Once the groups of a list are expanded, there is nothing left to expand. -/
theorem expandList_expandList (k : Expansion) (ns : List Node) :
    (k.expandList ns).2.expandList ns = (false, (k.expandList ns).2) := by
  have hflag : ((k.expandList ns).2.expandList ns).1 = false := by
    rw [Bool.eq_false_iff, Ne, expandList_changed]
    rintro ⟨n, hn, hg, hk⟩
    exact hk (mem_expandList.mpr (.inr ⟨hg, hn⟩))
  exact Prod.ext hflag (expandList_unchanged hflag)

/-- **In an opened forest the rows are all nodes, in pre-order.** -/
theorem Opens.map_node_flattenAt (h : k.Opens ns) :
    (flattenAt k d ns).map Row.node = walkAll ns := by
  induction ns using Node.forest_induction generalizing d with
  | nil => rfl
  | cons n ns ihc ihs =>
    obtain ⟨hn, hc, hs⟩ := opens_cons.mp h
    rw [flattenAt_cons, Node.walkAll_cons, List.map_cons, List.map_append, ihs hs]
    congr 2
    -- a leaf has no children, whether or not it is remembered
    cases hg : n.isGroup with
    | true => rw [if_pos (hn hg), ihc hc]
    | false => simp [Node.children_eq_nil_of_isGroup_eq_false hg]

/-- **In an opened forest every position is shown.** -/
theorem Opens.shown_iff (h : k.Opens ns) : Shown k ns p ↔ ∃ n, at? ns p = some n := by
  refine ⟨fun hp => hp.exists_node, ?_⟩
  rintro ⟨m, hm⟩
  induction p generalizing ns with
  | nil => exact absurd hm (by simp)
  | cons i p ih =>
    by_cases hp : p = []
    · subst hp
      exact shown_singleton.mpr ⟨m, hm⟩
    · rw [Node.at?_cons ns i hp] at hm
      obtain ⟨n, hn, hm⟩ := Option.bind_eq_some_iff.mp hm
      obtain ⟨hk, hc⟩ := h.of_mem (List.mem_of_getElem? hn)
      -- the way leads on below the node, so it is a group
      have hg : n.isGroup = true := by
        by_contra hleaf
        rw [Node.children_eq_nil_of_isGroup_eq_false (Bool.eq_false_iff.mpr hleaf)] at hm
        exact absurd (Node.mem_walkAll_iff_occurs.mpr ⟨p, hm⟩) List.not_mem_nil
      exact (shown_cons hp).mpr ⟨n, hn, hk hg, ih hc hm⟩

/-- **In an opened forest the rows are the positions of the forest**, in lexicographic order, and
each row is as deep as its position is long, less one. -/
theorem Opens.exists_positions (h : k.Opens ns) :
    ∃ ps : List (List Nat), ps.Pairwise (· < ·) ∧ (∀ p, p ∈ ps ↔ ∃ n, at? ns p = some n) ∧
      List.Forall₂ (fun p r => at? ns p = some r.node ∧ r.depth + 1 = p.length) ps
        (flatten ns k) := by
  refine ⟨shownPositions k ns, pairwise_shownPositions k ns, fun p => ?_, ?_⟩
  · rw [mem_shownPositions, h.shown_iff]
  · exact (forall₂_flattenAt k 0 ns).imp fun p r hr => ⟨hr.1, hr.2.symm⟩

end Expansion

/-! ### Views -/

namespace View

theorem nodes_expandAll (v : View) : v.expandAll.state.nodes = v.nodes := by
  simp only [expandAll, nodes_adopt]

theorem expansion_expandAll (v : View) :
    v.expandAll.state.expansion = (v.expansion.expandList (walkAll v.nodes)).2 := by
  simp only [expandAll, expansion_adopt]

theorem result_expandAll (v : View) :
    v.expandAll.result = (v.expansion.expandList (walkAll v.nodes)).1 := by
  simp only [expandAll, result_adopt]

theorem mem_expandAll {v : View} :
    n ∈ v.expandAll.state.expansion ↔ n ∈ v.expansion ∨ n.isGroup = true ∧ Occurs n v.nodes := by
  rw [expansion_expandAll, Expansion.mem_expandList, Node.mem_walkAll_iff_occurs]

/-- Expanding everything changes something exactly when some group of the forest was collapsed. -/
theorem result_expandAll_eq_true_iff {v : View} :
    v.expandAll.result = true ↔ ∃ n, n.isGroup = true ∧ Occurs n v.nodes ∧ n ∉ v.expansion := by
  rw [result_expandAll, Expansion.expandList_changed]
  refine exists_congr fun n => ?_
  rw [Node.mem_walkAll_iff_occurs]
  exact and_left_comm

/-- After expanding everything the rows are all nodes, in pre-order. -/
theorem map_node_expandAll {v : View} (hv : v.Reachable) :
    v.expandAll.state.rows.map Row.node = walkAll v.nodes := by
  rw [rows_expandAll hv]
  exact (Expansion.opens_expandList v.expansion v.nodes).map_node_flattenAt

/-- **Expanding everything a second time does nothing.** -/
theorem expandAll_expandAll (v : View) :
    v.expandAll.state.expandAll = ⟨false, v.expandAll.state, []⟩ := by
  have hnothing : ∀ w : View, w.expansion.expandList (walkAll w.nodes) = (false, w.expansion) →
      w.expandAll = ⟨false, w, []⟩ := by
    intro w hw
    simp only [expandAll, hw]
    rfl
  refine hnothing _ ?_
  rw [nodes_expandAll, expansion_expandAll]
  exact Expansion.expandList_expandList _ _

/-- Expanding everything calls each listener once if it changed something, and none otherwise. -/
theorem calls_expandAll (v : View) :
    v.expandAll.calls =
      if v.expandAll.result then v.listeners.notify ⟨.expansion, v.expandAll.state.rowCount⟩
      else [] := by
  refine (v.calls_step .expandAll).trans ?_
  simp only [step, Outcome.map, Command.cause]
  cases v.expandAll.result <;> rfl

/-- Collapsing everything calls each listener once if it changed something, and none otherwise. -/
theorem calls_collapseAll (v : View) :
    v.collapseAll.calls =
      if v.collapseAll.result then v.listeners.notify ⟨.expansion, v.collapseAll.state.rowCount⟩
      else [] := by
  refine (v.calls_step .collapseAll).trans ?_
  simp only [step, Outcome.map, Command.cause]
  cases v.collapseAll.result <;> rfl

theorem nodes_collapseAll (v : View) : v.collapseAll.state.nodes = v.nodes := by
  simp only [collapseAll, nodes_adopt]

theorem not_mem_collapseAll {v : View} : n ∉ v.collapseAll.state.expansion := by
  simp only [collapseAll, expansion_adopt]
  exact Expansion.mem_clear

/-- Collapsing everything changes something exactly when anything was remembered, in the forest or
not. -/
theorem result_collapseAll_eq_true_iff {v : View} :
    v.collapseAll.result = true ↔ ∃ n, n ∈ v.expansion := by
  simp only [collapseAll, result_adopt]
  exact Expansion.clear_changed

end View

/-- **Expanding and collapsing everything.** In a reachable view:

* After expanding everything the expansion holds what it held and all groups of the forest, at any
  depth, shown before or not. The rows are the nodes of the forest in pre-order; they correspond in
  lexicographic order to all positions of the forest, and each row is as deep as its position is
  long, less one. There are as many rows as nodes. The answer is yes exactly when some group of the
  forest was not expanded; then each listener is called once, and else none. Expanding everything a
  second time answers no and does nothing.
* After collapsing everything the expansion is empty, and the rows are the roots at depth zero. The
  answer is yes exactly when the expansion was not empty, be its groups in the forest or not; then
  each listener is called once, and else none.
* Collapsing everything and then expanding everything leaves the groups of the forest in the
  expansion, and no others. -/
theorem all_expanded_or_collapsed {v : View} (hv : v.Reachable) :
    let opened := v.expandAll
    let closed := v.collapseAll
    ((∀ n, n ∈ opened.state.expansion ↔
        n ∈ v.expansion ∨ n.isGroup = true ∧ Occurs n v.nodes) ∧
      (opened.state.nodes = v.nodes ∧ opened.state.rows.map Row.node = walkAll v.nodes ∧
        (∃ ps : List (List Nat), ps.Pairwise (· < ·) ∧
          (∀ p, p ∈ ps ↔ ∃ n, at? v.nodes p = some n) ∧
          List.Forall₂ (fun p r => at? v.nodes p = some r.node ∧ r.depth + 1 = p.length) ps
            opened.state.rows) ∧
        opened.state.rowCount = (walkAll v.nodes).length) ∧
      (opened.result = true ↔
        ∃ n, n.isGroup = true ∧ Occurs n v.nodes ∧ n ∉ v.expansion) ∧
      opened.calls = (if opened.result then
        v.listeners.notify ⟨.expansion, opened.state.rowCount⟩ else []) ∧
      opened.state.expandAll = ⟨false, opened.state, []⟩) ∧
    ((∀ n, n ∉ closed.state.expansion) ∧
      (closed.state.nodes = v.nodes ∧ closed.state.rows = v.nodes.map fun n => ⟨n, 0⟩) ∧
      (closed.result = true ↔ ∃ n, n ∈ v.expansion) ∧
      closed.calls = (if closed.result then
        v.listeners.notify ⟨.expansion, closed.state.rowCount⟩ else [])) ∧
    ∀ n, n ∈ closed.state.expandAll.state.expansion ↔ n.isGroup = true ∧ Occurs n v.nodes := by
  intro opened closed
  have hwalk : opened.state.rows.map Row.node = walkAll v.nodes := View.map_node_expandAll hv
  have hcount : opened.state.rowCount = (walkAll v.nodes).length := by
    rw [← hwalk, List.length_map, View.rowCount]
  have hopens := Expansion.opens_expandList v.expansion v.nodes
  refine ⟨⟨fun n => View.mem_expandAll, ⟨v.nodes_expandAll, hwalk, ?_, hcount⟩,
    View.result_expandAll_eq_true_iff, v.calls_expandAll, v.expandAll_expandAll⟩,
    ⟨fun n => View.not_mem_collapseAll, ⟨v.nodes_collapseAll, ?_⟩,
      View.result_collapseAll_eq_true_iff, v.calls_collapseAll⟩, fun n => ?_⟩
  · rw [View.rows_expandAll hv]
    exact hopens.exists_positions
  · rw [View.rows_collapseAll hv, flatten_empty]
  · rw [View.mem_expandAll, v.nodes_collapseAll]
    exact or_iff_right View.not_mem_collapseAll

/-- The group `g` stands in the collapsed group `h` and behind it, and a group that is not in the
forest is remembered. A listener is called for expanding everything and for collapsing everything,
but not for expanding everything again. -/
theorem all_expanded_or_collapsed_hidden :
    let c := Node.leaf "c" none
    let g := Node.group "g" none [c]
    let h := Node.group "h" none [g]
    let stale := Node.group "stale" none []
    let v := ((View.ofExpansion [h, g] (.ofList [stale])).listen "l").state
    let w := v.expandAll.state
    v.Reachable ∧ w.rows.map Row.node = [h, g, c, g, c] ∧ w.rowCount = 5 ∧
      v.expandAll.calls = [⟨0, "l", ⟨.expansion, 5⟩⟩] ∧ w.expandAll = ⟨false, w, []⟩ ∧
      stale ∈ w.expansion ∧ stale ∉ v.collapseAll.state.expandAll.state.expansion ∧
      v.collapseAll.result = true ∧ v.collapseAll.state.rows = [⟨h, 0⟩, ⟨g, 0⟩] := by
  intro c g h stale v w
  have hv : v.Reachable := .step (.fresh [h, g] [stale]) (.listen "l")
  obtain ⟨⟨hmem, ⟨-, hwalk, -, hcount⟩, -, -, hagain⟩, ⟨-, ⟨-, hroots⟩, hclosed, -⟩, hboth⟩ :=
    all_expanded_or_collapsed hv
  have hstale : ¬ (stale.isGroup = true ∧ Node.Occurs stale v.nodes) := by decide
  exact ⟨hv, hwalk, hcount, by decide, hagain, (hmem stale).mpr (.inl (by decide)),
    fun hin => hstale ((hboth stale).mp hin), hclosed.mpr ⟨stale, by decide⟩, hroots⟩

end Outline
