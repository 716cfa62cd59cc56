import Outline.Proofs.Rebuilding

/-!
# Expanding in any order

Groups are expanded at rows, and every expansion moves the rows behind it. So to expand several
groups, each is looked for again when its turn comes (`View.expandEach`). None is missed: expanding
hides no row, hence what was shown at first is shown at every turn
(`View.Reachable.expandEach_cons`). The whole list comes to one expansion of all its groups
(`View.Reachable.expandEach_eq_some`), and as a set this does not depend on their order.

Nor does it matter whether a group is expanded before or after the forest is replaced, since the
expansion knows nothing of the forest (`expansions_commute`).
-/

namespace Outline

namespace View

/-- The nodes of a list expanded one after the other, each at the row at which it is found then.
There is no answer if one of them is not found, or if its row is refused. -/
def expandEach (v : View) : List Node → Option View
  | [] => some v
  | g :: gs =>
    match v.findRow g with
    | none => none
    | some i =>
      match (v.expand i).result with
      | .error _ => none
      | .ok _ => (v.expand i).state.expandEach gs

variable {v : View} {i : Nat} {r : Row} {g : Node} {gs : List Node}

/-- Expanding at a row succeeds, and concerns only the expansion. -/
theorem expand_of_row_eq_ok (hr : v.row i = .ok r) :
    (v.expand i).result = .ok (v.expansion.expand r.node).1 ∧
      (v.expand i).state.nodes = v.nodes ∧
      (v.expand i).state.expansion = (v.expansion.expand r.node).2 := by
  simp only [expand, act_of_row_eq_ok hr, result_adopt, nodes_adopt, expansion_adopt, Verb.apply,
    and_self]

/-- **The first node of a list is found and expanded**, and whatever was shown is still shown when
it is the turn of the others. -/
theorem Reachable.expandEach_cons (hv : v.Reachable) (hg : ∃ r ∈ v.rows, r.node = g) :
    ∃ w : View, w.Reachable ∧ w.nodes = v.nodes ∧ w.expansion = (v.expansion.expand g).2 ∧
      v.rows.Sublist w.rows ∧ ∀ gs, v.expandEach (g :: gs) = w.expandEach gs := by
  obtain ⟨r, hr, rfl⟩ := hg
  obtain ⟨j, hj⟩ := List.mem_iff_getElem?.mp hr
  obtain ⟨i, hi⟩ := exists_findRow (row_eq_ok_iff.mpr hj)
  -- the row at which the node is found may be another one that shows it
  obtain ⟨s, hs, hsn⟩ := (findRow_eq_some_iff.mp hi).1
  obtain ⟨hresult, hnodes, hexpansion⟩ := expand_of_row_eq_ok hs
  rw [hsn] at hresult hexpansion
  refine ⟨(v.expand i).state, hv.step (.act .expand i), hnodes, hexpansion, sublist_expand hv i,
    fun gs => ?_⟩
  simp only [expandEach, hi, hresult]

/-- **Nodes that are shown are all expanded**, one after the other, as if at once. -/
theorem Reachable.expandEach_eq_some (hv : v.Reachable) (h : ∀ g ∈ gs, ∃ r ∈ v.rows, r.node = g) :
    ∃ w : View, v.expandEach gs = some w ∧ w.Reachable ∧ w.nodes = v.nodes ∧
      w.expansion = (v.expansion.expandList gs).2 := by
  induction gs generalizing v with
  | nil => exact ⟨v, rfl, hv, rfl, rfl⟩
  | cons g gs ih =>
    rw [List.forall_mem_cons] at h
    obtain ⟨u, hu, hnodes, hexpansion, hrows, hnext⟩ := hv.expandEach_cons h.1
    have hshown : ∀ f ∈ gs, ∃ r ∈ u.rows, r.node = f := by
      intro f hf
      obtain ⟨r, hr, hrf⟩ := h.2 f hf
      exact ⟨r, hrows.subset hr, hrf⟩
    obtain ⟨w, hw, hreach, hwnodes, hwexpansion⟩ := ih hu hshown
    refine ⟨w, (hnext gs).trans hw, hreach, hwnodes.trans hnodes, ?_⟩
    rw [hwexpansion, hexpansion, Expansion.expandList_cons]

end View

/-- **Expansions commute with each other and with replacing the forest.** In a reachable view:

* Take a list of groups all of which are shown, be some of them equal or nested in others. Expanded
  one after the other, each is found, and so they are in any other order. Either way the forest is
  the same, the expansion holds what it held and the groups of the list, and the rows are the same.
* Let a node be shown, and be shown also when the forest is replaced by another. Expanding it and
  then replacing the forest gives the same answer, forest, expansion and rows as replacing the
  forest and then expanding it, at whatever rows that show it. -/
theorem expansions_commute {v : View} (hv : v.Reachable) :
    (∀ gs hs : List Node, gs.Perm hs →
      (∀ g ∈ gs, g.isGroup = true ∧ ∃ r ∈ v.rows, r.node = g) →
        ∃ w u : View, v.expandEach gs = some w ∧ v.expandEach hs = some u ∧
          (w.nodes = v.nodes ∧ u.nodes = v.nodes) ∧
          (∀ n, n ∈ w.expansion ↔ n ∈ v.expansion ∨ n ∈ gs) ∧
          w.expansion.sameAs u.expansion = true ∧ w.rows = u.rows) ∧
    ∀ (g : Node) (ns : List Node) (i j : Nat) (r s : Row),
      v.row i = .ok r → r.node = g → (v.replace ns).state.row j = .ok s → s.node = g →
        let expanded := v.expand i
        let replaced := (v.replace ns).state.expand j
        let w := (expanded.state.replace ns).state
        expanded.result = replaced.result ∧ w.nodes = replaced.state.nodes ∧
          w.expansion = replaced.state.expansion ∧ w.rows = replaced.state.rows := by
  refine ⟨fun gs hs hperm h => ?_, fun g ns i j r s hr hrg hs hsg => ?_⟩
  · have hshown : ∀ g ∈ gs, ∃ r ∈ v.rows, r.node = g := fun g hg => (h g hg).2
    obtain ⟨w, hw, hwreach, hwnodes, hwexpansion⟩ := hv.expandEach_eq_some hshown
    obtain ⟨u, hu, hureach, hunodes, huexpansion⟩ :=
      hv.expandEach_eq_some fun g hg => hshown g (hperm.mem_iff.mpr hg)
    have hmem : ∀ n, n ∈ w.expansion ↔ n ∈ v.expansion ∨ n ∈ gs := by
      intro n
      rw [hwexpansion, Expansion.mem_expandList]
      exact or_congr_right ⟨And.right, fun hn => ⟨(h n hn).1, hn⟩⟩
    have hsame : ∀ n, n ∈ w.expansion ↔ n ∈ u.expansion := by
      intro n
      rw [hwexpansion, huexpansion, Expansion.mem_expandList, Expansion.mem_expandList,
        hperm.mem_iff]
    refine ⟨w, u, hw, hu, ⟨hwnodes, hunodes⟩, hmem, Expansion.sameAs_iff.mpr hsame, ?_⟩
    rw [hwreach.coherent.rows, hureach.coherent.rows, hwnodes, hunodes]
    exact flatten_congr fun n _ => hsame n
  · intro expanded replaced w
    obtain ⟨hresult, -, hexpansion⟩ := View.expand_of_row_eq_ok hr
    obtain ⟨hresult', hnodes', hexpansion'⟩ := View.expand_of_row_eq_ok hs
    rw [hrg] at hresult hexpansion
    rw [hsg] at hresult' hexpansion'
    have hnodes : w.nodes = replaced.state.nodes := hnodes'.symm
    have hmembers : w.expansion = replaced.state.expansion := hexpansion.trans hexpansion'.symm
    have hreplaced : replaced.state.Reachable := (hv.step (.replace ns)).step (.act .expand j)
    refine ⟨hresult.trans hresult'.symm, hnodes, hmembers, ?_⟩
    rw [hreplaced.coherent.rows, ← hnodes, ← hmembers]
    rfl

/-- The group `g` is shown in the expanded group `h` and behind it. Expanding it, the group `f` and
`h` gives the same rows in either order, also with `g` named twice; a forest with `f` and `g` alone
can be put in their place before or after `g` is expanded. -/
theorem expansions_commute_nested :
    let c := Node.leaf "c" none
    let g := Node.group "g" none [c]
    let h := Node.group "h" none [g]
    let f := Node.group "f" none [c, c]
    let v := View.ofExpansion [h, g, f] (.ofList [h])
    v.rows = [⟨h, 0⟩, ⟨g, 1⟩, ⟨g, 0⟩, ⟨f, 0⟩] ∧
      (∃ w u : View, v.expandEach [g, f, g, h] = some w ∧ v.expandEach [h, f, g, g] = some u ∧
        w.rows = u.rows ∧ f ∈ w.expansion) ∧
      ((v.expand 2).state.replace [f, g]).state.rows =
        ((v.replace [f, g]).state.expand 1).state.rows := by
  intro c g h f v
  have hv : v.Reachable := .fresh [h, g, f] [h]
  obtain ⟨hperm, hreplace⟩ := expansions_commute hv
  obtain ⟨w, u, hw, hu, -, hmem, -, hrows⟩ :=
    hperm [g, f, g, h] [h, f, g, g] (by decide) (by decide)
  exact ⟨by decide, ⟨w, u, hw, hu, hrows, (hmem f).mpr (.inr (by decide))⟩,
    (hreplace g [f, g] 2 1 ⟨g, 0⟩ ⟨g, 0⟩ rfl rfl rfl rfl).2.2.2⟩

end Outline
