import Mathlib.Data.Finset.Card
import Outline.Run
import Outline.Proofs.Splice

/-!
# Expanding by name

A row offers itself for a name when it shows a collapsed group of this name (`Row.Offers`).
`Table.expandNamed` expands at the first row that does, and there the expansion always succeeds
(`Table.expandNamed_cases`). So each call that answers yes takes one group away from those of the
name that are still collapsed (`Expansion.card_collapsed_expand`), and there are only so many: calls
with the same name answer yes for a while and no from then on (`Table.Reachable.exists_calls`).

A call may show new rows that offer themselves, in front of others that did. This does not matter
for the count, since it is taken over the forest and not over the rows.
-/

namespace Outline

open Outcome (runFrom stateAfter)

/-! ### Rows that offer themselves -/

/-- Whether a row shows a collapsed group of a name. -/
def Row.Offers (k : Expansion) (name : String) (r : Row) : Prop :=
  r.node.isGroup = true ∧ r.node.name = name ∧ r.node ∉ k

instance (k : Expansion) (name : String) (r : Row) : Decidable (r.Offers k name) :=
  inferInstanceAs (Decidable (_ ∧ _ ∧ _))

namespace Table

variable {t : Table} {name : String} {i : Nat} {r : Row}

/-- Expanding at a row that offers itself succeeds, and adds the group to the expansion. -/
theorem expand_of_offers (hr : t.view.row i = .ok r) (ho : r.Offers t.view.expansion name) :
    (t.expand i).result = .ok true ∧ (t.expand i).state.view.nodes = t.view.nodes ∧
      (t.expand i).state.view.expansion = (t.view.expansion.expand r.node).2 := by
  have hflag : (t.view.expansion.expand r.node).1 = true := by
    rw [Expansion.expand_changed, ho.1, Expansion.contains_eq_false.mpr ho.2.2]
    rfl
  have happly : Verb.expand.apply t.view.expansion r.node =
      (true, (t.view.expansion.expand r.node).2) := Prod.ext hflag rfl
  obtain ⟨hresult, hstate⟩ := View.act_of_apply_eq_true hr happly
  rw [expand, act, result_follow, view_follow, hstate]
  exact ⟨hresult, rfl, rfl⟩

/-- **A call expands at the first row that offers itself**, and this succeeds; if there is no such
row, it does nothing. -/
theorem expandNamed_cases (t : Table) (name : String) :
    (∀ r ∈ t.view.rows, ¬ r.Offers t.view.expansion name) ∧ t.expandNamed name = ⟨false, t, []⟩ ∨
    ∃ i r, t.view.row i = .ok r ∧ r.Offers t.view.expansion name ∧
      (∀ j < i, ∀ s, t.view.row j = .ok s → ¬ s.Offers t.view.expansion name) ∧
      (t.expand i).result = .ok true ∧
      t.expandNamed name = ⟨true, (t.expand i).state, (t.expand i).events⟩ := by
  have hhit (r : Row) : (r.node.isGroup && r.node.name == name &&
      !t.view.expansion.contains r.node) = true ↔ r.Offers t.view.expansion name := by
    simp [Row.Offers, and_assoc]
  rw [expandNamed]
  split
  · next i hfind =>
    obtain ⟨hi, hoffers, hbefore⟩ := List.findIdx?_eq_some_iff_getElem.mp hfind
    have ho : t.view.rows[i].Offers t.view.expansion name := (hhit _).mp hoffers
    have hr : t.view.row i = .ok t.view.rows[i] :=
      View.row_eq_ok_iff.mpr (List.getElem?_eq_getElem hi)
    have hresult := (expand_of_offers hr ho).1
    refine .inr ⟨i, t.view.rows[i], hr, ho, fun j hj s hs hso => ?_, hresult, ?_⟩
    · obtain ⟨_, rfl⟩ := List.getElem?_eq_some_iff.mp (View.row_eq_ok_iff.mp hs)
      exact hbefore j hj ((hhit _).mpr hso)
    · simp only [hresult, didChange]
  · next hfind =>
    refine .inl ⟨fun r hr ho => ?_, rfl⟩
    exact Bool.false_ne_true ((List.findIdx?_eq_none_iff.mp hfind r hr).symm.trans ((hhit r).mpr ho))

/-- A node that the first row to offer itself shows is shown by no row before it. -/
theorem findRow_of_first_offers (hr : t.view.row i = .ok r) (ho : r.Offers t.view.expansion name)
    (hfirst : ∀ j < i, ∀ s, t.view.row j = .ok s → ¬ s.Offers t.view.expansion name) :
    t.view.findRow r.node = some i := by
  refine View.findRow_eq_some_iff.mpr ⟨⟨r, hr, rfl⟩, fun j hj s hs hsr => hfirst j hj s hs ?_⟩
  rw [Row.Offers, hsr]
  exact ho

/-- Expanding at the first row that offers itself adds its group to the expansion and nothing else,
and touches no row up to this one. -/
theorem Reachable.expand_of_first_offers (ht : t.Reachable) (hr : t.view.row i = .ok r)
    (ho : r.Offers t.view.expansion name)
    (hfirst : ∀ j < i, ∀ s, t.view.row j = .ok s → ¬ s.Offers t.view.expansion name) :
    (∀ n, n ∈ (t.expand i).state.view.expansion ↔ n ∈ t.view.expansion ∨ n = r.node) ∧
      (t.expand i).state.view.rows.take (i + 1) = t.view.rows.take (i + 1) := by
  refine ⟨fun n => ?_, ?_⟩
  · rw [(expand_of_offers hr ho).2.2, Expansion.mem_expand]
    simp only [ho.1, true_and]
  · rw [expand, act, view_follow]
    exact View.take_rows_act ht.view hr .expand (findRow_of_first_offers hr ho hfirst)

end Table

/-! ### The groups that are left -/

/-- The groups of a name that occur in a forest, at any depth. -/
def Node.groupsNamed (name : String) (ns : List Node) : Finset Node :=
  {n ∈ (walkAll ns).toFinset | n.isGroup = true ∧ n.name = name}

/-- Those of them that are collapsed, shown or not. -/
def Expansion.collapsed (k : Expansion) (name : String) (ns : List Node) : Finset Node :=
  {n ∈ Node.groupsNamed name ns | n ∉ k}

namespace Expansion

variable {k : Expansion} {name : String} {ns : List Node} {n : Node}

theorem mem_collapsed :
    n ∈ k.collapsed name ns ↔
      n ∈ Node.walkAll ns ∧ (n.isGroup = true ∧ n.name = name) ∧ n ∉ k := by
  simp only [collapsed, Node.groupsNamed, Finset.mem_filter, List.mem_toFinset, and_assoc]

theorem card_collapsed_le (k : Expansion) (name : String) (ns : List Node) :
    (k.collapsed name ns).card ≤ (Node.groupsNamed name ns).card :=
  Finset.card_le_card (Finset.filter_subset _ _)

/-- **Expanding a collapsed group leaves one less.** -/
theorem card_collapsed_expand (hn : n ∈ k.collapsed name ns) :
    ((k.expand n).2.collapsed name ns).card + 1 = (k.collapsed name ns).card := by
  have hg : n.isGroup = true := (mem_collapsed.mp hn).2.1.1
  have herase : (k.expand n).2.collapsed name ns = (k.collapsed name ns).erase n := by
    ext m
    rw [Finset.mem_erase, mem_collapsed, mem_collapsed, mem_expand]
    simp only [hg, true_and, not_or]
    tauto
  rw [herase, Finset.card_erase_add_one hn]

end Expansion

/-- A group that a row offers is one of those that are left. -/
theorem View.Coherent.mem_collapsed {v : View} (hv : v.Coherent) {i : Nat} {r : Row} {name : String}
    (hr : v.row i = .ok r) (ho : r.Offers v.expansion name) :
    r.node ∈ v.expansion.collapsed name v.nodes := by
  have hmem : r ∈ flatten v.nodes v.expansion :=
    hv.rows ▸ List.mem_of_getElem? (row_eq_ok_iff.mp hr)
  exact Expansion.mem_collapsed.mpr ⟨mem_walkAll_of_mem_flattenAt hmem, ⟨ho.1, ho.2.1⟩, ho.2.2⟩

/-! ### Calls one after the other -/

namespace Table

variable {t : Table} {name : String}

/-- A call that does nothing does nothing however often it is made. -/
theorem calls_of_idle (h : t.expandNamed name = ⟨false, t, []⟩) (count : Nat) :
    (runFrom expandNamed t (List.replicate count name)).map Outcome.result =
        List.replicate count false ∧
      stateAfter expandNamed t (List.replicate count name) = t := by
  induction count with
  | zero => exact ⟨rfl, rfl⟩
  | succ count ih =>
    rw [List.replicate_succ, runFrom, List.map_cons, h, ih.1, stateAfter, List.foldl_cons, h]
    exact ⟨rfl, ih.2⟩

/-- **Calls with the same name answer yes for a while and no from then on.** They answer yes at most
as often as there are groups of this name left, and once they answer no, all groups of this name
that are shown are expanded. -/
theorem Reachable.exists_calls (ht : t.Reachable) (name : String) :
    ∃ m ≤ (t.view.expansion.collapsed name t.view.nodes).card, ∀ count,
      (runFrom expandNamed t (List.replicate count name)).map Outcome.result =
          List.replicate (min m count) true ++ List.replicate (count - m) false ∧
        (m ≤ count → ∀ r ∈ (stateAfter expandNamed t (List.replicate count name)).view.rows,
          ¬ r.Offers (stateAfter expandNamed t (List.replicate count name)).view.expansion name) := by
  induction hleft : (t.view.expansion.collapsed name t.view.nodes).card
    using Nat.strong_induction_on generalizing t with
  | _ left ih =>
    rcases t.expandNamed_cases name with ⟨hnone, hidle⟩ | ⟨i, r, hr, ho, -, -, hcall⟩
    · refine ⟨0, Nat.zero_le _, fun count => ?_⟩
      obtain ⟨hresults, hstate⟩ := calls_of_idle hidle count
      rw [hresults, hstate]
      exact ⟨by simp, fun _ => hnone⟩
    · obtain ⟨-, hnodes, hexpansion⟩ := expand_of_offers hr ho
      have hnext : (t.expand i).state.Reachable := ht.step (.view (.act .expand i))
      have hless : ((t.expand i).state.view.expansion.collapsed name
          (t.expand i).state.view.nodes).card + 1 = left := by
        rw [hnodes, hexpansion, ← hleft]
        exact Expansion.card_collapsed_expand (ht.view.coherent.mem_collapsed hr ho)
      obtain ⟨m, hm, hcalls⟩ := ih _ (by omega) hnext rfl
      refine ⟨m + 1, by omega, fun count => ?_⟩
      cases count with
      | zero => exact ⟨by simp [runFrom], fun h => absurd h (Nat.not_succ_le_zero m)⟩
      | succ count =>
        obtain ⟨hresults, hdone⟩ := hcalls count
        rw [List.replicate_succ, runFrom, List.map_cons, hcall, hresults, stateAfter,
          List.foldl_cons, hcall]
        refine ⟨?_, fun h => hdone (Nat.le_of_succ_le_succ h)⟩
        rw [Nat.succ_min_succ, Nat.add_sub_add_right, List.replicate_succ, List.cons_append]

end Table

/-- The names of a command line are expanded by calls one after the other. -/
theorem Run.expandNames_eq_stateAfter (t : Table) (names : List String) :
    (expandNames t names).1 = stateAfter Table.expandNamed t names := by
  induction names generalizing t with
  | nil => rfl
  | cons name names ih =>
    rw [expandNames, ih]
    rfl

/-- The names of a command line that are all the same are such calls. -/
theorem Table.Reachable.calls_by_name {t : Table} (ht : t.Reachable) (name : String) :
    ∃ m ≤ (Node.groupsNamed name t.view.nodes).card, ∀ count,
      let names := List.replicate count name
      let last := stateAfter Table.expandNamed t names
      (runFrom Table.expandNamed t names).map Outcome.result =
          List.replicate (min m count) true ++ List.replicate (count - m) false ∧
        (m ≤ count → ∀ r ∈ last.view.rows, r.node.isGroup = true → r.node.name = name →
          r.node ∈ last.view.expansion) ∧
        (Run.expandNames t names).1 = last := by
  obtain ⟨m, hm, hcalls⟩ := ht.exists_calls name
  refine ⟨m, hm.trans (Expansion.card_collapsed_le _ _ _), fun count => ?_⟩
  obtain ⟨hresults, hdone⟩ := hcalls count
  refine ⟨hresults, fun h r hr hg hn => ?_, Run.expandNames_eq_stateAfter t _⟩
  by_contra hk
  exact hdone h r hr ⟨hg, hn, hk⟩

/-- **Expanding by name.** In a reachable table, for any name:

* The answer is yes exactly when some row shows a collapsed group of this name.
* If it is yes, the first such row was expanded, which succeeded and changed something. The group of
  this row, which was not in the expansion, is now, and nothing else in the expansion changed; nor
  did the forest, nor any row up to this one.
* If it is no, nothing changed at all.
* Calls with the same name answer yes for a while and no ever after. They answer yes at most as
  often as there are different groups of this name in the forest, and from the first no on every
  group of this name that is shown is expanded. The names given on a command line are such calls. -/
theorem expandNamed_answers {t : Table} (ht : t.Reachable) (name : String) :
    let o := t.expandNamed name
    (o.result = true ↔ ∃ r ∈ t.view.rows,
      r.node.isGroup = true ∧ r.node.name = name ∧ r.node ∉ t.view.expansion) ∧
    (o.result = true → ∃ i r, t.view.row i = .ok r ∧ r.Offers t.view.expansion name ∧
      (∀ j < i, ∀ s, t.view.row j = .ok s → ¬ s.Offers t.view.expansion name) ∧
      (t.expand i).result = .ok true ∧ o.state = (t.expand i).state ∧
      o.events = (t.expand i).events ∧
      (∀ n, n ∈ o.state.view.expansion ↔ n ∈ t.view.expansion ∨ n = r.node) ∧
      o.state.view.nodes = t.view.nodes ∧
      o.state.view.rows.take (i + 1) = t.view.rows.take (i + 1)) ∧
    (o.result = false → o.state = t ∧ o.events = []) ∧
    ∃ m ≤ (Node.groupsNamed name t.view.nodes).card, ∀ count,
      let names := List.replicate count name
      let last := stateAfter Table.expandNamed t names
      (runFrom Table.expandNamed t names).map Outcome.result =
          List.replicate (min m count) true ++ List.replicate (count - m) false ∧
        (m ≤ count → ∀ r ∈ last.view.rows, r.node.isGroup = true → r.node.name = name →
          r.node ∈ last.view.expansion) ∧
        (Run.expandNames t names).1 = last := by
  intro o
  rcases t.expandNamed_cases name with ⟨hnone, hcall⟩ | ⟨i, r, hr, ho, hfirst, hresult, hcall⟩
  · have hidle : o = ⟨false, t, []⟩ := hcall
    rw [hidle]
    exact ⟨⟨fun h => absurd h Bool.false_ne_true, fun ⟨r, hr, ho⟩ => absurd ho (hnone r hr)⟩,
      fun h => absurd h Bool.false_ne_true, fun _ => ⟨rfl, rfl⟩, ht.calls_by_name name⟩
  · have hexpanded : o = ⟨true, (t.expand i).state, (t.expand i).events⟩ := hcall
    rw [hexpanded]
    obtain ⟨hmem, hrows⟩ := ht.expand_of_first_offers hr ho hfirst
    have hshown : r ∈ t.view.rows := List.mem_of_getElem? (View.row_eq_ok_iff.mp hr)
    exact ⟨⟨fun _ => ⟨r, hshown, ho⟩, fun _ => rfl⟩,
      fun _ => ⟨i, r, hr, ho, hfirst, hresult, rfl, rfl, hmem, (Table.expand_of_offers hr ho).2.1,
        hrows⟩,
      fun h => absurd h.symm Bool.false_ne_true, ht.calls_by_name name⟩

/-- The group `g` stands in another group of the same name and behind it. The first call expands the
outer one, and so the next row that offers itself is the one within it; the second call expands `g`
there and behind. More calls find nothing: of this name the forest has two groups. -/
theorem expandNamed_answers_nested :
    let c := Node.leaf "g" none
    let g := Node.group "g" none [c]
    let h := Node.group "g" none [g]
    let t := Table.ofNodes [c, h, g]
    let u := (t.expandNamed "g").state
    t.Reachable ∧ (t.expandNamed "g").result = true ∧ u.view.rows.take 2 = t.view.rows.take 2 ∧
      (∀ n, n ∈ u.view.expansion ↔ n ∈ t.view.expansion ∨ n = h) ∧
      (runFrom Table.expandNamed t ["g", "g", "g", "g"]).map Outcome.result =
        [true, true, false, false] ∧
      ∃ m ≤ 2, ∀ count, m ≤ count →
        ∀ r ∈ (Run.expandNames t (List.replicate count "g")).1.view.rows, r.node.isGroup = true →
          r.node.name = "g" →
            r.node ∈ (Run.expandNames t (List.replicate count "g")).1.view.expansion := by
  intro c g h t u
  have ht : t.Reachable := .ofNodes [c, h, g]
  obtain ⟨hyes, hfound, -, m, hm, hcalls⟩ := expandNamed_answers ht "g"
  have hresult : (t.expandNamed "g").result = true := hyes.mpr ⟨⟨h, 0⟩, by decide, by decide⟩
  have hcard : (Node.groupsNamed "g" t.view.nodes).card = 2 := by decide
  obtain ⟨i, r, hr, ho, hfirst, -, -, -, hmem, -, hrows⟩ := hfound hresult
  -- the leaf does not offer itself, so the first row that does is that of the outer group
  obtain rfl : i = 1 := by
    rcases i with _ | _ | i
    · cases hr
      exact absurd ho.1 Bool.false_ne_true
    · rfl
    · exact absurd (by decide) (hfirst 1 (by omega) ⟨h, 0⟩ rfl)
  cases hr
  refine ⟨ht, hresult, hrows, hmem, by decide, m, hcard ▸ hm, fun count hcount => ?_⟩
  rw [(hcalls count).2.2]
  exact (hcalls count).2.1 hcount

end Outline
