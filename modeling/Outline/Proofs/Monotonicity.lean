import Mathlib.Data.List.Sort
import Outline.Proofs.Rebuilding
import Outline.Proofs.Visibility

/-!
# More expanded, more shown

What is shown grows with the expansion. For positions this can be read off their definition, since
a position is shown when all that it stands below is expanded (`Shown.of_subset`). The shown
positions are listed in one order, whatever is expanded, so they grow as lists do
(`shownPositions_sublist`), and the rows with them (`placedRows_sublist`). Positions tell rows apart
that show equal nodes: it is the same row that stays, and not another like it.

So an operation on the expansion goes one of two ways (`Direction`): it adds groups and hides no
row, or takes groups away and reveals none. `View.step_moved` says so of one command, and
`View.moved_stateAfter` of a run of commands that all go the same way.
-/

namespace Outline

open Node (at?)
open Outcome (stateAfter)

variable {j k : Expansion} {ns : List Node} {p : List Nat}

/-! ### Positions -/

theorem Shown.of_subset (h : Shown j ns p) (hk : ∀ n ∈ j, n ∈ k) : Shown k ns p := by
  refine ⟨h.exists_node, fun q hq hne hne' => ?_⟩
  obtain ⟨m, hm, hj⟩ := h.expanded q hq hne hne'
  exact ⟨m, hm, hk m hj⟩

theorem nodup_shownPositions (k : Expansion) (ns : List Node) : (shownPositions k ns).Nodup := by
  refine (pairwise_shownPositions k ns).imp ?_
  rintro p q hpq rfl
  exact List.lt_irrefl p hpq

/-- **More positions are shown when more is expanded**, and the others stay in their order. -/
theorem shownPositions_sublist (hk : ∀ n ∈ j, n ∈ k) :
    (shownPositions j ns).Sublist (shownPositions k ns) := by
  have hsubset : shownPositions j ns ⊆ shownPositions k ns := fun p hp =>
    mem_shownPositions.mpr ((mem_shownPositions.mp hp).of_subset hk)
  have hsubperm := List.subperm_of_subset (nodup_shownPositions j ns) hsubset
  exact List.sublist_of_subperm_of_pairwise hsubperm (pairwise_shownPositions j ns)
    (pairwise_shownPositions k ns)

/-! ### Rows at their positions -/

/-- The rows of a forest, each next to the position of the node that it shows. -/
def placedRows (ns : List Node) (k : Expansion) : List (List Nat × Row) :=
  (shownPositions k ns).zip (flatten ns k)

/-- The row of the node at a position, next to the position. -/
def placedRow? (ns : List Node) (p : List Nat) : Option (List Nat × Row) :=
  (at? ns p).map fun n => (p, ⟨n, p.length - 1⟩)

/-- The row at a shown position does not depend on what is expanded. -/
theorem placedRows_eq_filterMap (ns : List Node) (k : Expansion) :
    placedRows ns k = (shownPositions k ns).filterMap (placedRow? ns) := by
  have hrows := forall₂_flattenAt k 0 ns
  rw [placedRows, flatten]
  generalize shownPositions k ns = ps, flattenAt k 0 ns = rows at hrows ⊢
  induction hrows with
  | nil => rfl
  | @cons p r ps rows h _ ih =>
    have hrow : placedRow? ns p = some (p, r) := by
      have hdepth : p.length - 1 = r.depth := by omega
      rw [placedRow?, h.1, Option.map_some, hdepth]
    rw [List.zip_cons_cons, ih, List.filterMap_cons_some hrow]

theorem map_snd_placedRows (ns : List Node) (k : Expansion) :
    (placedRows ns k).map Prod.snd = flatten ns k :=
  List.map_snd_zip (forall₂_flattenAt k 0 ns).length_eq.ge

/-- **The rows that are shown stay**, at their positions and in their order, when more is
expanded. -/
theorem placedRows_sublist (hk : ∀ n ∈ j, n ∈ k) :
    (placedRows ns j).Sublist (placedRows ns k) := by
  rw [placedRows_eq_filterMap, placedRows_eq_filterMap]
  exact (shownPositions_sublist hk).filterMap _

/-! ### Views that show more -/

namespace View

variable {v w : View}

/-- Both views are of one forest, and the other shows all the rows that this one shows, in the same
order, the same positions among them. -/
structure Within (v w : View) : Prop where
  nodes : v.nodes = w.nodes
  rows : v.rows.Sublist w.rows
  placed : (placedRows v.nodes v.expansion).Sublist (placedRows w.nodes w.expansion)

theorem Within.refl (v : View) : v.Within v := ⟨rfl, .refl _, .refl _⟩

theorem Within.trans {u : View} (h : u.Within v) (h' : v.Within w) : u.Within w :=
  ⟨h.nodes.trans h'.nodes, h.rows.trans h'.rows, h.placed.trans h'.placed⟩

theorem Coherent.within (hv : v.Coherent) (hw : w.Coherent) (hnodes : v.nodes = w.nodes)
    (hk : ∀ n ∈ v.expansion, n ∈ w.expansion) : v.Within w := by
  have hplaced : (placedRows v.nodes v.expansion).Sublist (placedRows w.nodes w.expansion) := by
    rw [hnodes]
    exact placedRows_sublist hk
  refine ⟨hnodes, ?_, hplaced⟩
  rw [hv.rows, hw.rows, ← map_snd_placedRows, ← map_snd_placedRows]
  exact hplaced.map Prod.snd

end View

/-! ### Two ways to go -/

/-- The two ways in which an operation may change what is expanded. -/
inductive Direction where
  /-- Groups are added. -/
  | wider
  /-- Groups are taken away. -/
  | narrower
deriving DecidableEq

/-- Which way a verb goes at a node. -/
def Verb.direction (k : Expansion) (n : Node) : Verb → Direction
  | expand => .wider
  | collapse => .narrower
  | toggle => if n ∈ k then .narrower else .wider

/-- Whether the second expansion is reached from the first in a direction. -/
def Expansion.Moved (j k : Expansion) : Direction → Prop
  | .wider => ∀ n ∈ j, n ∈ k
  | .narrower => ∀ n ∈ k, n ∈ j

theorem Expansion.moved_refl (k : Expansion) (d : Direction) : k.Moved k d := by
  cases d <;> exact fun _ hn => hn

theorem Verb.moved_apply (verb : Verb) (k : Expansion) (n : Node) :
    k.Moved (verb.apply k n).2 (verb.direction k n) := by
  cases verb with
  | expand => exact fun m hm => Expansion.mem_expand.mpr (.inl hm)
  | collapse => exact fun m hm => (Expansion.mem_collapse.mp hm).1
  | toggle =>
    rw [direction, apply]
    by_cases hn : n ∈ k
    · rw [if_pos hn]
      intro m hm
      rw [Expansion.mem_toggle, if_pos hn] at hm
      exact hm.1
    · rw [if_neg hn]
      intro m hm
      rw [Expansion.mem_toggle, if_neg hn]
      exact .inl hm

namespace View

variable {v w : View} {c : Command} {d : Direction}

/-- Whether a command goes in a direction or changes nothing that is shown. A replacement of the
forest goes neither way. -/
def keepsTo (v : View) (d : Direction) : Command → Bool
  | .act verb i =>
    match v.row i with
    | .ok r => verb.direction v.expansion r.node = d
    | .error _ => true
  | .expandAll => d = .wider
  | .collapseAll => d = .narrower
  | .replace _ => false
  | .listen _ => true
  | .unlisten _ => true

/-- Whether each command of a run goes in a direction, in the view that it is given to. -/
def runKeepsTo (v : View) (d : Direction) : List Command → Bool
  | [] => true
  | c :: cs => v.keepsTo d c && (v.step c).state.runKeepsTo d cs

/-- What is shown after a move in a direction, against what was shown before. -/
def Moved (v w : View) : Direction → Prop
  | .wider => v.Within w
  | .narrower => w.Within v

theorem Moved.refl (v : View) (d : Direction) : v.Moved v d := by
  cases d <;> exact Within.refl v

theorem Moved.trans {u : View} (h : u.Moved v d) (h' : v.Moved w d) : u.Moved w d := by
  cases d with
  | wider => exact Within.trans h h'
  | narrower => exact Within.trans h' h

theorem Coherent.moved (hv : v.Coherent) (hw : w.Coherent) (hnodes : v.nodes = w.nodes)
    (hk : v.expansion.Moved w.expansion d) : v.Moved w d := by
  cases d with
  | wider => exact hv.within hw hnodes hk
  | narrower => exact hw.within hv hnodes.symm hk

/-- **A command that goes in a direction moves the view there.** -/
theorem step_moved (hv : v.Reachable) (hc : v.keepsTo d c = true) : v.Moved (v.step c).state d := by
  -- the rows follow the expansion, so it is enough to know what becomes of this and of the forest
  suffices h : v.nodes = (v.step c).state.nodes ∧
      v.expansion.Moved (v.step c).state.expansion d from
    hv.coherent.moved (hv.step c).coherent h.1 h.2
  cases c with
  | act verb i =>
    rw [step, Outcome.state_map]
    cases hr : v.row i with
    | error e =>
      rw [act_of_row_eq_error hr]
      exact ⟨rfl, v.expansion.moved_refl d⟩
    | ok r =>
      obtain rfl : verb.direction v.expansion r.node = d := by simpa [keepsTo, hr] using hc
      simp only [act_of_row_eq_ok hr, nodes_adopt, expansion_adopt, true_and]
      exact verb.moved_apply v.expansion r.node
  | expandAll =>
    obtain rfl : d = .wider := of_decide_eq_true hc
    simp only [step, Outcome.state_map, expandAll, nodes_adopt, expansion_adopt, true_and]
    exact fun n hn => Expansion.mem_expandList.mpr (.inl hn)
  | collapseAll =>
    obtain rfl : d = .narrower := of_decide_eq_true hc
    simp only [step, Outcome.state_map, collapseAll, nodes_adopt, expansion_adopt, true_and]
    exact fun n hn => absurd hn Expansion.mem_clear
  | replace nodes => exact absurd hc (by simp [keepsTo])
  | listen tag => exact ⟨rfl, v.expansion.moved_refl d⟩
  | unlisten id => exact ⟨rfl, v.expansion.moved_refl d⟩

/-- An operation at a row goes the way that its verb goes at the node shown there, if a node is. -/
theorem act_moved (hv : v.Reachable) {verb : Verb} {i : Nat}
    (h : ∀ r, v.row i = .ok r → verb.direction v.expansion r.node = d) :
    v.Moved (v.act verb i).state d := by
  refine step_moved (c := .act verb i) hv ?_
  rw [keepsTo]
  split
  · next r hr => exact decide_eq_true (h r hr)
  · rfl

/-- **A run that goes in one direction moves the view there.** -/
theorem moved_stateAfter (hv : v.Reachable) {cs : List Command} (hcs : v.runKeepsTo d cs = true) :
    v.Moved (stateAfter step v cs) d := by
  induction cs generalizing v with
  | nil => exact .refl v d
  | cons c cs ih =>
    rw [runKeepsTo, Bool.and_eq_true] at hcs
    exact (step_moved hv hcs.1).trans (ih (hv.step c) hcs.2)

end View

/-- **More expanded, more shown.**

* Let one expansion have all the members of another. Of any forest it shows every row that the other
  shows, the same nodes at the same depths and in the same order, and even the same positions.
* Take any reachable view and any row index, a refused one included. Expanding at the row, expanding
  everything and toggling a group that is collapsed hide no row and change the order of none.
  Collapsing at the row, collapsing everything and toggling a group that is expanded reveal no row,
  and change the order of none either.
* The same holds of whole runs of such operations, with any coming and going of listeners among
  them. -/
theorem more_expanded_more_shown :
    (∀ (ns : List Node) (j k : Expansion), (∀ n ∈ j, n ∈ k) →
      (flatten ns j).Sublist (flatten ns k) ∧ (placedRows ns j).Sublist (placedRows ns k)) ∧
    ∀ v : View, v.Reachable →
      ((∀ i, v.Within (v.expand i).state) ∧ v.Within v.expandAll.state ∧
        ∀ i r, v.row i = .ok r → r.node ∉ v.expansion → v.Within (v.toggle i).state) ∧
      ((∀ i, (v.collapse i).state.Within v) ∧ v.collapseAll.state.Within v ∧
        ∀ i r, v.row i = .ok r → r.node ∈ v.expansion → (v.toggle i).state.Within v) ∧
      (∀ cs, v.runKeepsTo .wider cs = true → v.Within (stateAfter View.step v cs)) ∧
      ∀ cs, v.runKeepsTo .narrower cs = true → (stateAfter View.step v cs).Within v := by
  refine ⟨fun ns j k hk => ⟨flattenAt_sublist hk, placedRows_sublist hk⟩,
    fun v hv => ⟨⟨?_, ?_, ?_⟩, ⟨?_, ?_, ?_⟩, ?_, ?_⟩⟩
  · exact fun i => View.act_moved (d := .wider) hv fun _ _ => rfl
  · exact View.step_moved (d := .wider) (c := .expandAll) hv rfl
  · intro i r hr hn
    refine View.act_moved (d := .wider) hv fun s hs => ?_
    obtain rfl : r = s := Except.ok.inj (hr.symm.trans hs)
    exact if_neg hn
  · exact fun i => View.act_moved (d := .narrower) hv fun _ _ => rfl
  · exact View.step_moved (d := .narrower) (c := .collapseAll) hv rfl
  · intro i r hr hn
    refine View.act_moved (d := .narrower) hv fun s hs => ?_
    obtain rfl : r = s := Except.ok.inj (hr.symm.trans hs)
    exact if_pos hn
  · exact fun cs => View.moved_stateAfter (d := .wider) hv
  · exact fun cs => View.moved_stateAfter (d := .narrower) hv

/-- The group `g` is shown in the group `h` and behind it. Expanding `h` and one `g` shows the leaf
below both, beside all that was shown; the first `g` takes its place before the second. Collapsing
`h` and what is left leads back, and reveals nothing on the way. -/
theorem more_expanded_more_shown_nested :
    let c := Node.leaf "c" none
    let g := Node.group "g" none [c]
    let h := Node.group "h" none [g]
    let v := View.ofNodes [h, g]
    let w := stateAfter View.step v [.act .toggle 0, .act .expand 2, .act .expand 9, .listen "t"]
    let u := stateAfter View.step w [.act .collapse 0, .act .toggle 1, .collapseAll]
    placedRows v.nodes v.expansion = [([0], ⟨h, 0⟩), ([1], ⟨g, 0⟩)] ∧
      placedRows w.nodes w.expansion =
        [([0], ⟨h, 0⟩), ([0, 0], ⟨g, 1⟩), ([0, 0, 0], ⟨c, 2⟩), ([1], ⟨g, 0⟩), ([1, 0], ⟨c, 1⟩)] ∧
      v.Within w ∧ u.Within w ∧ w.Within w.expandAll.state ∧
      v.Within (v.toggle 0).state ∧ (w.toggle 1).state.Within w ∧
      (flatten w.nodes (.ofList [g])).Sublist (flatten w.nodes w.expansion) := by
  intro c g h v w u
  have hv : v.Reachable := .ofNodes [h, g]
  have hw : w.Reachable := Outcome.stateAfter_induction (fun _ c h => .step h c) hv _
  obtain ⟨hrows, hviews⟩ := more_expanded_more_shown
  obtain ⟨⟨-, -, hopens⟩, -, hwider, -⟩ := hviews v hv
  obtain ⟨⟨-, hall, -⟩, ⟨-, -, hcloses⟩, -, hnarrower⟩ := hviews w hw
  exact ⟨by decide, by decide, hwider _ (by decide), hnarrower _ (by decide), hall,
    hopens 0 ⟨h, 0⟩ rfl (by decide), hcloses 1 ⟨g, 1⟩ rfl (by decide),
    (hrows w.nodes (.ofList [g]) w.expansion (by decide)).1⟩

end Outline
