import Outline.Proofs.FindRow
import Outline.Proofs.Node.Position
import Outline.Proofs.Reachable
import Outline.Proofs.Row

/-!
# What is remembered of a group

Whether a group is expanded is one bit, and a run decides it by a fold over its commands. Each
command does one of four things to the bit (`Touch`), told from the state before it: an operation at
a row touches the bit of the group that the row shows at that moment and no other, expanding
everything sets the bits of the groups that occur in the forest, collapsing everything clears all
bits, and no other command touches any (`View.touch`, `Table.touch`).

That one command has this effect is `View.contains_step` and `Table.contains_step`; whole runs
follow by one induction (`Outcome.bit_stateAfter`). No invariant is needed: nothing is
remembered of rows, so it does not matter which row showed the group, nor whether the forest was
replaced in between. The rows come in where a remembered group is shown again
(`View.Coherent.shows_block`).
-/

namespace Outline

open Outcome (stateAfter)

/-! ### One bit -/

/-- What a command does to the memory of one group. -/
inductive Touch where
  /-- The command does not concern the group. -/
  | leave
  /-- The group is remembered. -/
  | set
  /-- The group is forgotten. -/
  | clear
  /-- The group is remembered if it was not, and forgotten if it was. -/
  | flip

/-- The bit after a touch. -/
def Touch.apply : Touch → Bool → Bool
  | leave, b => b
  | set, _ => true
  | clear, _ => false
  | flip, b => !b

/-- What a verb does to the memory of the group at its row. -/
def Verb.touch : Verb → Touch
  | expand => .set
  | collapse => .clear
  | toggle => .flip

/-- What a command to a view does to the memory of a group. -/
def View.touch (g : Node) (v : View) : View.Command → Touch
  | .act verb i =>
    match v.row i with
    | .ok r => if r.node = g then verb.touch else .leave
    | .error _ => .leave
  | .expandAll => if Node.Occurs g v.nodes then .set else .leave
  | .collapseAll => .clear
  | .replace _ => .leave
  | .listen _ => .leave
  | .unlisten _ => .leave

/-- What a command to a table does to the memory of a group. No command of editing concerns it. -/
def Table.touch (g : Node) (t : Table) : Table.Command → Touch
  | .view c => t.view.touch g c
  | _ => .leave

/-- A bit that is touched by each command of a run in turn. -/
def Outcome.foldTouches {σ α γ : Type} (step : σ → γ → Outcome σ α) (touch : σ → γ → Touch)
    (s : σ) (b : Bool) : List γ → Bool
  | [] => b
  | c :: cs => foldTouches step touch (step s c).state ((touch s c).apply b) cs

/-! ### One command -/

variable {g : Node}

/-- A verb touches the memory of the group at its row, and of no other group. -/
theorem Verb.contains_apply (hg : g.isGroup = true) (verb : Verb) (k : Expansion) (n : Node) :
    (verb.apply k n).2.contains g =
      (if n = g then verb.touch else Touch.leave).apply (k.contains g) := by
  rw [Bool.eq_iff_iff, Expansion.contains_eq_true]
  by_cases hn : n = g
  · subst hn
    rw [if_pos rfl]
    cases verb with
    | expand => simp [apply, Expansion.mem_expand, hg, touch, Touch.apply]
    | collapse => simp [apply, Expansion.mem_collapse, touch, Touch.apply]
    | toggle =>
      by_cases hk : n ∈ k <;>
        simp [apply, Expansion.mem_toggle, hg, hk, touch, Touch.apply]
  · have hne : g ≠ n := fun h => hn h.symm
    rw [if_neg hn, Touch.apply, Expansion.contains_eq_true]
    cases verb with
    | expand => simp [apply, Expansion.mem_expand, hne]
    | collapse => simp [apply, Expansion.mem_collapse, hne]
    | toggle => simp [apply, Expansion.mem_toggle, hne]

/-- Expanding a whole forest touches the memory of the groups that occur in it. -/
theorem Expansion.contains_expandList (hg : g.isGroup = true) (k : Expansion) (ns : List Node) :
    (k.expandList (Node.walkAll ns)).2.contains g =
      (if Node.Occurs g ns then Touch.set else Touch.leave).apply (k.contains g) := by
  rw [Bool.eq_iff_iff, contains_eq_true, mem_expandList, Node.mem_walkAll_iff_occurs]
  by_cases ho : Node.Occurs g ns <;> simp [ho, hg, Touch.apply]

/-- **One command to a view touches the memory of a group as it is said to.** -/
theorem View.contains_step (hg : g.isGroup = true) (v : View) (c : View.Command) :
    (v.step c).state.expansion.contains g =
      (v.touch g c).apply (v.expansion.contains g) := by
  cases c with
  | act verb i =>
    cases hr : v.row i with
    | error e =>
      simp only [step, act_of_row_eq_error hr, touch, hr]
      rfl
    | ok r =>
      simp only [step, act_of_row_eq_ok hr, touch, hr, Outcome.state_map, expansion_adopt]
      exact Verb.contains_apply hg verb v.expansion r.node
  | expandAll =>
    simp only [step, expandAll, Outcome.state_map, expansion_adopt, touch]
    exact Expansion.contains_expandList hg v.expansion v.nodes
  | collapseAll =>
    simp only [step, collapseAll, Outcome.state_map, expansion_adopt, touch, Touch.apply]
    exact Expansion.contains_eq_false.mpr Expansion.mem_clear
  | replace nodes => rfl
  | listen tag => rfl
  | unlisten id => rfl

/-- **One command to a table touches the memory of a group as it is said to.** -/
theorem Table.contains_step (hg : g.isGroup = true) (t : Table) (c : Table.Command) :
    (t.step c).state.view.expansion.contains g =
      (t.touch g c).apply (t.view.expansion.contains g) := by
  cases hc : c.toView? with
  | none =>
    have htouch : t.touch g c = .leave := by
      cases c with
      | view w => exact absurd hc (by simp [Command.toView?])
      | _ => rfl
    rw [(view_step_of_editing hc).1, htouch]
    rfl
  | some w =>
    obtain rfl := Command.eq_view_of_toView?_eq_some hc
    rw [view_step]
    exact t.view.contains_step hg w

/-! ### Whole runs -/

namespace Outcome

variable {σ α γ : Type} {step : σ → γ → Outcome σ α} {touch : σ → γ → Touch}

/-- **A bit that each command touches is folded along a run.** -/
theorem bit_stateAfter (bit : σ → Bool)
    (h : ∀ s c, bit (step s c).state = (touch s c).apply (bit s)) (s : σ) (cs : List γ) :
    bit (stateAfter step s cs) = foldTouches step touch s (bit s) cs := by
  induction cs generalizing s with
  | nil => rfl
  | cons c cs ih =>
    rw [foldTouches, ← h s c]
    exact ih (step s c).state

/-- Commands that leave the bit alone can be as many as they like. -/
theorem foldTouches_of_leave (step : σ → γ → Outcome σ α) {cs : List γ}
    (h : ∀ c ∈ cs, ∀ s, touch s c = .leave) (s : σ) (b : Bool) :
    foldTouches step touch s b cs = b := by
  induction cs generalizing s with
  | nil => rfl
  | cons c cs ih =>
    rw [List.forall_mem_cons] at h
    rw [foldTouches, h.1 s]
    exact ih h.2 (step s c).state

end Outcome

/-! ### What stays out of the memory -/

/-- Whether the command is one to expand or collapse something. -/
def Table.Command.regroups : Table.Command → Bool
  | .view (.act _ _) => true
  | .view .expandAll => true
  | .view .collapseAll => true
  | _ => false

/-- Replacing the forest, editing and listening concern the memory of no group. -/
theorem Table.touch_of_regroups_eq_false {c : Table.Command} (h : c.regroups = false) (t : Table) :
    t.touch g c = .leave := by
  cases c with
  | view w =>
    cases w with
    | act verb i => exact absurd h (by simp [Command.regroups])
    | expandAll => exact absurd h (by simp [Command.regroups])
    | collapseAll => exact absurd h (by simp [Command.regroups])
    | _ => rfl
  | _ => rfl

/-- **A remembered group is shown expanded** at every row that shows it: the rows of its children
follow, one level deeper, and what comes after them is no deeper than the group. -/
theorem View.Coherent.shows_block {v : View} (hv : v.Coherent) {i : Nat} {r : Row}
    (hr : v.row i = .ok r) (hk : r.node ∈ v.expansion) :
    v.isExpanded i = .ok true ∧ ∃ rest,
      v.rows.drop (i + 1) =
        (flatten r.node.children v.expansion).map (Row.shift (r.depth + 1)) ++ rest ∧
      ∀ s ∈ rest.head?, s.depth ≤ r.depth := by
  have hexpanded : v.isExpanded i = .ok true := by
    simp [isExpanded, hr, hk, bind, Except.bind, pure, Except.pure]
  have hflat : flattenAt v.expansion 0 v.nodes = v.rows := hv.rows.symm
  have hrow : (flattenAt v.expansion 0 v.nodes)[i]? = some r := hflat ▸ row_eq_ok_iff.mp hr
  obtain ⟨rest, hdrop, hhead⟩ := drop_flattenAt hrow
  rw [if_pos hk, flattenAt_eq_map v.expansion (r.depth + 1) r.node.children, hflat] at hdrop
  exact ⟨hexpanded, rest, hdrop, hhead⟩

/-- **Groups are remembered by value, across any history.** Take any run of a view or of a table.

* At its end a group is expanded exactly when a bit, at first whether it was expanded at the start,
  is set after every command has touched it. An operation at a row touches the bit of the group that
  the row shows at that moment: expanding sets it, collapsing clears it, toggling flips it.
  Expanding everything sets it if the group occurs in the forest of that moment, at any depth, shown
  or not. Collapsing everything clears it. Every other command leaves it: operations at rows that
  show something else or do not exist, replacements, editing, listeners.
* So after any number of replacements, with editing and listening between them, a group that was
  expanded is shown expanded at every row that shows it.
* A group with another name, another value or anything else below it is another group: what is done
  at a row that shows the one leaves the other as it was. -/
theorem expansion_remembered_by_value (hg : g.isGroup = true) :
    (∀ (v : View) (cs : List View.Command),
      (stateAfter View.step v cs).expansion.contains g =
        Outcome.foldTouches View.step (View.touch g) v (v.expansion.contains g) cs) ∧
    (∀ (t : Table) (cs : List Table.Command),
      (stateAfter Table.step t cs).view.expansion.contains g =
        Outcome.foldTouches Table.step (Table.touch g) t (t.view.expansion.contains g) cs) ∧
    (∀ (t : Table) (cs : List Table.Command), t.Reachable → g ∈ t.view.expansion →
      (∀ c ∈ cs, c.regroups = false) →
        let w := (stateAfter Table.step t cs).view
        ∀ i r, w.row i = .ok r → r.node = g → w.isExpanded i = .ok true ∧ ∃ rest,
          w.rows.drop (i + 1) =
            (flatten g.children w.expansion).map (Row.shift (r.depth + 1)) ++ rest ∧
          ∀ s ∈ rest.head?, s.depth ≤ r.depth) ∧
    ∀ h : Node, h.isGroup = true →
      (h.name ≠ g.name ∨ h.value ≠ g.value ∨
        ∃ p, Node.at? h.children p ≠ Node.at? g.children p) →
      ∀ (v : View) (verb : Verb) (i : Nat) (r : Row), v.row i = .ok r → r.node = g →
        (v.step (.act verb i)).state.expansion.contains h = v.expansion.contains h := by
  have htables : ∀ (t : Table) (cs : List Table.Command),
      (stateAfter Table.step t cs).view.expansion.contains g =
        Outcome.foldTouches Table.step (Table.touch g) t (t.view.expansion.contains g) cs :=
    Outcome.bit_stateAfter (fun t : Table => t.view.expansion.contains g) (Table.contains_step hg)
  have hviews : ∀ (v : View) (cs : List View.Command),
      (stateAfter View.step v cs).expansion.contains g =
        Outcome.foldTouches View.step (View.touch g) v (v.expansion.contains g) cs :=
    Outcome.bit_stateAfter (fun v : View => v.expansion.contains g) (View.contains_step hg)
  refine ⟨hviews, htables, ?_, ?_⟩
  · rintro t cs ht hk hcs w i r hr rfl
    have hw : r.node ∈ w.expansion := by
      have hleave := Outcome.foldTouches_of_leave Table.step
        (fun c hc => Table.touch_of_regroups_eq_false (g := r.node) (hcs c hc)) t
        (t.view.expansion.contains r.node)
      rw [← Expansion.contains_eq_true] at hk ⊢
      exact (htables t cs).trans (hleave.trans hk)
    have hreach : (stateAfter Table.step t cs).Reachable :=
      Outcome.stateAfter_induction (fun _ c h => .step h c) ht cs
    exact hreach.view.coherent.shows_block hr hw
  · intro h hh hdiffer v verb i r hr hrg
    -- a group that differs in a part is not the one that the row shows
    have hne : r.node ≠ h := by
      rintro rfl
      subst hrg
      rcases hdiffer with hd | hd | ⟨p, hd⟩ <;> exact hd rfl
    rw [View.contains_step hh, View.touch, hr]
    simp only [if_neg hne]
    rfl

/-- A group that was expanded leaves with one replacement and is shown expanded when the next brings
it back; the group beside it, of the same name but with another child, never was. -/
theorem expansion_remembered_by_value_revived :
    let g := Node.group "g" none [.leaf "c" none]
    let h := Node.group "g" none [.leaf "d" none]
    let t := stateAfter Table.step (.ofNodes [g, h]) [.view (.act .toggle 0)]
    let cs : List Table.Command :=
      [.view (.replace [h]), .startEditing 5 1, .view (.replace [.leaf "a" none, g, h])]
    let w := (stateAfter Table.step t cs).view
    g.isGroup = true ∧ h.isGroup = true ∧ t.Reachable ∧ g ∈ t.view.expansion ∧
      (∀ c ∈ cs, c.regroups = false) ∧ w.isExpanded 1 = .ok true ∧
      Node.at? h.children [0] ≠ Node.at? g.children [0] ∧
      (w.step (.act .collapse 1)).state.expansion.contains h = w.expansion.contains h := by
  intro g h t cs w
  have hg : g.isGroup = true := rfl
  have hh : h.isGroup = true := rfl
  have ht : t.Reachable :=
    Outcome.stateAfter_induction (fun _ c h => .step h c) (.ofNodes [g, h]) _
  have hk : g ∈ t.view.expansion := by decide
  have hcs : ∀ c ∈ cs, c.regroups = false := by simp [cs, Table.Command.regroups]
  have hrow : w.row 1 = .ok ⟨g, 0⟩ := by rfl
  have hdiffer : Node.at? h.children [0] ≠ Node.at? g.children [0] := by decide
  obtain ⟨-, -, hshown, hother⟩ := expansion_remembered_by_value hg
  exact ⟨hg, hh, ht, hk, hcs, (hshown t cs ht hk hcs 1 _ hrow rfl).1, hdiffer,
    hother h hh (.inr (.inr ⟨[0], hdiffer⟩)) w .collapse 1 _ hrow rfl⟩

end Outline
