import Outline.Proofs.Stepping

/-!
# Reachable views and tables

A view is reachable when commands lead to it from a fresh view, of any forest and any expansion;
a table is, when commands lead to it from a table over a reachable view. Failing and idle commands
count like any other.

The invariant is `View.Coherent`: the rows are those that forest and expansion determine, and the
expansion is well formed. It holds of fresh views and every command keeps it, hence every reachable
view has it, the view inside a reachable table as well. The rows are a cache, so this is what makes
statements about `flatten` statements about views.
-/

namespace Outline

open Outcome (stateAfter)

/-- What each command keeps, a run keeps. -/
theorem Outcome.stateAfter_induction {σ α γ : Type} {step : σ → γ → Outcome σ α} {P : σ → Prop}
    (hstep : ∀ s c, P s → P (step s c).state) {s : σ} (h : P s) (cs : List γ) :
    P (stateAfter step s cs) := by
  induction cs generalizing s with
  | nil => exact h
  | cons c cs ih => exact ih (hstep s c h)

namespace View

/-! ### Reachable views -/

/-- A view that commands lead to from a fresh one. -/
inductive Reachable : View → Prop
  /-- The view of a forest under an expansion, without listeners. -/
  | fresh (nodes groups : List Node) : Reachable (ofExpansion nodes (.ofList groups))
  /-- The view after one more command. -/
  | step {v : View} (h : Reachable v) (c : Command) : Reachable (v.step c).state

theorem Reachable.ofNodes (nodes : List Node) : Reachable (ofNodes nodes) := .fresh nodes []

/-- A view is reachable exactly when some list of commands leads to it. -/
theorem reachable_iff_exists_run {v : View} :
    v.Reachable ↔ ∃ nodes groups cs,
      v = stateAfter step (ofExpansion nodes (.ofList groups)) cs := by
  constructor
  · intro h
    induction h with
    | fresh nodes groups => exact ⟨nodes, groups, [], rfl⟩
    | step _ c ih =>
      obtain ⟨nodes, groups, cs, rfl⟩ := ih
      exact ⟨nodes, groups, cs ++ [c], (Outcome.stateAfter_append step _ cs [c]).symm⟩
  · rintro ⟨nodes, groups, cs, rfl⟩
    exact Outcome.stateAfter_induction (fun _ c h => .step h c) (.fresh nodes groups) cs

/-! ### Coherence -/

/-- The rows are those that forest and expansion determine, and the expansion is well formed. -/
structure Coherent (v : View) : Prop where
  rows : v.rows = flatten v.nodes v.expansion
  wellFormed : v.expansion.WellFormed

theorem coherent_ofExpansion (nodes : List Node) {k : Expansion} (hk : k.WellFormed) :
    (ofExpansion nodes k).Coherent := ⟨rfl, hk⟩

/-- A command leaves a well-formed expansion well formed. -/
theorem wellFormed_step {v : View} (h : v.expansion.WellFormed) (c : Command) :
    (v.step c).state.expansion.WellFormed := by
  have hadopt : ∀ (changed : Bool) (k : Expansion) (before : List Event), k.WellFormed →
      (v.adopt changed k before).state.expansion.WellFormed := by
    intro changed k before hk
    cases changed <;> exact hk
  cases c with
  | act verb i =>
    cases hr : v.row i with
    | error e =>
      simp only [step, act_of_row_eq_error hr]
      exact h
    | ok r =>
      simp only [step, act_of_row_eq_ok hr]
      exact hadopt _ _ _ (h.apply verb r.node)
  | expandAll => exact hadopt _ _ _ (h.expandList _)
  | collapseAll => exact hadopt _ _ _ (Expansion.wellFormed_clear v.expansion)
  | replace nodes => exact h
  | listen tag => exact h
  | unlisten id => exact h

/-- Every command keeps a view coherent: it leaves the projection alone, or rebuilds the rows. -/
theorem Coherent.step {v : View} (h : v.Coherent) (c : Command) : (v.step c).state.Coherent := by
  refine ⟨?_, wellFormed_step h.wellFormed c⟩
  -- the answer tells whether the rows were rebuilt; if not, none of what they depend on changed
  cases hc : c.cause (v.step c).result with
  | none =>
    have hq := step_quiet hc
    rw [hq.rows, hq.nodes, hq.expansion]
    exact h.rows
  | some cause => exact (step_rebuilt hc).rows

/-- **Every reachable view is coherent.** -/
theorem Reachable.coherent {v : View} (h : v.Reachable) : v.Coherent := by
  induction h with
  | fresh nodes groups => exact coherent_ofExpansion nodes (Expansion.wellFormed_ofList groups)
  | step _ c ih => exact ih.step c

end View

namespace Table

/-! ### Reachable tables -/

/-- A table that commands lead to from one over a reachable view. -/
inductive Reachable : Table → Prop
  /-- The table over a view; nothing is edited. -/
  | ofView {v : View} (h : v.Reachable) : Reachable (ofView v)
  /-- The table after one more command. -/
  | step {t : Table} (h : Reachable t) (c : Command) : Reachable (t.step c).state

theorem Reachable.ofNodes (nodes : List Node) : Reachable (ofNodes nodes) :=
  .ofView (.ofNodes nodes)

/-- A table is reachable exactly when some list of commands leads to it from a table over a view
to which some list of commands led. -/
theorem reachable_iff_exists_run {t : Table} :
    t.Reachable ↔ ∃ nodes groups ds cs, t = stateAfter step
      (ofView (stateAfter View.step (.ofExpansion nodes (.ofList groups)) ds)) cs := by
  constructor
  · intro h
    induction h with
    | ofView hv =>
      obtain ⟨nodes, groups, ds, rfl⟩ := View.reachable_iff_exists_run.mp hv
      exact ⟨nodes, groups, ds, [], rfl⟩
    | step _ c ih =>
      obtain ⟨nodes, groups, ds, cs, rfl⟩ := ih
      exact ⟨nodes, groups, ds, cs ++ [c], (Outcome.stateAfter_append step _ cs [c]).symm⟩
  · rintro ⟨nodes, groups, ds, cs, rfl⟩
    have hv := View.reachable_iff_exists_run.mpr ⟨nodes, groups, ds, rfl⟩
    exact Outcome.stateAfter_induction (fun _ c h => .step h c) (.ofView hv) cs

/-- **The view inside a reachable table is reachable.** -/
theorem Reachable.view {t : Table} (h : t.Reachable) : t.view.Reachable := by
  induction h with
  | ofView hv => exact hv
  | @step t _ c ih =>
    cases hc : c.toView? with
    | none => rw [(view_step_of_editing hc).1]; exact ih
    | some w =>
      obtain rfl := Command.eq_view_of_toView?_eq_some hc
      rw [view_step]
      exact ih.step w

end Table

/-! ### The rows are a faithful cache -/

/-- **A view is at all times the fresh view of its forest and its expansion**, up to its
listeners: whatever commands led to it, in whatever order, failing ones included, and whether they
were given to the view itself or to a table around it. Its expansion holds groups only, each
once. -/
theorem reachable_eq_fresh {v : View} (h : v.Reachable ∨ ∃ t : Table, t.Reachable ∧ t.view = v) :
    v.rows = flatten v.nodes v.expansion ∧
      v.rowCount = (flatten v.nodes v.expansion).length ∧
      (∀ n ∈ v.expansion, n.isGroup = true) ∧ v.expansion.groups.Nodup ∧
      { View.ofExpansion v.nodes v.expansion with listeners := v.listeners } = v := by
  have hv : v.Reachable := by
    rcases h with h | ⟨t, ht, rfl⟩
    · exact h
    · exact ht.view
  obtain ⟨hrows, hwf⟩ := hv.coherent
  refine ⟨hrows, ?_, hwf.isGroup, hwf.nodup, ?_⟩
  · rw [View.rowCount, hrows]
  · rw [View.ofExpansion, ← hrows]

/-- A run with a toggle, a failing command, a replacement and an expansion of everything. -/
theorem reachable_eq_fresh_run :
    let g := Node.group "g" none [.leaf "c" none]
    let v := stateAfter View.step (.ofNodes [g])
      [.act .toggle 0, .act .expand 7, .replace [.leaf "a" none, g], .expandAll]
    v.Reachable ∧ v.rows = [⟨.leaf "a" none, 0⟩, ⟨g, 0⟩, ⟨.leaf "c" none, 1⟩] ∧
      v.rows = flatten v.nodes v.expansion := by
  intro g v
  have hv : v.Reachable := View.reachable_iff_exists_run.mpr ⟨[g], [], _, rfl⟩
  exact ⟨hv, by decide, (reachable_eq_fresh (.inl hv)).1⟩

end Outline
