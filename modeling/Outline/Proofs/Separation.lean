import Outline.Proofs.EditBinding
import Outline.Query

/-!
# Projecting, editing and listening apart

What the rows show does not depend on what is edited, and neither rows nor edit depend on who
listens. Both are statements about two runs, one of all commands and one of some of them. The
argument is the same: a relation between the states of the two runs that a skipped command keeps on
its own, and that a command carried out in both runs keeps together, with equal observations
(`Outcome.Skips`). It then holds all along (`Outcome.Skips.run`).

For editing the relation is that the table's view is the view of the other run; that the two agree
step by step is `Table.view_step` and its companions. For listening it is that the two tables are
equal when their listeners are taken away (`Table.muted`); that no step looks at the listeners is
`Table.step_muted`.
-/

namespace Outline

open Outcome (runFrom stateAfter)

/-! ### Runs with commands left out -/

namespace Outcome

variable {σ τ α β γ δ ω : Type}

/-- The outcomes, in a run of all commands, of the commands that are kept. -/
def runKept (keep : γ → Bool) (step : σ → γ → Outcome σ α) (s : σ) (cs : List γ) :
    List (Outcome σ α) :=
  ((cs.zip (runFrom step s cs)).filter fun p => keep p.1).map Prod.snd

theorem runKept_cons (keep : γ → Bool) (step : σ → γ → Outcome σ α) (s : σ) (c : γ)
    (cs : List γ) :
    runKept keep step s (c :: cs) =
      (if keep c then [step s c] else []) ++ runKept keep step (step s c).state cs := by
  unfold runKept
  rw [runFrom, List.zip_cons_cons, List.filter_cons]
  split <;> rfl

/-- If the commands left out call nobody, the calls of a run are those of the commands kept. -/
theorem flatMap_calls_runFrom (keep : γ → Bool) {step : σ → γ → Outcome σ α}
    (h : ∀ s c, keep c = false → (step s c).calls = []) (s : σ) (cs : List γ) :
    (runFrom step s cs).flatMap calls = (runKept keep step s cs).flatMap calls := by
  induction cs generalizing s with
  | nil => rfl
  | cons c cs ih =>
    rw [runFrom, runKept_cons, List.flatMap_cons, List.flatMap_append, ih]
    cases hc : keep c with
    | true => simp
    | false => simp [h s c hc]

/-- A run may skip commands: `keep` tells which commands are carried out in the other run, and as
which. The states stay related whether a command is skipped or not, and what is seen of a command
that is not skipped is the same in both runs. -/
structure Skips (keep : γ → Option δ) (step : σ → γ → Outcome σ α) (step' : τ → δ → Outcome τ β)
    (related : σ → τ → Prop) (seen : Outcome σ α → ω) (seen' : Outcome τ β → ω) : Prop where
  skipped : ∀ {s t c}, related s t → keep c = none → related (step s c).state t
  kept : ∀ {s t c d}, related s t → keep c = some d →
    related (step s c).state (step' t d).state
  seen : ∀ {s t c d}, related s t → keep c = some d → seen (step s c) = seen' (step' t d)

/-- **Two runs of which one skips commands stay related**, and the same is seen of the commands
that both carry out. -/
theorem Skips.run {keep : γ → Option δ} {step : σ → γ → Outcome σ α}
    {step' : τ → δ → Outcome τ β} {related : σ → τ → Prop} {seen : Outcome σ α → ω}
    {seen' : Outcome τ β → ω} (h : Skips keep step step' related seen seen') {s : σ} {t : τ}
    (hst : related s t) (cs : List γ) :
    related (stateAfter step s cs) (stateAfter step' t (cs.filterMap keep)) ∧
      (runKept (fun c => (keep c).isSome) step s cs).map seen =
        (runFrom step' t (cs.filterMap keep)).map seen' := by
  induction cs generalizing s t with
  | nil => exact ⟨hst, rfl⟩
  | cons c cs ih =>
    rw [runKept_cons]
    cases hc : keep c with
    | none =>
      rw [List.filterMap_cons_none hc]
      exact ih (h.skipped hst hc)
    | some d =>
      obtain ⟨hstate, hseen⟩ := ih (h.kept hst hc)
      rw [List.filterMap_cons_some hc, runFrom, List.map_cons, ← hseen, ← h.seen hst hc]
      exact ⟨hstate, rfl⟩

end Outcome

/-! ### Editing left out -/

/-- The answer as a view would give it, which knows nothing of an edit. -/
def Answer.plain : Answer → Answer
  | .adjusted _ => .done
  | a => a

namespace Table

/-- A command of editing calls nobody. -/
theorem calls_step_of_editing {t : Table} {c : Command} (h : c.toView? = none) :
    (t.step c).calls = [] := by
  rw [Outcome.calls, (view_step_of_editing h).2, List.filterMap_nil]

/-- A view never answers what became of an edit. -/
theorem plain_result_step (t : Table) (w : View.Command) :
    (t.step (.view w)).result.plain = (t.view.step w).result := by
  rw [result_step]
  cases w with
  | replace nodes => rfl
  | act verb i =>
    cases hr : t.view.row i with
    | error e => simp only [View.step, View.act_of_row_eq_error hr]; rfl
    | ok r => simp only [View.step, View.act_of_row_eq_ok hr]; rfl
  | _ => rfl

/-- A table's view goes its way whether or not something is edited. -/
theorem skips_editing : Outcome.Skips Command.toView? step View.step (fun t v => t.view = v)
    (fun o => (o.result.plain, o.state.view, o.calls)) (fun o => (o.result, o.state, o.calls)) where
  skipped := by
    rintro t v c rfl hc
    exact (view_step_of_editing hc).1
  kept := by
    rintro t v c w rfl hc
    obtain rfl := Command.eq_view_of_toView?_eq_some hc
    exact t.view_step w
  seen := by
    rintro t v c w rfl hc
    obtain rfl := Command.eq_view_of_toView?_eq_some hc
    rw [t.plain_result_step w, t.view_step w, t.calls_step w]

end Table

/-! ### Listeners left out -/

/-- The view without its listeners. -/
def View.muted (v : View) : View := { v with listeners := .empty }

/-- The table without its listeners. -/
def Table.muted (t : Table) : Table := { t with view := t.view.muted }

/-- Whether the command registers or removes a listener. -/
def View.Command.listens : View.Command → Bool
  | .listen _ => true
  | .unlisten _ => true
  | _ => false

/-- Whether the command registers or removes a listener. -/
def Table.Command.listens : Table.Command → Bool
  | .view w => w.listens
  | _ => false

namespace View

theorem state_adopt_muted (v : View) (changed : Bool) (k : Expansion) (before : List Event) :
    (v.muted.adopt changed k before).state = (v.adopt changed k before).state.muted := by
  cases changed <;> rfl

theorem result_adopt_muted (v : View) (changed : Bool) (k : Expansion) (before : List Event) :
    (v.muted.adopt changed k before).result = (v.adopt changed k before).result := by
  rw [result_adopt, result_adopt]

/-- **No command that is not about listeners looks at them.** -/
theorem step_muted (v : View) {c : Command} (h : c.listens = false) :
    (v.muted.step c).result = (v.step c).result ∧
      (v.muted.step c).state = (v.step c).state.muted := by
  cases c with
  | act verb i =>
    cases hr : v.row i with
    | error e =>
      have hm : v.muted.row i = .error e := hr
      simp only [step, act_of_row_eq_error hr, act_of_row_eq_error hm]
      exact ⟨rfl, rfl⟩
    | ok r =>
      have hm : v.muted.row i = .ok r := hr
      simp only [step, act_of_row_eq_ok hr, act_of_row_eq_ok hm]
      exact ⟨congrArg (fun b => Answer.ofResult (.ok b)) (v.result_adopt_muted _ _ _),
        v.state_adopt_muted _ _ _⟩
  | expandAll =>
    exact ⟨congrArg Answer.flag (v.result_adopt_muted _ _ _), v.state_adopt_muted _ _ _⟩
  | collapseAll =>
    exact ⟨congrArg Answer.flag (v.result_adopt_muted _ _ _), v.state_adopt_muted _ _ _⟩
  | replace nodes => exact ⟨rfl, rfl⟩
  | listen tag => exact absurd h (by simp [Command.listens])
  | unlisten id => exact absurd h (by simp [Command.listens])

theorem ask_muted (v : View) (q : Query) : v.muted.ask q = v.ask q := by
  cases q <;> rfl

end View

namespace Table

/-- **No command that is not about listeners looks at them**, not even through the edit. -/
theorem step_muted (t : Table) {c : Command} (h : c.listens = false) :
    (t.muted.step c).result = (t.step c).result ∧
      (t.muted.step c).state = (t.step c).state.muted := by
  cases c with
  | view w =>
    have hw : w.listens = false := h
    obtain ⟨hresult, hstate⟩ := t.view.step_muted hw
    have hrows : (t.muted.view.step w).state.rows = (t.view.step w).state.rows := by
      change (t.view.muted.step w).state.rows = (t.view.step w).state.muted.rows
      rw [hstate]
    have hview : (t.muted.step (.view w)).state.view = (t.step (.view w)).state.view.muted := by
      rw [view_step, view_step]
      exact hstate
    -- the edit is adjusted to the rows if the answer says so, and both are the same
    have hediting : (t.muted.step (.view w)).state.editing =
        (t.step (.view w)).state.editing := by
      rw [editing_step, editing_step, hrows]
      exact congrArg (fun a => if (w.cause a).isSome then _ else t.editing) hresult
    refine ⟨?_, ?_⟩
    · rw [result_step, result_step, hrows]
      cases w with
      | replace nodes => rfl
      | _ => exact hresult
    · calc (t.muted.step (.view w)).state
          = ⟨(t.muted.step (.view w)).state.view, (t.muted.step (.view w)).state.editing⟩ := rfl
        _ = (t.step (.view w)).state.muted := by rw [hview, hediting]; rfl
  | startEditing row column =>
    cases he : t.editable row column with
    | error e =>
      have hm : t.muted.editable row column = .error e := he
      simp only [step, startEditing_of_error he, startEditing_of_error hm]
      exact ⟨rfl, rfl⟩
    | ok b =>
      cases b with
      | false =>
        have hm : t.muted.editable row column = .ok false := he
        simp only [step, startEditing_of_false he, startEditing_of_false hm]
        exact ⟨rfl, rfl⟩
      | true =>
        have hm : t.muted.editable row column = .ok true := he
        obtain ⟨rfl, r, hr, -⟩ := editable_eq_true_iff.mp he
        have hmr : t.muted.view.row row = .ok r := hr
        simp only [step, startEditing_of_true he hr, startEditing_of_true hm hmr]
        exact ⟨rfl, rfl⟩
  | setText text => exact ⟨rfl, rfl⟩
  | commit => exact ⟨rfl, rfl⟩
  | cancel => exact ⟨rfl, rfl⟩

/-- A command about listeners changes nothing else. -/
theorem muted_step_of_listens (t : Table) {c : Command} (h : c.listens = true) :
    (t.step c).state.muted = t.muted := by
  cases c with
  | view w =>
    cases w with
    | listen tag => rfl
    | unlisten id => rfl
    | _ => exact absurd h (by simp [Command.listens, View.Command.listens])
  | _ => exact absurd h (by simp [Command.listens])

/-- No question is about listeners. -/
theorem ask_muted (t : Table) (q : Query) : t.muted.ask q = t.ask q := by
  cases q with
  | view q => exact t.view.ask_muted q
  | editable i j => rfl
  | editing => rfl

/-- A table goes its way whether or not somebody listens. -/
theorem skips_listening : Outcome.Skips (Option.guard fun c => !c.listens) step step
    (fun t u => t.muted = u.muted) (fun o => (o.result, o.state.muted))
    (fun o => (o.result, o.state.muted)) where
  skipped := by
    intro t u c h hc
    have hl : c.listens = true := by simpa [Option.guard] using hc
    exact (t.muted_step_of_listens hl).trans h
  kept := by
    intro t u c d h hc
    obtain ⟨hl, rfl⟩ : c.listens = false ∧ c = d := by simpa [Option.guard] using hc
    rw [← (t.step_muted hl).2, ← (u.step_muted hl).2, h]
  seen := by
    intro t u c d h hc
    obtain ⟨hl, rfl⟩ : c.listens = false ∧ c = d := by simpa [Option.guard] using hc
    rw [← (t.step_muted hl).1, ← (t.step_muted hl).2, ← (u.step_muted hl).1,
      ← (u.step_muted hl).2, h]

end Table

/-- **Projecting, editing and listening do not interfere.** Let a table carry out any commands.

* Leave out the commands of editing and give the others to the table's view alone: at every moment
  the view is the same, listeners included, so that it replies the same to every question; each
  command that is carried out in both runs gets the same answer (but for what became of the edit,
  which only a table knows), leaves the same view and makes the same calls; and no other call is
  made.
* Leave out the commands about listeners: at every moment forest, expansion, rows and edit are the
  same, so that the table replies the same to every question, and each command that is carried out
  in both runs gets the same answer. -/
theorem editing_and_listening_apart (t : Table) (cs : List Table.Command) :
    let toView := cs.filterMap Table.Command.toView?
    let silent := cs.filter fun c => !c.listens
    ((stateAfter Table.step t cs).view = stateAfter View.step t.view toView ∧
      (∀ q, (stateAfter Table.step t cs).ask (.view q) =
        (stateAfter View.step t.view toView).ask q) ∧
      (Outcome.runKept (fun c => c.toView?.isSome) Table.step t cs).map
          (fun o => (o.result.plain, o.state.view, o.calls)) =
        (runFrom View.step t.view toView).map (fun o => (o.result, o.state, o.calls)) ∧
      (runFrom Table.step t cs).flatMap Outcome.calls =
        (runFrom View.step t.view toView).flatMap Outcome.calls) ∧
    ((stateAfter Table.step t cs).muted = (stateAfter Table.step t silent).muted ∧
      (∀ q, (stateAfter Table.step t cs).ask q = (stateAfter Table.step t silent).ask q) ∧
      (Outcome.runKept (fun c => !c.listens) Table.step t cs).map
          (fun o => (o.result, o.state.muted)) =
        (runFrom Table.step t silent).map (fun o => (o.result, o.state.muted))) := by
  intro toView silent
  obtain ⟨hview, hseen⟩ := Table.skips_editing.run (rfl : t.view = t.view) cs
  obtain ⟨hmuted, hsame⟩ := Table.skips_listening.run (rfl : t.muted = t.muted) cs
  rw [List.filterMap_eq_filter] at hmuted hsame
  simp only [Option.isSome_guard] at hsame
  refine ⟨⟨hview, fun q => congrArg (·.ask q) hview, hseen, ?_⟩, hmuted, fun q => ?_, hsame⟩
  · -- commands of editing call nobody, so leaving them out loses no call
    have hcalls := congrArg (List.map fun x => x.2.2) hseen
    rw [List.map_map, List.map_map] at hcalls
    rw [Outcome.flatMap_calls_runFrom (fun c : Table.Command => c.toView?.isSome)
      fun s c hc => Table.calls_step_of_editing (Option.not_isSome_iff_eq_none.mp (by simp [hc])),
      List.flatMap_def, List.flatMap_def]
    exact congrArg List.flatten hcalls
  · rw [← Table.ask_muted, hmuted, Table.ask_muted]

end Outline
