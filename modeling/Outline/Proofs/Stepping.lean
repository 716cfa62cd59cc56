import Outline.Command
import Outline.Proofs.Expansion

/-!
# What a command does

A command either leaves the projection (forest, expansion and rows) of a view alone, or rebuilds
the rows. Its answer tells which: `View.Command.cause` reads off an answer why the rows were
rebuilt, if they were, and the two lemmas `View.step_quiet` and `View.step_rebuilt` say all that
the operations have in common in either case.

A table carries out the commands of a view on its view, and adjusts the edit exactly when the rows
were rebuilt (`Table.view_step`, `Table.editing_step`); the commands of editing never touch the
view (`Table.view_step_of_editing`). `Table.quiet_step` and `Table.editing_step_of_rebuilt` put
both kinds of commands together.
-/

namespace Outline

/-! ### The cause of a rebuilding -/

/-- Why a command that was answered so rebuilt the rows, if it did: an operation on the expansion
did when it answered yes, and a replacement always does. -/
def View.Command.cause : View.Command → Answer → Option Cause
  | .act _ _, .flag b => if b then some .expansion else none
  | .expandAll, .flag b => if b then some .expansion else none
  | .collapseAll, .flag b => if b then some .expansion else none
  | .replace _, _ => some .replacement
  | _, _ => none

/-- Why a command that was answered so rebuilt the rows, if it did. No command of editing does. -/
def Table.Command.cause : Table.Command → Answer → Option Cause
  | .view c, a => c.cause a
  | _, _ => none

/-! ### Views -/

namespace View

variable {α β : Type}

/-- An operation that leaves forest, expansion and rows alone, and tells nobody anything. -/
structure Quiet (v : View) (o : Outcome View α) : Prop where
  nodes : o.state.nodes = v.nodes
  expansion : o.state.expansion = v.expansion
  rows : o.state.rows = v.rows
  events : o.events = []

/-- An operation that rebuilds the rows for a cause, and then tells every listener once. -/
structure Rebuilt (v : View) (cause : Cause) (o : Outcome View α) : Prop where
  rows : o.state.rows = flatten o.state.nodes o.state.expansion
  listeners : o.state.listeners = v.listeners
  calls : o.calls = v.listeners.notify ⟨cause, o.state.rowCount⟩

theorem Quiet.map {v : View} {o : Outcome View α} (h : v.Quiet o) (f : α → β) :
    v.Quiet (o.map f) := ⟨h.nodes, h.expansion, h.rows, h.events⟩

theorem Rebuilt.map {v : View} {cause : Cause} {o : Outcome View α} (h : v.Rebuilt cause o)
    (f : α → β) : v.Rebuilt cause (o.map f) := ⟨h.rows, h.listeners, h.calls⟩

/-- The calls among the events of a rebuilding, whatever no call stands before them. -/
private theorem filterMap_rebuilt (before : List Event) {change : Change} {calls : List Call}
    (h : before.filterMap Event.call? = []) :
    (before ++ Event.rowsRebuilt change :: calls.map Event.called).filterMap Event.call? =
      calls := by
  have hc : (calls.map Event.called).filterMap Event.call? = calls := by
    rw [List.filterMap_map]
    exact List.filterMap_some
  rw [List.filterMap_append, h, List.nil_append, List.filterMap_cons]
  exact hc

theorem result_adopt (v : View) (changed : Bool) (k : Expansion) (before : List Event) :
    (v.adopt changed k before).result = changed := by
  cases changed <;> rfl

theorem nodes_adopt (v : View) (changed : Bool) (k : Expansion) (before : List Event) :
    (v.adopt changed k before).state.nodes = v.nodes := by
  cases changed <;> rfl

theorem expansion_adopt (v : View) (changed : Bool) (k : Expansion) (before : List Event) :
    (v.adopt changed k before).state.expansion = k := by
  cases changed <;> rfl

theorem quiet_adopt (v : View) (k : Expansion) (hk : k = v.expansion) (before : List Event) :
    v.Quiet (v.adopt false k before) := by
  subst hk
  exact ⟨rfl, rfl, rfl, rfl⟩

theorem rebuilt_adopt (v : View) (k : Expansion) (before : List Event)
    (hb : before.filterMap Event.call? = []) :
    v.Rebuilt .expansion (v.adopt true k before) :=
  ⟨rfl, rfl, filterMap_rebuilt before hb⟩

theorem act_of_row_eq_error {v : View} {i : Nat} {e : OutOfRange} (h : v.row i = .error e)
    (verb : Verb) : v.act verb i = ⟨.error e, v, []⟩ := by
  simp only [act, h]

theorem act_of_row_eq_ok {v : View} {i : Nat} {r : Row} (h : v.row i = .ok r) (verb : Verb) :
    v.act verb i =
      let p := verb.apply v.expansion r.node
      let o := v.adopt p.1 p.2 [.expansionChanged verb i]
      ⟨.ok o.result, o.state, o.events⟩ := by
  simp only [act, h]

/-- **A command that is not said to rebuild the rows leaves the projection alone.** -/
theorem step_quiet {v : View} {c : Command} (h : c.cause (v.step c).result = none) :
    v.Quiet (v.step c) := by
  cases c with
  | act verb i =>
    cases hr : v.row i with
    | error e =>
      simp only [step, act_of_row_eq_error hr]
      exact ⟨rfl, rfl, rfl, rfl⟩
    | ok r =>
      have hf : (verb.apply v.expansion r.node).1 = false := by
        simpa [step, act_of_row_eq_ok hr, result_adopt, Outcome.map, Answer.ofResult,
          Command.cause] using h
      have hq := quiet_adopt v _ (Verb.apply_unchanged hf) [.expansionChanged verb i]
      simp only [step, act_of_row_eq_ok hr, hf]
      exact ⟨hq.nodes, hq.expansion, hq.rows, hq.events⟩
  | expandAll =>
    have hf : (v.expansion.expandList (Node.walkAll v.nodes)).1 = false := by
      simpa [step, expandAll, result_adopt, Outcome.map, Command.cause] using h
    simp only [step, expandAll, hf]
    exact (quiet_adopt v _ (Expansion.expandList_unchanged hf) []).map _
  | collapseAll =>
    have hf : v.expansion.clear.1 = false := by
      simpa [step, collapseAll, result_adopt, Outcome.map, Command.cause] using h
    simp only [step, collapseAll, hf]
    exact (quiet_adopt v _ (Expansion.clear_unchanged hf) []).map _
  | replace nodes => exact absurd h (by simp [Command.cause])
  | listen tag => exact ⟨rfl, rfl, rfl, rfl⟩
  | unlisten id => exact ⟨rfl, rfl, rfl, rfl⟩

/-- **A command that is said to rebuild the rows makes them those of forest and expansion, and
calls every listener once, with the number of rows that there are then.** -/
theorem step_rebuilt {v : View} {c : Command} {cause : Cause}
    (h : c.cause (v.step c).result = some cause) : v.Rebuilt cause (v.step c) := by
  cases c with
  | act verb i =>
    cases hr : v.row i with
    | error e =>
      simp [step, act_of_row_eq_error hr, Outcome.map, Answer.ofResult, Command.cause] at h
    | ok r =>
      obtain ⟨hf, rfl⟩ : (verb.apply v.expansion r.node).1 = true ∧ Cause.expansion = cause := by
        simpa [step, act_of_row_eq_ok hr, result_adopt, Outcome.map, Answer.ofResult,
          Command.cause] using h
      have hb := rebuilt_adopt v (verb.apply v.expansion r.node).2 [.expansionChanged verb i] rfl
      simp only [step, act_of_row_eq_ok hr, hf]
      exact ⟨hb.rows, hb.listeners, hb.calls⟩
  | expandAll =>
    obtain ⟨hf, rfl⟩ :
        (v.expansion.expandList (Node.walkAll v.nodes)).1 = true ∧ Cause.expansion = cause := by
      simpa [step, expandAll, result_adopt, Outcome.map, Command.cause] using h
    simp only [step, expandAll, hf]
    exact (rebuilt_adopt v _ [] rfl).map _
  | collapseAll =>
    obtain ⟨hf, rfl⟩ : v.expansion.clear.1 = true ∧ Cause.expansion = cause := by
      simpa [step, collapseAll, result_adopt, Outcome.map, Command.cause] using h
    simp only [step, collapseAll, hf]
    exact (rebuilt_adopt v _ [] rfl).map _
  | replace nodes =>
    obtain rfl : Cause.replacement = cause := by simpa [Command.cause] using h
    exact ⟨rfl, rfl, filterMap_rebuilt [] rfl⟩
  | listen tag => simp [Command.cause] at h
  | unlisten id => simp [Command.cause] at h

/-- **The listeners are called exactly when the rows are rebuilt**, each once. -/
theorem calls_step (v : View) (c : Command) :
    (v.step c).calls =
      match c.cause (v.step c).result with
      | some cause => v.listeners.notify ⟨cause, (v.step c).state.rowCount⟩
      | none => [] := by
  cases hc : c.cause (v.step c).result with
  | none => rw [Outcome.calls, (step_quiet hc).events, List.filterMap_nil]
  | some cause => exact (step_rebuilt hc).calls

end View

/-! ### Tables -/

/-- The command to the view, unless it is a command of editing. -/
def Table.Command.toView? : Table.Command → Option View.Command
  | .view c => some c
  | _ => none

theorem Table.Command.eq_view_of_toView?_eq_some {c : Table.Command} {w : View.Command}
    (h : c.toView? = some w) : c = .view w := by
  cases c with
  | view c => exact congrArg _ (Option.some.inj h)
  | _ => exact absurd h (by simp [toView?])

namespace Table

variable {α : Type}

@[simp] theorem result_follow (t : Table) (changed : α → Bool) (o : Outcome View α) :
    (t.follow changed o).result = o.result := by
  unfold follow; split <;> rfl

@[simp] theorem view_follow (t : Table) (changed : α → Bool) (o : Outcome View α) :
    (t.follow changed o).state.view = o.state := by
  unfold follow; split <;> rfl

theorem editing_follow (t : Table) (changed : α → Bool) (o : Outcome View α) :
    (t.follow changed o).state.editing =
      if changed o.result then (t.editing.adjust o.state.rows).state else t.editing := by
  unfold follow; split <;> rfl

/-- Adjusting the edit calls no listener. -/
theorem calls_adjust (e : Editing) (rows : List Row) : (e.adjust rows).calls = [] := by
  unfold Editing.adjust
  split
  · rfl
  · split
    · split <;> rfl
    · rfl

theorem calls_settle (t : Table) (o : Outcome View α) :
    (o.events ++ (t.settle o.state).events).filterMap Event.call? = o.calls := by
  have h : (t.settle o.state).events.filterMap Event.call? = [] := calls_adjust _ _
  rw [List.filterMap_append, h, List.append_nil]
  rfl

theorem calls_follow (t : Table) (changed : α → Bool) (o : Outcome View α) :
    (t.follow changed o).calls = o.calls := by
  unfold follow
  split
  · exact calls_settle t o
  · rfl

/-- A table carries out a command of a view on its view. -/
theorem view_step (t : Table) (c : View.Command) :
    (t.step (.view c)).state.view = (t.view.step c).state := by
  cases c with
  | replace nodes => rfl
  | _ => simp [step, View.step, act, expandAll, collapseAll, listen, unlisten]

/-- The table answers what its view answers, save that a replacement answers what became of the
edit. -/
theorem result_step (t : Table) (c : View.Command) :
    (t.step (.view c)).result =
      match c with
      | .replace _ => .adjusted (t.editing.adjust (t.view.step c).state.rows).result
      | _ => (t.view.step c).result := by
  cases c with
  | replace nodes => rfl
  | _ => simp [step, View.step, Outcome.map, act, expandAll, collapseAll, listen, unlisten]

/-- The listeners are called as the view alone would call them. -/
theorem calls_step (t : Table) (c : View.Command) :
    (t.step (.view c)).calls = (t.view.step c).calls := by
  cases c with
  | replace nodes => exact calls_settle t (t.view.replace nodes)
  | _ => simp [step, View.step, act, expandAll, collapseAll, listen, unlisten, calls_follow]

/-- The rows are rebuilt for the cause for which the view alone would rebuild them. -/
theorem cause_step (t : Table) (c : View.Command) :
    c.cause (t.step (.view c)).result = c.cause (t.view.step c).result := by
  rw [result_step]
  cases c <;> rfl

/-- **The edit is adjusted exactly when the rows are rebuilt.** -/
theorem editing_step (t : Table) (c : View.Command) :
    (t.step (.view c)).state.editing =
      if (c.cause (t.view.step c).result).isSome then
        (t.editing.adjust (t.view.step c).state.rows).state
      else t.editing := by
  cases c with
  | act verb i =>
    have h : didChange (t.view.act verb i).result =
        (View.Command.cause (.act verb i) (.ofResult (t.view.act verb i).result)).isSome := by
      match (t.view.act verb i).result with
      | .ok true => rfl
      | .ok false => rfl
      | .error e => rfl
    exact (editing_follow t didChange _).trans (by rw [h]; rfl)
  | expandAll =>
    refine (editing_follow t id _).trans ?_
    cases h : t.view.expandAll.result <;> simp [View.step, View.Command.cause, Outcome.map, h]
  | collapseAll =>
    refine (editing_follow t id _).trans ?_
    cases h : t.view.collapseAll.result <;> simp [View.step, View.Command.cause, Outcome.map, h]
  | replace nodes => rfl
  | listen tag => rfl
  | unlisten id => rfl

/-- **A command of editing leaves the view alone and tells nobody anything.** -/
theorem view_step_of_editing {t : Table} {c : Command} (h : c.toView? = none) :
    (t.step c).state.view = t.view ∧ (t.step c).events = [] := by
  cases c with
  | view c => exact absurd h (by simp [Command.toView?])
  | startEditing row column =>
    simp only [step, Outcome.state_map, Outcome.events_map, startEditing]
    split <;> exact ⟨rfl, rfl⟩
  | setText text => exact ⟨rfl, rfl⟩
  | commit => exact ⟨rfl, rfl⟩
  | cancel => exact ⟨rfl, rfl⟩

/-- The edit of the table after a command that rebuilt the rows is the old one, adjusted. -/
theorem editing_step_of_rebuilt {t : Table} {c : Command}
    (h : c.cause (t.step c).result ≠ none) :
    (t.step c).state.editing = (t.editing.adjust (t.step c).state.view.rows).state := by
  cases c with
  | view w =>
    rw [Command.cause, cause_step, ← Option.isSome_iff_ne_none] at h
    rw [editing_step, if_pos h, view_step]
  | _ => exact absurd rfl h

/-- A command that did not rebuild the rows leaves forest, expansion and rows alone. -/
theorem quiet_step {t : Table} {c : Command} (h : c.cause (t.step c).result = none) :
    (t.step c).state.view.nodes = t.view.nodes ∧
      (t.step c).state.view.expansion = t.view.expansion ∧
      (t.step c).state.view.rows = t.view.rows := by
  cases hc : c.toView? with
  | none => rw [(view_step_of_editing hc).1]; exact ⟨rfl, rfl, rfl⟩
  | some w =>
    obtain rfl := Command.eq_view_of_toView?_eq_some hc
    rw [Command.cause, cause_step] at h
    have hq := View.step_quiet h
    rw [view_step]
    exact ⟨hq.nodes, hq.expansion, hq.rows⟩

end Table

end Outline
