import Mathlib.Logic.ExistsUnique
import Mathlib.Tactic.ByContra
import Outline.Proofs.EditBinding
import Outline.Proofs.Script

/-!
# What becomes of an edit

Along a script an accepted command to edit begins an edit. It is alive until the table is no longer
editing or another edit begins (`Script.Alive`), and from then on it is over for good. This module
says how it can end (`Fate`): it is handed out, it is cancelled, or it is dropped when a rebuilding
leaves no row that shows its node.

What a single command can do to the edit in progress is said once, by `Table.EditStep`. From it come
the facts about one step: nothing but an accepted command to edit brings an edit into being
(`Table.editing_step_of_none`), an edit that goes on keeps its node and its column and takes the
text that is typed (`Table.edit_step_of_some`), and an edit goes in one of three ways
(`Table.editing_gone_cases`). The rest is induction along the script: an edit that is alive is the
one that began, with the text typed last (`Script.Alive.edit`), and whatever is being edited was
begun and is alive (`Script.exists_alive`).
-/

namespace Outline

/-! ### One step -/

namespace Table

/-- Whether a command that was answered so began an edit. -/
def Command.begins : Command → Answer → Bool
  | .startEditing _ _, .ended _ => true
  | _, _ => false

/-- The text that a command types. -/
def Command.text? : Command → Option String
  | .setText text => some text
  | _ => none

/-- All that a command can do to the edit in progress: the command, its answer, and the edit that
is then in progress. -/
inductive EditStep (t : Table) : Command → Answer → Editing → Prop
  /-- An edit of the value shown at a row begins, and the one before is handed out. -/
  | begun {row : Nat} {r : Row} (shown : t.view.row row = .ok r) :
      EditStep t (.startEditing row Column.value.index) (.ended t.editing)
        (some ⟨r.node, .value, row, r.node.value.getD ""⟩)
  /-- No edit begins, and the one in progress goes on. -/
  | refused (row column : Nat) (e : EditRefusal) :
      EditStep t (.startEditing row column) (.refused e) t.editing
  | typed (text : String) :
      EditStep t (.setText text) (.flag t.editing.isSome) (t.editing.map fun x => { x with text })
  | committed : EditStep t .commit (.ended t.editing) none
  | cancelled : EditStep t .cancel (.flag t.editing.isSome) none
  /-- The rows stay as they are, and so does the edit. -/
  | quiet {w : View.Command} {a : Answer} (h : w.cause a = none) (ha : ∀ e, a ≠ .ended e) :
      EditStep t (.view w) a t.editing
  /-- The rows are rebuilt, and the edit is adjusted to them. -/
  | rebuilt {w : View.Command} {a : Answer} (h : w.cause a ≠ none) (ha : ∀ e, a ≠ .ended e) :
      EditStep t (.view w) a (t.editing.adjust (t.step (.view w)).state.view.rows).state

variable {t : Table} {c : Command} {x y : Edit}

/-- A command to the view never hands out an edit. -/
theorem result_step_ne_ended (t : Table) (w : View.Command) (e : Option Edit) :
    (t.step (.view w)).result ≠ .ended e := by
  rw [result_step]
  cases w with
  | act verb i =>
    cases hr : t.view.row i with
    | error e => simp [View.step, View.act_of_row_eq_error hr, Outcome.map, Answer.ofResult]
    | ok r => simp [View.step, View.act_of_row_eq_ok hr, Outcome.map, Answer.ofResult]
  | _ => simp [View.step, Outcome.map]

/-- **What a command does to the edit in progress is one of these.** -/
theorem editStep (t : Table) (c : Command) :
    t.EditStep c (t.step c).result (t.step c).state.editing := by
  cases c with
  | view w =>
    have hne := t.result_step_ne_ended w
    by_cases hc : Command.cause (.view w) (t.step (.view w)).result = none
    · have he : (t.step (.view w)).state.editing = t.editing := by
        rw [Command.cause, cause_step] at hc
        rw [editing_step, hc]
        rfl
      rw [he]
      exact .quiet hc hne
    · rw [editing_step_of_rebuilt hc]
      exact .rebuilt hc hne
  | startEditing row column =>
    cases h : t.editable row column with
    | error e =>
      rw [step, Outcome.state_map, startEditing_of_error h]
      exact .refused row column _
    | ok b =>
      cases b with
      | false =>
        rw [step, Outcome.state_map, startEditing_of_false h]
        exact .refused row column _
      | true =>
        obtain ⟨rfl, r, hr, -⟩ := editable_eq_true_iff.mp h
        rw [step, Outcome.state_map, startEditing_of_true h hr]
        exact .begun hr
  | setText text => exact .typed text
  | commit => exact .committed
  | cancel => exact .cancelled

variable {a : Answer} {e : Editing}

/-- A command that begins an edit hands out the one before. -/
theorem EditStep.of_begins (h : t.EditStep c a e) (hc : c.begins a = true) :
    ∃ row r, c = .startEditing row Column.value.index ∧ t.view.row row = .ok r ∧
      a = .ended t.editing ∧ e = some ⟨r.node, .value, row, r.node.value.getD ""⟩ := by
  cases h with
  | begun shown => exact ⟨_, _, rfl, shown, rfl, rfl⟩
  | _ => simp [Command.begins] at hc

/-- **Nothing but an accepted command to edit brings an edit into being.** -/
theorem EditStep.eq_none (h : t.EditStep c a e) (hc : c.begins a = false)
    (ht : t.editing = none) : e = none := by
  cases h with
  | begun shown => simp [Command.begins] at hc
  | typed text => rw [ht]; rfl
  | committed => rfl
  | cancelled => rfl
  | rebuilt _ _ => rw [ht]; rfl
  | _ => exact ht

/-- **An edit that goes on keeps its node and its column**, and takes the text that is typed. -/
theorem EditStep.kept (h : t.EditStep c a (some y)) (hc : c.begins a = false)
    (hx : t.editing = some x) :
    y.node = x.node ∧ y.column = x.column ∧ y.text = c.text?.getD x.text := by
  generalize he : some y = e at h
  cases h with
  | begun shown => simp [Command.begins] at hc
  | typed text =>
    rw [hx] at he
    obtain rfl := Option.some.inj he
    exact ⟨rfl, rfl, rfl⟩
  | committed => simp at he
  | cancelled => simp at he
  | rebuilt _ _ =>
    rw [hx] at he
    exact Editing.adjust_state_eq_some he.symm
  | _ =>
    rw [hx] at he
    obtain rfl := Option.some.inj he
    exact ⟨rfl, rfl, rfl⟩

/-- **An edit goes in one of three ways**, when no other begins: it is committed, it is cancelled,
or a rebuilding leaves no row that shows its node. -/
theorem EditStep.gone (h : t.EditStep c a none) (hc : c.begins a = false)
    (hx : t.editing = some x) :
    (c = .commit ∧ a = .ended (some x)) ∨ (c = .cancel ∧ a = .flag true) ∨
      (c.cause a ≠ none ∧ ∀ r ∈ (t.step c).state.view.rows, r.node ≠ x.node) := by
  generalize he : (none : Editing) = e at h
  cases h with
  | begun shown => simp [Command.begins] at hc
  | typed text => rw [hx] at he; simp at he
  | committed => exact .inl ⟨rfl, by rw [hx]⟩
  | cancelled => exact .inr (.inl ⟨rfl, by rw [hx]; rfl⟩)
  | rebuilt hw _ =>
    rw [hx] at he
    exact .inr (.inr ⟨hw, Editing.adjust_state_eq_none_iff.mp he.symm⟩)
  | _ => rw [hx] at he; simp at he

/-- An edit that is handed out was in progress; either it is committed and nothing is edited then,
or another edit begins. -/
theorem EditStep.of_ended (h : t.EditStep c (.ended (some x)) e) :
    t.editing = some x ∧ (c.begins (.ended (some x)) = true ∨ c = .commit ∧ e = none) := by
  generalize ha : Answer.ended (some x) = a at h
  cases h with
  | begun shown => exact ⟨(Answer.ended.inj ha).symm, .inl rfl⟩
  | committed => exact ⟨(Answer.ended.inj ha).symm, .inr ⟨rfl, rfl⟩⟩
  | quiet _ hne => exact absurd ha.symm (hne _)
  | rebuilt _ hne => exact absurd ha.symm (hne _)
  | _ => simp at ha

end Table

/-- The text typed last, if any was. -/
def typed (cs : List Table.Command) : Option String := (cs.filterMap Table.Command.text?).getLast?

theorem typed_snoc (cs : List Table.Command) (c : Table.Command) (text : String) :
    (typed (cs ++ [c])).getD text = c.text?.getD ((typed cs).getD text) := by
  rw [typed, List.filterMap_append]
  cases h : c.text? <;> simp [typed, h]

/-! ### Edits along a script -/

namespace Script

variable (p : Script)

/-- The `i`-th command is to begin an edit, and is accepted. -/
def StartsAt (i : Nat) : Prop :=
  ∃ row column previous, p.commands[i]? = some (.startEditing row column) ∧
    p.answer? i = some (.ended previous)

/-- The edit that the `i`-th command begins, as it is then: its row and column are those named, its
node is the one shown there, and its text is that of the cell, empty if the cell has none. -/
def Begins (i : Nat) (x : Edit) : Prop :=
  ∃ column text previous, p.commands[i]? = some (.startEditing x.row column) ∧
    p.answer? i = some (.ended previous) ∧ Column.ofIndex column = .ok x.column ∧
    (p.table i).view.valueAt x.row column = .ok x.node ∧
    (p.table i).view.cellText x.row column = .ok text ∧ x.text = text.getD ""

/-- The edit begun by the `i`-th command is in progress before the `k`-th: since it began the table
was editing all the time, and no other edit began. -/
structure Alive (i k : Nat) : Prop where
  starts : p.StartsAt i
  lt : i < k
  le : k ≤ p.commands.length
  editing : ∀ m, i < m → m ≤ k → (p.table m).editing.isSome = true
  single : ∀ m, i < m → m < k → ¬ p.StartsAt m

/-- The `j`-th command ends the edit that the `i`-th began. -/
structure EndsAt (i j : Nat) : Prop where
  alive : p.Alive i j
  lt : j < p.commands.length
  finished : ¬ p.Alive i (j + 1)

end Script

/-- What can become of an edit. -/
inductive Fate where
  /-- It is in progress at the end. -/
  | active
  /-- A command hands it out. -/
  | handedOut (step : Nat) (edit : Edit)
  /-- A command cancels it. -/
  | cancelled (step : Nat)
  /-- A command rebuilds the rows, and it is dropped. -/
  | dropped (step : Nat)

/-- What becomes of the edit `x` that the `i`-th command of a script begins. -/
inductive Script.Meets (p : Script) (i : Nat) (x : Edit) : Fate → Prop
  | active (alive : p.Alive i p.commands.length) : Meets p i x .active
  /-- It is committed, or another edit begins. What is handed out has the node and the column of
  the edit, the text typed last or else that of the cell, and a row that shows the node. -/
  | handedOut {j : Nat} {y : Edit} (ends : p.EndsAt i j)
      (command : p.commands[j]? = some .commit ∨ p.StartsAt j)
      (answer : p.answer? j = some (.ended (some y)))
      (node : y.node = x.node) (column : y.column = x.column)
      (text : y.text = (typed ((p.commands.take j).drop (i + 1))).getD x.text)
      (shown : ∃ r, (p.table j).view.row y.row = .ok r ∧ r.node = y.node) :
      Meets p i x (.handedOut j y)
  | cancelled {j : Nat} (ends : p.EndsAt i j) (command : p.commands[j]? = some .cancel)
      (answer : p.answer? j = some (.flag true)) : Meets p i x (.cancelled j)
  | dropped {j : Nat} (ends : p.EndsAt i j) (cause : p.cause? j ≠ none)
      (gone : ∀ r ∈ (p.table (j + 1)).view.rows, r.node ≠ x.node) : Meets p i x (.dropped j)

namespace Script

variable {p : Script} {i j k m : Nat} {c : Table.Command} {x y : Edit}

/-! ### Beginning -/

theorem startsAt_iff (h : p.commands[i]? = some c) :
    p.StartsAt i ↔ c.begins ((p.table i).step c).result = true := by
  rw [StartsAt, h, answer?_eq h]
  constructor
  · rintro ⟨row, column, previous, hc, ha⟩
    rw [Option.some.inj hc] at ha ⊢
    rw [Option.some.inj ha]
    rfl
  · intro hb
    obtain ⟨row, r, rfl, -, ha, -⟩ := ((p.table i).editStep c).of_begins hb
    exact ⟨row, _, _, rfl, congrArg some ha⟩

theorem not_startsAt_iff (h : p.commands[i]? = some c) :
    ¬ p.StartsAt i ↔ c.begins ((p.table i).step c).result = false := by
  rw [startsAt_iff h, Bool.not_eq_true]

/-- An accepted command to edit begins an edit, which is then in progress. -/
theorem StartsAt.exists_begins (h : p.StartsAt i) : ∃ x, p.Begins i x := by
  obtain ⟨row, column, previous, hc, ha⟩ := h
  obtain ⟨row', r, hc', hr, -, -⟩ := ((p.table i).editStep _).of_begins
    ((startsAt_iff hc).mp ⟨row, column, previous, hc, ha⟩)
  obtain ⟨rfl, rfl⟩ := Table.Command.startEditing.inj hc'
  refine ⟨⟨r.node, .value, row, r.node.value.getD ""⟩, Column.value.index, r.node.value, previous,
    hc, ha, rfl, ?_, ?_, rfl⟩
  · simp [View.valueAt, hr, bind, Except.bind, pure, Except.pure]
  · simp [View.cellText, hr, bind, Except.bind, pure, Except.pure, Column.textOf]

theorem Begins.editing (h : p.Begins i x) : (p.table (i + 1)).editing = some x := by
  obtain ⟨column, text, previous, hc, ha, hcol, hnode, htext, hx⟩ := h
  obtain ⟨row, r, hc', hr, -, he⟩ := ((p.table i).editStep _).of_begins
    ((startsAt_iff hc).mp ⟨_, column, previous, hc, ha⟩)
  obtain ⟨hrow, rfl⟩ := Table.Command.startEditing.inj hc'
  obtain ⟨node, col, row', txt⟩ := x
  simp only at hrow hcol hnode htext hx
  subst hrow
  rw [table_succ hc, he]
  simp only [View.valueAt, View.cellText, hr, Column.ofIndex_index, bind, Except.bind, pure,
    Except.pure, Except.ok.injEq] at hcol hnode htext
  subst hcol hnode htext hx
  rfl

/-! ### Being alive -/

theorem StartsAt.lt (h : p.StartsAt i) : i < p.commands.length := by
  obtain ⟨row, column, previous, hc, -⟩ := h
  exact lt_of_command hc

theorem StartsAt.alive (h : p.StartsAt i) : p.Alive i (i + 1) := by
  refine ⟨h, Nat.lt_succ_self i, h.lt, fun m hm hle => ?_, fun m hm hlt => by omega⟩
  obtain ⟨x, hx⟩ := h.exists_begins
  obtain rfl : m = i + 1 := by omega
  rw [hx.editing]
  rfl

theorem Alive.of_le (h : p.Alive i k) (him : i < m) (hmk : m ≤ k) : p.Alive i m :=
  ⟨h.starts, him, Nat.le_trans hmk h.le, fun n hn hle => h.editing n hn (Nat.le_trans hle hmk),
    fun n hn hlt => h.single n hn (Nat.lt_of_lt_of_le hlt hmk)⟩

/-- An edit stays alive over a command that begins no other and after which there is an edit. -/
theorem Alive.succ (h : p.Alive i k) (hk : k < p.commands.length) (hs : ¬ p.StartsAt k)
    (he : (p.table (k + 1)).editing.isSome = true) : p.Alive i (k + 1) := by
  refine ⟨h.starts, Nat.lt_succ_of_lt h.lt, hk, fun m hm hle => ?_, fun m hm hlt => ?_⟩
  · rcases Nat.lt_or_eq_of_le hle with hlt | rfl
    · exact h.editing m hm (Nat.le_of_lt_succ hlt)
    · exact he
  · rcases Nat.lt_or_eq_of_le (Nat.le_of_lt_succ hlt) with hlt | rfl
    · exact h.single m hm hlt
    · exact hs

/-- At most one edit is alive at a time. -/
theorem Alive.unique (hi : p.Alive i k) (hj : p.Alive j k) : i = j := by
  rcases Nat.lt_trichotomy i j with h | h | h
  · exact absurd hj.starts (hi.single j h hj.lt)
  · exact h
  · exact absurd hi.starts (hj.single i h hi.lt)

/-- **Whatever is being edited was begun, and is alive.** -/
theorem exists_alive (hk : k ≤ p.commands.length) (he : (p.table k).editing.isSome = true) :
    ∃ i, p.Alive i k := by
  induction k with
  | zero =>
    rw [table_zero] at he
    exact absurd he (by simp [start, Table.ofView])
  | succ k ih =>
    obtain ⟨c, hc⟩ := exists_command_of_lt hk
    by_cases hs : p.StartsAt k
    · exact ⟨k, hs.alive⟩
    · -- the command began nothing, so there was an edit before it already
      have hb := (not_startsAt_iff hc).mp hs
      have hbefore : (p.table k).editing.isSome = true := by
        cases hn : (p.table k).editing with
        | some x => rfl
        | none =>
          rw [table_succ hc, ((p.table k).editStep c).eq_none hb hn] at he
          exact absurd he (by simp)
      obtain ⟨i, hi⟩ := ih (Nat.le_of_succ_le hk) hbefore
      exact ⟨i, hi.succ hk hs he⟩

/-- **An edit that is alive is the one that began**, with the text typed last. -/
theorem Alive.edit (h : p.Alive i k) (hx : p.Begins i x) :
    ∃ y, (p.table k).editing = some y ∧ y.node = x.node ∧ y.column = x.column ∧
      y.text = (typed ((p.commands.take k).drop (i + 1))).getD x.text := by
  -- the induction is on the number of commands that the edit has outlived
  obtain ⟨n, rfl⟩ := Nat.exists_eq_add_of_lt h.lt
  induction n with
  | zero =>
    have hnil : (p.commands.take (i + 0 + 1)).drop (i + 1) = [] :=
      List.drop_eq_nil_of_le (List.length_take_le _ _)
    refine ⟨x, hx.editing, rfl, rfl, ?_⟩
    rw [hnil]
    rfl
  | succ n ih =>
    have hlt : i + n + 1 < p.commands.length := h.le
    obtain ⟨y, hy, hnode, hcolumn, htext⟩ := ih (h.of_le (by omega) (by omega))
    obtain ⟨c, hc⟩ := exists_command_of_lt hlt
    have hb := (not_startsAt_iff hc).mp (h.single _ (by omega) (by omega))
    obtain ⟨z, hz⟩ := Option.isSome_iff_exists.mp (h.editing _ h.lt (Nat.le_refl _))
    have hstep := (p.table (i + n + 1)).editStep c
    rw [← table_succ hc] at hstep
    have hz' : (p.table (i + n + 1 + 1)).editing = some z := hz
    rw [hz'] at hstep
    obtain ⟨hn, hcol, ht⟩ := hstep.kept hb hy
    refine ⟨z, hz, hn.trans hnode, hcol.trans hcolumn, ?_⟩
    have hslice : (p.commands.take (i + (n + 1) + 1)).drop (i + 1) =
        (p.commands.take (i + n + 1)).drop (i + 1) ++ [c] := by
      have hlen : (p.commands.take (i + n + 1)).length = i + n + 1 :=
        List.length_take_of_le (Nat.le_of_lt hlt)
      rw [← Nat.add_assoc i n 1, List.take_add_one, hc, Option.toList_some,
        List.drop_append_of_le_length (by omega)]
    rw [hslice, typed_snoc, ← htext]
    exact ht

/-! ### Ending -/

theorem EndsAt.unique (hj : p.EndsAt i j) (hk : p.EndsAt i k) : j = k := by
  rcases Nat.lt_trichotomy j k with h | h | h
  · exact absurd (hk.alive.of_le (Nat.lt_succ_of_lt hj.alive.lt) h) hj.finished
  · exact h
  · exact absurd (hj.alive.of_le (Nat.lt_succ_of_lt hk.alive.lt) h) hk.finished

theorem EndsAt.not_active (hj : p.EndsAt i j) : ¬ p.Alive i p.commands.length :=
  fun h => hj.finished (h.of_le (Nat.lt_succ_of_lt hj.alive.lt) hj.lt)

/-- An edit that is begun is alive at the end, or some command ends it. -/
theorem StartsAt.active_or_endsAt (h : p.StartsAt i) :
    p.Alive i p.commands.length ∨ ∃ j, p.EndsAt i j := by
  by_cases hends : ∃ j, p.EndsAt i j
  · exact .inr hends
  · -- no command ends it, so it is alive at every moment after it began
    have halive : ∀ n, i + 1 + n ≤ p.commands.length → p.Alive i (i + 1 + n) := by
      intro n
      induction n with
      | zero => exact fun _ => h.alive
      | succ n ih =>
        intro hn
        have hbefore := ih (Nat.le_of_succ_le hn)
        by_cases hnext : p.Alive i (i + 1 + n + 1)
        · exact hnext
        · exact absurd ⟨_, hbefore, hn, hnext⟩ hends
    have hlast := halive (p.commands.length - (i + 1)) (by have := h.lt; omega)
    rw [Nat.add_sub_cancel' h.lt] at hlast
    exact .inl hlast

/-- A command that ends an edit begins another, or there is no edit after it. -/
theorem EndsAt.startsAt_or (h : p.EndsAt i j) :
    p.StartsAt j ∨ ¬ p.StartsAt j ∧ (p.table (j + 1)).editing = none := by
  by_cases hs : p.StartsAt j
  · exact .inl hs
  · refine .inr ⟨hs, ?_⟩
    cases he : (p.table (j + 1)).editing with
    | none => rfl
    | some y => exact absurd (h.alive.succ h.lt hs (by rw [he]; rfl)) h.finished

/-- A command ends an edit when it begins another, or when there is no edit after it. -/
theorem Alive.endsAt (h : p.Alive i j) (hj : j < p.commands.length)
    (ho : p.StartsAt j ∨ (p.table (j + 1)).editing = none) : p.EndsAt i j := by
  refine ⟨h, hj, fun hnext => ?_⟩
  rcases ho with hs | hn
  · exact hnext.single j h.lt (Nat.lt_succ_self j) hs
  · have := hnext.editing (j + 1) hnext.lt (Nat.le_refl _)
    rw [hn] at this
    exact absurd this (by simp)

/-! ### The fate of an edit -/

/-- What is handed out when an edit ends is that edit, and its row shows its node. -/
theorem EndsAt.handedOut (h : p.EndsAt i j) (hx : p.Begins i x)
    (hy : (p.table j).editing = some y)
    (command : p.commands[j]? = some .commit ∨ p.StartsAt j)
    (answer : p.answer? j = some (.ended (some y))) : p.Meets i x (.handedOut j y) := by
  obtain ⟨z, hz, hnode, hcolumn, htext⟩ := h.alive.edit hx
  obtain rfl : y = z := Option.some.inj (hy.symm.trans hz)
  obtain ⟨r, hr, hrn⟩ := ((p.reachable_table j).boundTo hy).shown
  exact .handedOut h command answer hnode hcolumn htext ⟨r, View.row_eq_ok_iff.mpr hr, hrn⟩

/-- The way in which an edit ends is one of the fates. -/
theorem EndsAt.exists_fate (h : p.EndsAt i j) (hx : p.Begins i x) : ∃ f, p.Meets i x f := by
  obtain ⟨c, hc⟩ := exists_command_of_lt h.lt
  obtain ⟨y, hy, hnode, -, -⟩ := h.alive.edit hx
  have hstep := (p.table j).editStep c
  rw [← table_succ hc] at hstep
  rcases h.startsAt_or with hs | ⟨hs, hnone⟩
  · obtain ⟨row, r, -, -, ha, -⟩ := hstep.of_begins ((startsAt_iff hc).mp hs)
    rw [hy] at ha
    exact ⟨_, h.handedOut hx hy (.inr hs) (by rw [answer?_eq hc, ha])⟩
  · rw [hnone] at hstep
    rcases hstep.gone ((not_startsAt_iff hc).mp hs) hy with ⟨rfl, ha⟩ | ⟨rfl, ha⟩ | ⟨ha, hgone⟩
    · exact ⟨_, h.handedOut hx hy (.inl hc) (by rw [answer?_eq hc, ha])⟩
    · exact ⟨_, .cancelled h hc (by rw [answer?_eq hc, ha])⟩
    · refine ⟨_, .dropped h (by rwa [cause?_eq hc]) fun r hr => ?_⟩
      rw [table_succ hc] at hr
      rw [← hnode]
      exact hgone r hr

/-- Neither committing nor beginning an edit rebuilds the rows. -/
theorem cause?_of_handedOut (command : p.commands[j]? = some .commit ∨ p.StartsAt j) :
    p.cause? j = none := by
  rcases command with hc | ⟨row, column, previous, hc, -⟩
  · rw [cause?_eq hc]; rfl
  · rw [cause?_eq hc]; rfl

/-- What becomes of an edit that the `j`-th command ends, as the command and its answer tell. -/
def fateAt (p : Script) (j : Nat) : Fate :=
  if (p.cause? j).isSome then .dropped j
  else match p.answer? j with
    | some (.ended (some y)) => .handedOut j y
    | _ => .cancelled j

/-- The fate of an edit that is ended is told by the command that ends it. -/
theorem Meets.eq_fateAt {f : Fate} (h : p.Meets i x f) (hj : p.EndsAt i j) : f = p.fateAt j := by
  cases h with
  | active alive => exact absurd alive hj.not_active
  | handedOut ends command answer _ _ _ _ =>
    obtain rfl := hj.unique ends
    rw [fateAt, cause?_of_handedOut command, answer]
    rfl
  | cancelled ends command answer =>
    obtain rfl := hj.unique ends
    have hcause : p.cause? j = none := by rw [cause?_eq command]; rfl
    rw [fateAt, hcause, answer]
    rfl
  | dropped ends cause _ =>
    obtain rfl := hj.unique ends
    rw [fateAt, if_pos (Option.isSome_iff_ne_none.mpr cause)]

theorem Meets.active_or_endsAt {f : Fate} (h : p.Meets i x f) :
    f = .active ∧ p.Alive i p.commands.length ∨ ∃ j, p.EndsAt i j := by
  cases h with
  | active alive => exact .inl ⟨rfl, alive⟩
  | handedOut ends _ _ _ _ _ _ => exact .inr ⟨_, ends⟩
  | cancelled ends _ _ => exact .inr ⟨_, ends⟩
  | dropped ends _ _ => exact .inr ⟨_, ends⟩

/-- **An edit has one fate only.** -/
theorem Meets.unique {f f' : Fate} (h : p.Meets i x f) (h' : p.Meets i x f') : f = f' := by
  rcases h.active_or_endsAt with ⟨rfl, halive⟩ | ⟨j, hj⟩
  · rcases h'.active_or_endsAt with ⟨rfl, -⟩ | ⟨j, hj⟩
    · rfl
    · exact absurd halive hj.not_active
  · rw [h.eq_fateAt hj, h'.eq_fateAt hj]

/-- **Every edit that is begun has a fate, and only one.** -/
theorem Begins.existsUnique_fate (hx : p.Begins i x) (h : p.StartsAt i) : ∃! f, p.Meets i x f := by
  have hex : ∃ f, p.Meets i x f := by
    rcases h.active_or_endsAt with hactive | ⟨j, hends⟩
    · exact ⟨_, .active hactive⟩
    · exact hends.exists_fate hx
  obtain ⟨f, hf⟩ := hex
  exact ⟨f, hf, fun f' hf' => hf'.unique hf⟩

/-- **Every edit that is handed out was begun by one command.** -/
theorem existsUnique_begins_of_ended (h : p.answer? j = some (.ended (some y))) :
    ∃! i, ∃ x, p.Begins i x ∧ p.Meets i x (.handedOut j y) := by
  obtain ⟨c, hc, ha⟩ := exists_command_of_answer? h
  have hstep := (p.table j).editStep c
  rw [← table_succ hc, ha] at hstep
  obtain ⟨hy, hend⟩ := hstep.of_ended
  -- what is handed out was in progress, so it was begun, and this command ends it
  obtain ⟨i, hi⟩ := exists_alive (Nat.le_of_lt (lt_of_command hc)) (by rw [hy]; rfl)
  obtain ⟨x, hx⟩ := hi.starts.exists_begins
  have hcommand : p.commands[j]? = some .commit ∨ p.StartsAt j := by
    rcases hend with hb | ⟨rfl, -⟩
    · exact .inr ((startsAt_iff hc).mpr (by rw [ha]; exact hb))
    · exact .inl hc
  have hends : p.EndsAt i j := by
    refine hi.endsAt (lt_of_command hc) ?_
    rcases hend with hb | ⟨-, hnone⟩
    · exact .inl ((startsAt_iff hc).mpr (by rw [ha]; exact hb))
    · exact .inr hnone
  refine ⟨i, ⟨x, hx, hends.handedOut hx hy hcommand h⟩, ?_⟩
  rintro i' ⟨x', -, hm⟩
  cases hm with
  | handedOut ends _ _ _ _ _ _ => exact ends.alive.unique hi

/-- **A rebuilding drops an edit exactly when no row shows its node then.** -/
theorem Alive.endsAt_iff_of_cause? (h : p.Alive i j) (hx : p.Begins i x)
    (hcause : p.cause? j ≠ none) :
    p.EndsAt i j ↔ ∀ r ∈ (p.table (j + 1)).view.rows, r.node ≠ x.node := by
  have hlt : j < p.commands.length := by
    by_contra hge
    exact hcause (by simp [cause?, List.getElem?_eq_none (Nat.le_of_not_lt hge)])
  obtain ⟨c, hc⟩ := exists_command_of_lt hlt
  obtain ⟨y, hy, hnode, -, -⟩ := h.edit hx
  -- the command rebuilds the rows, so it begins no edit and only adjusts the one in progress
  have hs : ¬ p.StartsAt j := fun hs => hcause (cause?_of_handedOut (.inr hs))
  have hediting : (p.table (j + 1)).editing =
      (Editing.adjust (some y) (p.table (j + 1)).view.rows).state := by
    rw [cause?_eq hc] at hcause
    rw [table_succ hc, Table.editing_step_of_rebuilt hcause, hy]
  rw [← hnode, ← Editing.adjust_state_eq_none_iff, ← hediting]
  constructor
  · intro hends
    rcases hends.startsAt_or with hs' | ⟨-, hnone⟩
    · exact absurd hs' hs
    · exact hnone
  · exact fun hnone => h.endsAt hlt (.inr hnone)

end Script

/-- **No edit is lost, and none is handed out twice or without having been begun.** Along every
script:

* each accepted command to edit begins an edit of the cell that it names, and just one thing becomes
  of it: it is in progress at the end, or it is handed out by one later command (committed, or ended
  by the next edit), or cancelled, or dropped when the rows are rebuilt;
* whatever is handed out was begun by just one command, and has the node and the column of then, the
  text typed last since then (or else that of the cell), and a row that shows the node;
* a rebuilding drops an edit exactly when no row shows its node then;
* if nothing is being edited, only an accepted command to edit changes that. -/
theorem edit_meets_one_fate (p : Script) :
    (∀ i, p.StartsAt i → ∃ x, p.Begins i x ∧ ∃! f, p.Meets i x f) ∧
      (∀ j y, p.answer? j = some (.ended (some y)) →
        ∃! i, ∃ x, p.Begins i x ∧ p.Meets i x (.handedOut j y)) ∧
      (∀ i j x, p.Begins i x → p.Alive i j → p.cause? j ≠ none →
        (p.EndsAt i j ↔ ∀ r ∈ (p.table (j + 1)).view.rows, r.node ≠ x.node)) ∧
      ∀ j, (p.table j).editing = none → (p.table (j + 1)).editing ≠ none → p.StartsAt j := by
  refine ⟨fun i hi => ?_, fun j y h => Script.existsUnique_begins_of_ended h,
    fun i j x hx h hc => h.endsAt_iff_of_cause? hx hc, fun j hnone hsome => ?_⟩
  · obtain ⟨x, hx⟩ := hi.exists_begins
    exact ⟨x, hx, hx.existsUnique_fate hi⟩
  · cases hc : p.commands[j]? with
    | none =>
      -- after the last command nothing changes any more
      have hlen := List.getElem?_eq_none_iff.mp hc
      rw [Script.table, List.take_of_length_le (Nat.le_succ_of_le hlen)] at hsome
      rw [Script.table, List.take_of_length_le hlen] at hnone
      exact absurd hnone hsome
    | some c =>
      by_contra hs
      rw [Script.table_succ hc, ((p.table j).editStep c).eq_none
        ((Script.not_startsAt_iff hc).mp hs) hnone] at hsome
      exact hsome rfl

/-- The edit of `a` gets a text, outlives a refused command, and is handed out when the edit of `b`
begins, which is dropped when `b` is gone. -/
theorem edit_meets_one_fate_twice :
    let a := Node.leaf "a" none
    let b := Node.leaf "b" (some "v")
    let p : Script := ⟨[a, b], [], [],
      [.startEditing 0 1, .setText "x", .startEditing 0 0, .startEditing 1 1,
        .view (.replace [a])]⟩
    p.StartsAt 0 ∧ (∃ x, p.Begins 0 x ∧ ∃! f, p.Meets 0 x f) ∧
      p.answer? 3 = some (.ended (some ⟨a, .value, 0, "x"⟩)) ∧
      (∃! i, ∃ x, p.Begins i x ∧ p.Meets i x (.handedOut 3 ⟨a, .value, 0, "x"⟩)) ∧
      p.Begins 3 ⟨b, .value, 1, "v"⟩ ∧ p.EndsAt 3 4 ∧ (p.table 5).editing = none := by
  intro a b p
  obtain ⟨hone, hback, hdrop, hnew⟩ := edit_meets_one_fate p
  have hs : p.StartsAt 0 := hnew 0 (by decide) (by decide)
  have ha : p.answer? 3 = some (.ended (some ⟨a, .value, 0, "x"⟩)) := by decide
  have hb : p.Begins 3 ⟨b, .value, 1, "v"⟩ :=
    ⟨1, some "v", some ⟨a, .value, 0, "x"⟩, rfl, ha, rfl, rfl, rfl, rfl⟩
  have halive : p.Alive 3 4 := Script.StartsAt.alive ⟨1, 1, _, rfl, ha⟩
  have hend : p.EndsAt 3 4 := (hdrop 3 4 _ hb halive (by decide)).mpr (by decide)
  exact ⟨hs, hone 0 hs, ha, hback 3 _ ha, hb, hend, by decide⟩

end Outline
