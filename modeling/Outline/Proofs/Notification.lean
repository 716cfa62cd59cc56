import Mathlib.Data.List.Induction
import Mathlib.Data.List.Nodup
import Outline.Proofs.Script

/-!
# Who is told of what

What a client sees of a command is a `Turn`: the command, its answer, how many rows there are
afterwards, and the calls to listeners. From the turns alone it can tell which listeners are
registered at a moment: those that were, and that no later turn was to remove (`registered`).

`Turn.Honours` is the contract of one turn with the turns before it. In a history that honours it
no number is given out twice (`Honoured.nodup_issued`), and each number given out either is
registered or was removed with success, and that once (`Honoured.balance`).

That views and tables honour the contract is an induction over the run. Its invariant, the
`Ledger`, ties the history to the state: the listeners of the state are the registered ones, and
the numbers given out are those below the next one.
-/

namespace Outline

open Outcome (runFrom stateAfter)

/-! ### Turns -/

/-- What is seen of a command. -/
structure Turn where
  /-- The command. -/
  command : Table.Command
  /-- Its answer. -/
  answer : Answer
  /-- The number of rows afterwards. -/
  rowCount : Nat
  /-- The calls to listeners, in order. -/
  calls : List Call

namespace Turn

/-- What is seen of a command to a view. -/
def ofView (c : View.Command) (o : Outcome View Answer) : Turn :=
  ⟨.view c, o.result, o.state.rowCount, o.calls⟩

/-- What is seen of a command to a table. -/
def ofTable (c : Table.Command) (o : Outcome Table Answer) : Turn :=
  ⟨c, o.result, o.state.rowCount, o.calls⟩

/-- Why the rows were rebuilt, if they were. -/
def cause (x : Turn) : Option Cause := x.command.cause x.answer

/-- The number and the name of the listener that the turn registered, if it did. -/
def registers? (x : Turn) : Option (Nat × String) :=
  match x.command, x.answer with
  | .view (.listen tag), .number id => some (id, tag)
  | _, _ => none

/-- Whether the turn was to remove the listener with this number. -/
def removes (id : Nat) (x : Turn) : Bool :=
  match x.command with
  | .view (.unlisten i) => id == i
  | _ => false

/-- Whether the turn was to remove the listener with this number, and answered that it did. -/
def removed (id : Nat) (x : Turn) : Bool := x.removes id && decide (x.answer = .flag true)

/-- A turn that neither registers nor removes a listener. -/
structure Plain (x : Turn) : Prop where
  listen : ∀ tag, x.command ≠ .view (.listen tag)
  unlisten : ∀ id, x.command ≠ .view (.unlisten id)

variable {x : Turn} {tag : String} {id : Nat}

theorem command_cases (x : Turn) :
    (∃ tag, x.command = .view (.listen tag)) ∨ (∃ id, x.command = .view (.unlisten id)) ∨
      x.Plain := by
  by_cases hl : ∃ tag, x.command = .view (.listen tag)
  · exact .inl hl
  · by_cases hu : ∃ id, x.command = .view (.unlisten id)
    · exact .inr (.inl hu)
    · exact .inr (.inr ⟨not_exists.mp hl, not_exists.mp hu⟩)

theorem registers?_of_listen (h : x.command = .view (.listen tag)) (ha : x.answer = .number id) :
    x.registers? = some (id, tag) := by
  rw [registers?, h, ha]

theorem removes_of_listen (h : x.command = .view (.listen tag)) : x.removes id = false := by
  rw [removes, h]

theorem registers?_of_unlisten (h : x.command = .view (.unlisten id)) : x.registers? = none := by
  rw [registers?, h]

theorem removes_of_unlisten (h : x.command = .view (.unlisten id)) (i : Nat) :
    x.removes i = (i == id) := by
  rw [removes, h]

theorem Plain.registers? (h : x.Plain) : x.registers? = none := by
  unfold Turn.registers?
  split
  · next hc _ => exact absurd hc (h.listen _)
  · rfl

theorem Plain.removes (h : x.Plain) : x.removes id = false := by
  unfold Turn.removes
  split
  · next hc => exact absurd hc (h.unlisten _)
  · rfl

end Turn

/-- The numbers given to listeners, in order. -/
def issued (turns : List Turn) : List Nat := turns.filterMap fun x => x.registers?.map Prod.fst

/-- The registered listeners: those that a turn registered and no later turn was to remove, in the
order of registration. -/
def registered : List Turn → List (Nat × String)
  | [] => []
  | x :: later =>
    (x.registers?.toList.filter fun e => !later.any (Turn.removes e.1)) ++ registered later

/-- **The contract of a turn** with the turns before it. -/
structure Turn.Honours (past : List Turn) (x : Turn) : Prop where
  /-- If the rows were rebuilt, each registered listener is called once, in the order of
  registration, with the cause and the number of rows that there are now; if not, none is. -/
  calls : x.calls = match x.cause with
    | some cause => (registered past).map fun e => ⟨e.1, e.2, cause, x.rowCount⟩
    | none => []
  /-- A new listener gets a number that no listener had before. -/
  listen : ∀ tag, x.command = .view (.listen tag) → ∃ id, x.answer = .number id ∧
    id ∉ issued past ∧ registered (past ++ [x]) = registered past ++ [(id, tag)]
  /-- A removal succeeds exactly when the listener is registered, and leaves all others. -/
  unlisten : ∀ id, x.command = .view (.unlisten id) →
    x.answer = .flag (decide (id ∈ (registered past).map Prod.fst)) ∧
      registered (past ++ [x]) = (registered past).filter fun e => e.1 != id
  /-- Nothing else registers or removes a listener. -/
  plain : x.Plain → registered (past ++ [x]) = registered past

/-- Every turn honours the contract with the turns before it. -/
def Honoured (turns : List Turn) : Prop :=
  ∀ past x later, turns = past ++ x :: later → x.Honours past

/-! ### One more turn -/

section

variable {past : List Turn} {x : Turn}

theorem issued_snoc (past : List Turn) (x : Turn) :
    issued (past ++ [x]) = issued past ++ (x.registers?.map Prod.fst).toList := by
  rw [issued, List.filterMap_append]
  cases h : x.registers? <;> simp [issued, h]

/-- One more turn takes away what it was to remove and puts what it registered at the end. -/
theorem registered_snoc (past : List Turn) (x : Turn) :
    registered (past ++ [x]) =
      ((registered past).filter fun e => !x.removes e.1) ++ x.registers?.toList := by
  induction past with
  | nil => simp [registered]
  | cons y past ih =>
    -- an earlier listener stays if it did before and the last turn does not remove it
    have hany : ∀ e : Nat × String, (!(past ++ [x]).any (Turn.removes e.1)) =
        (!x.removes e.1 && !past.any (Turn.removes e.1)) := by
      intro e
      rw [List.any_append, Bool.not_or, Bool.and_comm]
      simp
    simp only [List.cons_append, registered, ih, hany, List.filter_append, List.filter_filter,
      List.append_assoc]

theorem honoured_nil : Honoured [] := fun _ _ _ h => absurd h (by simp)

theorem Honoured.snoc (h : Honoured past) (hx : x.Honours past) : Honoured (past ++ [x]) := by
  intro past' y later hsplit
  -- the turn in question is the last one, or it belongs to the history before
  rcases List.eq_nil_or_concat later with rfl | ⟨later', z, rfl⟩
  · obtain ⟨rfl, hxy⟩ := List.append_inj' hsplit rfl
    obtain rfl : x = y := by simpa using hxy
    exact hx
  · have hinner : past ++ [x] = (past' ++ y :: later') ++ [z] := by
      rw [hsplit]; simp
    exact h past' y later' (List.append_inj' hinner rfl).1

theorem Honoured.of_snoc (h : Honoured (past ++ [x])) : Honoured past ∧ x.Honours past := by
  refine ⟨fun past' y later hsplit => h past' y (later ++ [x]) ?_, h past x [] rfl⟩
  rw [hsplit, List.append_assoc, List.cons_append]

/-! ### Numbers are given once, and taken back once -/

/-- **No number is given out twice**, not even after its listener was removed. -/
theorem Honoured.nodup_issued {turns : List Turn} (h : Honoured turns) : (issued turns).Nodup := by
  induction turns using List.reverseRecOn with
  | nil => exact List.nodup_nil
  | append_singleton past x ih =>
    obtain ⟨hpast, hx⟩ := h.of_snoc
    rw [issued_snoc]
    rcases x.command_cases with ⟨tag, hc⟩ | ⟨id, hc⟩ | hp
    · obtain ⟨id, ha, hnew, -⟩ := hx.listen tag hc
      rw [Turn.registers?_of_listen hc ha]
      refine List.nodup_append.mpr ⟨ih hpast, List.nodup_singleton id, fun i hi j hj => ?_⟩
      obtain rfl : j = id := List.mem_singleton.mp hj
      exact fun hij => hnew (hij ▸ hi)
    · rw [Turn.registers?_of_unlisten hc]
      simpa using ih hpast
    · rw [hp.registers?]
      simpa using ih hpast

/-- **Each number given out either is registered, or was removed with success and that once.** -/
theorem Honoured.balance {turns : List Turn} (h : Honoured turns) (id : Nat) :
    turns.countP (Turn.removed id) + ((registered turns).map Prod.fst).count id =
      (issued turns).count id := by
  induction turns using List.reverseRecOn with
  | nil => rfl
  | append_singleton past x ih =>
    obtain ⟨hpast, hx⟩ := h.of_snoc
    have ih := ih hpast
    rw [List.countP_append, List.countP_singleton, issued_snoc, List.count_append]
    rcases x.command_cases with ⟨tag, hc⟩ | ⟨i, hc⟩ | hp
    · -- one number more is given out, and registered
      obtain ⟨i, ha, -, hreg⟩ := hx.listen tag hc
      rw [hreg, Turn.registers?_of_listen hc ha, Turn.removed, Turn.removes_of_listen hc,
        List.map_append, List.count_append]
      simp only [Bool.false_and, Bool.false_eq_true, if_false, List.map_cons, List.map_nil,
        Option.map_some, Option.toList_some]
      omega
    · -- a registered number is taken back; it stands once among the registered ones
      obtain ⟨ha, hreg⟩ := hx.unlisten i hc
      have hmap : ((registered past).filter fun e => e.1 != i).map Prod.fst =
          ((registered past).map Prod.fst).filter (· != i) := by
        rw [List.filter_map]; rfl
      rw [hreg, hmap, Turn.registers?_of_unlisten hc, Turn.removed, Turn.removes_of_unlisten hc, ha]
      have hone : ((registered past).map Prod.fst).count id ≤ 1 := by
        have := List.nodup_iff_count_le_one.mp hpast.nodup_issued id
        omega
      by_cases hid : id = i
      · subst hid
        have hgone : (((registered past).map Prod.fst).filter (· != id)).count id = 0 := by
          rw [List.count_eq_zero]
          simp
        by_cases hmem : id ∈ (registered past).map Prod.fst
        · have hpos := List.count_pos_iff.mpr hmem
          simp only [beq_self_eq_true, hmem, decide_true, Bool.and_self, if_true, Option.map_none,
            Option.toList_none, List.count_nil]
          omega
        · have hzero := List.count_eq_zero.mpr hmem
          simp [hgone, hmem]
          omega
      · have hkeep : (((registered past).map Prod.fst).filter (· != i)).count id =
            ((registered past).map Prod.fst).count id := by
          rw [List.count_filter]
          simpa using hid
        rw [hkeep, beq_eq_false_iff_ne.mpr hid]
        simpa using ih
    · rw [hx.plain hp, hp.registers?, Turn.removed, hp.removes]
      simpa using ih

end

/-! ### The ledger -/

/-- The listeners of a state are those that the turns registered, and the numbers given out are
those below the next one. -/
structure Ledger (turns : List Turn) (l : Listeners) : Prop where
  entries : l.entries = registered turns
  issued : issued turns = List.range l.nextId
  honoured : Honoured turns

theorem ledger_nil : Ledger [] .empty := ⟨rfl, rfl, honoured_nil⟩

/-- What one turn may do to the listeners. -/
inductive Turn.Moves (x : Turn) (l : Listeners) : Listeners → Prop
  /-- Register a listener, and answer its number. -/
  | listen {tag : String} (command : x.command = .view (.listen tag))
      (answer : x.answer = .number (l.add tag).1) : Moves x l (l.add tag).2
  /-- Remove a listener, and answer whether there was one. -/
  | unlisten {id : Nat} (command : x.command = .view (.unlisten id))
      (answer : x.answer = .flag (l.remove id).1) : Moves x l (l.remove id).2
  /-- Leave them as they are. -/
  | plain (h : x.Plain) : Moves x l l

/-- A turn tells the listeners when it rebuilt the rows. -/
def Turn.Tells (x : Turn) (l : Listeners) : Prop :=
  x.calls = match x.cause with
    | some cause => l.notify ⟨cause, x.rowCount⟩
    | none => []

section

variable {past : List Turn} {l l' : Listeners} {x : Turn}

/-- A listener is registered in the state when it is by the turns. -/
theorem Ledger.contains_eq (h : Ledger past l) (id : Nat) :
    l.contains id = decide (id ∈ (registered past).map Prod.fst) := by
  rw [Listeners.contains, h.entries, Bool.eq_iff_iff, decide_eq_true_iff, List.any_eq_true,
    List.mem_map]
  simp only [beq_iff_eq]

theorem Ledger.calls_eq (h : Ledger past l) (ht : x.Tells l) :
    x.calls = match x.cause with
      | some cause => (registered past).map fun e => ⟨e.1, e.2, cause, x.rowCount⟩
      | none => [] := by
  rw [ht]
  cases x.cause with
  | none => rfl
  | some cause => rw [← h.entries]; rfl

/-- **One more turn keeps the ledger**: the turn honours the contract, and the listeners after it
are those registered then. -/
theorem Ledger.snoc (h : Ledger past l) (hm : x.Moves l l') (ht : x.Tells l) :
    Ledger (past ++ [x]) l' := by
  have hcalls := h.calls_eq ht
  cases hm with
  | @listen tag command answer =>
    have hentries : registered (past ++ [x]) = registered past ++ [(l.nextId, tag)] := by
      simp [registered_snoc, Turn.registers?_of_listen command answer,
        Turn.removes_of_listen command, Listeners.add]
    refine ⟨?_, ?_, h.honoured.snoc ⟨hcalls, fun tag' hc => ?_, fun id hc => ?_, fun hp => ?_⟩⟩
    · rw [Listeners.entries_add, h.entries, hentries]
    · rw [issued_snoc, Turn.registers?_of_listen command answer, h.issued]
      exact List.range_succ.symm
    · obtain rfl : tag = tag' := by simpa [command] using hc
      refine ⟨l.nextId, answer, ?_, hentries⟩
      rw [h.issued, List.mem_range]
      exact Nat.lt_irrefl _
    · simp [command] at hc
    · exact absurd command (hp.listen tag)
  | @unlisten id command answer =>
    have hentries : registered (past ++ [x]) =
        (registered past).filter fun e => e.1 != id := by
      simp [registered_snoc, Turn.registers?_of_unlisten command,
        Turn.removes_of_unlisten command, bne]
    refine ⟨?_, ?_, h.honoured.snoc ⟨hcalls, fun tag hc => ?_, fun id' hc => ?_, fun hp => ?_⟩⟩
    · rw [hentries, ← h.entries]; rfl
    · rw [issued_snoc, Turn.registers?_of_unlisten command, h.issued]
      exact List.append_nil _
    · simp [command] at hc
    · obtain rfl : id = id' := by simpa [command] using hc
      exact ⟨by rw [answer, ← h.contains_eq]; rfl, hentries⟩
    · exact absurd command (hp.unlisten id)
  | plain hp =>
    have hentries : registered (past ++ [x]) = registered past := by
      simp [registered_snoc, hp.registers?, hp.removes]
    refine ⟨by rw [hentries, h.entries], ?_, h.honoured.snoc ⟨hcalls, fun tag hc => ?_,
      fun id hc => ?_, fun _ => hentries⟩⟩
    · rw [issued_snoc, hp.registers?, h.issued]
      exact List.append_nil _
    · exact absurd hc (hp.listen tag)
    · exact absurd hc (hp.unlisten id)

/-- **A run keeps the ledger** when each of its steps does to the listeners what a turn may, and
tells them what a turn does. -/
theorem Ledger.run {σ γ : Type} {step : σ → γ → Outcome σ Answer}
    {turn : γ → Outcome σ Answer → Turn} (listeners : σ → Listeners)
    (hmoves : ∀ s c, (turn c (step s c)).Moves (listeners s) (listeners (step s c).state))
    (htells : ∀ s c, (turn c (step s c)).Tells (listeners s))
    {s : σ} (h : Ledger past (listeners s)) (cs : List γ) :
    Ledger (past ++ List.zipWith turn cs (runFrom step s cs))
      (listeners (stateAfter step s cs)) := by
  induction cs generalizing past s with
  | nil => simpa [runFrom, stateAfter] using h
  | cons c cs ih =>
    -- the first turn joins the history before the others
    have hnext := ih (h.snoc (hmoves s c) (htells s c))
    rw [List.append_assoc] at hnext
    exact hnext

end

/-! ### Views and tables keep the ledger -/

namespace View

theorem listeners_adopt (v : View) (changed : Bool) (k : Expansion) (before : List Event) :
    (v.adopt changed k before).state.listeners = v.listeners := by
  cases changed <;> rfl

/-- Expanding, collapsing and replacing leave the listeners as they are. -/
theorem moves_step (v : View) (c : Command) :
    (Turn.ofView c (v.step c)).Moves v.listeners (v.step c).state.listeners := by
  cases c with
  | act verb i =>
    have hl : (v.step (.act verb i)).state.listeners = v.listeners := by
      cases hr : v.row i with
      | error e => simp only [step, act_of_row_eq_error hr, Outcome.state_map]
      | ok r =>
        simp only [step, act_of_row_eq_ok hr, Outcome.state_map]
        exact listeners_adopt v _ _ _
    rw [hl]
    exact .plain ⟨by simp [Turn.ofView], by simp [Turn.ofView]⟩
  | expandAll =>
    have hl : (v.step .expandAll).state.listeners = v.listeners := listeners_adopt v _ _ _
    rw [hl]
    exact .plain ⟨by simp [Turn.ofView], by simp [Turn.ofView]⟩
  | collapseAll =>
    have hl : (v.step .collapseAll).state.listeners = v.listeners := listeners_adopt v _ _ _
    rw [hl]
    exact .plain ⟨by simp [Turn.ofView], by simp [Turn.ofView]⟩
  | replace nodes => exact .plain ⟨by simp [Turn.ofView], by simp [Turn.ofView]⟩
  | listen tag => exact .listen rfl rfl
  | unlisten id => exact .unlisten rfl rfl

theorem tells_step (v : View) (c : Command) :
    (Turn.ofView c (v.step c)).Tells v.listeners := v.calls_step c

end View

namespace Table

/-- A table does to the listeners what its view does; editing leaves them as they are. -/
theorem moves_step (t : Table) (c : Command) :
    (Turn.ofTable c (t.step c)).Moves t.view.listeners (t.step c).state.view.listeners := by
  cases hc : c.toView? with
  | none =>
    rw [(view_step_of_editing hc).1]
    have hne : ∀ w, c ≠ .view w := fun w h => by simp [h, Command.toView?] at hc
    exact .plain ⟨fun tag => hne _, fun id => hne _⟩
  | some w =>
    obtain rfl := Command.eq_view_of_toView?_eq_some hc
    have hview := t.view.moves_step w
    rw [view_step]
    -- the turns of view and table have the same command and, where it matters, the same answer
    generalize (t.view.step w).state.listeners = l at hview ⊢
    cases hview with
    | @listen tag command answer =>
      obtain rfl : w = .listen tag := by simpa [Turn.ofView] using command
      exact .listen rfl rfl
    | @unlisten id command answer =>
      obtain rfl : w = .unlisten id := by simpa [Turn.ofView] using command
      exact .unlisten rfl rfl
    | plain hp => exact .plain ⟨hp.listen, hp.unlisten⟩

theorem tells_step (t : Table) (c : Command) :
    (Turn.ofTable c (t.step c)).Tells t.view.listeners := by
  cases hc : c.toView? with
  | none =>
    have hcause : (Turn.ofTable c (t.step c)).cause = none := by
      cases c with
      | view w => exact absurd hc (by simp [Command.toView?])
      | _ => rfl
    rw [Turn.Tells, hcause]
    simp only [Turn.ofTable, Outcome.calls, (view_step_of_editing hc).2, List.filterMap_nil]
  | some w =>
    obtain rfl := Command.eq_view_of_toView?_eq_some hc
    have hview := t.view.tells_step w
    have hcause : (Turn.ofTable (.view w) (t.step (.view w))).cause =
        (Turn.ofView w (t.view.step w)).cause := t.cause_step w
    have hcount : (Turn.ofTable (.view w) (t.step (.view w))).rowCount =
        (Turn.ofView w (t.view.step w)).rowCount := congrArg View.rowCount (t.view_step w)
    rw [Turn.Tells, hcause, hcount]
    exact (t.calls_step w).trans hview

end Table

/-! ### Whole scripts -/

namespace Script

/-- What is seen of the commands of a script: first those to the view, then those to the table. -/
def history (p : Script) : List Turn :=
  List.zipWith Turn.ofView p.preparation (runFrom View.step p.view p.preparation) ++
    List.zipWith Turn.ofTable p.commands (runFrom Table.step p.start p.commands)

/-- **Along every script the listeners are those that its history registered.** -/
theorem ledger (p : Script) : Ledger p.history (p.table p.commands.length).view.listeners := by
  have hview : Ledger ([] ++ List.zipWith Turn.ofView p.preparation
      (runFrom View.step p.view p.preparation)) p.start.view.listeners :=
    Ledger.run View.listeners View.moves_step View.tells_step ledger_nil _
  rw [List.nil_append] at hview
  have htable := Ledger.run (fun t : Table => t.view.listeners)
    Table.moves_step Table.tells_step hview p.commands
  rw [table, List.take_length]
  exact htable

end Script

/-- **Listeners are told of every change, once, in order, and of nothing else.** In the history of
any script, over views and tables, each turn honours the contract: a turn that rebuilt the rows
calls each listener registered then, in the order of registration, with the cause and the number of
rows afterwards, and any other turn calls none; merely looking is no turn at all. No number is given
to two listeners, removed ones included; a removal succeeds exactly when the listener is registered,
at most once for each number, and removes that listener only. -/
theorem listeners_told (p : Script) :
    (∀ past x later, p.history = past ++ x :: later → x.Honours past) ∧
      (issued p.history).Nodup ∧
      (∀ id, p.history.countP (Turn.removed id) ≤ 1) ∧
      (p.table p.commands.length).view.listeners.entries = registered p.history := by
  have h := p.ledger
  refine ⟨h.honoured, h.honoured.nodup_issued, fun id => ?_, h.entries⟩
  have hbalance := h.honoured.balance id
  have hone := List.nodup_iff_count_le_one.mp h.honoured.nodup_issued id
  omega

/-- Two listeners are registered, and the first is removed again, twice; the view is expanded before
the table is there and collapsed afterwards, the second time in vain. Who is registered when the
forest is replaced is told of it. -/
theorem listeners_told_pair :
    let p : Script :=
      ⟨[.group "g" none [.leaf "c" none]], [],
        [.listen "first", .act .expand 0, .listen "second", .unlisten 0],
        [.view (.unlisten 0), .view (.act .collapse 0), .view .collapseAll, .view (.replace [])]⟩
    let past := p.history.take 7
    let x := Turn.ofTable (.view (.replace [])) ((p.table 3).step (.view (.replace [])))
    p.history = past ++ [x] ∧ registered past = [(1, "second")] ∧
      x.calls = [⟨1, "second", ⟨.replacement, 0⟩⟩] ∧
      past.flatMap Turn.calls =
        [⟨0, "first", ⟨.expansion, 2⟩⟩, ⟨1, "second", ⟨.expansion, 1⟩⟩] := by
  intro p past x
  have hx : x.Honours past := (listeners_told p).1 past x [] rfl
  exact ⟨rfl, by decide, hx.calls.trans (by decide), by decide⟩

end Outline
