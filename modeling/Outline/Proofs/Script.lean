import Outline.Proofs.Reachable

/-!
# Scripts

A `Script` is a whole run as data: a forest with some groups expanded, the commands that a view of
it carries out on its own, and the commands to a table over that view. With no commands to the
table it is a run of a view; with none to the view, one of a fresh table.

`Script.table` is the table before a command and `Script.answer?` what the command is answered. The
tables of scripts are the reachable ones (`Script.reachable_table`), so what holds of reachable
tables holds all along a script.
-/

namespace Outline

open Outcome (runFrom stateAfter)

/-- In a run each command is carried out on the state to which the earlier ones led. -/
theorem Outcome.getElem?_runFrom {σ α γ : Type} (step : σ → γ → Outcome σ α) (s : σ)
    (cs : List γ) (i : Nat) :
    (runFrom step s cs)[i]? = cs[i]?.map (step (stateAfter step s (cs.take i))) := by
  induction cs generalizing s i with
  | nil => rfl
  | cons c cs ih =>
    cases i with
    | zero => rfl
    | succ i => exact ih (step s c).state i

/-- A forest with some groups expanded, commands to its view, and commands to a table over the
view. -/
structure Script where
  /-- The forest at the start. -/
  nodes : List Node
  /-- The groups that are expanded at the start. -/
  expanded : List Node
  /-- What the view carries out before there is a table. -/
  preparation : List View.Command
  /-- What the table carries out. -/
  commands : List Table.Command

namespace Script

variable (p : Script)

/-- The view at the start. -/
def view : View := .ofExpansion p.nodes (.ofList p.expanded)

/-- The table over the view that is prepared. -/
def start : Table := .ofView (stateAfter View.step p.view p.preparation)

/-- The table before the `i`-th command. -/
def table (i : Nat) : Table := stateAfter Table.step p.start (p.commands.take i)

/-- What the `i`-th command is answered, if there is one. -/
def answer? (i : Nat) : Option Answer :=
  ((runFrom Table.step p.start p.commands)[i]?).map Outcome.result

/-- Why the `i`-th command rebuilt the rows, if it did. -/
def cause? (i : Nat) : Option Cause := do
  (← p.commands[i]?).cause (← p.answer? i)

@[simp] theorem table_zero : p.table 0 = p.start := by
  rw [table, List.take_zero]; rfl

theorem reachable_table (i : Nat) : (p.table i).Reachable :=
  Table.reachable_iff_exists_run.mpr ⟨_, _, _, _, rfl⟩

variable {p} {i : Nat} {c : Table.Command} {a : Answer}

/-- A command leads from the table before it to the table before the next one. -/
theorem table_succ (h : p.commands[i]? = some c) :
    p.table (i + 1) = ((p.table i).step c).state := by
  rw [table, List.take_add_one, h, Outcome.stateAfter_append]
  rfl

theorem answer?_eq (h : p.commands[i]? = some c) :
    p.answer? i = some ((p.table i).step c).result := by
  rw [answer?, Outcome.getElem?_runFrom, h]
  rfl

/-- What is answered is answered to a command. -/
theorem exists_command_of_answer? (h : p.answer? i = some a) :
    ∃ c, p.commands[i]? = some c ∧ ((p.table i).step c).result = a := by
  cases hc : p.commands[i]? with
  | none => simp [answer?, Outcome.getElem?_runFrom, hc] at h
  | some c =>
    rw [answer?_eq hc] at h
    exact ⟨c, rfl, Option.some.inj h⟩

theorem cause?_eq (h : p.commands[i]? = some c) :
    p.cause? i = c.cause ((p.table i).step c).result := by
  simp [cause?, h, answer?_eq h]

theorem exists_command_of_lt (h : i < p.commands.length) : ∃ c, p.commands[i]? = some c :=
  ⟨_, List.getElem?_eq_getElem h⟩

theorem lt_of_command (h : p.commands[i]? = some c) : i < p.commands.length :=
  (List.getElem?_eq_some_iff.mp h).1

end Script

end Outline
