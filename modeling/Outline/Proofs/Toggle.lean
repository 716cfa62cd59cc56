import Outline.Proofs.Splice

/-!
# Toggling twice

Toggling a group rebuilds all rows, so a row number means something else afterwards. What does not
change is the first row that shows the group, nor any row above it (`View.findRow_act`,
`View.take_rows_act`): toggling there a second time finds the group again and undoes the first
time (`toggle_twice_restores`). Groups that are expanded within it stay remembered while it is
collapsed, and so the rows come back with them.
-/

namespace Outline

namespace Expansion

variable {k : Expansion} {g : Node}

/-- Toggling changes something exactly at groups. -/
theorem toggle_changed (hk : k.WellFormed) (n : Node) : (k.toggle n).1 = n.isGroup := by
  unfold toggle
  by_cases hn : n ∈ k
  · simp [hn, collapse, hk.isGroup n hn]
  · cases hg : n.isGroup <;> simp [hn, expand, hg]

/-- Toggling concerns one group only. -/
theorem mem_toggle_of_ne {m : Node} (h : m ≠ g) : m ∈ (k.toggle g).2 ↔ m ∈ k := by
  rw [mem_toggle]
  split <;> simp [h]

theorem mem_toggle_self (hg : g.isGroup = true) : g ∈ (k.toggle g).2 ↔ g ∉ k := by
  rw [mem_toggle]
  split <;> simp_all

/-- Toggling a group twice brings back the same members. -/
theorem mem_toggle_toggle (hg : g.isGroup = true) (m : Node) :
    m ∈ ((k.toggle g).2.toggle g).2 ↔ m ∈ k := by
  by_cases h : m = g
  · subst h
    rw [mem_toggle_self hg, mem_toggle_self hg, Decidable.not_not]
  · rw [mem_toggle_of_ne h, mem_toggle_of_ne h]

end Expansion

namespace View

variable {v : View} {i : Nat} {r : Row}

/-- What toggling at a row that shows a group comes to. -/
theorem toggle_eq (hv : v.Reachable) (hr : v.row i = .ok r) (hg : r.node.isGroup = true) :
    (v.toggle i).result = .ok true ∧
      (v.toggle i).state =
        { v with
          expansion := (v.expansion.toggle r.node).2
          rows := flatten v.nodes (v.expansion.toggle r.node).2 } := by
  have hflag : (v.expansion.toggle r.node).1 = true := by
    rw [Expansion.toggle_changed hv.coherent.wellFormed, hg]
  exact act_of_apply_eq_true hr (Prod.ext hflag rfl)

/-- Toggling at a row that shows a leaf does nothing. -/
theorem toggle_of_leaf (hv : v.Reachable) (hr : v.row i = .ok r) (hl : r.node.isGroup = false) :
    v.toggle i = ⟨.ok false, v, []⟩ := by
  have hflag : (Verb.toggle.apply v.expansion r.node).1 = false := by
    rw [Verb.apply, Expansion.toggle_changed hv.coherent.wellFormed, hl]
  have hsame : (Verb.toggle.apply v.expansion r.node).2 = v.expansion := Verb.apply_unchanged hflag
  simp only [toggle, act_of_row_eq_ok hr, hflag, hsame]
  rfl

/-- A toggle that changes something tells every listener once. -/
theorem calls_toggle (h : (v.toggle i).result = .ok true) :
    (v.toggle i).calls = v.listeners.notify ⟨.expansion, (v.toggle i).state.rowCount⟩ := by
  have hcause : View.Command.cause (.act .toggle i) (v.step (.act .toggle i)).result =
      some .expansion := by
    have hanswer : (v.step (.act .toggle i)).result = .flag true :=
      congrArg Answer.ofResult h
    rw [hanswer]
    rfl
  exact (step_rebuilt hcause).calls

end View

/-- **Toggling is undone by toggling at the first row that shows the group.** In a reachable view
let a row show a group. Toggling there succeeds, and the first row that shows the group is the same
row before and after; no row up to it has changed. Toggling *there* succeeds again and brings back
the forest, the members of the expansion, all rows, those of groups expanded within the group among
them, and the listeners. Every listener is told once by either toggle. In particular, toggling twice
at the first row that shows a group restores the view. Toggling at a row that shows a leaf does
nothing. -/
theorem toggle_twice_restores {v : View} (hv : v.Reachable) {i : Nat} {r : Row}
    (hr : v.row i = .ok r) :
    (r.node.isGroup = true → ∃ f, v.findRow r.node = some f ∧
      let once := v.toggle i
      let twice := once.state.toggle f
      (once.result = .ok true ∧ once.state.findRow r.node = some f ∧
        once.state.rows.take (f + 1) = v.rows.take (f + 1)) ∧
      (twice.result = .ok true ∧ twice.state.nodes = v.nodes ∧
        (∀ n, n ∈ twice.state.expansion ↔ n ∈ v.expansion) ∧ twice.state.rows = v.rows ∧
        twice.state.listeners = v.listeners) ∧
      once.calls = v.listeners.notify ⟨.expansion, once.state.rowCount⟩ ∧
        twice.calls = v.listeners.notify ⟨.expansion, v.rowCount⟩) ∧
    (r.node.isGroup = false → v.toggle i = ⟨.ok false, v, []⟩) := by
  refine ⟨fun hg => ?_, View.toggle_of_leaf hv hr⟩
  obtain ⟨f, hf⟩ := View.exists_findRow hr
  obtain ⟨honce, hstate⟩ := View.toggle_eq hv hr hg
  have hfind := (View.findRow_act hv hr .toggle).trans hf
  refine ⟨f, hf, ⟨honce, hfind, View.take_rows_act hv hr .toggle hf⟩, ?_⟩
  -- the second toggle meets the group at the row at which it is found
  obtain ⟨s, hs, hsn⟩ := (View.findRow_eq_some_iff.mp hfind).1
  have hw : (v.toggle i).state.Reachable := hv.step (.act .toggle i)
  obtain ⟨htwice, hback⟩ := View.toggle_eq hw hs (hsn ▸ hg)
  rw [hsn, hstate] at hback
  have hmem : ∀ n, n ∈ ((v.expansion.toggle r.node).2.toggle r.node).2 ↔ n ∈ v.expansion :=
    Expansion.mem_toggle_toggle hg
  have hrows : ((v.toggle i).state.toggle f).state.rows = v.rows := by
    rw [hstate, hback, hv.coherent.rows]
    exact flatten_congr fun m _ => hmem m
  refine ⟨⟨htwice, ?_, ?_, hrows, ?_⟩, View.calls_toggle honce, ?_⟩
  · rw [hstate, hback]
  · rw [hstate, hback]
    exact hmem
  · rw [hstate, hback]
  · rw [View.calls_toggle htwice, View.rowCount, hrows, hstate]
    rfl

/-- The group `g` stands in the expanded group `h` and behind it, and holds an expanded group. It is
toggled at its second row, and then at its first. -/
theorem toggle_twice_restores_nested :
    let c := Node.group "c" none [.leaf "d" none]
    let g := Node.group "g" none [c]
    let h := Node.group "h" none [g]
    let v := ((View.ofExpansion [h, g] (.ofList [h, g, c])).listen "l").state
    v.row 4 = .ok ⟨g, 0⟩ ∧ v.findRow g = some 1 ∧
      (v.toggle 4).state.rows = [⟨h, 0⟩, ⟨g, 1⟩, ⟨g, 0⟩] ∧
      ((v.toggle 4).state.toggle 1).state.rows = v.rows ∧
      ((v.toggle 4).state.toggle 1).calls = [⟨0, "l", ⟨.expansion, 7⟩⟩] := by
  intro c g h v
  have hv : v.Reachable := .step (.fresh [h, g] [h, g, c]) (.listen "l")
  have hr : v.row 4 = .ok ⟨g, 0⟩ := by rfl
  have hf : v.findRow g = some 1 := by decide
  have hnotify : v.listeners.notify ⟨.expansion, v.rowCount⟩ =
      [⟨0, "l", ⟨.expansion, 7⟩⟩] := by decide
  obtain ⟨f, hf', -, ⟨-, -, -, hrows, -⟩, -, hcalls⟩ := (toggle_twice_restores hv hr).1 rfl
  obtain rfl : 1 = f := Option.some.inj (hf.symm.trans hf')
  rw [hnotify] at hcalls
  exact ⟨hr, hf, by decide, hrows, hcalls⟩

end Outline
