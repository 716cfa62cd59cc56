import Outline.Node

/-!
# Which groups are expanded

An `Expansion` remembers expanded groups *by value*: a group that equals a remembered one is
expanded wherever it stands and however often it occurs. Leaves are never remembered. Groups that
are not part of any shown forest may stay in it.

Each operation returns whether the members changed, together with the new expansion;
`mem_expand`, `mem_collapse`, `mem_toggle` and `not_mem_empty` say what the members are
afterwards.
-/

namespace Outline

/-- The expanded groups. The order of the list carries no meaning; compare by `sameAs`. -/
structure Expansion where
  /-- The remembered groups. -/
  groups : List Node

namespace Expansion

/-- Nothing is expanded. -/
def empty : Expansion := ⟨[]⟩

instance : Inhabited Expansion := ⟨empty⟩

instance : Membership Node Expansion := ⟨fun k n => n ∈ k.groups⟩

instance (n : Node) (k : Expansion) : Decidable (n ∈ k) :=
  inferInstanceAs (Decidable (n ∈ k.groups))

theorem mem_def {n : Node} {k : Expansion} : n ∈ k ↔ n ∈ k.groups := Iff.rfl

/-- Whether the node is expanded. -/
def contains (k : Expansion) (n : Node) : Bool := decide (n ∈ k)

@[simp] theorem contains_eq_true {k : Expansion} {n : Node} : k.contains n = true ↔ n ∈ k :=
  decide_eq_true_iff

@[simp] theorem contains_eq_false {k : Expansion} {n : Node} : k.contains n = false ↔ n ∉ k :=
  decide_eq_false_iff_not

/-- The number of expanded groups. -/
def size (k : Expansion) : Nat := k.groups.length

/-- Whether no group is expanded. -/
def isEmpty (k : Expansion) : Bool := k.groups.isEmpty

/-- Whether two expansions have the same members. -/
def sameAs (j k : Expansion) : Bool := j.groups.all k.contains && k.groups.all j.contains

theorem sameAs_iff {j k : Expansion} : j.sameAs k = true ↔ ∀ n, n ∈ j ↔ n ∈ k := by
  simp only [sameAs, Bool.and_eq_true, List.all_eq_true, contains_eq_true]
  exact ⟨fun h n => ⟨h.1 n, h.2 n⟩, fun h => ⟨fun n => (h n).1, fun n => (h n).2⟩⟩

/-! ### Operations -/

/-- Remember a group; a leaf is left out. -/
def expand (k : Expansion) (n : Node) : Bool × Expansion :=
  if n.isGroup && !k.contains n then (true, ⟨n :: k.groups⟩) else (false, k)

/-- Forget a node. -/
def collapse (k : Expansion) (n : Node) : Bool × Expansion :=
  if k.contains n then (true, ⟨k.groups.filter fun m => !decide (m = n)⟩) else (false, k)

/-- Forget a remembered node, remember any other. -/
def toggle (k : Expansion) (n : Node) : Bool × Expansion :=
  if k.contains n then k.collapse n else k.expand n

/-- Forget everything. -/
def clear (k : Expansion) : Bool × Expansion := (!k.isEmpty, empty)

/-- Remember every group of a list; changed when any of them was new. -/
def expandList (k : Expansion) (ns : List Node) : Bool × Expansion :=
  ns.foldl (fun (changed, k) n => let (new, k) := k.expand n; (changed || new, k)) (false, k)

/-- The expansion whose members are the groups of a list. -/
def ofList (ns : List Node) : Expansion := (empty.expandList ns).2

/-! ### Members after an operation -/

@[simp] theorem not_mem_empty (n : Node) : n ∉ empty := List.not_mem_nil

@[simp] theorem mem_clear {k : Expansion} {m : Node} : m ∉ k.clear.2 := List.not_mem_nil

theorem mem_expand {k : Expansion} {n m : Node} :
    m ∈ (k.expand n).2 ↔ m ∈ k ∨ n.isGroup = true ∧ m = n := by
  unfold expand
  split
  · next h =>
    simp only [Bool.and_eq_true] at h
    simp [mem_def, h.1, or_comm]
  · next h =>
    refine ⟨Or.inl, ?_⟩
    rintro (hm | ⟨hg, rfl⟩)
    · exact hm
    · simpa [hg] using h

theorem mem_collapse {k : Expansion} {n m : Node} :
    m ∈ (k.collapse n).2 ↔ m ∈ k ∧ m ≠ n := by
  unfold collapse
  split
  · simp [mem_def]
  · next h =>
    rw [contains_eq_true] at h
    exact ⟨fun hm => ⟨hm, fun he => h (he ▸ hm)⟩, And.left⟩

theorem mem_toggle {k : Expansion} {n m : Node} :
    m ∈ (k.toggle n).2 ↔
      if n ∈ k then m ∈ k ∧ m ≠ n else m ∈ k ∨ n.isGroup = true ∧ m = n := by
  unfold toggle
  by_cases h : n ∈ k
  · simp [h, mem_collapse]
  · simp [h, mem_expand]

end Expansion

end Outline
