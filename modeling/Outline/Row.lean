import Outline.Expansion

/-!
# Rows

A row is a node together with its depth. `flatten` lists the rows of a forest under an expansion:
every node is followed by the rows of its children, one level deeper, when it is an expanded
group, and by nothing of its own otherwise.

The depth at which a forest is listed is a mere shift of its rows at depth zero
(`flattenAt_eq_map`).
-/

namespace Outline

/-- A visible node. -/
structure Row where
  /-- The node shown. -/
  node : Node
  /-- How many groups it stands in. -/
  depth : Nat
deriving DecidableEq

/-- The same row, so many levels deeper. -/
def Row.shift (d : Nat) (r : Row) : Row := { r with depth := r.depth + d }

@[simp] theorem Row.shift_mk (d : Nat) (n : Node) (e : Nat) :
    Row.shift d ⟨n, e⟩ = ⟨n, e + d⟩ := rfl

mutual

/-- The rows of one tree whose root stands at depth `d`. -/
def flattenNode (k : Expansion) (d : Nat) : Node → List Row
  | .leaf n v => [⟨.leaf n v, d⟩]
  | .group n v cs =>
    ⟨.group n v cs, d⟩ :: (if k.contains (.group n v cs) then flattenAt k (d + 1) cs else [])

/-- The rows of a forest whose roots stand at depth `d`. -/
def flattenAt (k : Expansion) (d : Nat) : List Node → List Row
  | [] => []
  | n :: ns => flattenNode k d n ++ flattenAt k d ns

end

/-- The rows of a forest, its roots at depth zero. -/
def flatten (ns : List Node) (k : Expansion) : List Row := flattenAt k 0 ns

/-! ### Rows at any depth -/

@[simp] theorem flatten_nil (k : Expansion) : flatten [] k = [] := rfl

mutual

private theorem flattenNode_shift (k : Expansion) (d e : Nat) :
    (n : Node) → flattenNode k (d + e) n = (flattenNode k d n).map (Row.shift e)
  | .leaf _ _ => rfl
  | .group n v cs => by
    simp only [flattenNode, List.map_cons, Row.shift_mk, List.cons.injEq, true_and]
    split
    · rw [Nat.add_right_comm, flattenAt_shift k (d + 1) e cs]
    · rfl

private theorem flattenAt_shift (k : Expansion) (d e : Nat) :
    (ns : List Node) → flattenAt k (d + e) ns = (flattenAt k d ns).map (Row.shift e)
  | [] => rfl
  | n :: ns => by
    rw [flattenAt, flattenAt, List.map_append, flattenNode_shift k d e n,
      flattenAt_shift k d e ns]

end

/-- Rows at depth `d` are the rows at depth zero, each `d` levels deeper. -/
theorem flattenAt_eq_map (k : Expansion) (d : Nat) (ns : List Node) :
    flattenAt k d ns = (flatten ns k).map (Row.shift d) := by
  rw [flatten, ← flattenAt_shift, Nat.zero_add]

end Outline
