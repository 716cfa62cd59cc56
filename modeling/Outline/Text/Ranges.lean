/-!
# Sets of characters given by code point ranges
-/

namespace Outline.Text

/-- A set of code points, as first and last member of each of its ranges. -/
abbrev Ranges := List (Nat × Nat)

/-- Whether the set holds the character. -/
def Ranges.has (t : Ranges) (c : Char) : Bool :=
  t.any fun r => r.1 ≤ c.toNat && c.toNat ≤ r.2

theorem Ranges.has_iff {t : Ranges} {c : Char} :
    t.has c = true ↔ ∃ r ∈ t, r.1 ≤ c.toNat ∧ c.toNat ≤ r.2 := by
  simp [Ranges.has, List.any_eq_true]

end Outline.Text
