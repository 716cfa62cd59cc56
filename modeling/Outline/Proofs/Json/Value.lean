import Outline.Json.Value

/-!
# Nesting of JSON values

`Value.nesting` is the number of brackets that are open at once in the text of a value, square and
curly ones counted alike. `Value.NumberFree` singles out the values without numbers, whose text
ends by itself: whatever follows it, it cannot be taken for a part of the value.

`Value.contents_induction` is the induction over values by what stands between their brackets.
-/

namespace Outline.Json.Value

/-! ### Nesting -/

mutual

/-- How many brackets are open at once in the text of a value. -/
def nesting : Value → Nat
  | array vs => nestingOfItems vs + 1
  | object ms => nestingOfMembers ms + 1
  | _ => 0

/-- The largest nesting among items. -/
def nestingOfItems : List Value → Nat
  | [] => 0
  | v :: vs => max v.nesting (nestingOfItems vs)

/-- The largest nesting among the values of members. -/
def nestingOfMembers : List (String × Value) → Nat
  | [] => 0
  | (_, v) :: ms => max v.nesting (nestingOfMembers ms)

end

theorem nestingOfItems_le_iff {vs : List Value} {b : Nat} :
    nestingOfItems vs ≤ b ↔ ∀ v ∈ vs, v.nesting ≤ b := by
  induction vs with
  | nil => simp [nestingOfItems]
  | cons v vs ih => rw [nestingOfItems, Nat.max_le, ih, List.forall_mem_cons]

theorem nestingOfMembers_le_iff {ms : List (String × Value)} {b : Nat} :
    nestingOfMembers ms ≤ b ↔ ∀ m ∈ ms, m.2.nesting ≤ b := by
  induction ms with
  | nil => simp [nestingOfMembers]
  | cons m ms ih =>
    obtain ⟨k, v⟩ := m
    simp only [nestingOfMembers, Nat.max_le, ih, List.forall_mem_cons]

theorem nesting_le_nestingOfItems {vs : List Value} {v : Value} (h : v ∈ vs) :
    v.nesting ≤ nestingOfItems vs := nestingOfItems_le_iff.mp (Nat.le_refl _) v h

theorem nesting_le_nestingOfMembers {ms : List (String × Value)} {m : String × Value}
    (h : m ∈ ms) : m.2.nesting ≤ nestingOfMembers ms :=
  nestingOfMembers_le_iff.mp (Nat.le_refl _) m h

/-! ### Values without numbers -/

/-- A value in which no number occurs. -/
inductive NumberFree : Value → Prop
  | null : NumberFree .null
  | bool (b : Bool) : NumberFree (.bool b)
  | string (s : String) : NumberFree (.string s)
  | array {vs : List Value} (h : ∀ v ∈ vs, NumberFree v) : NumberFree (.array vs)
  | object {ms : List (String × Value)} (h : ∀ m ∈ ms, NumberFree m.2) : NumberFree (.object ms)

/-! ### Induction -/

section

variable {P : Value → Prop}

mutual

private theorem of_contents (scalar : ∀ v, v.nesting = 0 → P v)
    (array : ∀ vs, (∀ v ∈ vs, P v) → P (.array vs))
    (object : ∀ ms, (∀ m ∈ ms, P m.2) → P (.object ms)) : (v : Value) → P v
  | .null => scalar .null rfl
  | .bool b => scalar (.bool b) rfl
  | .number n => scalar (.number n) rfl
  | .string s => scalar (.string s) rfl
  | .array vs => array vs (of_items scalar array object vs)
  | .object ms => object ms (of_members scalar array object ms)

private theorem of_items (scalar : ∀ v, v.nesting = 0 → P v)
    (array : ∀ vs, (∀ v ∈ vs, P v) → P (.array vs))
    (object : ∀ ms, (∀ m ∈ ms, P m.2) → P (.object ms)) : (vs : List Value) → ∀ v ∈ vs, P v
  | [] => fun _ h => absurd h List.not_mem_nil
  | v :: vs => fun w h =>
    (List.mem_cons.mp h).elim (fun e => e ▸ of_contents scalar array object v)
      (of_items scalar array object vs w)

private theorem of_members (scalar : ∀ v, v.nesting = 0 → P v)
    (array : ∀ vs, (∀ v ∈ vs, P v) → P (.array vs))
    (object : ∀ ms, (∀ m ∈ ms, P m.2) → P (.object ms)) :
    (ms : List (String × Value)) → ∀ m ∈ ms, P m.2
  | [] => fun _ h => absurd h List.not_mem_nil
  | (_, v) :: ms => fun m h =>
    (List.mem_cons.mp h).elim (fun e => e ▸ of_contents scalar array object v)
      (of_members scalar array object ms m)

end

/-- **Induction over values**, by their items or the values of their members. -/
@[elab_as_elim]
theorem contents_induction (scalar : ∀ v, v.nesting = 0 → P v)
    (array : ∀ vs, (∀ v ∈ vs, P v) → P (.array vs))
    (object : ∀ ms, (∀ m ∈ ms, P m.2) → P (.object ms)) (v : Value) : P v :=
  of_contents scalar array object v

end

end Outline.Json.Value
