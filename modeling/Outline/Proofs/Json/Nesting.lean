import Outline.Json.Reader
import Outline.Proofs.Json.Value

/-!
# What a reader returns is nested within its budget

`nesting_le_of_readValue` bounds the nesting of every value that is read, whatever its text. What
the loops over items and members return was all returned by the reader of the contents
(`forall_of_readItems`, `forall_of_readMembers`), so that any property of its answers passes on to
the contents of an array or an object.
-/

namespace Outline.Json

/-! ### Contents -/

section

variable {ε α : Type} {lift : SyntaxError → ε} {item : Reader ε α} {P : α → Prop}

/-- What a loop over items returns was taken before or comes from the reader of the items. -/
theorem forall_of_readItems (hitem : ∀ cs a rest, item cs = .ok (a, rest) → P a) {fuel : Nat}
    {first : Bool} {taken as : List α} {cs rest : List Char} (htaken : ∀ a ∈ taken, P a)
    (h : readItems lift item fuel first taken cs = .ok (as, rest)) : ∀ a ∈ as, P a := by
  induction fuel generalizing first taken cs with
  | zero => nomatch h
  | succ fuel ih =>
    rw [readItems] at h
    split at h
    · nomatch h
    · injection h with h
      injection h with has
      subst has
      exact fun a ha => htaken a (List.mem_reverse.mp ha)
    · split at h
      · nomatch h
      · rename_i a rest' hread
        exact ih (List.forall_mem_cons.mpr ⟨hitem _ _ _ hread, htaken⟩) h

/-- The items of an array come from the reader of the items. -/
theorem forall_of_readArray (hitem : ∀ cs a rest, item cs = .ok (a, rest) → P a) {fuel : Nat}
    {as : List α} {cs rest : List Char} (h : readArray lift item fuel cs = .ok (as, rest)) :
    ∀ a ∈ as, P a :=
  forall_of_readItems hitem (fun _ ha => absurd ha List.not_mem_nil) h

end

section

variable {α : Type} {item : Reader SyntaxError α} {P : α → Prop}

/-- The values that a loop over members returns were taken before or come from the reader of the
values. -/
theorem forall_of_readMembers (hitem : ∀ cs a rest, item cs = .ok (a, rest) → P a)
    {total fuel : Nat} {first : Bool} {taken ms : List (String × α)} {cs rest : List Char}
    (htaken : ∀ m ∈ taken, P m.2)
    (h : readMembers item total fuel first taken cs = .ok (ms, rest)) : ∀ m ∈ ms, P m.2 := by
  induction fuel generalizing first taken cs with
  | zero => nomatch h
  | succ fuel ih =>
    rw [readMembers] at h
    split at h
    · nomatch h
    · injection h with h
      injection h with hms
      subst hms
      exact fun m hm => htaken m (List.mem_reverse.mp hm)
    · split at h
      · nomatch h
      · split at h
        · nomatch h
        · rename_i a rest' hread
          exact ih (List.forall_mem_cons.mpr ⟨hitem _ _ _ hread, htaken⟩) h

/-- The values in an object come from the reader of the values. -/
theorem forall_of_readObject (hitem : ∀ cs a rest, item cs = .ok (a, rest) → P a) {fuel : Nat}
    {ms : List (String × α)} {cs rest : List Char}
    (h : readObject item fuel cs = .ok (ms, rest)) : ∀ m ∈ ms, P m.2 :=
  forall_of_readMembers hitem (fun _ hm => absurd hm List.not_mem_nil) h

end

/-! ### Values -/

/-- An answer that was made over comes from an answer. -/
theorem exists_of_map_eq_ok {ε α β : Type} {x : Except ε α} {f : α → β} {b : β}
    (h : x.map f = .ok b) : ∃ a, x = .ok a ∧ f a = b := by
  cases x with
  | error e => nomatch h
  | ok a => exact ⟨a, rfl, Except.ok.inj h⟩

/-- A value without brackets is not nested. -/
theorem nesting_of_readScalar {fuel : Nat} {cs rest : List Char} {v : Value}
    (h : readScalar fuel cs = .ok (v, rest)) : v.nesting = 0 := by
  cases cs with
  | nil => nomatch h
  | cons c cs =>
    rw [readScalar] at h
    repeat' split at h
    all_goals first
      | obtain ⟨p, -, hp⟩ := exists_of_map_eq_ok h
        rw [← (Prod.mk.inj hp).1]
        rfl
      | exact nomatch h

/-- **A value that is read is nested within the budget**, whatever its text. -/
theorem nesting_le_of_readValue {fuel budget : Nat} {cs rest : List Char} {v : Value}
    (h : readValue fuel budget cs = .ok (v, rest)) : v.nesting ≤ budget := by
  induction budget generalizing cs rest v with
  | zero =>
    rw [readValue] at h
    split at h
    · nomatch h
    · nomatch h
    · exact Nat.le_of_eq (nesting_of_readScalar h)
  | succ budget ih =>
    rw [readValue] at h
    split at h
    · obtain ⟨⟨vs, rest'⟩, hread, hv⟩ := exists_of_map_eq_ok h
      rw [← (Prod.mk.inj hv).1, Value.nesting, Nat.add_le_add_iff_right,
        Value.nestingOfItems_le_iff]
      exact forall_of_readArray (fun _ _ _ => ih) hread
    · obtain ⟨⟨ms, rest'⟩, hread, hv⟩ := exists_of_map_eq_ok h
      rw [← (Prod.mk.inj hv).1, Value.nesting, Nat.add_le_add_iff_right,
        Value.nestingOfMembers_le_iff]
      exact forall_of_readObject (fun _ _ _ => ih) hread
    · exact Nat.le_trans (Nat.le_of_eq (nesting_of_readScalar h)) (Nat.zero_le _)

end Outline.Json
