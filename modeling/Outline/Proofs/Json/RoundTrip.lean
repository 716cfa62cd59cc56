import Outline.Json.Reader
import Outline.Json.Writer
import Outline.Proofs.Json.Text
import Outline.Proofs.Json.Value

/-!
# Values are read back as they are written

A value without numbers is read back from its text, whatever follows, exactly when its brackets are
nested no deeper than the budget of the reader; a value that is nested deeper is refused for that
(`readValue_write`).

`Takes` states both halves at once of any reader. It is carried through the loops over items and
members (`takes_readItems`, `takes_readMembers`): a loop takes all the contents if the reader of
the contents takes each, and stops with the same cause otherwise. So nothing is said twice for
values that fit and values that do not.
-/

namespace Outline.Json

section

variable {ε α β : Type}

/-! ### Taking a value or stopping -/

/-- A reader's answer is the value `a` with the rest of the text, if the value is `good`, and a
fault with the cause `c` otherwise. -/
def Takes (answer : Except (Fault ε) (α × List Char)) (good : Prop) (a : α) (rest : List Char)
    (c : ε) : Prop :=
  (good → answer = .ok (a, rest)) ∧ (¬ good → ∃ e, answer = .error e ∧ e.cause = c)

theorem Takes.of_ok {answer : Except (Fault ε) (α × List Char)} {good : Prop} {a : α}
    {rest : List Char} {c : ε} (h : answer = .ok (a, rest)) (hgood : good) :
    Takes answer good a rest c := ⟨fun _ => h, fun hn => absurd hgood hn⟩

theorem Takes.map {answer : Except (Fault ε) (α × List Char)} {good : Prop} {a : α}
    {rest : List Char} {c : ε} (h : Takes answer good a rest c) (f : α → β) :
    Takes (answer.map fun p => (f p.1, p.2)) good (f a) rest c := by
  refine ⟨fun hg => by rw [h.1 hg]; rfl, fun hg => ?_⟩
  obtain ⟨e, he, hc⟩ := h.2 hg
  exact ⟨e, by rw [he]; rfl, hc⟩

theorem Takes.congr {answer : Except (Fault ε) (α × List Char)} {good good' : Prop} {a : α}
    {rest : List Char} {c : ε} (h : Takes answer good a rest c) (hg : good ↔ good') :
    Takes answer good' a rest c := ⟨fun h' => h.1 (hg.mpr h'), fun h' => h.2 fun h => h' (hg.mp h)⟩

/-- There is no third answer, whether the value is good or not. -/
theorem Takes.ok_or_error {answer : Except (Fault ε) (α × List Char)} {good : Prop} {a : α}
    {rest : List Char} {c : ε} (h : Takes answer good a rest c) :
    answer = .ok (a, rest) ∨ ∃ e, answer = .error e := by
  by_cases hgood : good
  · exact .inl (h.1 hgood)
  · obtain ⟨e, he, -⟩ := h.2 hgood
    exact .inr ⟨e, he⟩

/-- If a reading goes on after an answer as it would with the value, and stops where the answer is a
fault, then it takes the whole as soon as both parts are good. -/
theorem Takes.and_then {answer : Except (Fault ε) (α × List Char)}
    {whole : Except (Fault ε) (β × List Char)} {good more : Prop} {a : α} {rest rest' : List Char}
    {c : ε} {b : β} (h : Takes answer good a rest c)
    (hstop : ∀ e, answer = .error e → whole = .error e)
    (hnext : answer = .ok (a, rest) → Takes whole more b rest' c) :
    Takes whole (good ∧ more) b rest' c := by
  refine ⟨fun hg => (hnext (h.1 hg.1)).1 hg.2, fun hg => ?_⟩
  by_cases hgood : good
  · exact (hnext (h.1 hgood)).2 fun hm => hg ⟨hgood, hm⟩
  · obtain ⟨e, he, hc⟩ := h.2 hgood
    exact ⟨e, hstop e he, hc⟩

/-! ### Text between brackets -/

/-- What is left of a text is no longer than the text. -/
theorem length_lt_of_append {as bs : List α} {n : Nat} (h : (as ++ bs).length < n) :
    bs.length < n := Nat.lt_of_le_of_lt (List.suffix_append as bs).length_le h

/-- A text that begins with neither a blank nor a bracket that closes an array. -/
def Opens (cs : List Char) : Prop := ∃ c t, cs = c :: t ∧ isBlank c = false ∧ c ≠ ']'

theorem Opens.append {cs : List Char} (h : Opens cs) (ds : List Char) : Opens (cs ++ ds) := by
  obtain ⟨c, t, rfl, hb, hc⟩ := h
  exact ⟨c, t ++ ds, rfl, hb, hc⟩

theorem Opens.length_pos {cs : List Char} (h : Opens cs) : 0 < cs.length := by
  obtain ⟨c, t, rfl, -, -⟩ := h
  exact Nat.succ_pos _

theorem skipBlanks_cons {c : Char} (h : isBlank c = false) (cs : List Char) :
    skipBlanks (c :: cs) = c :: cs := by
  rw [skipBlanks, List.dropWhile_cons, h]
  rfl

/-- What stands before the first of several contents, and before each other one. -/
def separator (first : Bool) : List Char := if first then [] else [',']

@[simp] theorem separator_true : separator true = [] := rfl

@[simp] theorem separator_false : separator false = [','] := rfl

/-- The texts of several contents, with separators. -/
def joined (w : β → List Char) : (first : Bool) → List β → List Char
  | _, [] => []
  | first, x :: xs => separator first ++ (w x ++ joined w false xs)

theorem joined_cons_append (w : β → List Char) (first : Bool) (x : β) (xs : List β)
    (rest : List Char) :
    joined w first (x :: xs) ++ rest = separator first ++ (w x ++ (joined w false xs ++ rest)) := by
  rw [joined, List.append_assoc, List.append_assoc]

/-- The texts of contents made over are those of the contents, written after they were made over. -/
theorem joined_map (w : β → List Char) (f : α → β) (first : Bool) (xs : List α) :
    joined w first (xs.map f) = joined (fun x => w (f x)) first xs := by
  induction xs generalizing first with
  | nil => rfl
  | cons x xs ih => rw [List.map_cons, joined, joined, ih]

/-! ### Items -/

theorem nextItem_end (first : Bool) (rest : List Char) :
    nextItem first (']' :: rest) = .ok (false, rest) := by
  simp [nextItem, skipBlanks, isBlank]

theorem nextItem_separator (first : Bool) {cs : List Char} (h : Opens cs) :
    nextItem first (separator first ++ cs) = .ok (true, cs) := by
  obtain ⟨c, t, rfl, hb, hc⟩ := h
  cases first with
  | true => simp [nextItem, skipBlanks_cons hb]
  | false =>
    have hcomma : isBlank ',' = false := by decide
    simp [nextItem, skipBlanks_cons hcomma, skipBlanks_cons hb, hc]

/-- **The loop over the items of an array** takes all of them if the reader takes each, and stops
with the cause with which the reader stops at one of them. -/
theorem takes_readItems (lift : SyntaxError → ε) {item : Reader ε α} {w : β → List Char}
    {f : β → α} {good : β → Prop} {c : ε} {total : Nat} (xs : List β)
    (hopens : ∀ x ∈ xs, Opens (w x))
    (hitem : ∀ x ∈ xs, ∀ rest, (w x ++ rest).length < total →
      Takes (item (w x ++ rest)) (good x) (f x) rest c)
    {fuel : Nat} {first : Bool} (taken : List α) {rest : List Char}
    (hfuel : (joined w first xs ++ ']' :: rest).length ≤ fuel)
    (htotal : (joined w first xs ++ ']' :: rest).length < total) :
    Takes (readItems lift item fuel first taken (joined w first xs ++ ']' :: rest))
      (∀ x ∈ xs, good x) (taken.reverse ++ xs.map f) rest c := by
  induction xs generalizing fuel first taken with
  | nil =>
    obtain ⟨fuel, rfl⟩ : ∃ n, fuel = n + 1 := ⟨fuel - 1, by simp [joined] at hfuel; omega⟩
    refine .of_ok ?_ (by simp)
    simp [readItems, joined, nextItem_end]
  | cons x xs ih =>
    rw [List.forall_mem_cons] at hopens hitem
    rw [joined_cons_append] at hfuel htotal ⊢
    -- an item is not empty, so that the rest is shorter by one unit of fuel at least
    have hpos := hopens.1.length_pos
    have hitems := length_lt_of_append htotal
    have hread := hitem.1 (joined w false xs ++ ']' :: rest) hitems
    rw [List.length_append, List.length_append] at hfuel
    obtain ⟨fuel, rfl⟩ : ∃ n, fuel = n + 1 := ⟨fuel - 1, by omega⟩
    rw [readItems, nextItem_separator first (hopens.1.append _)]
    have hshorter : (joined w false xs ++ ']' :: rest).length ≤ fuel := by omega
    have hrest := ih hopens.2 hitem.2 (f x :: taken) hshorter (length_lt_of_append hitems)
    rw [List.reverse_cons, List.append_assoc, List.singleton_append] at hrest
    rw [List.forall_mem_cons, List.map_cons]
    refine hread.and_then (fun e he => ?_) fun hok => ?_
    · simp only [he]
    · simp only [hok]
      exact hrest

end

/-! ### Members -/

/-- The text of a member: its name, a colon and its value. -/
def writeMember (m : String × Value) : List Char := written m.1 ++ ':' :: m.2.write

theorem writeMember_append (k : String) (v : Value) (rest : List Char) :
    writeMember (k, v) ++ rest = written k ++ ':' :: (v.write ++ rest) := by
  simp [writeMember]

theorem nextKey_end (total : Nat) (first : Bool) (rest : List Char) :
    nextKey total first ('\x7d' :: rest) = .ok (none, rest) := by
  simp [nextKey, skipBlanks, isBlank]

theorem nextKey_separator {total : Nat} (first : Bool) {k : String} {rest : List Char}
    (h : (written k ++ rest).length < total) :
    nextKey total first (separator first ++ (written k ++ rest)) = .ok (some k, rest) := by
  have hquote : isBlank '"' = false := by decide
  have hread := readString_written h
  rw [written_append]
  cases first with
  | true =>
    simp [nextKey, skipBlanks_cons hquote, hread, bind, Except.bind, pure, Except.pure]
  | false =>
    have hcomma : isBlank ',' = false := by decide
    simp [nextKey, skipBlanks_cons hcomma, skipBlanks_cons hquote, hread, bind,
      Except.bind, pure, Except.pure]

theorem readColon_colon (rest : List Char) : readColon (':' :: rest) = .ok rest := by
  simp [readColon, skipBlanks, isBlank]

/-- **The loop over the members of an object** takes all of them if the reader takes each value,
and stops with the cause with which the reader stops at one of them. -/
theorem takes_readMembers {good : String × Value → Prop} {c : SyntaxError} {total : Nat}
    {item : Reader SyntaxError Value} (ms : List (String × Value))
    (hitem : ∀ m ∈ ms, ∀ rest, (m.2.write ++ rest).length < total →
      Takes (item (m.2.write ++ rest)) (good m) m.2 rest c)
    {fuel : Nat} {first : Bool} (taken : List (String × Value)) {rest : List Char}
    (hfuel : (joined writeMember first ms ++ '\x7d' :: rest).length ≤ fuel)
    (htotal : (joined writeMember first ms ++ '\x7d' :: rest).length < total) :
    Takes
      (readMembers item total fuel first taken (joined writeMember first ms ++ '\x7d' :: rest))
      (∀ m ∈ ms, good m) (taken.reverse ++ ms) rest c := by
  induction ms generalizing fuel first taken with
  | nil =>
    obtain ⟨fuel, rfl⟩ : ∃ n, fuel = n + 1 := ⟨fuel - 1, by simp [joined] at hfuel; omega⟩
    refine .of_ok ?_ (by simp)
    simp [readMembers, joined, nextKey_end]
  | cons m ms ih =>
    obtain ⟨k, v⟩ := m
    rw [List.forall_mem_cons] at hitem
    rw [joined_cons_append, writeMember_append] at hfuel htotal ⊢
    have hname := length_lt_of_append htotal
    have hvalue := Nat.lt_of_succ_lt (length_lt_of_append hname)
    have hread := hitem.1 (joined writeMember false ms ++ '\x7d' :: rest) hvalue
    rw [List.length_append, List.length_append, List.length_cons, List.length_append] at hfuel
    obtain ⟨fuel, rfl⟩ : ∃ n, fuel = n + 1 := ⟨fuel - 1, by omega⟩
    rw [readMembers, nextKey_separator first hname]
    simp only [readColon_colon]
    have hshorter : (joined writeMember false ms ++ '\x7d' :: rest).length ≤ fuel := by omega
    have hrest := ih hitem.2 ((k, v) :: taken) hshorter (length_lt_of_append hvalue)
    rw [List.reverse_cons, List.append_assoc, List.singleton_append] at hrest
    rw [List.forall_mem_cons]
    refine hread.and_then (fun e he => ?_) fun hok => ?_
    · simp only [he]
    · simp only [hok]
      exact hrest

/-! ### Values -/

theorem Value.writeItems_eq (vs : List Value) : writeItems vs = joined write true vs := by
  induction vs with
  | nil => rfl
  | cons v vs ih =>
    cases vs with
    | nil => simp [writeItems, joined]
    | cons w ws =>
      rw [writeItems, ih]
      · simp [joined]
      · simp

theorem Value.writeMembers_eq (ms : List (String × Value)) :
    writeMembers ms = joined writeMember true ms := by
  induction ms with
  | nil => rfl
  | cons m ms ih =>
    obtain ⟨k, v⟩ := m
    cases ms with
    | nil => simp [writeMembers, joined, writeMember]
    | cons l ls =>
      rw [writeMembers, ih]
      · simp [joined, writeMember]
      · simp

/-- The text of a value begins with its first token. -/
theorem Value.NumberFree.opens {v : Value} (h : v.NumberFree) : Opens v.write := by
  cases h with
  | null => exact ⟨'n', _, rfl, by decide, by decide⟩
  | bool b =>
    cases b
    · exact ⟨'f', _, rfl, by decide, by decide⟩
    · exact ⟨'t', _, rfl, by decide, by decide⟩
  | string s => exact ⟨'"', _, rfl, by decide, by decide⟩
  | array => exact ⟨'[', _, by rw [write, List.cons_append], by decide, by decide⟩
  | object => exact ⟨'\x7b', _, by rw [write, List.cons_append], by decide, by decide⟩

theorem Value.write_array_append (vs : List Value) (rest : List Char) :
    (array vs).write ++ rest = '[' :: (joined write true vs ++ ']' :: rest) := by
  simp [write, writeItems_eq]

theorem Value.write_object_append (ms : List (String × Value)) (rest : List Char) :
    (object ms).write ++ rest = '\x7b' :: (joined writeMember true ms ++ '\x7d' :: rest) := by
  simp [write, writeMembers_eq]

/-- Without an opening bracket the budget does not matter. -/
theorem readValue_of_scalar {fuel budget : Nat} {c : Char} {cs : List Char}
    (hblank : isBlank c = false) (harray : c ≠ '[') (hobject : c ≠ '\x7b') :
    readValue fuel budget (c :: cs) = readScalar fuel (c :: cs) := by
  cases budget <;> simp [readValue, skipBlanks_cons hblank, harray, hobject]

/-- **A value without numbers is read back**, whatever follows its text, if its brackets are nested
no deeper than the budget, and is refused for the depth of its brackets otherwise. -/
theorem readValue_write {v : Value} (hv : v.NumberFree) {fuel : Nat} (budget : Nat)
    {rest : List Char} (hfuel : (v.write ++ rest).length < fuel) :
    Takes (readValue fuel budget (v.write ++ rest)) (v.nesting ≤ budget) v rest
      .recursionLimit := by
  induction hv generalizing budget rest with
  | null =>
    refine .of_ok ?_ (Nat.zero_le _)
    rw [Value.write, List.cons_append,
      readValue_of_scalar (by decide) (by decide) (by decide)]
    rfl
  | bool b =>
    refine .of_ok ?_ (Nat.zero_le _)
    cases b
    all_goals
      rw [Value.write, List.cons_append,
        readValue_of_scalar (by decide) (by decide) (by decide)]
      rfl
  | string s =>
    refine .of_ok ?_ (Nat.zero_le _)
    rw [Value.write] at hfuel ⊢
    have hread := readString_written hfuel
    rw [written_append, readValue_of_scalar (by decide) (by decide) (by decide), readScalar]
    simp [hread, Except.map]
  | @array vs hvs ih =>
    rw [Value.write_array_append] at hfuel ⊢
    have hskip : ∀ cs, skipBlanks ('[' :: cs) = '[' :: cs := skipBlanks_cons (by decide)
    cases budget with
    | zero =>
      -- the first bracket is too many already, so only the refusal is to be shown
      refine ⟨fun h => absurd h (Nat.not_succ_le_zero _), fun _ => ?_⟩
      exact ⟨_, by rw [readValue, hskip]; rfl, rfl⟩
    | succ budget =>
      have hshorter := Nat.lt_of_succ_lt hfuel
      have hitems := takes_readItems id vs (fun v h => (hvs v h).opens)
        (fun v h rest => ih v h budget) [] (Nat.le_of_lt hshorter) hshorter
      rw [readValue, hskip, Value.nesting, Nat.add_le_add_iff_right,
        Value.nestingOfItems_le_iff]
      simpa [readArray] using hitems.map Value.array
  | @object ms hms ih =>
    rw [Value.write_object_append] at hfuel ⊢
    have hskip : ∀ cs, skipBlanks ('\x7b' :: cs) = '\x7b' :: cs := skipBlanks_cons (by decide)
    cases budget with
    | zero =>
      refine ⟨fun h => absurd h (Nat.not_succ_le_zero _), fun _ => ?_⟩
      exact ⟨_, by rw [readValue, hskip]; rfl, rfl⟩
    | succ budget =>
      have hshorter := Nat.lt_of_succ_lt hfuel
      have hmembers := takes_readMembers ms (fun m h rest => ih m h budget) []
        (Nat.le_of_lt hshorter) hshorter
      rw [readValue, hskip, Value.nesting, Nat.add_le_add_iff_right,
        Value.nestingOfMembers_le_iff]
      exact hmembers.map Value.object

end Outline.Json
