import Outline.Proofs.Document.Denotation
import Outline.Proofs.Document.RoundTrip

/-!
# The language of tree documents

A document is read without making a JSON value of the whole of it first: the reader of an array is
given a reader of nodes for its items. `parse_language` says that this comes to the same as reading
the text as JSON and asking which nodes the items of the array denote, so that the texts that are
accepted, and the nodes that come out, are told by `Denotes` alone.

Where one reader gives what the answers of another stand for, the readers of arrays made from the
two go through a text in lockstep (`Json.readItems_eq_ok_iff_forall₂`). The budgets fit together
since the array of the document is itself one of the brackets that may be open.
-/

namespace Outline.Json

/-! ### Two readers of the items of an array -/

section

variable {ε φ α β : Type} {lift : SyntaxError → ε} {lift' : SyntaxError → φ} {item : Reader ε α}
  {item' : Reader φ β} {fuel : Nat} {first : Bool} {cs rest : List Char} {as : List α}

/-- The items taken before stand in front of those that are read. -/
theorem readItems_taken (taken : List α) :
    readItems lift item fuel first taken cs =
      (readItems lift item fuel first [] cs).map fun p => (taken.reverse ++ p.1, p.2) := by
  induction fuel generalizing first taken cs with
  | zero => rfl
  | succ fuel ih =>
    rw [readItems, readItems]
    cases nextItem first cs with
    | error e => rfl
    | ok next =>
      obtain ⟨more, rest⟩ := next
      cases more with
      | false => simp [Except.map]
      | true =>
        dsimp only
        cases item rest with
        | error e => rfl
        | ok p =>
          -- what was just read is from now on one of the items taken before, in either loop
          obtain ⟨a, rest⟩ := p
          dsimp only
          rw [ih (a :: taken), ih [a]]
          cases readItems lift item fuel false [] rest <;> simp [Except.map]

/-- A loop over items ends, or reads an item and goes on. -/
theorem readItems_succ_eq_ok_iff :
    readItems lift item (fuel + 1) first [] cs = .ok (as, rest) ↔
      nextItem first cs = .ok (false, rest) ∧ as = [] ∨
      ∃ here a there more, nextItem first cs = .ok (true, here) ∧ item here = .ok (a, there) ∧
        readItems lift item fuel false [] there = .ok (more, rest) ∧ as = a :: more := by
  rw [readItems]
  cases nextItem first cs with
  | error e => simp
  | ok next =>
    obtain ⟨goes, here⟩ := next
    cases goes with
    | false => simp [eq_comm, and_comm]
    | true =>
      dsimp only
      cases hitem : item here with
      | error e => simp [hitem]
      | ok p =>
        obtain ⟨a, there⟩ := p
        dsimp only
        rw [readItems_taken [a]]
        cases hmore : readItems lift item fuel false [] there with
        | error e => simp [Except.map, hitem, hmore]
        | ok q =>
          obtain ⟨more, last⟩ := q
          simpa [Except.map, hitem, hmore, eq_comm] using and_comm

/-- **Two readers of arrays go in lockstep** if the reader of items of the one gives what the answer
of the other's stands for, and takes the same part of the text. -/
theorem readItems_eq_ok_iff_forall₂ {stands : β → α → Prop}
    (hitem : ∀ cs a rest, item cs = .ok (a, rest) ↔ ∃ b, item' cs = .ok (b, rest) ∧ stands b a) :
    readItems lift item fuel first [] cs = .ok (as, rest) ↔
      ∃ bs, readItems lift' item' fuel first [] cs = .ok (bs, rest) ∧
        List.Forall₂ stands bs as := by
  induction fuel generalizing first cs as with
  | zero => simp [readItems]
  | succ fuel ih =>
    constructor
    · intro h
      rcases readItems_succ_eq_ok_iff.mp h with
        ⟨hend, rfl⟩ | ⟨here, a, there, more, hnext, ha, hmore, rfl⟩
      · exact ⟨[], readItems_succ_eq_ok_iff.mpr (.inl ⟨hend, rfl⟩), .nil⟩
      · obtain ⟨b, hb, hba⟩ := (hitem here a there).mp ha
        obtain ⟨bs, hbs, hall⟩ := ih.mp hmore
        exact ⟨b :: bs, readItems_succ_eq_ok_iff.mpr
          (.inr ⟨here, b, there, bs, hnext, hb, hbs, rfl⟩), .cons hba hall⟩
    · rintro ⟨bs, h, hall⟩
      rcases readItems_succ_eq_ok_iff.mp h with
        ⟨hend, rfl⟩ | ⟨here, b, there, more, hnext, hb, hmore, rfl⟩
      · cases hall
        exact readItems_succ_eq_ok_iff.mpr (.inl ⟨hend, rfl⟩)
      · cases hall with
        | @cons _ a _ as hba hall =>
          have ha := (hitem here a there).mpr ⟨b, hb, hba⟩
          exact readItems_succ_eq_ok_iff.mpr
            (.inr ⟨here, a, there, as, hnext, ha, ih.mpr ⟨more, hmore, hall⟩, rfl⟩)

end

/-! ### Arrays as whole texts -/

/-- A text is JSON if a value stands at its front and nothing follows. -/
theorem read_eq_ok_iff {text : String} {v : Value} :
    read text = .ok v ↔ ∃ rest,
      readValue (text.toList.length + 1) maxOpen text.toList = .ok (v, rest) ∧
        readEnd rest = .ok () := by
  rw [read]
  dsimp only
  cases readValue (text.toList.length + 1) maxOpen text.toList with
  | error e => simp [bind, Except.bind]
  | ok p =>
    obtain ⟨w, rest⟩ := p
    cases hend : readEnd rest with
    | error e => simp [bind, Except.bind, hend]
    | ok u => simp [bind, Except.bind, pure, Except.pure, hend]

/-- A value is an array exactly when it begins with a square bracket and its items end with one. -/
theorem readValue_eq_array_iff {fuel budget : Nat} {cs rest : List Char} {vs : List Value} :
    readValue fuel (budget + 1) cs = .ok (.array vs, rest) ↔ ∃ inner,
      skipBlanks cs = '[' :: inner ∧
        readArray id (readValue fuel budget) fuel inner = .ok (vs, rest) := by
  constructor
  · intro h
    rw [readValue] at h
    split at h
    · next inner hcs =>
      obtain ⟨p, hread, hp⟩ := exists_of_map_eq_ok h
      cases hp
      exact ⟨inner, hcs, hread⟩
    · obtain ⟨p, -, hp⟩ := exists_of_map_eq_ok h
      cases hp
    · have hnesting := nesting_of_readScalar h
      cases hnesting
  · rintro ⟨inner, hcs, hread⟩
    simp only [readValue, hcs, hread, Except.map]

end Outline.Json

namespace Outline.Document

open Outline.Json (Value maxOpen skipBlanks readValue readArray readEnd)

/-! ### Documents -/

/-- A node is read where a value that denotes it is. -/
theorem readNode_eq_ok_iff {fuel : Nat} {cs rest : List Char} {n : Node} :
    readNode fuel cs = .ok (n, rest) ↔
      ∃ v, readValue fuel nodeBudget cs = .ok (v, rest) ∧ Denotes false v n := by
  simp only [← nodeOf_eq_ok_iff]
  rw [readNode]
  cases readValue fuel nodeBudget cs with
  | error e => simp
  | ok p =>
    obtain ⟨v, last⟩ := p
    cases hv : nodeOf false v with
    | error e => simp [hv]
    | ok m => simp [hv, and_comm]

/-- The nodes of a document stand in an array that nothing follows. -/
theorem readNodes_eq_ok_iff_readArray {text : List Char} {ns : List Node} :
    readNodes text = .ok ns ↔ ∃ inner rest, skipBlanks text = '[' :: inner ∧
      readArray .json (readNode (text.length + 1)) (text.length + 1) inner = .ok (ns, rest) ∧
        readEnd rest = .ok () := by
  constructor
  · intro h
    rw [readNodes] at h
    split at h
    · next inner htext =>
      split at h
      · cases h
      next ms rest hread =>
      split at h
      · cases h
      next hend =>
      cases h
      exact ⟨inner, rest, htext, hread, hend⟩
    · cases h
    · split at h <;> cases h
  · rintro ⟨inner, rest, htext, hread, hend⟩
    simp only [readNodes, htext, hread, hend]

/-- **A document is read exactly if its text is an array of values that denote nodes**, and the
nodes that are read are those that the values denote. -/
theorem readNodes_eq_ok_iff {text : String} {ns : List Node} :
    readNodes text.toList = .ok ns ↔
      ∃ vs, Json.read text = .ok (.array vs) ∧ List.Forall₂ (Denotes false) vs ns := by
  have hlockstep : ∀ (inner rest : List Char),
      readArray .json (readNode (text.toList.length + 1)) (text.toList.length + 1) inner =
          .ok (ns, rest) ↔
        ∃ vs, readArray id (readValue (text.toList.length + 1) nodeBudget)
          (text.toList.length + 1) inner = .ok (vs, rest) ∧ List.Forall₂ (Denotes false) vs ns :=
    fun inner rest => Json.readItems_eq_ok_iff_forall₂ fun _ _ _ => readNode_eq_ok_iff
  rw [readNodes_eq_ok_iff_readArray]
  constructor
  · rintro ⟨inner, rest, htext, hread, hend⟩
    obtain ⟨vs, hvs, hall⟩ := (hlockstep inner rest).mp hread
    have harray : readValue (text.toList.length + 1) maxOpen text.toList = .ok (.array vs, rest) :=
      Json.readValue_eq_array_iff.mpr ⟨inner, htext, hvs⟩
    exact ⟨vs, Json.read_eq_ok_iff.mpr ⟨rest, harray, hend⟩, hall⟩
  · rintro ⟨vs, hread, hall⟩
    obtain ⟨rest, harray, hend⟩ := Json.read_eq_ok_iff.mp hread
    -- the bracket of the document leaves its items the budget of a node
    have hbudget : readValue (text.toList.length + 1) (nodeBudget + 1) text.toList =
        .ok (.array vs, rest) := harray
    obtain ⟨inner, htext, hvs⟩ := Json.readValue_eq_array_iff.mp hbudget
    exact ⟨inner, rest, htext, (hlockstep inner rest).mpr ⟨vs, hvs, hall⟩, hend⟩

end Outline.Document

namespace Outline.Source

open Outline.Document (Denotes readNodes_eq_ok_iff)
open Outline.Json (Value)

/-- Values denote nodes one by one if each of them denotes one. -/
theorem exists_forall₂_denotes_iff {numbered : Bool} {vs : List Value} :
    (∃ ns, List.Forall₂ (Denotes numbered) vs ns) ↔ ∀ v ∈ vs, ∃ n, Denotes numbered v n := by
  induction vs with
  | nil => simp
  | cons v vs ih =>
    rw [List.forall_mem_cons, ← ih]
    constructor
    · rintro ⟨_, hv | ⟨hv, hvs⟩⟩
      exact ⟨⟨_, hv⟩, _, hvs⟩
    · rintro ⟨⟨n, hn⟩, ns, hns⟩
      exact ⟨n :: ns, .cons hn hns⟩

/-- **The language of tree documents.** Whatever the text, it is read as a forest exactly if it is
JSON, the value is an array, and its items denote the nodes of the forest in order. In particular
every text that is JSON, which never has more than 127 brackets open at once, is accepted exactly if
its value is an array of values that denote nodes. -/
theorem parse_language (origin : Path) (text : String) :
    (∀ ns, parse origin text = .ok ns ↔
      ∃ vs, Json.read text = .ok (.array vs) ∧ List.Forall₂ (Denotes false) vs ns) ∧
    ∀ v, Json.read text = .ok v → v.nesting ≤ 127 ∧
      ((∃ ns, parse origin text = .ok ns) ↔
        ∃ vs, v = .array vs ∧ ∀ w ∈ vs, ∃ n, Denotes false w n) := by
  have haccepts : ∀ ns, parse origin text = .ok ns ↔
      ∃ vs, Json.read text = .ok (.array vs) ∧ List.Forall₂ (Denotes false) vs ns :=
    fun ns => parse_eq_ok_iff.trans readNodes_eq_ok_iff
  refine ⟨haccepts, fun v hv => ⟨?_, ?_⟩⟩
  · obtain ⟨rest, hread, -⟩ := Json.read_eq_ok_iff.mp hv
    exact Json.nesting_le_of_readValue hread
  · simp only [haccepts, ← exists_forall₂_denotes_iff, hv, Except.ok.injEq]
    constructor
    · rintro ⟨ns, vs, rfl, hns⟩
      exact ⟨vs, rfl, ns, hns⟩
    · rintro ⟨vs, rfl, ns, hns⟩
      exact ⟨ns, vs, rfl, hns⟩

/-- A leaf may have members that mean nothing, and a group that is written as an array may hold a
node of numbered kind; at the top a number is no kind. -/
theorem parse_language_odd :
    parse ⟨"a"⟩ "[\x7b\"children\":1,\"kind\":\"leaf\",\"children\":[],\"name\":\"b\"\x7d]" =
      .ok [.leaf "b" none] ∧
    parse ⟨"a"⟩ "[[\"group\",\"g\",null,[[0,\"a\",\"v\"]]]]" =
      .ok [.group "g" none [.leaf "a" (some "v")]] ∧
    ¬ ∃ ns, parse ⟨"a"⟩ "[[0,\"a\",\"v\"]]" = .ok ns := by
  refine ⟨?_, ?_, ?_⟩
  · have hleaf : Denotes false
        (.object [("children", .number (.natural 1)), ("kind", .string "leaf"),
          ("children", .array []), ("name", .string "b")]) (.leaf "b" none) :=
      .leafObject ⟨⟨_, rfl, .leaf⟩, rfl, .absent⟩
    exact ((parse_language _ _).1 _).mpr ⟨_, rfl, .cons hleaf .nil⟩
  · have hinner : Denotes true (.array [.number (.natural 0), .string "a", .string "v"])
        (.leaf "a" (some "v")) := .leafArray (.leafNumber rfl) (.text "v")
    have hgroup : Denotes false
        (.array [.string "group", .string "g", .null,
          .array [.array [.number (.natural 0), .string "a", .string "v"]]])
        (.group "g" none [.leaf "a" (some "v")]) := .fullGroupArray .group .null (.cons hinner .nil)
    exact ((parse_language _ _).1 _).mpr ⟨_, rfl, .cons hgroup .nil⟩
  · have hread : Json.read "[[0,\"a\",\"v\"]]" =
        .ok (.array [.array [.number (.natural 0), .string "a", .string "v"]]) := rfl
    rw [((parse_language _ _).2 _ hread).2]
    rintro ⟨vs, hvs, hall⟩
    cases hvs
    obtain ⟨n, hn⟩ := hall _ List.mem_cons_self
    -- either array rule asks for a kind, and at the top a number names none
    cases hn with
    | leafArray kind => cases kind with | leafNumber h => cases h
    | groupArray kind => cases kind

end Outline.Source
