import Outline.Source
import Outline.Proofs.Json.Nesting
import Outline.Proofs.Json.RoundTrip
import Outline.Proofs.Document.Shape

/-!
# Documents are read back as they are written

The text of a forest is read back as this forest exactly up to the depth at which a reader gives
up on open brackets, and every forest that was read from any text stays within this depth
(`parse_jsonList`).

A written node is read as a value first, so that `Json.readValue_write` applies, and the value
stands for the node. In a text that is nested too deep the reader must not find a fault in the kind
of a node instead: `kindFault?_toJson` says that it finds none, however deep the text is nested.

The last part is an argument of parity. A forest that was read needed one bracket for the document
and at most 126 others for each node, so no node is higher than 63, and hence none needs more than
126 brackets once all children are written out, although some of them may have been left out in the
text that was read.
-/

namespace Outline.Document

open Outline.Json (Fault Reader Value SyntaxError Takes joined writeMember)

/-! ### No fault in the kind of a written node -/

/-- Once the kind is known, no fault is found in the members that follow. -/
theorem memberKindFault?_known {total fuel : Nat} {first : Bool} {ms : List (String × Value)}
    (hkey : ∀ m ∈ ms, m.1 ≠ "kind") (hfree : ∀ m ∈ ms, m.2.NumberFree) {rest : List Char}
    (htotal : (joined writeMember first ms ++ '\x7d' :: rest).length < total) :
    memberKindFault? total fuel first true (joined writeMember first ms ++ '\x7d' :: rest) =
      none := by
  induction ms generalizing fuel first with
  | nil =>
    cases fuel with
    | zero => rfl
    | succ fuel => simp [memberKindFault?, joined, Json.nextKey_end]
  | cons m ms ih =>
    obtain ⟨k, v⟩ := m
    rw [List.forall_mem_cons] at hkey hfree
    cases fuel with
    | zero => rfl
    | succ fuel =>
      rw [Json.joined_cons_append, Json.writeMember_append] at htotal ⊢
      have hname := Json.length_lt_of_append htotal
      have hvalue := Nat.lt_of_succ_lt (Json.length_lt_of_append hname)
      have hother : ¬ k = Field.kind.key := hkey.1
      have hread := Json.readValue_write hfree.1 (nodeBudget - 1) hvalue
      rw [memberKindFault?, Json.nextKey_separator first hname]
      simp only [hother, decide_false, Bool.false_and, Bool.false_eq_true, if_false,
        Json.readColon_colon, Bool.or_false]
      -- a member that is nested too deep ends the search, and any other one is passed over
      rcases hread.ok_or_error with hok | ⟨e, he⟩
      · simp only [hok]
        exact ih hkey.2 hfree.2 (Json.length_lt_of_append hvalue)
      · simp only [he]

/-- The value of the kind of a written node has no fault. -/
theorem kindValueFault?_kindName {fuel : Nat} {n : Node} {rest : List Char}
    (hfuel : (Json.written n.kindName ++ rest).length < fuel) :
    kindValueFault? fuel (Json.written n.kindName ++ rest) = none := by
  have hread := Json.readString_written hfuel
  have hquote : Json.isBlank '"' = false := by decide
  rw [Json.written_append] at hfuel ⊢
  simp [kindValueFault?, Json.skipBlanks_cons hquote, Json.readScalar, hread, Except.map,
    kindOf_kindName]

/-- **No fault is found in the kind of a written node**, however deep it is nested. -/
theorem kindFault?_toJson {fuel : Nat} (n : Node) {rest : List Char}
    (hfuel : (n.toJson.write ++ rest).length < fuel) :
    kindFault? fuel (n.toJson.write ++ rest) = none := by
  have hbrace : Json.isBlank '\x7b' = false := by decide
  rw [Node.toJson_eq, Json.Value.write_object_append, Json.joined_cons_append,
    Json.writeMember_append, Json.separator_true, List.nil_append, Value.write] at hfuel ⊢
  have hname := Nat.lt_of_succ_lt hfuel
  have hkind := Nat.lt_of_succ_lt (Json.length_lt_of_append hname)
  have hrest := Json.length_lt_of_append hkind
  -- the kind comes first, and being a text it is read with any budget
  have hread := (Json.readValue_write (.string n.kindName) (nodeBudget - 1) hkind).1
    (Nat.zero_le _)
  rw [Value.write] at hread
  obtain ⟨fuel, rfl⟩ : ∃ m, fuel = m + 1 := ⟨fuel - 1, by omega⟩
  rw [kindFault?, Json.skipBlanks_cons hbrace]
  change memberKindFault? (fuel + 1) (fuel + 1) true false _ = none
  rw [memberKindFault?, ← List.nil_append (Json.written "kind" ++ _), ← Json.separator_true,
    Json.nextKey_separator true hname]
  simp only [Field.key, decide_true, Bool.and_false, Bool.false_eq_true, if_false,
    Json.readColon_colon, if_true, kindValueFault?_kindName hkind, hread, Bool.or_true]
  exact memberKindFault?_known (fun m hm => (Node.of_mem_contentMembers hm).1)
    n.numberFree_contentMembers hrest

/-! ### Reading a written node -/

/-- A node is read back if its brackets fit into the budget, and refused for them otherwise. -/
theorem readNode_toJson {fuel : Nat} (n : Node) {rest : List Char}
    (hfuel : (n.toJson.write ++ rest).length < fuel) :
    Takes (readNode fuel (n.toJson.write ++ rest)) (n.nest ≤ nodeBudget) n rest
      (.json .recursionLimit) := by
  have hread := Json.readValue_write n.numberFree_toJson nodeBudget hfuel
  rw [Node.nesting_toJson] at hread
  rw [readNode]
  constructor
  · intro h
    simp only [hread.1 h, nodeOf_toJson]
  · intro h
    obtain ⟨e, he, hc⟩ := hread.2 h
    refine ⟨e.map .json, ?_, ?_⟩
    · simp only [he, kindFault?_toJson n hfuel, Option.getD_none]
    · rw [Fault.map, hc]

/-! ### Reading a written document -/

/-- The nodes of a written document are read back if all their brackets fit into the budget, and
refused for them otherwise. -/
theorem readArray_toJson {fuel : Nat} (ns : List Node) {rest : List Char}
    (hfuel : (joined (fun n : Node => n.toJson.write) true ns ++ ']' :: rest).length < fuel) :
    Takes (Json.readArray .json (readNode fuel) fuel
        (joined (fun n : Node => n.toJson.write) true ns ++ ']' :: rest))
      (Node.nestAll ns ≤ nodeBudget) ns rest (.json .recursionLimit) := by
  have hitems := Json.takes_readItems .json ns (fun n _ => n.numberFree_toJson.opens)
    (fun n _ rest => readNode_toJson n) [] (Nat.le_of_lt hfuel) hfuel
  rw [List.map_id'' fun _ => rfl] at hitems
  exact hitems.congr Node.nestAll_le_iff.symm

/-- The text of a forest is the forest itself for a reader with enough budget, and a fault because
of the brackets for any other. -/
theorem readNodes_jsonList (ns : List Node) :
    (Node.nestAll ns ≤ nodeBudget → readNodes (Node.jsonList ns).toList = .ok ns) ∧
      (¬ Node.nestAll ns ≤ nodeBudget → ∃ e, readNodes (Node.jsonList ns).toList = .error e ∧
        e.cause = .json .recursionLimit) := by
  have htext : (Node.jsonList ns).toList =
      '[' :: (joined (fun n => n.toJson.write) true ns ++ ']' :: []) := by
    rw [Node.jsonList, Value.text, String.toList_ofList, ← List.append_nil (Value.write _),
      Json.Value.write_array_append, Json.joined_map]
  have hbracket : Json.isBlank '[' = false := by decide
  rw [htext, readNodes, Json.skipBlanks_cons hbracket]
  have hnodes := readArray_toJson ns
    (Nat.lt_succ_of_lt
      (Nat.lt_succ_self (joined (fun n => n.toJson.write) true ns ++ [']']).length))
  constructor
  · intro h
    have hread := hnodes.1 h
    simp only [List.length_cons] at hread ⊢
    simp only [hread]
    rfl
  · intro h
    obtain ⟨e, he, hc⟩ := hnodes.2 h
    refine ⟨e, ?_, hc⟩
    simp only [List.length_cons] at he ⊢
    simp only [he]

/-! ### What was read -/

/-- Every node that is read is low enough to be written with the brackets that are left. -/
theorem nest_le_of_readNode {fuel : Nat} {cs rest : List Char} {n : Node}
    (h : readNode fuel cs = .ok (n, rest)) : n.nest ≤ nodeBudget := by
  rw [readNode] at h
  split at h
  · nomatch h
  rename_i v rest' hread
  split at h
  · rename_i m hm
    obtain rfl : m = n := (Prod.mk.inj (Except.ok.inj h)).1
    have hnesting := Json.nesting_le_of_readValue hread
    have hheight := two_mul_height_le_of_nodeOf hm
    have hnest := m.nest_le
    -- twice a height that is at most 127 is at most 126, as an even number
    rw [nodeBudget, Json.maxOpen] at hnesting ⊢
    omega
  · nomatch h

/-- **Every forest that is read from a text** can be written with the brackets that are left. -/
theorem nestAll_le_of_readNodes {text : List Char} {ns : List Node}
    (h : readNodes text = .ok ns) : Node.nestAll ns ≤ nodeBudget := by
  rw [readNodes] at h
  split at h
  · split at h
    · nomatch h
    rename_i ms rest hread
    split at h
    · nomatch h
    · rw [← Except.ok.inj h]
      exact Node.nestAll_le_iff.mpr
        (Json.forall_of_readArray (fun _ _ _ => nest_le_of_readNode) hread)
  · nomatch h
  · split at h <;> nomatch h

end Outline.Document

namespace Outline.Source

open Outline.Document (nodeBudget readNodes_jsonList nestAll_le_of_readNodes)

theorem parse_eq_ok_iff {origin : Path} {text : String} {ns : List Node} :
    parse origin text = .ok ns ↔ Document.readNodes text.toList = .ok ns := by
  rw [parse, Document.read]
  cases Document.readNodes text.toList with
  | error e => constructor <;> intro h <;> cases h
  | ok ms => constructor <;> intro h <;> cases h <;> rfl

theorem parse_of_error {text : String} {e : Json.Fault Document.Cause}
    (h : Document.readNodes text.toList = .error e) (origin : Path) :
    parse origin text = .error (.invalid origin ⟨e.cause, e.locate text.toList⟩) := by
  rw [parse, Document.read, h]
  rfl

/-- One bracket is left for the document itself. -/
theorem nestAll_le_nodeBudget_iff {ns : List Node} :
    Node.nestAll ns ≤ nodeBudget ↔ 1 + Node.nestAll ns ≤ 127 := by
  rw [nodeBudget, Json.maxOpen]
  omega

/-- **The text of a forest is read back as the forest exactly if at most 127 brackets are open in it
at once**, and is refused for them otherwise. Every forest that was read from a text, however it
was written there, is within this limit, so it is read back once it is written again. -/
theorem parse_jsonList :
    (∀ (origin : Path) (ns : List Node), 1 + Node.nestAll ns ≤ 127 →
      parse origin (Node.jsonList ns) = .ok ns) ∧
    (∀ (origin : Path) (ns : List Node), 127 < 1 + Node.nestAll ns →
      ∃ place, parse origin (Node.jsonList ns) =
        .error (.invalid origin ⟨.json .recursionLimit, place⟩)) ∧
    ∀ (origin origin' : Path) (text : String) (ns : List Node), parse origin text = .ok ns →
      1 + Node.nestAll ns ≤ 127 ∧ parse origin' (Node.jsonList ns) = .ok ns := by
  have hfits : ∀ (origin : Path) (ns : List Node), Node.nestAll ns ≤ nodeBudget →
      parse origin (Node.jsonList ns) = .ok ns :=
    fun origin ns h => parse_eq_ok_iff.mpr ((readNodes_jsonList ns).1 h)
  refine ⟨fun origin ns h => ?_, fun origin ns h => ?_, fun origin origin' text ns h => ?_⟩
  · exact hfits origin ns (nestAll_le_nodeBudget_iff.mpr h)
  · have hdeep : ¬ Node.nestAll ns ≤ nodeBudget := by
      rw [nestAll_le_nodeBudget_iff]
      omega
    obtain ⟨e, he, hc⟩ := (readNodes_jsonList ns).2 hdeep
    exact ⟨_, hc ▸ parse_of_error he origin⟩
  · have hread := nestAll_le_of_readNodes (parse_eq_ok_iff.mp h)
    exact ⟨nestAll_le_nodeBudget_iff.mp hread, hfits origin' ns hread⟩

/-- Groups within groups down to an empty one are read back if there are 63 of them, and a leaf
within as many groups is not. A group whose children were left out gets an empty list of them when
it is written again. -/
theorem parse_jsonList_at_limit :
    parse ⟨"a"⟩ (Node.jsonList
        [Nat.repeat (fun n => .group "g" none [n]) 62 (.group "\"\\\x00" (some "") [])]) =
      .ok [Nat.repeat (fun n => .group "g" none [n]) 62 (.group "\"\\\x00" (some "") [])] ∧
    (∃ place, parse ⟨"a"⟩ (Node.jsonList
        [Nat.repeat (fun n => .group "g" none [n]) 63 (.leaf "l" none)]) =
      .error (.invalid ⟨"a"⟩ ⟨.json .recursionLimit, place⟩)) ∧
    parse ⟨"a"⟩ "[\x7b\"name\": \"g\", \"kind\": \"group\"\x7d]" = .ok [.group "g" none []] ∧
    parse ⟨"b"⟩ (Node.jsonList [.group "g" none []]) = .ok [.group "g" none []] := by
  have hread : parse ⟨"a"⟩ "[\x7b\"name\": \"g\", \"kind\": \"group\"\x7d]" =
      .ok [.group "g" none []] := parse_eq_ok_iff.mpr (by cbv)
  exact ⟨parse_jsonList.1 _ _ (by decide +kernel), parse_jsonList.2.1 _ _ (by decide +kernel),
    hread, (parse_jsonList.2.2 _ ⟨"b"⟩ _ _ hread).2⟩

end Outline.Source
