import Outline.Proofs.Document.Language
import Outline.Proofs.Json.Extension

/-!
# A node at the top and below another

What a value denotes hardly depends on whether it stands at the top of a document or below another
node. `denotes_false_iff` tells the difference: below another node the kind may be given by its
number. So a text that stands for a node below a group stands for the same node at the top, and the
other way round, unless its kind is numbered (`parse_alone_iff_parse_below`).

That a text may be put between other texts in the first place is `Json.readValue_append`: here it is
read on its own, as the only item of an array, and as the only child of a group.
-/

namespace Outline.Json

/-! ### A text between brackets -/

/-- A text that is read begins like a value and not like the end of an array. -/
theorem opens_skipBlanks_of_readValue {fuel budget : Nat} {cs rest : List Char} {v : Value}
    (h : readValue fuel budget cs = .ok (v, rest)) : Opens (skipBlanks cs) := by
  obtain ⟨c, t, hcs, hvalue⟩ := readValue_eq_ok_cases h
  refine ⟨c, t, hcs, isBlank_of_skipBlanks hcs, ?_⟩
  rintro rfl
  rcases hvalue with ⟨_, _, hc, -⟩ | ⟨_, _, hc, -⟩ | ⟨-, -, hread⟩
  · exact absurd hc (by decide)
  · exact absurd hc (by decide)
  · cases hread

/-- What is left behind the value of a text is blank. -/
theorem readEnd_eq_ok_iff {cs : List Char} : readEnd cs = .ok () ↔ skipBlanks cs = [] := by
  rw [readEnd]
  cases skipBlanks cs <;> simp

theorem skipBlanks_append_of_blank {cs : List Char} (h : skipBlanks cs = []) (more : List Char) :
    skipBlanks (cs ++ more) = skipBlanks more := by
  rw [skipBlanks, List.dropWhile_append, if_pos (by simpa [skipBlanks] using h)]
  rfl

theorem stops_cons_bracket (cs : List Char) : Stops (']' :: cs) := by
  intro c hc
  cases hc
  decide

/-- **A text that is JSON is read within brackets too**, if one more of them may be open. -/
theorem readValue_brackets {text : String} {v : Value} (hread : read text = .ok v)
    {fuel budget : Nat} (hbudget : v.nesting + 1 ≤ budget) (more : List Char)
    (hfuel : text.toList.length + 1 < fuel) :
    readValue fuel budget ('[' :: (text.toList ++ ']' :: more)) = .ok (.array [v], more) := by
  obtain ⟨rest, hvalue, hend⟩ := read_eq_ok_iff.mp hread
  obtain ⟨budget, rfl⟩ := Nat.exists_eq_add_one.mpr (Nat.lt_of_lt_of_le (Nat.succ_pos _) hbudget)
  obtain ⟨fuel, rfl⟩ : ∃ n, fuel = n + 2 := ⟨fuel - 2, by omega⟩
  have hinner : readValue (fuel + 2) budget (text.toList ++ ']' :: more) =
      .ok (v, rest ++ ']' :: more) :=
    readValue_append (Nat.le_of_lt hfuel) maxOpen budget hvalue (Nat.le_of_succ_le_succ hbudget)
      _ (.inr (stops_cons_bracket more))
  have hnext : nextItem true (text.toList ++ ']' :: more) =
      .ok (true, skipBlanks (text.toList ++ ']' :: more)) :=
    nextItem_eq_item_iff.mpr
      ⟨opens_skipBlanks_of_readValue hinner, _, rfl, skipBlanks_skipBlanks _⟩
  have hlast : nextItem false (rest ++ ']' :: more) = .ok (false, more) := by
    rw [nextItem_eq_end_iff, skipBlanks_append_of_blank (readEnd_eq_ok_iff.mp hend),
      skipBlanks_cons (by decide)]
  have hitems : readArray id (readValue (fuel + 2) budget) (fuel + 2) (text.toList ++ ']' :: more) =
      .ok ([v], more) := by
    simp only [readArray, readItems, hnext, readValue_skipBlanks, hinner, hlast,
      List.reverse_singleton]
  exact readValue_eq_array_iff.mpr ⟨_, skipBlanks_cons (by decide) _, hitems⟩

/-! ### A member of an object -/

/-- The loop over members goes past one whose value is read. -/
theorem readMembers_member {total fuel budget : Nat} {first : Bool} {k : String} {v : Value}
    {cs rest : List Char} (hread : readValue total budget cs = .ok (v, rest))
    (htotal : (written k ++ ':' :: cs).length < total) (taken : List (String × Value)) :
    readMembers (readValue total budget) total (fuel + 1) first taken
        (separator first ++ (written k ++ ':' :: cs)) =
      readMembers (readValue total budget) total fuel false ((k, v) :: taken) rest := by
  simp only [readMembers, nextKey_separator first htotal, readColon_colon, hread]

end Outline.Json

namespace Outline.Document

open Outline.Json (Value written separator)

/-! ### The kind by its number -/

/-- The kind is given by a number, in either way of writing a node. -/
inductive NumbersKind : Value → Prop
  | object {ms : List (String × Value)} {n : Json.Number} (h : valuesOf .kind ms = [.number n]) :
      NumbersKind (.object ms)
  | array (n : Json.Number) (vs : List Value) : NumbersKind (.array (.number n :: vs))

theorem namesKind_false_iff {v : Value} {k : Kind} :
    NamesKind false v k ↔ NamesKind true v k ∧ ∀ n, v ≠ .number n := by
  constructor
  · rintro (_ | _ | h | h)
    · exact ⟨.leaf, fun n h => by cases h⟩
    · exact ⟨.group, fun n h => by cases h⟩
    · cases h
    · cases h
  · rintro ⟨_ | _ | _ | _, hnumber⟩
    · exact .leaf
    · exact .group
    · exact absurd rfl (hnumber _)
    · exact absurd rfl (hnumber _)

theorem head_false_iff {ms : List (String × Value)} {k : Kind} {name : String}
    {value : Option String} :
    Head false ms k name value ↔ Head true ms k name value ∧ ¬ NumbersKind (.object ms) := by
  constructor
  · rintro ⟨⟨v, hv, hk⟩, hname, hvalue⟩
    obtain ⟨hk, hnumber⟩ := namesKind_false_iff.mp hk
    refine ⟨⟨⟨v, hv, hk⟩, hname, hvalue⟩, ?_⟩
    rintro ⟨h⟩
    rw [hv] at h
    exact hnumber _ (List.cons.inj h).1
  · rintro ⟨⟨⟨v, hv, hk⟩, hname, hvalue⟩, hnumbers⟩
    refine ⟨⟨v, hv, namesKind_false_iff.mpr ⟨hk, ?_⟩⟩, hname, hvalue⟩
    rintro n rfl
    exact hnumbers (.object hv)

theorem numbersKind_array_iff {v : Value} {vs : List Value} :
    NumbersKind (.array (v :: vs)) ↔ ∃ n, v = .number n := by
  constructor
  · rintro ⟨⟩
    exact ⟨_, rfl⟩
  · rintro ⟨n, rfl⟩
    exact .array n vs

/-- **At the top a value denotes what it denotes below another node**, unless its kind is
numbered; then it denotes nothing. -/
theorem denotes_false_iff {v : Value} {n : Node} :
    Denotes false v n ↔ Denotes true v n ∧ ¬ NumbersKind v := by
  constructor
  · intro h
    cases h with
    | leafObject head =>
      obtain ⟨head, hnumber⟩ := head_false_iff.mp head
      exact ⟨.leafObject head, hnumber⟩
    | groupObject head children =>
      obtain ⟨head, hnumber⟩ := head_false_iff.mp head
      exact ⟨.groupObject head children, hnumber⟩
    | leafArray kind given =>
      obtain ⟨kind, hnumber⟩ := namesKind_false_iff.mp kind
      exact ⟨.leafArray kind given, by simpa [numbersKind_array_iff] using hnumber⟩
    | groupArray kind given =>
      obtain ⟨kind, hnumber⟩ := namesKind_false_iff.mp kind
      exact ⟨.groupArray kind given, by simpa [numbersKind_array_iff] using hnumber⟩
    | fullGroupArray kind given children =>
      obtain ⟨kind, hnumber⟩ := namesKind_false_iff.mp kind
      exact ⟨.fullGroupArray kind given children, by simpa [numbersKind_array_iff] using hnumber⟩
  · rintro ⟨h, hnumber⟩
    cases h with
    | leafObject head => exact .leafObject (head_false_iff.mpr ⟨head, hnumber⟩)
    | groupObject head children => exact .groupObject (head_false_iff.mpr ⟨head, hnumber⟩) children
    | leafArray kind given =>
      rw [numbersKind_array_iff, not_exists] at hnumber
      exact .leafArray (namesKind_false_iff.mpr ⟨kind, hnumber⟩) given
    | groupArray kind given =>
      rw [numbersKind_array_iff, not_exists] at hnumber
      exact .groupArray (namesKind_false_iff.mpr ⟨kind, hnumber⟩) given
    | fullGroupArray kind given children =>
      rw [numbersKind_array_iff, not_exists] at hnumber
      exact .fullGroupArray (namesKind_false_iff.mpr ⟨kind, hnumber⟩) given children

/-! ### A text as a document -/

/-- The document whose only node has this text. -/
def alone (text : String) : String := "[" ++ text ++ "]"

/-- The object for a group that has one child, with this text. -/
def groupText (text : String) : String :=
  "\x7b\"kind\":\"group\",\"name\":\"g\",\"children\":" ++ (alone text ++ "\x7d")

/-- The object for a group that has one child. -/
def groupValue (v : Value) : Value :=
  .object [("kind", .string "group"), ("name", .string "g"), ("children", .array [v])]

theorem toList_alone (text : String) : (alone text).toList = '[' :: (text.toList ++ [']']) := by
  simp [alone]

theorem read_alone {text : String} {v : Value} (hread : Json.read text = .ok v)
    (hnesting : v.nesting < Json.maxOpen) : Json.read (alone text) = .ok (.array [v]) := by
  refine Json.read_eq_ok_iff.mpr ⟨[], ?_, rfl⟩
  rw [toList_alone]
  exact Json.readValue_brackets hread hnesting [] (by simp)

theorem toList_groupText (text : String) :
    (groupText text).toList = '\x7b' ::
      (separator true ++ (written "kind" ++ ':' :: (written "group" ++
        (separator false ++ (written "name" ++ ':' :: (written "g" ++
          (separator false ++ (written "children" ++ ':' ::
            ('[' :: (text.toList ++ ']' :: ['\x7d'])))))))))) := by
  have hfront : "\x7b\"kind\":\"group\",\"name\":\"g\",\"children\":".toList = '\x7b' ::
      (separator true ++ (written "kind" ++ ':' :: (written "group" ++
        (separator false ++ (written "name" ++ ':' :: (written "g" ++
          (separator false ++ (written "children" ++ [':'])))))))) := by decide
  have hclose : "\x7d".toList = ['\x7d'] := by decide
  have hsplit : (groupText text).toList =
      "\x7b\"kind\":\"group\",\"name\":\"g\",\"children\":".toList ++
        ((alone text).toList ++ "\x7d".toList) :=
    String.toList_append.trans (congrArg _ String.toList_append)
  rw [hsplit, hfront, hclose, toList_alone]
  simp only [List.cons_append, List.append_assoc, List.nil_append]

theorem readValue_written {fuel budget : Nat} {s : String} {rest : List Char}
    (h : (written s ++ rest).length < fuel) :
    Json.readValue fuel budget (written s ++ rest) = .ok (.string s, rest) :=
  (Json.readValue_write (.string s) budget h).1 (Nat.zero_le budget)

theorem read_groupText {text : String} {v : Value} (hread : Json.read text = .ok v)
    (hnesting : v.nesting + 1 < Json.maxOpen) :
    Json.read (groupText text) = .ok (groupValue v) := by
  refine Json.read_eq_ok_iff.mpr ⟨[], ?_, rfl⟩
  rw [toList_groupText]
  generalize hlast : '[' :: (text.toList ++ ']' :: ['\x7d']) = last
  generalize hmembers : separator true ++ (written "kind" ++ ':' :: (written "group" ++
    (separator false ++ (written "name" ++ ':' :: (written "g" ++
      (separator false ++ (written "children" ++ ':' :: last))))))) = members
  have henough : 2 ≤ members.length := by
    simp only [← hmembers, ← hlast, List.length_append, List.length_cons]
    omega
  obtain ⟨fuel, hfuel⟩ : ∃ n, ('\x7b' :: members).length + 1 = n + 4 :=
    ⟨members.length - 2, by rw [List.length_cons]; omega⟩
  rw [hfuel]
  -- what is left behind each part is shorter still
  have hkind : members.length < fuel + 4 := by rw [List.length_cons] at hfuel; omega
  have hkind := Json.length_lt_of_append (hmembers ▸ hkind)
  have hgroup := Nat.lt_of_succ_lt (Json.length_lt_of_append hkind)
  have hname := Json.length_lt_of_append (Json.length_lt_of_append hgroup)
  have hg := Nat.lt_of_succ_lt (Json.length_lt_of_append hname)
  have hchildren := Json.length_lt_of_append (Json.length_lt_of_append hg)
  have hlast' : text.toList.length + 1 < fuel + 4 := by
    have := Nat.lt_of_succ_lt (Json.length_lt_of_append hchildren)
    simp only [← hlast, List.length_append, List.length_cons] at this
    omega
  have hobject : Json.readObject (Json.readValue (fuel + 4) (Json.maxOpen - 1)) (fuel + 4)
      members = .ok ([("kind", .string "group"), ("name", .string "g"),
        ("children", .array [v])], []) := by
    rw [Json.readObject, ← hmembers, Json.readMembers_member (readValue_written hgroup) hkind,
      Json.readMembers_member (readValue_written hg) hname,
      Json.readMembers_member
        (hlast ▸ Json.readValue_brackets hread (Nat.le_of_lt_succ hnesting) _ hlast') hchildren]
    rfl
  change Json.readValue (fuel + 4) (Json.maxOpen - 1 + 1) ('\x7b' :: members) = _
  have hskip : Json.skipBlanks ('\x7b' :: members) = '\x7b' :: members :=
    Json.skipBlanks_cons (by decide) _
  simp only [Json.readValue, hskip, hobject, Except.map, groupValue]

theorem nesting_groupValue (v : Value) : (groupValue v).nesting = v.nesting + 2 := by
  simp [groupValue, Value.nesting, Value.nestingOfMembers, Value.nestingOfItems]

/-- A group with one child stands for a group whose child the value denotes below another node. -/
theorem denotes_groupValue_iff {v : Value} {n : Node} :
    Denotes false (groupValue v) (.group "g" none [n]) ↔ Denotes true v n := by
  constructor
  · intro h
    cases h with
    | groupObject head children =>
      cases children with
      | list hvs =>
        cases hvs with
        | cons hv _ => exact hv
  · intro h
    exact .groupObject ⟨⟨_, rfl, .group⟩, rfl, .absent⟩ (.list (.cons h .nil))

end Outline.Document

namespace Outline.Source

open Outline.Document (Denotes NumbersKind alone groupText groupValue)
open Outline.Json (Value)

theorem parse_single_iff {origin : Path} {text : String} {v : Value} {n : Node}
    (hread : Json.read text = .ok (.array [v])) :
    parse origin text = .ok [n] ↔ Denotes false v n := by
  rw [parse_eq_ok_iff, Document.readNodes_eq_ok_iff, hread]
  simp

/-- **A node at the top and below a group.** Whatever JSON stands for a single value, it may be put
between brackets, and also into a group as its only child, if the brackets are not too many. As the
only node of a document it stands for a node exactly if it stands for the same node below the group
and its kind is not given by a number. -/
theorem parse_alone_iff_parse_below (origin : Path) {text : String} {v : Value}
    (hread : Json.read text = .ok v) (hnesting : v.nesting + 3 ≤ 127) :
    Json.read (alone text) = .ok (.array [v]) ∧
    Json.read (alone (groupText text)) = .ok (.array [groupValue v]) ∧
    ∀ n, parse origin (alone text) = .ok [n] ↔
      parse origin (alone (groupText text)) = .ok [.group "g" none [n]] ∧ ¬ NumbersKind v := by
  have halone : Json.read (alone text) = .ok (.array [v]) :=
    Document.read_alone hread (Nat.lt_of_succ_le (Nat.le_trans (by omega) hnesting))
  have hgroup : Json.read (groupText text) = .ok (groupValue v) :=
    Document.read_groupText hread (Nat.lt_of_succ_le (Nat.le_trans (by omega) hnesting))
  have hbelow : Json.read (alone (groupText text)) = .ok (.array [groupValue v]) :=
    Document.read_alone hgroup (by rw [Document.nesting_groupValue]; exact hnesting)
  refine ⟨halone, hbelow, fun n => ?_⟩
  rw [parse_single_iff halone, parse_single_iff hbelow, Document.denotes_groupValue_iff,
    Document.denotes_false_iff]

/-- A leaf that is written as an array stands for itself in either place. -/
theorem parse_alone_iff_parse_below_leaf :
    Json.read "[\"leaf\", \"a\"]" = .ok (.array [.string "leaf", .string "a"]) ∧
    (Value.array [.string "leaf", .string "a"]).nesting + 3 ≤ 127 ∧
    parse ⟨"a"⟩ "[[\"leaf\", \"a\"]]" = .ok [.leaf "a" none] ∧
    parse ⟨"a"⟩ (alone (groupText "[\"leaf\", \"a\"]")) =
      .ok [.group "g" none [.leaf "a" none]] := by
  have hread : Json.read "[\"leaf\", \"a\"]" = .ok (.array [.string "leaf", .string "a"]) := rfl
  have hnesting : (Value.array [.string "leaf", .string "a"]).nesting + 3 ≤ 127 := by decide
  obtain ⟨halone, -, h⟩ := parse_alone_iff_parse_below ⟨"a"⟩ hread hnesting
  have hleaf : parse ⟨"a"⟩ (alone "[\"leaf\", \"a\"]") = .ok [.leaf "a" none] :=
    (parse_single_iff halone).mpr (.leafArray .leaf .absent)
  exact ⟨hread, hnesting, hleaf, ((h _).mp hleaf).1⟩

/-- A kind that is given by its number means a leaf below a group and nothing at the top. So the
place of a node matters to what is accepted. -/
theorem placement_matters :
    ¬ ∀ (text : String) (v : Value), Json.read text = .ok v → v.nesting + 3 ≤ 127 →
      ∀ n, parse ⟨"doc.json"⟩ (alone text) = .ok [n] ↔
        parse ⟨"doc.json"⟩ (alone (groupText text)) = .ok [.group "g" none [n]] := by
  intro h
  have hread : Json.read "\x7b\"kind\":0,\"name\":\"a\"\x7d" =
      .ok (.object [("kind", .number (.natural 0)), ("name", .string "a")]) := rfl
  have hgroup := Document.read_groupText hread (by decide)
  have hbelow := Document.read_alone hgroup (by decide)
  have haccepted : parse ⟨"doc.json"⟩
      (alone (groupText "\x7b\"kind\":0,\"name\":\"a\"\x7d")) =
        .ok [.group "g" none [.leaf "a" none]] := (parse_single_iff hbelow).mpr
    (Document.denotes_groupValue_iff.mpr (.leafObject ⟨⟨_, rfl, .leafNumber rfl⟩, rfl, .absent⟩))
  have halone := (h _ _ hread (by decide) _).mpr haccepted
  rw [parse_single_iff (Document.read_alone hread (by decide))] at halone
  cases halone with
  | leafObject head =>
    obtain ⟨v, hv, hkind⟩ := head.kind
    cases hv
    cases hkind with
    | leafNumber hnumbered => cases hnumbered

end Outline.Source
