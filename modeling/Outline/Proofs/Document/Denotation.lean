import Outline.Document.Shape
import Outline.Proofs.Json.Value
import Mathlib.Data.List.Forall2

/-!
# The values that stand for nodes

`Denotes numbered v n` says in one rule for each way of writing that the JSON value `v` stands for
the node `n`, without an order in which the parts are looked at. Members of an object are told by
their names alone: `valuesOf` lists the values given for a part, and a rule says how many of them
there may be and what they are. Members that no rule mentions do not matter.

`nodeOf_eq_ok_iff` says that these rules are the ones by which nodes are made. A node is made from
an object in two passes, one for the kind and one for the other parts, each of which takes a member
at a time and remembers what it met. `Gathers` is what such a pass adds up to for one part
(`kindOfMembers_eq_ok_iff`, `partsOf_eq_ok_iff`); the values below a node come in by induction.
-/

namespace Outline.Document

open Outline.Json (Value)

/-! ### The rules -/

/-- The values given for a part among the members of an object. -/
def valuesOf (f : Field) (ms : List (String × Value)) : List Value :=
  ms.filterMap fun m => if m.1 = f.key then some m.2 else none

/-- The value names the kind: by its name, or where this is allowed by its number. -/
inductive NamesKind (numbered : Bool) : Value → Kind → Prop
  | leaf : NamesKind numbered (.string "leaf") .leaf
  | group : NamesKind numbered (.string "group") .group
  | leafNumber (h : numbered = true) : NamesKind numbered (.number (.natural 0)) .leaf
  | groupNumber (h : numbered = true) : NamesKind numbered (.number (.natural 1)) .group

/-- What is given for the value of a node: nothing, `null`, or a text. -/
inductive GivesValue : List Value → Option String → Prop
  | absent : GivesValue [] none
  | null : GivesValue [.null] none
  | text (s : String) : GivesValue [.string s] (some s)

/-- What is given for the children of a group: nothing, or the list of them. -/
inductive GivesChildren (denotes : Value → Node → Prop) : List Value → List Node → Prop
  | absent : GivesChildren denotes [] []
  | list {vs : List Value} {cs : List Node} (h : List.Forall₂ denotes vs cs) :
      GivesChildren denotes [.array vs] cs

/-- The members that leaves and groups have in common: one for the kind, one for the name, and at
most one for the value. -/
structure Head (numbered : Bool) (ms : List (String × Value)) (k : Kind) (name : String)
    (value : Option String) : Prop where
  kind : ∃ v, valuesOf .kind ms = [v] ∧ NamesKind numbered v k
  name : valuesOf .name ms = [.string name]
  value : GivesValue (valuesOf .value ms) value

/-- **The value stands for the node.** The kind may be given by its number if the flag says so, and
in any case below another node. -/
inductive Denotes : Bool → Value → Node → Prop
  /-- An object with the members of a leaf. -/
  | leafObject {numbered : Bool} {ms : List (String × Value)} {name : String}
      {value : Option String} (head : Head numbered ms .leaf name value) :
      Denotes numbered (.object ms) (.leaf name value)
  /-- An object with the members of a group. -/
  | groupObject {numbered : Bool} {ms : List (String × Value)} {name : String}
      {value : Option String} {cs : List Node} (head : Head numbered ms .group name value)
      (children : GivesChildren (Denotes true) (valuesOf .children ms) cs) :
      Denotes numbered (.object ms) (.group name value cs)
  /-- The kind, the name and, as far as given, the value of a leaf. -/
  | leafArray {numbered : Bool} {v : Value} {ws : List Value} {name : String}
      {value : Option String} (kind : NamesKind numbered v .leaf) (given : GivesValue ws value) :
      Denotes numbered (.array (v :: .string name :: ws)) (.leaf name value)
  /-- The kind, the name and, as far as given, the value of a group. -/
  | groupArray {numbered : Bool} {v : Value} {ws : List Value} {name : String}
      {value : Option String} (kind : NamesKind numbered v .group) (given : GivesValue ws value) :
      Denotes numbered (.array (v :: .string name :: ws)) (.group name value [])
  /-- The kind, the name, the value and the children of a group. -/
  | fullGroupArray {numbered : Bool} {v w : Value} {vs : List Value} {name : String}
      {value : Option String} {cs : List Node} (kind : NamesKind numbered v .group)
      (given : GivesValue [w] value) (children : List.Forall₂ (Denotes true) vs cs) :
      Denotes numbered (.array [v, .string name, w, .array vs]) (.group name value cs)

/-! ### Single parts -/

theorem kindOf_eq_ok_iff {numbered : Bool} {v : Value} {k : Kind} :
    kindOf numbered v = .ok k ↔ NamesKind numbered v k := by
  constructor
  · intro h
    rw [kindOf.eq_def] at h
    repeat' split at h
    all_goals cases h
    · exact ‹_ = "leaf"› ▸ .leaf
    · exact ‹_ = "group"› ▸ .group
    · exact ‹_ = 0› ▸ .leafNumber (by simpa using ‹¬ (!numbered) = true›)
    · exact ‹_ = 1› ▸ .groupNumber (by simpa using ‹¬ (!numbered) = true›)
  · intro h
    cases h with
    | leaf => rfl
    | group => rfl
    | leafNumber h => subst h; rfl
    | groupNumber h => subst h; rfl

theorem textOf_eq_ok_iff {v : Value} {s : String} : textOf v = .ok s ↔ v = .string s := by
  cases v <;> simp [textOf]

theorem optionalTextOf_eq_ok_iff {v : Value} {s : Option String} :
    optionalTextOf v = .ok s ↔ GivesValue [v] s := by
  constructor
  · intro h
    cases v <;> cases h
    · exact .null
    · exact .text _
  · intro h
    cases h <;> rfl

/-! ### One pass over the members -/

/-- What a pass adds up to for one part. Of the values found for the part the reader takes one if
none was taken before, and no other. -/
def Gathers {α : Type} (reader : Value → Except ShapeError α) (found : List Value)
    (before after : Option α) : Prop :=
  found = [] ∧ after = before ∨
    before = none ∧ ∃ v a, found = [v] ∧ reader v = .ok a ∧ after = some a

section

variable {α : Type} {reader : Value → Except ShapeError α} {found : List Value} {v : Value}
  {before after : Option α}

theorem gathers_nil : Gathers reader [] before after ↔ after = before := by
  simp [Gathers]

/-- A value is taken if none was taken before, and none is taken after it. -/
theorem gathers_cons : Gathers reader (v :: found) before after ↔
    before = none ∧ ∃ a, reader v = .ok a ∧ Gathers reader found (some a) after := by
  constructor
  · rintro (⟨h, -⟩ | ⟨hb, w, a, hw, ha, rfl⟩)
    · cases h
    · obtain ⟨rfl, rfl⟩ := List.cons.inj hw
      exact ⟨hb, a, ha, .inl ⟨rfl, rfl⟩⟩
  · rintro ⟨hb, a, ha, ⟨rfl, rfl⟩ | ⟨h, -⟩⟩
    · exact .inr ⟨hb, v, a, rfl, ha, rfl⟩
    · cases h

end

theorem valuesOf_nil (f : Field) : valuesOf f [] = [] := rfl

theorem valuesOf_cons (f : Field) (key : String) (v : Value) (ms : List (String × Value)) :
    valuesOf f ((key, v) :: ms) = if key = f.key then v :: valuesOf f ms else valuesOf f ms := by
  by_cases hkey : key = f.key <;> simp [valuesOf, hkey]

/-- The pass for the kind. -/
theorem kindOfMembers_eq_ok_iff {numbered : Bool} {known : Option Kind}
    {ms : List (String × Value)} {k : Kind} :
    kindOfMembers numbered known ms = .ok k ↔
      Gathers (kindOf numbered) (valuesOf .kind ms) known (some k) := by
  induction ms generalizing known with
  | nil =>
    rw [valuesOf_nil, gathers_nil]
    cases known <;> simp [kindOfMembers, eq_comm]
  | cons m ms ih =>
    obtain ⟨key, v⟩ := m
    rw [valuesOf_cons]
    by_cases hkey : key = Field.kind.key
    · rw [if_pos hkey, gathers_cons]
      cases known with
      | some k' => simp [kindOfMembers, hkey]
      | none => cases hk : kindOf numbered v <;> simp [kindOfMembers, hkey, hk, ih]
    · rw [if_neg hkey, ← ih]
      cases known <;> simp [kindOfMembers, hkey]

/-- The pass for the other parts. The children are looked for in a group only. -/
theorem partsOf_eq_ok_iff {k : Kind} {p q : Parts} {ms : List (String × Value)} :
    partsOf k p ms = .ok q ↔
      Gathers textOf (valuesOf .name ms) p.name q.name ∧
      Gathers optionalTextOf (valuesOf .value ms) p.value q.value ∧
      Gathers childrenOf (if k = .group then valuesOf .children ms else []) p.children
        q.children := by
  induction ms generalizing p with
  | nil =>
    simp only [partsOf, valuesOf_nil, ite_self, gathers_nil, Except.ok.injEq]
    constructor
    · rintro rfl
      exact ⟨rfl, rfl, rfl⟩
    · obtain ⟨name, value, children⟩ := p
      rintro ⟨rfl, rfl, rfl⟩
      rfl
  | cons m ms ih =>
    obtain ⟨key, v⟩ := m
    simp only [valuesOf_cons]
    by_cases hname : key = Field.name.key
    · have hvalue : key ≠ Field.value.key := by rw [hname]; decide
      have hchildren : key ≠ Field.children.key := by rw [hname]; decide
      rw [partsOf, if_pos hname, if_pos hname, if_neg hvalue, if_neg hchildren, gathers_cons]
      cases p.name with
      | some s => simp
      | none => cases textOf v <;> simp [ih]
    by_cases hvalue : key = Field.value.key
    · have hchildren : key ≠ Field.children.key := by rw [hvalue]; decide
      rw [partsOf, if_neg hname, if_neg hname, if_pos hvalue, if_pos hvalue, if_neg hchildren,
        gathers_cons]
      cases p.value with
      | some s => simp
      | none => cases optionalTextOf v <;> simp [ih]
    rw [partsOf, if_neg hname, if_neg hname, if_neg hvalue, if_neg hvalue]
    by_cases hchildren : key = Field.children.key ∧ k = .group
    · obtain ⟨hkey, rfl⟩ := hchildren
      simp only [hkey, decide_true, Bool.and_self, if_true, gathers_cons]
      cases p.children with
      | some cs => simp
      | none => cases childrenOf v <;> simp [ih]
    · -- in a leaf a member of this name is passed over like any other
      rw [if_neg (by simpa using hchildren), ih]
      by_cases hk : k = .group
      · rw [if_pos hk, if_pos hk, if_neg fun hkey => hchildren ⟨hkey, hk⟩]
      · rw [if_neg hk, if_neg hk]

/-! ### All parts of a node -/

theorem gathers_textOf_iff {ws : List Value} {s : String} :
    Gathers textOf ws none (some s) ↔ ws = [.string s] := by
  simp [Gathers, textOf_eq_ok_iff]

theorem exists_gathers_optionalTextOf_iff {ws : List Value} {s : Option String} :
    (∃ after, Gathers optionalTextOf ws none after ∧ after.getD none = s) ↔ GivesValue ws s := by
  constructor
  · rintro ⟨after, ⟨rfl, rfl⟩ | ⟨-, v, a, rfl, ha, rfl⟩, rfl⟩
    · exact .absent
    · exact optionalTextOf_eq_ok_iff.mp ha
  · intro h
    cases h with
    | absent => exact ⟨none, .inl ⟨rfl, rfl⟩, rfl⟩
    | null => exact ⟨some none, .inr ⟨rfl, .null, none, rfl, rfl, rfl⟩, rfl⟩
    | text s => exact ⟨some (some s), .inr ⟨rfl, .string s, some s, rfl, rfl, rfl⟩, rfl⟩

/-- The values stand below another node for the nodes of a list, where they are one. -/
def ChildrenDenoted (v : Value) : Prop :=
  ∀ cs, childrenOf v = .ok cs ↔ ∃ vs, v = .array vs ∧ List.Forall₂ (Denotes true) vs cs

theorem exists_gathers_childrenOf_iff {ws : List Value} (hws : ∀ w ∈ ws, ChildrenDenoted w)
    {cs : List Node} :
    (∃ after, Gathers childrenOf ws none after ∧ after.getD [] = cs) ↔
      GivesChildren (Denotes true) ws cs := by
  constructor
  · rintro ⟨after, ⟨rfl, rfl⟩ | ⟨-, v, a, rfl, ha, rfl⟩, rfl⟩
    · exact .absent
    · obtain ⟨vs, rfl, hvs⟩ := (hws v List.mem_cons_self a).mp ha
      exact .list hvs
  · intro h
    cases h with
    | absent => exact ⟨none, .inl ⟨rfl, rfl⟩, rfl⟩
    | @list vs cs h =>
      have hread := (hws (.array vs) List.mem_cons_self cs).mpr ⟨vs, rfl, h⟩
      exact ⟨some cs, .inr ⟨rfl, .array vs, cs, rfl, hread, rfl⟩, rfl⟩

/-- The node of a kind with these parts; a leaf goes without the children. -/
def Kind.node : Kind → String → Option String → List Node → Node
  | leaf, name, value, _ => .leaf name value
  | group, name, value, cs => .group name value cs

theorem toNode_eq_ok_iff {k : Kind} {p : Parts} {n : Node} :
    p.toNode k = .ok n ↔
      ∃ name, p.name = some name ∧ n = k.node name (p.value.getD none) (p.children.getD []) := by
  rw [Parts.toNode]
  cases p.name <;> cases k <;> simp [Kind.node, eq_comm]

theorem nodeOf_object_eq_ok_iff {numbered : Bool} {ms : List (String × Value)} {n : Node} :
    nodeOf numbered (.object ms) = .ok n ↔ ∃ k p,
      kindOfMembers numbered none ms = .ok k ∧ partsOf k {} ms = .ok p ∧ p.toNode k = .ok n := by
  rw [nodeOf]
  cases kindOfMembers numbered none ms with
  | error e => simp
  | ok k =>
    simp only [Except.ok.injEq, exists_eq_left', exists_and_left]
    cases partsOf k {} ms <;> simp

theorem head_iff {numbered : Bool} {ms : List (String × Value)} {k : Kind} {name : String}
    {value : Option String} : Head numbered ms k name value ↔
      kindOfMembers numbered none ms = .ok k ∧
        Gathers textOf (valuesOf .name ms) none (some name) ∧
        ∃ after, Gathers optionalTextOf (valuesOf .value ms) none after ∧
          after.getD none = value := by
  rw [kindOfMembers_eq_ok_iff, gathers_textOf_iff, exists_gathers_optionalTextOf_iff]
  constructor
  · rintro ⟨⟨v, hv, hk⟩, hname, hvalue⟩
    exact ⟨.inr ⟨rfl, v, k, hv, kindOf_eq_ok_iff.mpr hk, rfl⟩, hname, hvalue⟩
  · rintro ⟨⟨-, h⟩ | ⟨-, v, a, hv, hk, h⟩, hname, hvalue⟩
    · cases h
    · cases h
      exact ⟨⟨v, hv, kindOf_eq_ok_iff.mp hk⟩, hname, hvalue⟩

theorem exists_mem_of_mem_valuesOf {f : Field} {ms : List (String × Value)} {v : Value}
    (h : v ∈ valuesOf f ms) : ∃ m ∈ ms, m.2 = v := by
  obtain ⟨m, hm, hv⟩ := List.mem_filterMap.mp h
  split at hv
  · exact ⟨m, hm, Option.some.inj hv⟩
  · cases hv

/-- The node made from an object is the one that it denotes, if this is so below it. -/
theorem nodeOf_object_iff_denotes {numbered : Bool} {ms : List (String × Value)}
    (hms : ∀ m ∈ ms, ChildrenDenoted m.2) {n : Node} :
    nodeOf numbered (.object ms) = .ok n ↔ Denotes numbered (.object ms) n := by
  have hws : ∀ w ∈ valuesOf .children ms, ChildrenDenoted w := by
    intro w hw
    obtain ⟨m, hm, rfl⟩ := exists_mem_of_mem_valuesOf hw
    exact hms m hm
  rw [nodeOf_object_eq_ok_iff]
  constructor
  · rintro ⟨k, p, hk, hp, hn⟩
    obtain ⟨hname, hvalue, hchildren⟩ := partsOf_eq_ok_iff.mp hp
    obtain ⟨name, hsome, rfl⟩ := toNode_eq_ok_iff.mp hn
    have hhead : Head numbered ms k name (p.value.getD none) :=
      head_iff.mpr ⟨hk, hsome ▸ hname, p.value, hvalue, rfl⟩
    cases k with
    | leaf => exact .leafObject hhead
    | group =>
      exact .groupObject hhead
        ((exists_gathers_childrenOf_iff hws).mp ⟨p.children, hchildren, rfl⟩)
  · intro h
    cases h with
    | @leafObject _ _ name _ head =>
      obtain ⟨hk, hname, after, hvalue, rfl⟩ := head_iff.mp head
      have hp : partsOf .leaf {} ms = .ok ⟨some name, after, none⟩ :=
        partsOf_eq_ok_iff.mpr ⟨hname, hvalue, .inl ⟨rfl, rfl⟩⟩
      exact ⟨.leaf, _, hk, hp, rfl⟩
    | @groupObject _ _ name _ _ head children =>
      obtain ⟨hk, hname, after, hvalue, rfl⟩ := head_iff.mp head
      obtain ⟨listed, hchildren, rfl⟩ := (exists_gathers_childrenOf_iff hws).mpr children
      have hp : partsOf .group {} ms = .ok ⟨some name, after, listed⟩ :=
        partsOf_eq_ok_iff.mpr ⟨hname, hvalue, hchildren⟩
      exact ⟨.group, _, hk, hp, rfl⟩

/-! ### The items of a node -/

/-- From a name and what is given for the value a node without children is made. -/
theorem nodeOfItems_of_givesValue {ws : List Value} {value : Option String}
    (h : GivesValue ws value) (k : Kind) (name : String) :
    nodeOfItems k (.string name :: ws) = .ok (k.node name value []) := by
  cases h <;> cases k <;> rfl

/-- A node is made from items of one of two shapes: a name and what is given for the value, or, for
a group, all three parts. -/
theorem nodeOfItems_cases {k : Kind} {vs : List Value} {n : Node} (h : nodeOfItems k vs = .ok n) :
    ∃ name value,
      (∃ ws, vs = .string name :: ws ∧ GivesValue ws value ∧ n = k.node name value []) ∨
      k = .group ∧ ∃ w u cs, vs = [.string name, w, u] ∧ GivesValue [w] value ∧
        childrenOf u = .ok cs ∧ n = .group name value cs := by
  rcases vs with _ | ⟨name, vs⟩
  · cases h
  cases hname : textOf name with
  | error e => rcases vs with _ | ⟨value, _ | ⟨third, more⟩⟩ <;> simp [nodeOfItems, hname] at h
  | ok s =>
    obtain rfl := textOf_eq_ok_iff.mp hname
    rcases vs with _ | ⟨value, vs⟩
    · rw [nodeOfItems_of_givesValue .absent] at h
      cases h
      exact ⟨s, none, .inl ⟨[], rfl, .absent, rfl⟩⟩
    cases hvalue : optionalTextOf value with
    | error e => rcases vs with _ | ⟨third, more⟩ <;> simp [nodeOfItems, hname, hvalue] at h
    | ok o =>
      have hgiven := optionalTextOf_eq_ok_iff.mp hvalue
      rcases vs with _ | ⟨third, more⟩
      · rw [nodeOfItems_of_givesValue hgiven] at h
        cases h
        exact ⟨s, o, .inl ⟨[value], rfl, hgiven, rfl⟩⟩
      -- a third item is for a group only, and nothing follows it
      simp only [nodeOfItems, hname, hvalue] at h
      cases k with
      | leaf => cases h
      | group =>
        cases hcs : childrenOf third with
        | error e => simp [hcs] at h
        | ok cs =>
          cases more with
          | cons w more => simp [hcs] at h
          | nil =>
            obtain rfl : Node.group s o cs = n := by simpa [hcs] using h
            exact ⟨s, o, .inr ⟨rfl, value, third, cs, rfl, hgiven, hcs, rfl⟩⟩

/-- The node made from a kind and the items that follow it is one that the array denotes. -/
theorem denotes_of_nodeOfItems {numbered : Bool} {v : Value} {k : Kind}
    (hk : NamesKind numbered v k) {vs : List Value} (hvs : ∀ w ∈ vs, ChildrenDenoted w) {n : Node}
    (h : nodeOfItems k vs = .ok n) : Denotes numbered (.array (v :: vs)) n := by
  obtain ⟨name, value, ⟨ws, rfl, hgiven, rfl⟩ | ⟨rfl, w, u, cs, rfl, hgiven, hcs, rfl⟩⟩ :=
    nodeOfItems_cases h
  · cases k with
    | leaf => exact .leafArray hk hgiven
    | group => exact .groupArray hk hgiven
  · obtain ⟨us, rfl, hus⟩ := (hvs u (by simp) cs).mp hcs
    exact .fullGroupArray hk hgiven hus

/-- The node made from an array is the one that it denotes, if this is so below it. -/
theorem nodeOf_array_iff_denotes {numbered : Bool} {vs : List Value}
    (hvs : ∀ v ∈ vs, ChildrenDenoted v) {n : Node} :
    nodeOf numbered (.array vs) = .ok n ↔ Denotes numbered (.array vs) n := by
  constructor
  · intro h
    cases vs with
    | nil => cases h
    | cons v vs =>
      rw [nodeOf] at h
      cases hk : kindOf numbered v with
      | error e => simp [hk] at h
      | ok k =>
        rw [List.forall_mem_cons] at hvs
        simp only [hk] at h
        exact denotes_of_nodeOfItems (kindOf_eq_ok_iff.mp hk) hvs.2 h
  · intro h
    cases h with
    | leafArray kind given =>
      rw [nodeOf]
      simp only [kindOf_eq_ok_iff.mpr kind]
      exact nodeOfItems_of_givesValue given .leaf _
    | groupArray kind given =>
      rw [nodeOf]
      simp only [kindOf_eq_ok_iff.mpr kind]
      exact nodeOfItems_of_givesValue given .group _
    | @fullGroupArray _ v w us name value cs kind given children =>
      have hk := kindOf_eq_ok_iff.mpr kind
      have hvalue := optionalTextOf_eq_ok_iff.mpr given
      have hcs : childrenOf (.array us) = .ok cs :=
        (hvs (.array us) (by simp) cs).mpr ⟨us, rfl, children⟩
      simp [nodeOf, hk, nodeOfItems, textOf, hvalue, hcs]

/-! ### All values -/

/-- The nodes made from a list of values are those that they denote, one by one. -/
theorem nodesOf_eq_ok_iff {vs : List Value}
    (hvs : ∀ v ∈ vs, ∀ n, nodeOf true v = .ok n ↔ Denotes true v n) {ns : List Node} :
    nodesOf vs = .ok ns ↔ List.Forall₂ (Denotes true) vs ns := by
  induction vs generalizing ns with
  | nil => simp [nodesOf, eq_comm]
  | cons v vs ih =>
    rw [List.forall_mem_cons] at hvs
    rw [nodesOf, List.forall₂_cons_left_iff]
    simp only [← hvs.1, ← ih hvs.2]
    cases nodeOf true v with
    | error e => simp
    | ok n => cases nodesOf vs <;> simp [eq_comm]

theorem nodeOf_eq_ok_iff_and_childrenDenoted (v : Value) :
    (∀ numbered n, nodeOf numbered v = .ok n ↔ Denotes numbered v n) ∧ ChildrenDenoted v := by
  induction v using Value.contents_induction with
  | scalar v hv =>
    cases v with
    | array vs => exact absurd hv (Nat.succ_ne_zero _)
    | object ms => exact absurd hv (Nat.succ_ne_zero _)
    | _ =>
      refine ⟨fun numbered n => ⟨fun h => (by cases h), fun h => (by cases h)⟩, fun cs => ?_⟩
      simp [childrenOf]
  | array vs ih =>
    refine ⟨fun numbered n => nodeOf_array_iff_denotes fun v hv => (ih v hv).2, fun cs => ?_⟩
    rw [childrenOf, nodesOf_eq_ok_iff fun v hv => (ih v hv).1 true]
    simp
  | object ms ih =>
    refine ⟨fun numbered n => nodeOf_object_iff_denotes fun m hm => (ih m hm).2, fun cs => ?_⟩
    simp [childrenOf]

/-- **The node made from a value is the one that the value denotes**, and where it denotes none,
none is made. -/
theorem nodeOf_eq_ok_iff {numbered : Bool} {v : Value} {n : Node} :
    nodeOf numbered v = .ok n ↔ Denotes numbered v n :=
  (nodeOf_eq_ok_iff_and_childrenDenoted v).1 numbered n

/-- A value denotes one node at most. -/
theorem Denotes.unique {numbered : Bool} {v : Value} {m n : Node} (hm : Denotes numbered v m)
    (hn : Denotes numbered v n) : m = n :=
  Except.ok.inj ((nodeOf_eq_ok_iff.mpr hm).symm.trans (nodeOf_eq_ok_iff.mpr hn))

end Outline.Document
