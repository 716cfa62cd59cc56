import Outline.Node.Memory
import Outline.Proofs.Node

/-!
# Nodes in memory show what they are made of

Equality of nodes takes a shortcut over the digests. It can say no too early where a digest is not
the one of the parts, and nothing can be said about it at all where a digest depends on more than
the parts. Neither happens, however digests are taken (`Memory.equality_is_structural`): in a memory
that the program can have, the digest of a node at any depth is taken from its parts, two references
show equal nodes exactly when the nodes are equal as values, and a value that is put in makes the
node that one would make with that value from nothing, while whatever was there before stays. Every
other way of making nodes answers with references that show the nodes asked for (`Memory.Held`).

All of it rests on one fact about a slot (`Memory.Made.exists_make`): it was put on top of a memory
in which the children were there already, and nothing below it has changed since. From this a digest
depends on the node alone (`Memory.Made.digest_eq_digest_node`), so equal nodes never fail the test
of the digests, and where digests agree by chance the parts decide.
-/

namespace Outline

/-! ### Parts -/

namespace Payload

variable {α β γ : Type}

theorem map_congr {f g : α → β} {p : Payload α} (h : ∀ c ∈ p.children, f c = g c) :
    p.map f = p.map g := by
  cases p with
  | leaf n v => rfl
  | group n v cs => exact congrArg (group n v) (List.map_congr_left h)

theorem map_map (g : β → γ) (f : α → β) (p : Payload α) : (p.map f).map g = p.map (g ∘ f) := by
  cases p with
  | leaf n v => rfl
  | group n v cs => exact congrArg (group n v) List.map_map

@[simp] theorem children_withValue (v : String) (p : Payload α) :
    (p.withValue v).children = p.children := by
  cases p <;> rfl

theorem toNode_map_withValue (f : α → Node) (v : String) (p : Payload α) :
    ((p.withValue v).map f).toNode = (p.map f).toNode.withValue v := by
  cases p <;> rfl

theorem toNode_injective {p q : Payload Node} (h : p.toNode = q.toNode) : p = q := by
  cases p <;> cases q <;> simp_all [toNode]

theorem mem_of_mem_children_ofNode {n : Node} {cs : List α} {c : α}
    (h : c ∈ (ofNode n cs).children) : c ∈ cs := by
  cases n with
  | leaf _ _ => exact absurd h List.not_mem_nil
  | group _ _ _ => exact h

/-- The parts of a node with references to its children make the node. -/
theorem toNode_map_ofNode {f : α → Node} {n : Node} {cs : List α} (h : cs.map f = n.children) :
    ((ofNode n cs).map f).toNode = n := by
  cases n with
  | leaf n v => rfl
  | group n v ds => exact congrArg (Node.group n v) h

/-- Two lists agree item by item when their images are equal and the test tells equality of
images. -/
theorem isEqv_iff_map_eq {test : α → α → Bool} {f : α → β} {cs ds : List α}
    (h : ∀ c ∈ cs, ∀ d ∈ ds, test c d = true ↔ f c = f d) :
    cs.isEqv ds test = true ↔ cs.map f = ds.map f := by
  induction cs generalizing ds with
  | nil => cases ds <;> simp [List.isEqv]
  | cons c cs ih =>
    cases ds with
    | nil => simp [List.isEqv]
    | cons d ds =>
      have htail := ih fun c' hc' d' hd' =>
        h c' (List.mem_cons_of_mem _ hc') d' (List.mem_cons_of_mem _ hd')
      simp only [List.isEqv, Bool.and_eq_true, List.map_cons, List.cons.injEq, htail,
        h c List.mem_cons_self d List.mem_cons_self]

/-- **Parts agree exactly when they are equal once each child is replaced by what it shows.** -/
theorem agrees_iff_map_eq {test : α → α → Bool} {f : α → β} {p q : Payload α}
    (h : ∀ c ∈ p.children, ∀ d ∈ q.children, test c d = true ↔ f c = f d) :
    p.agrees test q = true ↔ p.map f = q.map f := by
  cases p with
  | leaf n v => cases q <;> simp [agrees, map]
  | group n v cs =>
    cases q with
    | leaf m w => simp [agrees, map]
    | group m w ds =>
      have hchildren : cs.isEqv ds test = true ↔ cs.map f = ds.map f := isEqv_iff_map_eq h
      simp [agrees, map, hchildren, and_assoc]

end Payload

/-! ### The digest of a node as a value -/

namespace Node

variable (H : Payload UInt64 → UInt64)

mutual

/-- The digest of a node, taken from the digests of its children. -/
def digest : Node → UInt64
  | leaf n v => H (.leaf n v)
  | group n v cs => H (.group n v (digestAll cs))

/-- The digests of the nodes of a forest. -/
def digestAll : List Node → List UInt64
  | [] => []
  | n :: ns => digest n :: digestAll ns

end

theorem digestAll_eq_map (ns : List Node) : digestAll H ns = ns.map (digest H) := by
  induction ns with
  | nil => rfl
  | cons n ns ih => rw [digestAll, List.map_cons, ih]

theorem digest_toNode (p : Payload Node) : p.toNode.digest H = H (p.map (digest H)) := by
  cases p with
  | leaf n v => rfl
  | group n v cs => exact congrArg (fun ds => H (.group n v ds)) (digestAll_eq_map H cs)

end Node

namespace Memory

variable {H : Payload UInt64 → UInt64} {m m' : Memory} {a b : Nat}

/-! ### What more slots leave as it is -/

theorem slot_cons_of_lt (s : Slot) (ha : a < m.length) : slot (s :: m) a = slot m a :=
  if_neg (Nat.ne_of_lt ha)

theorem node_cons_of_lt (s : Slot) (ha : a < m.length) : node (s :: m) a = node m a :=
  if_neg (Nat.ne_of_lt ha)

/-- What one more slot leaves as it is at a reference, any number of slots does. -/
theorem eq_of_suffix {α : Type} {read : Memory → Nat → α}
    (hcons : ∀ {m : Memory} (s : Slot), a < m.length → read (s :: m) a = read m a)
    (h : m <:+ m') (ha : a < m.length) : read m' a = read m a := by
  obtain ⟨newer, rfl⟩ := h
  induction newer with
  | nil => rfl
  | cons s newer ih =>
    have hlt : a < (newer ++ m).length := by rw [List.length_append]; omega
    rw [List.cons_append, hcons s hlt, ih]

/-- A slot holds what it held when fewer were filled. -/
theorem slot_of_suffix (h : m <:+ m') (ha : a < m.length) : m'.slot a = m.slot a :=
  eq_of_suffix slot_cons_of_lt h ha

/-- A reference shows the node that it showed when fewer slots were filled. -/
theorem node_of_suffix (h : m <:+ m') (ha : a < m.length) : m'.node a = m.node a :=
  eq_of_suffix node_cons_of_lt h ha

theorem digest_of_suffix (h : m <:+ m') (ha : a < m.length) : m'.digest a = m.digest a :=
  congrArg Slot.digest (slot_of_suffix h ha)

theorem suffix_make (m : Memory) (p : Payload Nat) : m <:+ (m.make H p).2 :=
  List.suffix_cons _ m

theorem slot_make (m : Memory) (p : Payload Nat) :
    (m.make H p).2.slot m.length = ⟨H (p.map m.digest), p⟩ := if_pos rfl

theorem node_make (m : Memory) (p : Payload Nat) :
    (m.make H p).2.node m.length = (p.map m.node).toNode := if_pos rfl

/-! ### Memories made slot by slot -/

/-- A memory that was filled by making one node after the other, each from children that were
there. -/
inductive Made (H : Payload UInt64 → UInt64) : Memory → Prop
  /-- Nothing has been made. -/
  | empty : Made H []
  /-- One more node has been made. -/
  | make {m : Memory} {p : Payload Nat} (hm : Made H m) (hp : ∀ c ∈ p.children, c < m.length) :
    Made H (m.make H p).2

namespace Made

/-- **Where a slot comes from**: it was put on top of a memory that had the children. -/
theorem exists_make (hm : Made H m) (ha : a < m.length) :
    ∃ (older : Memory) (p : Payload Nat), older.length = a ∧ (∀ c ∈ p.children, c < a) ∧
      (older.make H p).2 <:+ m := by
  induction hm with
  | empty => exact absurd ha (Nat.not_lt_zero a)
  | @make m p _ hp ih =>
    rcases Nat.lt_succ_iff_lt_or_eq.mp ha with ha | rfl
    · obtain ⟨older, q, hlen, hq, hsuffix⟩ := ih ha
      exact ⟨older, q, hlen, hq, hsuffix.trans (suffix_make m p)⟩
    · exact ⟨m, p, rfl, hp, List.suffix_rfl⟩

/-- The parts, the digest and the node at a reference, from what was there when it was made. -/
theorem exists_older (hm : Made H m) (ha : a < m.length) :
    ∃ older : Memory, older <:+ m ∧ older.length = a ∧ (∀ c ∈ (m.payload a).children, c < a) ∧
      m.digest a = H ((m.payload a).map older.digest) ∧
      m.node a = ((m.payload a).map older.node).toNode := by
  obtain ⟨older, p, rfl, hp, hsuffix⟩ := hm.exists_make ha
  have hlt : older.length < (older.make H p).2.length := Nat.lt_succ_self _
  have hslot : m.slot older.length = ⟨H (p.map older.digest), p⟩ :=
    (slot_of_suffix hsuffix hlt).trans (slot_make older p)
  have hpayload : m.payload older.length = p := congrArg Slot.payload hslot
  refine ⟨older, (suffix_make older p).trans hsuffix, rfl, ?_, ?_, ?_⟩
  · rwa [hpayload]
  · rw [hpayload]
    exact congrArg Slot.digest hslot
  · rw [hpayload]
    exact (node_of_suffix hsuffix hlt).trans (node_make older p)

/-- Children are older than the node. -/
theorem children_lt (hm : Made H m) (ha : a < m.length) : ∀ c ∈ (m.payload a).children, c < a := by
  obtain ⟨_, _, _, hlt, _, _⟩ := hm.exists_older ha
  exact hlt

/-- **Every digest is the one of the parts**, with the digests that the children have. -/
theorem digest_eq (hm : Made H m) (ha : a < m.length) :
    m.digest a = H ((m.payload a).map m.digest) := by
  obtain ⟨older, hsuffix, rfl, hlt, hdigest, _⟩ := hm.exists_older ha
  have hmap : (m.payload older.length).map m.digest = (m.payload older.length).map older.digest :=
    Payload.map_congr fun c hc => digest_of_suffix hsuffix (hlt c hc)
  rw [hdigest, hmap]

/-- Every reference shows the node with the parts in its slot. -/
theorem node_eq (hm : Made H m) (ha : a < m.length) :
    m.node a = ((m.payload a).map m.node).toNode := by
  obtain ⟨older, hsuffix, rfl, hlt, _, hnode⟩ := hm.exists_older ha
  have hmap : (m.payload older.length).map m.node = (m.payload older.length).map older.node :=
    Payload.map_congr fun c hc => node_of_suffix hsuffix (hlt c hc)
  rw [hnode, hmap]

/-- **A digest depends on the node alone.** -/
theorem digest_eq_digest_node (hm : Made H m) (ha : a < m.length) :
    m.digest a = (m.node a).digest H := by
  induction a using Nat.strongRecOn with
  | ind a ih =>
    have hmap : (m.payload a).map m.digest = (m.payload a).map (Node.digest H ∘ m.node) :=
      Payload.map_congr fun c hc =>
        have hca := hm.children_lt ha c hc
        ih c hca (Nat.lt_trans hca ha)
    calc m.digest a = H ((m.payload a).map m.digest) := hm.digest_eq ha
      _ = H (((m.payload a).map m.node).map (Node.digest H)) := by rw [hmap, Payload.map_map]
      _ = (m.node a).digest H := by rw [hm.node_eq ha, Node.digest_toNode]

theorem digest_congr (hm : Made H m) (ha : a < m.length) (hb : b < m.length)
    (h : m.node a = m.node b) : m.digest a = m.digest b := by
  rw [hm.digest_eq_digest_node ha, hm.digest_eq_digest_node hb, h]

/-! ### Equality -/

/-- The parts decide which node a reference shows, for any test that is right about the
children. -/
theorem agrees_iff (hm : Made H m) (ha : a < m.length) (hb : b < m.length) {test : Nat → Nat → Bool}
    (h : ∀ c ∈ (m.payload a).children, ∀ d ∈ (m.payload b).children,
      test c d = true ↔ m.node c = m.node d) :
    (m.payload a).agrees test (m.payload b) = true ↔ m.node a = m.node b := by
  rw [Payload.agrees_iff_map_eq h, hm.node_eq ha, hm.node_eq hb]
  exact ⟨congrArg Payload.toNode, Payload.toNode_injective⟩

/-- Neither shortcut changes the answer: the first only says yes to equal nodes, and the second only
says no to different ones. -/
theorem shortcut_iff (hm : Made H m) (ha : a < m.length) (hb : b < m.length)
    {test : Nat → Nat → Bool}
    (h : ∀ c ∈ (m.payload a).children, ∀ d ∈ (m.payload b).children,
      test c d = true ↔ m.node c = m.node d) :
    (a == b || (m.digest a == m.digest b && (m.payload a).agrees test (m.payload b))) = true ↔
      m.node a = m.node b := by
  rw [Bool.or_eq_true, Bool.and_eq_true, beq_iff_eq, beq_iff_eq, hm.agrees_iff ha hb h]
  constructor
  · rintro (rfl | ⟨-, hnode⟩)
    · rfl
    · exact hnode
  · exact fun hnode => .inr ⟨hm.digest_congr ha hb hnode, hnode⟩

/-- **Two references show equal nodes exactly when the nodes are equal as values.** -/
theorem same_iff (hm : Made H m) (ha : a < m.length) (hb : b < m.length) :
    m.same a b = true ↔ m.node a = m.node b := by
  induction hm generalizing a b with
  | empty => exact absurd ha (Nat.not_lt_zero a)
  | @make m p hm hp ih =>
    have hm' : Made H (m.make H p).2 := hm.make hp
    -- a child is older than the last slot, and there the test for the children is right
    have older {a c : Nat} (ha : a < (m.make H p).2.length)
        (hc : c ∈ ((m.make H p).2.payload a).children) : c < m.length :=
      Nat.lt_of_lt_of_le (hm'.children_lt ha c hc) (Nat.lt_succ_iff.mp ha)
    refine hm'.shortcut_iff ha hb fun c hc d hd => ?_
    rw [ih (older ha hc) (older hb hd), node_of_suffix (suffix_make m p) (older ha hc),
      node_of_suffix (suffix_make m p) (older hb hd)]

theorem same_iff_of_mem_children (hm : Made H m) (ha : a < m.length) (hb : b < m.length) :
    ∀ c ∈ (m.payload a).children, ∀ d ∈ (m.payload b).children,
      m.same c d = true ↔ m.node c = m.node d :=
  fun c hc d hd => hm.same_iff (Nat.lt_trans (hm.children_lt ha c hc) ha)
    (Nat.lt_trans (hm.children_lt hb d hd) hb)

end Made

/-! ### What is made -/

/-- What making nodes comes to: a memory with more slots, and in it a reference for each node that
shows it. -/
structure Held (H : Payload UInt64 → UInt64) (m : Memory) (ns : List Node)
    (r : List Nat × Memory) : Prop where
  /-- The memory is made slot by slot. -/
  made : Made H r.2
  /-- Everything there was is still there. -/
  suffix : m <:+ r.2
  /-- The references lead to slots. -/
  lt : ∀ a ∈ r.1, a < r.2.length
  /-- They show the nodes, in order. -/
  nodes : r.1.map r.2.node = ns

theorem Made.held_make (hm : Made H m) {p : Payload Nat} (hp : ∀ c ∈ p.children, c < m.length) :
    Held H m [(p.map m.node).toNode] ([(m.make H p).1], (m.make H p).2) where
  made := hm.make hp
  suffix := suffix_make m p
  lt a ha := by
    obtain rfl : a = m.length := List.mem_singleton.mp ha
    exact Nat.lt_succ_self _
  nodes := congrArg (fun n => [n]) (node_make m p)

theorem hold_eq (m : Memory) (n : Node) :
    m.hold H n = (m.holdAll H n.children).2.make H (.ofNode n (m.holdAll H n.children).1) := by
  cases n <;> rfl

theorem holdAll_cons (m : Memory) (n : Node) (ns : List Node) :
    m.holdAll H (n :: ns) =
      ((m.hold H n).1 :: ((m.hold H n).2.holdAll H ns).1, ((m.hold H n).2.holdAll H ns).2) := rfl

/-- A node is made from its children, once these have been made. -/
theorem Held.hold {n : Node} (h : Held H m n.children (m.holdAll H n.children)) :
    Made H (m.hold H n).2 ∧ m <:+ (m.hold H n).2 ∧ (m.hold H n).1 < (m.hold H n).2.length ∧
      (m.hold H n).2.node (m.hold H n).1 = n := by
  rw [hold_eq]
  refine ⟨h.made.make fun c hc => h.lt c (Payload.mem_of_mem_children_ofNode hc),
    h.suffix.trans (suffix_make _ _), Nat.lt_succ_self _, ?_⟩
  exact (node_make _ _).trans (Payload.toNode_map_ofNode h.nodes)

/-- **The nodes of a forest can be made afresh in every memory.** -/
theorem Made.holdAll (hm : Made H m) (ns : List Node) : Held H m ns (m.holdAll H ns) := by
  induction ns using Node.forest_induction generalizing m with
  | nil => exact ⟨hm, List.suffix_rfl, fun _ h => absurd h List.not_mem_nil, rfl⟩
  | cons n ns ihc ihs =>
    obtain ⟨hmade, hsuffix, hlt, hnode⟩ := (ihc hm).hold
    have hrest := ihs hmade
    rw [holdAll_cons]
    refine ⟨hrest.made, hsuffix.trans hrest.suffix, ?_, ?_⟩
    · rintro a (_ | ⟨_, ha⟩)
      · exact Nat.lt_of_lt_of_le hlt hrest.suffix.length_le
      · exact hrest.lt a ha
    · rw [List.map_cons, hrest.nodes, node_of_suffix hrest.suffix hlt, hnode]

/-- **Reading makes the nodes of the document.** -/
theorem Made.held_read (hm : Made H m) {text : String} {r : List Nat × Memory}
    (h : m.read H text = .ok r) : ∃ ns, Document.read text = .ok ns ∧ Held H m ns r := by
  rw [Memory.read] at h
  cases hread : Document.read text with
  | error e => simp [hread, Except.map] at h
  | ok ns =>
    rw [hread, Except.map, Except.ok.injEq] at h
    subst h
    exact ⟨ns, rfl, hm.holdAll ns⟩

theorem read_eq_error_iff {text : String} {e : Document.Refusal} :
    m.read H text = .error e ↔ Document.read text = .error e := by
  rw [Memory.read]
  cases Document.read text <;> simp [Except.map]

/-! ### Every memory of the program -/

/-- The memories that the program can have, by the ways in which it makes nodes. -/
inductive Reachable (H : Payload UInt64 → UInt64) : Memory → Prop
  /-- Nothing has been made. -/
  | empty : Reachable H []
  /-- A leaf without a value. -/
  | leaf {m : Memory} (hm : Reachable H m) (name : String) : Reachable H (m.leaf H name).2
  /-- A group of nodes that are there, without a value. -/
  | group {m : Memory} (hm : Reachable H m) (name : String) {children : List Nat}
    (hchildren : ∀ c ∈ children, c < m.length) : Reachable H (m.group H name children).2
  /-- A node that is there, with a value put in. -/
  | withValue {m : Memory} (hm : Reachable H m) {a : Nat} (ha : a < m.length) (v : String) :
    Reachable H (m.withValue H a v).2
  /-- Any parts, as long as the children are there. -/
  | make {m : Memory} (hm : Reachable H m) {p : Payload Nat}
    (hp : ∀ c ∈ p.children, c < m.length) : Reachable H (m.make H p).2
  /-- The nodes of a document. -/
  | read {m m' : Memory} (hm : Reachable H m) {text : String} {as : List Nat}
    (h : m.read H text = .ok (as, m')) : Reachable H m'

/-- All ways of making nodes come down to one. -/
theorem Reachable.made (hm : m.Reachable H) : Made H m := by
  induction hm with
  | empty => exact .empty
  | leaf _ name ih => exact ih.make fun _ h => absurd h List.not_mem_nil
  | group _ name hchildren ih => exact ih.make hchildren
  | @withValue m _ a ha v ih =>
    refine ih.make fun c hc => ?_
    rw [Payload.children_withValue] at hc
    exact Nat.lt_trans (ih.children_lt ha c hc) ha
  | make _ hp ih => exact ih.make hp
  | read _ h ih =>
    obtain ⟨ns, -, hheld⟩ := ih.held_read h
    exact hheld.made

/-! ### The laws -/

/-- With a value put in, a reference shows the node with that value. -/
theorem Made.node_withValue (hm : Made H m) (ha : a < m.length) (v : String) :
    (m.withValue H a v).2.node (m.withValue H a v).1 = (m.node a).withValue v :=
  calc (m.withValue H a v).2.node (m.withValue H a v).1
      = (((m.payload a).withValue v).map m.node).toNode := node_make m _
    _ = ((m.payload a).map m.node).toNode.withValue v := Payload.toNode_map_withValue _ v _
    _ = (m.node a).withValue v := by rw [hm.node_eq ha]

/-- **Equality and digests tell what nodes are, however digests are taken.** In every memory of the
program: the digest of a node at any depth is the one of its parts; two references show equal nodes
exactly when the nodes are the same as values, which is when the parts agree, and equal nodes have
equal digests; and a value that is put in makes a node that equals the one made afresh with that
value, has the kind, name and children of the node it was put into, and leaves everything that was
there as it was. Whatever else is made, as a leaf, as a group, from parts or by reading, the new
references show the nodes that were asked for, and everything that was there stays. -/
theorem equality_is_structural (H : Payload UInt64 → UInt64) {m : Memory} (hm : m.Reachable H) :
    (∀ a < m.length,
      (∀ c ∈ (m.payload a).children, c < a) ∧
      m.digest a = H ((m.payload a).map m.digest) ∧
      m.node a = ((m.payload a).map m.node).toNode) ∧
    (∀ a < m.length, ∀ b < m.length,
      (m.same a b = true ↔ m.node a = m.node b) ∧
      (m.same a b = true ↔ (m.payload a).agrees m.same (m.payload b) = true) ∧
      (m.same a b = true → m.digest a = m.digest b)) ∧
    (∀ a < m.length, ∀ v : String,
      let new := m.withValue H a v
      let afresh := new.2.hold H ((m.node a).withValue v)
      (afresh.2.same new.1 afresh.1 = true ∧ afresh.2.digest new.1 = afresh.2.digest afresh.1) ∧
      ((new.2.node new.1).value = some v ∧ (new.2.node new.1).name = (m.node a).name ∧
        (new.2.node new.1).isGroup = (m.node a).isGroup ∧
        (new.2.payload new.1).children = (m.payload a).children) ∧
      ∀ b < m.length, new.2.slot b = m.slot b ∧ new.2.node b = m.node b) ∧
    (∀ name : String,
      Held H m [.leaf name none] ([(m.leaf H name).1], (m.leaf H name).2)) ∧
    (∀ (name : String) (cs : List Nat), (∀ c ∈ cs, c < m.length) →
      Held H m [.group name none (cs.map m.node)]
        ([(m.group H name cs).1], (m.group H name cs).2)) ∧
    (∀ p : Payload Nat, (∀ c ∈ p.children, c < m.length) →
      Held H m [(p.map m.node).toNode] ([(m.make H p).1], (m.make H p).2)) ∧
    ∀ text : String,
      (∀ e, m.read H text = .error e ↔ Document.read text = .error e) ∧
      ∀ r, m.read H text = .ok r → ∃ ns, Document.read text = .ok ns ∧ Held H m ns r := by
  have hmade := hm.made
  refine ⟨fun a ha => ⟨hmade.children_lt ha, hmade.digest_eq ha, hmade.node_eq ha⟩,
    fun a ha b hb => ?_, fun a ha v => ?_,
    fun name => hmade.held_make (p := .leaf name none) fun _ h => absurd h List.not_mem_nil,
    fun name cs hcs => hmade.held_make (p := .group name none cs) hcs,
    fun p hp => hmade.held_make hp,
    fun text => ⟨fun e => read_eq_error_iff, fun r h => hmade.held_read h⟩⟩
  · have hsame := hmade.same_iff ha hb
    have hagrees := hmade.agrees_iff ha hb (hmade.same_iff_of_mem_children ha hb)
    exact ⟨hsame, hsame.trans hagrees.symm, fun h => hmade.digest_congr ha hb (hsame.mp h)⟩
  · have hnew : Made H (m.withValue H a v).2 := (hm.withValue ha v).made
    have hlt : (m.withValue H a v).1 < (m.withValue H a v).2.length := Nat.lt_succ_self _
    have hnode := hmade.node_withValue ha v
    obtain ⟨hafresh, hsuffix, hafreshLt, hafreshNode⟩ :=
      (hnew.holdAll ((m.node a).withValue v).children).hold
    have hboth := (node_of_suffix hsuffix hlt).trans (hnode.trans hafreshNode.symm)
    have hltAfresh := Nat.lt_of_lt_of_le hlt hsuffix.length_le
    refine ⟨⟨(hafresh.same_iff hltAfresh hafreshLt).mpr hboth,
      hafresh.digest_congr hltAfresh hafreshLt hboth⟩, ⟨?_, ?_, ?_, ?_⟩, ?_⟩
    · rw [hnode, Node.value_withValue]
    · rw [hnode, Node.name_withValue]
    · rw [hnode, Node.isGroup_withValue]
    · exact (congrArg (Payload.children ∘ Slot.payload) (slot_make m _)).trans
        (Payload.children_withValue v _)
    · exact fun b hb => ⟨slot_of_suffix (suffix_make m _) hb, node_of_suffix (suffix_make m _) hb⟩

/-- Two groups made apart from equal leaves and a third one with another leaf, where every digest is
the same. -/
def colliding : Memory :=
  let H := fun _ => 0
  let m := (leaf H [] "x").2
  let m := (group H m "g" [0]).2
  let m := (leaf H m "x").2
  let m := (group H m "g" [2]).2
  let m := (leaf H m "y").2
  (group H m "g" [4]).2

theorem equality_is_structural_colliding :
    colliding.Reachable (fun _ => 0) ∧
    (colliding.digest 1 = 0 ∧ colliding.digest 3 = 0 ∧ colliding.digest 5 = 0) ∧
    (colliding.same 1 3 = true ∧ ¬ colliding.same 1 5 = true) ∧
    let new := colliding.withValue (fun _ => 0) 1 "v"
    let afresh := new.2.hold (fun _ => 0) ((colliding.node 1).withValue "v")
    let both := colliding.group (fun _ => 0) "h" [1, 5]
    (afresh.2.same new.1 afresh.1 = true ∧ (new.2.node new.1).value = some "v" ∧
      new.2.node 1 = colliding.node 1) ∧
    [both.1].map both.2.node = [.group "h" none [colliding.node 1, colliding.node 5]] := by
  have hm : colliding.Reachable (fun _ => 0) :=
    .group (.leaf (.group (.leaf (.group (.leaf .empty "x") "g" (by decide)) "x") "g" (by decide))
      "y") "g" (by decide)
  obtain ⟨hdigest, hsame, hvalue, -, hgroup, -⟩ := equality_is_structural _ hm
  refine ⟨hm, ⟨(hdigest 1 (by decide)).2.1, (hdigest 3 (by decide)).2.1,
    (hdigest 5 (by decide)).2.1⟩, ⟨?_, ?_⟩, ?_, (hgroup "h" [1, 5] (by decide)).nodes⟩
  · exact (hsame 1 (by decide) 3 (by decide)).1.mpr (by decide)
  · exact fun h => absurd ((hsame 1 (by decide) 5 (by decide)).1.mp h) (by decide)
  · obtain ⟨⟨hafresh, -⟩, ⟨hput, -⟩, hkept⟩ := hvalue 1 (by decide) "v"
    exact ⟨hafresh, hput, (hkept 1 (by decide)).2⟩

end Memory

end Outline
