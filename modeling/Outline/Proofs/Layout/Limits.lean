import Outline.Layout.Words
import Outline.Proofs.Document.RoundTrip
import Outline.Proofs.ExpandAll
import Outline.Proofs.Layout.Alignment

/-!
# When printing stops

A machine that counts in words has several places at which it may stop while it prints a view: the
product of depth and indentation, the padding, the distance to the column of values and the sum that
follows. Only the first two ever stop it (`Layout.renderInWords_eq`). The distance is taken from the
maximum of what is taken off, and the sum is bounded by the bytes of the names, which memory bounds
(`Layout.leadWidth_add_lt`). So printing stops exactly at a row that is to be indented by more than
`maxIndent` blanks, counted in numbers of any size.

How deep a row can be depends on where the forest came from. In a document each level of depth takes
two brackets (`two_mul_depth_lt`), so the limit on open brackets is one on depth, and the largest
indentation that is safe for all documents comes out of the two limits (`printing_stops_iff`). That
it is the largest is shown by a leaf in as many groups as a document can hold (`Node.tower`).
-/

namespace Outline

open Text (width)
open Node (nestAll walkAll)

/-! ### Loops that may fail -/

section

variable {α β ε : Type} {f : α → Except ε β} {g : α → β} {xs : List α}

private theorem ok_bind (a : α) (f : α → Except ε β) : (Except.ok a >>= f) = f a := rfl

private theorem error_bind (e : ε) (f : α → Except ε β) : (Except.error e >>= f) = .error e := rfl

/-- A loop none of whose members fails. -/
theorem mapM_eq_ok (h : ∀ x ∈ xs, f x = .ok (g x)) : xs.mapM f = .ok (xs.map g) := by
  induction xs with
  | nil => rfl
  | cons x xs ih =>
    rw [List.forall_mem_cons] at h
    rw [List.mapM_cons, h.1, ih h.2]
    rfl

/-- The first member that fails decides. -/
theorem mapM_eq_of_find? {p : α → Bool} {e : α → ε}
    (h : ∀ x, f x = if p x then .error (e x) else .ok (g x)) :
    xs.mapM f = match xs.find? p with
      | some x => .error (e x)
      | none => .ok (xs.map g) := by
  induction xs with
  | nil => rfl
  | cons x xs ih =>
    rw [List.mapM_cons, h, ih, List.find?_cons]
    cases p x with
    | true => rfl
    | false => cases xs.find? p <;> rfl

end

/-- Each name that is shown is a text that a machine can hold, of less than 2⁶³ bytes. -/
def View.NamesFit (v : View) : Prop :=
  ∀ r ∈ v.rows, r.node.name.utf8ByteSize < Machine.wordCount / 2

namespace Layout

variable {l : Layout} {k : Expansion} {r : Row} {v : View} {out : String} {w : Nat}

/-! ### The fronts of rows -/

/-- Whether a row is to be indented too far. -/
def isTooDeep (l : Layout) (r : Row) : Bool := maxIndent < r.depth * l.indent

/-- Why a row that is to be indented too far stops a machine. -/
def trap (l : Layout) (r : Row) : Trap :=
  if r.depth * l.indent < Machine.wordCount then .padding else .product

theorem leadInWords_eq (l : Layout) (k : Expansion) (r : Row) :
    l.leadInWords k r = if l.isTooDeep r then .error (l.trap r) else .ok (l.lead k r) := by
  rw [leadInWords, Machine.mul, isTooDeep, trap]
  by_cases hword : r.depth * l.indent < Machine.wordCount
  · rw [if_pos hword, if_pos hword, ok_bind, pad]
    by_cases hfits : r.depth * l.indent ≤ maxIndent
    · rw [if_pos hfits, if_neg (by simpa using hfits)]
      rfl
    · rw [if_neg hfits, if_pos (by simpa using hfits), error_bind]
  · -- a product that is no word is beyond the limit as well
    have hdeep : maxIndent < r.depth * l.indent :=
      Nat.lt_of_lt_of_le (by decide) (Nat.not_lt.mp hword)
    rw [if_neg hword, if_neg hword, if_pos (by simpa using hdeep), error_bind]

theorem fits_eq (l : Layout) (rows : List Row) : l.fits rows = (rows.find? l.isTooDeep).isNone := by
  rw [fits, Bool.eq_iff_iff, List.all_eq_true, Option.isNone_iff_eq_none, List.find?_eq_none]
  refine forall₂_congr fun r _ => ?_
  rw [isTooDeep, indentOf, decide_eq_true_iff, decide_eq_true_iff, Nat.not_lt]

/-! ### Lines -/

/-- A line is put together if its name ends left of the column of values, and this is a word. -/
theorem lineInWords_eq (hle : width (l.lead k r) ≤ w) (hw : w + columnGap < Machine.wordCount) :
    l.lineInWords w (l.lead k r) r = .ok (l.line k w r) := by
  have hsub : Machine.sub w (width (l.lead k r)) = .ok (w - width (l.lead k r)) := if_pos hle
  have hadd : Machine.add (w - width (l.lead k r)) columnGap = .ok (l.padding k w r) :=
    if_pos (by omega)
  rw [lineInWords, line, tail]
  cases r.node.value with
  | none => simp [pure, Except.pure]
  | some s =>
    cases l.values with
    | false => simp [pure, Except.pure]
    | true =>
      simp only [Option.filter_some, if_true, hsub, ok_bind, hadd, pure, Except.pure,
        String.append_assoc]

/-- The column of values is a word if the names fit into memory. -/
theorem leadWidth_add_lt (hfits : l.fits v.rows = true) (hnames : v.NamesFit) :
    l.leadWidth v.expansion v.rows + columnGap < Machine.wordCount := by
  have hbound : l.leadWidth v.expansion v.rows ≤ maxIndent + 2 + Machine.wordCount / 2 := by
    refine leadWidth_le_iff.mpr fun r hr => ?_
    have hindent : r.depth * l.indent ≤ maxIndent :=
      of_decide_eq_true (List.all_eq_true.mp hfits r hr)
    have hname := Text.width_le_utf8ByteSize r.node.name
    have hbytes := hnames r hr
    rw [width_lead]
    omega
  -- half of all words are far more than the widest indentation with a marker and a gap
  have hroom : maxIndent + 2 + Machine.wordCount / 2 + columnGap < Machine.wordCount := by decide
  exact Nat.lt_of_le_of_lt (Nat.add_le_add_right hbound columnGap) hroom

/-! ### The whole view -/

/-- **The first row that is to be indented too far stops printing**, and nothing else does. -/
theorem renderInWords_eq (l : Layout) (hnames : v.NamesFit) :
    l.renderInWords v = match v.rows.find? l.isTooDeep with
      | some r => .error (l.trap r)
      | none => .ok (String.join (l.lines v.expansion v.rows)) := by
  rw [renderInWords, mapM_eq_of_find? (l.leadInWords_eq v.expansion)]
  cases hfind : v.rows.find? l.isTooDeep with
  | some r => rfl
  | none =>
    have hfits : l.fits v.rows = true := by
      rw [fits_eq, hfind]
      rfl
    have hword := leadWidth_add_lt hfits hnames
    have hwidest : ((v.rows.map (l.lead v.expansion)).map width).foldl max 0 =
        l.leadWidth v.expansion v.rows := by
      rw [leadWidth, List.map_map, List.foldl_map]
      rfl
    have hlines : ((v.rows.map (l.lead v.expansion)).zip v.rows).mapM
        (fun p => l.lineInWords (l.leadWidth v.expansion v.rows) p.1 p.2) =
          .ok (l.lines v.expansion v.rows) := by
      rw [← List.map_prod_right_eq_zip, List.mapM_map]
      exact mapM_eq_ok fun r hr => lineInWords_eq (width_lead_le hr) hword
    simp only [ok_bind, hwidest]
    rw [hlines, ok_bind]
    rfl

theorem renderInWords_eq_ok_iff (hnames : v.NamesFit) :
    l.renderInWords v = .ok out ↔ l.render v = some out := by
  rw [renderInWords_eq l hnames, render, fits_eq]
  cases v.rows.find? l.isTooDeep <;> simp

theorem exists_renderInWords_eq_error_iff (hnames : v.NamesFit) :
    (∃ e, l.renderInWords v = .error e) ↔ ∃ r ∈ v.rows, maxIndent < r.depth * l.indent := by
  rw [← render_eq_none_iff, renderInWords_eq l hnames, render, fits_eq]
  cases v.rows.find? l.isTooDeep <;> simp

theorem eq_padding_or_product {e : Trap} (hnames : v.NamesFit) (h : l.renderInWords v = .error e) :
    e = .padding ∨ e = .product := by
  rw [renderInWords_eq l hnames] at h
  split at h
  · rw [← Except.error.inj h, trap]
    split
    · exact .inl rfl
    · exact .inr rfl
  · nomatch h

end Layout

/-! ### Depth -/

variable {k : Expansion} {d : Nat} {ns : List Node} {r : Row}

theorem nestAll_children_add_two {n : Node} (h : n.children ≠ []) :
    nestAll n.children + 2 = n.nest := by
  cases n with
  | leaf _ _ => exact absurd rfl h
  | group _ _ cs => exact Nat.add_comm _ _

/-- **Each level of depth takes two brackets**, and the node itself another. -/
theorem two_mul_depth_lt (h : r ∈ flattenAt k d ns) : 2 * r.depth < 2 * d + nestAll ns := by
  induction ns using Node.forest_induction generalizing d with
  | nil => exact absurd h List.not_mem_nil
  | cons n ns ihc ihs =>
    rw [flattenAt_cons, List.mem_cons, List.mem_append] at h
    rw [nestAll]
    rcases h with rfl | h | h
    · have hpos : 0 < n.nest := by
        cases n with
        | leaf _ _ => exact Nat.one_pos
        | group _ _ _ => exact Nat.add_pos_left (by decide) _
      change 2 * d < _
      omega
    · split at h
      · have hbelow := ihc h
        have hne : n.children ≠ [] := by
          intro hnil
          rw [hnil] at h
          exact absurd h List.not_mem_nil
        have htwo := nestAll_children_add_two hne
        omega
      · exact absurd h List.not_mem_nil
    · have hrest := ihs h
      omega

/-- No row of a document is deeper than 62, whatever is expanded. -/
theorem Source.depth_le_of_parse {origin : Path} {text : String} (h : parse origin text = .ok ns)
    (hr : r ∈ flatten ns k) : r.depth ≤ 62 := by
  have hnest := nestAll_le_nodeBudget_iff.mp
    (Document.nestAll_le_of_readNodes (parse_eq_ok_iff.mp h))
  have hdepth := two_mul_depth_lt hr
  omega

/-- A leaf in so many groups. -/
def Node.tower : Nat → Node
  | 0 => .leaf "t" none
  | m + 1 => .group "t" none [tower m]

theorem Node.nest_tower (m : Nat) : (tower m).nest = 2 * m + 1 := by
  induction m with
  | zero => rfl
  | succ m ih =>
    rw [tower, nest, nestAll, nestAll, ih]
    omega

theorem Node.name_of_mem_tower {m : Nat} {n : Node} (h : n ∈ walkAll [tower m]) : n.name = "t" := by
  induction m with
  | zero =>
    obtain rfl := List.mem_singleton.mp h
    rfl
  | succ m ih =>
    rw [walkAll_cons, walkAll_nil, List.append_nil, List.mem_cons] at h
    rcases h with rfl | h
    · rfl
    · exact ih h

/-- When all groups are expanded, the leaf is as deep as there are groups. -/
theorem Expansion.Opens.mem_flattenAt_tower {m : Nat} (h : k.Opens [Node.tower m]) :
    ⟨Node.tower 0, d + m⟩ ∈ flattenAt k d [Node.tower m] := by
  induction m generalizing d with
  | zero => exact List.mem_cons_self
  | succ m ih =>
    obtain ⟨hk, hc, -⟩ := opens_cons.mp h
    have hbelow := ih hc (d := d + 1)
    rw [Nat.add_right_comm] at hbelow
    rw [flattenAt_cons, if_pos (hk rfl)]
    exact List.mem_cons_of_mem _ (List.mem_append_left _ hbelow)

/-- Up to 62 every depth occurs in some document. -/
theorem exists_parse_eq_ok_and_mem (origin : Path) {m : Nat} (hm : m ≤ 62) :
    ∃ (text : String) (v : View), Source.parse origin text = .ok v.nodes ∧ v.Reachable ∧
      v.NamesFit ∧ ∃ r ∈ v.rows, r.depth = m := by
  let ns := [Node.tower m]
  let v := View.ofExpansion ns (.ofList (walkAll ns))
  have hnest : nestAll ns ≤ Document.nodeBudget := by
    rw [Source.nestAll_le_nodeBudget_iff, nestAll, nestAll, Node.nest_tower]
    omega
  have hopens : v.expansion.Opens ns := Expansion.opens_expandList .empty ns
  refine ⟨Node.jsonList ns, v, ?_, .fresh ns _, fun r hr => ?_,
    ⟨Node.tower 0, 0 + m⟩, hopens.mem_flattenAt_tower, Nat.zero_add m⟩
  · exact Source.parse_eq_ok_iff.mpr ((Document.readNodes_jsonList ns).1 hnest)
  · rw [Node.name_of_mem_tower (mem_walkAll_of_mem_flattenAt hr)]
    decide

/-- **When printing stops.** For every layout, whatever its indentation, and every view whose names
fit into memory:

* A machine stops printing exactly if some row is to be indented by more than 65535 blanks, where
  depth and indentation are multiplied as numbers of any size. Names, values, and whether values are
  wanted have no part in it. It stops at the product or at the padding, and never in any other
  calculation. If it does not stop, the text is the one that is printed without regard to words.
* A row at depth zero never stops it.

No row of a document is deeper than 62, whatever is expanded. Hence an indentation is safe for all
views of documents exactly if it is at most 1057. -/
theorem printing_stops_iff :
    (∀ (l : Layout) (v : View), v.NamesFit →
      ((∃ e, l.renderInWords v = .error e) ↔ ∃ r ∈ v.rows, 65535 < r.depth * l.indent) ∧
      (∀ e, l.renderInWords v = .error e → e = .padding ∨ e = .product) ∧
      ∀ out, l.renderInWords v = .ok out ↔ l.render v = some out) ∧
    (∀ (r : Row) (indent : Nat), 65535 < r.depth * indent → 0 < r.depth) ∧
    (∀ (origin : Path) (text : String) (ns : List Node) (k : Expansion),
      Source.parse origin text = .ok ns → ∀ r ∈ flatten ns k, r.depth ≤ 62) ∧
    ∀ indent : Nat,
      (∀ (origin : Path) (text : String) (v : View) (values : Bool),
        Source.parse origin text = .ok v.nodes → v.Reachable → v.NamesFit →
          ∃ out, (⟨indent, values⟩ : Layout).renderInWords v = .ok out) ↔ indent ≤ 1057 := by
  refine ⟨fun l v hnames => ⟨?_, fun e => Layout.eq_padding_or_product hnames,
    fun out => Layout.renderInWords_eq_ok_iff hnames⟩, fun r indent h => ?_,
    fun origin text ns k h r => Source.depth_le_of_parse h, fun indent => ⟨fun h => ?_, ?_⟩⟩
  · exact Layout.exists_renderInWords_eq_error_iff hnames
  · exact Nat.pos_of_mul_pos_right (Nat.zero_lt_of_lt h)
  · obtain ⟨text, v, hparse, hv, hnames, r, hr, hdepth⟩ :=
      exists_parse_eq_ok_and_mem ⟨"t"⟩ (Nat.le_refl 62)
    obtain ⟨out, hout⟩ := h ⟨"t"⟩ text v false hparse hv hnames
    have hok : ¬ ∃ e, (⟨indent, false⟩ : Layout).renderInWords v = .error e := by
      rintro ⟨e, he⟩
      rw [hout] at he
      nomatch he
    rw [Layout.exists_renderInWords_eq_error_iff hnames] at hok
    have hsafe : ¬ 65535 < r.depth * indent := fun hdeep => hok ⟨r, hr, hdeep⟩
    rw [hdepth] at hsafe
    omega
  · intro hindent origin text v values hparse hv hnames
    have hok : ¬ ∃ e, (⟨indent, values⟩ : Layout).renderInWords v = .error e := by
      rw [Layout.exists_renderInWords_eq_error_iff hnames, hv.coherent.rows]
      rintro ⟨r, hr, hdeep⟩
      have hdepth := Source.depth_le_of_parse hparse hr
      have hproduct : r.depth * indent ≤ 62 * 1057 := Nat.mul_le_mul hdepth hindent
      exact absurd hdeep (Nat.not_lt.mpr (Nat.le_trans hproduct (by decide)))
    cases hout : (⟨indent, values⟩ : Layout).renderInWords v with
    | ok out => exact ⟨out, rfl⟩
    | error e => exact absurd ⟨e, hout⟩ hok

/-- A leaf in two expanded groups: at 32768 blanks a level it is out of reach, and at 2⁶³ the
product is no word. A document with a leaf on its own is printed at 1057. -/
theorem printing_stops_iff_nested :
    let h : Node := .group "h" none [.leaf "c" none]
    let g : Node := .group "g" none [h]
    let v : View := .ofExpansion [g] (.ofList [g, h])
    let w : View := .ofExpansion [.leaf "a" none] (.ofList [])
    (v.NamesFit ∧ (∃ e, (⟨32768, true⟩ : Layout).renderInWords v = .error e) ∧
      (∃ e, (⟨Machine.wordCount / 2, false⟩ : Layout).renderInWords v = .error e) ∧
      ¬ ∃ e, (⟨32767, true⟩ : Layout).renderInWords v = .error e) ∧
    (Source.parse ⟨"t"⟩ "[\x7b\"kind\":\"leaf\",\"name\":\"a\"\x7d]" = .ok w.nodes ∧ w.Reachable ∧
      w.NamesFit ∧ ∃ out, (⟨1057, true⟩ : Layout).renderInWords w = .ok out) := by
  intro h g v w
  have hrows : v.rows = [⟨g, 0⟩, ⟨h, 1⟩, ⟨.leaf "c" none, 2⟩] := by decide
  have hv : v.NamesFit := by
    rw [View.NamesFit, hrows]
    decide
  have hw : w.NamesFit := by
    rw [View.NamesFit]
    decide
  have hparse : Source.parse ⟨"t"⟩ "[\x7b\"kind\":\"leaf\",\"name\":\"a\"\x7d]" = .ok w.nodes :=
    Source.parse_eq_ok_iff.mpr (by cbv)
  have hstops : ∀ l : Layout, (∃ e, l.renderInWords v = .error e) ↔ 65535 < 2 * l.indent := by
    intro l
    rw [(printing_stops_iff.1 l v hv).1, hrows]
    simp only [List.mem_cons, List.not_mem_nil, or_false, exists_eq_or_imp, exists_eq_left]
    omega
  refine ⟨⟨hv, (hstops _).mpr (by decide), (hstops _).mpr (by decide), ?_⟩,
    hparse, .fresh _ _, hw, ?_⟩
  · rw [hstops]
    decide
  · exact (printing_stops_iff.2.2.2 1057).mpr (Nat.le_refl 1057) ⟨"t"⟩ _ w true hparse
      (.fresh _ _) hw

end Outline
