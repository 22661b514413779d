import ApiContract.Path.Route
import ApiContract.Proofs.Document.Reader

/-!
# Proofs/Path/Route — which entry answers a request

A request is answered by the first entry that matches it, in the order of the templates.  That order
looks at texts as well as kinds, position by position, so a literal route goes before a variable one
only if no text decides earlier.  `Contract.route?_literal_iff` says exactly when it does, for every
document that is read; `literal_route_loses` is a document in which it does not.
-/

namespace ApiContract

/-! ## Two templates that match one request -/

/-- Whether a segment is a constant. -/
def Segment.isConst : Segment → Bool
  | const _ => true
  | var _ => false

namespace Template

/-- **The literal one of two templates**: at the first position where one has a constant and the
other a variable, position `i`, it is `a` that has the constant. -/
structure OutranksAt (a b : Template) (i : Nat) : Prop where
  kinds : ∀ j < i, a.segments[j]?.map Segment.isConst = b.segments[j]?.map Segment.isConst
  const : ∃ value, a.segments[i]? = some (.const value)
  var : ∃ name, b.segments[i]? = some (.var name)

/-- At the first position where two templates differ, position `j`, they have segments of one kind,
and the text of `a` is the smaller: the spelling of a constant, or the name of a variable. -/
structure PrecedesByTextAt (a b : Template) (j : Nat) : Prop where
  first : ∀ k < j, a.segments[k]? = b.segments[k]?
  text : ∃ s t, a.segments[j]? = some s ∧ b.segments[j]? = some t ∧
    s.isConst = t.isConst ∧ s.name < t.name

variable {a b : Template} {width i j : Nat}

theorem PrecedesByTextAt.ne (h : a.PrecedesByTextAt b j) : a.segments[j]? ≠ b.segments[j]? := by
  intro heq
  obtain ⟨s, t, hs, ht, -, hlt⟩ := h.text
  obtain rfl : s = t := Option.some.inj (hs.symm.trans (heq.trans ht))
  exact String.lt_irrefl _ hlt

/-- There is only one position where templates first differ. -/
theorem PrecedesByTextAt.eq_first (h : a.PrecedesByTextAt b i)
    (hne : a.segments[j]? ≠ b.segments[j]?)
    (first : ∀ k < j, a.segments[k]? = b.segments[k]?) : i = j := by
  rcases Nat.lt_trichotomy i j with hlt | heq | hgt
  · exact absurd (first i hlt) h.ne
  · exact heq
  · exact absurd (h.first j hgt) hne

/-- Segments of one kind are in the order of their texts. -/
theorem isLE_compareRank_iff {s t : Segment} (hkind : s.isConst = t.isConst) (hne : s ≠ t) :
    (Segment.compareRank (some s) (some t)).isLE = true ↔ s.name < t.name := by
  have hcompare : Segment.compareRank (some s) (some t) = compareOfLessAndEq s.name t.name := by
    cases s <;> cases t <;> first | rfl | cases hkind
  have hname : s.name ≠ t.name := by
    cases s <;> cases t <;> first | cases hkind; done | exact fun h => hne (congrArg _ h)
  rw [hcompare, compareOfLessAndEq, if_neg hname]
  split_ifs with h
  · exact iff_of_true rfl h
  · exact iff_of_false nofun h

/-- Two templates of which one is literal are compared no later than where their kinds differ. -/
theorem OutranksAt.exists_first (hw : a.segments.length ≤ width) (h : a.OutranksAt b i) :
    ∃ j ≤ i, b.segments[j]? ≠ a.segments[j]? ∧ (∀ k < j, b.segments[k]? = a.segments[k]?) ∧
      comparePadded width b a = Segment.compareRank b.segments[j]? a.segments[j]? := by
  obtain ⟨value, ha⟩ := h.const
  obtain ⟨name, hb⟩ := h.var
  have hi : i < a.segments.length := (List.getElem?_eq_some_iff.1 ha).1
  obtain ⟨j, hji, hne, first⟩ :=
    exists_first_difference (a := b) (b := a) (i := i) (by simp [ha, hb])
  exact ⟨j, hji, hne, first, comparePadded_of_first ((hji.trans_lt hi).trans_le hw) hne first⟩

theorem OutranksAt.comparePadded_ne_eq (hw : a.segments.length ≤ width) (h : a.OutranksAt b i) :
    comparePadded width b a ≠ .eq := by
  obtain ⟨j, -, hne, -, hcompare⟩ := h.exists_first hw
  rw [hcompare]
  exact fun heq => hne (Segment.compareRank_eq_eq.1 heq)

/-- **The variable one goes first exactly when a text decides before the kinds do.** -/
theorem OutranksAt.isLE_comparePadded_iff (hw : a.segments.length ≤ width) (h : a.OutranksAt b i) :
    (comparePadded width b a).isLE = true ↔ ∃ j < i, b.PrecedesByTextAt a j := by
  obtain ⟨value, ha⟩ := h.const
  obtain ⟨name, hb⟩ := h.var
  obtain ⟨j, hji, hne, first, hcompare⟩ := h.exists_first hw
  rw [hcompare]
  rcases hji.lt_or_eq with hlt | rfl
  · -- a text decides: the kinds agree at this position
    have hi : i < a.segments.length := (List.getElem?_eq_some_iff.1 ha).1
    obtain ⟨s, hs⟩ : ∃ s, a.segments[j]? = some s := ⟨_, List.getElem?_eq_getElem (hlt.trans hi)⟩
    obtain ⟨t, ht, hkind⟩ : ∃ t, b.segments[j]? = some t ∧ t.isConst = s.isConst := by
      rw [← Option.map_eq_some_iff, ← h.kinds j hlt, hs, Option.map_some]
    rw [ht, hs, isLE_compareRank_iff hkind fun e => hne (by rw [ht, hs, e])]
    constructor
    · exact fun hts => ⟨j, hlt, first, t, s, ht, hs, hkind, hts⟩
    · rintro ⟨k, -, hk⟩
      obtain rfl := hk.eq_first hne first
      obtain ⟨t', s', ht', hs', -, hts⟩ := hk.text
      obtain rfl := Option.some.inj (ht.symm.trans ht')
      obtain rfl := Option.some.inj (hs.symm.trans hs')
      exact hts
  · -- the kinds decide: a constant goes before a variable
    rw [ha, hb]
    refine iff_of_false nofun ?_
    rintro ⟨k, hk, hp⟩
    exact hk.ne (hp.eq_first hne first)

end Template

/-! ## The first match -/

section Sorted

variable {α : Type} {template : α → Template} {entries : List α} {path : String}
  {r : Route α} {e : α}

/-- There is a route if some entry matches. -/
theorem exists_route?_iff :
    (∃ r, route? template entries path = some r) ↔
      ∃ e ∈ entries, (template e).matchesRequest (requestSegments path) = true := by
  rw [← Option.isSome_iff_exists, route?, Option.isSome_map, List.find?_isSome]

/-- What is returned is an entry that matches, and its variables stand for segments of the
request. -/
theorem route?_sound (h : route? template entries path = some r) :
    r.entry ∈ entries ∧
      (template r.entry).matchesRequest (requestSegments path) = true ∧
      r.parameters = (template r.entry).extract (requestSegments path) := by
  obtain ⟨e, he, rfl⟩ := Option.map_eq_some_iff.1 h
  have hm : (template e).matchesRequest (requestSegments path) = true := by
    simpa using List.find?_some he
  exact ⟨List.mem_of_find?_eq_some he, hm, rfl⟩

/-- In sorted entries, what is returned precedes everything else that matches. -/
theorem isLE_of_route?
    (h : route? template (Template.sortBySpecificity template entries) path = some r)
    (he : e ∈ entries) (hm : (template e).matchesRequest (requestSegments path) = true) :
    (Template.comparePadded (Template.widest (entries.map template)) (template r.entry)
      (template e)).isLE = true := by
  obtain ⟨e₀, he₀, rfl⟩ := Option.map_eq_some_iff.1 h
  obtain ⟨-, before, after, hsorted, hbefore⟩ := List.find?_eq_some_iff_append.1 he₀
  have hpair := Template.pairwise_sortBySpecificity template entries
  have hmem : e ∈ before ++ e₀ :: after := hsorted ▸ Template.mem_sortBySpecificity.2 he
  rw [hsorted] at hpair
  rcases List.mem_append.1 hmem with hb | ha
  · have hno := hbefore e hb
    rw [hm] at hno
    cases hno
  · rcases List.mem_cons.1 ha with rfl | ha
    · exact Std.ReflCmp.isLE_rfl
    · exact List.rel_of_pairwise_cons (List.pairwise_append.1 hpair).2.1 ha

end Sorted

/-- **When the literal route wins.**  A request is answered if some entry matches it, and then by
one that does.  Of two entries that match, one of which answers, the literal one does exactly unless
the other precedes it by a text at an earlier position. -/
theorem Contract.route?_literal_iff {document : Json} {c : Contract}
    (hc : Contract.ofJson document = .ok c) (path : String) :
    ((∃ r, route? PathEntry.template c.paths path = some r) ↔
      ∃ e ∈ c.paths, e.template.matchesRequest (requestSegments path) = true) ∧
    ∀ r, route? PathEntry.template c.paths path = some r →
      (r.entry ∈ c.paths ∧ r.entry.template.matchesRequest (requestSegments path) = true) ∧
      ∀ a ∈ c.paths, a.template.matchesRequest (requestSegments path) = true →
      ∀ b ∈ c.paths, b.template.matchesRequest (requestSegments path) = true →
      ∀ i, a.template.OutranksAt b.template i → r.entry = a ∨ r.entry = b →
        (r.entry = a ↔ ¬ ∃ j < i, b.template.PrecedesByTextAt a.template j) := by
  obtain ⟨_, _, _, entries, -, hpaths⟩ := Contract.exists_entries hc
  refine ⟨exists_route?_iff, fun r hr => ?_⟩
  obtain ⟨hmem, hmatch, -⟩ := route?_sound hr
  refine ⟨⟨hmem, hmatch⟩, fun a ha hma b hb hmb i houtranks hreturned => ?_⟩
  rw [hpaths] at hr
  have ha' : a ∈ entries := Template.mem_sortBySpecificity.1 (hpaths ▸ ha)
  have hb' : b ∈ entries := Template.mem_sortBySpecificity.1 (hpaths ▸ hb)
  have hw := Template.length_le_widest (List.mem_map_of_mem (f := PathEntry.template) ha')
  rw [← houtranks.isLE_comparePadded_iff hw]
  constructor
  · rintro rfl hle
    have heq := Std.OrientedCmp.isLE_antisymm hle (isLE_of_route? hr hb' hmb)
    exact houtranks.comparePadded_ne_eq hw heq
  · intro hnot
    refine hreturned.resolve_right fun hrb => hnot ?_
    exact hrb ▸ isLE_of_route? hr ha' hma

/-! ## A literal route that loses

The variables of the two routes below stand at one position, and `kind` goes before `type`. -/

/-- A route of two variables. -/
def variableRoute : PathEntry := ⟨⟨"/\x7bkind\x7d/\x7bid\x7d", [.var "kind", .var "id"]⟩, []⟩

/-- A route that is literal where the other has a variable. -/
def literalRoute : PathEntry := ⟨⟨"/\x7btype\x7d/search", [.var "type", .const "search"]⟩, []⟩

/-- A document of these routes. -/
def overtakenDocument : Json :=
  .object [("openapi", .string "3.0.0"),
    ("info", .object [("version", .string "1"), ("title", .string "Pets")]),
    ("paths", .object [(variableRoute.template.text, .object []),
      (literalRoute.template.text, .object [])])]

theorem ofJson_overtakenDocument :
    Contract.ofJson overtakenDocument = .ok ⟨[variableRoute, literalRoute]⟩ := by
  have hsorted : Template.sortBySpecificity PathEntry.template [variableRoute, literalRoute] =
      [variableRoute, literalRoute] := List.mergeSort_of_pairwise (by decide)
  have hread : Contract.ofJson overtakenDocument =
      .ok ⟨Template.sortBySpecificity PathEntry.template [variableRoute, literalRoute]⟩ := rfl
  rw [hread, hsorted]

theorem literalRoute_outranksAt : literalRoute.template.OutranksAt variableRoute.template 1 where
  kinds j hj := by
    obtain rfl : j = 0 := by omega
    rfl
  const := ⟨"search", rfl⟩
  var := ⟨"id", rfl⟩

/-- The variable route, which answers, has the smaller text at the first position. -/
theorem variableRoute_precedes :
    ∃ j < 1, variableRoute.template.PrecedesByTextAt literalRoute.template j := by
  have h := ((Contract.route?_literal_iff ofJson_overtakenDocument "/dogs/search").2
    ⟨variableRoute, [("kind", "dogs"), ("id", "search")]⟩ rfl).2
      literalRoute (by simp) (by decide) variableRoute (by simp) (by decide)
      1 literalRoute_outranksAt (.inr rfl)
  refine not_not.1 fun hnot => ?_
  have htext : variableRoute.template.text = literalRoute.template.text :=
    congrArg (·.template.text) (h.2 hnot)
  exact absurd htext (by decide)

/-- **A literal route does not always win.** -/
theorem literal_route_loses :
    ¬ ∀ (document : Json) (c : Contract) (path : String) (r : Route PathEntry),
      Contract.ofJson document = .ok c → route? PathEntry.template c.paths path = some r →
      ∀ e ∈ c.paths, e.template.matchesRequest (requestSegments path) = true →
      ∀ i, ¬ e.template.OutranksAt r.entry.template i := by
  intro h
  exact h overtakenDocument _ "/dogs/search" ⟨variableRoute, [("kind", "dogs"), ("id", "search")]⟩
    ofJson_overtakenDocument rfl literalRoute (by simp) (by decide) 1 literalRoute_outranksAt

end ApiContract
