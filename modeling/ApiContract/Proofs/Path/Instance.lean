import ApiContract.Proofs.Path.Pieces
import ApiContract.Proofs.Path.Template
import ApiContract.Proofs.Text.LowerCase

/-!
# Proofs/Path/Instance — requests that instantiate a template

A request instantiates a template with values for its variables when it has the values in their
places and each constant in its own, in a spelling that is `alike`.  A template is matched by what
instantiates it up to lower case, and gives its variables the values (`Template.matchesRequest_iff`,
`Template.Instantiates.extract_eq`).  **`Template.instantiated`** says so of the paths of requests,
where a template that was read is instantiated in any ASCII letter case.
-/

namespace ApiContract

namespace Template

/-- **A request instantiates segments with values**: it has a spelling of each constant that is
alike, and the values, in order, for the variables. -/
inductive Instantiates (alike : String → String → Prop) :
    List Segment → List String → List String → Prop
  | nil : Instantiates alike [] [] []
  | const {value piece : String} {segments : List Segment} {values request : List String}
    (h : alike value piece) (rest : Instantiates alike segments values request) :
    Instantiates alike (.const value :: segments) values (piece :: request)
  | var {name value : String} {segments : List Segment} {values request : List String}
    (rest : Instantiates alike segments values request) :
    Instantiates alike (.var name :: segments) (value :: values) (value :: request)

/-- Two texts in the same letters of ASCII, in any case. -/
def SameLetters (a b : String) : Prop := asciiLower a = asciiLower b

/-- Two texts of one lower case. -/
def SameLowerCase (a b : String) : Prop := Text.lowerCase a = Text.lowerCase b

variable {alike alike' : String → String → Prop} {t : Template} {segments : List Segment}
  {values request : List String}

namespace Instantiates

/-- What is alike in one sense for the constants of a template instantiates it in that sense. -/
theorem mono (h : Instantiates alike segments values request)
    (himp : ∀ value, .const value ∈ segments → ∀ piece, alike value piece → alike' value piece) :
    Instantiates alike' segments values request := by
  induction h with
  | nil => exact .nil
  | const h _ ih =>
    have hrest := ih fun value hmem => himp value (List.mem_cons_of_mem _ hmem)
    exact .const (himp _ List.mem_cons_self _ h) hrest
  | var _ ih => exact .var (ih fun value hmem => himp value (List.mem_cons_of_mem _ hmem))

/-- There is a value for each variable. -/
theorem length_eq (h : Instantiates alike segments values request) :
    values.length = (segments.filterMap Segment.variableName?).length := by
  induction h with
  | nil => rfl
  | const _ _ ih => exact ih
  | var _ ih => exact congrArg (· + 1) ih

/-- The variables are given the values. -/
theorem extract_eq (h : Instantiates alike t.segments values request) :
    t.extract request = t.variableNames.zip values := by
  obtain ⟨_, segments⟩ := t
  dsimp only [extract, variableNames] at h ⊢
  induction h with
  | nil => rfl
  | const _ _ ih => exact ih
  | @var name value _ _ _ _ ih => exact congrArg ((name, value) :: ·) ih

/-- What is extracted from an instance are the variables, and the values. -/
theorem unzip_extract (h : Instantiates alike t.segments values request) :
    (t.extract request).map (·.1) = t.variableNames ∧ (t.extract request).map (·.2) = values := by
  rw [h.extract_eq]
  exact ⟨List.map_fst_zip (Nat.le_of_eq h.length_eq.symm),
    List.map_snd_zip (Nat.le_of_eq h.length_eq)⟩

/-- What holds of the values, and of what is alike to a constant, holds of all segments of an
instance. -/
theorem forall_mem {P : String → Prop} (h : Instantiates alike segments values request)
    (hvalues : ∀ v ∈ values, P v)
    (hconst : ∀ value, .const value ∈ segments → ∀ piece, alike value piece → P piece) :
    ∀ r ∈ request, P r := by
  induction h with
  | nil => exact nofun
  | const h _ ih =>
    have hrest := ih hvalues fun value hmem => hconst value (List.mem_cons_of_mem _ hmem)
    exact List.forall_mem_cons.2 ⟨hconst _ List.mem_cons_self _ h, hrest⟩
  | var _ ih =>
    obtain ⟨hvalue, hvalues⟩ := List.forall_mem_cons.1 hvalues
    have hrest := ih hvalues fun value hmem => hconst value (List.mem_cons_of_mem _ hmem)
    exact List.forall_mem_cons.2 ⟨hvalue, hrest⟩

end Instantiates

/-- There are instances with as many values as there are variables, and with no others. -/
theorem exists_instantiates_iff (hrefl : ∀ value, alike value value) :
    (∃ request, Instantiates alike segments values request) ↔
      values.length = (segments.filterMap Segment.variableName?).length := by
  refine ⟨fun ⟨_, h⟩ => h.length_eq, fun h => ?_⟩
  induction segments generalizing values with
  | nil =>
    obtain rfl := List.eq_nil_of_length_eq_zero h
    exact ⟨[], .nil⟩
  | cons s segments ih =>
    cases s with
    | const value =>
      obtain ⟨request, hrequest⟩ := ih h
      exact ⟨value :: request, .const (hrefl value) hrequest⟩
    | var name =>
      obtain ⟨value, values, rfl⟩ := List.exists_cons_of_length_eq_add_one h
      obtain ⟨request, hrequest⟩ := ih (Nat.succ.inj h)
      exact ⟨value :: request, .var hrequest⟩

/-- A template matches as many segments as it has, each accepted by its own. -/
theorem matchesRequest_iff_forall₂ :
    t.matchesRequest request = true ↔
      List.Forall₂ (fun s r => s.accepts r = true) t.segments request := by
  rw [List.forall₂_iff_zip, matchesRequest, Bool.and_eq_true, beq_iff_eq, List.all_eq_true,
    Prod.forall, eq_comm]

/-- **A template is matched by its instances**, up to the lower case of its constants. -/
theorem matchesRequest_iff :
    t.matchesRequest request = true ↔
      ∃ values, Instantiates SameLowerCase t.segments values request := by
  rw [matchesRequest_iff_forall₂]
  obtain ⟨_, segments⟩ := t
  dsimp only
  constructor
  · intro h
    induction h with
    | nil => exact ⟨[], .nil⟩
    | @cons s r _ _ hs _ ih =>
      obtain ⟨values, hvalues⟩ := ih
      cases s with
      | const value => exact ⟨values, .const (eq_of_beq hs) hvalues⟩
      | var name => exact ⟨r :: values, .var hvalues⟩
  · rintro ⟨values, h⟩
    induction h with
    | nil => exact .nil
    | const h _ ih => exact .cons (beq_iff_eq.2 h) ih
    | var _ ih => exact .cons rfl ih

/-- An instance that a template matches is one with the values that are extracted. -/
theorem instantiates_of_matchesRequest (h : t.matchesRequest request = true) :
    (t.extract request).map (·.1) = t.variableNames ∧
      Instantiates SameLowerCase t.segments ((t.extract request).map (·.2)) request := by
  obtain ⟨values, hvalues⟩ := matchesRequest_iff.1 h
  obtain ⟨hnames, hextracted⟩ := hvalues.unzip_extract
  exact ⟨hnames, hextracted.symm ▸ hvalues⟩

/-! ## Constants in any letter case -/

section SameLetters

variable {a b : String}

theorem SameLetters.map_toLower_eq (h : SameLetters a b) :
    a.toList.map Char.toLower = b.toList.map Char.toLower := String.ofList_injective h

/-- The letters of an identifier are those of identifiers only. -/
theorem isIdentifier_of_sameLetters (h : SameLetters a b) (ha : isIdentifier a.toList = true) :
    isIdentifier b.toList = true := by
  rw [← isIdentifier_map_toLower, ← h.map_toLower_eq, isIdentifier_map_toLower, ha]

/-- Identifiers in the same letters have one lower case. -/
theorem SameLetters.sameLowerCase (h : SameLetters a b) (ha : isIdentifier a.toList = true) :
    SameLowerCase a b := by
  have hascii {s : String} (hs : isIdentifier s.toList = true) : Text.lowerCase s = asciiLower s :=
    lowerCase_of_ascii fun c hc => toNat_lt_of_isIdentifierChar ((isIdentifier_iff.1 hs).2 c hc)
  exact (hascii ha).trans (Eq.trans h (hascii (isIdentifier_of_sameLetters h ha)).symm)

/-- An identifier is not empty and has no slash. -/
theorem isWord_of_isIdentifier (h : isIdentifier a.toList = true) : a ≠ "" ∧ '/' ∉ a.toList := by
  obtain ⟨hne, hchars⟩ := isIdentifier_iff.1 h
  exact ⟨fun hempty => hne (String.toList_eq_nil_iff.2 hempty),
    fun hmem => Bool.false_ne_true (hchars '/' hmem)⟩

end SameLetters

/-- **Matching and extraction invert instantiation.**  A template that was read has an instance with
any values, as many as it has variables.  A path that spells an instance, its constants in any
letter case of ASCII and its values neither empty nor with slashes, is matched, and the variables
are extracted with these values.  Conversely, a path that is matched gives each variable a value in
order, and its segments instantiate the template with those, up to the lower case of the
constants. -/
theorem instantiated {p : Location} {raw : String} (h : parse p raw = .ok t) :
    (∀ values, (∃ request, Instantiates SameLetters t.segments values request) ↔
      values.length = t.variableNames.length) ∧
    (∀ values request path, Instantiates SameLetters t.segments values request →
      (∀ v ∈ values, v ≠ "" ∧ '/' ∉ v.toList) → Spells (request.map String.toList) path.toList →
      t.matchesRequest (requestSegments path) = true ∧
        t.extract (requestSegments path) = t.variableNames.zip values) ∧
    ∀ path, t.matchesRequest (requestSegments path) = true →
      (t.extract (requestSegments path)).map (·.1) = t.variableNames ∧
        Instantiates SameLowerCase t.segments
          ((t.extract (requestSegments path)).map (·.2)) (requestSegments path) := by
  have hconst (value : String) (hmem : .const value ∈ t.segments) :
      isIdentifier value.toList = true :=
    (parse_eq_ok_iff.1 h).names (.const value) hmem
  refine ⟨fun values => exists_instantiates_iff fun _ => rfl, ?_,
    fun path => instantiates_of_matchesRequest⟩
  intro values request path hinstance hvalues hspells
  have hwords : ∀ r ∈ request, r ≠ "" ∧ '/' ∉ r.toList :=
    hinstance.forall_mem hvalues fun value hmem piece hsame =>
      isWord_of_isIdentifier (isIdentifier_of_sameLetters hsame (hconst value hmem))
  have hlower : Instantiates SameLowerCase t.segments values request :=
    hinstance.mono fun value hmem piece hsame => hsame.sameLowerCase (hconst value hmem)
  rw [requestSegments_eq hspells hwords]
  exact ⟨matchesRequest_iff.2 ⟨values, hlower⟩, hinstance.extract_eq⟩

/-- A pet is found in any letter case, behind any slashes. -/
theorem petTemplate_instantiated :
    let t : Template := ⟨"/Pets/\x7bid\x7d", [.const "Pets", .var "id"]⟩
    parse "/paths" "/Pets/\x7bid\x7d" = .ok t ∧
      t.matchesRequest (requestSegments "//pETS/7%/") = true ∧
      t.extract (requestSegments "//pETS/7%/") = [("id", "7%")] := by
  have hread : parse "/paths" "/Pets/\x7bid\x7d" =
      .ok ⟨"/Pets/\x7bid\x7d", [.const "Pets", .var "id"]⟩ := rfl
  have hinstance : Instantiates SameLetters [.const "Pets", .var "id"] ["7%"] ["pETS", "7%"] :=
    .const rfl (.var .nil)
  have hspells : Spells (["pETS", "7%"].map String.toList) "//pETS/7%/".toList :=
    .slash (.slash (.word "pETS".toList (.word "7%".toList .nil)))
  exact ⟨hread,
    (instantiated hread).2.1 ["7%"] ["pETS", "7%"] "//pETS/7%/" hinstance (by decide) hspells⟩

end Template

end ApiContract
