import ApiContract.Proofs.Draft4.Evaluator
import ApiContract.Proofs.Numeral.Binary64
import ApiContract.Proofs.Schema.Nullable

/-!
# Proofs/Draft4/Enumeration — listed values, as written and as kept

The values that a node lists are read into its schema: strings, integers and flags as they are
written, and among floats each integer as the nearest double-precision number (`Json.keptAs`).
**`evaluate_enumeration_iff`** is what becomes of them: of the instances of the type that meet what
else the node asks, those are accepted that equal a listed value as it is kept, and these are the
ones that equal a value as it is written exactly when each integer listed among floats is the value
of such a number.
-/

namespace ApiContract

/-- The types whose values a node can list. -/
def listableTypes : List String := ["string", "integer", "boolean", "float"]

/-- **An instance of a type**, by the name that nodes have for it; every number is a float. -/
def Json.IsOfType (type : String) (v : Json) : Prop :=
  match type with
  | "string" => ∃ s, v = string s
  | "integer" => ∃ n fits, v = number (.int n fits)
  | "boolean" => ∃ b, v = bool b
  | "float" => ∃ n, v = number n
  | _ => False

/-- **An instance meets what a node asks of strings** besides a list: a match of the pattern, and
enough characters. -/
structure Members.MetBy (ms : Members) (v : Json) : Prop where
  pattern : ∀ s text, v = .string s → ms.get? "pattern" = some (.string text) →
    Pattern.Matches text s
  minLength : ∀ s n, v = .string s → ms.get? "minLength" = some (.ofUnsigned n) → n.1 ≤ s.length

/-- A listed value as the schema of a type keeps it: among floats, an integer is the nearest of
them. -/
def Json.keptAs (type : String) (v : Json) : Json :=
  match type, v with
  | "float", number (.int n _) => number (.float (Binary64.ofInt n))
  | _, v => v

namespace Draft4

open Schema

variable {components : Components} {p : Location} {ms : Members} {type : String} {list v : Json}
  {items : List Json} {s c : Schema}

/-- **The schema of a node keeps a list**: of the instances of the type that meet what else the node
asks, it accepts those that equal one of the list. -/
def KeepsList (c : Schema) (ms : Members) (type : String) (items : List Json) : Prop :=
  ∀ v, Json.IsOfType type v → ms.MetBy v →
    (evaluate c v = .ok () ↔ ∃ item ∈ items, v.equal item = true)

/-! ## The rule of a list -/

section Listed

variable {α : Type} {name : String} {value : α → Json} {members : List α}

/-- A value of the right type is accepted by a schema other than of strings if it is one of those
listed. -/
theorem evaluate_choice_iff
    (hs : s.render = .object (choiceKeywords name value { members := some members }))
    (hcompiles : Compiles s) (hv : hasType v name = true) :
    evaluate s v = .ok () ↔ ∃ a ∈ members, v.equal (value a) = true := by
  rw [evaluate_eq_ok_iff, and_iff_right hcompiles, hs, rulesOf_choiceKeywords, violations,
    List.append_eq_nil_iff, typeRule_kept_iff, and_iff_right (.inl hv), enumRules_kept_iff]
  simp only [Option.some.injEq, forall_eq']

/-- So is a string that keeps the other rules. -/
theorem evaluate_strings_iff {members : List String} {pattern : Option String}
    {minLength : Option Unsigned64} {text : String}
    (hpattern : ∀ t, pattern = some t → Pattern.Matches t text)
    (hmin : ∀ n, minLength = some n → n.1 ≤ text.length) :
    evaluate (.string { members := some members, pattern, minLength }) (.string text) = .ok () ↔
      ∃ a ∈ members, (Json.string text).equal (.string a) = true := by
  have hvalid : ∀ t, pattern = some t → (Pattern.ofText? t).isSome := by
    intro t ht
    obtain ⟨p, hp, -⟩ := hpattern t ht
    exact Option.isSome_iff_exists.2 ⟨p, hp⟩
  rw [evaluate_eq_ok_iff, and_iff_right (compiles_string_iff.2 hvalid), string_kept_iff hvalid]
  simp only [equal_string_iff]
  constructor
  · rintro ⟨choice, -, -⟩
    exact choice.member members rfl
  · intro hmember
    refine ⟨⟨.inl ⟨text, rfl⟩, ?_⟩, ?_, ?_⟩
    · rintro _ ⟨⟩
      exact hmember
    · rintro _ t ⟨⟩ ht
      exact hpattern t ht
    · rintro _ n ⟨⟩ hn
      exact hmin n hn

/-- The values of a list as they are kept, in the document of a node and in that of its schema. -/
theorem exists_kept_iff {reads : Json → α → Prop} (hitems : List.Forall₂ reads items members)
    (hkept : ∀ item a, reads item a → item.keptAs type = value a) :
    (∃ a ∈ members, v.equal (value a) = true) ↔
      ∃ item ∈ items.map (Json.keptAs type), v.equal item = true := by
  simp only [List.mem_map, exists_exists_and_eq_and]
  refine (exists_mem_iff_of_forall₂ hitems fun item a h => ?_).symm
  rw [hkept item a h]

/-- A node of a type other than strings is read into a schema that keeps its list as it is kept for
the type. -/
theorem keepsList_of_choice {reads : Json → α → Prop} {members : Option (List α)}
    (hlist : ms.get? "enum" = some list) (he : Json.Enumerates reads (ms.get? "enum") members)
    (hs : s.render = .object (choiceKeywords name value { members })) (hcompiles : Compiles s)
    (htype : ∀ v, Json.IsOfType type v → hasType v name = true)
    (hkept : ∀ item a, reads item a → item.keptAs type = value a) :
    ∃ items, list = .array items ∧ KeepsList s ms type (items.map (Json.keptAs type)) := by
  rw [hlist] at he
  cases he with
  | listed hitems =>
    refine ⟨_, rfl, fun v hv _ => ?_⟩
    exact (evaluate_choice_iff hs hcompiles (htype v hv)).trans (exists_kept_iff hitems hkept)

end Listed

/-! ## Values as they are kept -/

/-- **A primitive node that lists values** is read into a schema that keeps them as they are kept
for its type. -/
theorem keepsList_keptAs (hn : TypedNode.DeclaredBy ms type (.primitive s))
    (hlist : ms.get? "enum" = some list) :
    type ∈ listableTypes ∧
      ∃ items, list = .array items ∧ KeepsList s ms type (items.map (Json.keptAs type)) := by
  cases hn with
  | string keys he hp hl =>
    rw [hlist] at he
    cases he with
    | listed hitems =>
      refine ⟨by decide, _, rfl, ?_⟩
      rintro _ ⟨text, rfl⟩ hmet
      refine (evaluate_strings_iff (fun t ht => ?_) fun n hn => ?_).trans
        (exists_kept_iff hitems fun _ a ha => ha ▸ rfl)
      · exact hmet.pattern text t rfl (by rw [hp, ht, Option.map_some])
      · exact hmet.minLength text n rfl (by rw [hl, hn, Option.map_some])
  | integer keys he =>
    have htype (v : Json) : Json.IsOfType "integer" v → hasType v "integer" = true :=
      hasType_integer_iff.2
    exact ⟨by decide,
      keepsList_of_choice hlist he rfl compiles_integer htype fun _ a ha => ha ▸ rfl⟩
  | boolean keys he =>
    have htype (v : Json) : Json.IsOfType "boolean" v → hasType v "boolean" = true :=
      hasType_boolean_iff.2
    exact ⟨by decide,
      keepsList_of_choice hlist he rfl compiles_boolean htype fun _ a ha => ha ▸ rfl⟩
  | float keys he =>
    have htype (v : Json) : Json.IsOfType "float" v → hasType v "number" = true :=
      hasType_number_iff.2
    refine ⟨by decide, keepsList_of_choice hlist he rfl compiles_float htype ?_⟩
    rintro _ a (⟨n, fits, rfl, rfl⟩ | rfl)
    · rfl
    · rfl

/-- Values are kept as they are written, other than among floats. -/
theorem map_keptAs_of_ne (h : type ≠ "float") : items.map (Json.keptAs type) = items := by
  refine List.map_id'' (fun item => ?_) items
  unfold Json.keptAs
  split
  next => exact absurd rfl h
  next => rfl

/-- A value that rounding leaves as it is. -/
theorem equal_keptAs_float_iff {item : Json}
    (hexact : ∀ (n : Int) fits, item = .number (.int n fits) → (Binary64.ofInt n).toRat = n) :
    v.equal (item.keptAs "float") = true ↔ v.equal item = true := by
  match item with
  | .number (.int n fits) =>
    show v.equal (.number (.float (Binary64.ofInt n))) = true ↔ _
    rw [equal_number_iff, equal_number_iff, Json.Number.toRat, Json.Number.toRat, hexact n fits rfl]
  | .number (.float x) => rfl
  | .null | .bool _ | .string _ | .array _ | .object _ => rfl

/-- What equals a number kept among floats is the value of one. -/
theorem exists_toRat_eq_of_equal_keptAs {m : Json.Number} {item : Json}
    (h : (Json.number m).equal (item.keptAs "float") = true) :
    ∃ x : Binary64, x.toRat = m.toRat := by
  have hfloat {x : Binary64} (hx : (Json.number m).equal (.number (.float x)) = true) :
      x.toRat = m.toRat := by
    obtain ⟨_, ⟨⟩, hm⟩ := equal_number_iff.1 hx
    exact hm.symm
  match item with
  | .number (.int n fits) => exact ⟨Binary64.ofInt n, hfloat h⟩
  | .number (.float x) => exact ⟨x, hfloat h⟩
  | .null | .bool _ | .string _ | .array _ | .object _ => cases h

/-- **Floats are kept as they are written** exactly when each integer among them is the value of
one. -/
theorem keepsList_float_iff (h : KeepsList c ms "float" (items.map (Json.keptAs "float"))) :
    KeepsList c ms "float" items ↔
      ∀ (n : Int) fits, Json.number (.int n fits) ∈ items → ∃ x : Binary64, x.toRat = n := by
  unfold KeepsList at h
  simp only [List.mem_map, exists_exists_and_eq_and] at h
  constructor
  · intro hwritten n fits hn
    have hmet : ms.MetBy (.number (.int n fits)) := ⟨nofun, nofun⟩
    have haccepted : evaluate c (.number (.int n fits)) = .ok () :=
      (hwritten _ ⟨_, rfl⟩ hmet).2 ⟨_, hn, equal_number_iff.2 ⟨_, rfl, rfl⟩⟩
    obtain ⟨item, -, hequal⟩ := (h _ ⟨_, rfl⟩ hmet).1 haccepted
    exact exists_toRat_eq_of_equal_keptAs hequal
  · intro hexact v hv hmet
    rw [h v hv hmet]
    refine exists_congr fun item => and_congr_right fun hitem => equal_keptAs_float_iff ?_
    rintro n fits rfl
    exact Binary64.toRat_ofInt_eq_iff.2 (hexact n fits hitem)

/-- The node of a schema, if it lists values, is of a primitive schema: that one, where null is not
said. -/
theorem typedNode_of_listed (hlist : ms.get? "enum" = some list) (hnull : ms.get? "nullable" = none)
    (hc : Schema.DeclaredBy components (.object ms) c) :
    ∃ type, ms.get? "type" = some (.string type) ∧ TypedNode.DeclaredBy ms type (.primitive c) := by
  have hone {key : String} (keys : ms.KeysAre [key] []) (hne : "enum" ≠ key) : False := by
    rw [Node.get?_eq_none_of_single keys hne] at hlist
    cases hlist
  have hprimitive {node : TypedNode} {nullable : Option Json}
      (hn : (Node.typed node nullable).DeclaredBy ms) : ∃ s, node = .primitive s := by
    by_contra h
    rw [hn.get?_enum_eq_none fun s hs => h ⟨s, hs⟩] at hlist
    cases hlist
  cases hc with
  | reference hn =>
    cases hn with
    | reference keys => exact (hone keys (by decide)).elim
  | union hn =>
    cases hn with
    | union keys => exact (hone keys (by decide)).elim
  | primitive hn hc =>
    cases hn with
    | typed ht hn =>
      rw [hnull] at hc
      cases hc with
      | absent => exact ⟨_, ht, hn⟩
  | array hn => cases (hprimitive hn).choose_spec
  | object hn => cases (hprimitive hn).choose_spec

/-- **The values that a node lists**, for every node that is read and says nothing of null: its
schema keeps them as they are kept for its type, so as they are written exactly when each integer
among floats is the value of one. -/
theorem evaluate_enumeration_iff (hlist : ms.get? "enum" = some list)
    (hnull : ms.get? "nullable" = none) (hc : Schema.ofJson components p (.object ms) = .ok c) :
    ∃ type ∈ listableTypes, ∃ items, ms.get? "type" = some (.string type) ∧ list = .array items ∧
      KeepsList c ms type (items.map (Json.keptAs type)) ∧
      (KeepsList c ms type items ↔
        (type = "float" → ∀ (n : Int) fits, Json.number (.int n fits) ∈ items →
          ∃ x : Binary64, x.toRat = n)) := by
  obtain ⟨type, ht, hn⟩ := typedNode_of_listed hlist hnull (Schema.declaredBy_of_ofJson hc)
  obtain ⟨hlistable, items, rfl, hkept⟩ := keepsList_keptAs hn hlist
  refine ⟨type, hlistable, items, ht, rfl, hkept, ?_⟩
  by_cases hfloat : type = "float"
  · subst hfloat
    rw [keepsList_float_iff hkept, forall_prop_of_true rfl]
  · rw [map_keptAs_of_ne hfloat] at hkept
    exact iff_of_true hkept fun h => absurd h hfloat

/-! ### A total above the integers that are all floats -/

/-- A float that is one total. -/
def totalNode (n : Int) (fits : Json.Fits n) : Members :=
  [("type", .string "float"), ("enum", .array [.number (.int n fits)])]

theorem ofJson_totalNode (n : Int) (fits : Json.Fits n) :
    Schema.ofJson [] "" (.object (totalNode n fits)) =
      .ok (.float { members := some [Binary64.ofInt n] }) :=
  @Schema.ofJson_of_primitive _ _ _ (.float { members := some [Binary64.ofInt n] }) none rfl

/-- An even one is a float, and is accepted. -/
theorem evenTotal_accepted :
    ∃ c, Schema.ofJson [] "" (.object (totalNode 9007199254740994 (by decide))) = .ok c ∧
      evaluate c (.number (.int 9007199254740994 (by decide))) = .ok () := by
  have hc := ofJson_totalNode 9007199254740994 (by decide)
  obtain ⟨type, -, items, ⟨⟩, ⟨⟩, -, hwritten⟩ := evaluate_enumeration_iff rfl rfl hc
  have heven : (Binary64.ofInt 9007199254740994).toRat = 9007199254740994 := by decide +kernel
  refine ⟨_, hc, (hwritten.2 ?_ _ ⟨_, rfl⟩ ⟨nofun, nofun⟩).2
    ⟨_, List.mem_singleton_self _, by decide +kernel⟩⟩
  rintro - n fits hn
  cases List.mem_singleton.1 hn
  exact ⟨_, heven⟩

/-- An odd one is listed and not accepted. -/
theorem oddTotal_not_kept :
    ¬ ∀ (components : Components) (p : Location) (ms : Members) (type : String)
        (items : List Json) (c : Schema),
      ms.get? "type" = some (.string type) →
      ms.get? "enum" = some (.array items) →
      ms.get? "nullable" = none →
      Schema.ofJson components p (.object ms) = .ok c →
      KeepsList c ms type items := by
  intro h
  have hc := ofJson_totalNode 9007199254740993 (by decide)
  have hkeeps := h [] "" _ "float" _ _ rfl rfl rfl hc
  have haccepted := (hkeeps (.number (.int 9007199254740993 (by decide))) ⟨_, rfl⟩ ⟨nofun, nofun⟩).2
    ⟨_, List.mem_singleton_self _, by decide +kernel⟩
  obtain ⟨x, hx, hequal⟩ := (evaluate_choice_iff rfl compiles_float rfl).1 haccepted
  cases List.mem_singleton.1 hx
  exact absurd hequal (by decide +kernel)

end Draft4

end ApiContract
