import ApiContract.Proofs.Document.Check
import ApiContract.Schema.Node

/-!
# Proofs/Schema/Form — the forms of a schema node

`Node.DeclaredBy` says, form by form, which members a schema node has and which node they make: a
reference, a union, or a node with a type.  `Node.ofMembers_eq_ok_iff` is the main statement: these
are the nodes that are read, whatever the place.
-/

namespace ApiContract

variable {p : Location} {ms : Members} {α : Type}

/-! ## The values in a node that are no schemas -/

/-- A number, and the binary64 nearest to it. -/
def Json.IsFloat (v : Json) (x : Binary64) : Prop :=
  (∃ n fits, v = .number (.int n fits) ∧ x = Binary64.ofInt n) ∨ v = .number (.float x)

/-- A value is read as the float it is, or as the one nearest to the integer it is. -/
theorem Json.asFloat?_eq_some_iff {v : Json} {x : Binary64} :
    v.asFloat? = some x ↔ v.IsFloat x := by
  unfold asFloat? IsFloat
  split
  next n fits => simp [eq_comm, fits]
  next y => simp [eq_comm]
  next hint hfloat =>
    refine iff_of_false nofun ?_
    rintro (⟨n, fits, rfl, -⟩ | rfl)
    · exact hint n fits rfl
    · exact hfloat x rfl

/-- Two integers are one value when they are one number. -/
theorem Json.number_int_inj {m n : Int} {hm : Fits m} {hn : Fits n} :
    number (.int m hm) = number (.int n hn) ↔ m = n := by
  constructor
  · rintro ⟨⟩
    rfl
  · rintro rfl
    rfl

/-- A value is read as a signed integer when it is the document of one. -/
theorem Json.asSigned?_eq_some_iff {v : Json} {n : Signed64} :
    v.asSigned? = some n ↔ v = Json.ofSigned n := by
  unfold asSigned?
  split
  next m fits =>
    refine Iff.trans ?_ (number_int_inj (n := n.1)).symm
    split_ifs with h
    · rw [Option.some.injEq, Subtype.ext_iff]
    · exact iff_of_false nofun fun e => h (e ▸ n.2.2)
  next hv => exact iff_of_false nofun fun e => hv _ _ e

/-- A value is read as an unsigned integer when it is the document of one. -/
theorem Json.asUnsigned?_eq_some_iff {v : Json} {n : Unsigned64} :
    v.asUnsigned? = some n ↔ v = Json.ofUnsigned n := by
  unfold asUnsigned?
  split
  next m fits =>
    refine Iff.trans ?_ (number_int_inj (n := (n.1 : Int))).symm
    split_ifs with h
    · rw [Option.some.injEq, Subtype.ext_iff]
      dsimp only
      omega
    · exact iff_of_false nofun fun e => h (by omega)
  next hv => exact iff_of_false nofun fun e => hv _ _ e

/-- An enumeration that may be absent, each element being its member by `reads`. -/
inductive Json.Enumerates (reads : Json → α → Prop) : Option Json → Option (List α) → Prop
  | absent : Enumerates reads none none
  | listed {items : List Json} {members : List α} (h : List.Forall₂ reads items members) :
    Enumerates reads (some (.array items)) (some members)

/-- What is required of an object: names that are all declared, as a set. -/
inductive Json.Requires (declared : Members) : Option Json → List String → Prop
  | absent : Requires declared none []
  | listed {items : List Json} (h : ∀ v ∈ items, v.bare ∈ declared.keys) :
    Requires declared (some (.array items)) (Keyed.keysOf (items.map Json.bare))

/-- What is required is required of any object that declares as much. -/
theorem Json.Requires.mono {declared declared' : Members} {place : Option Json}
    {required : List String} (h : Requires declared place required)
    (hkeys : ∀ key ∈ declared.keys, key ∈ declared'.keys) : Requires declared' place required := by
  cases h with
  | absent => exact .absent
  | listed h => exact .listed fun v hv => hkeys _ (h v hv)

/-- What an object says of members it does not declare: nothing, a flag, or a schema. -/
inductive Json.Admits : Option Json → Additional Json → Prop
  | absent : Admits none (.allowed false)
  | flag {b : Bool} : Admits (some (.bool b)) (.allowed b)
  | schema {v : Json} (h : v.asBool? = none) : Admits (some v) (.schema v)

namespace Node

/-- The listed values are read one by one. -/
theorem enumeration_eq_ok_iff {kind : EnumKind} {member : Json → Option α} {reads : Json → α → Prop}
    (hr : ∀ v a, member v = some a ↔ reads v a) {members : Option (List α)} :
    enumeration p ms kind member = .ok members ↔
      Json.Enumerates reads (ms.get? "enum") members := by
  have key : ∀ {v : Json} {as : List α},
      v.asArray?.bind (·.mapM member) = some as ↔
        ∃ items, v = .array items ∧ List.Forall₂ reads items as := by
    simp only [Option.bind_eq_some_iff, Json.asArray?_eq_some_iff, mapM_eq_some_iff, hr,
      implies_true]
  unfold enumeration
  constructor
  · intro h
    split at h
    next he =>
      cases h
      exact he ▸ .absent
    next v he =>
      split at h
      next as hm =>
        cases h
        obtain ⟨items, rfl, hitems⟩ := key.1 hm
        exact he ▸ .listed hitems
      next => exact absurd h refuse_ne_ok
  · intro h
    generalize ms.get? "enum" = e at h
    cases h with
    | absent => rfl
    | listed h => simp only [key.2 ⟨_, rfl, h⟩]

/-- A pattern is any text, and may be left out. -/
theorem pattern_eq_ok_iff {s : Option String} :
    pattern p ms = .ok s ↔ ms.get? "pattern" = s.map Json.string := by
  unfold pattern
  split <;> cases s <;> simp_all

/-- A least length is an unsigned integer, and may be left out. -/
theorem minLength_eq_ok_iff {n : Option Unsigned64} :
    minLength p ms = .ok n ↔ ms.get? "minLength" = n.map Json.ofUnsigned := by
  unfold minLength
  split
  next h => cases n <;> simp [h]
  next v h =>
    rw [h]
    split
    next m hm =>
      obtain rfl := Json.asUnsigned?_eq_some_iff.1 hm
      cases n <;> simp [← Json.asUnsigned?_eq_some_iff, hm]
    next hm =>
      cases n <;> simp [← Json.asUnsigned?_eq_some_iff, hm]

/-- The required names are those of declared properties. -/
theorem requiredNames_eq_ok_iff {declared : Members} {required : List String} :
    requiredNames p ms declared = .ok required ↔
      Json.Requires declared (ms.get? "required") required := by
  unfold requiredNames
  constructor
  · intro h
    split at h
    next hr =>
      cases h
      exact hr ▸ .absent
    next v hr =>
      obtain ⟨items, hi, hc⟩ := Checked.bind_eq_ok.1 h
      obtain rfl := Json.expectArray_eq_ok_iff.1 hi
      dsimp only at hc
      split_ifs at hc with hu
      · exact absurd hc refuse_ne_ok
      · cases hc
        refine hr ▸ .listed fun v hv => ?_
        have hd := List.filter_eq_nil_iff.1 (not_not.1 hu) v.bare (List.mem_map_of_mem hv)
        simpa using hd
  · intro h
    generalize ms.get? "required" = r at h
    cases h with
    | absent => rfl
    | @listed items h =>
      have hu : (items.map Json.bare).filter (fun name => !declared.has name) = [] := by
        refine List.filter_eq_nil_iff.2 fun name hname => ?_
        obtain ⟨v, hv, rfl⟩ := List.mem_map.1 hname
        simpa using h v hv
      refine Checked.bind_eq_ok.2 ⟨items, rfl, ?_⟩
      rw [if_neg (not_not.2 hu), Checked.pure_eq_ok]

/-- What stands beside the properties is what an object admits. -/
theorem admits_iff {a : Additional Json} :
    Json.Admits (ms.get? "additionalProperties") a ↔ additional ms = a := by
  unfold additional
  constructor
  · intro h
    generalize ms.get? "additionalProperties" = v at h
    cases h with
    | absent => rfl
    | flag => rfl
    | @schema v h => cases v <;> first | rfl | simp [Json.asBool?] at h
  · rintro rfl
    split
    next h => exact h ▸ .absent
    next flag h => exact h ▸ .flag
    next v hv h => exact h ▸ .schema (by cases v <;> simp_all [Json.asBool?])

end Node

/-! ## The forms -/

/-- **A node of a type**: the keys that stand beside the type, and what they hold. -/
inductive TypedNode.DeclaredBy (ms : Members) : String → TypedNode → Prop
  | object {declared : Members} {required : List String} {additional : Additional Json}
    (keys : ms.KeysAre ["type", "properties"] ["required", "additionalProperties", "nullable"])
    (hp : ms.get? "properties" = some (.object declared))
    (hr : Json.Requires declared (ms.get? "required") required)
    (ha : Json.Admits (ms.get? "additionalProperties") additional) :
    DeclaredBy ms "object" (.object declared required additional)
  | array {items : Json}
    (keys : ms.KeysAre ["type", "items"] ["nullable"])
    (hi : ms.get? "items" = some items) :
    DeclaredBy ms "array" (.array items)
  | string {members : Option (List String)} {pattern : Option String}
    {minLength : Option Unsigned64}
    (keys : ms.KeysAre ["type"] ["nullable", "pattern", "enum", "minLength"])
    (he : Json.Enumerates (fun v s => v = .string s) (ms.get? "enum") members)
    (hp : ms.get? "pattern" = pattern.map .string)
    (hl : ms.get? "minLength" = minLength.map .ofUnsigned) :
    DeclaredBy ms "string" (.primitive (.string { members, pattern, minLength }))
  | integer {members : Option (List Signed64)}
    (keys : ms.KeysAre ["type"] ["nullable", "enum"])
    (he : Json.Enumerates (fun v n => v = .ofSigned n) (ms.get? "enum") members) :
    DeclaredBy ms "integer" (.primitive (.integer { members }))
  | boolean {members : Option (List Bool)}
    (keys : ms.KeysAre ["type"] ["nullable", "enum"])
    (he : Json.Enumerates (fun v b => v = .bool b) (ms.get? "enum") members) :
    DeclaredBy ms "boolean" (.primitive (.boolean { members }))
  | float {members : Option (List Binary64)}
    (keys : ms.KeysAre ["type"] ["nullable", "enum"])
    (he : Json.Enumerates Json.IsFloat (ms.get? "enum") members) :
    DeclaredBy ms "float" (.primitive (.float { members }))

/-- **A schema node**: a reference or a union, with no other key, or a node of a type. -/
inductive Node.DeclaredBy (ms : Members) : Node → Prop
  | reference {target : Json}
    (keys : ms.KeysAre ["$ref"] [])
    (ht : ms.get? "$ref" = some target) :
    DeclaredBy ms (.reference target)
  | union {branches : List Json}
    (keys : ms.KeysAre ["oneOf"] [])
    (hb : ms.get? "oneOf" = some (.array branches)) :
    DeclaredBy ms (.union branches)
  | typed {type : String} {node : TypedNode}
    (ht : ms.get? "type" = some (.string type))
    (hn : node.DeclaredBy ms type) :
    DeclaredBy ms (.typed node (ms.get? "nullable"))

namespace Node

/-- An object is read from its properties, its required names and what stands beside them. -/
theorem objectNode_eq_ok_iff {node : TypedNode} :
    objectNode p ms = .ok node ↔ ∃ declared required additional,
      ms.get? "properties" = some (.object declared) ∧
      Json.Requires declared (ms.get? "required") required ∧
      Json.Admits (ms.get? "additionalProperties") additional ∧
      node = .object declared required additional := by
  simp only [objectNode, Checked.bind_eq_ok, Checked.pure_eq_ok, Members.fetch_eq_ok_iff,
    Json.expectObject_eq_ok_iff, requiredNames_eq_ok_iff, admits_iff]
  constructor
  · rintro ⟨_, hp, declared, rfl, required, hr, rfl⟩
    exact ⟨declared, required, _, hp, hr, rfl, rfl⟩
  · rintro ⟨declared, required, _, hp, hr, rfl, rfl⟩
    exact ⟨_, hp, declared, rfl, required, hr, rfl⟩

/-- A string is read from its listed values, its pattern and its least length. -/
theorem stringNode_eq_ok_iff {node : TypedNode} :
    stringNode p ms = .ok node ↔ ∃ members pattern minLength,
      Json.Enumerates (fun v s => v = .string s) (ms.get? "enum") members ∧
      ms.get? "pattern" = pattern.map Json.string ∧
      ms.get? "minLength" = minLength.map Json.ofUnsigned ∧
      node = .primitive (.string { members, pattern, minLength }) := by
  simp only [stringNode, Checked.bind_eq_ok, Checked.pure_eq_ok, pattern_eq_ok_iff,
    minLength_eq_ok_iff,
    enumeration_eq_ok_iff fun v s => Json.asString?_eq_some_iff (v := v) (s := s)]
  constructor
  · rintro ⟨members, he, pattern, hp, minLength, hl, rfl⟩
    exact ⟨members, pattern, minLength, he, hp, hl, rfl⟩
  · rintro ⟨members, pattern, minLength, he, hp, hl, rfl⟩
    exact ⟨members, he, pattern, hp, minLength, hl, rfl⟩

/-- The other primitive nodes are read from their listed values. -/
theorem choiceNode_eq_ok_iff {kind : EnumKind} {member : Json → Option α} {reads : Json → α → Prop}
    (hr : ∀ v a, member v = some a ↔ reads v a) {make : Choice α → Schema} {node : TypedNode} :
    choiceNode p ms kind member make = .ok node ↔ ∃ members,
      Json.Enumerates reads (ms.get? "enum") members ∧ node = .primitive (make { members }) := by
  simp only [choiceNode, Checked.bind_eq_ok, Checked.pure_eq_ok, enumeration_eq_ok_iff hr,
    eq_comm (b := node)]

/-- **The nodes of a type that are read are those of its form.** -/
theorem typedNode_eq_ok_iff {type : Json} {node : TypedNode} :
    typedNode p ms type = .ok node ↔ ∃ name, type = .string name ∧ node.DeclaredBy ms name := by
  have hs := @Json.asString?_eq_some_iff type
  constructor
  · intro h
    unfold typedNode at h
    split at h <;> simp only [Checked.bind_eq_ok, Members.checkKeys_eq_ok_iff, exists_const] at h
    next ht =>
      obtain ⟨keys, h⟩ := h
      obtain ⟨declared, required, additional, hp, hr, ha, rfl⟩ := objectNode_eq_ok_iff.1 h
      exact ⟨_, hs.1 ht, .object keys hp hr ha⟩
    next ht =>
      obtain ⟨keys, items, hi, h⟩ := h
      cases h
      exact ⟨_, hs.1 ht, .array keys (Members.fetch_eq_ok_iff.1 hi)⟩
    next ht =>
      obtain ⟨keys, h⟩ := h
      obtain ⟨members, pattern, minLength, he, hp, hl, rfl⟩ := stringNode_eq_ok_iff.1 h
      exact ⟨_, hs.1 ht, .string keys he hp hl⟩
    next ht =>
      obtain ⟨keys, h⟩ := h
      obtain ⟨members, he, rfl⟩ := (choiceNode_eq_ok_iff fun _ _ => Json.asSigned?_eq_some_iff).1 h
      exact ⟨_, hs.1 ht, .integer keys he⟩
    next ht =>
      obtain ⟨keys, h⟩ := h
      obtain ⟨members, he, rfl⟩ := (choiceNode_eq_ok_iff fun _ _ => Json.asBool?_eq_some_iff).1 h
      exact ⟨_, hs.1 ht, .boolean keys he⟩
    next ht =>
      obtain ⟨keys, h⟩ := h
      obtain ⟨members, he, rfl⟩ := (choiceNode_eq_ok_iff fun _ _ => Json.asFloat?_eq_some_iff).1 h
      exact ⟨_, hs.1 ht, .float keys he⟩
    next => exact absurd h refuse_ne_ok
  · rintro ⟨name, rfl, h⟩
    have hkeys {required optional q} (h : ms.KeysAre required optional) :
        ms.checkKeys q required optional = .ok () := Members.checkKeys_eq_ok_iff.2 h
    cases h with
    | object keys hp hr ha =>
      exact Checked.bind_eq_ok.2 ⟨(), hkeys keys, objectNode_eq_ok_iff.2 ⟨_, _, _, hp, hr, ha, rfl⟩⟩
    | array keys hi =>
      refine Checked.bind_eq_ok.2 ⟨(), hkeys keys, ?_⟩
      exact Checked.bind_eq_ok.2 ⟨_, Members.fetch_eq_ok_iff.2 hi, rfl⟩
    | string keys he hp hl =>
      exact Checked.bind_eq_ok.2 ⟨(), hkeys keys, stringNode_eq_ok_iff.2 ⟨_, _, _, he, hp, hl, rfl⟩⟩
    | integer keys he =>
      refine Checked.bind_eq_ok.2 ⟨(), hkeys keys, ?_⟩
      exact (choiceNode_eq_ok_iff fun _ _ => Json.asSigned?_eq_some_iff).2 ⟨_, he, rfl⟩
    | boolean keys he =>
      refine Checked.bind_eq_ok.2 ⟨(), hkeys keys, ?_⟩
      exact (choiceNode_eq_ok_iff fun _ _ => Json.asBool?_eq_some_iff).2 ⟨_, he, rfl⟩
    | float keys he =>
      refine Checked.bind_eq_ok.2 ⟨(), hkeys keys, ?_⟩
      exact (choiceNode_eq_ok_iff fun _ _ => Json.asFloat?_eq_some_iff).2 ⟨_, he, rfl⟩

end Node

/-- The keys of a node of a type are keys of schema nodes. -/
theorem TypedNode.DeclaredBy.keys {type : String} {node : TypedNode} (h : node.DeclaredBy ms type) :
    ms.KeysAre [] Node.nodeKeys := by
  cases h with
  | object keys => exact keys.among (by decide)
  | array keys => exact keys.among (by decide)
  | string keys => exact keys.among (by decide)
  | integer keys => exact keys.among (by decide)
  | boolean keys => exact keys.among (by decide)
  | float keys => exact keys.among (by decide)

namespace Node

/-- A key that an object of one other key does not have. -/
theorem get?_eq_none_of_single {key other : String} (h : ms.KeysAre [key] []) (hne : other ≠ key) :
    ms.get? other = none :=
  Members.get?_eq_none_iff.2 fun hk =>
    (h.known other hk).elim (fun hm => hne (List.mem_singleton.1 hm)) nofun

/-- **The nodes that are read are those of a form**, whatever the place they stand in. -/
theorem ofMembers_eq_ok_iff {node : Node} : ofMembers p ms = .ok node ↔ node.DeclaredBy ms := by
  simp only [ofMembers, Checked.bind_eq_ok, Members.checkKeys_eq_ok_iff, exists_const]
  constructor
  · rintro ⟨-, h⟩
    split at h
    next type ht =>
      obtain ⟨typed, hn, h⟩ := Checked.bind_eq_ok.1 h
      cases h
      obtain ⟨name, rfl, hd⟩ := typedNode_eq_ok_iff.1 hn
      exact .typed ht hd
    next =>
      simp only [Members.has_iff] at h
      split_ifs at h with hr ho
      · simp only [Checked.bind_eq_ok, Members.checkKeys_eq_ok_iff, exists_const] at h
        obtain ⟨keys, target, ht, h⟩ := h
        cases h
        exact .reference (Members.KeysAre.single_iff.2 ⟨hr, keys⟩) (Members.fetch_eq_ok_iff.1 ht)
      · simp only [Checked.bind_eq_ok, Members.checkKeys_eq_ok_iff, exists_const] at h
        obtain ⟨keys, v, hv, branches, hb, h⟩ := h
        cases h
        obtain rfl := Json.expectArray_eq_ok_iff.1 hb
        exact .union (Members.KeysAre.single_iff.2 ⟨ho, keys⟩) (Members.fetch_eq_ok_iff.1 hv)
      · exact absurd h refuse_ne_ok
  · intro h
    cases h with
    | reference keys ht =>
      obtain ⟨hr, only⟩ := Members.KeysAre.single_iff.1 keys
      have hn : ms.get? "type" = none := get?_eq_none_of_single keys (by decide)
      -- the keys of the form are among those that any node may have
      refine ⟨keys.among (by decide), ?_⟩
      simp only [hn, Members.has_iff.2 hr, if_true]
      refine Checked.bind_eq_ok.2 ⟨(), Members.checkKeys_eq_ok_iff.2 only, ?_⟩
      exact Checked.bind_eq_ok.2 ⟨_, Members.fetch_eq_ok_iff.2 ht, rfl⟩
    | union keys hb =>
      obtain ⟨ho, only⟩ := Members.KeysAre.single_iff.1 keys
      have hn : ms.get? "type" = none := get?_eq_none_of_single keys (by decide)
      have hr : ¬ ms.has "$ref" = true := by
        rw [Members.has_iff, ← Members.get?_eq_none_iff]
        exact get?_eq_none_of_single keys (by decide)
      refine ⟨keys.among (by decide), ?_⟩
      simp only [hn, hr, Members.has_iff.2 ho, if_true]
      refine Checked.bind_eq_ok.2 ⟨(), Members.checkKeys_eq_ok_iff.2 only, ?_⟩
      refine Checked.bind_eq_ok.2 ⟨_, Members.fetch_eq_ok_iff.2 hb, ?_⟩
      exact Checked.bind_eq_ok.2 ⟨_, rfl, rfl⟩
    | typed ht hn =>
      refine ⟨hn.keys, ?_⟩
      simp only [ht]
      exact Checked.bind_eq_ok.2 ⟨_, typedNode_eq_ok_iff.2 ⟨_, rfl, hn⟩, rfl⟩

end Node

end ApiContract
