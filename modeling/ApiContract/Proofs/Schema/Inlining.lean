import ApiContract.Proofs.Document.Reader

/-!
# Proofs/Schema/Inlining — a reference stands for its definition

`Schema.inline` writes the definition of a component in the place of every reference to it, at every
place of a document where a schema node can stand.  `Schema.ofJson_inline_iff` is the main
statement: reading a node against the components of a document is reading the node, so rewritten,
against none.

What carries it is `Node.ofMembers_mapSchemas`: the form of a node does not depend on the schemas
below it, so a map of those is a map of what the node is read as.
-/

namespace ApiContract

variable {p : Location} {ms : Members} {f : Json → Json}

namespace Checked

variable {α β γ : Type}

theorem map_bind {x : Checked α} {g : α → Checked β} {h : β → γ} :
    (x >>= g).map h = x >>= fun a => (g a).map h := by
  cases x <;> rfl

theorem bind_map {x : Checked α} {g : α → β} {h : β → Checked γ} :
    x.map g >>= h = x >>= fun a => h (g a) := by
  cases x <;> rfl

end Checked

/-! ## A map of the schemas below a node -/

/-- The values of an object, mapped. -/
def Members.mapValues (f : Json → Json) (ms : Members) : Members := ms.map fun m => (m.1, f m.2)

/-- The schemas in the value of a keyword, mapped: those of the properties, the branches of a union,
the items of an array and what stands beside the properties. -/
def Json.mapUnder (f : Json → Json) (keyword : String) (v : Json) : Json :=
  match keyword, v with
  | "properties", object declared => object (Members.mapValues f declared)
  | "oneOf", array branches => array (branches.map f)
  | "items", v | "additionalProperties", v => f v
  | _, v => v

/-- The schemas below a node, mapped. -/
def Members.mapSchemas (f : Json → Json) (ms : Members) : Members :=
  ms.map fun m => (m.1, m.2.mapUnder f m.1)

/-- What stands beside the properties, with the schema there may be mapped. -/
def Additional.map {σ τ : Type} (f : σ → τ) : Additional σ → Additional τ
  | allowed flag => allowed flag
  | schema s => schema (f s)

/-- A typed node, with the schemas below it mapped. -/
def TypedNode.map (f : Json → Json) : TypedNode → TypedNode
  | object declared required beside => object (declared.mapValues f) required (beside.map f)
  | array items => array (f items)
  | primitive s => primitive s

/-- A node, with the schemas below it mapped. -/
def Node.map (f : Json → Json) : Node → Node
  | reference target => reference target
  | union branches => union (branches.map f)
  | typed node nullable => typed (node.map f) nullable

namespace Members

@[simp] theorem keys_mapValues : (ms.mapValues f).keys = ms.keys := by
  rw [keys, mapValues, List.map_map]
  rfl

@[simp] theorem keys_mapSchemas : (ms.mapSchemas f).keys = ms.keys := by
  rw [keys, mapSchemas, List.map_map]
  rfl

@[simp] theorem has_mapValues {key : String} : (ms.mapValues f).has key = ms.has key := by
  rw [has, has, keys_mapValues]

@[simp] theorem has_mapSchemas {key : String} : (ms.mapSchemas f).has key = ms.has key := by
  rw [has, has, keys_mapSchemas]

@[simp] theorem checkKeys_mapSchemas {required optional : List String} :
    (ms.mapSchemas f).checkKeys p required optional = ms.checkKeys p required optional := by
  simp only [checkKeys, keys_mapSchemas, has_mapSchemas]

/-- A member is mapped under its key. -/
theorem get?_mapSchemas {key : String} :
    (ms.mapSchemas f).get? key = (ms.get? key).map (Json.mapUnder f key) := by
  induction ms with
  | nil => rfl
  | cons m ms ih =>
    obtain ⟨k, v⟩ := m
    unfold get? mapSchemas at ih ⊢
    rw [List.map_cons, List.lookup_cons, List.lookup_cons]
    dsimp only
    cases h : key == k with
    | true => rw [beq_iff_eq.1 h, Option.map_some]
    | false => exact ih

/-- A member that is taken is mapped under its key, and one that is absent stays so. -/
theorem fetch_mapSchemas {key : String} :
    (ms.mapSchemas f).fetch p key = (ms.fetch p key).map (Json.mapUnder f key) := by
  rw [fetch, fetch, get?_mapSchemas]
  cases ms.get? key <;> rfl

/-- A value under a keyword that holds no schemas. -/
theorem get?_mapSchemas_of_plain {key : String} (h : ∀ v, Json.mapUnder f key v = v) :
    (ms.mapSchemas f).get? key = ms.get? key := by
  rw [get?_mapSchemas, show Json.mapUnder f key = id from funext h, Option.map_id, id]

end Members

namespace Node

/-- `type` holds no schemas; nor does any of the other plain keywords. -/
theorem plain_keyword :
    ∀ keyword ∈ ["type", "required", "enum", "nullable", "pattern", "minLength", "$ref"],
      ∀ v, Json.mapUnder f keyword v = v := by
  simp [Json.mapUnder]

theorem get?_plain {keyword : String}
    (h : keyword ∈ ["type", "required", "enum", "nullable", "pattern", "minLength", "$ref"]) :
    (ms.mapSchemas f).get? keyword = ms.get? keyword :=
  Members.get?_mapSchemas_of_plain (plain_keyword keyword h)

/-- What stands beside the properties is mapped where it is a schema: a map that keeps flags keeps
which of the two it is. -/
theorem additional_mapSchemas (hf : ∀ v, (f v).asBool? = v.asBool?) :
    additional (ms.mapSchemas f) = (additional ms).map f := by
  unfold additional
  rw [Members.get?_mapSchemas]
  cases h : ms.get? "additionalProperties" with
  | none => rfl
  | some v =>
    have hunder : Option.map (Json.mapUnder f "additionalProperties") (some v) = some (f v) := rfl
    rw [hunder]
    have := hf v
    cases v <;> cases hv : f _ <;> simp_all [Json.asBool?, Additional.map]

/-- The required names are checked against the names of the properties, which stay. -/
theorem requiredNames_mapSchemas {declared : Members} :
    requiredNames p (ms.mapSchemas f) (declared.mapValues f) = requiredNames p ms declared := by
  simp only [requiredNames, get?_plain (show "required" ∈ _ by decide), Members.has_mapValues]

theorem enumeration_mapSchemas {α : Type} {kind : EnumKind} {member : Json → Option α} :
    enumeration p (ms.mapSchemas f) kind member = enumeration p ms kind member := by
  simp only [enumeration, get?_plain (show "enum" ∈ _ by decide)]

/-- An object is read alike, its properties and the schema beside them mapped. -/
theorem objectNode_mapSchemas (hf : ∀ v, (f v).asBool? = v.asBool?) :
    objectNode p (ms.mapSchemas f) = (objectNode p ms).map (TypedNode.map f) := by
  unfold objectNode
  rw [Members.fetch_mapSchemas, additional_mapSchemas hf]
  cases ms.fetch p "properties" with
  | error d => rfl
  | ok v =>
    cases v with
    | object declared =>
      change (requiredNames p (ms.mapSchemas f) (Members.mapValues f declared) >>= _) =
        (requiredNames p ms declared >>= _).map _
      rw [requiredNames_mapSchemas, Checked.map_bind]
      rfl
    | _ => rfl

theorem stringNode_mapSchemas :
    stringNode p (ms.mapSchemas f) = (stringNode p ms).map (TypedNode.map f) := by
  simp only [stringNode, pattern, minLength, enumeration_mapSchemas, Checked.map_bind,
    get?_plain (show "pattern" ∈ _ by decide), get?_plain (show "minLength" ∈ _ by decide)]
  rfl

theorem choiceNode_mapSchemas {α : Type} {kind : EnumKind} {member : Json → Option α}
    {make : Choice α → Schema} :
    choiceNode p (ms.mapSchemas f) kind member make =
      (choiceNode p ms kind member make).map (TypedNode.map f) := by
  simp only [choiceNode, enumeration_mapSchemas, Checked.map_bind]
  rfl

/-- A typed node is read alike, whichever type it has. -/
theorem typedNode_mapSchemas (hf : ∀ v, (f v).asBool? = v.asBool?) {type : Json} :
    typedNode p (ms.mapSchemas f) type = (typedNode p ms type).map (TypedNode.map f) := by
  unfold typedNode
  simp only [Members.checkKeys_mapSchemas]
  split
  next => simp only [Checked.map_bind, objectNode_mapSchemas hf]
  next =>
    rw [Checked.map_bind, Members.fetch_mapSchemas]
    refine congrArg (_ >>= ·) (funext fun _ => ?_)
    cases ms.fetch p "items" <;> rfl
  next => simp only [Checked.map_bind, stringNode_mapSchemas]
  next => simp only [Checked.map_bind, choiceNode_mapSchemas]
  next => simp only [Checked.map_bind, choiceNode_mapSchemas]
  next => simp only [Checked.map_bind, choiceNode_mapSchemas]
  next => rfl

/-- **The form of a node does not depend on the schemas below it.** -/
theorem ofMembers_mapSchemas (hf : ∀ v, (f v).asBool? = v.asBool?) :
    ofMembers p (ms.mapSchemas f) = (ofMembers p ms).map (Node.map f) := by
  unfold ofMembers
  simp only [Members.checkKeys_mapSchemas, Members.has_mapSchemas, Checked.map_bind,
    get?_plain (show "type" ∈ _ by decide), get?_plain (show "nullable" ∈ _ by decide)]
  refine congrArg (_ >>= ·) (funext fun _ => ?_)
  split
  next =>
    rw [typedNode_mapSchemas hf, Checked.map_bind, Checked.bind_map]
    rfl
  next =>
    split_ifs
    · rw [Checked.map_bind, Members.fetch_mapSchemas, Checked.bind_map]
      simp only [Checked.map_bind, plain_keyword "$ref" (by decide)]
      rfl
    · rw [Checked.map_bind, Members.fetch_mapSchemas, Checked.bind_map]
      simp only [Checked.map_bind]
      refine congrArg (_ >>= ·) (funext fun _ => congrArg (_ >>= ·) (funext fun v => ?_))
      cases v <;> rfl
    · rfl

end Node

/-! ## Inlining -/

/-- **What a node refers to**: if `$ref` is its only key and names one of the definitions, that
definition. -/
def Members.referent? (definitions ms : Members) : Option Json :=
  if ms.has "$ref" ∧ ∀ key ∈ ms.keys, key = "$ref" then
    (definitions.find? fun d =>
      ms.get? "$ref" = some (.string ("#/components/schemas/" ++ d.1))).map (·.2)
  else none

namespace Schema

mutual

/-- **A node without references to definitions**: at every place of a schema node in it, a reference
is replaced by the definition as it stands. -/
def inline (definitions : Members) : Json → Json
  | .object ms => (Members.referent? definitions ms).getD (.object (inlineMembers definitions ms))
  | v => v
termination_by v => (sizeOf v, 0)

/-- The members of a node, inlined. -/
def inlineMembers (definitions : Members) : List (String × Json) → List (String × Json)
  | [] => []
  | (keyword, v) :: rest =>
    (keyword, inlineUnder definitions keyword v) :: inlineMembers definitions rest
termination_by ms => (sizeOf ms, 0)

/-- The value of a keyword, inlined where a schema node can stand. -/
def inlineUnder (definitions : Members) (keyword : String) (v : Json) : Json :=
  match keyword, v with
  | "properties", .object declared => .object (inlineProperties definitions declared)
  | "oneOf", .array branches => .array (inlineBranches definitions branches)
  | "items", v | "additionalProperties", v => inline definitions v
  | _, v => v
termination_by (sizeOf v, 1)

/-- The properties of an object, inlined. -/
def inlineProperties (definitions : Members) : List (String × Json) → List (String × Json)
  | [] => []
  | (name, v) :: rest => (name, inline definitions v) :: inlineProperties definitions rest
termination_by ms => (sizeOf ms, 0)

/-- The branches of a union, inlined. -/
def inlineBranches (definitions : Members) : List Json → List Json
  | [] => []
  | v :: rest => inline definitions v :: inlineBranches definitions rest
termination_by vs => (sizeOf vs, 0)

end

variable {definitions : Members}

theorem inlineProperties_eq :
    inlineProperties definitions ms = ms.mapValues (inline definitions) := by
  induction ms with
  | nil => rw [inlineProperties]; rfl
  | cons m ms ih => rw [inlineProperties, ih]; rfl

theorem inlineBranches_eq {vs : List Json} :
    inlineBranches definitions vs = vs.map (inline definitions) := by
  induction vs with
  | nil => rw [inlineBranches]; rfl
  | cons v vs ih => rw [inlineBranches, ih]; rfl

/-- Inlining under a keyword maps the schemas there by inlining. -/
theorem inlineUnder_eq {keyword : String} {v : Json} :
    inlineUnder definitions keyword v = v.mapUnder (inline definitions) keyword := by
  unfold inlineUnder Json.mapUnder
  split <;> simp only [inlineProperties_eq, inlineBranches_eq]

theorem inlineMembers_eq : inlineMembers definitions ms = ms.mapSchemas (inline definitions) := by
  induction ms with
  | nil => rw [inlineMembers]; rfl
  | cons m ms ih => rw [inlineMembers, ih, inlineUnder_eq]; rfl

/-- An object is inlined as what it refers to, or else by inlining the schemas below it. -/
theorem inline_object :
    inline definitions (.object ms) =
      (Members.referent? definitions ms).getD (.object (ms.mapSchemas (inline definitions))) := by
  rw [inline, inlineMembers_eq]

/-- What is no object is left as it is. -/
theorem inline_of_not_object {v : Json} (h : v.asObject? = none) : inline definitions v = v := by
  cases v with
  | object ms => cases h
  | _ => rw [inline]; intro ms h; exact Json.noConfusion h

end Schema

/-! ## References -/

namespace Members

variable {definitions : Members}

/-- The definition of the name that a text refers to. -/
theorem find?_reference (name : String) :
    (definitions.find? fun d =>
      some (Json.string ("#/components/schemas/" ++ name)) =
        some (.string ("#/components/schemas/" ++ d.1))).map (·.2) = definitions.get? name := by
  unfold get?
  induction definitions with
  | nil => rfl
  | cons d definitions ih =>
    obtain ⟨k, v⟩ := d
    rw [List.find?_cons, List.lookup_cons]
    by_cases h : name = k
    · subst h
      simp
    · rw [beq_false_of_ne h]
      simpa [h] using ih

/-- **A node refers to a definition** when `$ref` is its only key and the name there is that of the
definition. -/
theorem referent?_eq_some_iff {d : Json} :
    referent? definitions ms = some d ↔
      ms.KeysAre ["$ref"] [] ∧ ∃ name,
        ms.get? "$ref" = some (.string ("#/components/schemas/" ++ name)) ∧
        definitions.get? name = some d := by
  have hkeys : (ms.has "$ref" ∧ ∀ key ∈ ms.keys, key = "$ref") ↔ ms.KeysAre ["$ref"] [] := by
    constructor
    · rintro ⟨hr, hall⟩
      refine ⟨fun key hk => ?_, fun key hk => .inl (List.mem_singleton.2 (hall key hk))⟩
      rw [List.mem_singleton.1 hk]
      exact has_iff.1 hr
    · intro keys
      refine ⟨has_iff.2 (keys.complete "$ref" (List.mem_singleton_self _)), fun key hk => ?_⟩
      exact (keys.known key hk).elim List.mem_singleton.1 nofun
  unfold referent?
  rw [← hkeys]
  split_ifs with h
  · rw [and_iff_right h]
    constructor
    · intro hd
      obtain ⟨e, he, -⟩ := Option.map_eq_some_iff.1 hd
      have htarget := by simpa only [decide_eq_true_eq] using List.find?_some he
      rw [htarget, find?_reference] at hd
      exact ⟨e.1, htarget, hd⟩
    · rintro ⟨name, htarget, hd⟩
      rw [htarget, find?_reference, hd]
  · exact iff_of_false nofun fun hand => h hand.1

/-- A node that refers to a definition is read as a reference. -/
theorem ofMembers_of_referent? {d : Json} (h : referent? definitions ms = some d) :
    ∃ name, Node.ofMembers p ms = .ok (.reference (.string ("#/components/schemas/" ++ name))) ∧
      definitions.get? name = some d := by
  obtain ⟨keys, name, htarget, hd⟩ := referent?_eq_some_iff.1 h
  exact ⟨name, Node.ofMembers_eq_ok_iff.2 (.reference keys htarget), hd⟩

/-- A reference to a definition is a node that refers to it. -/
theorem referent?_of_ofMembers {name : String} {d : Json} (hd : definitions.get? name = some d)
    (h : Node.ofMembers p ms = .ok (.reference (.string ("#/components/schemas/" ++ name)))) :
    referent? definitions ms = some d := by
  cases Node.ofMembers_eq_ok_iff.1 h with
  | reference keys htarget => exact referent?_eq_some_iff.2 ⟨keys, name, htarget, hd⟩

end Members

namespace Schema

variable {components : Components} {definitions : Members}

/-- **Components are the schemas of definitions**, each of which is read against no components. -/
structure Defines (definitions : Members) (components : Components) : Prop where
  declared : ∀ name d, definitions.get? name = some d → ∃ s, DeclaredBy [] d s
  get?_iff : ∀ name s, Keyed.get? name components = some s ↔
    ∃ d, definitions.get? name = some d ∧ DeclaredBy [] d s

/-- Only objects are schema nodes. -/
theorem asBool?_of_declaredBy {v : Json} {s : Schema} (h : DeclaredBy components v s) :
    v.asBool? = none := by
  cases h <;> rfl

/-- A node is read as one schema only. -/
theorem DeclaredBy.unique {v : Json} {s s' : Schema} (h : DeclaredBy components v s)
    (h' : DeclaredBy components v s') : s = s' :=
  Except.ok.inj ((ofJson_of_declaredBy h "").symm.trans (ofJson_of_declaredBy h' ""))

/-- Inlining does not turn a schema into a flag, nor a flag into a schema. -/
theorem asBool?_inline (hd : Defines definitions components) (v : Json) :
    (inline definitions v).asBool? = v.asBool? := by
  cases v with
  | object ms =>
    rw [inline_object]
    cases h : Members.referent? definitions ms with
    | none => rfl
    | some d =>
      obtain ⟨name, -, hname⟩ := Members.ofMembers_of_referent? (p := "") h
      obtain ⟨s, hs⟩ := hd.declared name d hname
      exact asBool?_of_declaredBy hs
  | _ => rw [inline_of_not_object rfl]

/-- A node of no form is not read. -/
theorem ofJson_object_ne_ok {d : Defect} (h : Node.ofMembers p ms = .error d) {c : Schema} :
    ofJson components p (.object ms) ≠ .ok c := by
  intro hc
  obtain ⟨node, hn⟩ := node_of_ofJson hc
  exact nomatch h.symm.trans hn

/-- A node that refers to a definition is read as the definition is. -/
theorem ofJson_of_referent? (hd : Defines definitions components) {d : Json}
    (h : Members.referent? definitions ms = some d) {c : Schema} :
    ofJson components p (.object ms) = .ok c ↔ ofJson [] p d = .ok c := by
  obtain ⟨name, hn, hname⟩ := Members.ofMembers_of_referent? (p := p) h
  rw [ofJson_of_reference hn, Node.resolve_eq_ok_iff, ofJson_eq_ok_iff_declaredBy]
  constructor
  · rintro ⟨name', htarget, hc⟩
    obtain rfl : name = name' := by simpa using htarget
    obtain ⟨d', hname', hc⟩ := (hd.get?_iff name c).1 hc
    exact Option.some.inj (hname'.symm.trans hname) ▸ hc
  · intro hc
    exact ⟨name, rfl, (hd.get?_iff name c).2 ⟨d, hname, hc⟩⟩

/-- A reference to no definition is not read. -/
theorem resolve_ne_ok (hd : Defines definitions components) {target : Json}
    (hn : Node.ofMembers p ms = .ok (.reference target))
    (h : Members.referent? definitions ms = none) {c : Schema} :
    Node.resolve components p target ≠ .ok c := by
  intro hc
  obtain ⟨name, rfl, hs⟩ := Node.resolve_eq_ok_iff.1 hc
  obtain ⟨d, hname, -⟩ := (hd.get?_iff name c).1 hs
  exact nomatch h.symm.trans (Members.referent?_of_ofMembers hname hn)

/-! The induction is over the document.  At a node the two sides have the same form, over schemas
that are read alike by induction; only references differ, and those are read as their
definitions. -/

mutual

/-- A node is read against the components as its inlined form is against none. -/
theorem ofJson_inline (hd : Defines definitions components) {p : Location} :
    ∀ {v : Json} {c : Schema}, ofJson components p v = .ok c ↔
      ofJson [] p (inline definitions v) = .ok c
  | .object ms, c => by
    -- a reference to a component becomes it; any other node keeps its form, and only the schemas
    -- below it change
    rw [inline_object]
    cases hr : Members.referent? definitions ms with
    | some d => exact ofJson_of_referent? hd hr
    | none =>
      have hmap : Node.ofMembers p (Members.mapSchemas (inline definitions) ms) = _ :=
        Node.ofMembers_mapSchemas (asBool?_inline hd)
      rw [Option.getD_none]
      cases hn : Node.ofMembers p ms with
      | error d =>
        rw [hn] at hmap
        exact iff_of_false (ofJson_object_ne_ok hn) (ofJson_object_ne_ok hmap)
      | ok node =>
        have below := Node.ofMembers_below hn
        rw [hn] at hmap
        match node with
        | .reference target =>
          -- a reference that is left has no component, and without components none is read
          rw [ofJson_of_reference hn, ofJson_of_reference hmap]
          refine iff_of_false (resolve_ne_ok hd hn hr) fun hc => ?_
          obtain ⟨name, -, hs⟩ := Node.resolve_eq_ok_iff.1 hc
          cases hs
        | .union branches =>
          have : sizeOf branches < sizeOf ms := below
          have hbranches (ss : List Schema) : ofBranches components p 0 branches = .ok ss ↔
              ofBranches [] p 0 (branches.map (inline definitions)) = .ok ss := ofBranches_inline hd
          rw [ofJson_of_union hn, ofJson_of_union hmap]
          simp only [Checked.map_eq_ok, hbranches]
        | .typed (.primitive s) nullable => rw [ofJson_of_primitive hn, ofJson_of_primitive hmap]
        | .typed (.array items) nullable =>
          have : sizeOf items < sizeOf ms := below
          have hitems (s : Schema) : ofJson components (p.member "items") items = .ok s ↔
              ofJson [] (p.member "items") (inline definitions items) = .ok s := ofJson_inline hd
          rw [ofJson_of_array hn, ofJson_of_array hmap]
          simp only [Checked.bind_eq_ok, hitems]
        | .typed (.object declared required beside) nullable =>
          have : sizeOf declared < sizeOf ms := below.1
          have hbeside (a : Additional Schema) : ofAdditional components p beside = .ok a ↔
              ofAdditional [] p (beside.map (inline definitions)) = .ok a := by
            match beside with
            | .allowed flag => rfl
            | .schema w =>
              have : sizeOf w < sizeOf ms := below.2 w rfl
              have hw (s : Schema) : ofJson components (p.member "additionalProperties") w = .ok s ↔
                  ofJson [] (p.member "additionalProperties") (inline definitions w) = .ok s :=
                ofJson_inline hd
              simp only [ofAdditional, Additional.map, Checked.map_eq_ok, hw]
          have hproperties (ss : List (String × Schema)) :
              ofProperties components p declared = .ok ss ↔
              ofProperties [] p (Members.mapValues (inline definitions) declared) = .ok ss :=
            ofProperties_inline hd
          rw [ofJson_of_object hn, ofJson_of_object hmap]
          simp only [Checked.bind_eq_ok, hbeside, hproperties]
  | .null, _ | .bool _, _ | .number _, _ | .string _, _ | .array _, _ => by
    rw [inline_of_not_object rfl]
    exact iff_of_false (ofJson_ne_ok rfl) (ofJson_ne_ok rfl)
termination_by v => sizeOf v

/-- So are the branches of a union. -/
theorem ofBranches_inline (hd : Defines definitions components) {p : Location} :
    ∀ {i : Nat} {vs : List Json} {ss : List Schema}, ofBranches components p i vs = .ok ss ↔
      ofBranches [] p i (vs.map (inline definitions)) = .ok ss
  | _, [], ss => by rw [List.map_nil, ofBranches, ofBranches]
  | i, v :: vs, ss => by
    rw [List.map_cons, ofBranches, ofBranches]
    have hv (s : Schema) : ofJson components ((p.member "oneOf").element i) v = .ok s ↔
        ofJson [] ((p.member "oneOf").element i) (inline definitions v) = .ok s := ofJson_inline hd
    have hvs (ss : List Schema) : ofBranches components p (i + 1) vs = .ok ss ↔
        ofBranches [] p (i + 1) (vs.map (inline definitions)) = .ok ss := ofBranches_inline hd
    simp only [Checked.bind_eq_ok, hv, hvs]
termination_by _ vs => sizeOf vs

/-- So are the properties of an object. -/
theorem ofProperties_inline (hd : Defines definitions components) {p : Location} :
    ∀ {ms : Members} {ss : List (String × Schema)}, ofProperties components p ms = .ok ss ↔
      ofProperties [] p (ms.mapValues (inline definitions)) = .ok ss
  | [], ss => by
    change _ ↔ ofProperties [] p [] = .ok ss
    rw [ofProperties, ofProperties]
  | (name, v) :: ms, ss => by
    change _ ↔ ofProperties [] p
      ((name, inline definitions v) :: Members.mapValues (inline definitions) ms) = .ok ss
    rw [ofProperties, ofProperties]
    have hv (s : Schema) : ofJson components (p.member name) v = .ok s ↔
        ofJson [] (p.member name) (inline definitions v) = .ok s := ofJson_inline hd
    have hms (ss : List (String × Schema)) : ofProperties components p ms = .ok ss ↔
        ofProperties [] p (Members.mapValues (inline definitions) ms) = .ok ss :=
      ofProperties_inline hd
    simp only [Checked.bind_eq_ok, hv, hms]
termination_by ms => sizeOf ms

end

/-- The components of a document are those that its `schemas` define. -/
theorem defines_of_componentsOf {root : Members}
    (hroot : root.get? "schemas" = some (.object definitions)) (hkeys : definitions.keys.Nodup)
    (h : componentsOf (some (.object root)) = .ok components) : Defines definitions components := by
  obtain ⟨ms, hms, hcomponents⟩ := Json.optionally_some_iff.1 (componentsOf_eq_ok_iff.1 h)
  cases hms
  obtain ⟨_, hv, _, rfl, entries, hentries, rfl⟩ := hcomponents.schemas
  cases hroot.symm.trans hv
  have hnames : definitions.keys = entries.map (·.1) := by
    rw [Members.keys, ← List.forall₂_eq_eq_eq, List.forall₂_map_left_iff,
      List.forall₂_map_right_iff]
    exact hentries.imp fun _ _ h => h.1
  have hentry (name : String) (s : Schema) : Keyed.get? name (Keyed.ofList entries) = some s ↔
      (name, s) ∈ entries :=
    Keyed.get?_ofList_eq_some_iff (hnames ▸ hkeys)
  refine ⟨fun name d hd => ?_, fun name s => ?_⟩
  · rw [Members.get?_eq_some_iff hkeys] at hd
    obtain ⟨e, -, -, hs⟩ := exists_mem_of_forall₂ hentries.flip hd
    exact ⟨e.2, hs⟩
  · rw [hentry]
    constructor
    · intro he
      obtain ⟨⟨_, d⟩, hd, rfl, hs⟩ := exists_mem_of_forall₂ hentries he
      exact ⟨d, (Members.get?_eq_some_iff hkeys).2 hd, hs⟩
    · rintro ⟨d, hd, hs⟩
      obtain ⟨⟨_, s'⟩, he, rfl, hs'⟩ :=
        exists_mem_of_forall₂ hentries.flip ((Members.get?_eq_some_iff hkeys).1 hd)
      exact hs.unique hs' ▸ he

/-- **Resolving references is inlining**: a node is read against the components of a document as it
is read, with every reference to one of them replaced by its definition, against none. -/
theorem ofJson_inline_iff {root : Members}
    (hroot : root.get? "schemas" = some (.object definitions)) (hkeys : definitions.keys.Nodup)
    (h : componentsOf (some (.object root)) = .ok components) (p : Location) (v : Json)
    (c : Schema) : ofJson components p v = .ok c ↔ ofJson [] p (inline definitions v) = .ok c :=
  ofJson_inline (defines_of_componentsOf hroot hkeys h)

/-! A list of a component, or null. -/

/-- An object with a name. -/
def petDefinition : Json :=
  .object [("type", .string "object"),
    ("properties", .object [("name", .object [("type", .string "string")])])]

/-- What the definition is read as. -/
def petSchema : Schema := .object [("name", .string {})] [] (.allowed false)

/-- A reference to the component `Pet`. -/
def petReference : Json := .object [("$ref", .string "#/components/schemas/Pet")]

/-- A list of some items, or null. -/
def nullableListOf (items : Json) : Json :=
  .object [("type", .string "array"), ("items", items), ("nullable", .bool true)]

/-- The definition is read as an object with a name. -/
theorem ofJson_petDefinition (p : Location) : ofJson [] p petDefinition = .ok petSchema := by
  rw [petDefinition,
    @ofJson_of_object _ _ _ [("name", .object [("type", .string "string")])] [] (.allowed false)
    none rfl, ofProperties, ofProperties, ofJson_string]
  rfl

/-- The components of a document that defines `Pet` alone. -/
theorem componentsOf_petDefinition :
    componentsOf (some (.object [("schemas", .object [("Pet", petDefinition)])])) =
      .ok [("Pet", petSchema)] := by
  refine componentsOf_eq_ok_iff.2
    (.given ⟨_, rfl, ⟨by decide, by decide⟩, _, rfl, _, rfl, [("Pet", petSchema)], ?_, rfl⟩)
  exact .cons ⟨rfl, declaredBy_of_ofJson (ofJson_petDefinition "")⟩ .nil

/-- A list of references is read as the list of what they refer to. -/
theorem ofJson_petReference_list :
    ofJson [("Pet", petSchema)] "" (nullableListOf petReference) =
      .ok (.oneOf [.array petSchema, .null]) := by
  refine (@ofJson_inline_iff _ [("Pet", petDefinition)] _ rfl (by decide)
    componentsOf_petDefinition "" (nullableListOf petReference) _).2 ?_
  have hreference : inline [("Pet", petDefinition)] petReference = petDefinition := by
    rw [petReference, inline_object]
    rfl
  have hlist : inline [("Pet", petDefinition)] (nullableListOf petReference) =
      nullableListOf petDefinition := by
    rw [nullableListOf, inline_object]
    exact congrArg nullableListOf hreference
  rw [hlist, nullableListOf, @ofJson_of_array _ _ _ petDefinition (some (.bool true)) rfl,
    ofJson_petDefinition]
  rfl

end Schema

end ApiContract
