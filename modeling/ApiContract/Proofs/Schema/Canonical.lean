import ApiContract.Proofs.Schema.Form
import ApiContract.Schema.Canonical

/-!
# Proofs/Schema/Canonical — the canonical form of a schema node

`Schema.DeclaredBy` is the grammar of schema nodes, each rule with the canonical schema it gives: a
reference gives its component, the other forms are built from the schemas below them, and `nullable`
adds null.  `Schema.ofJson_eq_ok_iff_declaredBy` is the main statement: a node is read, at any
place, exactly when the grammar has it, and gives what the grammar says.
-/

namespace ApiContract

variable {p : Location} {ms : Members} {components : Components}

/-- **A schema that accepts null as well**: a primitive one has a flag for it, any other is a branch
beside null, and null itself stays. -/
inductive Schema.WithNull : Schema → Schema → Prop
  | string {rules : StringRules} :
    WithNull (.string rules) (.string { rules with acceptsNull := true })
  | integer {rules : Choice Signed64} :
    WithNull (.integer rules) (.integer { rules with acceptsNull := true })
  | boolean {rules : Choice Bool} :
    WithNull (.boolean rules) (.boolean { rules with acceptsNull := true })
  | float {rules : Choice Binary64} :
    WithNull (.float rules) (.float { rules with acceptsNull := true })
  | null : WithNull .null .null
  | array {items : Schema} : WithNull (.array items) (.oneOf [.array items, .null])
  | object {properties : List (String × Schema)} {required : List String}
    {additional : Additional Schema} :
    WithNull (.object properties required additional)
      (.oneOf [.object properties required additional, .null])
  | oneOf {branches : List Schema} : WithNull (.oneOf branches) (.oneOf [.oneOf branches, .null])

/-- What the flag `nullable` makes of a schema: absent, null and false leave it as it is, and true
lets it accept null. -/
inductive Schema.Nulled : Option Json → Schema → Schema → Prop
  | absent {s : Schema} : Nulled none s s
  | null {s : Schema} : Nulled (some .null) s s
  | off {s : Schema} : Nulled (some (.bool false)) s s
  | on {s c : Schema} (h : s.WithNull c) : Nulled (some (.bool true)) s c

mutual

/-- **The grammar of schema nodes**: the canonical schema that a node declares. -/
inductive Schema.DeclaredBy (components : Components) : Json → Schema → Prop
  | reference {ms : Members} {name : String} {s : Schema}
    (hn : (Node.reference (.string ("#/components/schemas/" ++ name))).DeclaredBy ms)
    (hs : Keyed.get? name components = some s) :
    DeclaredBy components (.object ms) s
  | union {ms : Members} {branches : List Json} {ss : List Schema}
    (hn : (Node.union branches).DeclaredBy ms)
    (hb : BranchesDeclaredBy components branches ss) :
    DeclaredBy components (.object ms) (.oneOf ss)
  | primitive {ms : Members} {s c : Schema} {nullable : Option Json}
    (hn : (Node.typed (.primitive s) nullable).DeclaredBy ms)
    (hc : Nulled nullable s c) :
    DeclaredBy components (.object ms) c
  | array {ms : Members} {v : Json} {items c : Schema} {nullable : Option Json}
    (hn : (Node.typed (.array v) nullable).DeclaredBy ms)
    (hi : DeclaredBy components v items)
    (hc : Nulled nullable (.array items) c) :
    DeclaredBy components (.object ms) c
  | object {ms declared : Members} {required : List String} {beside : Additional Json}
    {additional : Additional Schema} {properties : List (String × Schema)} {c : Schema}
    {nullable : Option Json}
    (hn : (Node.typed (.object declared required beside) nullable).DeclaredBy ms)
    (ha : AdditionalDeclaredBy components beside additional)
    (hp : PropertiesDeclaredBy components declared properties)
    (hc : Nulled nullable (.object (Keyed.ofList properties) required additional) c) :
    DeclaredBy components (.object ms) c

/-- What stands beside the properties: a flag, or a schema node. -/
inductive Schema.AdditionalDeclaredBy (components : Components) :
    Additional Json → Additional Schema → Prop
  | allowed {flag : Bool} : AdditionalDeclaredBy components (.allowed flag) (.allowed flag)
  | schema {v : Json} {s : Schema} (hs : DeclaredBy components v s) :
    AdditionalDeclaredBy components (.schema v) (.schema s)

/-- The branches of a union, in order. -/
inductive Schema.BranchesDeclaredBy (components : Components) : List Json → List Schema → Prop
  | nil : BranchesDeclaredBy components [] []
  | cons {v : Json} {s : Schema} {vs : List Json} {ss : List Schema}
    (hs : DeclaredBy components v s) (hss : BranchesDeclaredBy components vs ss) :
    BranchesDeclaredBy components (v :: vs) (s :: ss)

/-- The properties of an object, in order. -/
inductive Schema.PropertiesDeclaredBy (components : Components) :
    List (String × Json) → List (String × Schema) → Prop
  | nil : PropertiesDeclaredBy components [] []
  | cons {name : String} {v : Json} {s : Schema} {ms : Members} {ss : List (String × Schema)}
    (hs : DeclaredBy components v s) (hss : PropertiesDeclaredBy components ms ss) :
    PropertiesDeclaredBy components ((name, v) :: ms) ((name, s) :: ss)

end

/-! ## Reading a node, form by form

`Schema.ofJson` on an object is what its form says, once the form is known. -/

namespace Node

/-- What is left of a text after a prefix. -/
theorem dropPrefix?_eq_some_iff {cs ds rest : List Char} :
    resolve.dropPrefix? cs ds = some rest ↔ ds = cs ++ rest := by
  induction cs generalizing ds with
  | nil => simp [resolve.dropPrefix?]
  | cons c cs ih =>
    cases ds with
    | nil => simp [resolve.dropPrefix?]
    | cons d ds =>
      rw [resolve.dropPrefix?, List.cons_append, List.cons.injEq]
      split_ifs with h
      · rw [ih, and_iff_right h.symm]
      · exact iff_of_false nofun fun e => h e.1.symm

/-- A reference is good when it names a component. -/
theorem resolve_eq_ok_iff {target : Json} {s : Schema} :
    resolve components p target = .ok s ↔
      ∃ name, target = .string ("#/components/schemas/" ++ name) ∧
        Keyed.get? name components = some s := by
  unfold resolve
  constructor
  · intro h
    split at h
    next => exact absurd h refuse_ne_ok
    next name hn =>
      obtain ⟨text, ht, hn⟩ := Option.bind_eq_some_iff.1 hn
      obtain ⟨rest, hd, rfl⟩ := Option.map_eq_some_iff.1 hn
      obtain rfl := Json.asString?_eq_some_iff.1 ht
      split at h
      next s hs =>
        cases h
        refine ⟨_, congrArg Json.string ?_, hs⟩
        rw [← String.toList_inj, String.toList_append, dropPrefix?_eq_some_iff.1 hd]
        exact congrArg _ String.toList_ofList.symm
      next => exact absurd h refuse_ne_ok
  · rintro ⟨name, rfl, hs⟩
    have hd : resolve.dropPrefix? "#/components/schemas/".toList
        ("#/components/schemas/" ++ name).toList = some name.toList := by
      rw [dropPrefix?_eq_some_iff, String.toList_append]
    simp only [Json.asString?, Option.bind_some, hd, Option.map_some, String.ofList_toList, hs]

end Node

namespace Schema

/-- Null is added to every schema, in one way. -/
theorem withNull_iff {s c : Schema} : s.WithNull c ↔ s.orNull = c := by
  constructor
  · intro h
    cases h <;> rfl
  · rintro rfl
    cases s with
    | object => exact .object
    | array => exact .array
    | string => exact .string
    | integer => exact .integer
    | boolean => exact .boolean
    | float => exact .float
    | null => exact .null
    | oneOf => exact .oneOf

/-- The flag `nullable` is read as the grammar has it. -/
theorem finish_eq_ok_iff {nullable : Option Json} {s c : Schema} :
    finish p nullable s = .ok c ↔ Nulled nullable s c := by
  unfold finish Node.isNullable
  constructor
  · intro h
    obtain ⟨flag, hf, rfl⟩ := Checked.map_eq_ok.1 h
    split at hf
    next => cases hf; exact .absent
    next => cases hf; exact .null
    next =>
      cases hf
      cases flag with
      | false => exact .off
      | true => exact .on (withNull_iff.2 rfl)
    next => exact absurd hf refuse_ne_ok
  · intro h
    cases h with
    | absent => rfl
    | null => rfl
    | off => rfl
    | on h => exact congrArg Except.ok (withNull_iff.1 h)

/-- The reading of an object whose own checks refuse it. -/
theorem ofJson_of_error {d : Defect} (h : Node.ofMembers p ms = .error d) :
    ofJson components p (.object ms) = .error d := by
  rw [ofJson]
  split <;> simp_all

/-- A reference is looked up among the components. -/
theorem ofJson_of_reference {target : Json} (h : Node.ofMembers p ms = .ok (.reference target)) :
    ofJson components p (.object ms) = Node.resolve components p target := by
  rw [ofJson]
  split <;> simp_all

/-- A union is read branch by branch. -/
theorem ofJson_of_union {branches : List Json} (h : Node.ofMembers p ms = .ok (.union branches)) :
    ofJson components p (.object ms) = (ofBranches components p 0 branches).map .oneOf := by
  rw [ofJson]
  split <;> simp_all

/-- A primitive node is its own canonical form, but for null. -/
theorem ofJson_of_primitive {s : Schema} {nullable : Option Json}
    (h : Node.ofMembers p ms = .ok (.typed (.primitive s) nullable)) :
    ofJson components p (.object ms) = finish p nullable s := by
  rw [ofJson]
  split <;> simp_all

/-- The node of a string of which nothing is said. -/
theorem ofJson_string (p : Location) :
    ofJson components p (.object [("type", .string "string")]) = .ok (.string {}) :=
  have hnode : Node.ofMembers p [("type", .string "string")] =
      .ok (.typed (.primitive (.string {})) none) := rfl
  ofJson_of_primitive hnode

/-- An array is read as that of its items, then made to accept null where it says so. -/
theorem ofJson_of_array {items : Json} {nullable : Option Json}
    (h : Node.ofMembers p ms = .ok (.typed (.array items) nullable)) :
    ofJson components p (.object ms) =
      ofJson components (p.member "items") items >>= fun s => finish p nullable (.array s) := by
  rw [ofJson]
  split <;> simp_all

/-- What an object says of members it does not declare, read as schemas are. -/
def ofAdditional (components : Components) (p : Location) :
    Additional Json → Checked (Additional Schema)
  | .allowed flag => .ok (.allowed flag)
  | .schema v => (ofJson components (p.member "additionalProperties") v).map .schema

/-- An object is read from what stands beside its properties, then the properties, then null. -/
theorem ofJson_of_object {declared : Members} {required : List String} {beside : Additional Json}
    {nullable : Option Json}
    (h : Node.ofMembers p ms = .ok (.typed (.object declared required beside) nullable)) :
    ofJson components p (.object ms) =
      ofAdditional components p beside >>= fun additional =>
        ofProperties components p declared >>= fun properties =>
          finish p nullable (.object (Keyed.ofList properties) required additional) := by
  rw [ofJson]
  split <;> simp_all
  · obtain ⟨⟨rfl, rfl, rfl⟩, rfl⟩ := h
    rfl
  · obtain ⟨⟨rfl, rfl, rfl⟩, rfl⟩ := h
    rw [ofAdditional]
    cases ofJson components (p.member "additionalProperties") _ <;> rfl

/-- Only a node of some form is read. -/
theorem node_of_ofJson {c : Schema} (h : ofJson components p (.object ms) = .ok c) :
    ∃ node, Node.ofMembers p ms = .ok node := by
  cases hn : Node.ofMembers p ms with
  | ok node => exact ⟨node, rfl⟩
  | error d =>
    rw [ofJson] at h
    split at h <;> simp_all

/-- What is no object is no schema node. -/
theorem ofJson_ne_ok {v : Json} (hv : v.asObject? = none) {c : Schema} :
    ofJson components p v ≠ .ok c := by
  cases v <;> simp_all [ofJson, Json.asObject?]

/-! ## What is read is in the grammar

The induction is over the document: what stands below a node is smaller than it. -/

mutual

/-- **What is read is in the grammar**, at every depth. -/
theorem declaredBy_of_ofJson {p : Location} :
    ∀ {v : Json} {c : Schema}, ofJson components p v = .ok c → DeclaredBy components v c
  | .object ms, c, h => by
    obtain ⟨node, hn⟩ := node_of_ofJson h
    have below := Node.ofMembers_below hn
    have form := Node.ofMembers_eq_ok_iff.1 hn
    match node with
    | .reference target =>
      rw [ofJson_of_reference hn] at h
      obtain ⟨name, rfl, hs⟩ := Node.resolve_eq_ok_iff.1 h
      exact .reference form hs
    | .union branches =>
      have : sizeOf branches < sizeOf ms := below
      rw [ofJson_of_union hn] at h
      obtain ⟨ss, hb, rfl⟩ := Checked.map_eq_ok.1 h
      exact .union form (branchesDeclaredBy_of_ofBranches hb)
    | .typed (.primitive s) nullable =>
      rw [ofJson_of_primitive hn] at h
      exact .primitive form (finish_eq_ok_iff.1 h)
    | .typed (.array items) nullable =>
      have : sizeOf items < sizeOf ms := below
      rw [ofJson_of_array hn] at h
      obtain ⟨s, hi, hc⟩ := Checked.bind_eq_ok.1 h
      exact .array form (declaredBy_of_ofJson hi) (finish_eq_ok_iff.1 hc)
    | .typed (.object declared required beside) nullable =>
      have : sizeOf declared < sizeOf ms := below.1
      rw [ofJson_of_object hn] at h
      obtain ⟨additional, ha, h⟩ := Checked.bind_eq_ok.1 h
      obtain ⟨properties, hp, hc⟩ := Checked.bind_eq_ok.1 h
      refine .object form ?_ (propertiesDeclaredBy_of_ofProperties hp) (finish_eq_ok_iff.1 hc)
      match beside with
      | .allowed flag =>
        cases ha
        exact .allowed
      | .schema w =>
        have : sizeOf w < sizeOf ms := below.2 w rfl
        obtain ⟨s, hs, rfl⟩ := Checked.map_eq_ok.1 ha
        exact .schema (declaredBy_of_ofJson hs)
  | .null, _, h => absurd h (ofJson_ne_ok rfl)
  | .bool _, _, h => absurd h (ofJson_ne_ok rfl)
  | .number _, _, h => absurd h (ofJson_ne_ok rfl)
  | .string _, _, h => absurd h (ofJson_ne_ok rfl)
  | .array _, _, h => absurd h (ofJson_ne_ok rfl)
termination_by v => sizeOf v

/-- The branches that are read are those of the grammar. -/
theorem branchesDeclaredBy_of_ofBranches {p : Location} :
    ∀ {i : Nat} {vs : List Json} {ss : List Schema},
      ofBranches components p i vs = .ok ss → BranchesDeclaredBy components vs ss
  | _, [], ss, h => by
    rw [ofBranches] at h
    cases h
    exact .nil
  | i, v :: vs, ss, h => by
    simp only [ofBranches, Checked.bind_eq_ok, Checked.pure_eq_ok] at h
    obtain ⟨s, hs, rest, hrest, rfl⟩ := h
    exact .cons (declaredBy_of_ofJson hs) (branchesDeclaredBy_of_ofBranches hrest)
termination_by _ vs => sizeOf vs

/-- The properties that are read are those of the grammar. -/
theorem propertiesDeclaredBy_of_ofProperties {p : Location} :
    ∀ {ms : List (String × Json)} {ss : List (String × Schema)},
      ofProperties components p ms = .ok ss → PropertiesDeclaredBy components ms ss
  | [], ss, h => by
    rw [ofProperties] at h
    cases h
    exact .nil
  | (name, v) :: ms, ss, h => by
    simp only [ofProperties, Checked.bind_eq_ok, Checked.pure_eq_ok] at h
    obtain ⟨s, hs, rest, hrest, rfl⟩ := h
    exact .cons (declaredBy_of_ofJson hs) (propertiesDeclaredBy_of_ofProperties hrest)
termination_by ms => sizeOf ms

end

/-! ## What is in the grammar is read

The induction is over the derivation; the place is any, as it has no part in the grammar. -/

mutual

/-- **What is in the grammar is read**, wherever it stands. -/
theorem ofJson_of_declaredBy {v : Json} {c : Schema} :
    DeclaredBy components v c → ∀ p, ofJson components p v = .ok c
  | .reference hn hs, p => by
    rw [ofJson_of_reference (Node.ofMembers_eq_ok_iff.2 hn)]
    exact Node.resolve_eq_ok_iff.2 ⟨_, rfl, hs⟩
  | .union hn hb, p => by
    rw [ofJson_of_union (Node.ofMembers_eq_ok_iff.2 hn)]
    exact Checked.map_eq_ok.2 ⟨_, ofBranches_of_branchesDeclaredBy hb p 0, rfl⟩
  | .primitive hn hc, p => by
    rw [ofJson_of_primitive (Node.ofMembers_eq_ok_iff.2 hn)]
    exact finish_eq_ok_iff.2 hc
  | .array hn hi hc, p => by
    rw [ofJson_of_array (Node.ofMembers_eq_ok_iff.2 hn)]
    exact Checked.bind_eq_ok.2 ⟨_, ofJson_of_declaredBy hi _, finish_eq_ok_iff.2 hc⟩
  | .object hn ha hp hc, p => by
    rw [ofJson_of_object (Node.ofMembers_eq_ok_iff.2 hn)]
    refine Checked.bind_eq_ok.2 ⟨_, ofAdditional_of_declaredBy ha p, ?_⟩
    exact Checked.bind_eq_ok.2 ⟨_, ofProperties_of_propertiesDeclaredBy hp p, finish_eq_ok_iff.2 hc⟩

/-- So is what stands beside the properties. -/
theorem ofAdditional_of_declaredBy {beside : Additional Json} {additional : Additional Schema} :
    AdditionalDeclaredBy components beside additional →
      ∀ p, ofAdditional components p beside = .ok additional
  | .allowed, _ => rfl
  | .schema hs, p => Checked.map_eq_ok.2 ⟨_, ofJson_of_declaredBy hs _, rfl⟩

/-- So are the branches of a union. -/
theorem ofBranches_of_branchesDeclaredBy {vs : List Json} {ss : List Schema} :
    BranchesDeclaredBy components vs ss → ∀ p i, ofBranches components p i vs = .ok ss
  | .nil, _, _ => by rw [ofBranches]
  | .cons hs hss, p, i => by
    rw [ofBranches]
    refine Checked.bind_eq_ok.2 ⟨_, ofJson_of_declaredBy hs _, ?_⟩
    exact Checked.bind_eq_ok.2 ⟨_, ofBranches_of_branchesDeclaredBy hss p (i + 1), rfl⟩

/-- So are the properties of an object. -/
theorem ofProperties_of_propertiesDeclaredBy {ms : List (String × Json)}
    {ss : List (String × Schema)} :
    PropertiesDeclaredBy components ms ss → ∀ p, ofProperties components p ms = .ok ss
  | .nil, _ => by rw [ofProperties]
  | .cons hs hss, p => by
    rw [ofProperties]
    refine Checked.bind_eq_ok.2 ⟨_, ofJson_of_declaredBy hs _, ?_⟩
    exact Checked.bind_eq_ok.2 ⟨_, ofProperties_of_propertiesDeclaredBy hss p, rfl⟩

end

/-- **A node is read exactly when the grammar has it**, at any place and against any components, and
gives the schema that the grammar gives. -/
theorem ofJson_eq_ok_iff_declaredBy (components : Components) (p : Location) (v : Json)
    (c : Schema) : ofJson components p v = .ok c ↔ DeclaredBy components v c :=
  ⟨declaredBy_of_ofJson, fun h => ofJson_of_declaredBy h p⟩

end Schema

end ApiContract
