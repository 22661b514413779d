import ApiContract.Proofs.Document.Schemas
import ApiContract.Proofs.Keyed
import ApiContract.Proofs.Schema.Conformance
import ApiContract.Proofs.Schema.Grammar

/-!
# Proofs/Schema/Normal — canonical schemas are in normal form

In a schema that is read, an object requires only what it declares, and null stands in one place
only: beside an object or an array, as the second branch of a union of two (`Schema.IsNormal`).
Reading keeps that from the components to whatever is read against them (`isNormal_of_declaredBy`),
since a reference stands for a component as a whole, and null is added by `nullable` alone, which
only a node of a type has.
-/

namespace ApiContract.Schema

/-! ## The normal form -/

/-- The schemas right below a schema. -/
def subschemas : Schema → List Schema
  | object properties _ (.allowed _) => properties.map (·.2)
  | object properties _ (.schema s) => s :: properties.map (·.2)
  | array items => [items]
  | oneOf branches => branches
  | _ => []

/-- An object or an array: what becomes a union when it is to accept null. -/
def IsCompound : Schema → Prop
  | object _ _ _ | array _ => True
  | _ => False

/-- An object requires only names of its properties. -/
def RequiresDeclared : Schema → Prop
  | object properties required _ => ∀ name ∈ required, name ∈ properties.map (·.1)
  | _ => True

/-- Null stands right below a schema only as the second of its two branches, beside an object or an
array. -/
def PlacesNull (s : Schema) : Prop := null ∈ s.subschemas → ∃ a, a.IsCompound ∧ s = oneOf [a, null]

/-- **A schema in normal form**: it is not null, and at every depth an object requires only what it
declares and null is the second of two branches, the first being an object or an array. -/
structure IsNormal (c : Schema) : Prop where
  ne_null : c ≠ null
  required : ∀ s : Schema, s.Within c → s.RequiresDeclared
  null : ∀ s : Schema, s.Within c → s.PlacesNull

variable {s c : Schema} {properties : List (String × Schema)} {required : List String}
  {additional : Additional Schema}

/-- Right below an object stand its properties, and the schema beside them if there is one. -/
theorem mem_subschemas_object_iff :
    s ∈ (object properties required additional).subschemas ↔
      additional = .schema s ∨ ∃ q ∈ properties, q.2 = s := by
  cases additional with
  | allowed => exact List.mem_map.trans (or_iff_right nofun).symm
  | schema t =>
    refine List.mem_cons.trans (or_congr ?_ List.mem_map)
    rw [Additional.schema.injEq, eq_comm]

/-- A schema at some depth is the schema itself, or at some depth of one right below it. -/
theorem within_iff : s.Within c ↔ s = c ∨ ∃ b ∈ c.subschemas, s.Within b := by
  constructor
  · intro h
    cases h with
    | refl => exact .inl rfl
    | property hm h => exact .inr ⟨_, mem_subschemas_object_iff.2 (.inr ⟨_, hm, rfl⟩), h⟩
    | additional h => exact .inr ⟨_, List.mem_cons_self, h⟩
    | items h => exact .inr ⟨_, List.mem_singleton_self _, h⟩
    | branch hm h => exact .inr ⟨_, hm, h⟩
  · rintro (rfl | ⟨b, hb, h⟩)
    · exact .refl
    · cases c with
      | object =>
        rcases mem_subschemas_object_iff.1 hb with rfl | ⟨⟨name, _⟩, hq, rfl⟩
        · exact .additional h
        · exact .property hq h
      | array =>
        obtain rfl := List.mem_singleton.1 hb
        exact .items h
      | oneOf => exact .branch hb h
      | _ => cases hb

/-- A schema is in normal form when those right below it are, and it requires what it declares. -/
theorem IsNormal.of_subschemas (hne : c ≠ Schema.null) (hr : c.RequiresDeclared)
    (hb : ∀ b ∈ c.subschemas, b.IsNormal) : c.IsNormal where
  ne_null := hne
  required s hs := by
    rcases within_iff.1 hs with rfl | ⟨b, hmem, hs⟩
    · exact hr
    · exact (hb b hmem).required s hs
  null s hs := by
    rcases within_iff.1 hs with rfl | ⟨b, hmem, hs⟩
    · exact fun hnull => absurd rfl (hb _ hnull).ne_null
    · exact (hb b hmem).null s hs

theorem IsNormal.object (hr : ∀ name ∈ required, name ∈ properties.map (·.1))
    (hp : ∀ q ∈ properties, q.2.IsNormal) (ha : ∀ s, additional = .schema s → s.IsNormal) :
    (Schema.object properties required additional).IsNormal := by
  refine .of_subschemas nofun hr fun b hb => ?_
  rcases mem_subschemas_object_iff.1 hb with hs | ⟨q, hq, rfl⟩
  · exact ha b hs
  · exact hp q hq

/-- An array of schemas in normal form is in it. -/
theorem IsNormal.array {items : Schema} (h : items.IsNormal) : (Schema.array items).IsNormal :=
  .of_subschemas nofun trivial fun _ hb => List.mem_singleton.1 hb ▸ h

theorem IsNormal.oneOf {branches : List Schema} (h : ∀ b ∈ branches, b.IsNormal) :
    (Schema.oneOf branches).IsNormal :=
  .of_subschemas nofun trivial h

/-- The union of an object or an array with null is in normal form, though null alone is not. -/
theorem IsNormal.oneOf_null (hs : s.IsCompound) (h : s.IsNormal) :
    (Schema.oneOf [s, Schema.null]).IsNormal := by
  have within : ∀ r, r.Within (Schema.oneOf [s, Schema.null]) →
      r = Schema.oneOf [s, Schema.null] ∨ r.Within s ∨ r = Schema.null := by
    intro r hw
    refine (within_iff.1 hw).imp_right ?_
    rintro ⟨b, hb, hr⟩
    rcases List.mem_pair.1 hb with rfl | rfl
    · exact .inl hr
    · cases hr
      exact .inr rfl
  refine ⟨nofun, fun r hr => ?_, fun r hr => ?_⟩
  · rcases within r hr with rfl | hr | rfl
    · trivial
    · exact h.required r hr
    · trivial
  · rcases within r hr with rfl | hr | rfl
    · exact fun _ => ⟨s, hs, rfl⟩
    · exact h.null r hr
    · exact fun hb => nomatch hb

/-- What is made to accept null stays in normal form, but for a union. -/
theorem IsNormal.orNull (h : s.IsNormal) (hs : ∀ branches, s ≠ Schema.oneOf branches) :
    s.orNull.IsNormal := by
  cases s with
  | object => exact h.oneOf_null trivial
  | array => exact h.oneOf_null trivial
  | oneOf branches => exact absurd rfl (hs branches)
  | null => exact absurd rfl h.ne_null
  | string => exact .of_subschemas nofun trivial nofun
  | integer => exact .of_subschemas nofun trivial nofun
  | boolean => exact .of_subschemas nofun trivial nofun
  | float => exact .of_subschemas nofun trivial nofun

/-- The flag `nullable` keeps the normal form, but for a union. -/
theorem IsNormal.nulled {nullable : Option Json} (h : s.IsNormal)
    (hs : ∀ branches, s ≠ Schema.oneOf branches) (hc : Nulled nullable s c) : c.IsNormal := by
  cases hc with
  | absent => exact h
  | null => exact h
  | off => exact h
  | on hnull =>
    obtain rfl := withNull_iff.1 hnull
    exact h.orNull hs

/-! ## What is read is in normal form -/

variable {components : Components} {ms : Members} {nullable : Option Json}

/-- A primitive schema has none below it, and is not null. -/
theorem isNormal_of_primitive (h : (Node.typed (.primitive s) nullable).DeclaredBy ms) :
    s.IsNormal ∧ ∀ branches, s ≠ oneOf branches := by
  cases h with
  | typed _ hn =>
    cases hn with
    | string => exact ⟨.of_subschemas nofun trivial nofun, nofun⟩
    | integer => exact ⟨.of_subschemas nofun trivial nofun, nofun⟩
    | boolean => exact ⟨.of_subschemas nofun trivial nofun, nofun⟩
    | float => exact ⟨.of_subschemas nofun trivial nofun, nofun⟩

/-- What a node requires is among its properties, as they are written into a map. -/
theorem required_of_declaredBy {declared : Members} {beside : Additional Json}
    (h : (Node.typed (.object declared required beside) nullable).DeclaredBy ms)
    (hp : PropertiesDeclaredBy components declared properties) :
    ∀ name ∈ required, name ∈ (Keyed.ofList properties).map (·.1) := by
  have hnames : declared.keys = properties.map (·.1) :=
    Members.keys_eq_of_forall₂ ((propertiesDeclaredBy_iff.1 hp).imp fun _ _ h => h.1)
  intro name hname
  rw [Keyed.mem_keys_ofList, ← hnames]
  cases h with
  | typed _ hn =>
    cases hn with
    | object _ _ hr _ =>
      generalize ms.get? "required" = place at hr
      cases hr with
      | absent => cases hname
      | listed hr =>
        obtain ⟨v, hv, rfl⟩ := List.mem_map.1 (Keyed.mem_keysOf.1 hname)
        exact hr v hv

/-- **Reading keeps the normal form**, from the components to whatever is read against them. -/
theorem isNormal_of_declaredBy (h : ∀ q ∈ components, q.2.IsNormal) {v : Json}
    (hc : DeclaredBy components v c) : c.IsNormal := by
  refine hc.keeps h .oneOf (fun hn hc => ?_) (fun hi hc => (IsNormal.array hi).nulled nofun hc)
    fun hn hp hproperties hadditional hc => ?_
  · obtain ⟨hnormal, hunion⟩ := isNormal_of_primitive hn
    exact hnormal.nulled hunion hc
  · have hbelow : ∀ q ∈ Keyed.ofList _, IsNormal q.2 :=
      fun q hq => hproperties q (Keyed.mem_of_mem_ofList hq)
    exact (IsNormal.object (required_of_declaredBy hn hp) hbelow hadditional).nulled nofun hc

/-- **Canonical schemas are in normal form**: every schema of a body in a contract that is read, and
whatever is read, at any place, against components that are. -/
theorem isNormal_of_ofJson :
    (∀ (document : Json) (contract : Contract), Contract.ofJson document = .ok contract →
      ∀ s ∈ contract.bodySchemas, s.IsNormal) ∧
    ∀ (components : Components) (p : Location) (v : Json) (c : Schema),
      (∀ q ∈ components, q.2.IsNormal) → ofJson components p v = .ok c → c.IsNormal := by
  constructor
  · intro document contract hc s hs
    exact Contract.of_mem_bodySchemas (fun _ _ _ h hs => isNormal_of_declaredBy h hs) hc hs
  · intro components p v c h hc
    exact isNormal_of_declaredBy h (declaredBy_of_ofJson hc)

/-! An object that requires its one property, or null. -/

/-- The node of such an object. -/
def nullableNamed : Json :=
  .object [("type", .string "object"),
    ("properties", .object [("name", .object [("type", .string "string")])]),
    ("required", .array [.string "name"]), ("nullable", .bool true)]

/-- What it is read as. -/
def namedOrNull : Schema := .oneOf [.object [("name", .string {})] ["name"] (.allowed false), .null]

/-- The object is in a union with null. -/
theorem ofJson_nullableNamed (p : Location) :
    ofJson components p nullableNamed = .ok namedOrNull := by
  rw [nullableNamed, @ofJson_of_object _ _ _ [("name", .object [("type", .string "string")])]
    ["name"] (.allowed false) (some (.bool true)) rfl, ofProperties, ofProperties, ofJson_string]
  rfl

/-- A union of a reference to it. -/
def namedUnion : Json :=
  .object [("oneOf", .array [.object [("$ref", .string ("#/components/schemas/" ++ "Named"))]])]

/-- The schema stands in a body, and the union is read against it as a component. -/
theorem namedOrNull_isNormal :
    Contract.ofJson (bodyDocument nullableNamed) = .ok ⟨[newPetPath namedOrNull]⟩ ∧
      namedOrNull.IsNormal ∧
      ofJson [("Named", namedOrNull)] "/s" namedUnion = .ok (.oneOf [namedOrNull]) ∧
      (Schema.oneOf [namedOrNull]).IsNormal := by
  have hbody := ofJson_bodyDocument (declaredBy_of_ofJson (ofJson_nullableNamed ""))
  have hnamed : namedOrNull.IsNormal := isNormal_of_ofJson.1 _ _ hbody _ List.mem_cons_self
  have hreference :
      DeclaredBy [("Named", namedOrNull)]
        (.object [("$ref", .string ("#/components/schemas/" ++ "Named"))]) namedOrNull :=
    .reference (.reference (.of_checkKeys rfl) rfl) rfl
  have hunion : ofJson [("Named", namedOrNull)] "/s" namedUnion = .ok (.oneOf [namedOrNull]) :=
    ofJson_of_declaredBy (.union (.union (.of_checkKeys rfl) rfl) (.cons hreference .nil)) "/s"
  exact ⟨hbody, hnamed, hunion,
    isNormal_of_ofJson.2 _ _ _ _ (List.forall_mem_singleton.2 hnamed) hunion⟩

end ApiContract.Schema
