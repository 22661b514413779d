import ApiContract.Proofs.Document.Body
import ApiContract.Proofs.Json.Reader
import ApiContract.Proofs.Schema.Conformance
import ApiContract.Proofs.Schema.Grammar

/-!
# Proofs/Schema/Keeping — a schema keeps every property

`Members.Corresponds` relates the members of an object, one to one, to what was read of them.
**`Schema.DeclaredBy.kept`**: every node at some depth that has properties is an object of the
canonical schema, every object of the canonical schema is such a node or stands in a component, and
the properties of the one are those of the other, each read from its own member.
-/

namespace ApiContract

/-! ## Members and what was read of them -/

section Corresponds

variable {β : Type} {ms : Members} {name : β → String} {Reads R : Json → β → Prop} {bs cs : List β}

/-- **Members and what was read of them, one to one**: under the name of each stands what it was
read from. -/
structure Members.Corresponds (name : β → String) (Reads : Json → β → Prop) (ms : Members)
    (bs : List β) : Prop where
  distinct : ms.keys.Nodup
  names : (bs.map name).Perm ms.keys
  reads : ∀ b ∈ bs, ∃ v, ms.get? (name b) = some v ∧ Reads v b

/-- **No member is lost or overwritten**: exactly one thing has its name, and was read from it. -/
theorem Members.Corresponds.exists_unique (h : ms.Corresponds name Reads bs) {key : String}
    {v : Json} (hv : ms.get? key = some v) :
    ∃ b ∈ bs, (name b = key ∧ Reads v b) ∧ ∀ b' ∈ bs, name b' = key → b' = b := by
  have hkey : key ∈ bs.map name := h.names.mem_iff.2 (Members.mem_keys_iff.2 ⟨v, hv⟩)
  obtain ⟨b, hb, rfl⟩ := List.mem_map.1 hkey
  obtain ⟨v', hv', hreads⟩ := h.reads b hb
  obtain rfl := Option.some.inj (hv.symm.trans hv')
  have hdistinct : (bs.map name).Nodup := h.names.nodup_iff.2 h.distinct
  exact ⟨b, hb, ⟨rfl, hreads⟩, fun b' hb' hname => List.inj_on_of_nodup_map hdistinct hb' hb hname⟩

theorem Members.Corresponds.imp (h : ms.Corresponds name Reads bs)
    (hR : ∀ v b, ms.get? (name b) = some v → Reads v b → R v b) : ms.Corresponds name R bs where
  distinct := h.distinct
  names := h.names
  reads b hb := by
    obtain ⟨v, hv, hreads⟩ := h.reads b hb
    exact ⟨v, hv, hR v b hv hreads⟩

/-- What is read of members in order corresponds to them, and so does any rearrangement of it. -/
theorem Members.Corresponds.of_forall₂ {R : String × Json → β → Prop} (hdistinct : ms.keys.Nodup)
    (h : List.Forall₂ R ms cs) (hname : ∀ m b, R m b → m.1 = name b)
    (hreads : ∀ m ∈ ms, ∀ b, R m b → Reads m.2 b) (hp : bs.Perm cs) :
    ms.Corresponds name Reads bs where
  distinct := hdistinct
  names := Members.keys_eq_of_forall₂ (h.imp hname) ▸ hp.map name
  reads b hb := by
    obtain ⟨⟨key, v⟩, hm, hr⟩ := exists_mem_of_forall₂ h (hp.mem_iff.1 hb)
    exact ⟨v, (Members.get?_eq_some_iff hdistinct).2 (hname _ _ hr ▸ hm), hreads _ hm b hr⟩

/-- **A map keeps every member**, as different members have different keys. -/
theorem Members.Map.corresponds {κ α : Type} [Ord κ] [Std.LawfulEqOrd κ] {name : κ → String}
    {R : κ → Json → α → Prop} {m : List (κ × α)} (hdistinct : ms.keys.Nodup) (h : ms.Map name R m) :
    ms.Corresponds (fun e => name e.1) (fun v e => R e.1 v e.2) m := by
  obtain ⟨entries, hentries, rfl⟩ := h
  have hnodup := Members.nodup_of_forall₂ hdistinct (hentries.imp fun _ _ h => h.1)
  have hname : ∀ (m : String × Json) (e : κ × α),
      (m.1 = name e.1 ∧ R e.1 m.2 e.2) → m.1 = name e.1 := fun _ _ h => h.1
  exact .of_forall₂ hdistinct hentries hname (fun _ _ _ h => h.2) (Keyed.perm_ofList hnodup)

end Corresponds

/-! ## Nodes at every depth -/

/-- The nodes that stand right below a node. -/
def Node.subnodes : Node → List Json
  | .union branches => branches
  | .typed (.array items) _ => [items]
  | .typed (.object declared _ (.schema v)) _ => v :: declared.map (·.2)
  | .typed (.object declared _ (.allowed _)) _ => declared.map (·.2)
  | _ => []

/-- **A schema node at some depth of another**: that node itself, or one below it. -/
inductive Json.NodeWithin (w : Json) : Json → Prop
  | refl : NodeWithin w w
  | subnode {v : Json} {ms : Members} {node : Node} (hn : node.DeclaredBy ms)
    (hv : v ∈ node.subnodes) (h : NodeWithin w v) : NodeWithin w (.object ms)

section Form

variable {ms : Members} {node node' : Node} {v : Json}

theorem Node.mem_subnodes_object_iff {declared : Members} {required : List String}
    {beside : Additional Json} {nullable : Option Json} :
    v ∈ (Node.typed (.object declared required beside) nullable).subnodes ↔
      beside = .schema v ∨ ∃ m ∈ declared, m.2 = v := by
  cases beside with
  | allowed => exact List.mem_map.trans (or_iff_right nofun).symm
  | schema w =>
    refine List.mem_cons.trans (or_congr ?_ List.mem_map)
    rw [Additional.schema.injEq, eq_comm]

/-- A node has one form. -/
theorem Node.DeclaredBy.unique (h : node.DeclaredBy ms) (h' : node'.DeclaredBy ms) :
    node = node' := by
  have hread : Node.ofMembers "" ms = .ok node := Node.ofMembers_eq_ok_iff.2 h
  exact Except.ok.inj (hread.symm.trans (Node.ofMembers_eq_ok_iff.2 h'))

/-- The keys of what stands right below a node are distinct if those of the node are. -/
theorem Node.DeclaredBy.hasDistinctKeys (h : node.DeclaredBy ms)
    (hd : (Json.object ms).HasDistinctKeys) (hv : v ∈ node.subnodes) : v.HasDistinctKeys := by
  cases h with
  | reference => cases hv
  | union _ hb => exact (hd.get? hb).element hv
  | typed _ hn =>
    cases hn with
    | array _ hi => exact List.mem_singleton.1 hv ▸ hd.get? hi
    | object _ hp _ ha =>
      rcases Node.mem_subnodes_object_iff.1 hv with rfl | ⟨m, hm, rfl⟩
      · generalize hplace : ms.get? "additionalProperties" = place at ha
        cases ha with
        | schema => exact hd.get? hplace
      · exact (hd.get? hp).member hm
    | string => cases hv
    | integer => cases hv
    | boolean => cases hv
    | float => cases hv

/-- Only a node of type object has properties. -/
theorem Node.DeclaredBy.exists_object (h : node.DeclaredBy ms) (hp : "properties" ∈ ms.keys) :
    ∃ declared required beside nullable,
      node = .typed (.object declared required beside) nullable ∧
        ms.get? "properties" = some (.object declared) := by
  cases h with
  | reference keys => exact absurd (keys.known _ hp) (by decide)
  | union keys => exact absurd (keys.known _ hp) (by decide)
  | typed _ hn =>
    cases hn with
    | object _ hp => exact ⟨_, _, _, _, rfl, hp⟩
    | array keys => exact absurd (keys.known _ hp) (by decide)
    | string keys => exact absurd (keys.known _ hp) (by decide)
    | integer keys => exact absurd (keys.known _ hp) (by decide)
    | boolean keys => exact absurd (keys.known _ hp) (by decide)
    | float keys => exact absurd (keys.known _ hp) (by decide)

theorem Node.DeclaredBy.get?_properties {declared : Members} {required : List String}
    {beside : Additional Json} {nullable : Option Json}
    (h : (Node.typed (.object declared required beside) nullable).DeclaredBy ms) :
    ms.get? "properties" = some (.object declared) := by
  cases h with
  | typed _ hn =>
    cases hn with
    | object _ hp => exact hp

end Form

/-- What is at some depth of a node below another is at some depth of that. -/
theorem Node.DeclaredBy.exists_nodeWithin {ms : Members} {node : Node} {v : Json}
    {P : Members → Prop} (hn : node.DeclaredBy ms) (hv : v ∈ node.subnodes) :
    (∃ ms', Json.NodeWithin (.object ms') v ∧ P ms') →
      ∃ ms', Json.NodeWithin (.object ms') (.object ms) ∧ P ms' := by
  rintro ⟨ms', h, hP⟩
  exact ⟨ms', .subnode hn hv h, hP⟩

/-! ## Objects and their nodes -/

namespace Schema

variable {components : Components} {v : Json} {c : Schema}

section Null

variable {properties : List (String × Schema)} {required : List String}
  {additional : Additional Schema}

/-- The objects in a schema or null are those in the schema. -/
theorem object_within_orNull_iff {s : Schema} :
    (object properties required additional).Within s.orNull ↔
      (object properties required additional).Within s := by
  have hunion : (object properties required additional).Within (oneOf [s, null]) ↔
      (object properties required additional).Within s := by
    constructor
    · intro h
      cases h with
      | branch hm h =>
        rcases List.mem_pair.1 hm with rfl | rfl
        · exact h
        · cases h
    · exact .branch List.mem_cons_self
  cases s with
  | object => exact hunion
  | array => exact hunion
  | oneOf => exact hunion
  | null => rfl
  | string => exact iff_of_false nofun nofun
  | integer => exact iff_of_false nofun nofun
  | boolean => exact iff_of_false nofun nofun
  | float => exact iff_of_false nofun nofun

/-- So are those in a schema with what the node says of null. -/
theorem Nulled.object_within_iff {nullable : Option Json} {s : Schema} (h : Nulled nullable s c) :
    (object properties required additional).Within c ↔
      (object properties required additional).Within s := by
  cases h with
  | absent => rfl
  | null => rfl
  | off => rfl
  | on h =>
    obtain rfl := withNull_iff.1 h
    exact object_within_orNull_iff

end Null

/-- **The properties of an object are those of a node**, each read from its own member. -/
def DeclaresProperties (components : Components) (ms : Members)
    (properties : List (String × Schema)) : Prop :=
  ∃ declared, ms.get? "properties" = some (.object declared) ∧
    Members.Corresponds Prod.fst (fun v q => ∀ p, ofJson components p v = .ok q.2) declared
      properties

/-- The properties a node of type object is read into are those it declares. -/
theorem declaresProperties_of_object {ms declared : Members} {required : List String}
    {beside : Additional Json} {nullable : Option Json} {properties : List (String × Schema)}
    (hd : (Json.object ms).HasDistinctKeys)
    (hn : (Node.typed (.object declared required beside) nullable).DeclaredBy ms)
    (hp : PropertiesDeclaredBy components declared properties) :
    DeclaresProperties components ms (Keyed.ofList properties) := by
  have hget := hn.get?_properties
  have hmap :
      Members.Map id (fun _ v s => DeclaredBy components v s) declared (Keyed.ofList properties) :=
    ⟨properties, propertiesDeclaredBy_iff.1 hp, rfl⟩
  exact ⟨declared, hget, (hmap.corresponds (hd.get? hget).keys).imp fun _ _ _ h =>
    ofJson_of_declaredBy h⟩

/-- Every object of the canonical schema is that of a node, or stands in a component. -/
theorem exists_node_of_object (h : DeclaredBy components v c) (hd : v.HasDistinctKeys)
    {properties : List (String × Schema)} {required : List String} {additional : Additional Schema}
    (hw : (object properties required additional).Within c) :
    (∃ q ∈ components, (object properties required additional).Within q.2) ∨
      ∃ ms, Json.NodeWithin (.object ms) v ∧ DeclaresProperties components ms properties := by
  induction h using DeclaredBy.induct with
  | reference hn hs =>
    obtain ⟨q, hq, -, rfl⟩ := Keyed.exists_mem_of_get? hs
    exact .inl ⟨q, hq, hw⟩
  | union hn hb ih =>
    cases hw with
    | branch hm hw =>
      obtain ⟨v, hv, _, ih⟩ := exists_mem_of_forall₂ ih hm
      exact (ih (hn.hasDistinctKeys hd hv) hw).imp_right (hn.exists_nodeWithin hv)
  | primitive hn hc =>
    have hw := hc.object_within_iff.1 hw
    cases hn with
    | typed _ hn => cases hn <;> cases hw
  | @array ms v _ _ _ hn hi hc ih =>
    have hv : v ∈ [v] := List.mem_singleton_self v
    cases hc.object_within_iff.1 hw with
    | items hw => exact (ih (hn.hasDistinctKeys hd hv) hw).imp_right (hn.exists_nodeWithin hv)
  | @object ms declared names beside _ _ _ nullable hn ha hp hc iha ihp =>
    -- the object right here is that of this node, any other one that of a node below
    cases hc.object_within_iff.1 hw with
    | refl => exact .inr ⟨ms, .refl, declaresProperties_of_object hd hn hp⟩
    | property hm hw =>
      obtain ⟨m, hm, -, _, ih⟩ := exists_mem_of_forall₂ ihp (Keyed.mem_of_mem_ofList hm)
      have hv : m.2 ∈ (Node.typed (.object declared names beside) nullable).subnodes :=
        Node.mem_subnodes_object_iff.2 (.inr ⟨m, hm, rfl⟩)
      exact (ih (hn.hasDistinctKeys hd hv) hw).imp_right (hn.exists_nodeWithin hv)
    | additional hw =>
      cases iha with
      | @schema v _ ih =>
        obtain ⟨_, ih⟩ := ih
        have hv : v ∈ (Node.typed (.object declared names (.schema v)) nullable).subnodes :=
          Node.mem_subnodes_object_iff.2 (.inl rfl)
        exact (ih (hn.hasDistinctKeys hd hv) hw).imp_right (hn.exists_nodeWithin hv)

/-- A node that has properties is an object. -/
theorem exists_object_of_properties {ms : Members} (h : DeclaredBy components (.object ms) c)
    (hd : (Json.object ms).HasDistinctKeys) (hms : "properties" ∈ ms.keys) :
    ∃ properties required additional,
      (object properties required additional).Within c ∧
        DeclaresProperties components ms properties := by
  have hread := ofJson_of_declaredBy h ""
  obtain ⟨node, hnode⟩ := node_of_ofJson hread
  have hn := Node.ofMembers_eq_ok_iff.1 hnode
  obtain ⟨declared, required, beside, nullable, rfl, -⟩ := hn.exists_object hms
  rw [ofJson_of_object hnode] at hread
  obtain ⟨additional, -, hread⟩ := Checked.bind_eq_ok.1 hread
  obtain ⟨properties, hp, hread⟩ := Checked.bind_eq_ok.1 hread
  have hwithin : (object (Keyed.ofList properties) required additional).Within c :=
    (finish_eq_ok_iff.1 hread).object_within_iff.2 .refl
  exact ⟨_, _, _, hwithin,
    declaresProperties_of_object hd hn (propertiesDeclaredBy_of_ofProperties hp)⟩

/-- What stands right below a node is read too, and its objects are objects of the whole. -/
theorem exists_of_subnode {ms : Members} (h : DeclaredBy components (.object ms) c)
    (hd : (Json.object ms).HasDistinctKeys) {node : Node} (hn : node.DeclaredBy ms)
    (hv : v ∈ node.subnodes) :
    ∃ s, DeclaredBy components v s ∧
      ∀ properties required additional, (object properties required additional).Within s →
        (object properties required additional).Within c := by
  cases h with
  | reference hn' =>
    obtain rfl := hn.unique hn'
    cases hv
  | union hn' hb =>
    obtain rfl := hn.unique hn'
    obtain ⟨s, hs, hread⟩ := exists_mem_right_of_forall₂ (branchesDeclaredBy_iff.1 hb) hv
    exact ⟨s, hread, fun _ _ _ hw => .branch hs hw⟩
  | primitive hn' =>
    obtain rfl := hn.unique hn'
    cases hv
  | array hn' hi hc =>
    obtain rfl := hn.unique hn'
    obtain rfl := List.mem_singleton.1 hv
    exact ⟨_, hi, fun _ _ _ hw => hc.object_within_iff.2 (.items hw)⟩
  | object hn' ha hp hc =>
    obtain rfl := hn.unique hn'
    rcases Node.mem_subnodes_object_iff.1 hv with rfl | ⟨m, hm, rfl⟩
    · cases ha with
      | schema hs => exact ⟨_, hs, fun _ _ _ hw => hc.object_within_iff.2 (.additional hw)⟩
    · have hforall := propertiesDeclaredBy_iff.1 hp
      have hdistinct := (hd.get? hn.get?_properties).keys
      have hnames := hforall.imp fun m q hm => (hm.1 : m.1 = id q.1)
      have hnodup := Members.nodup_of_forall₂ hdistinct hnames
      obtain ⟨q, hq, -, hread⟩ := exists_mem_right_of_forall₂ hforall hm
      have hmem := (Keyed.perm_ofList hnodup).mem_iff.2 hq
      exact ⟨q.2, hread, fun _ _ _ hw => hc.object_within_iff.2 (.property hmem hw)⟩

/-- Every node with properties is an object of the canonical schema. -/
theorem exists_object_of_node {ms : Members} (hw : Json.NodeWithin (.object ms) v)
    (h : DeclaredBy components v c) (hd : v.HasDistinctKeys) (hms : "properties" ∈ ms.keys) :
    ∃ properties required additional,
      (object properties required additional).Within c ∧
        DeclaresProperties components ms properties := by
  induction hw generalizing c with
  | refl => exact exists_object_of_properties h hd hms
  | subnode hn hv _ ih =>
    obtain ⟨s, hs, hwithin⟩ := exists_of_subnode h hd hn hv
    obtain ⟨properties, required, additional, ho, hproperties⟩ := ih hs (hn.hasDistinctKeys hd hv)
    exact ⟨properties, required, additional, hwithin _ _ _ ho, hproperties⟩

/-- **A schema is kept**: it is what the node is read as wherever it stands, and its objects are the
nodes with properties, those in components apart. -/
structure Kept (components : Components) (v : Json) (c : Schema) : Prop where
  read : ∀ p, ofJson components p v = .ok c
  objects : ∀ properties required additional, (object properties required additional).Within c →
    (∃ q ∈ components, (object properties required additional).Within q.2) ∨
      ∃ ms, Json.NodeWithin (.object ms) v ∧ DeclaresProperties components ms properties
  nodes : ∀ ms : Members, Json.NodeWithin (.object ms) v → "properties" ∈ ms.keys →
    ∃ properties required additional, (object properties required additional).Within c ∧
      DeclaresProperties components ms properties

/-- **Every schema that is read is kept.** -/
theorem DeclaredBy.kept (h : DeclaredBy components v c) (hd : v.HasDistinctKeys) :
    Kept components v c where
  read := ofJson_of_declaredBy h
  objects _ _ _ := exists_node_of_object h hd
  nodes _ hw := exists_object_of_node hw h hd

end Schema

end ApiContract
