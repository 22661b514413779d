import ApiContract.Document.Reader
import ApiContract.Proofs.Document.Operation
import ApiContract.Proofs.Keyed
import ApiContract.Proofs.Path.Specificity
import ApiContract.Proofs.Path.Template

/-!
# Proofs/Document/Reader — what a whole document declares

`Contract.DeclaredBy` relates the members of a document to its contract: the tags and components it
declares, and under them its paths in the order requests are matched.  `Contract.ofJson_eq_ok_iff`
says that a document is read exactly when it declares a contract.
-/

namespace ApiContract

variable {p : Location} {ms : Members} {v : Json} {components : Components} {tags : List String}

/-! ## Tags and components -/

/-- The name that the members of a tag declare. -/
structure Members.DeclaresName (ms : Members) (name : String) : Prop where
  keys : ms.KeysAre ["name", "description"] []
  name : (ms.get? "name").map Json.bare = some name

/-- The tags are the names of the tag objects, in order. -/
theorem tagsOf_eq_ok_iff {place : Option Json} :
    tagsOf place = .ok tags ↔
      Json.Optionally [] (Json.Items (Json.Record Members.DeclaresName)) place tags := by
  cases place with
  | none => rw [tagsOf, Json.optionally_none_iff, Except.ok.injEq, eq_comm]
  | some v =>
    simp only [tagsOf, Json.optionally_some_iff, Json.Items, Checked.bind_eq_ok,
      Json.expectArray_eq_ok_iff]
    refine exists_congr fun items => and_congr_right fun _ => ?_
    refine Checked.mapM_zipIdx_eq_ok_iff fun tag name => ?_
    simp only [Checked.bind_eq_ok, Checked.pure_eq_ok, Json.expectObject_eq_ok_iff,
      Members.checkKeys_eq_ok_iff, Members.fetch_eq_ok_iff, exists_const]
    refine exists_congr fun ms => and_congr_right fun _ => ?_
    rw [← Option.map_eq_some_iff]
    exact ⟨fun h => ⟨h.1, h.2⟩, fun h => ⟨h.keys, h.name⟩⟩

/-- The components of a document.  They are read against none, so none refers to another. -/
structure Members.DeclareComponents (ms : Members) (components : Components) : Prop where
  keys : ms.KeysAre ["schemas"] []
  schemas : ∃ v, ms.get? "schemas" = some v ∧
    v.Record (Members.Map id fun _ v s => Schema.DeclaredBy [] v s) components

/-- The components are read when they are declared, each against none. -/
theorem componentsOf_eq_ok_iff {place : Option Json} :
    componentsOf place = .ok components ↔
      Json.Optionally [] (Json.Record Members.DeclareComponents) place components := by
  cases place with
  | none => rw [componentsOf, Json.optionally_none_iff, Except.ok.injEq, eq_comm]
  | some v =>
    have key (schemas : Members) :
        (do
          let entries ← schemas.mapM fun m => do
            return (m.1, ← Schema.ofJson [] (Location.member "/components" m.1) m.2)
          return Keyed.ofList entries) = Except.ok components ↔
        schemas.Map id (fun _ v s => Schema.DeclaredBy [] v s) components := by
      refine Members.map_eq_ok_iff id ?_
      rintro ⟨name, v⟩ ⟨name', s⟩
      simp only [Checked.bind_eq_ok, Checked.pure_eq_ok, Prod.mk.injEq, id_eq]
      constructor
      · rintro ⟨_, hs, rfl, rfl⟩
        exact ⟨rfl, Schema.declaredBy_of_ofJson hs⟩
      · rintro ⟨rfl, hs⟩
        exact ⟨s, Schema.ofJson_of_declaredBy hs _, rfl, rfl⟩
    simp only [componentsOf, Json.optionally_some_iff]
    simp only [Checked.bind_eq_ok (α := Members), Checked.bind_eq_ok (α := Json),
      Checked.bind_eq_ok (α := Unit), Json.expectObject_eq_ok_iff, Members.checkKeys_eq_ok_iff,
      Members.fetch_eq_ok_iff, exists_const, key]
    constructor
    · rintro ⟨ms, hv, keys, schemas, h⟩
      exact ⟨ms, hv, keys, schemas, h⟩
    · rintro ⟨ms, hv, keys, schemas, h⟩
      exact ⟨ms, hv, keys, schemas, h⟩

/-! ## Paths -/

theorem Method.name_injective : Function.Injective Method.name := by
  intro a b
  cases a <;> cases b <;> decide

instance : Std.TransOrd Method := inferInstanceAs (Std.TransCmp (compareOn Method.ctorIdx))

instance : Std.LawfulEqOrd Method where
  eq_of_compare {a b} := by cases a <;> cases b <;> decide

theorem Method.ofName?_eq_some_iff {s : String} {m : Method} : ofName? s = some m ↔ s = m.name := by
  rw [ofName?, find?_name_eq_some_iff name_injective name_beq_iff, and_iff_right]
  cases m <;> decide

/-- The name of a method is read back. -/
theorem Method.parse?_name (m : Method) : parse? m.name = some m := by
  cases m <;> decide

/-- An operation stands under the very name of its method, whatever letter case the reader takes. -/
theorem Method.readName_eq_ok_iff {s : String} {m : Method} :
    readName p Method.name Method.all Method.parse? s = .ok m ↔ s = m.name := by
  rw [ApiContract.readName_eq_ok_iff fun m _ => parse?_name m, and_iff_right]
  cases m <;> decide

/-- The operations of a path, under the names of their methods. -/
def Members.Operations (components : Components) (tags : List String) (t : Template) :
    Members → List (Method × Operation) → Prop :=
  Members.Map Method.name fun _ => Json.Record (Operation.DeclaredBy components tags t)

/-- The operations of a path are read when they are declared. -/
theorem operationsOf_eq_ok_iff {t : Template} {m : List (Method × Operation)} :
    operationsOf components tags t p v = .ok m ↔
      v.Record (Members.Operations components tags t) m := by
  unfold operationsOf
  rw [Checked.bind_eq_ok]
  simp only [Json.expectObject_eq_ok_iff]
  refine exists_congr fun ms => and_congr_right fun _ => ?_
  exact Members.map_record_eq_ok_iff (fun _ _ => Method.readName_eq_ok_iff (p := p))
    fun name _ _ => Operation.ofJson_eq_ok_iff (p := p.member name)

/-- What a member of `paths` declares: a template, and operations whose path parameters are its
variables. -/
def PathEntry.DeclaredBy (components : Components) (tags : List String) (m : String × Json)
    (e : PathEntry) : Prop :=
  e.template.DeclaredBy m.1 ∧
    m.2.Record (Members.Operations components tags e.template) e.operations

/-- A path is read when it is declared, its operations against its own template. -/
theorem PathEntry.ofJson_eq_ok_iff {name : String} {e : PathEntry} :
    PathEntry.ofJson components tags name v = .ok e ↔ e.DeclaredBy components tags (name, v) := by
  simp only [PathEntry.ofJson, Checked.bind_eq_ok, Checked.pure_eq_ok, Template.parse_eq_ok_iff,
    operationsOf_eq_ok_iff]
  constructor
  · rintro ⟨t, ht, ops, ho, rfl⟩
    exact ⟨ht, ho⟩
  · rintro ⟨ht, ho⟩
    exact ⟨_, ht, _, ho, rfl⟩

/-- The paths of a document, sorted into the order they are tried in. -/
def Members.Paths (components : Components) (tags : List String) (ms : Members)
    (paths : List PathEntry) : Prop :=
  ∃ entries, List.Forall₂ (PathEntry.DeclaredBy components tags) ms entries ∧
    paths = Template.sortBySpecificity PathEntry.template entries

/-- The paths are read when they are declared, and then sorted. -/
theorem pathsOf_eq_ok_iff {paths : List PathEntry} :
    pathsOf components tags v = .ok paths ↔ v.Record (Members.Paths components tags) paths := by
  have key (m : String × Json) (e : PathEntry) :
      PathEntry.ofJson components tags m.1 m.2 = .ok e ↔ e.DeclaredBy components tags m :=
    PathEntry.ofJson_eq_ok_iff
  simp only [pathsOf, Checked.bind_eq_ok, Checked.pure_eq_ok, Json.expectObject_eq_ok_iff,
    Checked.mapM_eq_ok_iff_of key, eq_comm (b := paths)]
  rfl

/-! ## The document -/

/-- What stands under `info`, none of which a contract keeps. -/
def Members.IsInfo (ms : Members) : Prop := ms.KeysAre ["version", "title"] ["description"]

theorem checkInfo_eq_ok_iff {u : Unit} :
    checkInfo v = .ok u ↔ ∃ ms : Members, v = .object ms ∧ ms.IsInfo := by
  simp only [checkInfo, Checked.bind_eq_ok, Json.expectObject_eq_ok_iff,
    Members.checkKeys_eq_ok_iff, Members.IsInfo]

/-- What the members of a document declare. -/
structure Contract.DeclaredBy (root : Members) (c : Contract) : Prop where
  keys : root.KeysAre ["openapi", "info", "paths"] ["components", "tags"]
  version : root.get? "openapi" = some (.string formatVersion)
  info : ∃ ms : Members, root.get? "info" = some (.object ms) ∧ ms.IsInfo
  paths : ∃ tags components v,
    Json.Optionally [] (Json.Items (Json.Record Members.DeclaresName)) (root.get? "tags") tags ∧
    Json.Optionally [] (Json.Record Members.DeclareComponents) (root.get? "components") components ∧
    root.get? "paths" = some v ∧ v.Record (Members.Paths components tags) c.paths

/-- **A document is read when it declares a contract**, and gives the contract it declares. -/
theorem Contract.ofJson_eq_ok_iff {document : Json} {c : Contract} :
    Contract.ofJson document = .ok c ↔ document.Record Contract.DeclaredBy c := by
  simp only [Contract.ofJson, Checked.bind_eq_ok, Checked.pure_eq_ok, Json.expectObject_eq_ok_iff,
    Members.checkKeys_eq_ok_iff, Members.fetch_eq_ok_iff, Json.checkText_eq_ok_iff,
    checkInfo_eq_ok_iff, tagsOf_eq_ok_iff, componentsOf_eq_ok_iff, pathsOf_eq_ok_iff, exists_const]
  refine exists_congr fun root => and_congr_right fun _ => ?_
  constructor
  · rintro ⟨keys, _, hv, rfl, _, hi, ⟨info, rfl, hinfo⟩, tags, ht, components, hc, v, hp, paths,
      h, rfl⟩
    exact ⟨keys, hv, ⟨info, hi, hinfo⟩, tags, components, v, ht, hc, hp, h⟩
  · rintro ⟨keys, hv, ⟨info, hi, hinfo⟩, tags, components, v, ht, hc, hp, h⟩
    exact ⟨keys, _, hv, rfl, _, hi, ⟨info, rfl, hinfo⟩, tags, ht, components, hc, v, hp,
      c.paths, h, rfl⟩

/-! ## The paths and operations of a contract -/

/-- The paths of a contract are what the members of `paths` declare, sorted. -/
theorem Contract.exists_entries {document : Json} {c : Contract}
    (hc : Contract.ofJson document = .ok c) :
    ∃ (components : Components) (tags : List String) (ms : Members) (entries : List PathEntry),
      List.Forall₂ (PathEntry.DeclaredBy components tags) ms entries ∧
      c.paths = Template.sortBySpecificity PathEntry.template entries := by
  obtain ⟨root, -, hroot⟩ := Contract.ofJson_eq_ok_iff.1 hc
  obtain ⟨tags, components, v, -, -, -, ms, -, entries, hentries, hpaths⟩ := hroot.paths
  exact ⟨components, tags, ms, entries, hentries, hpaths⟩

/-- Every operation of a path is declared under its template. -/
theorem PathEntry.DeclaredBy.operation {m : String × Json} {e : PathEntry}
    (h : e.DeclaredBy components tags m) {o : Method × Operation} (ho : o ∈ e.operations) :
    ∃ ms, o.2.DeclaredBy components tags e.template ms := by
  obtain ⟨-, _, -, entries, hentries, hops⟩ := h
  rw [hops] at ho
  obtain ⟨_, -, -, ms, -, hop⟩ := exists_mem_of_forall₂ hentries (Keyed.mem_of_mem_ofList ho)
  exact ⟨ms, hop⟩

/-- **The path parameters of an operation are the variables of its template**, in every contract
that a document has. -/
theorem Contract.captures {document : Json} {c : Contract} (hc : Contract.ofJson document = .ok c)
    {e : PathEntry} (he : e ∈ c.paths) {o : Method × Operation} (ho : o ∈ e.operations)
    (name : String) :
    name ∈ e.template.variableNames ↔ ∃ q ∈ o.2.parameters, q.place = .path ∧ q.name = name := by
  obtain ⟨_, _, _, entries, hentries, hpaths⟩ := Contract.exists_entries hc
  rw [hpaths, Template.mem_sortBySpecificity] at he
  obtain ⟨m, -, hm⟩ := exists_mem_of_forall₂ hentries he
  obtain ⟨ms, hop⟩ := hm.operation ho
  exact hop.captures name

/-! ## A document whose operation has a JSON body -/

/-- The members of a JSON body. -/
def petBodyMembers (schema : Json) : Members :=
  [("description", .string "The pet"), ("required", .bool true),
    ("content", .object [("application/json", .object [("schema", schema)])])]

/-- The members of an operation with this body. -/
def postPetMembers (schema : Json) : Members :=
  [("summary", .string "A new pet"), ("tags", .array [.string "pets"]),
    ("requestBody", .object (petBodyMembers schema)), ("responses", .object [])]

/-- A document of one path with this operation. -/
def bodyDocument (schema : Json) : Json :=
  .object [("openapi", .string "3.0.0"),
    ("info", .object [("version", .string "1"), ("title", .string "Pets")]),
    ("tags", .array [.object [("name", .string "pets"), ("description", .string "All pets")]]),
    ("paths", .object [("/pets", .object [("post", .object (postPetMembers schema))])])]

/-- The body. -/
def petBody (s : Schema) : RequestBody := ⟨"The pet", true, [(.json, s)]⟩

/-- The operation. -/
def postPet (s : Schema) : Operation := ⟨"A new pet", none, "pets", [], some (petBody s), []⟩

/-- The path. -/
def newPetPath (s : Schema) : PathEntry := ⟨⟨"/pets", [.const "pets"]⟩, [(.post, postPet s)]⟩

/-- The document declares the operation, whatever the schema of the body. -/
theorem ofJson_bodyDocument {v : Json} {s : Schema} (h : s.DeclaredBy [] v) :
    Contract.ofJson (bodyDocument v) = .ok ⟨[newPetPath s]⟩ := by
  have hbody : RequestBody.DeclaredBy [] (petBodyMembers v) (petBody s) :=
    { keys := .of_checkKeys rfl
      description := rfl
      required := rfl
      content := ⟨_, rfl, _, rfl, [(.json, s)],
        .cons ⟨rfl, _, rfl, List.mem_cons_self, .of_checkKeys rfl, v, rfl, h⟩ .nil, rfl⟩ }
  have hpost :
      Operation.DeclaredBy [] ["pets"] (newPetPath s).template (postPetMembers v) (postPet s) :=
    { keys := .of_checkKeys rfl
      description := .inl ⟨.inl rfl, rfl⟩
      summary := ⟨_, .inr ⟨_, rfl, rfl⟩, rfl⟩
      tag := ⟨_, rfl, rfl, List.mem_cons_self⟩
      parameters := .absent
      captures := fun name => iff_of_false nofun fun ⟨_, hq, _⟩ => nomatch hq
      requestBody := .given ⟨_, ⟨_, rfl, hbody⟩, rfl⟩
      responses := ⟨_, rfl, _, rfl, [], .nil, rfl⟩ }
  have htemplate : (newPetPath s).template.DeclaredBy "/pets" :=
    (Template.parse_eq_ok_iff (p := "")).1 rfl
  have htag :
      Members.DeclaresName [("name", .string "pets"), ("description", .string "All pets")] "pets" :=
    ⟨.of_checkKeys rfl, rfl⟩
  have hpath : PathEntry.DeclaredBy [] ["pets"]
      ("/pets", .object [("post", .object (postPetMembers v))]) (newPetPath s) :=
    ⟨htemplate, _, rfl, [(.post, postPet s)], .cons ⟨rfl, _, rfl, hpost⟩ .nil, rfl⟩
  refine Contract.ofJson_eq_ok_iff.2 ⟨_, rfl, .of_checkKeys rfl, rfl, ⟨_, rfl, .of_checkKeys rfl⟩,
    ["pets"], [], _, .given ⟨_, rfl, .cons ⟨_, rfl, htag⟩ .nil⟩, .absent, rfl, _, rfl,
    [newPetPath s], .cons hpath .nil, (List.mergeSort_singleton _).symm⟩

end ApiContract
