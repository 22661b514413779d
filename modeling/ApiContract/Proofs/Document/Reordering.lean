import ApiContract.Proofs.Document.Reader
import ApiContract.Proofs.Schema.Inlining
import ApiContract.Proofs.Schema.Reordering

/-!
# Proofs/Document/Reordering — a contract does not depend on the order of members

What each part of a document declares is `Json.Invariant`, as are the ways in which parts are made
of others.  Only paths have an order that is not that of their keys: they are sorted, and sorting
leaves the order of those with the same segments open.  **`Contract.ofJson_reordered`** says it of
documents.
-/

namespace ApiContract

variable {α κ : Type} {part : Part} {ms ms' : Members} {a : α} {components : Components}
  {tags : List String}

/-! ## Parts made of others -/

section Parts

variable {R : Json → α → Prop} {D : Members → α → Prop}

/-- An object declares the same in any order when its members do. -/
theorem Members.Invariant.record (hD : Members.Invariant part D) :
    Json.Invariant part (Json.Record D) := by
  rintro _ v' a hv ⟨ms, rfl, h⟩
  obtain ⟨ms', rfl, hms⟩ := hv.exists_object
  exact ⟨ms', rfl, hD ms ms' a hms h⟩

/-- An array declares the same when its elements do, whose order is kept. -/
theorem Json.Invariant.items (hR : Json.Invariant part.element R) :
    Json.Invariant part (Json.Items R) := by
  rintro _ v' as hv ⟨items, rfl, h⟩
  obtain ⟨items', rfl, hitems⟩ := hv.exists_array
  exact ⟨items', rfl, forall₂_of_forall₂ (fun v' v a hv' hv => hR v v' a hv' hv) hitems.flip h⟩

/-- A place that must be there. -/
theorem Members.Shuffled.exists_get? (h : ms.Shuffled part ms') (key : String)
    (hR : Json.Invariant (part.member key) R) (hv : ∃ v, ms.get? key = some v ∧ R v a) :
    ∃ v', ms'.get? key = some v' ∧ R v' a := by
  obtain ⟨v, hget, hv⟩ := hv
  obtain ⟨v', hget', hv'⟩ := h.get? hget
  exact ⟨v', hget', hR v v' a hv' hv⟩

/-- A place that may be absent. -/
theorem Members.Shuffled.optionally (h : ms.Shuffled part ms') (key : String)
    (hR : Json.Invariant (part.member key) R) {otherwise : α}
    (hv : Json.Optionally otherwise R (ms.get? key) a) :
    Json.Optionally otherwise R (ms'.get? key) a := by
  generalize hget : ms.get? key = place at hv
  cases hv with
  | absent => exact h.get?_eq_none hget ▸ .absent
  | given hv =>
    obtain ⟨v', hget', hv'⟩ := h.get? hget
    exact hget' ▸ .given (hR _ v' a hv' hv)

/-- **A map does not depend on the order of members**: it is ordered by its keys. -/
theorem Members.map_invariant [Ord κ] [Std.TransOrd κ] [Std.LawfulEqOrd κ] {name : κ → String}
    {R : κ → Json → α → Prop} (hR : ∀ k, Json.Invariant (part.member (name k)) (R k)) :
    Members.Invariant part (Members.Map name R) := by
  rintro ms ms' _ h ⟨entries, hentries, rfl⟩
  obtain ⟨entries', hentries', heq⟩ := h.exists_ofList name hR hentries
  exact ⟨entries', hentries', heq.symm⟩

end Parts

/-! ## Bodies and responses -/

theorem Members.schemaDeclared_invariant :
    Members.Invariant .entry (Members.SchemaDeclared components) :=
  fun _ _ _ h ⟨keys, hs⟩ => ⟨h.keysAre keys, h.exists_get? "schema" Schema.declaredBy_invariant hs⟩

/-- An example is taken as it stands, and nothing in it is reordered. -/
theorem Content.declaredBy_invariant (media : Media) :
    Members.Invariant .entry fun ms c => Content.DeclaredBy components media ms c := by
  intro ms ms' c h hc
  rcases hc with ⟨keys, hv, hs⟩ | ⟨keys, hv⟩
  · obtain ⟨v', hv', hs'⟩ := h.exists_get? "schema" Schema.declaredBy_invariant ⟨_, hv, hs⟩
    exact .schema (h.keysAre keys) hv' hs'
  · have hexample : ms'.get? "example" = ms.get? "example" := h.get?_eq rfl
    exact .example (h.keysAre keys) (hexample.trans hv)

/-- A content is a map of its media types. -/
theorem Members.contentMap_invariant {allowed : List Media} {D : Media → Members → α → Prop}
    (hD : ∀ media, Members.Invariant .entry (D media)) :
    Members.Invariant .content (Members.ContentMap allowed D) :=
  Members.map_invariant fun media => Members.Invariant.record fun ms ms' a h ⟨ha, hd⟩ =>
    ⟨ha, hD media ms ms' a h hd⟩

/-- A request body is declared alike in any order. -/
theorem RequestBody.declaredBy_invariant :
    Members.Invariant .body (RequestBody.DeclaredBy components) := by
  intro ms ms' b h hb
  have hdescription : ms'.get? "description" = ms.get? "description" := h.get?_eq rfl
  have hrequired : ms'.get? "required" = ms.get? "required" := h.get?_eq rfl
  have hcontent : Members.Invariant .content (Members.RequestContent components) :=
    Members.contentMap_invariant fun _ => Members.schemaDeclared_invariant
  exact ⟨h.keysAre hb.keys, hdescription ▸ hb.description, hrequired ▸ hb.required,
    h.exists_get? "content" hcontent.record hb.content⟩

/-- A response is declared alike in any order. -/
theorem Response.declaredBy_invariant :
    Members.Invariant .response (Response.DeclaredBy components) := by
  intro ms ms' r h hr
  have hdescription : ms'.get? "description" = ms.get? "description" := h.get?_eq rfl
  have hcontent : Members.Invariant .content (Members.ResponseContent components) :=
    Members.contentMap_invariant Content.declaredBy_invariant
  exact ⟨h.keysAre hr.keys, hdescription ▸ hr.description,
    h.optionally "content" hcontent.record hr.content⟩

/-! ## Operations -/

/-- A parameter is declared by texts and flags, which have no order. -/
theorem Parameter.declaredBy_invariant : Members.Invariant .parameter Parameter.DeclaredBy := by
  intro ms ms' q h hq
  have hsame : ∀ key, ms'.get? key = ms.get? key := fun key => h.get?_eq rfl
  exact ⟨h.keysAre hq.keys, hsame "name" ▸ hq.name, hsame "description" ▸ hq.description,
    hsame "in" ▸ hq.place, hsame "required" ▸ hq.required, hsame "schema" ▸ hq.schema, hq.path⟩

/-- An operation is declared alike, its parameters in the order of the document. -/
theorem Operation.declaredBy_invariant {t : Template} :
    Members.Invariant .operation (Operation.DeclaredBy components tags t) := by
  intro ms ms' op h hop
  have hdescription : ms'.get? "description" = ms.get? "description" := h.get?_eq rfl
  have hsummary : ms'.get? "summary" = ms.get? "summary" := h.get?_eq rfl
  have htags : ms'.get? "tags" = ms.get? "tags" := h.get?_eq rfl
  have hparameters : Json.Invariant .parameters (Json.Items (Json.Record Parameter.DeclaredBy)) :=
    Json.Invariant.items Parameter.declaredBy_invariant.record
  have hbody : Json.Invariant .body
      fun v b => ∃ body, v.Record (RequestBody.DeclaredBy components) body ∧ some body = b :=
    fun v v' _ hv ⟨body, hbody, heq⟩ =>
      ⟨body, RequestBody.declaredBy_invariant.record v v' body hv hbody, heq⟩
  have hresponses : Members.Invariant .responses (Members.Responses components) :=
    Members.map_invariant fun _ => Response.declaredBy_invariant.record
  exact {
    keys := h.keysAre hop.keys
    description := hdescription ▸ hop.description
    summary := hsummary ▸ hop.summary
    tag := htags ▸ hop.tag
    parameters := h.optionally "parameters" hparameters hop.parameters
    captures := hop.captures
    requestBody := h.optionally "requestBody" hbody hop.requestBody
    responses := h.exists_get? "responses" hresponses.record hop.responses }

/-! ## The document -/

theorem Members.declaresName_invariant : Members.Invariant .tag Members.DeclaresName := by
  intro ms ms' name h hname
  have hsame : ms'.get? "name" = ms.get? "name" := h.get?_eq rfl
  exact ⟨h.keysAre hname.keys, hsame ▸ hname.name⟩

/-- The components are a map of their schemas. -/
theorem Members.declareComponents_invariant :
    Members.Invariant .components Members.DeclareComponents := by
  intro ms ms' components h hc
  have hschemas :
      Members.Invariant .definitions (Members.Map id fun _ v s => Schema.DeclaredBy [] v s) :=
    Members.map_invariant fun _ => Schema.declaredBy_invariant
  exact ⟨h.keysAre hc.keys, h.exists_get? "schemas" hschemas.record hc.schemas⟩

/-- A path is declared alike, its template being its name. -/
theorem PathEntry.declaredBy_invariant (name : String) :
    Json.Invariant .path fun v e => PathEntry.DeclaredBy components tags (name, v) e := by
  intro v v' e hv ⟨htemplate, hoperations⟩
  have hinvariant : Members.Invariant .path (Members.Operations components tags e.template) :=
    Members.map_invariant fun _ => Operation.declaredBy_invariant.record
  exact ⟨htemplate, hinvariant.record v v' e.operations hv hoperations⟩

/-- **Paths that are the same but for the order** of those whose segments are the same. -/
structure PathEntry.Alike (paths paths' : List PathEntry) : Prop where
  perm : paths.Perm paths'
  segments : paths.map (·.template.segments) = paths'.map (·.template.segments)

/-- Where no two have the same segments, they are the same. -/
theorem PathEntry.Alike.eq {paths paths' : List PathEntry} (h : Alike paths paths')
    (hn : (paths.map (·.template.segments)).Nodup) : paths = paths' := by
  refine List.ext_getElem h.perm.length_eq fun i hi hi' => ?_
  have hmem : paths'[i] ∈ paths := h.perm.mem_iff.2 (List.getElem_mem hi')
  refine List.inj_on_of_nodup_map hn (List.getElem_mem hi) hmem ?_
  have hlt : i < (paths.map (·.template.segments)).length := by rwa [List.length_map]
  have hsegments := List.getElem_of_eq h.segments hlt
  rwa [List.getElem_map, List.getElem_map] at hsegments

/-- **Paths in another order** are sorted alike. -/
theorem Members.Paths.exists_alike {paths : List PathEntry} (h : ms.Shuffled .paths ms')
    (hp : ms.Paths components tags paths) :
    ∃ paths', Members.Paths components tags ms' paths' ∧ PathEntry.Alike paths paths' := by
  obtain ⟨entries, hentries, rfl⟩ := hp
  obtain ⟨entries', hentries', hperm⟩ :=
    h.exists_forall₂ (fun name => PathEntry.declaredBy_invariant name) hentries
  refine ⟨_, ⟨entries', hentries', rfl⟩, ?_, Template.map_segments_sortBySpecificity hperm.symm⟩
  exact Template.perm_sortBySpecificity.trans
    (hperm.symm.trans Template.perm_sortBySpecificity.symm)

/-- A document in another order declares a contract whose paths are alike. -/
theorem Contract.DeclaredBy.exists_alike {root root' : Members} {c : Contract}
    (h : root.Shuffled .document root') (hc : c.DeclaredBy root) :
    ∃ c', Contract.DeclaredBy root' c' ∧ PathEntry.Alike c.paths c'.paths := by
  obtain ⟨tags, components, _, htags, hcomponents, hget, ms, rfl, hpaths⟩ := hc.paths
  obtain ⟨v', hget', hv'⟩ := h.get? hget
  obtain ⟨ms', rfl, hms⟩ := hv'.exists_object
  obtain ⟨paths', hpaths', halike⟩ := hpaths.exists_alike hms
  obtain ⟨info, hinfo, hisInfo⟩ := hc.info
  obtain ⟨w', hinfo', hw'⟩ := h.get? hinfo
  obtain ⟨info', rfl, hinfos⟩ := hw'.exists_object
  have hversion : root'.get? "openapi" = root.get? "openapi" := h.get?_eq rfl
  have hnames : Json.Invariant .tags (Json.Items (Json.Record Members.DeclaresName)) :=
    Json.Invariant.items Members.declaresName_invariant.record
  have hread : Contract.DeclaredBy root' ⟨paths'⟩ := {
    keys := h.keysAre hc.keys
    version := hversion.trans hc.version
    info := ⟨info', hinfo', hinfos.keysAre hisInfo⟩
    paths := ⟨tags, components, _, h.optionally "tags" hnames htags,
      h.optionally "components" Members.declareComponents_invariant.record hcomponents, hget',
      ms', rfl, hpaths'⟩ }
  exact ⟨⟨paths'⟩, hread, halike⟩

/-- A document in another order is read, and its contract is alike. -/
theorem Contract.exists_of_shuffled {document document' : Json} {c : Contract}
    (h : Json.Shuffled .document document document') (hc : Contract.ofJson document = .ok c) :
    ∃ c', Contract.ofJson document' = .ok c' ∧ PathEntry.Alike c.paths c'.paths := by
  obtain ⟨root, rfl, hroot⟩ := Contract.ofJson_eq_ok_iff.1 hc
  obtain ⟨root', rfl, hroots⟩ := h.exists_object
  obtain ⟨c', hc', halike⟩ := hroot.exists_alike hroots
  exact ⟨c', Contract.ofJson_eq_ok_iff.2 ⟨root', rfl, hc'⟩, halike⟩

/-- **The order of members does not matter.**  Of two documents that differ only in it, and repeat
no key, either both are read or neither is; their contracts have the same paths, but for the order
of those with the same segments, and are the same where no two have. -/
theorem Contract.ofJson_reordered {document document' : Json} (hd : document.HasDistinctKeys)
    (h : Json.Reordered .document document document') :
    ((∃ c, Contract.ofJson document = .ok c) ↔ ∃ c', Contract.ofJson document' = .ok c') ∧
      ∀ c c', Contract.ofJson document = .ok c → Contract.ofJson document' = .ok c' →
        PathEntry.Alike c.paths c'.paths ∧
        ((c.paths.map (·.template.segments)).Nodup → c = c') := by
  have hshuffled := h.shuffled hd
  refine ⟨⟨fun ⟨c, hc⟩ => ?_, fun ⟨c', hc'⟩ => ?_⟩, fun c c' hc hc' => ?_⟩
  · obtain ⟨c', hc', -⟩ := exists_of_shuffled hshuffled hc
    exact ⟨c', hc'⟩
  · obtain ⟨c, hc, -⟩ := exists_of_shuffled hshuffled.symm hc'
    exact ⟨c, hc⟩
  · obtain ⟨_, hread, halike⟩ := exists_of_shuffled hshuffled hc
    obtain rfl := Except.ok.inj (hread.symm.trans hc')
    exact ⟨halike, fun hn => congrArg Contract.mk (halike.eq hn)⟩

/-- The document of an operation with a body, its paths first, the members of the operation from
last to first. -/
def reorderedDocument (schema : Json) : Json :=
  .object [
    ("paths", .object [("/pets", .object [("post", .object (postPetMembers schema).reverse)])]),
    ("openapi", .string "3.0.0"),
    ("info", .object [("version", .string "1"), ("title", .string "Pets")]),
    ("tags", .array [.object [("name", .string "pets"), ("description", .string "All pets")]])]

/-- It has the same contract. -/
theorem ofJson_reorderedDocument :
    (bodyDocument Schema.petDefinition).HasDistinctKeys ∧
      Json.Reordered .document (bodyDocument Schema.petDefinition)
        (reorderedDocument Schema.petDefinition) ∧
      Contract.ofJson (reorderedDocument Schema.petDefinition) =
        .ok ⟨[newPetPath Schema.petSchema]⟩ := by
  have hdistinct : (bodyDocument Schema.petDefinition).HasDistinctKeys := by
    simp [bodyDocument, postPetMembers, petBodyMembers, Schema.petDefinition, Members.keys]
  have hoperation : Json.Reordered .operation (.object (postPetMembers Schema.petDefinition))
      (.object (postPetMembers Schema.petDefinition).reverse) :=
    .of_perm (by decide) (by decide) (List.reverse_perm _).symm
  have hreordered : Json.Reordered .document (bodyDocument Schema.petDefinition)
      (reorderedDocument Schema.petDefinition) :=
    .trans (.of_perm (by decide) hdistinct.keys (List.perm_append_singleton _ [_, _, _]))
      (.first (by decide) (.first (by decide) (.first (by decide) hoperation)))
  have hread := ofJson_bodyDocument (Schema.declaredBy_of_ofJson (Schema.ofJson_petDefinition ""))
  have h := Contract.ofJson_reordered hdistinct hreordered
  obtain ⟨c', hc'⟩ := h.1.1 ⟨_, hread⟩
  obtain rfl := (h.2 _ c' hread hc').2 (List.nodup_singleton _)
  exact ⟨hdistinct, hreordered, hc'⟩

end ApiContract
