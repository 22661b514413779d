import ApiContract.Proofs.Document.Reader

/-!
# Proofs/Document/Schemas — the schemas of a document

Every schema in a contract was read from a node of its document, against components that were read
from nodes themselves.  **`Contract.of_mem_bodySchemas`**: what reading keeps, from the components
to whatever is read against them, holds of every schema that a body is checked against.
-/

namespace ApiContract

/-! ## The schemas of bodies -/

/-- The schema of a JSON body. -/
def Content.schema? : Content → Option Schema
  | .schema s => some s
  | .example _ => none

/-- The schemas of the bodies of an operation: those of its request, then those of its responses. -/
def Operation.bodySchemas (op : Operation) : List Schema :=
  op.requestBody.toList.flatMap (fun body => body.content.map (·.2))
    ++ op.responses.flatMap fun r => r.2.content.filterMap (·.2.schema?)

/-- The schemas of all bodies. -/
def Contract.bodySchemas (c : Contract) : List Schema :=
  c.paths.flatMap fun e => e.operations.flatMap fun o => o.2.bodySchemas

section Declared

variable {components : Components} {tags : List String} {ms : Members} {s : Schema}

theorem RequestBody.DeclaredBy.exists_declaredBy {body : RequestBody}
    (h : body.DeclaredBy components ms) (hs : s ∈ body.content.map (·.2)) :
    ∃ v, s.DeclaredBy components v := by
  obtain ⟨_, -, content, -, hcontent⟩ := h.content
  unfold Members.RequestContent Members.ContentMap at hcontent
  obtain ⟨e, he, rfl⟩ := List.mem_map.1 hs
  obtain ⟨_, -, _, -, -, -, v, -, hv⟩ := hcontent.exists_mem he
  exact ⟨v, hv⟩

theorem Response.DeclaredBy.exists_declaredBy {r : Response} (h : r.DeclaredBy components ms)
    (hs : s ∈ r.content.filterMap (·.2.schema?)) : ∃ v, s.DeclaredBy components v := by
  have hcontent := h.content
  obtain ⟨e, he, hes⟩ := List.mem_filterMap.1 hs
  generalize ms.get? "content" = place, r.content = content at hcontent he
  cases hcontent with
  | absent => cases he
  | given hrecord =>
    obtain ⟨_, -, hentries⟩ := hrecord
    unfold Members.ResponseContent Members.ContentMap at hentries
    obtain ⟨media, c⟩ := e
    obtain ⟨_, -, _, -, -, hc⟩ := hentries.exists_mem he
    rcases hc with ⟨-, -, hv⟩ | _
    · exact ⟨_, Option.some.inj hes ▸ hv⟩
    · cases hes

/-- Every schema of a body is one of the document. -/
theorem Operation.DeclaredBy.exists_declaredBy {t : Template} {op : Operation}
    (h : op.DeclaredBy components tags t ms) (hs : s ∈ op.bodySchemas) :
    ∃ v, s.DeclaredBy components v := by
  rcases List.mem_append.1 hs with hs | hs
  · have hbody := h.requestBody
    obtain ⟨body, hb, hs⟩ := List.mem_flatMap.1 hs
    rw [Option.mem_toList.1 hb] at hbody
    generalize ms.get? "requestBody" = place at hbody
    cases hbody with
    | given hgiven =>
      obtain ⟨_, ⟨_, -, hdeclared⟩, heq⟩ := hgiven
      cases heq
      exact hdeclared.exists_declaredBy hs
  · obtain ⟨_, -, _, -, hresponses⟩ := h.responses
    obtain ⟨r, hr, hs⟩ := List.mem_flatMap.1 hs
    obtain ⟨_, -, _, -, hdeclared⟩ := Members.Map.exists_mem hresponses hr
    exact hdeclared.exists_declaredBy hs

end Declared

/-! ## What reading keeps -/

/-- Every component was read from a node, against no components. -/
theorem exists_declaredBy_of_componentsOf {place : Option Json} {components : Components}
    (h : componentsOf place = .ok components) {q : String × Schema} (hq : q ∈ components) :
    ∃ v, q.2.DeclaredBy [] v := by
  have hdeclared := componentsOf_eq_ok_iff.1 h
  cases hdeclared with
  | absent => cases hq
  | given hrecord =>
    obtain ⟨ms, -, hms⟩ := hrecord
    obtain ⟨_, -, schemas, -, hentries⟩ := hms.schemas
    obtain ⟨v, -, hv⟩ := hentries.exists_mem hq
    exact ⟨v, hv⟩

/-- **What reading keeps holds of every schema of a body.** -/
theorem Contract.of_mem_bodySchemas {P : Schema → Prop}
    (hP : ∀ (components : Components) v c, (∀ q ∈ components, P q.2) →
      Schema.DeclaredBy components v c → P c)
    {document : Json} {c : Contract} (hc : Contract.ofJson document = .ok c) {s : Schema}
    (hs : s ∈ c.bodySchemas) : P s := by
  obtain ⟨root, -, hroot⟩ := Contract.ofJson_eq_ok_iff.1 hc
  obtain ⟨tags, components, _, -, hcomponents, -, ms, -, entries, hentries, hpaths⟩ := hroot.paths
  obtain ⟨e, he, hs⟩ := List.mem_flatMap.1 hs
  obtain ⟨o, ho, hs⟩ := List.mem_flatMap.1 hs
  rw [hpaths, Template.mem_sortBySpecificity] at he
  obtain ⟨m, -, hm⟩ := exists_mem_of_forall₂ hentries he
  obtain ⟨_, hop⟩ := hm.operation ho
  obtain ⟨v, hv⟩ := hop.exists_declaredBy hs
  refine hP components v s (fun q hq => ?_) hv
  obtain ⟨w, hw⟩ := exists_declaredBy_of_componentsOf (componentsOf_eq_ok_iff.2 hcomponents) hq
  exact hP [] w q.2 (List.forall_mem_nil _) hw

end ApiContract
