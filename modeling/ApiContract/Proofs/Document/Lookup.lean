import ApiContract.Proofs.Document.Reader

/-!
# Proofs/Document/Lookup — looking up operations, responses and content

In a contract that is read from a document every map has ascending keys, so what is looked up under
a name is the one entry whose key has it (`Keyed.Ascending.bind_get?_eq_some_iff`).  And the content
of a response is of the media type it stands under: JSON has a schema, text an example.
**`Contract.wellFormed`** says both of all operations.
-/

namespace ApiContract

/-! ## Entries under a name -/

section Names

variable {κ α : Type} {name : κ → String} {m : List (κ × α)} {s : String} {a : α} {key? : Option κ}

/-- **What a map has under a name**, each key having a name. -/
def Keyed.Under (name : κ → String) (m : List (κ × α)) (s : String) (a : α) : Prop :=
  ∃ k, name k = s ∧ (k, a) ∈ m

/-- A map has something under a name, or no key with it. -/
theorem Keyed.exists_under_or (name : κ → String) (m : List (κ × α)) (s : String) :
    (∃ a, Keyed.Under name m s a) ∨ ∀ e ∈ m, name e.1 ≠ s := by
  by_cases h : ∃ e ∈ m, name e.1 = s
  · obtain ⟨e, he, hname⟩ := h
    exact .inl ⟨e.2, e.1, hname, he⟩
  · exact .inr fun e he hname => h ⟨e, he, hname⟩

variable [Ord κ] [Std.LawfulEqOrd κ]

/-- What is under a key of a map is the entry that has it. -/
theorem Keyed.Ascending.get?_eq_some_iff [Std.TransOrd κ] [DecidableEq κ] {key : κ}
    (h : Keyed.Ascending m) : Keyed.get? key m = some a ↔ (key, a) ∈ m :=
  Keyed.get?_eq_some_iff h.nodup

/-- What is found under the key of a name is what the map has under the name. -/
theorem Keyed.Ascending.bind_get?_eq_some_iff [Std.TransOrd κ] [DecidableEq κ]
    (h : Keyed.Ascending m) (hkey : ∀ k, key? = some k ↔ name k = s) :
    key?.bind (Keyed.get? · m) = some a ↔ Keyed.Under name m s a := by
  rw [Option.bind_eq_some_iff]
  exact exists_congr fun k => and_congr (hkey k) h.get?_eq_some_iff

/-- Nothing is found where no key of the map has the name. -/
theorem Keyed.bind_get?_eq_none_iff (hkey : ∀ k, key? = some k ↔ name k = s) :
    key?.bind (Keyed.get? · m) = none ↔ ∀ e ∈ m, name e.1 ≠ s := by
  simp only [Option.bind_eq_none_iff, hkey, Keyed.get?_eq_none_iff]
  constructor
  · intro h e he hname
    exact h e.1 hname e he rfl
  · intro h k hk e he heq
    exact h e he (heq ▸ hk)

end Names

/-! ## The maps of a contract -/

/-- Content of a media type: a schema for JSON, an example for text. -/
inductive Content.OfMedia : Media → Content → Prop
  | schema {s : Schema} : OfMedia .json (.schema s)
  | example {v : Json} : OfMedia .text (.example v)

/-- **The maps of an operation**: each has ascending keys, and content is of the media type it
stands under. -/
structure Operation.WellFormed (op : Operation) : Prop where
  responses : Keyed.Ascending op.responses
  requestContent : ∀ b, op.requestBody = some b → Keyed.Ascending b.content
  responseContent : ∀ o ∈ op.responses, Keyed.Ascending o.2.content ∧
    ∀ e ∈ o.2.content, e.2.OfMedia e.1

variable {components : Components} {ms : Members}

theorem Members.Map.ascending {κ α : Type} [Ord κ] [Std.TransOrd κ] [Std.LawfulEqOrd κ]
    {name : κ → String} {R : κ → Json → α → Prop} {m : List (κ × α)} (h : ms.Map name R m) :
    Keyed.Ascending m := by
  obtain ⟨_, -, rfl⟩ := h
  exact Keyed.ascending_ofList

theorem Content.DeclaredBy.ofMedia {media : Media} {c : Content}
    (h : c.DeclaredBy components media ms) : c.OfMedia media := by
  cases h with
  | schema => exact .schema
  | «example» => exact .example

theorem RequestBody.DeclaredBy.ascending {b : RequestBody} (h : b.DeclaredBy components ms) :
    Keyed.Ascending b.content := by
  obtain ⟨_, -, content, -, hcontent⟩ := h.content
  unfold Members.RequestContent Members.ContentMap at hcontent
  exact Members.Map.ascending hcontent

theorem Response.DeclaredBy.ascending {r : Response} (h : r.DeclaredBy components ms) :
    Keyed.Ascending r.content ∧ ∀ e ∈ r.content, e.2.OfMedia e.1 := by
  have hcontent := h.content
  generalize ms.get? "content" = place, r.content = content at hcontent ⊢
  cases hcontent with
  | absent => exact ⟨.nil, fun _ he => absurd he List.not_mem_nil⟩
  | given hcontent =>
    obtain ⟨content, -, hcontent⟩ := hcontent
    unfold Members.ResponseContent Members.ContentMap at hcontent
    refine ⟨Members.Map.ascending hcontent, fun e he => ?_⟩
    obtain ⟨_, -, _, -, -, hdeclared⟩ := Members.Map.exists_mem hcontent he
    exact hdeclared.ofMedia

theorem Operation.DeclaredBy.wellFormed {tags : List String} {t : Template} {op : Operation}
    (h : op.DeclaredBy components tags t ms) : op.WellFormed := by
  obtain ⟨_, -, responses, -, hresponses⟩ := h.responses
  unfold Members.Responses at hresponses
  refine ⟨Members.Map.ascending hresponses, fun b hb => ?_, fun o ho => ?_⟩
  · have hbody := h.requestBody
    rw [hb] at hbody
    generalize ms.get? "requestBody" = place at hbody
    cases hbody with
    | given hbody =>
      obtain ⟨_, ⟨members, -, hdeclared⟩, heq⟩ := hbody
      cases heq
      exact hdeclared.ascending
  · obtain ⟨_, -, members, -, hdeclared⟩ := Members.Map.exists_mem hresponses ho
    exact hdeclared.ascending

/-- **Every map of a contract has ascending keys**, and the content of its responses is of the media
types it stands under. -/
theorem Contract.wellFormed {document : Json} {c : Contract} (hc : Contract.ofJson document = .ok c)
    {e : PathEntry} (he : e ∈ c.paths) :
    Keyed.Ascending e.operations ∧ ∀ o ∈ e.operations, o.2.WellFormed := by
  obtain ⟨_, _, _, entries, hentries, hpaths⟩ := Contract.exists_entries hc
  rw [hpaths, Template.mem_sortBySpecificity] at he
  obtain ⟨m, -, hm⟩ := exists_mem_of_forall₂ hentries he
  obtain ⟨-, operations, -, hoperations⟩ := hm
  unfold Members.Operations at hoperations
  refine ⟨Members.Map.ascending hoperations, fun o ho => ?_⟩
  obtain ⟨_, -, members, -, hdeclared⟩ := Members.Map.exists_mem hoperations ho
  exact hdeclared.wellFormed

end ApiContract
