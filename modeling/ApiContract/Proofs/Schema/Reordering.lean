import ApiContract.Proofs.Json.Reordering
import ApiContract.Proofs.Schema.Grammar

/-!
# Proofs/Schema/Reordering — schemas do not depend on the order of members

A shuffled node has the same form, with shuffled schemas below it
(`Node.DeclaredBy.exists_shuffled`).  By induction over the grammar it declares the same canonical
schema: **`Schema.declaredBy_invariant`**.
-/

namespace ApiContract

variable {components : Components} {ms ms' : Members}

/-! ## Shuffled nodes -/

/-- Nodes of a type whose schemas below are shuffled, and all else the same. -/
inductive TypedNode.Shuffled : TypedNode → TypedNode → Prop
  | object {declared declared' : Members} {required : List String}
    {beside beside' : Additional Json}
    (hd : declared.Shuffled .properties declared') (hb : beside.Rel (Json.Shuffled .node) beside') :
    Shuffled (.object declared required beside) (.object declared' required beside')
  | array {items items' : Json} (hi : Json.Shuffled .node items items') :
    Shuffled (.array items) (.array items')
  | primitive {s : Schema} : Shuffled (.primitive s) (.primitive s)

/-- Nodes of one form whose schemas below are shuffled. -/
inductive Node.Shuffled : Node → Node → Prop
  | reference {target : Json} : Shuffled (.reference target) (.reference target)
  | union {branches branches' : List Json}
    (hb : List.Forall₂ (Json.Shuffled .node) branches branches') :
    Shuffled (.union branches) (.union branches')
  | typed {node node' : TypedNode} {nullable : Option Json} (hn : node.Shuffled node') :
    Shuffled (.typed node nullable) (.typed node' nullable)

/-- What an object says of other members is a flag still, or a schema. -/
theorem Members.Shuffled.exists_admits (h : ms.Shuffled .node ms') {beside : Additional Json}
    (ha : Json.Admits (ms.get? "additionalProperties") beside) :
    ∃ beside', Json.Admits (ms'.get? "additionalProperties") beside' ∧
      beside.Rel (Json.Shuffled .node) beside' := by
  generalize hget : ms.get? "additionalProperties" = place at ha
  cases ha with
  | absent => exact ⟨_, h.get?_eq_none hget ▸ .absent, .allowed⟩
  | flag =>
    obtain ⟨v', hget', hv'⟩ := h.get? hget
    obtain rfl := Json.asBool?_eq_some_iff.1 hv'.reordered.asBool?_eq
    exact ⟨_, hget' ▸ .flag, .allowed⟩
  | schema hv =>
    obtain ⟨v', hget', hv'⟩ := h.get? hget
    exact ⟨_, hget' ▸ .schema (hv'.reordered.asBool?_eq.trans hv), .schema hv'⟩

/-- What a node declares beside its type has the same form where it is shuffled. -/
theorem TypedNode.DeclaredBy.exists_shuffled {type : String} {node : TypedNode}
    (h : node.DeclaredBy ms type) (hms : ms.Shuffled .node ms') :
    ∃ node', TypedNode.DeclaredBy ms' type node' ∧ node.Shuffled node' := by
  have henum : ms'.get? "enum" = ms.get? "enum" := hms.get?_eq rfl
  cases h with
  | object keys hp hr ha =>
    obtain ⟨v', hp', hv'⟩ := hms.get? hp
    obtain ⟨declared', rfl, hdeclared⟩ := hv'.exists_object
    obtain ⟨beside', ha', hbeside⟩ := hms.exists_admits ha
    have hrequired : ms'.get? "required" = ms.get? "required" := hms.get?_eq rfl
    exact ⟨_,
      .object (hms.keysAre keys) hp' (hrequired ▸ hr.mono fun _ => hdeclared.keys.mem_iff.1) ha',
      .object hdeclared hbeside⟩
  | array keys hi =>
    obtain ⟨items', hi', hitems⟩ := hms.get? hi
    exact ⟨_, .array (hms.keysAre keys) hi', .array hitems⟩
  | string keys he hp hl =>
    have hpattern : ms'.get? "pattern" = ms.get? "pattern" := hms.get?_eq rfl
    have hlength : ms'.get? "minLength" = ms.get? "minLength" := hms.get?_eq rfl
    exact ⟨_, .string (hms.keysAre keys) (henum ▸ he) (hpattern.trans hp) (hlength.trans hl),
      .primitive⟩
  | integer keys he => exact ⟨_, .integer (hms.keysAre keys) (henum ▸ he), .primitive⟩
  | boolean keys he => exact ⟨_, .boolean (hms.keysAre keys) (henum ▸ he), .primitive⟩
  | float keys he => exact ⟨_, .float (hms.keysAre keys) (henum ▸ he), .primitive⟩

/-- **A shuffled node has the same form**, with shuffled schemas below. -/
theorem Node.DeclaredBy.exists_shuffled {node : Node} {v' : Json} (h : node.DeclaredBy ms)
    (hv : Json.Shuffled .node (.object ms) v') :
    ∃ (ms' : Members) (node' : Node),
      v' = .object ms' ∧ Node.DeclaredBy ms' node' ∧ node.Shuffled node' := by
  obtain ⟨ms', rfl, hms⟩ := hv.exists_object
  refine ⟨ms', ?_⟩
  cases h with
  | reference keys ht =>
    have htarget : ms'.get? "$ref" = ms.get? "$ref" := hms.get?_eq rfl
    exact ⟨_, rfl, .reference (hms.keysAre keys) (htarget.trans ht), .reference⟩
  | union keys hb =>
    obtain ⟨v', hb', hv'⟩ := hms.get? hb
    obtain ⟨branches', rfl, hbranches⟩ := hv'.exists_array
    exact ⟨_, rfl, .union (hms.keysAre keys) hb', .union hbranches⟩
  | typed ht hn =>
    have htype : ms'.get? "type" = ms.get? "type" := hms.get?_eq rfl
    have hnullable : ms'.get? "nullable" = ms.get? "nullable" := hms.get?_eq rfl
    obtain ⟨node', hn', hnode⟩ := hn.exists_shuffled hms
    exact ⟨_, rfl, .typed (htype.trans ht) hn', hnullable ▸ .typed hnode⟩

/-! ## Schemas -/

/-- **A schema does not depend on the order of members** in the nodes it is read from. -/
theorem Schema.declaredBy_invariant : Json.Invariant .node (Schema.DeclaredBy components) := by
  intro v v' c hv h
  induction h using DeclaredBy.induct generalizing v' with
  | reference hn hs =>
    obtain ⟨ms', _, rfl, hn', hnode⟩ := hn.exists_shuffled hv
    cases hnode
    exact .reference hn' hs
  | union hn _ ih =>
    obtain ⟨ms', _, rfl, hn', hnode⟩ := hn.exists_shuffled hv
    cases hnode with
    | union hbranches =>
      refine .union hn' (branchesDeclaredBy_iff.2 (forall₂_of_forall₂ ?_ hbranches.flip ih))
      exact fun w' w s hw ⟨_, hs⟩ => hs w' hw
  | primitive hn hc =>
    obtain ⟨ms', _, rfl, hn', hnode⟩ := hn.exists_shuffled hv
    cases hnode with
    | typed hnode =>
      cases hnode
      exact .primitive hn' hc
  | array hn _ hc ih =>
    obtain ⟨ms', _, rfl, hn', hnode⟩ := hn.exists_shuffled hv
    cases hnode with
    | typed hnode =>
      cases hnode with
      | array hitems => exact .array hn' (ih _ hitems) hc
  | object hn _ hp hc iha ihp =>
    obtain ⟨ms', _, rfl, hn', hnode⟩ := hn.exists_shuffled hv
    cases hnode with
    | typed hnode =>
      cases hnode with
      | object hdeclared hbeside =>
        have hproperty : ∀ (_ : String) (w w' : Json) (s : Schema), Json.Shuffled .node w w' →
            (∃ _ : DeclaredBy components w s, ∀ v', Json.Shuffled .node w v' →
              DeclaredBy components v' s) → DeclaredBy components w' s :=
          fun _ _ w' _ hw ⟨_, hs⟩ => hs w' hw
        -- the properties are read in another order, and make the same map
        obtain ⟨properties', hproperties, heq⟩ := hdeclared.exists_ofList id hproperty ihp
        refine .object hn' ?_ (propertiesDeclaredBy_iff.2 hproperties) (heq ▸ hc)
        cases iha with
        | allowed =>
          cases hbeside
          exact .allowed
        | schema hs =>
          obtain ⟨_, hs⟩ := hs
          cases hbeside with
          | schema hw => exact .schema (hs _ hw)

end ApiContract
