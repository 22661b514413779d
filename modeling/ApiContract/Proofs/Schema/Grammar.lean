import ApiContract.Proofs.Document.Check
import ApiContract.Proofs.Keyed
import ApiContract.Proofs.Schema.Canonical

/-!
# Proofs/Schema/Grammar — induction over the grammar of schema nodes

The lists in the grammar are element by element (`branchesDeclaredBy_iff`,
`propertiesDeclaredBy_iff`), so the four relations of `Schema.DeclaredBy` are one.
**`DeclaredBy.induct`** is the induction over it: what holds of every node right below one holds of
that.  `DeclaredBy.keeps` is the one for what is said of the schema alone: what holds of the
components holds of whatever is read against them.
-/

namespace ApiContract

/-- What stands beside the properties, related by flag or by schema. -/
inductive Additional.Rel {σ τ : Type} (R : σ → τ → Prop) : Additional σ → Additional τ → Prop
  | allowed {flag : Bool} : Rel R (.allowed flag) (.allowed flag)
  | schema {s : σ} {t : τ} (h : R s t) : Rel R (.schema s) (.schema t)

namespace Schema

variable {components : Components}

theorem branchesDeclaredBy_iff {vs : List Json} {ss : List Schema} :
    BranchesDeclaredBy components vs ss ↔ List.Forall₂ (DeclaredBy components) vs ss := by
  induction vs generalizing ss with
  | nil =>
    rw [List.forall₂_nil_left_iff]
    constructor
    · rintro ⟨⟩
      rfl
    · rintro rfl
      exact .nil
  | cons v vs ih =>
    simp only [List.forall₂_cons_left_iff, ← ih]
    constructor
    · intro h
      cases h with
      | cons hs hss => exact ⟨_, _, hs, hss, rfl⟩
    · rintro ⟨_, _, hs, hss, rfl⟩
      exact .cons hs hss

theorem propertiesDeclaredBy_iff {ms : Members} {ss : List (String × Schema)} :
    PropertiesDeclaredBy components ms ss ↔
      List.Forall₂ (fun m q => m.1 = q.1 ∧ DeclaredBy components m.2 q.2) ms ss := by
  induction ms generalizing ss with
  | nil =>
    rw [List.forall₂_nil_left_iff]
    constructor
    · rintro ⟨⟩
      rfl
    · rintro rfl
      exact .nil
  | cons m ms ih =>
    simp only [List.forall₂_cons_left_iff, ← ih]
    constructor
    · intro h
      cases h with
      | cons hs hss => exact ⟨_, _, ⟨rfl, hs⟩, hss, rfl⟩
    · rintro ⟨⟨_, _⟩, _, ⟨rfl, hs⟩, hss, rfl⟩
      exact .cons hs hss

/-- **Induction over the grammar**: what holds of every node right below one holds of that. -/
@[elab_as_elim]
theorem DeclaredBy.induct {motive : (v : Json) → (c : Schema) → DeclaredBy components v c → Prop}
    (reference : ∀ {ms : Members} {name : String} {s : Schema}
      (hn : (Node.reference (.string ("#/components/schemas/" ++ name))).DeclaredBy ms)
      (hs : Keyed.get? name components = some s), motive (.object ms) s (.reference hn hs))
    (union : ∀ {ms : Members} {branches : List Json} {ss : List Schema}
      (hn : (Node.union branches).DeclaredBy ms) (hb : BranchesDeclaredBy components branches ss),
      List.Forall₂ (fun v s => ∃ h, motive v s h) branches ss →
      motive (.object ms) (.oneOf ss) (.union hn hb))
    (primitive : ∀ {ms : Members} {s c : Schema} {nullable : Option Json}
      (hn : (Node.typed (.primitive s) nullable).DeclaredBy ms) (hc : Nulled nullable s c),
      motive (.object ms) c (.primitive hn hc))
    (array : ∀ {ms : Members} {v : Json} {items c : Schema} {nullable : Option Json}
      (hn : (Node.typed (.array v) nullable).DeclaredBy ms) (hi : DeclaredBy components v items)
      (hc : Nulled nullable (.array items) c), motive v items hi →
      motive (.object ms) c (.array hn hi hc))
    (object : ∀ {ms declared : Members} {required : List String} {beside : Additional Json}
      {additional : Additional Schema} {properties : List (String × Schema)}
      {c : Schema} {nullable : Option Json}
      (hn : (Node.typed (.object declared required beside) nullable).DeclaredBy ms)
      (ha : AdditionalDeclaredBy components beside additional)
      (hp : PropertiesDeclaredBy components declared properties)
      (hc : Nulled nullable (.object (Keyed.ofList properties) required additional) c),
      beside.Rel (fun v s => ∃ h, motive v s h) additional →
      List.Forall₂ (fun m q => m.1 = q.1 ∧ ∃ h, motive m.2 q.2 h) declared properties →
      motive (.object ms) c (.object hn ha hp hc))
    {v : Json} {c : Schema} (h : DeclaredBy components v c) : motive v c h :=
  @DeclaredBy.rec components motive
    (fun beside additional _ => beside.Rel (fun v s => ∃ h, motive v s h) additional)
    (fun vs ss _ => List.Forall₂ (fun v s => ∃ h, motive v s h) vs ss)
    (fun ms ss _ => List.Forall₂
      (fun (m : String × Json) (q : String × Schema) => m.1 = q.1 ∧ ∃ h, motive m.2 q.2 h) ms ss)
    reference union primitive array object
    .allowed (fun hs ih => .schema ⟨hs, ih⟩)
    .nil (fun hs _ ih ihs => .cons ⟨hs, ih⟩ ihs)
    .nil (fun hs _ ih ihs => .cons ⟨rfl, hs, ih⟩ ihs) v c h

/-- **What reading keeps**: what holds of the components holds of a schema that is read against
them, if it holds of one when it holds of those right below. -/
theorem DeclaredBy.keeps {P : Schema → Prop} (components_keep : ∀ q ∈ components, P q.2)
    (union : ∀ {branches}, (∀ b ∈ branches, P b) → P (.oneOf branches))
    (primitive : ∀ {ms : Members} {s c : Schema} {nullable : Option Json},
      (Node.typed (.primitive s) nullable).DeclaredBy ms → Nulled nullable s c → P c)
    (array : ∀ {items c : Schema} {nullable : Option Json},
      P items → Nulled nullable (.array items) c → P c)
    (object : ∀ {ms declared : Members} {required : List String} {beside : Additional Json}
      {additional : Additional Schema} {properties : List (String × Schema)}
      {c : Schema} {nullable : Option Json},
      (Node.typed (.object declared required beside) nullable).DeclaredBy ms →
      PropertiesDeclaredBy components declared properties → (∀ q ∈ properties, P q.2) →
      (∀ s, additional = .schema s → P s) →
      Nulled nullable (.object (Keyed.ofList properties) required additional) c → P c)
    {v : Json} {c : Schema} (h : DeclaredBy components v c) : P c := by
  induction h using DeclaredBy.induct with
  | reference _ hs =>
    obtain ⟨q, hq, -, rfl⟩ := Keyed.exists_mem_of_get? hs
    exact components_keep q hq
  | union _ _ ih =>
    refine union fun b hb => ?_
    obtain ⟨_, -, _, hb⟩ := exists_mem_of_forall₂ ih hb
    exact hb
  | primitive hn hc => exact primitive hn hc
  | array _ _ hc ih => exact array ih hc
  | object hn _ hp hc iha ihp =>
    refine object hn hp (fun q hq => ?_) (fun s hs => ?_) hc
    · obtain ⟨_, -, -, _, hq⟩ := exists_mem_of_forall₂ ihp hq
      exact hq
    · subst hs
      cases iha with
      | schema hs => exact hs.choose_spec

end Schema

end ApiContract
