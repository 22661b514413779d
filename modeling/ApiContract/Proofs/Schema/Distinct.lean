import ApiContract.Proofs.Keyed
import ApiContract.Proofs.Document.Schemas
import ApiContract.Proofs.Schema.Conformance
import ApiContract.Proofs.Schema.Grammar

/-!
# Proofs/Schema/Distinct — the maps and sets in a schema that is read

**`hasMaps_of_declaredBy`**: where the properties of every object in the components are a map and
what it requires is a set, they are in every schema that is read against them.  Both are built key
by key in ascending order, so the names in them differ.
-/

namespace ApiContract.Schema

variable {components : Components}

/-- **A schema of maps and sets**: the properties of each object in it ascend, and it requires each
name once. -/
def HasMaps (c : Schema) : Prop :=
  ∀ properties required additional, (object properties required additional).Within c →
    Keyed.Ascending properties ∧ required.Nodup

/-- The names in maps and sets differ. -/
theorem HasMaps.hasDistinctNames {c : Schema} (h : c.HasMaps) : c.HasDistinctNames :=
  fun properties required additional hw =>
    (h properties required additional hw).imp_left Keyed.Ascending.nodup

theorem HasMaps.within {s c : Schema} (h : c.HasMaps) (hs : s.Within c) : s.HasMaps :=
  fun properties required additional ho => h properties required additional (ho.trans hs)

/-! ## Form by form -/

theorem HasMaps.object {properties : List (String × Schema)} {required : List String}
    {additional : Additional Schema} (names : Keyed.Ascending properties) (hr : required.Nodup)
    (hp : ∀ q ∈ properties, q.2.HasMaps) (ha : ∀ s, additional = .schema s → s.HasMaps) :
    (Schema.object properties required additional).HasMaps := by
  intro properties' required' additional' hw
  cases hw with
  | refl => exact ⟨names, hr⟩
  | property hm h => exact hp _ hm _ _ _ h
  | additional h => exact ha _ rfl _ _ _ h

theorem HasMaps.array {items : Schema} (h : items.HasMaps) : (Schema.array items).HasMaps := by
  intro properties required additional hw
  cases hw with
  | items hw => exact h _ _ _ hw

theorem HasMaps.oneOf {branches : List Schema} (h : ∀ s ∈ branches, s.HasMaps) :
    (Schema.oneOf branches).HasMaps := by
  intro properties required additional hw
  cases hw with
  | branch hm hw => exact h _ hm _ _ _ hw

theorem HasMaps.null : Schema.null.HasMaps := fun _ _ _ hw => nomatch hw

theorem HasMaps.orNull {s : Schema} (h : s.HasMaps) : s.orNull.HasMaps := by
  have hunion : (Schema.oneOf [s, .null]).HasMaps :=
    .oneOf (List.forall_mem_cons.2 ⟨h, List.forall_mem_cons.2 ⟨.null, List.forall_mem_nil _⟩⟩)
  cases s with
  | object => exact hunion
  | array => exact hunion
  | oneOf => exact hunion
  | null => exact h
  | string => exact fun _ _ _ hw => nomatch hw
  | integer => exact fun _ _ _ hw => nomatch hw
  | boolean => exact fun _ _ _ hw => nomatch hw
  | float => exact fun _ _ _ hw => nomatch hw

theorem HasMaps.nulled {nullable : Option Json} {s c : Schema} (h : s.HasMaps)
    (hc : Nulled nullable s c) : c.HasMaps := by
  cases hc with
  | absent => exact h
  | null => exact h
  | off => exact h
  | on hnull =>
    obtain rfl := withNull_iff.1 hnull
    exact h.orNull

/-- What an object requires is a set. -/
theorem nodup_of_object {ms declared : Members} {required : List String}
    {beside : Additional Json} {nullable : Option Json}
    (h : (Node.typed (.object declared required beside) nullable).DeclaredBy ms) :
    required.Nodup := by
  cases h with
  | typed ht hn =>
    cases hn with
    | object keys hp hr ha =>
      generalize ms.get? "required" = v at hr
      cases hr with
      | absent => exact .nil
      | listed => exact Keyed.nodup_keysOf

/-- A primitive schema has no objects. -/
theorem hasMaps_of_primitive {ms : Members} {s : Schema} {nullable : Option Json}
    (h : (Node.typed (.primitive s) nullable).DeclaredBy ms) : s.HasMaps := by
  cases h with
  | typed ht hn =>
    cases hn with
    | string => exact fun _ _ _ hw => nomatch hw
    | integer => exact fun _ _ _ hw => nomatch hw
    | boolean => exact fun _ _ _ hw => nomatch hw
    | float => exact fun _ _ _ hw => nomatch hw

/-! ## Every node -/

/-- **Reading makes maps and sets**, and keeps those of the components. -/
theorem hasMaps_of_declaredBy (h : ∀ q ∈ components, q.2.HasMaps) {v : Json} {c : Schema}
    (hc : DeclaredBy components v c) : c.HasMaps := by
  refine hc.keeps h .oneOf (fun hn hc => (hasMaps_of_primitive hn).nulled hc)
    (fun hi hc => (HasMaps.array hi).nulled hc) fun hn _ hproperties hadditional hc => ?_
  have hbelow : ∀ q ∈ Keyed.ofList _, HasMaps q.2 :=
    fun q hq => hproperties q (Keyed.mem_of_mem_ofList hq)
  exact (HasMaps.object Keyed.ascending_ofList (nodup_of_object hn) hbelow hadditional).nulled hc

/-- **The components are schemas of maps and sets.** -/
theorem hasMaps_of_componentsOf {place : Option Json} (h : componentsOf place = .ok components) :
    ∀ q ∈ components, q.2.HasMaps := by
  intro q hq
  obtain ⟨v, hv⟩ := exists_declaredBy_of_componentsOf h hq
  exact hasMaps_of_declaredBy (List.forall_mem_nil _) hv

end ApiContract.Schema

/-- **Every schema of a body is one of maps and sets.** -/
theorem ApiContract.Contract.hasMaps_of_bodySchema {document : Json} {c : Contract}
    (hc : Contract.ofJson document = .ok c) {s : Schema} (hs : s ∈ c.bodySchemas) : s.HasMaps :=
  of_mem_bodySchemas (fun _ _ _ h hs => Schema.hasMaps_of_declaredBy h hs) hc hs
