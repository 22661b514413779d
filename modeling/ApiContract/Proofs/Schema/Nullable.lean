import ApiContract.Proofs.Schema.Canonical

/-!
# Proofs/Schema/Nullable — a node without its `nullable`

A node that is nullable is read as the same node without the key, made to accept null
(`Schema.exists_declaredBy_without`).  It is no union, and its values are listed where its own
members list them, which is what decides whether null is in fact accepted.
-/

namespace ApiContract

/-- The members of other keys. -/
def Members.without (ms : Members) (key : String) : Members := ms.filter fun m => m.1 ≠ key

/-- Whether a primitive schema lists its values. -/
def Schema.isEnumerated : Schema → Bool
  | string rules => rules.members.isSome
  | integer rules => rules.members.isSome
  | boolean rules => rules.members.isSome
  | float rules => rules.members.isSome
  | _ => false

namespace Members

variable {ms : Members} {key other : String} {required optional : List String}

/-- Without a key, every other has what it had. -/
theorem get?_without_of_ne (h : other ≠ key) : (ms.without key).get? other = ms.get? other := by
  unfold without get?
  induction ms with
  | nil => rfl
  | cons m ms ih =>
    obtain ⟨k, v⟩ := m
    rw [List.filter_cons]
    by_cases hk : k = key
    · have hother : (other == k) = false := beq_false_of_ne fun he => h (he.trans hk)
      rw [if_neg (by simp [hk]), ih, List.lookup_cons, hother]
    · rw [if_pos (by simp [hk]), List.lookup_cons, List.lookup_cons, ih]

theorem mem_keys_without : other ∈ (ms.without key).keys ↔ other ∈ ms.keys ∧ other ≠ key := by
  unfold without keys
  simp only [List.mem_map, List.mem_filter, decide_eq_true_eq]
  constructor
  · rintro ⟨m, ⟨hm, hne⟩, rfl⟩
    exact ⟨⟨m, hm, rfl⟩, hne⟩
  · rintro ⟨⟨m, hm, rfl⟩, hne⟩
    exact ⟨m, ⟨hm, hne⟩, rfl⟩

@[simp] theorem get?_without_self : (ms.without key).get? key = none :=
  get?_eq_none_iff.2 fun h => (mem_keys_without.1 h).2 rfl

/-- An object keeps to its keys without one that it may have. -/
theorem KeysAre.without (h : ms.KeysAre required optional) (hkey : key ∉ required) :
    (ms.without key).KeysAre required optional :=
  ⟨fun k hk => mem_keys_without.2 ⟨h.complete k hk, fun he => hkey (he ▸ hk)⟩,
    fun k hk => h.known k (mem_keys_without.1 hk).1⟩

end Members

variable {ms : Members} {components : Components}

/-- What a node declares beside its type does not depend on its `nullable`. -/
theorem TypedNode.DeclaredBy.without {type : String} {node : TypedNode}
    (h : node.DeclaredBy ms type) : node.DeclaredBy (ms.without "nullable") type := by
  have hget {key : String} (hkey : key ≠ "nullable") :
      (ms.without "nullable").get? key = ms.get? key :=
    Members.get?_without_of_ne hkey
  cases h with
  | object keys hp hr ha =>
    exact .object (keys.without (by decide)) (by rwa [hget (by decide)]) (by rwa [hget (by decide)])
      (by rwa [hget (by decide)])
  | array keys hi => exact .array (keys.without (by decide)) (by rwa [hget (by decide)])
  | string keys he hp hl =>
    exact .string (keys.without (by decide)) (by rwa [hget (by decide)]) (by rwa [hget (by decide)])
      (by rwa [hget (by decide)])
  | integer keys he => exact .integer (keys.without (by decide)) (by rwa [hget (by decide)])
  | boolean keys he => exact .boolean (keys.without (by decide)) (by rwa [hget (by decide)])
  | float keys he => exact .float (keys.without (by decide)) (by rwa [hget (by decide)])

/-- A node of a type is one without its `nullable`, and says nothing of null then. -/
theorem Node.DeclaredBy.without {node : TypedNode} {nullable : Option Json}
    (h : (Node.typed node nullable).DeclaredBy ms) :
    (Node.typed node none).DeclaredBy (ms.without "nullable") := by
  have hnullable : (ms.without "nullable").get? "nullable" = none := Members.get?_without_self
  cases h with
  | typed ht hn =>
    have ht' : (ms.without "nullable").get? "type" = _ :=
      (Members.get?_without_of_ne (by decide)).trans ht
    rw [← hnullable]
    exact .typed ht' hn.without

theorem Node.DeclaredBy.nullable_eq {node : TypedNode} {nullable : Option Json}
    (h : (Node.typed node nullable).DeclaredBy ms) : nullable = ms.get? "nullable" := by
  cases h with
  | typed => rfl

/-- Values are listed exactly under the key for that. -/
theorem Json.Enumerates.isSome_eq {α : Type} {reads : Json → α → Prop} {v : Option Json}
    {members : Option (List α)} (h : Enumerates reads v members) : members.isSome = v.isSome := by
  cases h <;> rfl

namespace Node

variable {s : Schema} {node : TypedNode} {nullable : Option Json}

/-- A primitive schema is no union, and lists its values where its node does. -/
theorem DeclaredBy.primitive (h : (Node.typed (.primitive s) nullable).DeclaredBy ms) :
    (∀ branches, s ≠ .oneOf branches) ∧ s.isEnumerated = (ms.get? "enum").isSome := by
  cases h with
  | typed ht hn =>
    cases hn with
    | string keys he => exact ⟨nofun, he.isSome_eq⟩
    | integer keys he => exact ⟨nofun, he.isSome_eq⟩
    | boolean keys he => exact ⟨nofun, he.isSome_eq⟩
    | float keys he => exact ⟨nofun, he.isSome_eq⟩

/-- The node of an object or an array lists no values. -/
theorem DeclaredBy.get?_enum_eq_none (h : (Node.typed node nullable).DeclaredBy ms)
    (hnode : ∀ s, node ≠ .primitive s) : ms.get? "enum" = none := by
  rw [Members.get?_eq_none_iff]
  intro hk
  cases h with
  | typed ht hn =>
    cases hn with
    | object keys => exact absurd (keys.known _ hk) (by decide)
    | array keys => exact absurd (keys.known _ hk) (by decide)
    | string => exact hnode _ rfl
    | integer => exact hnode _ rfl
    | boolean => exact hnode _ rfl
    | float => exact hnode _ rfl

end Node

/-- **A nullable node** is read as it is without `nullable`, made to accept null; and is no
union. -/
theorem Schema.exists_declaredBy_without {c : Schema} (hn : ms.get? "nullable" = some (.bool true))
    (h : Schema.DeclaredBy components (.object ms) c) :
    ∃ s, Schema.DeclaredBy components (.object (ms.without "nullable")) s ∧ c = s.orNull ∧
      (∀ branches, s ≠ .oneOf branches) ∧ s.isEnumerated = (ms.get? "enum").isSome := by
  have hone {key : String} (keys : ms.KeysAre [key] []) (hne : "nullable" ≠ key) : False := by
    rw [Node.get?_eq_none_of_single keys hne] at hn
    cases hn
  cases h with
  | reference hnode =>
    cases hnode with
    | reference keys => exact (hone keys (by decide)).elim
  | union hnode =>
    cases hnode with
    | union keys => exact (hone keys (by decide)).elim
  | primitive hnode hc =>
    obtain rfl := hnode.nullable_eq.trans hn
    cases hc with
    | on h =>
      exact ⟨_, .primitive hnode.without .absent, (Schema.withNull_iff.1 h).symm, hnode.primitive⟩
  | array hnode hi hc =>
    obtain rfl := hnode.nullable_eq.trans hn
    cases hc with
    | on h =>
      rw [hnode.get?_enum_eq_none nofun]
      exact ⟨_, .array hnode.without hi .absent, (Schema.withNull_iff.1 h).symm, nofun, rfl⟩
  | object hnode ha hp hc =>
    obtain rfl := hnode.nullable_eq.trans hn
    cases hc with
    | on h =>
      rw [hnode.get?_enum_eq_none nofun]
      exact ⟨_, .object hnode.without ha hp .absent, (Schema.withNull_iff.1 h).symm, nofun, rfl⟩

end ApiContract
