import ApiContract.Proofs.Yaml.Conversion

/-!
# Proofs/Yaml/Image — YAML values of one JSON form

Tags make no difference to the JSON form of a value, nor to what is told when there is none
(**`Yaml.toJsonAt_untagged`**).  And every JSON value that repeats no key is the form of some YAML
value, of its image (**`Json.toJson_toYaml`**): a document is the same in both notations.
-/

namespace ApiContract

namespace Yaml

/-! ## Tags -/

mutual

/-- The value without its tags, at any depth and in keys. -/
def untagged : Yaml → Yaml
  | null => .null
  | bool b => .bool b
  | number n => .number n
  | string s => .string s
  | sequence items => .sequence (untaggedItems items)
  | mapping entries => .mapping (untaggedEntries entries)
  | tagged _ v => v.untagged

/-- Each element without its tags. -/
def untaggedItems : List Yaml → List Yaml
  | [] => []
  | v :: rest => v.untagged :: untaggedItems rest

/-- Each key and each value without its tags. -/
def untaggedEntries : List (Yaml × Yaml) → List (Yaml × Yaml)
  | [] => []
  | (k, v) :: rest => (k.untagged, v.untagged) :: untaggedEntries rest

end

section Tags

variable {place : String} {y : Yaml}

/-- The text of a key is that without its tags. -/
theorem keyText?_untagged : keyText? y.untagged = keyText? y := by
  induction y using induct with
  | null | bool | number | string | sequence | mapping => rfl
  | tagged _ v ih => rw [untagged, keyText?, ih]

/-- **Tags make no difference**, neither to the JSON form nor to what is told when there is none. -/
theorem toJsonAt_untagged : toJsonAt place y.untagged = toJsonAt place y := by
  induction y using induct generalizing place with
  | null | bool | number | string => rfl
  | sequence items ih =>
    have hitems (i : Nat) :
        itemsToJson place i (untaggedItems items) = itemsToJson place i items := by
      induction items generalizing i with
      | nil => rw [untaggedItems]
      | cons v rest ihrest =>
        obtain ⟨hv, hrest⟩ := List.forall_mem_cons.1 ih
        rw [untaggedItems, itemsToJson, itemsToJson, hv, ihrest hrest]
    rw [untagged, toJsonAt, toJsonAt, hitems]
  | mapping entries ih =>
    have hentries (seen : List String) :
        entriesToJson place seen (untaggedEntries entries) = entriesToJson place seen entries := by
      induction entries generalizing seen with
      | nil => rw [untaggedEntries]
      | cons e rest ihrest =>
        obtain ⟨hv, hrest⟩ := List.forall_mem_cons.1 ih
        rw [untaggedEntries, entriesToJson, entriesToJson, keyText?_untagged]
        simp only [hv, ihrest hrest]
    rw [untagged, toJsonAt, toJsonAt, hentries]
  | tagged _ v ih => rw [untagged, toJsonAt, ih]

end Tags

end Yaml

/-! ## JSON values as YAML values -/

/-- A JSON number as a YAML number. -/
def Json.Number.toYaml : Json.Number → Yaml.Number
  | int n fits => .int n fits
  | float x => .float x

namespace Json

mutual

/-- **The YAML image of a JSON value**: the same value, keys being strings. -/
def toYaml : Json → Yaml
  | null => .null
  | bool b => .bool b
  | number n => .number n.toYaml
  | string s => .string s
  | array items => .sequence (itemsToYaml items)
  | object ms => .mapping (membersToYaml ms)

/-- The image of each element. -/
def itemsToYaml : List Json → List Yaml
  | [] => []
  | v :: rest => v.toYaml :: itemsToYaml rest

/-- The image of each member. -/
def membersToYaml : Members → List (Yaml × Yaml)
  | [] => []
  | (key, v) :: rest => (.string key, v.toYaml) :: membersToYaml rest

end

theorem itemsToYaml_eq (items : List Json) : itemsToYaml items = items.map toYaml := by
  induction items with
  | nil => rw [itemsToYaml, List.map_nil]
  | cons v rest ih => rw [itemsToYaml, ih, List.map_cons]

theorem membersToYaml_eq (ms : Members) :
    membersToYaml ms = ms.map fun m => (.string m.1, m.2.toYaml) := by
  induction ms with
  | nil => rw [membersToYaml, List.map_nil]
  | cons m rest ih => rw [membersToYaml, ih, List.map_cons]

/-- The keys of an image are the keys. -/
theorem keyTexts_membersToYaml (ms : Members) :
    Yaml.keyTexts (membersToYaml ms) = ms.keys.map some := by
  rw [membersToYaml_eq, Yaml.keyTexts, Members.keys, List.map_map, List.map_map]
  rfl

variable {v : Json}

/-- The image of a value that repeats no key can be converted. -/
theorem HasDistinctKeys.convertible (h : v.HasDistinctKeys) : v.toYaml.Convertible := by
  induction h with
  | null => exact Yaml.convertible_null
  | bool => exact Yaml.convertible_bool
  | string => exact Yaml.convertible_string
  | @number n =>
    rw [toYaml, Yaml.convertible_number_iff]
    cases n <;> trivial
  | array _ ih =>
    rw [toYaml, itemsToYaml_eq, Yaml.convertible_sequence_iff]
    exact List.forall_mem_map.2 ih
  | @object ms keys _ ih =>
    rw [toYaml, Yaml.convertible_mapping_iff, keyTexts_membersToYaml, membersToYaml_eq]
    refine ⟨List.forall_mem_map.2 fun m hm => .string, ?_, List.forall_mem_map.2 ih⟩
    exact keys.map fun _ _ => Option.some.inj

/-- An image denotes what it is the image of. -/
theorem denotes_toYaml (h : v.HasDistinctKeys) : Yaml.Denotes v.toYaml v := by
  induction h with
  | null => exact .null
  | bool => exact .bool
  | string => exact .string
  | @number n => cases n <;> constructor
  | array _ ih =>
    rw [toYaml, itemsToYaml_eq]
    exact .sequence (List.forall₂_map_left_iff.2 (List.forall₂_same.2 ih))
  | @object ms keys _ ih =>
    refine .mapping (keyTexts_membersToYaml ms) ?_
    rw [membersToYaml_eq, List.map_map, List.forall₂_map_left_iff, List.forall₂_map_right_iff,
      List.forall₂_same]
    exact ih

/-- **A JSON value is the form of its image.** -/
theorem toJson_toYaml (h : v.HasDistinctKeys) : Yaml.toJson v.toYaml = .ok v :=
  Yaml.toJsonAt_eq_ok_iff.2 ⟨h.convertible, denotes_toYaml h⟩

end Json

end ApiContract
