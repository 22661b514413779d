import ApiContract.Proofs.Json.Reader
import ApiContract.Yaml.ToJson

/-!
# Proofs/Yaml/Conversion — which YAML values have a JSON form, and which form it is

A value has a JSON form when each value within it is `Admissible`: numbers are finite, and mappings
have scalar keys with texts of their own.  `Denotes` is what the form is: every element and every
entry is there in its place, and no tag is.  **`toJsonAt_eq_ok_iff`** says that these two are what
the conversion does.
-/

namespace ApiContract

namespace Yaml

/-- **Induction over the values within a value**, keys apart. -/
@[elab_as_elim]
theorem induct {motive : Yaml → Prop} (null : motive .null) (bool : ∀ b, motive (.bool b))
    (number : ∀ n, motive (.number n)) (string : ∀ s, motive (.string s))
    (sequence : ∀ items, (∀ v ∈ items, motive v) → motive (.sequence items))
    (mapping : ∀ entries : List (Yaml × Yaml), (∀ e ∈ entries, motive e.2) →
      motive (.mapping entries))
    (tagged : ∀ tag v, motive v → motive (.tagged tag v)) (y : Yaml) : motive y :=
  @Yaml.rec motive (fun items => ∀ v ∈ items, motive v) (fun entries => ∀ e ∈ entries, motive e.2)
    (fun e => motive e.2) null bool number string sequence mapping tagged
    nofun (fun _ _ hv ih => List.forall_mem_cons.2 ⟨hv, ih⟩)
    nofun (fun _ _ hv ih => List.forall_mem_cons.2 ⟨hv, ih⟩)
    (fun _ _ _ hv => hv) y

/-! ## Keys -/

/-- A key that is a text, a number or a flag, whatever its tags. -/
inductive IsScalar : Yaml → Prop
  | string {s : String} : IsScalar (.string s)
  | number {n : Number} : IsScalar (.number n)
  | bool {b : Bool} : IsScalar (.bool b)
  | tagged {tag : String} {v : Yaml} (h : IsScalar v) : IsScalar (.tagged tag v)

/-- The texts of the keys, in order. -/
def keyTexts (entries : List (Yaml × Yaml)) : List (Option String) :=
  entries.map fun e => keyText? e.1

/-- The keys that have a text are the scalar ones. -/
theorem exists_keyText_iff {k : Yaml} : (∃ text, keyText? k = some text) ↔ k.IsScalar := by
  constructor
  · intro h
    induction k using induct with
    | null | sequence | mapping =>
      rw [keyText?] at h
      exact absurd h nofun
    | bool => exact .bool
    | number => exact .number
    | string => exact .string
    | tagged _ v ih =>
      rw [keyText?] at h
      exact .tagged (ih h)
  · intro h
    induction h with
    | string | number | bool => exact ⟨_, rfl⟩
    | tagged _ ih =>
      rw [keyText?]
      exact ih

/-- The keys that have no text are those that are no scalars. -/
theorem keyText?_eq_none_iff {k : Yaml} : keyText? k = none ↔ ¬ k.IsScalar := by
  rw [← exists_keyText_iff, ← Option.isSome_iff_exists, Option.not_isSome_iff_eq_none]

/-! ## Values that have a JSON form -/

/-- A number that is neither an infinity nor NaN. -/
def Number.Finite : Number → Prop
  | int _ _ | float _ => True
  | infinity _ | nan => False

/-- The finite numbers are those that have a JSON form. -/
theorem Number.finite_iff {n : Number} : n.Finite ↔ ∃ j, n.toJson? = some j := by
  cases n <;> simp [Finite, toJson?]

/-- The numbers that have no JSON form are those that are not finite. -/
theorem Number.toJson?_eq_none_iff {n : Number} : n.toJson? = none ↔ ¬ n.Finite := by
  rw [finite_iff, ← Option.isSome_iff_exists, Option.not_isSome_iff_eq_none]

/-- **A value is within another**: it is that, or is within an element, the value of an entry or
what a tag stands before. -/
inductive Within : Yaml → Yaml → Prop
  | refl {y : Yaml} : Within y y
  | element {v x : Yaml} {items : List Yaml} (hx : x ∈ items) (h : Within v x) :
    Within v (.sequence items)
  | entry {v : Yaml} {e : Yaml × Yaml} {entries : List (Yaml × Yaml)} (he : e ∈ entries)
    (h : Within v e.2) : Within v (.mapping entries)
  | tagged {v x : Yaml} {tag : String} (h : Within v x) : Within v (.tagged tag x)

/-- **What a value asks of itself**, leaving out what is within it: a number is finite, and the keys
of a mapping are scalars, no two of one text. -/
def Admissible : Yaml → Prop
  | .number n => n.Finite
  | .mapping entries => (∀ e ∈ entries, e.1.IsScalar) ∧ (keyTexts entries).Nodup
  | _ => True

/-- **A value can be converted** when each value within it is admissible. -/
def Convertible (y : Yaml) : Prop := ∀ v : Yaml, v.Within y → v.Admissible

section Convertible

variable {n : Number} {items : List Yaml} {entries : List (Yaml × Yaml)} {tag : String} {v y : Yaml}

/-- A value with nothing within it can be converted when it is admissible. -/
theorem convertible_of_leaf (hleaf : ∀ v : Yaml, v.Within y → v = y) (h : y.Admissible) :
    y.Convertible :=
  fun v hv => hleaf v hv ▸ h

theorem convertible_null : Yaml.null.Convertible :=
  convertible_of_leaf (fun v hv => by cases hv; rfl) trivial

theorem convertible_bool {b : Bool} : (Yaml.bool b).Convertible :=
  convertible_of_leaf (fun v hv => by cases hv; rfl) trivial

theorem convertible_string {s : String} : (Yaml.string s).Convertible :=
  convertible_of_leaf (fun v hv => by cases hv; rfl) trivial

/-- A number can be converted when it is finite. -/
theorem convertible_number_iff : (Yaml.number n).Convertible ↔ n.Finite := by
  refine ⟨fun h => h _ .refl, fun h => convertible_of_leaf (fun v hv => ?_) h⟩
  cases hv
  rfl

/-- A sequence can be converted when its elements can. -/
theorem convertible_sequence_iff :
    (Yaml.sequence items).Convertible ↔ ∀ v ∈ items, v.Convertible := by
  constructor
  · exact fun h v hv w hw => h w (.element hv hw)
  · intro h w hw
    cases hw with
    | refl => trivial
    | element hx hw => exact h _ hx w hw

/-- A mapping can be converted when its keys are scalars of different texts, and its values can. -/
theorem convertible_mapping_iff :
    (Yaml.mapping entries).Convertible ↔
      (∀ e ∈ entries, e.1.IsScalar) ∧ (keyTexts entries).Nodup ∧
        ∀ e ∈ entries, e.2.Convertible := by
  constructor
  · intro h
    obtain ⟨scalar, distinct⟩ := h _ .refl
    exact ⟨scalar, distinct, fun e he w hw => h w (.entry he hw)⟩
  · rintro ⟨scalar, distinct, h⟩ w hw
    cases hw with
    | refl => exact ⟨scalar, distinct⟩
    | entry he hw => exact h _ he w hw

theorem convertible_mapping_nil : (Yaml.mapping []).Convertible :=
  convertible_mapping_iff.2 ⟨List.forall_mem_nil _, List.nodup_nil, List.forall_mem_nil _⟩

/-- A tag makes no difference to whether a value can be converted. -/
theorem convertible_tagged_iff : (Yaml.tagged tag v).Convertible ↔ v.Convertible := by
  constructor
  · exact fun h w hw => h w (.tagged hw)
  · intro h w hw
    cases hw with
    | refl => trivial
    | tagged hw => exact h w hw

end Convertible

/-- **The JSON form of a value**: sequences and mappings keep their elements and entries in order,
keys become their texts, and tags are dropped. -/
inductive Denotes : Yaml → Json → Prop
  | null : Denotes .null .null
  | bool {b : Bool} : Denotes (.bool b) (.bool b)
  | int {n : Int} {fits : Json.Fits n} : Denotes (.number (.int n fits)) (.number (.int n fits))
  | float {x : Binary64} : Denotes (.number (.float x)) (.number (.float x))
  | string {s : String} : Denotes (.string s) (.string s)
  | sequence {items : List Yaml} {vs : List Json} (h : List.Forall₂ Denotes items vs) :
    Denotes (.sequence items) (.array vs)
  | mapping {entries : List (Yaml × Yaml)} {ms : Members}
    (keys : keyTexts entries = ms.keys.map some)
    (values : List.Forall₂ Denotes (entries.map (·.2)) (ms.map (·.2))) :
    Denotes (.mapping entries) (.object ms)
  | tagged {tag : String} {v : Yaml} {j : Json} (h : Denotes v j) : Denotes (.tagged tag v) j

/-- Two relations hold of lists one by one when each does. -/
theorem forall₂_and_iff {α β : Type} {R S : α → β → Prop} {as : List α} {bs : List β} :
    List.Forall₂ (fun a b => R a b ∧ S a b) as bs ↔
      List.Forall₂ R as bs ∧ List.Forall₂ S as bs := by
  simp only [List.forall₂_iff_zip]
  constructor
  · rintro ⟨hlength, h⟩
    exact ⟨⟨hlength, fun hab => (h hab).1⟩, hlength, fun hab => (h hab).2⟩
  · rintro ⟨⟨hlength, hR⟩, -, hS⟩
    exact ⟨hlength, fun hab => ⟨hR hab, hS hab⟩⟩

section Denotes

variable {n : Number} {items : List Yaml} {entries : List (Yaml × Yaml)} {tag : String} {v : Yaml}
  {j : Json}

/-- A number denotes its JSON form, if it has one. -/
theorem denotes_number_iff : Denotes (.number n) j ↔ ∃ m, n.toJson? = some m ∧ m = j := by
  constructor
  · intro h
    cases h <;> exact ⟨_, rfl, rfl⟩
  · rintro ⟨_, h, rfl⟩
    cases n <;> cases h
    · exact .int
    · exact .float

/-- A sequence denotes the array of what its elements denote. -/
theorem denotes_sequence_iff :
    Denotes (.sequence items) j ↔ ∃ vs, List.Forall₂ Denotes items vs ∧ .array vs = j := by
  constructor
  · rintro ⟨⟩
    exact ⟨_, ‹_›, rfl⟩
  · rintro ⟨vs, h, rfl⟩
    exact .sequence h

/-- The entries of a mapping and the members are the same, one by one. -/
theorem denotes_mapping_iff :
    Denotes (.mapping entries) j ↔
      ∃ ms, List.Forall₂ (fun e m => keyText? e.1 = some m.1 ∧ Denotes e.2 m.2) entries ms ∧
        .object ms = j := by
  have hboth (ms : Members) :
      List.Forall₂ (fun e m => keyText? e.1 = some m.1 ∧ Denotes e.2 m.2) entries ms ↔
        keyTexts entries = ms.keys.map some ∧
          List.Forall₂ Denotes (entries.map (·.2)) (ms.map (·.2)) := by
    rw [List.forall₂_map_left_iff, List.forall₂_map_right_iff, keyTexts, Members.keys, List.map_map,
      ← List.forall₂_eq_eq_eq, List.forall₂_map_left_iff, List.forall₂_map_right_iff]
    exact forall₂_and_iff
  constructor
  · rintro ⟨⟩
    exact ⟨_, (hboth _).2 ⟨‹_›, ‹_›⟩, rfl⟩
  · rintro ⟨ms, h, rfl⟩
    obtain ⟨keys, values⟩ := (hboth ms).1 h
    exact .mapping keys values

/-- A tagged value denotes what the value does. -/
theorem denotes_tagged_iff : Denotes (.tagged tag v) j ↔ Denotes v j := by
  constructor
  · rintro ⟨⟩
    assumption
  · exact .tagged

end Denotes

/-! ## The conversion -/

section Conversion

variable {place : String} {i : Nat} {items : List Yaml} {vs : List Json} {seen : List String}
  {entries : List (Yaml × Yaml)} {ms : Members} {y : Yaml} {j : Json} {R : Yaml → Json → Prop}

/-- Elements are converted one by one. -/
theorem itemsToJson_eq_ok_iff (h : ∀ v ∈ items, ∀ place j, toJsonAt place v = .ok j ↔ R v j) :
    itemsToJson place i items = .ok vs ↔ List.Forall₂ R items vs := by
  induction items generalizing i vs with
  | nil =>
    rw [itemsToJson, List.forall₂_nil_left_iff, Except.ok.injEq]
    exact eq_comm
  | cons v rest ih =>
    obtain ⟨hv, hrest⟩ := List.forall_mem_cons.1 h
    rw [itemsToJson, List.forall₂_cons_left_iff]
    simp only [Checked.bind_eq_ok, Checked.pure_eq_ok, hv, ih hrest]
    constructor
    · rintro ⟨x, hx, xs, hxs, rfl⟩
      exact ⟨x, xs, hx, hxs, rfl⟩
    · rintro ⟨x, xs, hx, hxs, rfl⟩
      exact ⟨x, hx, xs, hxs, rfl⟩

/-- An entry with a new key is converted before the rest, which may not have that key. -/
theorem entriesToJson_cons_of_fresh {k v : Yaml} {key : String} (hk : keyText? k = some key)
    (fresh : key ∉ seen) :
    entriesToJson place seen ((k, v) :: entries) = (do
      let x ← toJsonAt (entryPlace place key) v
      return (key, x) :: (← entriesToJson place (key :: seen) entries)) := by
  rw [entriesToJson, hk]
  dsimp only
  rw [if_neg fun hc => fresh (List.contains_iff_mem.1 hc)]

/-- An entry whose key was there is refused at its place. -/
theorem entriesToJson_cons_of_seen {k v : Yaml} {key : String} (hk : keyText? k = some key)
    (twice : key ∈ seen) :
    entriesToJson place seen ((k, v) :: entries) =
      .error (.duplicateKey (entryPlace place key)) := by
  rw [entriesToJson, hk]
  dsimp only
  rw [if_pos (List.contains_iff_mem.2 twice)]

/-- An entry whose key is no scalar is refused at the place of the mapping. -/
theorem entriesToJson_cons_of_noText {k v : Yaml} (hk : keyText? k = none) :
    entriesToJson place seen ((k, v) :: entries) = .error (.notScalarKey place) := by
  rw [entriesToJson, hk]

/-- A key that was not there before is from then on one that was. -/
theorem fresh_cons_iff {key : String} {texts : List (Option String)} (fresh : key ∉ seen) :
    ((some key ∉ texts ∧ texts.Nodup) ∧ ∀ k ∈ seen, some k ∉ some key :: texts) ↔
      texts.Nodup ∧ ∀ k ∈ key :: seen, some k ∉ texts := by
  constructor
  · rintro ⟨⟨hkey, distinct⟩, hseen⟩
    exact ⟨distinct, List.forall_mem_cons.2 ⟨hkey,
      fun k hk hmem => hseen k hk (List.mem_cons_of_mem _ hmem)⟩⟩
  · rintro ⟨distinct, hseen⟩
    obtain ⟨hkey, hseen⟩ := List.forall_mem_cons.1 hseen
    refine ⟨⟨hkey, distinct⟩, fun k hk hmem => ?_⟩
    rcases List.mem_cons.1 hmem with heq | hmem
    · exact fresh (Option.some.inj heq ▸ hk)
    · exact hseen k hk hmem

/-- Entries are converted one by one, where their keys have texts and none of these was there
before. -/
theorem entriesToJson_eq_ok_iff
    (h : ∀ e ∈ entries, ∀ place j, toJsonAt place e.2 = .ok j ↔ R e.2 j) :
    entriesToJson place seen entries = .ok ms ↔
      ((keyTexts entries).Nodup ∧ ∀ key ∈ seen, some key ∉ keyTexts entries) ∧
        List.Forall₂ (fun e m => keyText? e.1 = some m.1 ∧ R e.2 m.2) entries ms := by
  induction entries generalizing seen ms with
  | nil => simp [entriesToJson, keyTexts, eq_comm]
  | cons e rest ih =>
    obtain ⟨k, v⟩ := e
    obtain ⟨hv, hrest⟩ := List.forall_mem_cons.1 h
    have hcons : keyTexts ((k, v) :: rest) = keyText? k :: keyTexts rest := rfl
    rw [hcons, List.nodup_cons, List.forall₂_cons_left_iff]
    cases hk : keyText? k with
    | none =>
      rw [entriesToJson_cons_of_noText hk]
      simp
    | some key =>
      by_cases hseen : key ∈ seen
      · rw [entriesToJson_cons_of_seen hk hseen]
        exact iff_of_false nofun fun ⟨⟨_, hall⟩, _⟩ => hall key hseen List.mem_cons_self
      · rw [entriesToJson_cons_of_fresh hk hseen]
        -- for the entries behind it this key has been seen
        simp only [Checked.bind_eq_ok, Checked.pure_eq_ok, hv, ih hrest]
        rw [fresh_cons_iff hseen]
        constructor
        · rintro ⟨x, hx, ms', ⟨hfresh, hms⟩, rfl⟩
          exact ⟨hfresh, (key, x), ms', ⟨rfl, hx⟩, hms, rfl⟩
        · rintro ⟨hfresh, ⟨_, x⟩, ms', ⟨heq, hx⟩, hms, rfl⟩
          cases heq
          exact ⟨x, hx, ms', ⟨hfresh, hms⟩, rfl⟩

/-- The entries of a mapping that are converted have scalar keys. -/
theorem isScalar_of_forall₂
    (h : List.Forall₂ (fun e m => keyText? e.1 = some m.1 ∧ R e.2 m.2) entries ms) :
    ∀ e ∈ entries, e.1.IsScalar := by
  intro e he
  obtain ⟨m, -, hkey, -⟩ := exists_mem_right_of_forall₂ h he
  exact exists_keyText_iff.1 ⟨m.1, hkey⟩

/-- **A value has a JSON form when it can be converted, and only then; the form is what it
denotes**, wherever it stands. -/
theorem toJsonAt_eq_ok_iff : toJsonAt place y = .ok j ↔ y.Convertible ∧ Denotes y j := by
  induction y using induct generalizing place j with
  | null =>
    rw [toJsonAt, Except.ok.injEq, and_iff_right convertible_null]
    exact ⟨fun h => h ▸ .null, fun h => by cases h; rfl⟩
  | bool b =>
    rw [toJsonAt, Except.ok.injEq, and_iff_right convertible_bool]
    exact ⟨fun h => h ▸ .bool, fun h => by cases h; rfl⟩
  | number n =>
    rw [toJsonAt, convertible_number_iff, Number.finite_iff, denotes_number_iff]
    cases n.toJson? <;> simp
  | string s =>
    rw [toJsonAt, Except.ok.injEq, and_iff_right convertible_string]
    exact ⟨fun h => h ▸ .string, fun h => by cases h; rfl⟩
  | sequence items ih =>
    rw [toJsonAt, Checked.map_eq_ok, convertible_sequence_iff, denotes_sequence_iff]
    simp only [itemsToJson_eq_ok_iff fun v hv place j => ih v hv, List.forall₂_and_left, and_assoc,
      exists_and_left]
  | mapping entries ih =>
    rw [toJsonAt, Checked.map_eq_ok, convertible_mapping_iff, denotes_mapping_iff]
    have hentries (ms : Members) :
        entriesToJson place [] entries = .ok ms ↔
          ((keyTexts entries).Nodup ∧ ∀ key ∈ [], some key ∉ keyTexts entries) ∧
            (∀ e ∈ entries, e.2.Convertible) ∧
            List.Forall₂ (fun e m => keyText? e.1 = some m.1 ∧ Denotes e.2 m.2) entries ms := by
      rw [entriesToJson_eq_ok_iff (R := fun v j => v.Convertible ∧ Denotes v j) fun e he place j =>
        ih e he, ← List.forall₂_and_left]
      simp only [and_left_comm]
    constructor
    · rintro ⟨ms, hms, rfl⟩
      obtain ⟨⟨distinct, -⟩, hvalues, hforms⟩ := (hentries ms).1 hms
      exact ⟨⟨isScalar_of_forall₂ hforms, distinct, hvalues⟩, ms, hforms, rfl⟩
    · rintro ⟨⟨-, distinct, hvalues⟩, ms, hforms, rfl⟩
      exact ⟨ms, (hentries ms).2 ⟨⟨distinct, nofun⟩, hvalues, hforms⟩, rfl⟩
  | tagged tag v ih => rw [toJsonAt, ih, convertible_tagged_iff, denotes_tagged_iff]

/-- What can be converted denotes something. -/
theorem Convertible.exists_denotes (h : y.Convertible) : ∃ j, Denotes y j := by
  induction y using induct with
  | null => exact ⟨_, .null⟩
  | bool => exact ⟨_, .bool⟩
  | string => exact ⟨_, .string⟩
  | number n =>
    obtain ⟨j, hj⟩ := Number.finite_iff.1 (convertible_number_iff.1 h)
    exact ⟨j, denotes_number_iff.2 ⟨j, hj, rfl⟩⟩
  | sequence items ih =>
    have hitems := convertible_sequence_iff.1 h
    obtain ⟨vs, hvs⟩ := exists_forall₂_iff.2 fun v hv => ih v hv (hitems v hv)
    exact ⟨_, .sequence hvs⟩
  | mapping entries ih =>
    obtain ⟨scalar, -, hvalues⟩ := convertible_mapping_iff.1 h
    have hforms :
        ∀ e ∈ entries, ∃ m : String × Json, keyText? e.1 = some m.1 ∧ Denotes e.2 m.2 := by
      intro e he
      obtain ⟨key, hkey⟩ := exists_keyText_iff.2 (scalar e he)
      obtain ⟨j, hj⟩ := ih e he (hvalues e he)
      exact ⟨(key, j), hkey, hj⟩
    obtain ⟨ms, hms⟩ := exists_forall₂_iff.2 hforms
    exact ⟨_, denotes_mapping_iff.2 ⟨ms, hms, rfl⟩⟩
  | tagged tag v ih =>
    obtain ⟨j, hj⟩ := ih (convertible_tagged_iff.1 h)
    exact ⟨j, .tagged hj⟩

/-- **A value has a JSON form exactly when it can be converted.** -/
theorem exists_toJsonAt_iff : (∃ j, toJsonAt place y = .ok j) ↔ y.Convertible := by
  simp only [toJsonAt_eq_ok_iff, exists_and_left, and_iff_left_iff_imp]
  exact Convertible.exists_denotes

end Conversion

end Yaml

end ApiContract
