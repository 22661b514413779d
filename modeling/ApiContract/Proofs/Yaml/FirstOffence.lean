import ApiContract.Proofs.Yaml.Image

/-!
# Proofs/Yaml/FirstOffence — what is told of a YAML value without a JSON form

`FirstOffence` is the first thing amiss in document order, with the steps that lead there: of an
entry it is the kind of the key, then a text that was there before, then what is amiss in the
value.  **`toJsonAt_eq_error_iff`** says that it is what is told, at the place at the end of the
steps.  **`toJson_outcome`** joins this to what the form is when there is one.
-/

namespace ApiContract

namespace Yaml

/-! ## Places -/

/-- A step into a value: to the value under a key, or to an element. -/
inductive Step where
  | key (k : String)
  | element (i : Nat)

/-- The text of a step that is not the first. -/
def Step.text : Step → String
  | key k => ":" ++ k
  | element i => "[" ++ toString i ++ "]"

/-- The texts of steps, one behind the other. -/
def stepsText (steps : List Step) : String := String.join (steps.map Step.text)

theorem stepsText_cons {step : Step} {steps : List Step} :
    stepsText (step :: steps) = step.text ++ stepsText steps := by
  rw [stepsText, List.map_cons, String.join_cons]
  rfl

/-- **The place at the end of steps from the root**: keys are joined with colons, the first
following a slash. -/
def location : List Step → String
  | .key k :: steps => "/" ++ k ++ stepsText steps
  | steps => stepsText steps

/-- The place that a step leads to. -/
def Step.under (place : String) : Step → String
  | key k => entryPlace place k
  | element i => elementPlace place i

/-- The place that steps lead to. -/
def placeAfter (place : String) : List Step → String
  | [] => place
  | step :: steps => placeAfter (step.under place) steps

/-- From anywhere but the root steps are told one behind the other. -/
theorem placeAfter_of_ne_root {place : String} {steps : List Step} (h : place ≠ "") :
    placeAfter place steps = place ++ stepsText steps := by
  induction steps generalizing place with
  | nil => rw [placeAfter, stepsText, List.map_nil, String.join_nil, String.append_empty]
  | cons step steps ih =>
    have hunder : step.under place = place ++ step.text := by
      cases step with
      | key k =>
        rw [Step.under, entryPlace, if_neg fun hp => h (String.isEmpty_iff.1 hp), Step.text]
      | element i => rfl
    have hne : place ++ step.text ≠ "" := fun heq => h (String.append_eq_empty_iff.1 heq).1
    rw [placeAfter, hunder, ih hne, stepsText_cons, String.append_assoc]

/-- From the root they are told as the place at their end. -/
theorem placeAfter_root {steps : List Step} : placeAfter "" steps = location steps := by
  cases steps with
  | nil => rfl
  | cons step steps =>
    cases step with
    | key k =>
      have hplace : Step.under "" (.key k) = "/" ++ k := rfl
      have hne : "/" ++ k ≠ "" := fun heq => absurd (String.append_eq_empty_iff.1 heq).1 (by decide)
      rw [placeAfter, hplace, placeAfter_of_ne_root hne]
      rfl
    | element i =>
      have hplace : Step.under "" (.element i) = Step.text (.element i) := String.empty_append
      have hne : Step.text (.element i) ≠ "" :=
        fun heq => absurd (String.append_eq_empty_iff.1 heq).2 (by decide)
      rw [placeAfter, hplace, placeAfter_of_ne_root hne, ← stepsText_cons]
      rfl

/-! ## The first offence -/

/-- **The first thing amiss in a value**, in document order, with the steps that lead to where it is
told.  All that stands before it can be converted. -/
inductive FirstOffence : Yaml → List Step → (String → ConvertError) → Prop
  | number {n : Number} (h : ¬ n.Finite) : FirstOffence (.number n) [] (.notFinite n)
  | element {before after : List Yaml} {v : Yaml} {steps : List Step}
    {offence : String → ConvertError}
    (fine : (Yaml.sequence before).Convertible) (h : FirstOffence v steps offence) :
    FirstOffence (.sequence (before ++ v :: after)) (.element before.length :: steps) offence
  | keyKind {before after : List (Yaml × Yaml)} {k v : Yaml}
    (fine : (Yaml.mapping before).Convertible) (h : ¬ k.IsScalar) :
    FirstOffence (.mapping (before ++ (k, v) :: after)) [] .notScalarKey
  | keyTwice {before after : List (Yaml × Yaml)} {k v : Yaml} {key : String}
    (fine : (Yaml.mapping before).Convertible) (hk : keyText? k = some key)
    (twice : some key ∈ keyTexts before) :
    FirstOffence (.mapping (before ++ (k, v) :: after)) [.key key] .duplicateKey
  | entry {before after : List (Yaml × Yaml)} {k v : Yaml} {key : String} {steps : List Step}
    {offence : String → ConvertError}
    (fine : (Yaml.mapping before).Convertible) (hk : keyText? k = some key)
    (fresh : some key ∉ keyTexts before) (h : FirstOffence v steps offence) :
    FirstOffence (.mapping (before ++ (k, v) :: after)) (.key key :: steps) offence
  | tagged {tag : String} {v : Yaml} {steps : List Step} {offence : String → ConvertError}
    (h : FirstOffence v steps offence) : FirstOffence (.tagged tag v) steps offence

/-- **Why an entry fails** after entries with the texts `Taken`: for the kind of its key, for a text
that is taken, or for its value. -/
inductive EntryFails (place : String) (Taken : String → Prop) (k v : Yaml) : ConvertError → Prop
  | keyKind (h : keyText? k = none) : EntryFails place Taken k v (.notScalarKey place)
  | keyTwice {key : String} (hk : keyText? k = some key) (twice : Taken key) :
    EntryFails place Taken k v (.duplicateKey (entryPlace place key))
  | value {key : String} {e : ConvertError} (hk : keyText? k = some key) (fresh : ¬ Taken key)
    (h : toJsonAt (entryPlace place key) v = .error e) : EntryFails place Taken k v e

section Errors

variable {place : String} {i : Nat} {items : List Yaml} {seen : List String}
  {entries : List (Yaml × Yaml)} {k v y : Yaml} {e : ConvertError}

/-- Elements fail with the first, or after it. -/
theorem itemsToJson_cons_eq_error_iff :
    itemsToJson place i (v :: items) = .error e ↔
      toJsonAt (elementPlace place i) v = .error e ∨
        v.Convertible ∧ itemsToJson place (i + 1) items = .error e := by
  have hv : (∃ j, toJsonAt (elementPlace place i) v = .ok j) ↔ v.Convertible := exists_toJsonAt_iff
  rw [itemsToJson, Checked.bind_eq_error_iff, ← hv]
  simp only [Checked.bind_eq_error_iff, pure, Except.pure, reduceCtorEq, and_false, exists_false,
    or_false, exists_and_right]

/-- **Elements are converted up to the first that fails.** -/
theorem itemsToJson_eq_error_iff :
    itemsToJson place i items = .error e ↔
      ∃ before v after, items = before ++ v :: after ∧ (Yaml.sequence before).Convertible ∧
        toJsonAt (elementPlace place (i + before.length)) v = .error e := by
  induction items generalizing i with
  | nil => simp [itemsToJson]
  | cons v rest ih =>
    rw [itemsToJson_cons_eq_error_iff, exists_split_cons_iff, ih]
    simp only [convertible_sequence_iff, List.forall_mem_cons, List.length_cons, Nat.add_assoc,
      Nat.add_comm 1]
    refine or_congr (and_iff_right (List.forall_mem_nil _)).symm ⟨?_, ?_⟩
    · rintro ⟨hv, before, x, after, heq, hbefore, h⟩
      exact ⟨before, x, after, heq, ⟨hv, hbefore⟩, h⟩
    · rintro ⟨before, x, after, heq, ⟨hv, hbefore⟩, h⟩
      exact ⟨hv, before, x, after, heq, hbefore, h⟩

section EntryFails

variable {Taken : String → Prop} {key : String}

theorem entryFails_of_noText (hk : keyText? k = none) :
    EntryFails place Taken k v e ↔ .notScalarKey place = e := by
  constructor
  · intro h
    cases h with
    | keyKind => rfl
    | keyTwice hk' | value hk' => cases hk.symm.trans hk'
  · rintro rfl
    exact .keyKind hk

theorem entryFails_of_taken (hk : keyText? k = some key) (twice : Taken key) :
    EntryFails place Taken k v e ↔ .duplicateKey (entryPlace place key) = e := by
  constructor
  · intro h
    cases h with
    | keyKind hk' => cases hk.symm.trans hk'
    | keyTwice hk' => rw [Option.some.inj (hk.symm.trans hk')]
    | value hk' fresh => exact absurd (Option.some.inj (hk.symm.trans hk') ▸ twice) fresh
  · rintro rfl
    exact .keyTwice hk twice

theorem entryFails_of_fresh (hk : keyText? k = some key) (fresh : ¬ Taken key) :
    EntryFails place Taken k v e ↔ toJsonAt (entryPlace place key) v = .error e := by
  constructor
  · intro h
    cases h with
    | keyKind hk' => cases hk.symm.trans hk'
    | keyTwice hk' twice => exact absurd (Option.some.inj (hk.symm.trans hk') ▸ twice) fresh
    | value hk' _ h => rwa [Option.some.inj (hk.symm.trans hk')]
  · exact .value hk fresh

end EntryFails

/-- Entries fail with the first, or after it, where its key counts as seen. -/
theorem entriesToJson_cons_eq_error_iff :
    entriesToJson place seen ((k, v) :: entries) = .error e ↔
      EntryFails place (· ∈ seen) k v e ∨
        ∃ key, keyText? k = some key ∧ key ∉ seen ∧ v.Convertible ∧
          entriesToJson place (key :: seen) entries = .error e := by
  cases hk : keyText? k with
  | none =>
    rw [entriesToJson_cons_of_noText hk, entryFails_of_noText hk]
    simp
  | some key =>
    by_cases hseen : key ∈ seen
    · rw [entriesToJson_cons_of_seen hk hseen, entryFails_of_taken hk hseen]
      simp [hseen]
    · have hv : (∃ j, toJsonAt (entryPlace place key) v = .ok j) ↔ v.Convertible :=
        exists_toJsonAt_iff
      rw [entriesToJson_cons_of_fresh hk hseen, entryFails_of_fresh hk hseen,
        Checked.bind_eq_error_iff, ← hv]
      simp only [Checked.bind_eq_error_iff, pure, Except.pure, reduceCtorEq, and_false,
        exists_false, or_false, exists_and_right, Option.some.injEq, exists_eq_left', hseen,
        not_false_eq_true, true_and]

/-- Entries can be converted when the first can and the others can after it. -/
theorem convertible_cons_iff :
    (Yaml.mapping ((k, v) :: entries)).Convertible ∧
        (∀ key ∈ seen, some key ∉ keyTexts ((k, v) :: entries)) ↔
      ∃ key, keyText? k = some key ∧ key ∉ seen ∧ v.Convertible ∧
        (Yaml.mapping entries).Convertible ∧ ∀ k ∈ key :: seen, some k ∉ keyTexts entries := by
  have hcons {key : String} (hk : keyText? k = some key) :
      keyTexts ((k, v) :: entries) = some key :: keyTexts entries := hk ▸ rfl
  simp only [convertible_mapping_iff, List.forall_mem_cons (a := (k, v))]
  constructor
  · rintro ⟨⟨⟨hscalar, scalar⟩, distinct, hv, values⟩, hseen⟩
    obtain ⟨key, hk⟩ := exists_keyText_iff.2 hscalar
    rw [hcons hk] at distinct hseen
    have fresh : key ∉ seen := fun h => hseen key h List.mem_cons_self
    obtain ⟨distinct, hseen⟩ := (fresh_cons_iff fresh).1 ⟨List.nodup_cons.1 distinct, hseen⟩
    exact ⟨key, hk, fresh, hv, ⟨scalar, distinct, values⟩, hseen⟩
  · rintro ⟨key, hk, fresh, hv, ⟨scalar, distinct, values⟩, hseen⟩
    rw [hcons hk]
    obtain ⟨distinct, hseen⟩ := (fresh_cons_iff fresh).2 ⟨distinct, hseen⟩
    have hscalar := exists_keyText_iff.1 ⟨key, hk⟩
    exact ⟨⟨⟨hscalar, scalar⟩, List.nodup_cons.2 distinct, hv, values⟩, hseen⟩

/-- What is taken after an entry: what was before, and the text of its key. -/
theorem taken_cons {key : String} (hk : keyText? k = some key) :
    (fun text => text ∈ seen ∨ some text ∈ keyTexts ((k, v) :: entries)) =
      fun text => text ∈ key :: seen ∨ some text ∈ keyTexts entries := by
  funext text
  rw [keyTexts, List.map_cons, hk, List.mem_cons, List.mem_cons, Option.some.injEq, or_left_comm,
    or_assoc]
  rfl

/-- **Entries are converted up to the first that fails.** -/
theorem entriesToJson_eq_error_iff :
    entriesToJson place seen entries = .error e ↔
      ∃ before entry after, entries = before ++ entry :: after ∧
        ((Yaml.mapping before).Convertible ∧ ∀ key ∈ seen, some key ∉ keyTexts before) ∧
        EntryFails place (fun key => key ∈ seen ∨ some key ∈ keyTexts before)
          entry.1 entry.2 e := by
  induction entries generalizing seen with
  | nil => simp [entriesToJson]
  | cons entry rest ih =>
    obtain ⟨k, v⟩ := entry
    -- The key of a first entry that is fine counts as seen for the others: it moves from the
    -- entries to `seen`.
    rw [entriesToJson_cons_eq_error_iff, exists_split_cons_iff]
    simp only [ih, convertible_cons_iff]
    refine or_congr ?_ ⟨?_, ?_⟩
    · simp [keyTexts, convertible_mapping_nil]
    · rintro ⟨key, hk, fresh, hv, before, entry, after, heq, hbefore, h⟩
      refine ⟨before, entry, after, heq, ⟨key, hk, fresh, hv, hbefore⟩, ?_⟩
      rwa [taken_cons hk]
    · rintro ⟨before, entry, after, heq, ⟨key, hk, fresh, hv, hbefore⟩, h⟩
      rw [taken_cons hk] at h
      exact ⟨key, hk, fresh, hv, before, entry, after, heq, hbefore, h⟩

/-- **What is told is the first offence, at the place that its steps lead to.** -/
theorem toJsonAt_eq_error_iff :
    toJsonAt place y = .error e ↔
      ∃ steps offence, FirstOffence y steps offence ∧ e = offence (placeAfter place steps) := by
  induction y using induct generalizing place with
  | null | bool | string => exact iff_of_false nofun fun ⟨_, _, h, _⟩ => nomatch h
  | number n =>
    rw [toJsonAt]
    constructor
    · intro h
      split at h
      next => cases h
      next hn =>
        cases h
        exact ⟨[], _, .number (Number.toJson?_eq_none_iff.1 hn), rfl⟩
    · rintro ⟨_, _, h, rfl⟩
      cases h with
      | number hn =>
        rw [Number.toJson?_eq_none_iff.2 hn]
        rfl
  | sequence items ih =>
    rw [toJsonAt, Checked.map_eq_error_iff, itemsToJson_eq_error_iff]
    simp only [Nat.zero_add]
    constructor
    · rintro ⟨before, v, after, rfl, fine, h⟩
      obtain ⟨steps, offence, hv, rfl⟩ := (ih v List.mem_append_cons_self).1 h
      exact ⟨_, offence, .element fine hv, rfl⟩
    · rintro ⟨_, offence, h, rfl⟩
      cases h with
      | element fine hv =>
        exact ⟨_, _, _, rfl, fine, (ih _ List.mem_append_cons_self).2 ⟨_, offence, hv, rfl⟩⟩
  | mapping entries ih =>
    -- No key was seen before the first entry, so what is taken is just what stands before the entry
    -- that fails.
    rw [toJsonAt, Checked.map_eq_error_iff, entriesToJson_eq_error_iff]
    simp only [List.not_mem_nil, false_or, IsEmpty.forall_iff, implies_true, and_true]
    constructor
    · rintro ⟨before, ⟨k, v⟩, after, rfl, fine, h⟩
      cases h with
      | keyKind hk => exact ⟨[], _, .keyKind fine (keyText?_eq_none_iff.1 hk), rfl⟩
      | keyTwice hk twice => exact ⟨_, _, .keyTwice fine hk twice, rfl⟩
      | value hk fresh h =>
        obtain ⟨steps, offence, hv, rfl⟩ := (ih (k, v) List.mem_append_cons_self).1 h
        exact ⟨_, offence, .entry fine hk fresh hv, rfl⟩
    · rintro ⟨_, offence, h, rfl⟩
      cases h with
      | keyKind fine hk => exact ⟨_, (_, _), _, rfl, fine, .keyKind (keyText?_eq_none_iff.2 hk)⟩
      | keyTwice fine hk twice => exact ⟨_, (_, _), _, rfl, fine, .keyTwice hk twice⟩
      | entry fine hk fresh hv =>
        exact ⟨_, (_, _), _, rfl, fine,
          .value hk fresh ((ih _ List.mem_append_cons_self).2 ⟨_, offence, hv, rfl⟩)⟩
  | tagged tag v ih =>
    rw [toJsonAt, ih]
    constructor
    · rintro ⟨steps, offence, h, rfl⟩
      exact ⟨steps, offence, .tagged h, rfl⟩
    · rintro ⟨steps, offence, h, rfl⟩
      cases h with
      | tagged h => exact ⟨steps, offence, h, rfl⟩

end Errors

/-- **What becomes of a value.**  It has a JSON form exactly when it can be converted, and the form
keeps all of it but the tags, which make no difference at all; every JSON value is the form of its
image.  Otherwise it is the first offence that is told, at its place. -/
theorem toJson_outcome (y : Yaml) :
    ((∃ j, toJson y = .ok j) ↔ y.Convertible) ∧ (∀ j, toJson y = .ok j → Denotes y j) ∧
    (∀ j : Json, j.HasDistinctKeys → toJson j.toYaml = .ok j) ∧
    toJson y.untagged = toJson y ∧
    ∀ e, toJson y = .error e ↔
      ∃ steps offence, FirstOffence y steps offence ∧ e = offence (location steps) := by
  refine ⟨exists_toJsonAt_iff, fun j h => (toJsonAt_eq_ok_iff.1 h).2,
    fun j h => Json.toJson_toYaml h, toJsonAt_untagged, fun e => ?_⟩
  rw [toJson, toJsonAt_eq_error_iff]
  simp only [placeAfter_root]

/-- Two responses, for a status that is a number in one key and a text in the other. -/
def sameStatus : Yaml :=
  .mapping [(.string "responses", .mapping
    [(.number (.int 200 (by decide)), .mapping []),
      (.tagged "!status" (.string "200"), .number .nan)])]

/-- The second key is the first offence, not the value under it, with the tag or without.  Keys that
differ in letter case are two keys. -/
theorem sameStatus_outcome :
    (∃ steps offence, FirstOffence sameStatus steps offence ∧
      ConvertError.duplicateKey "/responses:200" = offence (location steps)) ∧
    toJson sameStatus.untagged = .error (.duplicateKey "/responses:200") ∧
    toJson (Json.object [("ok", .null), ("OK", .array [])]).toYaml =
      .ok (.object [("ok", .null), ("OK", .array [])]) := by
  obtain ⟨-, -, himage, htags, herror⟩ := toJson_outcome sameStatus
  have htold : toJson sameStatus = .error (.duplicateKey "/responses:200") := rfl
  refine ⟨(herror _).1 htold, htags.trans htold, himage _ (.object (by decide) ?_)⟩
  exact List.forall_mem_cons.2 ⟨.null, List.forall_mem_singleton.2 (.array (List.forall_mem_nil _))⟩

end Yaml

end ApiContract
