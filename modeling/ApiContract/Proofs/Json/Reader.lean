import ApiContract.Json.Reader
import ApiContract.Proofs.Document.Check

/-!
# Proofs/Json/Reader — what is read has no key twice

**`hasDistinctKeys_of_read`**: in a value that is read from a text, no object has a key twice, at
any depth.  An object is read by inserting its members one after the other, and a member of a key
that is there takes its place.
-/

namespace ApiContract

/-- A value in which no object has a key twice. -/
inductive Json.HasDistinctKeys : Json → Prop
  | null : HasDistinctKeys .null
  | bool {b : Bool} : HasDistinctKeys (.bool b)
  | number {n : Json.Number} : HasDistinctKeys (.number n)
  | string {s : String} : HasDistinctKeys (.string s)
  | array {items : List Json} (h : ∀ v ∈ items, HasDistinctKeys v) : HasDistinctKeys (.array items)
  | object {ms : Members} (keys : ms.keys.Nodup) (h : ∀ m ∈ ms, HasDistinctKeys m.2) :
    HasDistinctKeys (.object ms)

section Below

variable {ms : Members} {m : String × Json} {key : String} {v : Json} {items : List Json}

@[simp] theorem Json.hasDistinctKeys_string {s : String} : (Json.string s).HasDistinctKeys :=
  .string

@[simp] theorem Json.hasDistinctKeys_bool {b : Bool} : (Json.bool b).HasDistinctKeys := .bool

/-- An array has no keys of its own. -/
@[simp] theorem Json.hasDistinctKeys_array_iff :
    (Json.array items).HasDistinctKeys ↔ ∀ v ∈ items, v.HasDistinctKeys := by
  constructor
  · rintro ⟨⟩
    assumption
  · exact .array

/-- The keys of an object differ, and so do those at any depth below its members. -/
@[simp] theorem Json.hasDistinctKeys_object_iff :
    (Json.object ms).HasDistinctKeys ↔ ms.keys.Nodup ∧ ∀ m ∈ ms, m.2.HasDistinctKeys := by
  constructor
  · rintro ⟨⟩
    exact ⟨‹_›, ‹_›⟩
  · rintro ⟨keys, h⟩
    exact .object keys h

theorem Json.HasDistinctKeys.keys (h : (Json.object ms).HasDistinctKeys) : ms.keys.Nodup :=
  (hasDistinctKeys_object_iff.1 h).1

/-- The keys below a member differ. -/
theorem Json.HasDistinctKeys.member (h : (Json.object ms).HasDistinctKeys) (hm : m ∈ ms) :
    m.2.HasDistinctKeys :=
  (hasDistinctKeys_object_iff.1 h).2 m hm

/-- The keys below a member that is looked up differ. -/
theorem Json.HasDistinctKeys.get? (h : (Json.object ms).HasDistinctKeys)
    (hv : ms.get? key = some v) : v.HasDistinctKeys :=
  h.member ((Members.get?_eq_some_iff h.keys).1 hv)

/-- The keys below an element differ. -/
theorem Json.HasDistinctKeys.element (h : (Json.array items).HasDistinctKeys) (hv : v ∈ items) :
    v.HasDistinctKeys :=
  hasDistinctKeys_array_iff.1 h v hv

end Below

namespace Members

variable {ms : Members} {key : String} {v : Json}

/-- A key that is there keeps its place, and a new one comes last. -/
theorem keys_insert :
    (ms.insert key v).keys = if key ∈ ms.keys then ms.keys else ms.keys ++ [key] := by
  unfold insert
  simp only [has_iff]
  split_ifs with h
  · rw [keys, keys, List.map_map]
    refine List.map_congr_left fun m _ => ?_
    by_cases hm : m.1 = key
    · simp [hm]
    · simp [hm]
  · simp [keys]

/-- Inserting a member adds no key twice. -/
theorem nodup_keys_insert (h : ms.keys.Nodup) : (ms.insert key v).keys.Nodup := by
  rw [keys_insert]
  split_ifs with hkey
  · exact h
  · exact List.nodup_append.2 ⟨h, List.pairwise_singleton _ _, fun a ha b hb => by
      rw [List.mem_singleton.1 hb]
      exact ne_of_mem_of_not_mem ha hkey⟩

/-- A member after an insertion is the inserted one, or was there. -/
theorem mem_of_mem_insert {m : String × Json} (h : m ∈ ms.insert key v) :
    m = (key, v) ∨ m ∈ ms := by
  unfold insert at h
  split_ifs at h
  · obtain ⟨m', hm', rfl⟩ := List.mem_map.1 h
    split_ifs
    · exact .inl rfl
    · exact .inr hm'
  · exact (List.mem_append.1 h).symm.imp_left List.mem_singleton.1

end Members

namespace Json

/-! ## Numbers -/

/-- A reader of numbers yields a number, if anything. -/
def YieldsNumber (r : Except Fault (Json × List Char)) : Prop :=
  ∀ v rest, r = .ok (v, rest) → ∃ n, v = .number n

section Number

variable {negative : Bool} {n : Nat} {exponent : Int} {text : List Char}

/-- A float that is not in range is a fault. -/
theorem float_yields : YieldsNumber (float negative n exponent text) := by
  unfold float
  split
  next x hx =>
    rintro v rest ⟨⟩
    exact ⟨_, rfl⟩
  next => exact nofun

/-- An exponent is followed by nothing but the number it belongs to. -/
theorem exponentPart_yields : YieldsNumber (exponentPart negative n exponent text) := by
  unfold exponentPart
  split
  split
  next => rintro _ _ ⟨⟩
  next =>
    split
    next => rintro _ _ ⟨⟩
    next =>
      split
      next => exact float_yields
      next =>
        split_ifs
        · rintro _ _ ⟨⟩
        · rintro v rest ⟨⟩
          exact ⟨_, rfl⟩

theorem afterFraction_yields : YieldsNumber (afterFraction negative n exponent text) := by
  unfold afterFraction
  split
  next =>
    split_ifs
    · exact exponentPart_yields
    · exact float_yields
  next => exact float_yields

/-- The digits of a fraction are read by recursion: each way it ends is that of a number or a fault.
-/
theorem fractionDigits_yields {taken : Nat} :
    YieldsNumber (fractionDigits negative exponent n taken text) := by
  fun_induction fractionDigits negative exponent n taken text with
  | case1 => exact afterFraction_yields
  | case2 _ _ _ _ _ _ _ ih => exact ih
  | case3 => rintro _ _ ⟨⟩
  | case4 => exact afterFraction_yields
  | case5 => rintro _ _ ⟨⟩
  | case6 => exact float_yields

/-- The digits that no longer fit are counted, and a float comes of them. -/
theorem longInteger_yields {e : Nat} : YieldsNumber (longInteger negative n e text) := by
  fun_induction longInteger negative n e text with
  | case1 _ _ _ _ ih => exact ih
  | case2 => exact fractionDigits_yields
  | case3 => exact exponentPart_yields
  | case4 => exact float_yields
  | case5 => exact float_yields

theorem integer_yields : YieldsNumber (.ok (integer negative n text)) := by
  rintro v rest ⟨⟩
  unfold ofInt?
  split_ifs <;> exact ⟨_, rfl⟩

/-- The digits of an integer end in a number, a fraction or an exponent. -/
theorem integerDigits_yields : YieldsNumber (integerDigits negative n text) := by
  fun_induction integerDigits negative n text with
  | case1 => exact longInteger_yields
  | case2 _ _ _ _ _ _ ih => exact ih
  | case3 => exact fractionDigits_yields
  | case4 => exact exponentPart_yields
  | case5 => exact integer_yields
  | case6 => exact integer_yields

/-- **A number is read, if anything.** -/
theorem numberText_yields : YieldsNumber (numberText negative text) := by
  unfold numberText
  split
  next => rintro _ _ ⟨⟩
  next =>
    split
    next => rintro _ _ ⟨⟩
    next =>
      split
      next =>
        split_ifs
        · rintro _ _ ⟨⟩
        · exact integerDigits_yields
      next => exact integerDigits_yields
    next => exact integerDigits_yields

/-- A number has no keys. -/
theorem hasDistinctKeys_of_numberValue {v : Json} {rest}
    (h : numberValue negative text = .ok (v, rest)) : v.HasDistinctKeys := by
  unfold numberValue at h
  split at h
  next => cases h
  next hv =>
    cases h
    obtain ⟨m, rfl⟩ := numberText_yields _ _ hv
    exact .number

end Number

/-! ## Values -/

/-- A step on a part of a text yields what it yields on its own. -/
theorem Step.within_eq_ok {α : Type} {text whole : List Char} {h : text.length ≤ whole.length}
    {s : Step α text} {a : α} {rest} (hs : s.within h = .ok (a, rest)) :
    ∃ rest', s = .ok (a, rest') := by
  obtain ⟨⟨_, rest'⟩, hs', hr⟩ := Checked.map_eq_ok.1 hs
  cases hr
  exact ⟨rest', hs'⟩

/-- A word that is read yields its value. -/
theorem eq_of_wordValue {expected : String} {v w : Json} {text : List Char} {c : Char} {rest}
    (h : wordValue expected v text c = .ok (w, rest)) : w = v := by
  obtain ⟨_, -, hr⟩ := Checked.map_eq_ok.1 h
  cases hr
  rfl

/-! The readers call each other on shorter texts; those of elements and members are given what was
read so far. -/

mutual

/-- **A value has no key twice at any depth**, by the readers of its elements and members. -/
theorem hasDistinctKeys_of_value {nesting : Nat} {text : List Char} {v : Json} {rest}
    (h : value nesting text = .ok (v, rest)) : v.HasDistinctKeys := by
  rw [value] at h
  split at h
  next => cases h
  next c cs hc _ =>
    have : cs.length < text.length := hc
    dsimp only at h
    -- One word or one first character after the other, as the reader asks for them.
    obtain ⟨-, h⟩ | ⟨-, h⟩ := ite_eq_iff.1 h
    · obtain ⟨_, h⟩ := Step.within_eq_ok h
      rw [eq_of_wordValue h]
      exact .null
    obtain ⟨-, h⟩ | ⟨-, h⟩ := ite_eq_iff.1 h
    · obtain ⟨_, h⟩ := Step.within_eq_ok h
      rw [eq_of_wordValue h]
      exact .bool
    obtain ⟨-, h⟩ | ⟨-, h⟩ := ite_eq_iff.1 h
    · obtain ⟨_, h⟩ := Step.within_eq_ok h
      rw [eq_of_wordValue h]
      exact .bool
    obtain ⟨-, h⟩ | ⟨-, h⟩ := ite_eq_iff.1 h
    · obtain ⟨_, h⟩ := Step.within_eq_ok h
      exact hasDistinctKeys_of_numberValue h
    obtain ⟨-, h⟩ | ⟨-, h⟩ := ite_eq_iff.1 h
    · obtain ⟨_, h⟩ := Step.within_eq_ok h
      exact hasDistinctKeys_of_numberValue h
    obtain ⟨-, h⟩ | ⟨-, h⟩ := ite_eq_iff.1 h
    · obtain ⟨_, -, hr⟩ := Checked.map_eq_ok.1 h
      cases hr
      exact .string
    obtain ⟨-, h⟩ | ⟨-, h⟩ := ite_eq_iff.1 h
    · obtain ⟨-, h⟩ | ⟨-, h⟩ := ite_eq_iff.1 h
      · cases h
      obtain ⟨⟨items, _⟩, hs, hr⟩ := Checked.map_eq_ok.1 h
      cases hr
      exact .array (hasDistinctKeys_of_elements (List.forall_mem_nil _) hs)
    obtain ⟨-, h⟩ | ⟨-, h⟩ := ite_eq_iff.1 h
    · obtain ⟨-, h⟩ | ⟨-, h⟩ := ite_eq_iff.1 h
      · cases h
      obtain ⟨⟨ms, _⟩, hs, hr⟩ := Checked.map_eq_ok.1 h
      have hnil : (Members.keys []).Nodup := .nil
      obtain ⟨hkeys, hms⟩ := hasDistinctKeys_of_membersFrom hnil (List.forall_mem_nil _) hs
      cases hr
      exact .object hkeys hms
    · cases h
termination_by 3 * text.length

/-- Elements are added to those that were read so far. -/
theorem hasDistinctKeys_of_elements {nesting : Nat} {first : Bool} {done vs : List Json}
    {text : List Char} {rest} (hdone : ∀ v ∈ done, v.HasDistinctKeys)
    (h : elements nesting first done text = .ok (vs, rest)) : ∀ v ∈ vs, v.HasDistinctKeys := by
  rw [elements] at h
  split at h
  next => cases h
  next c cs hc _ =>
    have : cs.length + 1 ≤ text.length := hc
    dsimp only at h
    split_ifs at h
    · cases h
      exact fun v hv => hdone v (List.mem_reverse.1 hv)
    · exact hasDistinctKeys_of_element hdone h
    · split at h
      next => cases h
      next d ds hd _ =>
        have : ds.length + 1 ≤ cs.length := hd
        split_ifs at h
        exact hasDistinctKeys_of_element hdone h
termination_by 3 * text.length + 2

/-- One more element, and those after it. -/
theorem hasDistinctKeys_of_element {nesting : Nat} {done vs : List Json} {text whole : List Char}
    {hw : text.length ≤ whole.length} {rest} (hdone : ∀ v ∈ done, v.HasDistinctKeys)
    (h : element nesting done text hw = .ok (vs, rest)) : ∀ v ∈ vs, v.HasDistinctKeys := by
  rw [element] at h
  split at h
  next => cases h
  next v more hmore hv =>
    obtain ⟨_, h⟩ := Step.within_eq_ok h
    have hvs : ∀ w ∈ v :: done, w.HasDistinctKeys :=
      List.forall_mem_cons.2 ⟨hasDistinctKeys_of_value hv, hdone⟩
    exact hasDistinctKeys_of_elements hvs h
termination_by 3 * text.length + 1

/-- Members are inserted among those that were read so far. -/
theorem hasDistinctKeys_of_membersFrom {nesting : Nat} {first : Bool} {done ms : Members}
    {text : List Char} {rest} (hkeys : done.keys.Nodup) (hdone : ∀ m ∈ done, m.2.HasDistinctKeys)
    (h : membersFrom nesting first done text = .ok (ms, rest)) :
    ms.keys.Nodup ∧ ∀ m ∈ ms, m.2.HasDistinctKeys := by
  rw [membersFrom] at h
  split at h
  next => cases h
  next c cs hc _ =>
    have : cs.length < text.length := hc
    dsimp only at h
    split_ifs at h
    · cases h
      exact ⟨hkeys, hdone⟩
    · exact hasDistinctKeys_of_member hkeys hdone h
    · split at h
      next => cases h
      next d ds hd _ =>
        have : ds.length + 1 ≤ cs.length := hd
        split_ifs at h
        exact hasDistinctKeys_of_member hkeys hdone h
termination_by 3 * text.length + 2

/-- One more member, and those after it. -/
theorem hasDistinctKeys_of_member {nesting : Nat} {done ms : Members} {text whole : List Char}
    {hw : text.length ≤ whole.length} {rest} (hkeys : done.keys.Nodup)
    (hdone : ∀ m ∈ done, m.2.HasDistinctKeys) (h : member nesting done text hw = .ok (ms, rest)) :
    ms.keys.Nodup ∧ ∀ m ∈ ms, m.2.HasDistinctKeys := by
  rw [member] at h
  split at h
  next => cases h
  next key afterKey hk _ =>
    split at h
    next => cases h
    next c cs hc _ =>
      have : cs.length < text.length := Nat.lt_trans (Nat.lt_of_succ_le hc) hk
      dsimp only at h
      split_ifs at h
      split at h
      next => cases h
      next v more hmore hv =>
        obtain ⟨_, h⟩ := Step.within_eq_ok h
        refine hasDistinctKeys_of_membersFrom (Members.nodup_keys_insert hkeys) (fun m hm => ?_) h
        rcases Members.mem_of_mem_insert hm with rfl | hm
        · exact hasDistinctKeys_of_value hv
        · exact hdone m hm
termination_by 3 * text.length + 1

end

/-- **In a value that is read no object has a key twice.** -/
theorem hasDistinctKeys_of_read {text : String} {v : Json} (h : read text = .ok v) :
    v.HasDistinctKeys := by
  unfold read readWithin at h
  dsimp only at h
  split at h
  next => cases h
  next w rest hw heq =>
    split at h
    next =>
      cases h
      exact hasDistinctKeys_of_value heq
    next => cases h

end Json

end ApiContract
