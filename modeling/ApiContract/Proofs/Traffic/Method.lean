import ApiContract.Proofs.Text.LetterCase
import ApiContract.Proofs.Traffic.Resolution

/-!
# Proofs/Traffic/Method — methods in any letter case

The method of a request is put in lower case before it is read as one, and reading folds the letters
of ASCII once more.  No name of a method has a `k`, so the two foldings come to the same
(`Method.parse?_lowerCase`), and a text is read as a method when it is a recased form of its name
(`Method.parse?_eq_some_iff_recased`).  **`Method.foldings_agree`** adds what this means for the
operation that a request is routed to.
-/

namespace ApiContract

namespace Method

variable {s : String} {m : Method}

/-- A method has a small name. -/
theorem name_small (m : Method) : Text.SmallWord m.name := by
  cases m <;> exact ⟨by decide, List.all_iff_forall_prop.1 (by decide)⟩

/-- **A method is read from the recased forms of its name.** -/
theorem parse?_eq_some_iff_recased : parse? s = some m ↔ Text.Recased m.name s := by
  rw [parse?, ofName?_eq_some_iff, Text.recased_iff, (name_small m).small, eq_comm]

/-- **Lower case is read as the same method.** -/
theorem parse?_lowerCase (s : String) : parse? (Text.lowerCase s) = parse? s := by
  have hname (m : Method) : parse? (Text.lowerCase s) = some m ↔ parse? s = some m := by
    rw [parse?_lowerCase_eq_some_iff, parse?_eq_some_iff_recased, eq_comm,
      (name_small m).lowerCase_eq_iff]
  exact Option.ext hname

/-- What is read as a method is of ASCII. -/
theorem ascii_of_parse? (h : parse? s = some m) : ∀ c ∈ s.toList, c.toNat < 0x80 := by
  refine ascii_of_lowerCase ?_
  rw [← parse?_lowerCase, parse?_lowerCase_eq_some_iff] at h
  exact h ▸ (name_small m).letters

/-- **The two foldings of a method agree.**  A text and its lower case are read as the same method,
that is, as the one that the text spells up to the case of ASCII letters, and a text with a
character beyond ASCII is read as none.  So a request is routed to the operation of the path that is
declared for the method it spells, and to no other. -/
theorem foldings_agree :
    (∀ s, parse? (Text.lowerCase s) = parse? s) ∧
    (∀ s m, parse? s = some m ↔ Text.Recased m.name s) ∧
    (∀ s, (∃ c ∈ s.toList, 0x80 ≤ c.toNat) → parse? s = none ∧ parse? (Text.lowerCase s) = none) ∧
    ∀ (c : Contract) (method path : String) (resolved : Resolved),
      c.resolve method path = .ok resolved ↔
        ∃ route m operation, route? PathEntry.template c.paths path = some route ∧
          Text.Recased m.name method ∧
          Keyed.get? m route.entry.operations = some operation ∧
          resolved = ⟨operation, route.parameters, ⟨path, Text.lowerCase method⟩⟩ := by
  refine ⟨parse?_lowerCase, fun _ _ => parse?_eq_some_iff_recased, ?_, ?_⟩
  · rintro s ⟨c, hc, hbeyond⟩
    have hnone : parse? s = none := by
      refine Option.eq_none_iff_forall_ne_some.2 fun m hm => ?_
      have hascii := ascii_of_parse? hm c hc
      omega
    exact ⟨hnone, (parse?_lowerCase s).trans hnone⟩
  · intro c method path resolved
    rw [Contract.resolve_eq_ok_iff]
    simp only [parse?_lowerCase, parse?_eq_some_iff_recased]

/-- A long `s` is no letter of a method, though its capital is that of one. -/
theorem parse?_longS :
    (∃ c ∈ ("poſt").toList, 0x80 ≤ c.toNat) ∧ parse? "poſt" = none ∧
      parse? (Text.lowerCase "poſt") = none :=
  have hbeyond : ∃ c ∈ ("poſt").toList, 0x80 ≤ c.toNat := ⟨'ſ', by decide, by decide⟩
  ⟨hbeyond, foldings_agree.2.2.1 "poſt" hbeyond⟩

end Method

end ApiContract
