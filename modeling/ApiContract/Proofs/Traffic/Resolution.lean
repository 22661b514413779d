import ApiContract.Proofs.Document.Lookup
import ApiContract.Proofs.Text.LowerCase
import ApiContract.Proofs.Traffic.Request

/-!
# Proofs/Traffic/Resolution — the operation an exchange belongs to

An exchange belongs to an operation of the first path that matches it, the one under its method in
lower case: `Contract.Resolves`.  Otherwise there is a reason, told by `Contract.Unresolved`: no
path matches, or the first that does has no such operation.
**`Contract.resolve_eq_ok_iff_resolves`** and **`Contract.resolve_eq_error_iff`** say that these are
the outcomes, in every contract that is read from a document.
-/

namespace ApiContract

/-! ## The first of some things -/

/-- **The first of some things with a property.** -/
structure IsFirst {α : Type} (P : α → Prop) (xs : List α) (a : α) : Prop where
  holds : P a
  first : ∃ before after, xs = before ++ a :: after ∧ ∀ b ∈ before, ¬ P b

variable {α : Type} {P : α → Prop} {xs : List α} {a : α}

theorem IsFirst.mem (h : IsFirst P xs a) : a ∈ xs := by
  obtain ⟨before, after, rfl, -⟩ := h.first
  exact List.mem_append_right _ List.mem_cons_self

/-- What a search finds is the first thing that it is for. -/
theorem find?_eq_some_iff_isFirst {p : α → Bool} (hp : ∀ a, p a = true ↔ P a) :
    xs.find? p = some a ↔ IsFirst P xs a := by
  rw [List.find?_eq_some_iff_append]
  simp only [Bool.not_eq_true', ← Bool.not_eq_true, hp]
  exact ⟨fun ⟨h, before, after, heq, hbefore⟩ => ⟨h, before, after, heq, hbefore⟩,
    fun ⟨h, before, after, heq, hbefore⟩ => ⟨h, before, after, heq, hbefore⟩⟩

/-! ## Paths and operations -/

/-- Whether a path answers a request path: its template matches the segments of it. -/
def PathEntry.Answers (path : String) (e : PathEntry) : Prop :=
  e.template.matchesRequest (requestSegments path) = true

/-- **The operation an exchange belongs to**: it is that of the first path that answers, under the
name that is the method in lower case. -/
structure Contract.Resolves (c : Contract) (method path : String) (e : PathEntry)
    (op : Operation) : Prop where
  path : IsFirst (PathEntry.Answers path) c.paths e
  operation : Keyed.Under Method.name e.operations (Text.lowerCase method) op

/-- **Why an exchange belongs to no operation**: no path answers, or the first that does has no
operation under the method. -/
inductive Contract.Unresolved (c : Contract) (method path : String) : Rejection → Prop
  | noPath (h : ∀ e ∈ c.paths, ¬ e.Answers path) : Unresolved c method path (.noPath path)
  | noOperation {e : PathEntry} (first : IsFirst (PathEntry.Answers path) c.paths e)
    (h : ∀ o ∈ e.operations, o.1.name ≠ Text.lowerCase method) :
    Unresolved c method path (.noOperation ⟨path, Text.lowerCase method⟩)

/-- A method is named in lower case. -/
theorem Method.parse?_lowerCase_eq_some_iff {s : String} {m : Method} :
    parse? (Text.lowerCase s) = some m ↔ m.name = Text.lowerCase s := by
  rw [parse?, asciiLower_lowerCase, ofName?_eq_some_iff, eq_comm]

/-- A request goes to the first path that answers it. -/
theorem route?_eq_some_iff {paths : List PathEntry} {path : String} {r : Route PathEntry} :
    route? PathEntry.template paths path = some r ↔
      IsFirst (PathEntry.Answers path) paths r.entry ∧
        r.parameters = r.entry.template.extract (requestSegments path) := by
  have hfirst (e : PathEntry) :
      paths.find? (fun e => e.template.matchesRequest (requestSegments path)) = some e ↔
        IsFirst (PathEntry.Answers path) paths e :=
    find?_eq_some_iff_isFirst fun _ => Iff.rfl
  simp only [route?, Option.map_eq_some_iff, hfirst]
  constructor
  · rintro ⟨e, he, rfl⟩
    exact ⟨he, rfl⟩
  · rintro ⟨he, hparameters⟩
    exact ⟨r.entry, he, by rw [← hparameters]⟩

/-- A request goes nowhere where no path answers it. -/
theorem route?_eq_none_iff {paths : List PathEntry} {path : String} :
    route? PathEntry.template paths path = none ↔ ∀ e ∈ paths, ¬ e.Answers path := by
  rw [route?, Option.map_eq_none_iff, List.find?_eq_none]
  rfl

namespace Contract

variable {document : Json} {c : Contract} {method path : String}

theorem Resolves.mem_paths {e : PathEntry} {op : Operation} (h : c.Resolves method path e op) :
    e ∈ c.paths :=
  h.path.mem

/-- The operation is one whose maps can be looked up. -/
theorem Resolves.wellFormed (hc : Contract.ofJson document = .ok c) {e : PathEntry} {op : Operation}
    (h : c.Resolves method path e op) : op.WellFormed := by
  obtain ⟨m, -, hop⟩ := h.operation
  exact (Contract.wellFormed hc h.mem_paths).2 _ hop

/-- **An exchange is resolved** to the operation it belongs to, with the values that its path gives
the variables. -/
theorem resolve_eq_ok_iff_resolves (hc : Contract.ofJson document = .ok c) {resolved : Resolved} :
    c.resolve method path = .ok resolved ↔
      ∃ e op, c.Resolves method path e op ∧
        resolved = ⟨op, e.template.extract (requestSegments path),
          ⟨path, Text.lowerCase method⟩⟩ := by
  rw [resolve_eq_ok_iff]
  constructor
  · rintro ⟨route, m, op, hroute, hm, hop, rfl⟩
    obtain ⟨hfirst, hparameters⟩ := route?_eq_some_iff.1 hroute
    have hmem := ((Contract.wellFormed hc hfirst.mem).1.get?_eq_some_iff).1 hop
    rw [hparameters]
    exact ⟨route.entry, op, ⟨hfirst, m, Method.parse?_lowerCase_eq_some_iff.1 hm, hmem⟩, rfl⟩
  · rintro ⟨e, op, h, rfl⟩
    obtain ⟨m, hm, hop⟩ := h.operation
    have hget := ((Contract.wellFormed hc h.mem_paths).1.get?_eq_some_iff).2 hop
    exact ⟨⟨e, _⟩, m, op, route?_eq_some_iff.2 ⟨h.path, rfl⟩,
      Method.parse?_lowerCase_eq_some_iff.2 hm, hget, rfl⟩

/-- **Otherwise an exchange is rejected** for the reason that it belongs to none. -/
theorem resolve_eq_error_iff {x : Rejection} :
    c.resolve method path = .error x ↔ c.Unresolved method path x := by
  have hkey (m : Method) :
      Method.parse? (Text.lowerCase method) = some m ↔ m.name = Text.lowerCase method :=
    Method.parse?_lowerCase_eq_some_iff
  unfold resolve
  constructor
  · intro h
    split at h
    next hnone =>
      cases h
      exact .noPath (route?_eq_none_iff.1 hnone)
    next route hroute =>
      dsimp only at h
      split at h
      next hnone =>
        cases h
        exact .noOperation (route?_eq_some_iff.1 hroute).1
          ((Keyed.bind_get?_eq_none_iff hkey).1 hnone)
      next => cases h
  · intro h
    cases h with
    | noPath h => rw [route?_eq_none_iff.2 h]
    | @noOperation e first h =>
      have hroute : route? PathEntry.template c.paths path =
          some ⟨e, e.template.extract (requestSegments path)⟩ :=
        route?_eq_some_iff.2 ⟨first, rfl⟩
      rw [hroute]
      dsimp only
      rw [(Keyed.bind_get?_eq_none_iff hkey).2 h]

end Contract

end ApiContract
