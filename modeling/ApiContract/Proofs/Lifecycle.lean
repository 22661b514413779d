import ApiContract.Validator
import Mathlib.Data.List.Chain

/-!
# Proofs/Lifecycle — when calls fetch, and what answers them

A fetch brings the message of its error, or that of the defect of its document, or the contract of
its document (`Fetched.Brings`).  A run is a list of calls, each with a reading of the clock; the
readings come in any order.  `Lifecycle.fetchTimes` lists the readings at which a run fetched, so
its last entry is the most recent fetch.  `Lifecycle.latestFetch_decides` is the main statement: the
fetches of a run are a second apart and end with the first that brings a contract, and every call is
answered by what the most recent one brought, and by that alone.

What carries it is `Lifecycle.Reflects`: the state of a validator is always what its most recent
fetch made of it.
-/

namespace ApiContract

/-! ## What a fetch brings -/

/-- **What a fetch brings**: the message of its error; or, when it has a document, the message of
the first defect of this, or its contract. -/
inductive Fetched.Brings : Fetched → Except String Contract → Prop
  | notFetched {e : SourceError} : Brings (.error e) (.error e.message)
  | notRead {document : Json} {d : Defect} (h : Contract.ofJson document = .error d) :
    Brings (.ok document) (.error d.message)
  | read {document : Json} {c : Contract} (h : Contract.ofJson document = .ok c) :
    Brings (.ok document) (.ok c)

namespace Fetched.Brings

variable {outcome : Fetched} {result result' : Except String Contract}

/-- Every fetch brings something. -/
theorem contractOf (outcome : Fetched) : Brings outcome (LoadState.contractOf outcome) := by
  cases outcome with
  | error e => exact .notFetched
  | ok document =>
    cases h : Contract.ofJson document with
    | error d => exact LoadState.contractOf_of_defect h ▸ .notRead h
    | ok c => exact LoadState.contractOf_of_read h ▸ .read h

/-- It brings nothing else. -/
theorem eq_contractOf (h : Brings outcome result) : result = LoadState.contractOf outcome := by
  cases h with
  | notFetched => exact (LoadState.contractOf_error _).symm
  | notRead h => exact (LoadState.contractOf_of_defect h).symm
  | read h => exact (LoadState.contractOf_of_read h).symm

/-- What a fetch brings is one thing. -/
theorem unique (h : Brings outcome result) (h' : Brings outcome result') : result = result' :=
  h.eq_contractOf.trans h'.eq_contractOf.symm

end Fetched.Brings

/-! ## Answers -/

/-- **What answers a call**: with no contract its refusal, whatever the call asks; with a contract
the check of what the call asks, against this contract. -/
inductive Call.AnsweredBy (evaluate : Evaluator) : Except String Contract → Call → Answer → Prop
  | noContract {message : String} :
    AnsweredBy evaluate (.error message) .contract (.contract (.error (.broken message)))
  | noRequest {message : String} {r : Request} :
    AnsweredBy evaluate (.error message) (.request r) (.verdict (.error (.broken message)))
  | noResponse {message : String} {r : Reply} :
    AnsweredBy evaluate (.error message) (.response r) (.verdict (.error (.broken message)))
  | contract {c : Contract} : AnsweredBy evaluate (.ok c) .contract (.contract (.ok c))
  | request {c : Contract} {r : Request} :
    AnsweredBy evaluate (.ok c) (.request r)
      (.verdict ((c.checkRequest evaluate r).mapError .rejected))
  | response {c : Contract} {r : Reply} :
    AnsweredBy evaluate (.ok c) (.response r)
      (.verdict ((c.checkResponse evaluate r).mapError .rejected))

namespace Lifecycle

variable {evaluate : Evaluator} {fetch : Fetcher} {l : Lifecycle} {now : Reading} {c : Call}

/-- A look at the status is answered with it, and that is all. -/
theorem call_status : l.call evaluate fetch now .status = (.status l.state, l) := rfl

/-- Every other call refreshes first. -/
theorem call_of_ne_status (hc : c ≠ .status) :
    l.call evaluate fetch now c =
      ((l.refresh fetch now).answer evaluate c, l.refresh fetch now) := by
  cases c with
  | status => exact absurd rfl hc
  | contract => rfl
  | request r => rfl
  | response r => rfl

/-- The answer is that of the contract of the present state. -/
theorem answeredBy_answer (hc : c ≠ .status) :
    c.AnsweredBy evaluate l.state.contract (l.answer evaluate c) := by
  cases c with
  | status => exact absurd rfl hc
  | contract =>
    rw [answer, current]
    cases l.state.contract with
    | error message => exact .noContract
    | ok c => exact .contract
  | request r =>
    rw [answer, current]
    cases l.state.contract with
    | error message => exact .noRequest
    | ok c => exact .request
  | response r =>
    rw [answer, current]
    cases l.state.contract with
    | error message => exact .noResponse
    | ok c => exact .response

/-! ## Runs -/

variable (evaluate fetch)

/-- What is known after some calls, each at its reading of the clock. -/
def after (l : Lifecycle) (calls : List (Reading × Call)) : Lifecycle :=
  calls.foldl (fun l c => (l.call evaluate fetch c.1 c.2).2) l

/-- **The readings at which some calls fetched**, in order: that of a call once for every fetch it
made. -/
def fetchTimes (l : Lifecycle) : List (Reading × Call) → List Reading
  | [] => []
  | (now, c) :: calls =>
    let next := (l.call evaluate fetch now c).2
    List.replicate (next.fetches - l.fetches) now ++ fetchTimes next calls

variable {evaluate fetch}

/-- The fetches of a run are those of its first part, then those of the rest from there. -/
theorem fetchTimes_append (calls more : List (Reading × Call)) :
    l.fetchTimes evaluate fetch (calls ++ more) =
      l.fetchTimes evaluate fetch calls ++
        (l.after evaluate fetch calls).fetchTimes evaluate fetch more := by
  induction calls generalizing l with
  | nil => rfl
  | cons call calls ih =>
    rw [List.cons_append, fetchTimes, ih, fetchTimes, List.append_assoc]
    rfl

/-! ## The state is what the most recent fetch made of it -/

/-- **Some fetches left a state**: none, or the last of them brought a contract, or it failed at a
reading.  The outcome of the last fetch is the one whose number is how many came earlier. -/
inductive Reflects (fetch : Fetcher) : List Reading → Lifecycle → Prop
  | unloaded : Reflects fetch [] ⟨.unloaded, 0⟩
  | loaded {earlier : List Reading} {t : Reading} {c : Contract}
    (h : Fetched.Brings (fetch earlier.length) (.ok c)) :
    Reflects fetch (earlier ++ [t]) ⟨.loaded c, earlier.length + 1⟩
  | failed {earlier : List Reading} {t : Reading} {message : String}
    (h : Fetched.Brings (fetch earlier.length) (.error message)) :
    Reflects fetch (earlier ++ [t]) ⟨.failed message (t + 1000), earlier.length + 1⟩

/-- **A fetch is due**: there was none yet, or the most recent one failed and was made a second ago
or earlier. -/
def Due (fetch : Fetcher) (times : List Reading) (now : Reading) : Prop :=
  times = [] ∨ ∃ earlier t message, times = earlier ++ [t] ∧
    Fetched.Brings (fetch earlier.length) (.error message) ∧ t + 1000 ≤ now

variable {times : List Reading}

/-- No fetch is due after one that brought a contract. -/
theorem not_due_of_ok {earlier : List Reading} {t : Reading} {c : Contract}
    (h : Fetched.Brings (fetch earlier.length) (.ok c)) : ¬ Due fetch (earlier ++ [t]) now := by
  rintro (hnil | ⟨earlier', t', message, htimes, hmessage, -⟩)
  · exact List.append_ne_nil_of_right_ne_nil _ (List.cons_ne_nil _ _) hnil
  · obtain ⟨rfl, -⟩ := List.append_inj' htimes rfl
    exact nomatch h.unique hmessage

/-- After one that failed a fetch is due from a second later on. -/
theorem due_iff_of_error {earlier : List Reading} {t : Reading} {message : String}
    (h : Fetched.Brings (fetch earlier.length) (.error message)) :
    Due fetch (earlier ++ [t]) now ↔ t + 1000 ≤ now := by
  refine ⟨?_, fun hle => .inr ⟨earlier, t, message, rfl, h, hle⟩⟩
  rintro (hnil | ⟨earlier', t', message', htimes, -, hle⟩)
  · exact absurd hnil (List.append_ne_nil_of_right_ne_nil _ (List.cons_ne_nil _ _))
  · obtain ⟨rfl, ht⟩ := List.append_inj' htimes rfl
    cases ht
    exact hle

namespace Reflects

/-- A validator counts its fetches. -/
theorem fetches_eq (h : Reflects fetch times l) : l.fetches = times.length := by
  cases h with
  | unloaded => rfl
  | loaded => rw [List.length_append, List.length_singleton]
  | failed => rw [List.length_append, List.length_singleton]

/-- The contract of the state, or the message in its place, is what the most recent fetch
brought. -/
theorem brings {earlier : List Reading} {t : Reading} (h : Reflects fetch (earlier ++ [t]) l) :
    Fetched.Brings (fetch earlier.length) l.state.contract := by
  generalize htimes : earlier ++ [t] = times at h
  cases h with
  | unloaded => exact absurd htimes (List.append_ne_nil_of_right_ne_nil _ (List.cons_ne_nil _ _))
  | loaded h =>
    obtain ⟨rfl, -⟩ := List.append_inj' htimes rfl
    exact h
  | failed h =>
    obtain ⟨rfl, -⟩ := List.append_inj' htimes rfl
    exact h

/-- Nothing is loaded as long as nothing was fetched. -/
theorem state_eq_unloaded_iff (h : Reflects fetch times l) : l.state = .unloaded ↔ times = [] := by
  have hne (earlier : List Reading) (t : Reading) : earlier ++ [t] ≠ [] :=
    List.append_ne_nil_of_right_ne_nil _ (List.cons_ne_nil _ _)
  cases h with
  | unloaded => exact iff_of_true rfl rfl
  | loaded => exact iff_of_false nofun (hne _ _)
  | failed => exact iff_of_false nofun (hne _ _)

/-- A call may fetch when a fetch is due. -/
theorem isEligible_iff (h : Reflects fetch times l) :
    l.state.isEligible now = true ↔ Due fetch times now := by
  cases h with
  | unloaded => exact iff_of_true rfl (.inl rfl)
  | loaded h => exact iff_of_false nofun (not_due_of_ok h)
  | failed h => exact decide_eq_true_iff.trans (due_iff_of_error h).symm

/-- A fetch leaves the state that reflects it. -/
theorem afterFetch (times : List Reading) (now : Reading) :
    Reflects fetch (times ++ [now]) ⟨.afterFetch now (fetch times.length), times.length + 1⟩ := by
  have h := Fetched.Brings.contractOf (fetch times.length)
  unfold LoadState.afterFetch
  generalize LoadState.contractOf (fetch times.length) = result at h
  cases result with
  | ok c => exact .loaded h
  | error message => exact .failed h

theorem refresh_of_due (h : Reflects fetch times l) (hdue : Due fetch times now) :
    l.refresh fetch now = ⟨.afterFetch now (fetch times.length), times.length + 1⟩ := by
  rw [refresh, if_pos (h.isEligible_iff.2 hdue), h.fetches_eq]

theorem refresh_of_not_due (h : Reflects fetch times l) (hdue : ¬ Due fetch times now) :
    l.refresh fetch now = l := by
  rw [refresh, if_neg fun he => hdue (h.isEligible_iff.1 he)]

end Reflects

/-! ## One call -/

theorem fetchTimes_of_call_eq (h : (l.call evaluate fetch now c).2 = l) :
    l.fetchTimes evaluate fetch [(now, c)] = [] := by
  rw [fetchTimes, h, Nat.sub_self]
  rfl

/-- A call other than a look at the status fetches once when a fetch is due. -/
theorem Reflects.fetchTimes_of_due (h : Reflects fetch times l) (hc : c ≠ .status)
    (hdue : Due fetch times now) : l.fetchTimes evaluate fetch [(now, c)] = [now] := by
  rw [fetchTimes, call_of_ne_status hc, h.refresh_of_due hdue, h.fetches_eq,
    Nat.add_sub_cancel_left]
  rfl

/-- It does not when none is due. -/
theorem Reflects.fetchTimes_of_not_due (h : Reflects fetch times l) (hdue : ¬ Due fetch times now) :
    l.fetchTimes evaluate fetch [(now, c)] = [] := by
  apply fetchTimes_of_call_eq
  by_cases hc : c = .status
  · rw [hc, call_status]
  · rw [call_of_ne_status hc, h.refresh_of_not_due hdue]

/-- **One call** leaves the state that reflects the fetches so far and its own. -/
theorem Reflects.call (h : Reflects fetch times l) (now : Reading) (c : Call) :
    Reflects fetch (times ++ l.fetchTimes evaluate fetch [(now, c)])
      (l.call evaluate fetch now c).2 := by
  by_cases hc : c = .status
  · have hsame : (l.call evaluate fetch now c).2 = l := by rw [hc, call_status]
    rwa [fetchTimes_of_call_eq hsame, hsame, List.append_nil]
  · by_cases hdue : Due fetch times now
    · rw [h.fetchTimes_of_due hc hdue, call_of_ne_status hc, h.refresh_of_due hdue]
      exact .afterFetch times now
    · rwa [h.fetchTimes_of_not_due hdue, call_of_ne_status hc, h.refresh_of_not_due hdue,
        List.append_nil]

/-! ## Runs -/

/-- **Fetches each of which was due** when it was made. -/
inductive Scheduled (fetch : Fetcher) : List Reading → Prop
  | nil : Scheduled fetch []
  | snoc {times : List Reading} {now : Reading} (h : Scheduled fetch times)
    (hdue : Due fetch times now) : Scheduled fetch (times ++ [now])

/-- Fetches that were due are a second apart. -/
theorem Scheduled.isChain (h : Scheduled fetch times) :
    times.IsChain fun t t' => t + 1000 ≤ t' := by
  induction h with
  | nil => exact .nil
  | @snoc times now _ hdue ih =>
    refine List.isChain_append.2 ⟨ih, .singleton _, ?_⟩
    rintro t ht t' ht'
    obtain rfl : now = t' := Option.some.inj ht'
    rcases hdue with rfl | ⟨earlier, last, message, rfl, -, hle⟩
    · cases ht
    · rw [List.getLast?_concat] at ht
      cases ht
      exact hle

/-- All fetches but the last of those that were due have failed. -/
theorem Scheduled.exists_error (h : Scheduled fetch times) {k : Nat} (hk : k + 1 < times.length) :
    ∃ message, Fetched.Brings (fetch k) (.error message) := by
  induction h with
  | nil => cases hk
  | @snoc times now _ hdue ih =>
    rw [List.length_append, List.length_singleton, Nat.add_lt_add_iff_right] at hk
    rcases hdue with rfl | ⟨earlier, last, message, rfl, hmessage, -⟩
    · cases hk
    · rcases Nat.lt_or_ge (k + 1) (earlier ++ [last]).length with hlt | hge
      · exact ih hlt
      · rw [List.length_append, List.length_singleton] at hk hge
        obtain rfl : k = earlier.length := by omega
        exact ⟨message, hmessage⟩

/-- **A run** leaves the state that reflects its fetches, each of which was due. -/
theorem Reflects.after (h : Reflects fetch times l) (hs : Scheduled fetch times)
    (calls : List (Reading × Call)) :
    Reflects fetch (times ++ l.fetchTimes evaluate fetch calls) (l.after evaluate fetch calls) ∧
      Scheduled fetch (times ++ l.fetchTimes evaluate fetch calls) := by
  induction calls generalizing times l with
  | nil =>
    rw [fetchTimes, List.append_nil]
    exact ⟨h, hs⟩
  | cons call calls ih =>
    obtain ⟨now, c⟩ := call
    have hcalls :
        l.fetchTimes evaluate fetch ((now, c) :: calls) =
          l.fetchTimes evaluate fetch [(now, c)] ++
            (l.call evaluate fetch now c).2.fetchTimes evaluate fetch calls :=
      fetchTimes_append [(now, c)] calls
    rw [hcalls, ← List.append_assoc]
    refine ih (h.call now c) ?_
    by_cases hc : c = .status
    · rwa [hc, fetchTimes_of_call_eq rfl, List.append_nil]
    · by_cases hdue : Due fetch times now
      · rw [h.fetchTimes_of_due hc hdue]
        exact .snoc hs hdue
      · rwa [h.fetchTimes_of_not_due hdue, List.append_nil]

/-- Every run from the start leaves the state that reflects its fetches. -/
theorem reflects_run (calls : List (Reading × Call)) :
    Reflects fetch (fetchTimes evaluate fetch {} calls) (after evaluate fetch {} calls) :=
  (Reflects.unloaded.after .nil calls).1

theorem scheduled_run (calls : List (Reading × Call)) :
    Scheduled fetch (fetchTimes evaluate fetch {} calls) :=
  (Reflects.unloaded.after .nil calls).2

/-- A run has fetched once it had a call other than a look at the status. -/
theorem fetchTimes_eq_nil_iff (calls : List (Reading × Call)) :
    fetchTimes evaluate fetch {} calls = [] ↔ ∀ call ∈ calls, call.2 = .status := by
  induction calls using List.reverseRecOn with
  | nil => exact iff_of_true rfl nofun
  | append_singleton calls call ih =>
    obtain ⟨now, c⟩ := call
    rw [fetchTimes_append, List.append_eq_nil_iff, ih, List.forall_mem_append,
      List.forall_mem_singleton]
    refine and_congr_right fun hall => ⟨fun hnil => ?_, fun hc => ?_⟩
    · by_contra hc
      have hdue : Due fetch (fetchTimes evaluate fetch {} calls) now := .inl (ih.2 hall)
      rw [(reflects_run calls).fetchTimes_of_due hc hdue] at hnil
      cases hnil
    · obtain rfl : c = .status := hc
      exact fetchTimes_of_call_eq rfl

/-- A call other than a look at the status is answered by what the most recent fetch brought. -/
theorem answeredBy_call (calls : List (Reading × Call)) (now : Reading) (hc : c ≠ .status) :
    ∃ k result, (fetchTimes evaluate fetch {} (calls ++ [(now, c)])).length = k + 1 ∧
      Fetched.Brings (fetch k) result ∧
      c.AnsweredBy evaluate result
        ((after evaluate fetch {} calls).call evaluate fetch now c).1 := by
  have hne : fetchTimes evaluate fetch {} (calls ++ [(now, c)]) ≠ [] := fun hnil =>
    hc ((fetchTimes_eq_nil_iff _).1 hnil (now, c) (List.mem_append_right _ List.mem_cons_self))
  have hreflects : Reflects fetch (fetchTimes evaluate fetch {} (calls ++ [(now, c)]))
      ((after evaluate fetch {} calls).refresh fetch now) := by
    rw [fetchTimes_append]
    have hcall : ((after evaluate fetch {} calls).call evaluate fetch now c).2 =
        (after evaluate fetch {} calls).refresh fetch now := by rw [call_of_ne_status hc]
    rw [← hcall]
    exact (reflects_run calls).call now c
  obtain ⟨earlier, t, htimes⟩ := (List.eq_nil_or_concat _).resolve_left hne
  rw [htimes, List.concat_eq_append] at hreflects ⊢
  refine ⟨earlier.length, _, List.length_append, hreflects.brings, ?_⟩
  rw [call_of_ne_status hc]
  exact answeredBy_answer hc

/-- **Every run**: a call other than a look at the status fetches exactly when a fetch is due; so
two fetches are a second apart, and none follows one that brought a contract.  The call is answered
by the most recent fetch alone: with the message of its error or of the defect of its document, word
for word and whatever the call asks, or with what the contract of its document says of the call.  A
look at the status changes nothing, and sees that nothing is loaded as long as there was no other
call. -/
theorem latestFetch_decides (evaluate : Evaluator) (fetch : Fetcher)
    (calls : List (Reading × Call)) :
    (∀ now c, c ≠ .status →
      (Due fetch (fetchTimes evaluate fetch {} calls) now →
        fetchTimes evaluate fetch {} (calls ++ [(now, c)]) =
          fetchTimes evaluate fetch {} calls ++ [now]) ∧
      (¬ Due fetch (fetchTimes evaluate fetch {} calls) now →
        fetchTimes evaluate fetch {} (calls ++ [(now, c)]) = fetchTimes evaluate fetch {} calls)) ∧
    ((fetchTimes evaluate fetch {} calls).IsChain fun t t' => t + 1000 ≤ t') ∧
    (∀ k c, k < (fetchTimes evaluate fetch {} calls).length → Fetched.Brings (fetch k) (.ok c) →
      ∀ more, fetchTimes evaluate fetch {} (calls ++ more) = fetchTimes evaluate fetch {} calls) ∧
    (∀ now c, c ≠ .status → ∃ k result,
      (fetchTimes evaluate fetch {} (calls ++ [(now, c)])).length = k + 1 ∧
      Fetched.Brings (fetch k) result ∧
      c.AnsweredBy evaluate result ((after evaluate fetch {} calls).call evaluate fetch now c).1) ∧
    (∀ now, ((after evaluate fetch {} calls).call evaluate fetch now .status).2 =
      after evaluate fetch {} calls) ∧
    (∀ now,
      ((after evaluate fetch {} calls).call evaluate fetch now .status).1 = .status .unloaded ↔
        ∀ call ∈ calls, call.2 = .status) := by
  refine ⟨fun now c hc => ⟨fun hdue => ?_, fun hdue => ?_⟩, (scheduled_run calls).isChain,
    fun k c hk hok more => ?_, fun now c hc => answeredBy_call calls now hc,
    fun _ => rfl, fun now => ?_⟩
  · rw [fetchTimes_append, (reflects_run calls).fetchTimes_of_due hc hdue]
  · rw [fetchTimes_append, (reflects_run calls).fetchTimes_of_not_due hdue, List.append_nil]
  · have hs : Scheduled fetch (fetchTimes evaluate fetch {} (calls ++ more)) := scheduled_run _
    rw [fetchTimes_append] at hs ⊢
    rw [List.append_right_eq_self]
    by_contra hmore
    -- one more fetch would follow the failure of this one
    have hlt : k + 1 < (fetchTimes evaluate fetch {} calls ++
        (after evaluate fetch {} calls).fetchTimes evaluate fetch more).length := by
      rw [List.length_append]
      have := List.length_pos_iff.2 hmore
      omega
    obtain ⟨message, hmessage⟩ := hs.exists_error hlt
    exact nomatch hok.unique hmessage
  · rw [call_status, Answer.status.injEq, (reflects_run calls).state_eq_unloaded_iff,
      fetchTimes_eq_nil_iff]

end Lifecycle

end ApiContract
