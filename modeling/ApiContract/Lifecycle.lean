import ApiContract.Document.Reader
import ApiContract.Source.Error

/-!
# Lifecycle — loading a contract and trying again

A contract is fetched when it is first asked for.  Once a document could be fetched and read, its
contract stays; a failure stays for a second, and the first call after that fetches again.  Every
call brings a reading of the clock along; readings need not ascend.
-/

namespace ApiContract

/-- What one fetch brings: a document or the reason why there is none. -/
abbrev Fetched := Except SourceError Json

/-- Where fetches come from: fetch number `i` brings the `i`-th outcome. -/
abbrev Fetcher := Nat → Fetched

/-- A reading of the clock in milliseconds, as fine as the clock may be. -/
abbrev Reading := Rat

/-- What is known of the contract. -/
inductive LoadState where
  | unloaded
  | loaded (c : Contract)
  /-- The last fetch failed; no fetch before the time told. -/
  | failed (message : String) (retryAt : Reading)

namespace LoadState

/-- The milliseconds between a failed fetch and the next. -/
def cooldown : Reading := 1000

/-- Whether a call at a time fetches. -/
def isEligible (now : Reading) : LoadState → Bool
  | unloaded => true
  | loaded _ => false
  | failed _ retryAt => retryAt ≤ now

/-- The contract a fetch brings, or the message of its failure. -/
def contractOf (outcome : Fetched) : Except String Contract :=
  match outcome with
  | .error e => .error e.message
  | .ok document => (Contract.ofJson document).mapError Defect.message

/-- Where nothing was fetched, the message is that of the error. -/
theorem contractOf_error (e : SourceError) : contractOf (.error e) = .error e.message := rfl

/-- Where the document cannot be read, the message is that of its defect. -/
theorem contractOf_of_defect {document : Json} {d : Defect}
    (h : Contract.ofJson document = .error d) : contractOf (.ok document) = .error d.message := by
  rw [contractOf, h]
  rfl

/-- Where it can, its contract is there. -/
theorem contractOf_of_read {document : Json} {c : Contract}
    (h : Contract.ofJson document = .ok c) : contractOf (.ok document) = .ok c := by
  rw [contractOf, h]
  rfl

/-- The state after a fetch at a time. -/
def afterFetch (now : Reading) (outcome : Fetched) : LoadState :=
  match contractOf outcome with
  | .ok c => loaded c
  | .error message => failed message (now + cooldown)

/-- The contract, or the message of the failure that stands in its place. -/
def contract : LoadState → Except String Contract
  | loaded c => .ok c
  | failed message _ => .error message
  | unloaded => .error "specification not loaded"

end LoadState

/-- What is known of the contract, and how many fetches it took. -/
structure Lifecycle where
  state : LoadState := .unloaded
  fetches : Nat := 0

namespace Lifecycle

/-- Fetch if a call at this time does. -/
def refresh (fetch : Fetcher) (now : Reading) (l : Lifecycle) : Lifecycle :=
  if l.state.isEligible now then ⟨.afterFetch now (fetch l.fetches), l.fetches + 1⟩ else l

end Lifecycle

end ApiContract
