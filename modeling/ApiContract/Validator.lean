import ApiContract.Lifecycle
import ApiContract.Traffic.Check

/-!
# Validator — calls on a contract that loads itself

Every call but a look at the status refreshes the contract first and is answered by the contract
alone, or by the message of the failure that stands in its place.
-/

namespace ApiContract

/-- Why a call is refused. -/
inductive Refusal where
  /-- There is no contract. -/
  | broken (message : String)
  /-- The exchange is not what the contract promises. -/
  | rejected (r : Rejection)
  deriving DecidableEq

/-- The wording of a refusal. -/
def Refusal.message : Refusal → String
  | broken message => message
  | rejected r => r.message

/-- A call on a validator. -/
inductive Call where
  | contract
  | request (r : Request)
  | response (r : Reply)
  | status

/-- What a call is answered with. -/
inductive Answer where
  | contract (result : Except Refusal Contract)
  | verdict (result : Except Refusal Unit)
  | status (s : LoadState)

namespace Lifecycle

/-- The contract of the present state. -/
def current (l : Lifecycle) : Except Refusal Contract := l.state.contract.mapError .broken

/-- The answer of the present state to a call. -/
def answer (evaluate : Evaluator) (l : Lifecycle) : Call → Answer
  | .contract => .contract l.current
  | .request r => .verdict do (← l.current).checkRequest evaluate r |>.mapError .rejected
  | .response r => .verdict do (← l.current).checkResponse evaluate r |>.mapError .rejected
  | .status => .status l.state

/-- **One call at a time**: its answer, and what is known afterwards. -/
def call (evaluate : Evaluator) (fetch : Fetcher) (now : Reading) (l : Lifecycle) (c : Call) :
    Answer × Lifecycle :=
  match c with
  | .status => (l.answer evaluate .status, l)
  | c => let l := l.refresh fetch now; (l.answer evaluate c, l)

end Lifecycle

end ApiContract
