import CSO.Gateway.Routes

/-! The worker's gateway client: what it makes of a response of the gateway. -/
namespace CSO.Workers
open Gateway (ExecutionResult ReconciliationResult Reply)

/-- A network error or a timeout rejects; a body that its schema refuses is `none`. -/
inductive FetchOutcome (α : Type)
  | rejected
  | response (status : ℕ) (body : Option α)
  deriving DecidableEq, Repr

def responseOk (status : ℕ) : Bool := 200 ≤ status && status < 300

/-- What a reply of the gateway looks like to a client that receives it. -/
def received {α : Type} : Reply α → FetchOutcome α
  | .sent status body => .response status (some body)
  | .refused status _ => .response status none
  | .thrown => .response 500 none

/-- `none` is a thrown error, which fails the attempt of the activity. -/
def executeRefund : FetchOutcome ExecutionResult → Option ExecutionResult
  | .rejected => some .pending
  | .response status body =>
    if 500 ≤ status then some .pending
    else if responseOk status then body
    else some ⟨.failed, none⟩

def reconcileRefund : FetchOutcome ReconciliationResult → Option ReconciliationResult
  | .rejected => some ⟨.notFound, none⟩
  | .response status body => if responseOk status then body else some ⟨.notFound, none⟩

end CSO.Workers
