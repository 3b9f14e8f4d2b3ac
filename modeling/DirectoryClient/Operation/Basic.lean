import DirectoryClient.Operation.Response

/-!
# Operations

An operation is a request on its way to an outcome. It starts pending. Whoever ends it first claims
it, and an operation is claimed once; the claimant then writes its outcome, and an outcome is never
written over.
-/

namespace DirectoryClient

/-- The state and the result slot of an operation, taken together. -/
inductive Stage where
  /-- The state is `PENDING`: nobody has ended the operation. -/
  | pending
  /-- The state is `RESOLVED`, and the slot is empty: somebody is ending it. -/
  | claimed
  /-- The slot has been written: it has ended. -/
  | resolved (outcome : Outcome)
deriving DecidableEq, Repr

/-- `AsyncOperation`. The token that cancels its timer is left to the engine, which keeps the
timers. -/
structure Operation where
  messageId : MessageId
  kind : OperationKind
  submittedAt : Duration
  stage : Stage := .pending
  /-- The entries counted so far. -/
  entries : UInt32 := 0
  /-- The references counted so far. -/
  references : UInt32 := 0
deriving DecidableEq, Repr

namespace Operation

/-- What the slot holds (`result` of a handle): the outcome, once the operation has ended. -/
def outcome? (operation : Operation) : Option Outcome :=
  match operation.stage with
  | .resolved outcome => some outcome
  | _ => none

def isResolved (operation : Operation) : Bool :=
  operation.outcome?.isSome

/-- `is_pending`: whether nobody has ended the operation. -/
def isPending (operation : Operation) : Bool :=
  operation.stage = .pending

/-- `claim`: the claimed operation, or nothing if somebody else was first. -/
def claim (operation : Operation) : Option Operation :=
  match operation.stage with
  | .pending => some { operation with stage := .claimed }
  | _ => none

/-- `build_result`: the outcome that a response gives at the time `now`. Only kinds that stream
report their counts. -/
def outcomeOf (operation : Operation) (response : Response) (now : Duration) : Outcome where
  messageId := operation.messageId
  kind := operation.kind
  response := response
  entries := if operation.kind.isStreaming then operation.entries else 0
  references := if operation.kind.isStreaming then operation.references else 0
  elapsed := now - operation.submittedAt

/-- Writes what `build_result` gives into the slot. -/
def resolve (operation : Operation) (response : Response) (now : Duration) : Operation :=
  { operation with stage := .resolved (operation.outcomeOf response now) }

/-- `record_entry`. The counter is atomic and wraps around. The caller gets one more than the value
that was fetched, and this addition wraps around as well in builds without overflow checks, which
are the ones meant here. -/
def recordEntry (operation : Operation) : Operation :=
  { operation with entries := operation.entries + 1 }

/-- `record_reference`, which wraps around as `recordEntry` does. -/
def recordReference (operation : Operation) : Operation :=
  { operation with references := operation.references + 1 }

end Operation

end DirectoryClient
