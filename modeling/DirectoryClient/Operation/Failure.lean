import DirectoryClient.Operation.MessageId
import DirectoryClient.Operation.ResultCode

namespace DirectoryClient

/-- Why a connection did not take a write. -/
inductive TransportError where
  | io (message : String)
  /-- The connection takes no more writes. -/
  | closed
  | rejected (message : String)
deriving DecidableEq, Repr

namespace TransportError

def message : TransportError → String
  | .io message => s!"transport I/O error: {message}"
  | .closed => "connection is closed"
  | .rejected message => s!"write rejected: {message}"

/-- The wording of the failure below this one, if there is one. -/
def source? : TransportError → Option String
  | .io message => some message
  | _ => none

end TransportError

structure ProtocolError where
  code : ResultCode
  message : String
deriving DecidableEq, Repr

def ProtocolError.text (failure : ProtocolError) : String :=
  s!"{failure.message} (result code {failure.code.text})"

/-- Why a request was not submitted. -/
inductive SubmitError where
  | transport (reason : TransportError)
  /-- Each of the identifiers that were tried belongs to a pending operation. -/
  | messageIdsExhausted (probes : Nat)
deriving DecidableEq, Repr

namespace SubmitError

def message : SubmitError → String
  | .transport reason => reason.message
  | .messageIdsExhausted probes => s!"no free message id after probing {probes} candidates"

/-- The wording of the failure below this one, if there is one. -/
def source? : SubmitError → Option String
  | .transport reason => reason.source?
  | .messageIdsExhausted _ => none

end SubmitError

/-- Why waiting for an operation gave no outcome. -/
inductive AwaitError where
  /-- The caller's limit passed first. -/
  | elapsed (messageId : MessageId)
  /-- The operation was let go without an outcome. -/
  | released (messageId : MessageId)
deriving DecidableEq, Repr

def AwaitError.message : AwaitError → String
  | .elapsed id => s!"operation {id.value} did not resolve within the caller timeout"
  | .released id => s!"operation {id.value} was released without a result"

end DirectoryClient
