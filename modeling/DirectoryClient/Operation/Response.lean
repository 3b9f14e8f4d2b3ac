import DirectoryClient.Control.Basic
import DirectoryClient.Duration
import DirectoryClient.Operation.Kind
import DirectoryClient.Operation.MessageId
import DirectoryClient.Operation.ResultCode

namespace DirectoryClient

/-- What a server sends, or what the client puts in its place. -/
structure Response where
  code : ResultCode
  /-- The name of the entry up to which the target was found. -/
  matchedDn : Option String := none
  /-- A message for people. -/
  diagnostic : Option String := none
  /-- Where else to ask. -/
  referrals : List String := []
  controls : List Control := []
deriving DecidableEq, Repr

namespace Response

def success : Response := { code := .success }

def findControl (response : Response) (oid : String) : Option Control :=
  response.controls.find? fun control => control.oid == oid

end Response

/-- A response that ended an operation, with what the client knows about the operation. -/
structure Outcome where
  messageId : MessageId
  kind : OperationKind
  response : Response
  /-- The entries that came before the response; always zero for kinds that stream none. -/
  entries : UInt32
  /-- The references that came before the response; always zero for kinds that stream none. -/
  references : UInt32
  /-- The time from submission to the end. -/
  elapsed : Duration
deriving DecidableEq, Repr

namespace Outcome

/-- Whether the operation ended because its time was up. -/
def isTimeout (outcome : Outcome) : Bool :=
  outcome.response.code = .timeout

end Outcome

end DirectoryClient
