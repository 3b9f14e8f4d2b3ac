import DirectoryClient.Duration
import DirectoryClient.Operation.Failure
import DirectoryClient.Operation.Response

/-!
# Calls between a client, an engine and a connection

A `Call` asks an engine about operations that are under way and is answered by a `Reply`. A
connection writes requests, forgets requests and tells the server to stop work on them. It may call
the engine from inside any of these, so what it does at one of these sites is a `Reaction`: the
calls that it makes, and the failure that it reports afterwards.

While one call of a client is carried out, a connection is reached at a site at most once for each
identifier. A reaction that depends on the site and the identifier alone is therefore no
restriction, as long as the connection may be another one for the next call.
-/

namespace DirectoryClient

/-- Why an operation ends without a response of the server. -/
inductive Expiry where
  /-- Its time is up. -/
  | timeout
  /-- It is no longer wanted. -/
  | canceled
deriving DecidableEq, Repr

namespace Expiry

def code : Expiry → ResultCode
  | .timeout => .timeout
  | .canceled => .userCanceled

def message (reason : Expiry) (elapsed : Duration) (abandons : Bool) : String :=
  let happened := match reason with
    | .timeout => "encountered a client-side timeout"
    | .canceled => "was canceled"
  let sequel := if abandons then "and will be abandoned" else "without being abandoned"
  s!"The asynchronous operation {happened} after {elapsed.toMilliseconds} ms {sequel}"

def response (reason : Expiry) (elapsed : Duration) (abandons : Bool) : Response :=
  { code := reason.code, diagnostic := some (reason.message elapsed abandons) }

end Expiry

/-- The calls of an engine but for `submit`, which alone needs a request to write. -/
inductive Call where
  /-- `deliver`: the final response for an identifier has come. -/
  | deliver (id : MessageId) (response : Response)
  /-- `entry_returned`: one more entry has come for a search. -/
  | entryReturned (id : MessageId)
  /-- `reference_returned`: one more reference has come for a search. -/
  | referenceReturned (id : MessageId)
  /-- `on_timeout` or `cancel`, by the reason: the client ends the operation itself. -/
  | expire (id : MessageId) (reason : Expiry)
  /-- `is_pending`: whether an identifier stands for an operation. -/
  | isPending (id : MessageId)
  /-- `pending_count`: how many operations are pending. -/
  | pendingCount
  /-- Shows the engine for debugging. -/
  | describe
  /-- `fail_all`: no response can come any more. -/
  | failAll (code : ResultCode) (message : String)
deriving DecidableEq, Repr

inductive Reply where
  /-- Whether the call had an effect, or whether what it asks is so. -/
  | flag (holds : Bool)
  | count (operations : Nat)
  | text (description : String)
  /-- The reference to the engine that the caller used has been dropped, or was never there. -/
  | noEngine
deriving DecidableEq, Repr

/-- The place of a reference in the order in which references to an engine were made. -/
abbrev Holder := Nat

structure Callback where
  /-- The reference to the engine that the call uses. -/
  holder : Holder := 0
  call : Call
deriving DecidableEq, Repr

/-- What a connection does when it is reached: some calls, and then a failure or none. -/
structure Reaction (ε : Type) where
  callbacks : List Callback := []
  failure : Option ε := none
deriving DecidableEq, Repr

/-- `Connection`, by what it does when it is reached for an identifier. Its options are with the
engine. -/
structure Connection where
  transmit : MessageId → Reaction TransportError := fun _ => {}
  /-- `deregister_pending_response`: no response is expected any more. -/
  deregister : MessageId → Reaction TransportError := fun _ => {}
  /-- `abandon`, which tells the server to stop work on a request. -/
  abandon : MessageId → Reaction ProtocolError := fun _ => {}

instance : Inhabited Connection := ⟨{}⟩

inductive Site where
  | transmit
  | deregister
  | abandon
deriving DecidableEq, Repr

inductive Caller where
  | client
  /-- A plan that a user made for a later time. -/
  | schedule
  | timer (operation : Nat)
  /-- The connection, from inside a site that was reached for an identifier. -/
  | connection (site : Site) (id : MessageId)
deriving DecidableEq, Repr

/-- What happens on an engine, in the order in which it happens. -/
inductive Event where
  | transmitted (id : MessageId) (request : List UInt8)
  | deregistered (operation : Nat) (id : MessageId)
  | abandoned (operation : Nat) (id : MessageId)
  | returned (site : Site) (id : MessageId) (succeeded : Bool)
  | replied (caller : Caller) (call : Call) (reply : Reply)
  /-- A request has become an operation that somebody can wait for. -/
  | submitted (operation : Nat)
  /-- A request has not become an operation. -/
  | refused (reason : SubmitError)
  | entryCounted (operation : Nat)
  | referenceCounted (operation : Nat)
  /-- The outcome of an operation can be seen. -/
  | published (operation : Nat)
  /-- The engine is gone, and some operations failed with it. -/
  | released (operations : Nat)
deriving DecidableEq, Repr

end DirectoryClient
