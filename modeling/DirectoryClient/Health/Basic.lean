import DirectoryClient.Duration
import DirectoryClient.Operation.Failure
import DirectoryClient.Operation.Response

/-!
# Health checks

A pool asks health checks about a connection at six transitions of its life. A check passes or
rejects the connection, and it may keep a state of its own, which is why examining a connection is
an action in a monad. Checks are put together in chains, and chains are checks again; a chain asks
its members in order and stops at the first rejection.
-/

namespace DirectoryClient.Health

structure PooledConnection where
  isConnected : Bool
  /-- The time since the connection was established. -/
  age : Duration
  /-- What the connection is called in messages. -/
  name : String
deriving DecidableEq, Repr

/-- The hook that is called, with the arguments that it has besides the connection. -/
inductive Transition where
  /-- `after_new_connection`: the connection is new and not yet in the pool. -/
  | established
  /-- `after_authentication`: an authentication has been answered. -/
  | authenticated (response : Response)
  /-- `before_checkout`: the connection is about to be handed out. -/
  | checkout
  /-- `before_release`: the connection is about to go back into the pool. -/
  | release
  /-- `continued_use`: the connection is idle, or about to be used once more. -/
  | continued
  /-- `after_operation_exception`: an operation on the connection has failed. -/
  | failed (error : ProtocolError)
deriving DecidableEq, Repr

/-- The failure that the transition is about, if it is about one. -/
def Transition.cause? : Transition → Option ProtocolError
  | .failed error => some error
  | _ => none

/-- Why a connection is not to be used any more. -/
structure Rejection where
  check : String
  message : String
  /-- The failure of an operation that led to the rejection. -/
  cause : Option ProtocolError := none
deriving DecidableEq, Repr

namespace Rejection

def text (rejection : Rejection) : String :=
  s!"connection invalid according to {rejection.check}: {rejection.message}"

/-- The wording of the failure below this one, if there is one. -/
def source? (rejection : Rejection) : Option String :=
  rejection.cause.map ProtocolError.text

end Rejection

/-- A health check. Its six hooks are `examine` at the six transitions. -/
structure Check (m : Type → Type) where
  name : String
  examine : Transition → PooledConnection → m (Except Rejection Unit)

/-- The check that overrides no hook: by default each of the six passes. -/
def Check.passive {m : Type → Type} [Monad m] (name : String) : Check m where
  name := name
  examine _ _ := pure (.ok ())

/-- A check, or a chain of checks in construction order, which is a check as well. -/
inductive CheckTree (α : Type) where
  | leaf (check : α)
  | chain (members : List (CheckTree α))

namespace CheckTree

variable {α : Type} {m : Type → Type}

mutual

/-- Asks the checks of a tree in order, up to the first rejection. What is asked of a chain is asked
of each of its members. -/
def ask [Monad m] (examine : α → m (Except Rejection Unit)) :
    CheckTree α → m (Except Rejection Unit)
  | .leaf check => examine check
  | .chain members => askAll examine members

/-- Asks the checks of some trees in order, up to the first rejection: `run` over the members of a
chain. -/
def askAll [Monad m] (examine : α → m (Except Rejection Unit)) :
    List (CheckTree α) → m (Except Rejection Unit)
  | [] => pure (.ok ())
  | member :: rest => do
      match ← ask examine member with
      | .error rejection => pure (.error rejection)
      | .ok () => askAll examine rest

end

def chainName : String := "HealthCheckChain"

def name : CheckTree (Check m) → String
  | .leaf check => check.name
  | .chain _ => chainName

/-- The six hooks of a tree. Each hook of a chain runs the hook of the same name over the members,
with the arguments that it was called with itself, so `after_new_connection` reaches every leaf as
`after_new_connection`, `after_authentication` as `after_authentication` with the same response, and
so on for `before_checkout`, `before_release`, `continued_use` and `after_operation_exception`. -/
def examine [Monad m] (tree : CheckTree (Check m)) (transition : Transition)
    (connection : PooledConnection) : m (Except Rejection Unit) :=
  tree.ask fun check => check.examine transition connection

end CheckTree

end DirectoryClient.Health
