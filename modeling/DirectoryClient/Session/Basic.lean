import DirectoryClient.Engine.Run

/-!
# Sessions

A session is an engine with its connection, the handles that its users hold on operations, and the
calls that they have planned for later. Time is a number that moves only when somebody sleeps or
waits; what falls due on the way happens in the order of its times, each thing at its own time.
-/

namespace DirectoryClient

structure Plan where
  due : Duration
  callback : Callback
deriving DecidableEq, Repr

/-- The place of a handle in the order in which handles were made. -/
abbrev Handle := Nat

structure Session where
  engine : Engine := {}
  connection : Connection := {}
  /-- The operation of each handle; several handles may share one. -/
  handles : List Serial := []
  /-- What has been planned and is not yet done. -/
  plans : List Plan := []

namespace Session

instance : Inhabited Session := ⟨{}⟩

/-- `with_allocator`: an engine on which nothing has happened, and no handle. -/
def start (options : Options) (ids : IdSequence) : Session :=
  { engine := { options, ids } }

def operation? (session : Session) (handle : Handle) : Option Operation :=
  session.handles[handle]?.bind session.engine.operation?

/-- Lets an engine that nobody can reach go. -/
def settle (session : Session) : Session :=
  { session with engine := session.engine.release }

def addHandle (session : Session) (serial : Serial) : Handle × Session :=
  (session.handles.length, { session with handles := session.handles ++ [serial] })

/-- `is_resolved` of a handle on the operation. -/
def isResolved (session : Session) (serial : Serial) : Bool :=
  (session.engine.operation? serial).any Operation.isResolved

/-- `result` of a handle on the operation: the outcome, once it has ended. -/
def outcome? (session : Session) (serial : Serial) : Option Outcome :=
  (session.engine.operation? serial).bind Operation.outcome?

/-! ## The passing of time -/

inductive Due where
  | timer (armed : Timer)
  | plan (made : Plan)
deriving DecidableEq, Repr

def Due.time : Due → Duration
  | .timer armed => armed.deadline
  | .plan made => made.due

/-- Everything that falls due until `limit`, or ever, in the order of the times. Nothing of it makes
anything else fall due, since neither a timer nor a plan submits a request. -/
def agenda (session : Session) (limit : Option Duration) : List Due :=
  let all := session.engine.timers.map .timer ++ session.plans.map .plan
  let reached := all.filter fun due => limit.all (due.time ≤ ·)
  reached.mergeSort fun first second => first.time ≤ second.time

def moveTo (session : Session) (time : Duration) : Session :=
  { session with engine := { session.engine with now := max session.engine.now time } }

/-- What falls due happens at its time: a timer fires, or a planned call is made. -/
def happen (session : Session) (due : Due) : Session :=
  let moved := session.moveTo due.time
  match due with
  | .timer armed => { moved with engine := moved.engine.fire moved.connection armed }.settle
  | .plan made =>
      let (_, engine) := moved.engine.request moved.connection .schedule made.callback
      { moved with engine, plans := moved.plans.erase made }.settle

/-- Does what falls due, in order, until there has been enough of it. -/
def pass (session : Session) (enough : Session → Bool) : List Due → Session
  | [] => session
  | due :: rest => if enough session then session else (session.happen due).pass enough rest

def sleep (session : Session) (span : Duration) : Session :=
  let wake := session.engine.now + span
  (session.pass (fun _ => false) (session.agenda (some wake))).moveTo wake

/-- Whether nobody has to wait for an operation: it has ended, or it is not there any more. -/
def isOver (session : Session) (serial : Serial) : Bool :=
  (session.engine.operation? serial).all Operation.isResolved

/-- `await_result`: lets time go by until an operation has ended, or until the limit, if there is
one, has passed since the call. The operation itself is not affected. There is no answer if the
operation never ends and nothing limits the wait. -/
def await (session : Session) (serial : Serial) (limit : Option Duration) :
    Option (Except AwaitError Outcome) × Session :=
  let id := ((session.engine.operation? serial).map Operation.messageId).getD ⟨0⟩
  let wake := limit.map (session.engine.now + ·)
  let after := session.pass (·.isOver serial) (session.agenda wake)
  match after.engine.operation? serial with
  | none => (some (.error (.released id)), after)
  | some operation =>
      match operation.outcome?, wake with
      | some outcome, _ => (some (.ok outcome), after)
      | none, none => (none, after)
      | none, some time => (some (.error (.elapsed id)), after.moveTo time)

end Session

end DirectoryClient
