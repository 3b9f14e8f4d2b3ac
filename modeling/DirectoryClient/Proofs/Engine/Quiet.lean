import DirectoryClient.Proofs.Engine.History

namespace DirectoryClient

/-- Whether a connection makes no calls itself when it is reached. It may fail all the same. -/
structure Connection.IsQuiet (connection : Connection) : Prop where
  transmit : ∀ id, (connection.transmit id).callbacks = []
  deregister : ∀ id, (connection.deregister id).callbacks = []
  abandon : ∀ id, (connection.abandon id).callbacks = []

/-- The visits to a connection that makes no calls itself when an operation is ended by a timeout or
on request. -/
def Connection.visits (connection : Connection) (abandons : Bool) (serial : Serial)
    (id : MessageId) : List Event :=
  [.deregistered serial id, .returned .deregister id (connection.deregister id).failure.isNone] ++
    if abandons then
      [.abandoned serial id, .returned .abandon id (connection.abandon id).failure.isNone]
    else []

namespace Call

/-- Whether a call ends the operation that it is about. -/
def ends (call : Call) : Bool :=
  call.target?.isSome

/-- What a call makes of the operation that it is about. -/
def revise (options : Options) (now : Duration) (call : Call) (operation : Operation) : Operation :=
  match call with
  | .entryReturned _ => operation.recordEntry
  | .referenceReturned _ => operation.recordReference
  | .deliver _ response => operation.resolve response now
  | .expire _ reason =>
      operation.resolve (reason.response (now - operation.submittedAt) options.abandonOnTimeout) now
  | _ => operation

/-- What happens in a call about an operation before it is answered. -/
def events (options : Options) (connection : Connection) (serial : Serial) : Call → List Event
  | .entryReturned _ => [.entryCounted serial]
  | .referenceReturned _ => [.referenceCounted serial]
  | .deliver _ _ => [.published serial]
  | .expire id _ => connection.visits options.abandonOnTimeout serial id ++ [.published serial]
  | _ => []

end Call

namespace Moment

variable {connection : Connection} {engine : Engine} {rest : List Task}

theorem finish_nil : finish connection ⟨engine, []⟩ = engine := by
  simp [finish, next?]

theorem finish_cons {task : Task} : finish connection ⟨engine, task :: rest⟩ =
    finish connection ((engine.carryOut connection task).within rest) := by
  rw [finish]
  rfl

theorem finish_answer {caller : Caller} {call : Call} {reply : Reply} :
    finish connection ⟨engine, [.answer caller call reply]⟩ =
      engine.log (.replied caller call reply) :=
  finish_cons.trans finish_nil

/-- A visit to a connection that makes no calls is over at once. -/
theorem finish_deregister (quiet : connection.IsQuiet) {serial : Serial} {id : MessageId} :
    finish connection ⟨engine, .deregister serial id :: rest⟩ =
      finish connection ⟨(engine.log (.deregistered serial id)).log
        (.returned .deregister id (connection.deregister id).failure.isNone), rest⟩ := by
  rw [finish_cons, Engine.carryOut, within, Task.ofReaction, quiet.deregister, List.map_nil,
    List.nil_append, List.singleton_append, finish_cons]
  rfl

theorem finish_abandon (quiet : connection.IsQuiet) {serial : Serial} {id : MessageId} :
    finish connection ⟨engine, .abandon serial id :: rest⟩ =
      finish connection ⟨(engine.log (.abandoned serial id)).log
        (.returned .abandon id (connection.abandon id).failure.isNone), rest⟩ := by
  rw [finish_cons, Engine.carryOut, within, Task.ofReaction, quiet.abandon, List.map_nil,
    List.nil_append, List.singleton_append, finish_cons]
  rfl

theorem finish_beginExpiry (quiet : connection.IsQuiet) (id : MessageId) (serial : Serial)
    (reason : Expiry) (caller : Caller) (call : Call) (reply : Reply) :
    let start := ((engine.operation? serial).map Operation.submittedAt).getD engine.now
    let abandons := engine.options.abandonOnTimeout
    ((engine.beginExpiry id serial reason).within [.answer caller call reply]).finish connection =
      (Engine.publish { engine with
          trace := engine.trace ++ connection.visits abandons serial id }
        serial (reason.response (engine.now - start) abandons)).log
          (.replied caller call reply) := by
  intro start abandons
  rw [Engine.beginExpiry, within, List.cons_append, finish_deregister quiet, Connection.visits]
  split
  · next told =>
      rw [List.singleton_append, List.cons_append, finish_abandon quiet, List.singleton_append,
        finish_cons, Engine.carryOut, within, List.nil_append, finish_answer]
      simp [abandons, told, Engine.publish, Engine.log]
      rfl
  · next untold =>
      rw [List.nil_append, List.singleton_append, finish_cons, Engine.carryOut, within,
        List.nil_append, finish_answer]
      simp [abandons, untold, Engine.publish, Engine.log]
      rfl

end Moment

namespace Engine

/-- The engine after a call about an operation, if the connection makes no calls itself. -/
def revise (engine : Engine) (connection : Connection) (call : Call) (id : MessageId)
    (serial : Serial) : Engine :=
  { engine with
    operations := engine.operations.modify serial (call.revise engine.options engine.now)
    pending := if call.ends then engine.pending.removeIfSame id serial else engine.pending
    timers := if call.ends then engine.timers.filter fun timer => timer.operation ≠ serial
      else engine.timers
    trace := engine.trace ++ call.events engine.options connection serial }

variable {engine : Engine} {connection : Connection} {ending : List Serial}
variable {submitting : List (MessageId × Serial)} {id : MessageId} {serial : Serial}

/-- To claim an operation, take it out of the table and give it a response is to revise it once,
whatever has been added to the trace on the way. -/
theorem publish_taken (id : MessageId) {operation : Operation} {response : Response}
    (revised : Operation → Operation) (found : engine.operation? serial = some operation)
    (same : operation.resolve response engine.now = revised operation) (trace : List Event) :
    publish { engine with
        operations := engine.operations.set serial { operation with stage := .claimed }
        pending := engine.pending.removeIfSame id serial
        trace } serial response =
      { engine with
        operations := engine.operations.modify serial revised
        pending := engine.pending.removeIfSame id serial
        timers := engine.timers.filter fun timer => timer.operation ≠ serial
        trace := trace ++ [.published serial] } := by
  have written : (engine.operations.set serial { operation with stage := .claimed }).modify serial
      (fun claimed => claimed.resolve response engine.now) =
        engine.operations.modify serial revised :=
    modify_set found same
  rw [publish, written]
  rfl

/-- A call that finds its operation revises this operation, and the engine around it. -/
theorem finish_beginAnswered_of_present (staged : Ledger.Staged ⟨engine, ending, submitting⟩)
    (quiet : connection.IsQuiet) {call : Call} (about : call.about? = some id)
    (present : engine.pending.get? id = some serial) (caller : Caller) :
    (engine.beginAnswered caller call).finish connection =
      (engine.revise connection call id serial).log (.replied caller call (.flag true)) := by
  obtain ⟨claimed, won, taken⟩ := takeOut_of_present staged present
  obtain ⟨operation, found, pending, rfl⟩ := claim_eq_some won
  cases call with
  | deliver key response =>
      cases about
      have written := publish_taken id (Call.revise engine.options engine.now (.deliver id response))
        found rfl engine.trace
      rw [beginAnswered, beginCall, taken]
      exact Moment.finish_answer.trans (congrArg (log · _) written)
  | expire key reason =>
      cases about
      have start : ((engine.operations.set serial { operation with stage := .claimed })[serial]?.map
          Operation.submittedAt).getD engine.now = operation.submittedAt := by
        rw [List.getElem?_set_self (List.getElem?_eq_some_iff.mp found).1]
        rfl
      have written := publish_taken id (Call.revise engine.options engine.now (.expire id reason))
        found rfl (engine.trace ++ connection.visits engine.options.abandonOnTimeout serial id)
      rw [beginAnswered, beginCall, taken]
      refine (Moment.finish_beginExpiry quiet id serial reason caller _ _).trans ?_
      refine congrArg (log · _) ?_
      rw [operation?, withdraw, start]
      refine written.trans ?_
      rw [List.append_assoc]
      rfl
  | entryReturned key =>
      cases about
      rw [beginAnswered, beginCall, present]
      exact Moment.finish_answer
  | referenceReturned key =>
      cases about
      rw [beginAnswered, beginCall, present]
      exact Moment.finish_answer
  | _ => cases about

/-- The identifier that a call is about, with the operation that it stands for, if the call gets as
far as the engine. -/
def standing? (engine : Engine) (callback : Callback) : Option (MessageId × Serial) :=
  if engine.isHeld callback.holder then
    callback.call.about?.bind fun id => (engine.pending.get? id).map fun serial => (id, serial)
  else none

def verdict (engine : Engine) (callback : Callback) : Reply :=
  if engine.isHeld callback.holder then .flag (engine.standing? callback).isSome else .noEngine

/-- The engine after a call that has found an operation or none. -/
def touch (engine : Engine) (connection : Connection) (call : Call) :
    Option (MessageId × Serial) → Engine
  | none => engine
  | some (id, serial) => engine.revise connection call id serial

/-- A call to an engine comes to what it finds there, if the connection makes no calls itself. -/
theorem request_of_quiet (staged : Ledger.Staged ⟨engine, ending, submitting⟩)
    (quiet : connection.IsQuiet) {callback : Callback} (about : callback.call.about? = some id)
    (caller : Caller) : engine.request connection caller callback =
      (engine.verdict callback,
        (engine.touch connection callback.call (engine.standing? callback)).log
          (.replied caller callback.call (engine.verdict callback))) := by
  rw [request]
  rcases engine.beginRequest_cases caller callback with ⟨held, begun⟩ | ⟨unheld, begun⟩
  · cases found : engine.pending.get? id with
    | none =>
        have nothing : engine.standing? callback = none := by simp [standing?, about, found]
        rw [beginRequest_of_free held about found, verdict, if_pos held, nothing]
        exact Prod.ext rfl Moment.finish_answer
    | some serial =>
        have something : engine.standing? callback = some (id, serial) := by
          simp [standing?, held, about, found]
        have present : engine.isPending id = true := by
          rw [isPending, PendingTable.contains, found]
          rfl
        rw [begun, verdict, if_pos held, something, reply_of_about? staged about, present]
        exact Prod.ext rfl (finish_beginAnswered_of_present staged quiet about found caller)
  · have nothing : engine.standing? callback = none := by simp [standing?, unheld]
    rw [begun, verdict, if_neg (by simp [unheld]), nothing]
    exact Prod.ext rfl Moment.finish_answer

end Engine

end DirectoryClient
