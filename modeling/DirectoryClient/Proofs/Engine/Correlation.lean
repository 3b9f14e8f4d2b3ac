import DirectoryClient.Proofs.Engine.Cause

namespace DirectoryClient

namespace Engine

/-- The operation that an identifier stands for: it is pending, and none was registered under the
identifier after it. -/
structure StandsFor (engine : Engine) (id : MessageId) (serial : Serial)
    (operation : Operation) : Prop where
  found : engine.operation? serial = some operation
  messageId : operation.messageId = id
  pending : operation.stage = .pending
  last : ∀ other, engine.messageId? other = some id → other ≤ serial

/-- What a call about an operation comes to: it writes the outcome, it leaves what has used the
identifier before as it is, and whatever else has ended was asked for by the connection. -/
structure Resolves (engine : Engine) (call : Call) (serial : Serial) (operation : Operation)
    (after : Engine) : Prop where
  outcome : ∃ outcome, after.outcome? serial = some outcome ∧
    outcome.messageId = operation.messageId ∧ outcome.kind = operation.kind ∧
      call.response? engine operation = some outcome.response
  earlier : ∀ other, other ≠ serial → engine.messageId? other = some operation.messageId →
    after.operation? other = engine.operation? other
  others : ∃ events, after.trace = engine.trace ++ events ∧
    ∀ other id, other ≠ serial → engine.messageId? other = some id →
      engine.EndedIn after events other → Event.Asks id events

end Engine

namespace Ledger

variable {engine : Engine} {ending : List Serial} {submitting : List (MessageId × Serial)}
variable {id : MessageId} {serial : Serial}

theorem Coherent.standsFor (coherent : Coherent ⟨engine, ending, submitting⟩)
    (present : engine.pending.get? id = some serial) :
    ∃ operation, engine.StandsFor id serial operation := by
  have stands := coherent.staged.entry present
  obtain ⟨operation, found, own, pending⟩ := Engine.status?_eq_some_iff.mp stands
  exact ⟨operation, found, own, pending, fun other =>
    coherent.latest (.inl ⟨id, present⟩) (Engine.messageId?_of_status? stands)⟩

end Ledger

namespace Moment

variable {engine : Engine} {agenda : List Task} {id : MessageId} {serial : Serial}

/-- The outcome that a call gives to an operation is there when the call is over, and is that of the
moment of the call. -/
theorem outcome_beginAnswered (coherent : (Moment.mk engine agenda).ledger.Coherent)
    (caller : Caller) (call : Call) (target : call.target? = some id)
    (present : engine.pending.get? id = some serial) {after : Engine}
    (course : (engine.beginAnswered caller call).Course ⟨after, []⟩) :
    ∃ operation response, engine.operation? serial = some operation ∧
      call.response? engine operation = some response ∧
      after.outcome? serial = some (operation.outcomeOf response engine.now) := by
  have whole : Ledger.Changes _ _ := changes_course coherent caller call course
  have now : after.now = engine.now := whole.now
  obtain ⟨operation, response, found, gives, gets⟩ :=
    Engine.getsResponse_beginCall coherent.staged target present
  refine ⟨operation, response, found, gives, ?_⟩
  have whole_gets : GetsResponse serial operation response
      ((engine.beginAnswered caller call).within agenda) :=
    gets.imp_left fun ⟨claimed, listed⟩ =>
      ⟨claimed, List.mem_append_left _ (List.mem_append_left _ listed)⟩
  have started := coherent.changes (Engine.changes_beginAnswered agenda coherent caller call)
  rcases whole_gets.course course started with ⟨-, listed⟩ | ended
  · exact absurd (Task.mem_ending_iff.mpr ⟨response, listed⟩) (coherent.staged.not_ending present)
  · exact now ▸ ended

/-- A call about an identifier resolves the operation that the identifier stands for, even if it is
made from inside another call. -/
theorem resolves_beginAnswered (coherent : (Moment.mk engine agenda).ledger.Coherent)
    (caller : Caller) (call : Call) (target : call.target? = some id)
    (present : engine.pending.get? id = some serial) {operation : Operation}
    (stands : engine.StandsFor id serial operation) {after : Engine}
    (course : (engine.beginAnswered caller call).Course ⟨after, []⟩) :
    engine.Resolves call serial operation after := by
  have whole := changes_course coherent caller call course
  constructor
  · obtain ⟨found, response, same, gives, ended⟩ :=
      outcome_beginAnswered coherent caller call target present course
    cases stands.found.symm.trans same
    exact ⟨_, ended, rfl, rfl, gives⟩
  · intro other different used
    rw [stands.messageId] at used
    have own : engine.messageId? serial = some id := by
      rw [Engine.messageId?, stands.found, Option.map_some, stands.messageId]
    have idle : ¬(Moment.mk engine agenda).ledger.Live other := fun live =>
      different (Nat.le_antisymm (stands.last other used) (coherent.latest live used own))
    exact (Ledger.Changes.operation?_of_not_live whole idle).1
  · have accounts := accounts_beginAnswered caller target present
    have started := coherent.changes (Engine.changes_beginAnswered agenda coherent caller call)
    exact (accounts.course course started).asks (coherent.extends whole)
      coherent.published (coherent.changes whole).published

theorem Reachable.resolves_beginRequest (reachable : Reachable ⟨engine, agenda⟩) {caller : Caller}
    {callback : Callback} (target : callback.call.target? = some id)
    (won : (engine.beginRequest caller callback).1 = .flag true) :
    ∃ serial operation, engine.StandsFor id serial operation ∧
      ∀ after, (engine.beginRequest caller callback).2.Course ⟨after, []⟩ →
        engine.Resolves callback.call serial operation after := by
  rcases engine.beginRequest_cases caller callback with ⟨-, same⟩ | ⟨-, same⟩ <;>
    rw [same] at won ⊢
  · obtain ⟨serial, present, -⟩ := Engine.taken_of_won reachable.coherent.staged target won
    obtain ⟨operation, stands⟩ := reachable.coherent.standsFor present
    exact ⟨serial, operation, stands, fun after =>
      resolves_beginAnswered reachable.coherent caller callback.call target present stands⟩
  · cases won

theorem Reachable.resolves_beginFiring (reachable : Reachable ⟨engine, []⟩) {timer : Timer}
    (armed : timer ∈ engine.timers) :
    ∃ operation, engine.StandsFor timer.messageId timer.operation operation ∧
      ∀ after, (engine.beginFiring timer).2.Course ⟨after, []⟩ →
        engine.Resolves (.expire timer.messageId .timeout) timer.operation operation after := by
  obtain ⟨-, -, place⟩ := reachable.coherent.timed timer armed
  have present := place.resolve_right List.not_mem_nil
  obtain ⟨operation, stands⟩ := reachable.coherent.standsFor present
  have disarmed :
      (Moment.mk { engine with timers := engine.timers.erase timer } []).ledger.Coherent :=
    reachable.coherent.turn (.disarm timer)
  refine ⟨operation, stands, fun after course => ?_⟩
  have fired := resolves_beginAnswered disarmed (.timer timer.operation)
    (.expire timer.messageId .timeout) rfl present
    ⟨stands.found, stands.messageId, stands.pending, stands.last⟩ course
  exact ⟨fired.outcome, fired.earlier, fired.others⟩

end Moment

end DirectoryClient
