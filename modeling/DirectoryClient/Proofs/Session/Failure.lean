import DirectoryClient.Proofs.Engine.History
import DirectoryClient.Proofs.Engine.Telling
import DirectoryClient.Proofs.Engine.Walk
import DirectoryClient.Proofs.Session.Run

namespace DirectoryClient

namespace Engine

/-- An engine after everything that was pending has failed with a code and a message. -/
structure Failed (engine : Engine) (code : ResultCode) (message : String) (failed : Engine) :
    Prop where
  emptied : failed.pending = ∅
  ended : ∀ {id serial}, engine.pending.get? id = some serial → ∃ operation outcome,
    engine.operation? serial = some operation ∧ operation.messageId = id ∧
      operation.outcome? = none ∧
      failed.operation? serial = some { operation with stage := .resolved outcome } ∧
      outcome.messageId = id ∧ outcome.kind = operation.kind ∧
      outcome.response = { code, diagnostic := some message } ∧
      outcome.entries = (if operation.kind.isStreaming then operation.entries else 0) ∧
      outcome.references = (if operation.kind.isStreaming then operation.references else 0) ∧
      outcome.elapsed = engine.now - operation.submittedAt
  /-- Whatever the table did not have is left alone, be it resolved or not. -/
  spared : ∀ {serial}, serial ∉ engine.pending.serials →
    failed.operation? serial = engine.operation? serial
  disarmed : failed.timers =
    engine.timers.filter fun timer => timer.operation ∉ engine.pending.serials
  /-- The connection is not told. -/
  told : failed.trace = engine.trace ++ engine.pending.serials.map .published
  frame : failed = { engine with
    operations := failed.operations, pending := failed.pending, timers := failed.timers
    trace := failed.trace }

variable {engine : Engine} {ending : List Serial} {submitting : List (MessageId × Serial)}

theorem failed_resolveEach (staged : Ledger.Staged ⟨engine, ending, submitting⟩) (code : ResultCode)
    (message : String) : engine.Failed code message
      (resolveEach { engine with pending := ∅ } { code, diagnostic := some message }
        engine.pending.serials) where
  emptied := rfl
  ended := by
    intro id serial present
    obtain ⟨operation, found, own, pending⟩ := status?_eq_some_iff.mp (staged.entry present)
    have listed := PendingTable.mem_serials_iff.mpr ⟨id, present⟩
    refine ⟨operation, operation.outcomeOf { code, diagnostic := some message } engine.now, found,
      own, ?_, ?_, own, rfl, rfl, rfl, rfl, rfl⟩
    · rw [Operation.outcome?, pending]
    · rw [operation?_resolveEach]
      change (engine.operation? serial).map _ = _
      rw [found, Option.map_some, if_pos listed]
      rfl
  spared := by
    intro serial absent
    rw [operation?_resolveEach]
    change (engine.operation? serial).map _ = _
    simp [absent]
  disarmed := rfl
  told := rfl
  frame := rfl

theorem not_mem_serials (staged : Ledger.Staged ⟨engine, ending, submitting⟩) {serial : Serial}
    {operation : Operation} (found : engine.operation? serial = some operation)
    (started : operation.stage ≠ .pending) : serial ∉ engine.pending.serials := by
  intro listed
  obtain ⟨id, present⟩ := PendingTable.mem_serials_iff.mp listed
  obtain ⟨_, again, -, pending⟩ := status?_eq_some_iff.mp (staged.entry present)
  cases found.symm.trans again
  exact started pending

theorem Failed.outcome? {failed : Engine} {code : ResultCode} {message : String}
    (fails : engine.Failed code message failed)
    (staged : Ledger.Staged ⟨engine, ending, submitting⟩) {serial : Serial} {outcome : Outcome}
    (ended : engine.outcome? serial = some outcome) : failed.outcome? serial = some outcome := by
  obtain ⟨id, stands⟩ := outcome?_eq_some_iff.mp ended
  obtain ⟨operation, found, -, resolved⟩ := status?_eq_some_iff.mp stands
  have spared := fails.spared (not_mem_serials staged found (by simp [resolved]))
  rw [Engine.outcome?, spared]
  exact ended

end Engine

namespace Moment

/-- What is just being ended gets its own outcome, whatever fails in the meantime. -/
theorem outcome?_of_failed {engine last : Engine} {rest : List Task}
    (coherent : (Moment.mk engine rest).ledger.Coherent) {caller : Caller} {callback : Callback}
    {code : ResultCode} {message : String}
    (fails : engine.Failed code message (engine.beginRequest caller callback).2.engine)
    {serial : Serial} {operation : Operation} {response : Response}
    (found : engine.operation? serial = some operation) (claimed : operation.stage = .claimed)
    (listed : .publish serial response ∈ rest)
    (course : ((engine.beginRequest caller callback).2.within rest).Course ⟨last, []⟩) :
    last.outcome? serial = some (operation.outcomeOf response engine.now) := by
  have changes := Engine.changes_beginRequest rest coherent caller callback
  have spared := fails.spared (Engine.not_mem_serials coherent.staged found (by simp [claimed]))
  have now : (engine.beginRequest caller callback).2.engine.now = engine.now := changes.now
  have written := outcome?_of_publish (coherent.changes changes) (spared.trans found) claimed
    (List.mem_append_right _ listed) course
  exact now ▸ written

end Moment

/-- Ending everything ends what the table has, and nothing else, from outside as well as from inside
a call that has yet to do `rest`. The order in which the table is walked makes no difference but to
the trace. -/
theorem fails_all_pending {moment : Moment} {caller : Caller} {callback : Callback}
    {rest : List Task} {code : ResultCode} {message : String} (reachable : moment.Reachable)
    (calls : moment.Calls caller callback rest)
    (held : moment.engine.isHeld callback.holder = true)
    (asked : callback.call = .failAll code message) :
    let engine := moment.engine
    let begun := (engine.beginRequest caller callback).2
    (engine.beginRequest caller callback).1 = .count engine.pendingCount ∧
      begun.agenda = [.answer caller callback.call (.count engine.pendingCount)] ∧
      engine.Failed code message begun.engine ∧
      (∀ serial outcome, engine.outcome? serial = some outcome →
        begun.engine.outcome? serial = some outcome) ∧
      (∀ serial response, .publish serial response ∈ rest → ∃ operation,
        engine.operation? serial = some operation ∧ operation.outcome? = none ∧
          ∀ last, (begun.within rest).Course ⟨last, []⟩ →
            last.outcome? serial = some (operation.outcomeOf response engine.now)) ∧
      ∀ walk, walk.Perm engine.pending.ids → ∃ written : List Serial,
        written.Perm engine.pending.serials ∧
        engine.failAlong walk { code, diagnostic := some message } = (engine.pendingCount,
          { begun.engine with trace := engine.trace ++ written.map .published }) := by
  have coherent := reachable.coherent
  rw [← calls.ledger_eq] at coherent
  obtain ⟨engine, agenda⟩ := moment
  have staged : Ledger.Staged ⟨engine, Task.ending rest, Task.submitting rest⟩ := coherent.staged
  have failed := Engine.failAll_of_staged staged code message
  have begun : engine.beginRequest caller callback = (.count engine.pendingCount,
      ⟨Engine.resolveEach { engine with pending := ∅ } { code, diagnostic := some message }
        engine.pending.serials, [.answer caller callback.call (.count engine.pendingCount)]⟩) := by
    rw [Engine.beginRequest_of_held held, Engine.beginAnswered, asked, Engine.beginCall, failed]
    rfl
  have fails : engine.Failed code message (engine.beginRequest caller callback).2.engine := by
    rw [begun]
    exact Engine.failed_resolveEach staged code message
  refine ⟨congrArg Prod.fst begun, ?_, fails,
    fun serial outcome ended => fails.outcome? staged ended,
    fun serial response listed => ?_, fun walk order => ?_⟩
  · rw [begun]
  · obtain ⟨operation, found, claimed⟩ :=
      Moment.claimed_of_ending coherent (Task.mem_ending_iff.mpr ⟨response, listed⟩)
    exact ⟨operation, found, by rw [Operation.outcome?, claimed], fun last course =>
      Moment.outcome?_of_failed coherent fails found claimed listed course⟩
  · obtain ⟨met, same⟩ := Engine.failAlong_of_perm staged order _
    refine ⟨_, met, same.trans ?_⟩
    rw [Engine.resolveEach_of_perm met, begun]

/-- A connection that is lost while it is told that an operation has ended. -/
def Connection.lost : Connection :=
  { deregister := fun _ =>
      { callbacks := [⟨0, .entryReturned ⟨3⟩⟩, ⟨0, .failAll .localError "connection lost"⟩] } }

/-- The first of three requests has been canceled, and the connection is lost on the way. -/
def Moment.losing : Moment :=
  (((Session.start {} (.startingAt 1)).run
    [.submit 0 .search [] (some (.ofSeconds 9 0)), .submit 0 .add [] (some (.ofSeconds 9 0)),
      .submit 0 .search [] none]).2.engine.beginRequest .client
      ⟨0, .expire ⟨1⟩ .canceled⟩).2.advance .lost 3

theorem fails_all_pending_losing :
    let engine := Moment.losing.engine
    let begun := engine.beginRequest (.connection .deregister ⟨1⟩)
      ⟨0, .failAll .localError "connection lost"⟩
    begun.1 = .count 2 ∧ begun.2.engine.pending = ∅ ∧
      engine.pending.ids = [⟨2⟩, ⟨3⟩] ∧ engine.timers.map Timer.operation = [0, 1] ∧
      begun.2.engine.timers.map Timer.operation = [0] ∧
      (∃ outcome, begun.2.engine.outcome? 2 = some outcome ∧ outcome.entries = 1 ∧
        outcome.response = { code := .localError, diagnostic := some "connection lost" }) ∧
      ((begun.2.within Moment.losing.agenda.tail).finish .lost).outcome? 0 = some
        { messageId := ⟨1⟩, kind := .search, entries := 0, references := 0, elapsed := .zero
          response := Expiry.canceled.response .zero false } := by
  intro engine begun
  have reachable : Moment.losing.Reachable :=
    ((Session.reachable_run _ _ _).reaches (.single (.request _ _ (.inl rfl)))).reaches
      (Moment.reaches_advance _ _ _)
  have next : Moment.losing.agenda = .callback .deregister ⟨1⟩
      ⟨0, .failAll .localError "connection lost"⟩ :: Moment.losing.agenda.tail := by decide +kernel
  have count : engine.pendingCount = 2 := by decide +kernel
  obtain ⟨reply, -, fails, -, own, -⟩ :=
    fails_all_pending reachable (.inside next) (by decide +kernel) rfl
  refine ⟨count ▸ reply, fails.emptied, by decide +kernel, by decide +kernel, ?_, ?_, ?_⟩
  · rw [fails.disarmed]
    decide +kernel
  · have present : engine.pending.get? ⟨3⟩ = some 2 := by decide +kernel
    obtain ⟨operation, outcome, found, -, -, ended, -, -, response, entries, -⟩ :=
      fails.ended present
    have counted : engine.operation? 2 = some
        { messageId := ⟨3⟩, kind := .search, submittedAt := .zero, entries := 1 } := by
      decide +kernel
    cases found.symm.trans counted
    exact ⟨outcome, by rw [Engine.outcome?, ended]; rfl, entries, response⟩
  · have listed : .publish 0 (Expiry.canceled.response .zero false) ∈ Moment.losing.agenda.tail := by
      decide +kernel
    obtain ⟨operation, found, -, ended⟩ := own _ _ listed
    have claimed : engine.operation? 0 = some
        { messageId := ⟨1⟩, kind := .search, submittedAt := .zero, stage := .claimed } := by
      decide +kernel
    have now : engine.now = .zero := by decide +kernel
    cases found.symm.trans claimed
    refine (ended _ (Moment.exists_course .lost _)).trans ?_
    change some (Operation.outcomeOf _ _ engine.now) = _
    rw [now]
    rfl

end DirectoryClient
