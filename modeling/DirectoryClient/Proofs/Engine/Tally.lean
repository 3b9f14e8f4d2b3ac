import DirectoryClient.Proofs.Engine.Course
import Mathlib.Algebra.GroupWithZero.Nat

namespace DirectoryClient

def Caller.isTimer : Caller → Bool
  | .timer _ => true
  | _ => false

namespace Event

/-- Whether a call other than that of a timer has ended its operation. -/
def isWonCall : Event → Bool
  | .replied caller call reply => !caller.isTimer && call.wins reply
  | _ => false

/-- Whether a timer has ended its operation. -/
def isWonFiring : Event → Bool
  | .replied caller call reply => caller.isTimer && call.wins reply
  | _ => false

/-- The number of operations that a call has ended all at once. -/
def failedCount : Event → Nat
  | .replied _ call reply => call.failed reply
  | _ => 0

/-- The number of operations that ended with the engine. -/
def releasedCount : Event → Nat
  | .released operations => operations
  | _ => 0

def ended (event : Event) : Nat :=
  event.isWonCall.toNat + event.isWonFiring.toNat + event.failedCount + event.releasedCount

theorem ended_replied (caller : Caller) (call : Call) (reply : Reply) :
    ended (.replied caller call reply) = (call.wins reply).toNat + call.failed reply := by
  cases caller <;> simp [ended, isWonCall, isWonFiring, failedCount, releasedCount, Caller.isTimer]

theorem sum_ended (trace : List Event) :
    (trace.map ended).sum = trace.countP isWonCall + trace.countP isWonFiring +
      (trace.map failedCount).sum + (trace.map releasedCount).sum := by
  induction trace with
  | nil => rfl
  | cons event rest ih =>
      simp only [List.map_cons, List.sum_cons, List.countP_cons, ih, ended]
      cases event.isWonCall <;> cases event.isWonFiring <;> simp <;> omega

end Event

/-- The number of operations that a task is going to say have ended. -/
def Task.due : Task → Nat
  | .answer _ call reply => (call.wins reply).toNat + call.failed reply
  | _ => 0

namespace Engine

variable {engine after : Engine} {id : MessageId} {serial : Serial}

def said (engine : Engine) : Nat :=
  (engine.trace.map Event.ended).sum

@[simp] theorem said_log (event : Event) : (engine.log event).said = engine.said + event.ended := by
  simp [said]

@[simp] theorem said_publish (response : Response) :
    (engine.publish serial response).said = engine.said := by
  simp [said, Event.ended, Event.isWonCall, Event.isWonFiring, Event.failedCount,
    Event.releasedCount]

@[simp] theorem said_countEntry : (engine.countEntry serial).said = engine.said :=
  said_log (.entryCounted serial)

@[simp] theorem said_countReference : (engine.countReference serial).said = engine.said :=
  said_log (.referenceCounted serial)

theorem said_takeOut (found : engine.takeOut id = some (serial, after)) :
    after.said = engine.said := by
  rw [frame_takeOut found]
  rfl

theorem tally_failEach (engine : Engine) (response : Response) (serials : List Serial) :
    (engine.failEach response serials).2.published.length =
        engine.published.length + (engine.failEach response serials).1 ∧
      (engine.failEach response serials).2.said = engine.said := by
  induction serials generalizing engine with
  | nil => exact ⟨rfl, rfl⟩
  | cons serial rest ih =>
      rw [failEach]
      split
      · exact ih engine
      · next claimed won =>
          obtain ⟨operation, -, -, rfl⟩ := claim_eq_some won
          obtain ⟨written, silent⟩ := ih (publish _ serial response)
          simp only [published_publish, List.length_append, said_publish] at written silent
          refine ⟨?_, silent⟩
          change _ = _ + (_ + 1)
          rw [written, List.length_singleton, Nat.add_assoc, Nat.add_comm 1]
          rfl

theorem tally_failAll (engine : Engine) (code : ResultCode) (message : String) :
    (engine.failAll code message).2.published.length =
        engine.published.length + (engine.failAll code message).1 ∧
      (engine.failAll code message).2.said = engine.said :=
  tally_failEach { engine with pending := ∅ } _ _

theorem tally_release (engine : Engine) :
    engine.release.published.length + engine.said =
      engine.published.length + engine.release.said := by
  rw [release]
  split
  · obtain ⟨written, silent⟩ := engine.tally_failAll .localError releaseMessage
    simp only [published_log, said_log, written, silent, Event.published?, Option.toList_none,
      List.append_nil, Event.ended, Event.isWonCall, Event.isWonFiring, Event.failedCount,
      Event.releasedCount, Bool.toNat_false]
    omega
  · rfl

end Engine

namespace Moment

/-- The number of outcomes that have been written or are going to be written by a task. -/
def written (moment : Moment) : Nat :=
  moment.engine.published.length + (Task.ending moment.agenda).length

/-- The number of operations that the trace says have ended, or a task is going to say so. -/
def announced (moment : Moment) : Nat :=
  moment.engine.said + (moment.agenda.map Task.due).sum

variable {moment after : Moment}

theorem written_append (engine : Engine) (first second : List Task) :
    written ⟨engine, first ++ second⟩ = written ⟨engine, first⟩ + (Task.ending second).length := by
  simp [written, Nat.add_assoc]

theorem announced_append (engine : Engine) (first second : List Task) :
    announced ⟨engine, first ++ second⟩ =
      announced ⟨engine, first⟩ + (second.map Task.due).sum := by
  simp [announced, Nat.add_assoc]

theorem sum_due_ofReaction {ε : Type} (site : Site) (id : MessageId) (reaction : Reaction ε) :
    ((Task.ofReaction site id reaction).map Task.due).sum = 0 := by
  rw [Task.ofReaction, List.map_append, List.sum_append]
  refine Nat.add_eq_zero_iff.mpr ⟨?_, rfl⟩
  induction reaction.callbacks with
  | nil => rfl
  | cons callback rest ih =>
      rw [List.map_cons, List.map_cons, List.sum_cons, ih]
      rfl

/-- A call that begins ends as many operations, or is about to, as it is going to say. -/
theorem tally_beginCall (engine : Engine) (call : Call) :
    (engine.beginCall call).2.written = engine.published.length +
        (call.wins (engine.beginCall call).1).toNat + call.failed (engine.beginCall call).1 ∧
      (engine.beginCall call).2.announced = engine.said := by
  obtain ⟨reply, moment, same, begins⟩ := engine.exists_begins call
  rw [same]
  cases begins with
  | idle lost none =>
      rw [lost, none]
      exact ⟨rfl, rfl⟩
  | deliver found =>
      simp [written, announced, Task.ending, Engine.published_takeOut found,
        Engine.said_takeOut found, Call.wins, Call.failed]
  | @expire id reason serial taken found =>
      have silent : ((taken.beginExpiry id serial reason).agenda.map Task.due).sum = 0 := by
        rw [Engine.beginExpiry]
        split <;> rfl
      have same : (taken.beginExpiry id serial reason).engine = taken := rfl
      simp [written, announced, same, silent, Engine.published_takeOut found,
        Engine.said_takeOut found, Call.wins, Call.failed]
  | countEntry present => simp [written, announced, Task.ending, Call.wins, Call.failed]
  | countReference present => simp [written, announced, Task.ending, Call.wins, Call.failed]
  | failAll code message =>
      obtain ⟨count, silent⟩ := engine.tally_failAll code message
      exact ⟨count, silent⟩

theorem tally_beginAnswered (engine : Engine) (caller : Caller) (call : Call) :
    (engine.beginAnswered caller call).written + engine.said =
      (engine.beginAnswered caller call).announced + engine.published.length := by
  obtain ⟨ended, silent⟩ := tally_beginCall engine call
  rw [Engine.beginAnswered, within, written_append, announced_append, ended, silent]
  simp only [Task.ending_cons, Task.ending?, Task.ending_nil, Option.toList_none,
    List.append_nil, List.length_nil, List.map_cons, List.map_nil, List.sum_cons, List.sum_nil,
    Task.due]
  omega

theorem tally_beginRequest (engine : Engine) (caller : Caller) (callback : Callback) :
    (engine.beginRequest caller callback).2.written + engine.said =
      (engine.beginRequest caller callback).2.announced + engine.published.length := by
  rcases engine.beginRequest_cases caller callback with ⟨-, same⟩ | ⟨-, same⟩ <;> rw [same]
  · exact tally_beginAnswered engine caller callback.call
  · have nothing : (Task.answer caller callback.call .noEngine).due = 0 := by
      cases callback.call <;> rfl
    simp only [written, announced, Task.ending_cons, Task.ending?, Task.ending_nil,
      Option.toList_none, List.append_nil, List.length_nil, List.map_cons, List.map_nil,
      List.sum_cons, List.sum_nil, nothing]
    omega

theorem balance_log {engine after : Engine} {event : Event} {task : Task} {tasks : List Task}
    (published : after.published = engine.published) (said : after.said = engine.said)
    (written : event.published? = none) (owed : event.ended = task.due) (own : task.ending? = none)
    (later : Task.ending tasks = []) (silent : (tasks.map Task.due).sum = 0) :
    Moment.written ⟨after.log event, tasks⟩ + announced ⟨engine, [task]⟩ =
      announced ⟨after.log event, tasks⟩ + Moment.written ⟨engine, [task]⟩ := by
  simp [Moment.written, announced, Task.ending_cons, published, said, written, owed, own, later,
    silent]
  omega

theorem tally_carryOut (connection : Connection) (engine : Engine) (task : Task) :
    (engine.carryOut connection task).written + announced ⟨engine, [task]⟩ =
      (engine.carryOut connection task).announced + written ⟨engine, [task]⟩ := by
  cases task with
  | callback site id callback =>
      have begun := tally_beginRequest engine (.connection site id) callback
      rw [carryOut_callback]
      exact begun
  | deregister serial id =>
      exact balance_log rfl rfl rfl rfl rfl (Task.ending_ofReaction _ _ _)
        (sum_due_ofReaction _ _ _)
  | abandon serial id =>
      exact balance_log rfl rfl rfl rfl rfl (Task.ending_ofReaction _ _ _)
        (sum_due_ofReaction _ _ _)
  | comeBack site id succeeded => exact balance_log rfl rfl rfl rfl rfl rfl rfl
  | publish serial response =>
      simp [Engine.carryOut, written, announced, Task.ending_cons, Task.ending?, Task.due]
      omega
  | answer caller call reply =>
      exact balance_log rfl rfl rfl (Event.ended_replied caller call reply) rfl rfl rfl
  | accept id serial deadline =>
      cases deadline with
      | none => exact balance_log rfl rfl rfl rfl rfl rfl rfl
      | some deadline =>
          have trace : (engine.arm id serial deadline).trace = engine.trace :=
            Engine.trace_arm id serial deadline
          exact balance_log (by rw [Engine.published, trace]; rfl) (by rw [Engine.said, trace]; rfl)
            rfl rfl rfl rfl rfl
  | refuse id serial reason => exact balance_log rfl rfl rfl rfl rfl rfl rfl

theorem Proceeds.tally (step : moment.Proceeds after)
    (balance : moment.written = moment.announced) :
    after.written = after.announced := by
  obtain ⟨engine, task, rest, connection, rfl, rfl⟩ := step.exists_carryOut
  have used := tally_carryOut connection engine task
  rw [← List.singleton_append, written_append, announced_append] at balance
  rw [written_append, announced_append]
  change (engine.carryOut connection task).written + _ =
    (engine.carryOut connection task).announced + _
  omega

theorem tally_settle (balance : moment.written = moment.announced) :
    moment.settle.written = moment.settle.announced := by
  rw [settle]
  split
  · next finished =>
      have released := moment.engine.tally_release
      simp only [written, announced, finished, Task.ending_nil, List.length_nil, List.map_nil,
        List.sum_nil] at balance ⊢
      omega
  · exact balance

theorem tally_beginSubmit (engine : Engine) (connection : Connection) (kind : OperationKind)
    (request : List UInt8) (timeout : Option Duration) :
    (engine.beginSubmit connection kind request timeout).2.written + engine.said =
      (engine.beginSubmit connection kind request timeout).2.announced +
        engine.published.length := by
  rw [Engine.beginSubmit]
  split
  · next probed exhausted =>
      obtain ⟨ids, rfl⟩ := Engine.register_eq_none exhausted
      have quiet : ∀ reason, (Event.refused reason).ended = 0 := fun _ => rfl
      simp [written, announced, quiet, Event.published?]
      exact Nat.add_comm _ _
  · next id registered found =>
      have published : registered.published = engine.published := by
        rw [Engine.frame_register found]
        rfl
      have said : registered.said = engine.said := by
        rw [Engine.frame_register found]
        rfl
      have quiet : (Event.transmitted id request).ended = 0 := rfl
      simp only [written_append, announced_append]
      split <;> simp [written, announced, quiet, Event.published?, Task.ending_cons, Task.ending?,
        Task.due, sum_due_ofReaction, published, said, Nat.add_comm]

theorem Moves.tally (move : moment.Moves after) (balance : moment.written = moment.announced) :
    after.written = after.announced := by
  cases move with
  | proceed step => exact tally_settle (step.tally balance)
  | @submit engine holder held connection kind request timeout =>
      have begun := tally_beginSubmit engine connection kind request timeout
      simp only [written, announced, Task.ending_nil, List.length_nil, List.map_nil,
        List.sum_nil] at balance begun ⊢
      omega
  | @request engine caller callback outside =>
      have begun := tally_beginRequest engine caller callback
      simp only [written, announced, Task.ending_nil, List.length_nil, List.map_nil,
        List.sum_nil] at balance begun ⊢
      omega
  | @fire engine timer armed due =>
      have begun := tally_beginAnswered { engine with timers := engine.timers.erase timer }
        (.timer timer.operation) (.expire timer.messageId .timeout)
      change (engine.beginFiring timer).2.written + engine.said =
        (engine.beginFiring timer).2.announced + engine.published.length at begun
      simp only [written, announced, Task.ending_nil, List.length_nil, List.map_nil,
        List.sum_nil] at balance begun ⊢
      omega
  | clone held => exact balance
  | @drop engine holder held =>
      have dropped : written ⟨engine.drop holder, []⟩ = announced ⟨engine.drop holder, []⟩ :=
        balance
      exact tally_settle dropped
  | recordEntry engine serial => simpa [written, announced] using balance
  | recordReference engine serial => simpa [written, announced] using balance
  | pass later => exact balance
  | renumber engine ids => exact balance

theorem Reachable.tally (reachable : moment.Reachable) : moment.written = moment.announced := by
  obtain ⟨options, ids, later⟩ := reachable
  induction later with
  | refl => rfl
  | tail _ move ih => exact move.tally ih

end Moment

end DirectoryClient
