import DirectoryClient.Proofs.Engine.Deadline
import DirectoryClient.Proofs.Engine.Visit

namespace DirectoryClient

/-- The request that the connection is given to write, with its identifier. -/
def Event.transmitted? : Event → Option (MessageId × List UInt8)
  | .transmitted id request => some (id, request)
  | _ => none

theorem Event.transmitted?_of_isEffect {event : Event} (effect : event.isEffect = true) :
    event.transmitted? = none := by
  cases event <;> first | rfl | cases effect

namespace Engine

variable {engine registered probed : Engine} {id : MessageId} {serial : Serial}
variable {connection : Connection} {kind : OperationKind} {request : List UInt8}
variable {timeout : Option Duration}

/-- The requests that the connection has been given to write, one for each time. -/
def transmissions (engine : Engine) : List (MessageId × List UInt8) :=
  engine.trace.filterMap Event.transmitted?

@[simp] theorem transmissions_log (event : Event) :
    (engine.log event).transmissions = engine.transmissions ++ event.transmitted?.toList := by
  rw [transmissions, transmissions, trace_log, List.filterMap_append]
  cases event <;> rfl

theorem transmissions_carryOut (connection : Connection) (engine : Engine) (task : Task) :
    (engine.carryOut connection task).engine.transmissions = engine.transmissions := by
  cases task with
  | callback site id callback =>
      obtain ⟨events, trace, effects⟩ := engine.effects_beginRequest (.connection site id) callback
      have none : events.filterMap Event.transmitted? = [] :=
        List.filterMap_eq_nil_iff.mpr fun event member =>
          Event.transmitted?_of_isEffect (effects event member)
      rw [Moment.carryOut_callback, transmissions, trace, List.filterMap_append, none,
        List.append_nil, transmissions]
  | accept id serial deadline =>
      rw [Moment.carryOut_accept, transmissions, trace_accept, List.filterMap_append]
      exact List.append_nil _
  | _ => exact (transmissions_log _).trans (List.append_nil _)

/-! ## How a submission begins -/

/-- What a submission answers once the connection has written the request or failed to, and the last
thing that it does. -/
def conclusion (id : MessageId) (serial : Serial) (deadline : Option Duration) :
    Option TransportError → Except SubmitError Serial × Task
  | some reason => (.error (.transport reason), .refuse id serial reason)
  | none => (.ok serial, .accept id serial deadline)

theorem beginSubmit_of_exhausted
    (exhausted : engine.register kind (max engine.options.maxMessageIdProbes 1) = (none, probed)) :
    engine.beginSubmit connection kind request timeout =
      (.error (.messageIdsExhausted (max engine.options.maxMessageIdProbes 1)),
        ⟨probed.log (.refused (.messageIdsExhausted (max engine.options.maxMessageIdProbes 1))),
          []⟩) := by
  rw [beginSubmit, exhausted]

theorem beginSubmit_of_registered
    (found : engine.register kind (max engine.options.maxMessageIdProbes 1) =
      (some id, registered)) :
    let reaction := connection.transmit id
    let concluded := conclusion id engine.operations.length (timerDeadline engine.now timeout)
      reaction.failure
    engine.beginSubmit connection kind request timeout =
      (concluded.1, ⟨registered.log (.transmitted id request),
        Task.ofReaction .transmit id reaction ++ [concluded.2]⟩) := by
  simp only [beginSubmit, found]
  cases (connection.transmit id).failure <;> rfl

theorem engine_beginSubmit_of_registered
    (found : engine.register kind (max engine.options.maxMessageIdProbes 1) =
      (some id, registered)) :
    (engine.beginSubmit connection kind request timeout).2.engine =
      registered.log (.transmitted id request) := by
  rw [beginSubmit_of_registered found]

/-- Before the connection writes, the table holds what it held before, and perhaps the new
operation. -/
theorem get?_beginSubmit : (engine.beginSubmit connection kind request timeout).2.engine.pending.get?
    id = some serial ↔ engine.pending.get? id = some serial ∨
      (engine.register kind (max engine.options.maxMessageIdProbes 1)).1 = some id ∧
        serial = engine.operations.length := by
  cases found : engine.register kind (max engine.options.maxMessageIdProbes 1) with
  | mk own registered =>
      cases own with
      | none =>
          obtain ⟨ids, rfl⟩ := register_eq_none found
          rw [beginSubmit_of_exhausted found]
          simp [log]
      | some own =>
          rw [engine_beginSubmit_of_registered found, Option.some.injEq, @eq_comm _ own]
          exact get?_register found

theorem course_submit (engine : Engine) (connection : Connection) (kind : OperationKind)
    (request : List UInt8) (timeout : Option Duration) :
    (engine.beginSubmit connection kind request timeout).2.Course
      ⟨(engine.submit connection kind request timeout).2, []⟩ :=
  Moment.exists_course connection _

theorem fst_submit_of_registered
    (found : engine.register kind (max engine.options.maxMessageIdProbes 1) =
      (some id, registered)) :
    (engine.submit connection kind request timeout).1 =
      (conclusion id engine.operations.length (timerDeadline engine.now timeout)
        (connection.transmit id).failure).1 := by
  rw [submit, beginSubmit_of_registered found]

/-- What a submission has answered was settled when it began. -/
theorem begun_of_submit {connection : Connection} {kind : OperationKind} {request : List UInt8}
    {timeout : Option Duration} {answer : Except SubmitError Serial} {after : Engine}
    (answered : engine.submit connection kind request timeout = (answer, after)) :
    ∃ started, engine.beginSubmit connection kind request timeout = (answer, started) ∧
      started.Course ⟨after, []⟩ := by
  have course := engine.course_submit connection kind request timeout
  have same : (engine.beginSubmit connection kind request timeout).1 = answer :=
    congrArg Prod.fst answered
  rw [answered] at course
  exact ⟨_, Prod.ext same rfl, course⟩

theorem submit_of_exhausted
    (exhausted : engine.register kind (max engine.options.maxMessageIdProbes 1) = (none, probed)) :
    engine.submit connection kind request timeout =
      (.error (.messageIdsExhausted (max engine.options.maxMessageIdProbes 1)),
        probed.log (.refused (.messageIdsExhausted (max engine.options.maxMessageIdProbes 1)))) := by
  rw [submit, beginSubmit_of_exhausted exhausted]
  simp [Moment.finish, Moment.next?]

end Engine

namespace Moment

variable {moment after : Moment} {engine last : Engine} {id : MessageId} {serial : Serial}

theorem Course.transmissions (course : moment.Course after) :
    after.engine.transmissions = moment.engine.transmissions := by
  induction course with
  | refl => rfl
  | @tail middle after _ step ih =>
      obtain ⟨engine, task, rest, connection, rfl, rfl⟩ := step.exists_carryOut
      exact (engine.transmissions_carryOut connection task).trans ih

/-- A call enters nothing in the table until it is over. -/
theorem Course.get? (course : moment.Course after)
    (present : after.engine.pending.get? id = some serial) :
    moment.engine.pending.get? id = some serial := by
  induction course with
  | refl => exact present
  | @tail middle after _ step ih =>
      obtain ⟨engine, task, rest, connection, rfl, rfl⟩ := step.exists_carryOut
      exact ih (Engine.get?_carryOut present)

/-- The connection makes its calls and comes back, and then the submission does its last task. -/
theorem Course.transmit {reaction : Reaction TransportError} {task : Task}
    (course : Course ⟨engine, Task.ofReaction .transmit id reaction ++ [task]⟩ ⟨last, []⟩) :
    ∃ middle connection, Course ⟨engine, reaction.callbacks.map (.callback .transmit id)⟩
        ⟨middle, []⟩ ∧
      ((middle.log (.returned .transmit id reaction.failure.isNone)).carryOut connection
        task).Course ⟨last, []⟩ := by
  rw [Task.ofReaction, List.append_assoc] at course
  obtain ⟨middle, calls, course⟩ := course.split
  obtain ⟨_, course⟩ := course.uncons
  obtain ⟨connection, course⟩ := Course.uncons course
  rw [within_nil] at course
  exact ⟨middle, connection, calls, course⟩

end Moment

end DirectoryClient
