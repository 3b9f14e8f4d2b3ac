import DirectoryClient.Proofs.Engine.Release

namespace DirectoryClient

/-- The operation that a task is going to return to whoever submitted it. -/
def Task.returning? : Task → Option Serial
  | .accept _ serial _ => some serial
  | _ => none

def Task.returning (tasks : List Task) : List Serial :=
  tasks.filterMap Task.returning?

theorem Task.returning_append (first second : List Task) :
    Task.returning (first ++ second) = Task.returning first ++ Task.returning second :=
  List.filterMap_append

theorem Task.returning_of_submitting {tasks : List Task} (none : Task.submitting tasks = []) :
    Task.returning tasks = [] := by
  rw [Task.submitting, List.filterMap_eq_nil_iff] at none
  rw [Task.returning, List.filterMap_eq_nil_iff]
  intro task member
  cases task with
  | accept id serial deadline => cases none _ member
  | _ => rfl

/-- The operations that submissions have returned, and those that a task is going to return. -/
def Moment.returned (moment : Moment) : List Serial :=
  moment.engine.submitted ++ Task.returning moment.agenda

namespace Engine

variable (engine : Engine)

@[simp] theorem submitted_failEach (response : Response) (serials : List Serial) :
    (engine.failEach response serials).2.submitted = engine.submitted := by
  obtain ⟨written, -, -, trace⟩ := engine.trace_failEach response serials
  rw [submitted, trace, List.filterMap_append, List.filterMap_map]
  have none : List.filterMap (Event.submitted? ∘ Event.published) written = [] :=
    List.filterMap_eq_nil_iff.mpr fun _ _ => rfl
  rw [none, List.append_nil, submitted]

@[simp] theorem submitted_failAll (code : ResultCode) (message : String) :
    (engine.failAll code message).2.submitted = engine.submitted := by
  rw [failAll, submitted_failEach]
  rfl

@[simp] theorem submitted_release : engine.release.submitted = engine.submitted := by
  rw [release]
  split
  · rw [submitted_log, submitted_failAll]
    exact List.append_nil _
  · rfl

theorem submitted_beginCall (call : Call) :
    (engine.beginCall call).2.engine.submitted = engine.submitted := by
  obtain ⟨reply, moment, same, begins⟩ := engine.exists_begins call
  rw [same]
  cases begins with
  | idle lost none => rfl
  | deliver found => rw [submitted_publish, submitted_takeOut found]
  | expire found => exact submitted_takeOut found
  | countEntry present => exact submitted_countEntry _
  | countReference present => exact submitted_countReference _
  | failAll code message => exact engine.submitted_failAll code message

theorem submitted_beginRequest (caller : Caller) (callback : Callback) :
    (engine.beginRequest caller callback).2.engine.submitted = engine.submitted := by
  rcases engine.beginRequest_cases caller callback with ⟨-, same⟩ | ⟨-, same⟩
  · rw [same]
    exact engine.submitted_beginCall callback.call
  · rw [same]

end Engine

namespace Moment

variable {moment after : Moment}

theorem returned_append (engine : Engine) (first second : List Task) :
    returned ⟨engine, first ++ second⟩ =
      returned ⟨engine, first⟩ ++ Task.returning second := by
  rw [returned, returned, Task.returning_append, List.append_assoc]

theorem returned_of_submitting {engine : Engine} {tasks : List Task}
    (none : Task.submitting tasks = []) : returned ⟨engine, tasks⟩ = engine.submitted := by
  rw [returned, Task.returning_of_submitting none, List.append_nil]

theorem returned_log (engine : Engine) (task : Task) {event : Event} {tasks : List Task}
    (quiet : event.submitted? = none) (later : Task.submitting tasks = [])
    (own : Task.returning [task] = []) :
    returned ⟨engine.log event, tasks⟩ = returned ⟨engine, [task]⟩ := by
  rw [returned_of_submitting later, returned, own, Engine.submitted_log, quiet]
  rfl

theorem returned_carryOut (connection : Connection) (engine : Engine) (task : Task) :
    (engine.carryOut connection task).returned = returned ⟨engine, [task]⟩ := by
  cases task with
  | callback site id callback =>
      have begun := engine.submitted_beginRequest (.connection site id) callback
      rw [carryOut_callback, returned,
        Task.returning_of_submitting (Engine.submitting_beginRequest _ _ _), begun]
      rfl
  | deregister serial id => exact returned_log _ _ rfl (Task.submitting_ofReaction _ _ _) rfl
  | abandon serial id => exact returned_log _ _ rfl (Task.submitting_ofReaction _ _ _) rfl
  | comeBack site id succeeded => exact returned_log _ _ rfl rfl rfl
  | publish serial response =>
      rw [Engine.carryOut, returned, Engine.submitted_publish]
      rfl
  | answer caller call reply => exact returned_log _ _ rfl rfl rfl
  | accept id serial deadline =>
      have same : engine.carryOut connection (.accept id serial deadline) =
          ⟨engine.accept id serial deadline, []⟩ := by
        cases deadline <;> rfl
      rw [same, returned, Engine.submitted_accept]
      exact List.append_nil _
  | refuse id serial reason =>
      exact returned_log (engine.withdraw id serial) (.refuse id serial reason) rfl rfl rfl

theorem Proceeds.returned (step : moment.Proceeds after) : after.returned = moment.returned := by
  obtain ⟨engine, task, rest, connection, rfl, rfl⟩ := step.exists_carryOut
  rw [← List.singleton_append, returned_append, returned_append]
  exact congrArg (· ++ _) (returned_carryOut connection engine task)

theorem Course.returned (course : moment.Course after) : after.returned = moment.returned := by
  induction course with
  | refl => rfl
  | tail _ step ih => exact step.returned.trans ih

/-- A call returns the operation that its agenda says it returns, whatever happens before. -/
theorem submitted_finish (connection : Connection) (moment : Moment) :
    (moment.finish connection).submitted = moment.returned :=
  (List.append_nil _).symm.trans (exists_course connection moment).returned

end Moment

end DirectoryClient
