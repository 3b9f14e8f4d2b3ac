import DirectoryClient.Proofs.Engine.Aftermath
import DirectoryClient.Proofs.Engine.Lifetime

namespace DirectoryClient

/-- The operation whose timer has fired. -/
def Event.fired? : Event → Option Serial
  | .replied (.timer serial) _ _ => some serial
  | _ => none

/-- The operation whose timer is about to be through with what it does. -/
def Task.firing? : Task → Option Serial
  | .answer (.timer serial) _ _ => some serial
  | _ => none

/-- Whether an event is something that a call does at once. -/
def Event.isEffect : Event → Bool
  | .entryCounted _ => true
  | .referenceCounted _ => true
  | .published _ => true
  | .released _ => true
  | _ => false

/-- The operations whose timers have fired. -/
def Moment.fired (moment : Moment) : List Serial :=
  moment.engine.trace.filterMap Event.fired? ++ moment.agenda.filterMap Task.firing?

theorem Event.fired?_of_isEffect {event : Event} (effect : event.isEffect = true) :
    event.fired? = none := by
  cases event with
  | replied caller call reply => cases effect
  | _ => rfl

theorem Event.filterMap_fired? {events : List Event}
    (effects : ∀ event ∈ events, event.isEffect = true) : events.filterMap Event.fired? = [] :=
  List.filterMap_eq_nil_iff.mpr fun event member => fired?_of_isEffect (effects event member)

theorem Task.filterMap_firing? {tasks : List Task} (idle : ∀ task ∈ tasks, task.isFiring = false) :
    tasks.filterMap Task.firing? = [] := by
  rw [List.filterMap_eq_nil_iff]
  intro task member
  have quiet := idle task member
  cases task with
  | answer caller call reply => cases caller <;> first | rfl | cases quiet
  | _ => rfl

namespace Engine

theorem effects_beginCall (engine : Engine) (call : Call) :
    ∃ events, (engine.beginCall call).2.engine.trace = engine.trace ++ events ∧
      ∀ event ∈ events, event.isEffect = true := by
  obtain ⟨reply, moment, same, begins⟩ := engine.exists_begins call
  rw [same]
  cases begins with
  | idle lost none => exact ⟨[], (List.append_nil _).symm, by simp⟩
  | @deliver id response serial taken found =>
      refine ⟨[.published serial], ?_, by simp [Event.isEffect]⟩
      rw [trace_publish, trace_takeOut found]
  | expire found =>
      refine ⟨[], ?_, by simp⟩
      rw [List.append_nil]
      exact trace_takeOut found
  | countEntry present => exact ⟨_, rfl, by simp [Event.isEffect]⟩
  | countReference present => exact ⟨_, rfl, by simp [Event.isEffect]⟩
  | failAll code message =>
      obtain ⟨written, -, -, trace⟩ := trace_failEach { engine with pending := ∅ }
        { code, diagnostic := some message } engine.pending.serials
      exact ⟨written.map .published, trace, by simp [Event.isEffect]⟩

theorem effects_release (engine : Engine) : ∃ events,
    engine.release.trace = engine.trace ++ events ∧ ∀ event ∈ events, event.isEffect = true := by
  rcases engine.written_release with same | ⟨written, -, trace⟩
  · exact ⟨[], by rw [same, List.append_nil], by simp⟩
  · refine ⟨_, trace, fun event member => ?_⟩
    rcases List.mem_append.mp member with published | last
    · obtain ⟨serial, -, rfl⟩ := List.mem_map.mp published
      rfl
    · rw [List.mem_singleton.mp last]
      rfl

end Engine

namespace Moment

variable {moment after : Moment} {serial : Serial}

theorem fired_append (engine : Engine) (first second : List Task) :
    fired ⟨engine, first ++ second⟩ =
      fired ⟨engine, first⟩ ++ second.filterMap Task.firing? := by
  rw [fired, fired, List.filterMap_append, List.append_assoc]

theorem fired_of_effects (engine : Engine) {later : Moment} {events : List Event}
    (trace : later.engine.trace = engine.trace ++ events)
    (effects : ∀ event ∈ events, event.isEffect = true)
    (quiet : later.agenda.filterMap Task.firing? = []) :
    later.fired = fired ⟨engine, []⟩ := by
  rw [fired, fired, trace, List.filterMap_append, Event.filterMap_fired? effects, quiet,
    List.append_nil]
  rfl

theorem fired_beginAnswered (engine : Engine) (caller : Caller) (call : Call) :
    (engine.beginAnswered caller call).fired = fired ⟨engine, []⟩ ++
      (Task.answer caller call (engine.beginCall call).1).firing?.toList := by
  obtain ⟨events, trace, effects⟩ := engine.effects_beginCall call
  have idle := Task.filterMap_firing? (engine.isFiring_beginCall call)
  rw [Engine.beginAnswered, within, fired_append, fired_of_effects engine trace effects idle,
    List.filterMap_cons]
  cases Task.firing? _ <;> rfl

theorem fired_beginRequest (engine : Engine) {caller : Caller} (callback : Callback)
    (other : caller.isTimer = false) :
    (engine.beginRequest caller callback).2.fired = fired ⟨engine, []⟩ := by
  have idle := Task.filterMap_firing? (engine.isFiring_beginRequest callback other)
  rcases engine.beginRequest_cases caller callback with ⟨-, same⟩ | ⟨-, same⟩ <;>
    rw [same] at idle ⊢
  · obtain ⟨events, trace, effects⟩ := engine.effects_beginCall callback.call
    exact fired_of_effects engine trace effects idle
  · rw [fired, fired, idle]
    rfl

theorem fired_release (engine : Engine) :
    fired ⟨engine.release, []⟩ = fired ⟨engine, []⟩ := by
  obtain ⟨events, trace, effects⟩ := engine.effects_release
  exact fired_of_effects engine trace effects rfl

theorem fired_log (engine : Engine) (task : Task) {event : Event} {tasks : List Task}
    (same : event.fired? = task.firing?) (idle : ∀ task ∈ tasks, task.isFiring = false) :
    fired ⟨engine.log event, tasks⟩ = fired ⟨engine, [task]⟩ := by
  rw [fired, fired, Task.filterMap_firing? idle, List.append_nil, Engine.trace_log,
    List.filterMap_append, List.filterMap_cons, List.filterMap_cons, same]
  rfl

theorem carryOut_accept (connection : Connection) (engine : Engine) (id : MessageId)
    (serial : Serial) (deadline : Option Duration) :
    engine.carryOut connection (.accept id serial deadline) =
      ⟨engine.accept id serial deadline, []⟩ := by
  cases deadline <;> rfl

theorem fired_carryOut (connection : Connection) (engine : Engine) (task : Task) :
    (engine.carryOut connection task).fired = fired ⟨engine, [task]⟩ := by
  have idle := engine.isFiring_carryOut connection task
  cases task with
  | callback site id callback => exact fired_beginRequest engine callback rfl
  | deregister serial id => exact fired_log engine (.deregister serial id) rfl idle
  | abandon serial id => exact fired_log engine (.abandon serial id) rfl idle
  | comeBack site id succeeded => exact fired_log engine (.comeBack site id succeeded) rfl idle
  | publish serial response =>
      exact fired_of_effects engine (Engine.trace_publish response) (by simp [Event.isEffect]) rfl
  | answer caller call reply =>
      exact fired_log engine (.answer caller call reply) (by cases caller <;> rfl) idle
  | accept id serial deadline =>
      rw [carryOut_accept, fired, Engine.trace_accept, List.filterMap_append, List.filterMap_nil,
        List.append_nil]
      rfl
  | refuse id serial reason =>
      exact fired_log (engine.withdraw id serial) (.refuse id serial reason) rfl idle

theorem Proceeds.fired (step : moment.Proceeds after) : after.fired = moment.fired := by
  obtain ⟨engine, task, rest, connection, rfl, rfl⟩ := step.exists_carryOut
  rw [← List.singleton_append, fired_append, fired_append]
  exact congrArg (· ++ _) (fired_carryOut connection engine task)

theorem Course.fired (course : moment.Course after) : after.fired = moment.fired := by
  induction course with
  | refl => rfl
  | tail _ step ih => exact step.fired.trans ih

theorem fired_settle (moment : Moment) : moment.settle.fired = moment.fired := by
  rw [settle]
  split
  · next finished =>
      obtain ⟨engine, agenda⟩ := moment
      cases finished
      exact fired_release engine
  · rfl

theorem fired_beginSubmit (engine : Engine) (connection : Connection) (kind : OperationKind)
    (request : List UInt8) (timeout : Option Duration) :
    (engine.beginSubmit connection kind request timeout).2.fired = Moment.fired ⟨engine, []⟩ := by
  rw [Engine.beginSubmit]
  split
  · next probed exhausted =>
      obtain ⟨ids, rfl⟩ := Engine.register_eq_none exhausted
      simp [Moment.fired, Event.fired?]
  · next id registered found =>
      have trace : registered.trace = engine.trace := by rw [Engine.frame_register found]
      simp only [Moment.fired, Engine.trace_log, trace, List.filterMap_append,
        Task.filterMap_firing? (Task.isFiring_ofReaction _ _ _)]
      split <;> simp [Event.fired?, Task.firing?]

theorem fired_beginFiring (engine : Engine) (timer : Timer) :
    (engine.beginFiring timer).2.fired = Moment.fired ⟨engine, []⟩ ++ [timer.operation] :=
  fired_beginAnswered { engine with timers := engine.timers.erase timer }
    (.timer timer.operation) (.expire timer.messageId .timeout)

/-- A move adds to the timers that have fired only by firing one that is due. -/
theorem Moves.fired (move : moment.Moves after) : after.fired = moment.fired ∨
    ∃ timer ∈ moment.engine.timers, timer.deadline ≤ moment.engine.now ∧
      after = (moment.engine.beginFiring timer).2 ∧
        after.fired = moment.fired ++ [timer.operation] := by
  cases move with
  | proceed step => exact .inl ((fired_settle _).trans step.fired)
  | submit held connection kind request timeout =>
      exact .inl (fired_beginSubmit _ connection kind request timeout)
  | @request engine caller callback outside =>
      exact .inl (fired_beginRequest engine callback (by rcases outside with rfl | rfl <;> rfl))
  | @fire engine timer armed due =>
      exact .inr ⟨timer, armed, due, rfl, fired_beginFiring engine timer⟩
  | clone held => exact .inl rfl
  | drop held => exact .inl (fired_release _)
  | recordEntry engine serial =>
      exact .inl (fired_of_effects _ rfl (by simp [Event.isEffect]) rfl)
  | recordReference engine serial =>
      exact .inl (fired_of_effects _ rfl (by simp [Event.isEffect]) rfl)
  | pass later => exact .inl rfl
  | renumber engine ids => exact .inl rfl

/-- Only operations that were registered have had a timer. -/
theorem Reachable.lt_length_of_fired (reachable : moment.Reachable)
    (fired : serial ∈ moment.fired) : serial < moment.engine.operations.length := by
  obtain ⟨options, ids, later⟩ := reachable
  suffices ∃ id, moment.engine.messageId? serial = some id from
    Engine.lt_length_of_messageId? this.choose_spec
  induction later with
  | refl => cases fired
  | tail earlier move ih =>
      have coherent := Reachable.coherent ⟨options, ids, earlier⟩
      have extends_ := move.extends coherent
      rcases move.fired with same | ⟨timer, armed, -, -, added⟩
      · obtain ⟨id, own⟩ := ih (same ▸ fired)
        exact ⟨id, extends_.messageId? own⟩
      · rw [added, List.mem_append, List.mem_singleton] at fired
        rcases fired with before | rfl
        · obtain ⟨id, own⟩ := ih before
          exact ⟨id, extends_.messageId? own⟩
        · exact ⟨_, extends_.messageId? (coherent.timed timer armed).2.1⟩

end Moment

end DirectoryClient
