import DirectoryClient.Proofs.Engine.Frame
import DirectoryClient.Proofs.Engine.Release

namespace DirectoryClient

/-- The operation that an event is a part of the end of. -/
def Event.subject? : Event → Option Serial
  | .deregistered serial _ => some serial
  | .abandoned serial _ => some serial
  | .published serial => some serial
  | _ => none

def Task.subject? : Task → Option Serial
  | .deregister serial _ => some serial
  | .abandon serial _ => some serial
  | .publish serial _ => some serial
  | _ => none

/-- Whether a call may have ended an operation with an identifier, to go by its reply. -/
def Call.mayEnd (id : MessageId) : Call → Reply → Prop
  | .deliver key _, reply => key = id ∧ reply = .flag true
  | .expire key _, reply => key = id ∧ reply = .flag true
  | .failAll _ _, .count operations => 0 < operations
  | _, _ => False

/-- Whether the connection has asked for the end of an operation with an identifier. -/
def Event.Asks (id : MessageId) (events : List Event) : Prop :=
  ∃ site key call reply, call.mayEnd id reply ∧ .replied (.connection site key) call reply ∈ events

namespace Engine

variable {serial : Serial}

/-- The operations that some events and tasks are a part of the end of. -/
def Concerns (events : List Event) (tasks : List Task) (serial : Serial) : Prop :=
  (∃ event ∈ events, event.subject? = some serial) ∨ ∃ task ∈ tasks, task.subject? = some serial

theorem not_concerns_nil : ¬Concerns [] [] serial := by
  rintro (⟨event, member, -⟩ | ⟨task, member, -⟩) <;> cases member

theorem Concerns.append {events new : List Event} {front tasks : List Task}
    (concerns : Concerns (events ++ new) (front ++ tasks) serial) :
    Concerns new front serial ∨ Concerns events tasks serial := by
  rcases concerns with ⟨event, member, subject⟩ | ⟨task, member, subject⟩
  · rcases List.mem_append.mp member with old | added
    · exact .inr (.inl ⟨event, old, subject⟩)
    · exact .inl (.inl ⟨event, added, subject⟩)
  · rcases List.mem_append.mp member with added | old
    · exact .inl (.inr ⟨task, added, subject⟩)
    · exact .inr (.inr ⟨task, old, subject⟩)

theorem Concerns.cons {events : List Event} {tasks : List Task}
    (concerns : Concerns events tasks serial) (task : Task) :
    Concerns events (task :: tasks) serial :=
  concerns.imp_right fun ⟨left, member, subject⟩ =>
    ⟨left, List.mem_cons_of_mem task member, subject⟩

theorem mayEnd_beginCall (engine : Engine) (call : Call) :
    ∃ events, (engine.beginCall call).2.engine.trace = engine.trace ++ events ∧
      ∀ serial, Concerns events (engine.beginCall call).2.agenda serial →
        ∃ id, engine.pending.get? id = some serial ∧
          call.mayEnd id (engine.beginCall call).1 := by
  obtain ⟨reply, moment, same, begins⟩ := engine.exists_begins call
  rw [same]
  cases begins with
  | idle lost none =>
      exact ⟨[], (List.append_nil _).symm, fun serial concerns => absurd concerns not_concerns_nil⟩
  | @deliver id response serial taken found =>
      have present := (pending_of_takeOut found).1
      refine ⟨[.published serial], ?_, ?_⟩
      · rw [trace_publish, trace_takeOut found]
      · simp [Concerns, Event.subject?, Call.mayEnd, present]
  | @expire id reason serial taken found =>
      have present := (pending_of_takeOut found).1
      refine ⟨[], ?_, ?_⟩
      · rw [List.append_nil]
        exact trace_takeOut found
      · rw [beginExpiry]
        split <;> simp [Concerns, Task.subject?, Call.mayEnd, present]
  | countEntry present => exact ⟨_, rfl, by simp [Concerns, Event.subject?]⟩
  | countReference present => exact ⟨_, rfl, by simp [Concerns, Event.subject?]⟩
  | failAll code message =>
      obtain ⟨written, listed, count, trace⟩ := trace_failEach { engine with pending := ∅ }
        { code, diagnostic := some message } engine.pending.serials
      refine ⟨written.map .published, trace, ?_⟩
      rintro serial (⟨event, member, subject⟩ | ⟨task, member, -⟩)
      · obtain ⟨other, ended, rfl⟩ := List.mem_map.mp member
        cases subject
        obtain ⟨id, present⟩ := PendingTable.mem_serials_iff.mp (listed ended)
        refine ⟨id, present, ?_⟩
        change 0 < (failEach _ _ _).1
        rw [← count]
        exact List.length_pos_of_mem ended
      · cases member

theorem Concerns.of_answered {events : List Event} {tasks : List Task} {caller : Caller}
    {call : Call} {reply : Reply}
    (concerns : Concerns events (tasks ++ [.answer caller call reply]) serial) :
    Concerns events tasks serial := by
  refine concerns.imp_right fun ⟨task, member, subject⟩ => ⟨task, ?_, subject⟩
  refine (List.mem_append.mp member).resolve_right fun last => ?_
  rw [List.mem_singleton.mp last] at subject
  cases subject

theorem mayEnd_beginAnswered (engine : Engine) (caller : Caller) (call : Call) :
    ∃ events, (engine.beginAnswered caller call).engine.trace = engine.trace ++ events ∧
      ∀ serial, Concerns events (engine.beginAnswered caller call).agenda serial →
        ∃ id, engine.pending.get? id = some serial ∧
          call.mayEnd id (engine.beginCall call).1 := by
  obtain ⟨events, trace, asked⟩ := engine.mayEnd_beginCall call
  exact ⟨events, trace, fun serial concerns => asked serial concerns.of_answered⟩

theorem mayEnd_beginRequest (engine : Engine) (caller : Caller) (callback : Callback) :
    ∃ events, (engine.beginRequest caller callback).2.engine.trace = engine.trace ++ events ∧
      ∀ serial, Concerns events (engine.beginRequest caller callback).2.agenda serial →
        ∃ id, engine.pending.get? id = some serial ∧
          callback.call.mayEnd id (engine.beginRequest caller callback).1 := by
  rcases engine.beginRequest_cases caller callback with ⟨-, same⟩ | ⟨-, same⟩ <;> rw [same]
  · exact engine.mayEnd_beginAnswered caller callback.call
  · exact ⟨[], (List.append_nil _).symm, by simp [Concerns, Task.subject?]⟩

theorem subject?_ofReaction {ε : Type} (site : Site) (id : MessageId) (reaction : Reaction ε) :
    ∀ task ∈ Task.ofReaction site id reaction, task.subject? = none := by
  intro task member
  rcases List.mem_append.mp member with called | back
  · obtain ⟨callback, -, rfl⟩ := List.mem_map.mp called
    rfl
  · rw [List.mem_singleton.mp back]
    rfl

/-- Any task but a call of the connection leaves one event behind, about the operation that the task
is about. -/
theorem carryOut_event (connection : Connection) (engine : Engine) (task : Task) :
    (∃ site id callback, task = .callback site id callback) ∨
      ∃ event, (engine.carryOut connection task).engine.trace = engine.trace ++ [event] ∧
        event.subject? = task.subject? ∧
        (∀ next ∈ (engine.carryOut connection task).agenda, next.subject? = none) ∧
        ∀ caller call reply, task = .answer caller call reply →
          event = .replied caller call reply := by
  cases task with
  | callback site id callback => exact .inl ⟨site, id, callback, rfl⟩
  | deregister serial id =>
      exact .inr ⟨_, rfl, rfl, subject?_ofReaction _ _ _, fun _ _ _ same => by cases same⟩
  | abandon serial id =>
      exact .inr ⟨_, rfl, rfl, subject?_ofReaction _ _ _, fun _ _ _ same => by cases same⟩
  | comeBack site id succeeded =>
      exact .inr ⟨_, rfl, rfl, by simp [carryOut], fun _ _ _ same => by cases same⟩
  | publish serial response =>
      exact .inr ⟨_, rfl, rfl, by simp [carryOut], fun _ _ _ same => by cases same⟩
  | answer caller call reply =>
      refine .inr ⟨_, rfl, rfl, by simp [carryOut], fun _ _ _ same => ?_⟩
      cases same
      rfl
  | accept id serial deadline =>
      refine .inr ⟨.submitted serial, ?_, rfl, by simp [carryOut], fun _ _ _ same => by cases same⟩
      cases deadline <;> simp [carryOut]
  | refuse id serial reason =>
      exact .inr ⟨_, rfl, rfl, by simp [carryOut], fun _ _ _ same => by cases same⟩

/-- A submission begins with one event, and neither the event nor a task is about the end of an
operation. -/
theorem beginSubmit_event (engine : Engine) (connection : Connection) (kind : OperationKind)
    (request : List UInt8) (timeout : Option Duration) :
    ∃ event, (engine.beginSubmit connection kind request timeout).2.engine.trace =
        engine.trace ++ [event] ∧ event.subject? = none ∧
      ∀ task ∈ (engine.beginSubmit connection kind request timeout).2.agenda,
        task.subject? = none := by
  rw [beginSubmit]
  split
  · next probed exhausted =>
      obtain ⟨ids, rfl⟩ := register_eq_none exhausted
      exact ⟨_, rfl, rfl, fun task member => by cases member⟩
  · next id registered found =>
      have trace : registered.trace = engine.trace := by rw [frame_register found]
      refine ⟨_, congrArg (· ++ _) trace, rfl, fun task member => ?_⟩
      rcases List.mem_append.mp member with visit | last
      · exact subject?_ofReaction _ _ _ task visit
      · rw [List.mem_singleton.mp last]
        split <;> rfl

end Engine

namespace Moment

open Engine

variable {moment after : Moment} {serial : Serial} {start : Engine}

/-- Whatever has happened to other operations since the start was asked for by the connection, whose
call has been answered or is going to be. -/
def Accounts (start : Engine) (serial : Serial) (moment : Moment) : Prop :=
  ∃ events, moment.engine.trace = start.trace ++ events ∧
    ∀ other, other ≠ serial → Concerns events moment.agenda other →
      ∃ id site key call reply, moment.engine.messageId? other = some id ∧ call.mayEnd id reply ∧
        (.replied (.connection site key) call reply ∈ events ∨
          .answer (.connection site key) call reply ∈ moment.agenda)

variable {engine : Engine} {tasks : List Task}

theorem Accounts.callback {site : Site} {id : MessageId} {callback : Callback}
    (accounts : Accounts start serial ⟨engine, .callback site id callback :: tasks⟩)
    {ending : List Serial} {submitting : List (MessageId × Serial)}
    (staged : Ledger.Staged ⟨engine, ending, submitting⟩)
    (later : engine.Extends (engine.beginRequest (.connection site id) callback).2.engine) :
    Accounts start serial
      ((engine.beginRequest (.connection site id) callback).2.within tasks) := by
  obtain ⟨events, trace, accounts⟩ := accounts
  obtain ⟨new, added, asked⟩ := engine.mayEnd_beginRequest (.connection site id) callback
  refine ⟨events ++ new, ?_, fun other different concerns => ?_⟩
  · rw [← List.append_assoc, ← trace]
    exact added
  · rcases concerns.append with here | before
    · obtain ⟨own, present, ended⟩ := asked other here
      have used := messageId?_of_status? (staged.entry present)
      refine ⟨own, site, id, callback.call, _, later.messageId? used, ended, .inr ?_⟩
      exact List.mem_append_left _ (List.mem_append_right _ List.mem_cons_self)
    · obtain ⟨own, place, key, call, reply, used, ended, known⟩ :=
        accounts other different (before.cons _)
      refine ⟨own, place, key, call, reply, later.messageId? used, ended, ?_⟩
      refine known.imp (List.mem_append_left _) fun owed => List.mem_append_right _ ?_
      exact (List.mem_cons.mp owed).resolve_left nofun

theorem Accounts.event {task : Task} {event : Event} (next : Moment)
    (accounts : Accounts start serial ⟨engine, task :: tasks⟩)
    (added : next.engine.trace = engine.trace ++ [event]) (subject : event.subject? = task.subject?)
    (quiet : ∀ left ∈ next.agenda, left.subject? = none)
    (answered : ∀ caller call reply, task = .answer caller call reply →
      event = .replied caller call reply)
    (later : engine.Extends next.engine) : Accounts start serial (next.within tasks) := by
  obtain ⟨events, trace, accounts⟩ := accounts
  refine ⟨events ++ [event], ?_, fun other different concerns => ?_⟩
  · rw [← List.append_assoc, ← trace]
    exact added
  · have before : Concerns events (task :: tasks) other := by
      rcases concerns.append with (⟨happened, member, same⟩ | ⟨left, member, same⟩) | earlier
      · rw [List.mem_singleton.mp member, subject] at same
        exact .inr ⟨task, List.mem_cons_self, same⟩
      · cases (quiet left member).symm.trans same
      · exact earlier.cons task
    obtain ⟨own, place, key, call, reply, used, ended, known⟩ := accounts other different before
    refine ⟨own, place, key, call, reply, later.messageId? used, ended, ?_⟩
    rcases known with replied | owed
    · exact .inl (List.mem_append_left _ replied)
    · rcases List.mem_cons.mp owed with same | waiting
      · rw [answered _ _ _ same.symm]
        exact .inl (List.mem_append_right _ List.mem_cons_self)
      · exact .inr (List.mem_append_right _ waiting)

theorem Accounts.proceed {rest : List Task} (accounts : Accounts start serial moment)
    (step : moment.Proceeds after) (coherent : (moment.within rest).ledger.Coherent) :
    Accounts start serial after := by
  have later : moment.engine.Extends after.engine :=
    coherent.extends ((step.within rest).changes coherent)
  obtain ⟨engine, task, tasks, connection, rfl, rfl⟩ := step.exists_carryOut
  rcases carryOut_event connection engine task with
    ⟨site, id, callback, rfl⟩ | ⟨event, added, subject, quiet, answered⟩
  · exact accounts.callback coherent.staged later
  · exact accounts.event (engine.carryOut connection task) added subject quiet answered later

theorem Accounts.course {rest : List Task} (accounts : Accounts start serial moment)
    (course : moment.Course after) (coherent : (moment.within rest).ledger.Coherent) :
    Accounts start serial after := by
  induction course with
  | refl => exact accounts
  | tail earlier step ih =>
      exact ih.proceed step (coherent.changes (Course.changes earlier coherent))

theorem accounts_beginAnswered {id : MessageId} {call : Call} (caller : Caller)
    (target : call.target? = some id) (present : engine.pending.get? id = some serial) :
    Accounts engine serial (engine.beginAnswered caller call) := by
  obtain ⟨events, trace, asked⟩ := engine.mayEnd_beginAnswered caller call
  refine ⟨events, trace, fun other different concerns => ?_⟩
  obtain ⟨key, found, ended⟩ := asked other concerns
  have same : key = id := by
    cases call with
    | deliver given response =>
        cases target
        exact ended.1.symm
    | expire given reason =>
        cases target
        exact ended.1.symm
    | _ => cases target
  cases (same ▸ found).symm.trans present
  exact absurd rfl different

end Moment

/-- Whether an operation has been resolved, deregistered or abandoned from one engine to the
next. -/
def Engine.EndedIn (engine after : Engine) (events : List Event) (serial : Serial) : Prop :=
  engine.outcome? serial = none ∧ (after.outcome? serial).isSome ∨
    ∃ id, .deregistered serial id ∈ events ∨ .abandoned serial id ∈ events

/-- An outcome that was not there before has been written meanwhile. -/
theorem Event.mem_of_outcome {start after : Engine} {serial : Serial} {events : List Event}
    (trace : after.trace = start.trace ++ events)
    {ending rest : List Serial} {submitting left : List (MessageId × Serial)}
    (before : Ledger.Published ⟨start, ending, submitting⟩)
    (now : Ledger.Published ⟨after, rest, left⟩) (unresolved : start.outcome? serial = none)
    (resolved : (after.outcome? serial).isSome) : .published serial ∈ events := by
  have told : .published serial ∈ start.trace ++ events := trace ▸ now.mem_trace_iff.mpr resolved
  refine (List.mem_append.mp told).resolve_left fun earlier => ?_
  have already : (start.outcome? serial).isSome := before.mem_trace_iff.mp earlier
  simp [unresolved] at already

/-- Whatever else has ended when a call is over was asked for by the connection. -/
theorem Moment.Accounts.asks {start after : Engine} {serial : Serial}
    (accounts : Accounts start serial ⟨after, []⟩) (later : start.Extends after)
    {ending rest : List Serial} {submitting left : List (MessageId × Serial)}
    (before : Ledger.Published ⟨start, ending, submitting⟩)
    (now : Ledger.Published ⟨after, rest, left⟩) :
    ∃ events, after.trace = start.trace ++ events ∧
      ∀ other id, other ≠ serial → start.messageId? other = some id →
        start.EndedIn after events other → Event.Asks id events := by
  obtain ⟨events, trace, accounts⟩ := accounts
  refine ⟨events, trace, fun other id different own ended => ?_⟩
  have concerns : Engine.Concerns events [] other := by
    rcases ended with ⟨unresolved, resolved⟩ | ⟨key, deregistered | abandoned⟩
    · exact .inl ⟨_, Event.mem_of_outcome trace before now unresolved resolved, rfl⟩
    · exact .inl ⟨_, deregistered, rfl⟩
    · exact .inl ⟨_, abandoned, rfl⟩
  obtain ⟨key, site, place, call, reply, used, mayEnd, replied⟩ :=
    accounts other different concerns
  cases used.symm.trans (later.messageId? own)
  exact ⟨site, place, call, reply, mayEnd, replied.resolve_right List.not_mem_nil⟩

end DirectoryClient
