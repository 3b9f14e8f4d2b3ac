import DirectoryClient.Proofs.Engine.Cause

namespace DirectoryClient

/-- Whatever an agenda still has to do about an operation comes before its outcome is written. -/
def Task.Closed : List Task → Prop
  | [] => True
  | task :: rest =>
      (∀ serial, task.subject? = some serial → serial ∈ Task.ending (task :: rest)) ∧
        Task.Closed rest

namespace Task

variable {first second tasks : List Task} {task : Task} {serial : Serial}

theorem Closed.append (before : Closed first) (later : Closed second) :
    Closed (first ++ second) := by
  induction first with
  | nil => exact later
  | cons task rest ih =>
      refine ⟨fun serial subject => ?_, ih before.2⟩
      change serial ∈ ending ((task :: rest) ++ second)
      rw [ending_append]
      exact List.mem_append_left _ (before.1 serial subject)

theorem closed_of_silent (silent : ∀ task ∈ tasks, task.subject? = none) : Closed tasks := by
  induction tasks with
  | nil => trivial
  | cons task rest ih =>
      refine ⟨fun serial subject => ?_, ih fun later member =>
        silent later (List.mem_cons_of_mem task member)⟩
      cases (silent task List.mem_cons_self).symm.trans subject

theorem Closed.mem_ending (closed : Closed tasks) (member : task ∈ tasks)
    (subject : task.subject? = some serial) : serial ∈ ending tasks := by
  induction tasks with
  | nil => cases member
  | cons first rest ih =>
      rcases List.mem_cons.mp member with rfl | later
      · exact closed.1 serial subject
      · rw [ending_cons]
        exact List.mem_append_right _ (ih closed.2 later)

theorem closed_beginExpiry (engine : Engine) (id : MessageId) (serial : Serial) (reason : Expiry) :
    Closed (engine.beginExpiry id serial reason).agenda := by
  rw [Engine.beginExpiry]
  split <;> simp [Closed, subject?, ending, ending?]

end Task

namespace Engine

theorem closed_beginCall (engine : Engine) (call : Call) :
    Task.Closed (engine.beginCall call).2.agenda := by
  obtain ⟨reply, moment, same, begins⟩ := engine.exists_begins call
  rw [same]
  cases begins with
  | expire found => exact Task.closed_beginExpiry _ _ _ _
  | _ => trivial

theorem closed_beginAnswered (engine : Engine) (caller : Caller) (call : Call) :
    Task.Closed (engine.beginAnswered caller call).agenda := by
  refine (engine.closed_beginCall call).append (Task.closed_of_silent fun task member => ?_)
  rw [List.mem_singleton.mp member]
  rfl

theorem closed_beginRequest (engine : Engine) (caller : Caller) (callback : Callback) :
    Task.Closed (engine.beginRequest caller callback).2.agenda := by
  rcases engine.beginRequest_cases caller callback with ⟨-, same⟩ | ⟨-, same⟩ <;> rw [same]
  · exact engine.closed_beginAnswered caller callback.call
  · exact Task.closed_of_silent (by simp [Task.subject?])

theorem closed_carryOut (connection : Connection) (engine : Engine) (task : Task) :
    Task.Closed (engine.carryOut connection task).agenda := by
  rcases carryOut_event connection engine task with ⟨site, id, callback, rfl⟩ | ⟨-, -, -, quiet, -⟩
  · exact engine.closed_beginRequest _ callback
  · exact Task.closed_of_silent quiet

theorem closed_beginSubmit (engine : Engine) (connection : Connection) (kind : OperationKind)
    (request : List UInt8) (timeout : Option Duration) :
    Task.Closed (engine.beginSubmit connection kind request timeout).2.agenda := by
  obtain ⟨_, -, -, quiet⟩ := engine.beginSubmit_event connection kind request timeout
  exact Task.closed_of_silent quiet

/-- A call enters nothing in the table. -/
theorem get?_beginCall {engine : Engine} {call : Call} {id : MessageId} {serial : Serial}
    (present : (engine.beginCall call).2.engine.pending.get? id = some serial) :
    engine.pending.get? id = some serial := by
  obtain ⟨reply, moment, same, begins⟩ := engine.exists_begins call
  rw [same] at present
  cases begins with
  | deliver found =>
      rw [pending_publish, (pending_of_takeOut found).2] at present
      exact (PendingTable.get?_removeIfSame.mp present).1
  | expire found =>
      rw [beginExpiry, (pending_of_takeOut found).2] at present
      exact (PendingTable.get?_removeIfSame.mp present).1
  | failAll code message =>
      rw [pending_failAll] at present
      cases present
  | _ => exact present

theorem get?_beginRequest {engine : Engine} {caller : Caller} {callback : Callback}
    {id : MessageId} {serial : Serial}
    (present : (engine.beginRequest caller callback).2.engine.pending.get? id = some serial) :
    engine.pending.get? id = some serial := by
  rcases engine.beginRequest_cases caller callback with ⟨-, same⟩ | ⟨-, same⟩ <;>
    rw [same] at present
  · exact get?_beginCall present
  · exact present

theorem get?_carryOut {connection : Connection} {engine : Engine} {task : Task}
    {id : MessageId} {serial : Serial}
    (present : (engine.carryOut connection task).engine.pending.get? id = some serial) :
    engine.pending.get? id = some serial := by
  cases task with
  | callback site key callback => exact get?_beginRequest present
  | accept key other deadline =>
      cases deadline with
      | none => exact present
      | some deadline => rwa [carryOut, pending_log, pending_arm] at present
  | refuse key other reason => exact (PendingTable.get?_removeIfSame.mp present).1
  | _ => exact present

end Engine

namespace Moment

variable {moment after : Moment} {serial : Serial}

theorem Proceeds.closed (step : moment.Proceeds after) (closed : Task.Closed moment.agenda) :
    Task.Closed after.agenda := by
  obtain ⟨engine, task, rest, connection, rfl, rfl⟩ := step.exists_carryOut
  exact (engine.closed_carryOut connection task).append closed.2

theorem Moves.closed (move : moment.Moves after) (closed : Task.Closed moment.agenda) :
    Task.Closed after.agenda := by
  cases move with
  | proceed step =>
      rw [settle]
      split
      · trivial
      · exact step.closed closed
  | submit held connection kind request timeout =>
      exact Engine.closed_beginSubmit _ connection kind request timeout
  | request engine callback outside => exact engine.closed_beginRequest _ callback
  | @fire engine timer armed due =>
      exact Engine.closed_beginAnswered _ (.timer timer.operation)
        (.expire timer.messageId .timeout)
  | _ => trivial

theorem Reachable.closed (reachable : moment.Reachable) : Task.Closed moment.agenda := by
  obtain ⟨options, ids, later⟩ := reachable
  induction later with
  | refl => trivial
  | tail _ move ih => exact move.closed ih

/-! ## Silence -/

/-- From one engine to the next, nothing happens that is a part of the end of an operation. -/
def Silent (serial : Serial) (engine after : Engine) : Prop :=
  ∃ events, after.trace = engine.trace ++ events ∧ ∀ event ∈ events, event.subject? ≠ some serial

theorem Silent.refl (serial : Serial) (engine : Engine) : Silent serial engine engine :=
  ⟨[], (List.append_nil _).symm, fun _ member => absurd member List.not_mem_nil⟩

theorem Silent.trans {engine middle after : Engine} (one : Silent serial engine middle)
    (two : Silent serial middle after) : Silent serial engine after := by
  obtain ⟨first, trace, quiet⟩ := one
  obtain ⟨second, added, still⟩ := two
  refine ⟨first ++ second, ?_, fun event member => ?_⟩
  · rw [added, trace, List.append_assoc]
  · exact (List.mem_append.mp member).elim (quiet event) (still event)

theorem silent_log (engine : Engine) {event : Event} (quiet : event.subject? = none) :
    Silent serial engine (engine.log event) :=
  ⟨[event], rfl, by simp [quiet]⟩

variable {engine : Engine} {ending : List Serial} {submitting : List (MessageId × Serial)}

theorem silent_beginRequest (idle : ∀ id, engine.pending.get? id ≠ some serial) (caller : Caller)
    (callback : Callback) :
    Silent serial engine (engine.beginRequest caller callback).2.engine := by
  obtain ⟨events, trace, asked⟩ := engine.mayEnd_beginRequest caller callback
  refine ⟨events, trace, fun event member subject => ?_⟩
  obtain ⟨id, present, -⟩ := asked serial (.inl ⟨event, member, subject⟩)
  exact idle id present

theorem silent_release (idle : ∀ id, engine.pending.get? id ≠ some serial) :
    Silent serial engine engine.release := by
  rcases engine.written_release with same | ⟨written, listed, trace⟩
  · exact ⟨[], by rw [same, List.append_nil], fun _ member => absurd member List.not_mem_nil⟩
  · refine ⟨_, trace, fun event member subject => ?_⟩
    rcases List.mem_append.mp member with published | last
    · obtain ⟨other, ended, rfl⟩ := List.mem_map.mp published
      cases subject
      obtain ⟨id, present⟩ := PendingTable.mem_serials_iff.mp (listed ended)
      exact idle id present
    · rw [List.mem_singleton.mp last] at subject
      cases subject

theorem silent_beginSubmit (engine : Engine) (connection : Connection) (kind : OperationKind)
    (request : List UInt8) (timeout : Option Duration) :
    Silent serial engine (engine.beginSubmit connection kind request timeout).2.engine := by
  obtain ⟨event, trace, quiet, -⟩ := engine.beginSubmit_event connection kind request timeout
  exact ⟨[event], trace, by simp [quiet]⟩

/-- A run is through with an operation: it is not in the table, and no task is about it. -/
structure Through (serial : Serial) (moment : Moment) : Prop where
  absent : ∀ id, moment.engine.pending.get? id ≠ some serial
  quiet : ∀ task ∈ moment.agenda, task.subject? ≠ some serial

theorem through_of_not_live (closed : Task.Closed moment.agenda)
    (idle : ¬moment.ledger.Live serial) : Through serial moment :=
  ⟨fun id present => idle (.inl ⟨id, present⟩),
    fun _ member subject => idle (.inr (closed.mem_ending member subject))⟩

theorem Proceeds.through (step : moment.Proceeds after) (through : Through serial moment) :
    Through serial after ∧ Silent serial moment.engine after.engine := by
  obtain ⟨engine, task, rest, connection, rfl, rfl⟩ := step.exists_carryOut
  have absent : ∀ id, (engine.carryOut connection task).engine.pending.get? id ≠ some serial :=
    fun id present => through.absent id (Engine.get?_carryOut present)
  have quiet : ∀ later ∈ rest, later.subject? ≠ some serial :=
    fun later member => through.quiet later (List.mem_cons_of_mem task member)
  rcases Engine.carryOut_event connection engine task with
    ⟨site, id, callback, rfl⟩ | ⟨event, trace, subject, silent, -⟩
  · obtain ⟨events, trace, asked⟩ := engine.mayEnd_beginRequest (.connection site id) callback
    have idle : ¬Engine.Concerns events
        (engine.beginRequest (.connection site id) callback).2.agenda serial := by
      intro concerns
      obtain ⟨key, present, -⟩ := asked serial concerns
      exact through.absent key present
    refine ⟨⟨absent, fun later member => ?_⟩,
      events, trace, fun event member subject => idle (.inl ⟨event, member, subject⟩)⟩
    rcases List.mem_append.mp member with new | old
    · exact fun subject => idle (.inr ⟨later, new, subject⟩)
    · exact quiet later old
  · refine ⟨⟨absent, fun later member => ?_⟩, [event], trace, fun other member => ?_⟩
    · rcases List.mem_append.mp member with new | old
      · rw [silent later new]
        exact nofun
      · exact quiet later old
    · rw [List.mem_singleton.mp member, subject]
      exact through.quiet task List.mem_cons_self

theorem Course.through (course : moment.Course after) (through : Through serial moment) :
    Through serial after ∧ Silent serial moment.engine after.engine := by
  induction course with
  | refl => exact ⟨through, .refl serial _⟩
  | tail _ step ih =>
      obtain ⟨still, quiet⟩ := step.through ih.1
      exact ⟨still, ih.2.trans quiet⟩

theorem not_live_of_outcome (coherent : moment.ledger.Coherent)
    (ended : (moment.engine.outcome? serial).isSome) : ¬moment.ledger.Live serial :=
  coherent.not_live ended

theorem Moves.silent (move : moment.Moves after) (coherent : moment.ledger.Coherent)
    (closed : Task.Closed moment.agenda) (ended : (moment.engine.outcome? serial).isSome) :
    Silent serial moment.engine after.engine := by
  have idle := not_live_of_outcome coherent ended
  have absent : ∀ id, moment.engine.pending.get? id ≠ some serial :=
    fun id present => idle (.inl ⟨id, present⟩)
  cases move with
  | @proceed _ after step =>
      -- If this was the last task, the engine may go, and it takes only what is in the table.
      refine (step.through (through_of_not_live closed idle)).2.trans ?_
      have still := ((step.changes coherent).operation?_of_not_live idle).2
      rw [settle]
      split
      · exact silent_release fun id present => still (.inl ⟨id, present⟩)
      · exact .refl serial _
  | submit held connection kind request timeout =>
      exact silent_beginSubmit _ connection kind request timeout
  | request engine callback outside => exact silent_beginRequest absent _ callback
  | @fire engine timer armed due =>
      obtain ⟨events, trace, asked⟩ :=
        Engine.mayEnd_beginAnswered { engine with timers := engine.timers.erase timer }
          (.timer timer.operation) (.expire timer.messageId .timeout)
      refine ⟨events, trace, fun event member subject => ?_⟩
      obtain ⟨id, present, -⟩ := asked serial (.inl ⟨event, member, subject⟩)
      exact absent id present
  | @drop engine holder held =>
      have quiet : Silent serial (engine.drop holder) (engine.drop holder).release :=
        silent_release absent
      exact quiet
  | recordEntry engine other => exact silent_log _ rfl
  | recordReference engine other => exact silent_log _ rfl
  | _ => exact .refl serial _

/-- Nothing more comes of an operation that has ended. -/
theorem Reachable.silent (reachable : moment.Reachable) (later : moment.Reaches after)
    (ended : (moment.engine.outcome? serial).isSome) :
    Silent serial moment.engine after.engine := by
  obtain ⟨outcome, reported⟩ := Option.isSome_iff_exists.mp ended
  induction later with
  | refl => exact .refl serial _
  | tail earlier move ih =>
      have reached := reachable.reaches earlier
      have still : _ = some outcome :=
        (Reaches.extends earlier reachable.coherent).outcome? reported
      exact ih.trans (move.silent reached.coherent reached.closed (by rw [still]; rfl))

end Moment

end DirectoryClient
