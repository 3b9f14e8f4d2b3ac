import DirectoryClient.Proofs.Engine.Frame
import DirectoryClient.Proofs.Engine.Firing

namespace DirectoryClient

/-- The operation that an event counts something for. -/
def Event.counts? : Event → Option Serial
  | .entryCounted serial => some serial
  | .referenceCounted serial => some serial
  | _ => none

/-- The operation has counted what the events say, and is otherwise the same request. -/
structure Operation.CountsUp (operation : Operation) (serial : Serial) (events : List Event)
    (later : Operation) : Prop where
  entries : later.entries = operation.entries + .ofNat (events.count (.entryCounted serial))
  references : later.references =
    operation.references + .ofNat (events.count (.referenceCounted serial))

theorem Operation.CountsUp.trans {first second third : Operation} {serial : Serial}
    {before after : List Event} (one : first.CountsUp serial before second)
    (two : second.CountsUp serial after third) :
    first.CountsUp serial (before ++ after) third := by
  constructor
  · rw [two.entries, one.entries, List.count_append, UInt32.ofNat_add, UInt32.add_assoc]
  · rw [two.references, one.references, List.count_append, UInt32.ofNat_add, UInt32.add_assoc]

namespace Engine

/-- What operations have counted from one engine to the next is what the trace says. -/
def Counts (engine after : Engine) : Prop :=
  ∃ events, after.trace = engine.trace ++ events ∧
    ∀ {serial operation}, engine.operation? serial = some operation →
      ∃ later, after.operation? serial = some later ∧ operation.CountsUp serial events later

variable {engine middle after : Engine} {serial : Serial} {id : MessageId}

theorem Counts.trans (one : engine.Counts middle) (two : middle.Counts after) :
    engine.Counts after := by
  obtain ⟨first, trace, before⟩ := one
  obtain ⟨second, added, later⟩ := two
  refine ⟨first ++ second, by rw [added, trace, List.append_assoc], fun found => ?_⟩
  obtain ⟨next, present, counted⟩ := before found
  obtain ⟨last, still, more⟩ := later present
  exact ⟨last, still, counted.trans more⟩

theorem count_eq_zero_of_counts? {events : List Event} {event : Event}
    (quiet : ∀ event ∈ events, event.counts? = none) (own : event.counts? = some serial) :
    events.count event = 0 := by
  refine List.count_eq_zero.mpr fun member => ?_
  cases (quiet event member).symm.trans own

/-- Nothing is counted if nothing is noted and no count has changed. -/
theorem counts_of_quiet {events : List Event} (trace : after.trace = engine.trace ++ events)
    (quiet : ∀ event ∈ events, event.counts? = none)
    (same : ∀ {serial operation}, engine.operation? serial = some operation →
      ∃ later, after.operation? serial = some later ∧ later.entries = operation.entries ∧
        later.references = operation.references) : engine.Counts after := by
  refine ⟨events, trace, fun {serial operation} found => ?_⟩
  obtain ⟨later, present, entries, references⟩ := same found
  refine ⟨later, present, ?_, ?_⟩
  · simp [entries, count_eq_zero_of_counts? quiet (rfl : (Event.entryCounted serial).counts? = _)]
  · simp [references,
      count_eq_zero_of_counts? quiet (rfl : (Event.referenceCounted serial).counts? = _)]

theorem Counts.refl (engine : Engine) : engine.Counts engine :=
  counts_of_quiet (List.append_nil _).symm (by simp) fun found => ⟨_, found, rfl, rfl⟩

theorem counts_log (engine : Engine) {event : Event} (quiet : event.counts? = none) :
    engine.Counts (engine.log event) :=
  counts_of_quiet rfl (by simp [quiet]) fun found => ⟨_, found, rfl, rfl⟩

theorem counts_countEntry (engine : Engine) (serial : Serial) :
    engine.Counts (engine.countEntry serial) := by
  refine ⟨[.entryCounted serial], rfl, fun {other operation} found => ?_⟩
  rw [operation?_countEntry, found]
  split
  · next same =>
      subst same
      exact ⟨_, rfl, by simp [Operation.recordEntry], by simp [Operation.recordEntry]⟩
  · next different =>
      exact ⟨_, rfl, by simp [different], by simp⟩

theorem counts_countReference (engine : Engine) (serial : Serial) :
    engine.Counts (engine.countReference serial) := by
  refine ⟨[.referenceCounted serial], rfl, fun {other operation} found => ?_⟩
  rw [operation?_countReference, found]
  split
  · next same =>
      subst same
      exact ⟨_, rfl, by simp [Operation.recordReference], by simp [Operation.recordReference]⟩
  · next different =>
      exact ⟨_, rfl, by simp, by simp [different]⟩

theorem counts_takeOut (found : engine.takeOut id = some (serial, after)) :
    engine.Counts after := by
  refine counts_of_quiet ((trace_takeOut found).trans (List.append_nil _).symm) (by simp)
    fun {other operation} stands => ?_
  by_cases same : other = serial
  · subst same
    obtain ⟨own, present, -, claimed⟩ := operation?_takeOut_self found
    cases present.symm.trans stands
    exact ⟨_, claimed, rfl, rfl⟩
  · exact ⟨_, (operation?_takeOut_of_ne found same).trans stands, rfl, rfl⟩

theorem counts_publish (engine : Engine) (serial : Serial) (response : Response) :
    engine.Counts (engine.publish serial response) := by
  refine counts_of_quiet (trace_publish response) (by simp [Event.counts?])
    fun {other operation} stands => ?_
  by_cases same : other = serial
  · subst same
    rw [operation?_publish_self, stands]
    exact ⟨_, rfl, rfl, rfl⟩
  · exact ⟨_, (operation?_publish_of_ne response same).trans stands, rfl, rfl⟩

theorem counts_failAll (engine : Engine) (code : ResultCode) (message : String) :
    engine.Counts (engine.failAll code message).2 := by
  obtain ⟨written, -, -, trace⟩ := trace_failEach { engine with pending := ∅ }
    { code, diagnostic := some message } engine.pending.serials
  refine counts_of_quiet trace (by simp [Event.counts?]) fun {serial operation} found => ?_
  rw [failAll, operation?_failEach]
  refine ⟨_, congrArg _ found, ?_⟩
  dsimp only
  split <;> exact ⟨rfl, rfl⟩

theorem counts_accept (engine : Engine) (id : MessageId) (serial : Serial)
    (deadline : Option Duration) : engine.Counts (engine.accept id serial deadline) :=
  counts_of_quiet (trace_accept deadline) (by simp [Event.counts?])
    fun found => ⟨_, (operation?_accept deadline).trans found, rfl, rfl⟩

theorem counts_beginCall (engine : Engine) (call : Call) :
    engine.Counts (engine.beginCall call).2.engine := by
  obtain ⟨reply, moment, same, begins⟩ := engine.exists_begins call
  rw [same]
  cases begins with
  | idle lost none => exact .refl engine
  | deliver found => exact (counts_takeOut found).trans (counts_publish _ _ _)
  | expire found => exact counts_takeOut found
  | countEntry present => exact counts_countEntry engine _
  | countReference present => exact counts_countReference engine _
  | failAll code message => exact engine.counts_failAll code message

theorem counts_beginRequest (engine : Engine) (caller : Caller) (callback : Callback) :
    engine.Counts (engine.beginRequest caller callback).2.engine := by
  rcases engine.beginRequest_cases caller callback with ⟨-, same⟩ | ⟨-, same⟩ <;> rw [same]
  · exact engine.counts_beginCall callback.call
  · exact .refl engine

theorem counts_carryOut (connection : Connection) (engine : Engine) (task : Task) :
    engine.Counts (engine.carryOut connection task).engine := by
  cases task with
  | callback site id callback => exact engine.counts_beginRequest (.connection site id) callback
  | publish serial response => exact engine.counts_publish serial response
  | accept id serial deadline =>
      rw [Moment.carryOut_accept]
      exact engine.counts_accept id serial deadline
  | refuse id serial reason => exact counts_log (engine.withdraw id serial) rfl
  | _ => exact engine.counts_log rfl

end Engine

namespace Moment

variable {moment after : Moment}

theorem Course.counts (course : moment.Course after) : moment.engine.Counts after.engine := by
  induction course with
  | refl => exact .refl _
  | @tail middle after _ step ih =>
      obtain ⟨engine, task, rest, connection, rfl, rfl⟩ := step.exists_carryOut
      exact ih.trans (engine.counts_carryOut connection task)

/-- As long as an operation stays in the table, a call leaves it as it is but for its counts. -/
theorem Course.operation?_of_present (course : moment.Course after)
    (coherent : moment.ledger.Coherent) {serial : Serial} {id : MessageId} {operation : Operation}
    (found : moment.engine.operation? serial = some operation)
    (pending : operation.stage = .pending)
    (present : after.engine.pending.get? id = some serial) :
    ∃ events, after.engine.trace = moment.engine.trace ++ events ∧
      after.engine.operation? serial = some { operation with
        entries := operation.entries + .ofNat (events.count (.entryCounted serial))
        references := operation.references + .ofNat (events.count (.referenceCounted serial)) } := by
  have changes : Ledger.Changes moment.ledger after.ledger := course.changes_alone coherent
  obtain ⟨events, trace, counted⟩ := course.counts
  obtain ⟨later, stands, entries, references⟩ := counted found
  obtain ⟨same, kept, messageId, kind, submittedAt, -⟩ :=
    (coherent.extends changes).operation found
  cases stands.symm.trans kept
  obtain ⟨_, again, -, waiting⟩ :=
    Engine.status?_eq_some_iff.mp ((coherent.changes changes).staged.entry present)
  cases stands.symm.trans again
  refine ⟨events, trace, stands.trans (congrArg some ?_)⟩
  rw [← entries, ← references, pending, ← waiting, ← messageId, ← kind, ← submittedAt]

end Moment

end DirectoryClient
