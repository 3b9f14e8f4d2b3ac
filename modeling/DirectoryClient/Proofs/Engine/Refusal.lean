import DirectoryClient.Proofs.Engine.Cleanup
import DirectoryClient.Proofs.Engine.Returned
import DirectoryClient.Proofs.Engine.Transmission

namespace DirectoryClient

namespace Engine

/-- What a submission that failed leaves behind, whatever the connection has done meanwhile. -/
structure TakesBack (engine after : Engine) : Prop where
  absent : ∀ id, after.pending.get? id ≠ some engine.operations.length
  submitted : after.submitted = engine.submitted
  untimed : ∀ timer ∈ after.timers, timer.operation ≠ engine.operations.length
  kept : ∀ id serial, after.pending.get? id = some serial →
    engine.pending.get? id = some serial ∧ after.messageId? serial = some id
  missing : ∀ id serial, engine.pending.get? id = some serial →
    (after.pending.get? id = none ↔ (after.outcome? serial).isSome)
  asked : ∃ events, after.trace = engine.trace ++ events ∧
    ∀ id serial, engine.pending.get? id = some serial →
      (after.outcome? serial).isSome → Event.Asks id events

variable {engine after : Engine} {connection : Connection} {kind : OperationKind}
variable {request : List UInt8} {timeout : Option Duration} {reason : SubmitError}
variable {started : Moment} {registered : Engine} {id : MessageId} {failure : TransportError}

/-- A submission fails since it finds no identifier, or since the connection fails. -/
theorem beginSubmit_eq_error
    (begun : engine.beginSubmit connection kind request timeout = (.error reason, started)) :
    (∃ ids, engine.register kind (max engine.options.maxMessageIdProbes 1) =
        (none, { engine with ids }) ∧
      reason = .messageIdsExhausted (max engine.options.maxMessageIdProbes 1) ∧
      started = ⟨{ engine with ids := ids, trace := engine.trace ++ [.refused reason] }, []⟩) ∨
    ∃ id registered failure,
      engine.register kind (max engine.options.maxMessageIdProbes 1) = (some id, registered) ∧
      (connection.transmit id).failure = some failure ∧ reason = .transport failure ∧
      started = ⟨registered.log (.transmitted id request),
        Task.ofReaction .transmit id (connection.transmit id) ++
          [.refuse id engine.operations.length failure]⟩ := by
  cases found : engine.register kind (max engine.options.maxMessageIdProbes 1) with
  | mk own registered =>
      cases own with
      | none =>
          obtain ⟨ids, rfl⟩ := register_eq_none found
          rw [beginSubmit_of_exhausted found] at begun
          cases begun
          exact .inl ⟨ids, rfl, rfl, rfl⟩
      | some id =>
          rw [beginSubmit_of_registered found] at begun
          cases failed : (connection.transmit id).failure with
          | none => simp [failed, conclusion] at begun
          | some failure =>
              simp only [failed, conclusion, Prod.mk.injEq, Except.error.injEq] at begun
              obtain ⟨rfl, rfl⟩ := begun
              exact .inr ⟨id, registered, failure, rfl, failed, rfl, rfl⟩

theorem returned_of_refused
    (begun : engine.beginSubmit connection kind request timeout = (.error reason, started)) :
    started.returned = engine.submitted := by
  rcases beginSubmit_eq_error begun with
    ⟨ids, -, -, rfl⟩ | ⟨id, registered, failure, found, -, -, rfl⟩
  · change Engine.submitted _ ++ [] = _
    simp [submitted, Event.submitted?]
  · have same : registered.submitted = engine.submitted := by
      rw [frame_register found]
      rfl
    rw [Moment.returned_append, Moment.returned_of_submitting (Task.submitting_ofReaction _ _ _),
      submitted_log, same]
    simp [Task.returning, Task.returning?, Event.submitted?]

theorem accounts_beginSubmit (engine : Engine) (connection : Connection) (kind : OperationKind)
    (request : List UInt8) (timeout : Option Duration) (serial : Serial) :
    Moment.Accounts engine serial (engine.beginSubmit connection kind request timeout).2 := by
  obtain ⟨event, trace, silent, quiet⟩ := engine.beginSubmit_event connection kind request timeout
  refine ⟨[event], trace, fun other _ concerns => ?_⟩
  rcases concerns with ⟨told, member, subject⟩ | ⟨task, member, subject⟩
  · cases List.mem_singleton.mp member
    cases silent.symm.trans subject
  · cases (quiet task member).symm.trans subject

theorem lt_length_of_submitted {ending : List Serial} {submitting : List (MessageId × Serial)}
    (known : Ledger.Known ⟨engine, ending, submitting⟩) {serial : Serial}
    (returned : serial ∈ engine.submitted) : serial < engine.operations.length := by
  obtain ⟨id, stage, stands, -⟩ := known.present (List.mem_append_left _ returned)
  exact lt_length_of_status? stands

/-- Whatever the connection does while it fails, only the new operation is taken back. -/
theorem takesBack_of_course (reachable : Moment.Reachable ⟨engine, []⟩) {holder : Holder}
    (held : engine.isHeld holder = true)
    (begun : engine.beginSubmit connection kind request timeout = (.error reason, started))
    (course : started.Course ⟨after, []⟩) : engine.TakesBack after := by
  have coherent : Ledger.Coherent ⟨engine, [], []⟩ := reachable.coherent
  have starts := (reachable.beginSubmit held begun).coherent
  have changes : Ledger.Changes _ _ := course.changes_alone starts
  have final : Ledger.Coherent ⟨after, [], []⟩ := starts.changes changes
  have submitted : after.submitted = engine.submitted :=
    (List.append_nil _).symm.trans (course.returned.trans (returned_of_refused begun))
  have inTable : ∀ serial, serial ∈ after.pending.serials ↔
      serial ∈ engine.submitted ∧ after.outcome? serial = none := fun serial =>
    submitted ▸ final.mem_serials_iff rfl rfl
  have absent : ∀ id, after.pending.get? id ≠ some engine.operations.length := by
    intro id present
    have listed := (inTable _).mp (PendingTable.mem_serials_iff.mpr ⟨id, present⟩)
    exact Nat.lt_irrefl _ (lt_length_of_submitted coherent.known listed.1)
  have kept : ∀ id serial, after.pending.get? id = some serial →
      engine.pending.get? id = some serial := by
    intro id serial present
    have before : (engine.beginSubmit connection kind request timeout).2.engine.pending.get? id =
        some serial := begun ▸ course.get? present
    exact (get?_beginSubmit.mp before).resolve_right fun new => absent id (new.2 ▸ present)
  constructor
  · exact absent
  · exact submitted
  · intro timer armed
    have returned : timer.operation ∈ after.submitted := (final.timed timer armed).1
    exact Nat.ne_of_lt (lt_length_of_submitted coherent.known (submitted ▸ returned))
  · exact fun id serial present => ⟨kept id serial present,
      messageId?_of_status? (final.staged.entry present)⟩
  · intro id serial present
    have returned : serial ∈ engine.submitted :=
      ((coherent.mem_serials_iff rfl rfl).mp (PendingTable.mem_serials_iff.mpr ⟨id, present⟩)).1
    have still : after.outcome? serial = none ↔ ∃ key, after.pending.get? key = some serial := by
      rw [← PendingTable.mem_serials_iff, inTable, and_iff_right returned]
    rw [← Option.ne_none_iff_isSome, ne_eq, still]
    constructor
    · rintro gone ⟨key, left⟩
      cases coherent.staged.id_eq (kept key serial left) present
      cases gone.symm.trans left
    · intro gone
      refine Option.eq_none_iff_forall_ne_some.mpr fun other left => gone ⟨id, ?_⟩
      rw [left, ← kept id other left, present]
  · have accounts := engine.accounts_beginSubmit connection kind request timeout
      engine.operations.length
    rw [begun] at accounts
    have move := Moment.Moves.submit held connection kind request timeout
    rw [begun] at move
    have later : engine.Extends after :=
      (move.extends reachable.coherent).trans (starts.extends changes)
    rw [← Moment.within_nil started] at starts
    obtain ⟨events, trace, asked⟩ :=
      (accounts.course course starts).asks later coherent.published final.published
    refine ⟨events, trace, fun id serial present ended => ?_⟩
    have stands := coherent.staged.entry present
    exact asked serial id (Nat.ne_of_lt (lt_length_of_status? stands))
      (messageId?_of_status? stands) (.inl ⟨outcome?_of_present coherent.staged present, ended⟩)

/-- If the connection calls nobody while it fails, only the sequence of identifiers has moved. -/
theorem eq_of_failed_silently
    (found : engine.register kind (max engine.options.maxMessageIdProbes 1) = (some id, registered))
    {reaction : Reaction TransportError} (silent : reaction.callbacks = [])
    (failed : reaction.failure = some failure)
    (course : Moment.Course ⟨registered.log (.transmitted id request),
      Task.ofReaction .transmit id reaction ++ [.refuse id engine.operations.length failure]⟩
      ⟨after, []⟩) :
    after = { engine with
      ids := registered.ids
      operations := engine.operations ++ [{ messageId := id, kind, submittedAt := engine.now }]
      trace := engine.trace ++ [.transmitted id request, .returned .transmit id false,
        .refused (.transport failure)] } := by
  obtain ⟨ids, pending, inserted, rfl⟩ := register_eq_some found
  obtain ⟨middle, connection, calls, course⟩ := course.transmit
  rw [silent] at calls
  cases calls.eq_of_nil
  cases course.eq_of_nil
  simp only [withdraw, log, failed, PendingTable.removeIfSame_insertIfAbsent inserted]
  simp

end Engine

end DirectoryClient
