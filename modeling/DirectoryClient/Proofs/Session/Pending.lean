import DirectoryClient.Proofs.Engine.Pending
import DirectoryClient.Proofs.Session.Run

namespace DirectoryClient

namespace Session

variable {session : Session} {handle : Handle} {serial : Serial} {operation : Operation}

theorem perform_inspect_of_operation? (held : session.handles[handle]? = some serial)
    (found : session.engine.operation? serial = some operation) :
    (session.perform (.inspect handle)).1 = .operation operation := by
  change (session.withHandle handle _).1 = _
  rw [withHandle, held]
  simp only [found]

end Session

/-- The table has what has been submitted and has not ended. -/
theorem pending_iff_unresolved {moment : Moment} (reachable : moment.Reachable) :
    (∀ id serial, moment.engine.pending.get? id = some serial →
      ∃ operation, moment.engine.operation? serial = some operation ∧
        operation.messageId = id ∧ operation.stage = .pending ∧ operation.outcome? = none) ∧
    (moment.agenda = [] →
      (∀ serial ∈ moment.engine.submitted, ∃ operation,
        moment.engine.operation? serial = some operation ∧
          (moment.engine.pending.get? operation.messageId = some serial ↔
            operation.outcome? = none)) ∧
      moment.engine.submitted.Nodup ∧
      moment.engine.pendingCount =
        moment.engine.submitted.countP fun serial => (moment.engine.outcome? serial).isNone) ∧
    (∀ serial, serial ∈ moment.engine.submitted ∨
        (∃ id, (id, serial) ∈ Task.submitting moment.agenda) →
      ∃ operation, moment.engine.operation? serial = some operation ∧
        ((moment.engine.pending.get? operation.messageId ≠ some serial ∧
          operation.outcome? = none) ↔ moment.Expiring serial)) ∧
    ∀ options ids steps,
      let session := ((Session.start options ids).run steps).2
      (∀ serial, serial ∈ session.handles ↔ serial ∈ session.engine.submitted) ∧
        ∀ handle serial, session.handles[handle]? = some serial → ∃ operation,
          (session.perform (.inspect handle)).1 = .operation operation ∧
            (session.engine.pending.get? operation.messageId = some serial ↔
              operation.outcome? = none) := by
  refine ⟨fun id serial => reachable.entry, fun finished => ⟨?_, ?_, ?_⟩,
    fun serial => reachable.missing_iff, ?_⟩
  · exact fun serial => reachable.present_iff finished
  · exact (List.nodup_append.mp reachable.coherent.known.distinct).1
  · apply reachable.coherent.pendingCount_eq
    · rw [Moment.ledger, finished, Task.ending_nil]
    · rw [Moment.ledger, finished, Task.submitting_nil]
  · intro options ids steps session
    have sound := (Session.leads_run_start options ids steps).sound
    refine ⟨fun serial => sound.handles, fun handle serial held => ?_⟩
    have returned := sound.handles.mp (List.mem_of_getElem? held)
    obtain ⟨operation, found, present⟩ :=
      (Session.reachable_run options ids steps).present_iff rfl returned
    exact ⟨operation, Session.perform_inspect_of_operation? held found, present⟩

/-- Two requests wait for their responses. -/
def Session.waiting : Session :=
  ((Session.start {} (.startingAt 1)).run
    [.submit 0 .search [] none, .submit 0 .add [] (some (.ofSeconds 5 0))]).2

/-- The first request is being canceled, and the connection is about to deliver its response. -/
def Moment.canceling : Moment :=
  (Session.waiting.engine.beginRequest .client ⟨0, .expire ⟨1⟩ .canceled⟩).2.advance
    { deregister := fun id => { callbacks := [⟨0, .deliver id .success⟩] } } 1

theorem pending_iff_unresolved_canceling :
    Moment.canceling.Reachable ∧ Moment.canceling.Expiring 0 ∧
      Session.waiting.engine.pendingCount = 2 := by
  have waiting : Moment.Reachable ⟨Session.waiting.engine, []⟩ := Session.reachable_run _ _ _
  have reachable : Moment.canceling.Reachable :=
    (waiting.reaches (.single (.request _ _ (.inl rfl)))).reaches (Moment.reaches_advance _ _ _)
  obtain ⟨-, between, -, -⟩ := pending_iff_unresolved waiting
  obtain ⟨-, -, missing, -⟩ := pending_iff_unresolved reachable
  refine ⟨reachable, ?_, (between rfl).2.2.trans (by decide +kernel)⟩
  obtain ⟨operation, found, expiring⟩ := missing 0 (.inl (by decide +kernel))
  have claimed : Moment.canceling.engine.operation? 0 = some
      { messageId := ⟨1⟩, kind := .search, submittedAt := .zero, stage := .claimed } := by
    decide +kernel
  cases claimed.symm.trans found
  exact expiring.mp (by decide +kernel)

end DirectoryClient
