import DirectoryClient.Proofs.Engine.Progress

/-!
# One call of a run

A call that the connection makes from inside another call has an agenda of its own, and what the
outer call still has to do waits behind it. The invariants are about both, so a call is followed
here together with the rest that waits for it.
-/

namespace DirectoryClient

namespace Call

/-- The response that a call gives to the operation that it ends. -/
def response? (engine : Engine) (operation : Operation) : Call → Option Response
  | .deliver _ response => some response
  | .expire _ reason =>
      some (reason.response (engine.now - operation.submittedAt) engine.options.abandonOnTimeout)
  | _ => none

end Call

namespace Ledger

variable {ledger after : Ledger} {serial : Serial} {id : MessageId}

theorem Changes.now (changes : ledger.Changes after) : after.engine.now = ledger.engine.now := by
  rw [changes.frame]

theorem Changes.ids (changes : ledger.Changes after) : after.engine.ids = ledger.engine.ids := by
  rw [changes.frame]

/-- An operation that has been claimed is left alone until its outcome is written. -/
theorem Change.operation?_of_claimed (change : ledger.Change after) (staged : ledger.Staged)
    (claimed : ledger.engine.status? serial = some (id, .claimed)) :
    after.engine.operation? serial = ledger.engine.operation? serial ∨
      ∃ outcome, after.engine.outcome? serial = some outcome := by
  have absent : ∀ {key}, ledger.engine.pending.get? key ≠ some serial := fun present => by
    cases (staged.entry present).symm.trans claimed
  cases change with
  | note plain => exact .inl rfl
  | @countEntry engine ending submitting key other present =>
      have different : other ≠ serial := fun same => absent (same ▸ present)
      exact .inl ((Engine.operation?_countEntry other).trans (if_neg different))
  | @countReference engine ending submitting key other present =>
      have different : other ≠ serial := fun same => absent (same ▸ present)
      exact .inl ((Engine.operation?_countReference other).trans (if_neg different))
  | @takeOut engine ending submitting key other taken found =>
      have present := (Engine.pending_of_takeOut found).1
      have different : serial ≠ other := fun same => absent (same ▸ present)
      exact .inl (Engine.operation?_takeOut_of_ne found different)
  | @publish engine ending submitting other response =>
      by_cases same : serial = other
      · subst same
        obtain ⟨outcome, written⟩ := Engine.status?_publish_self response claimed
        exact .inr ⟨outcome, Engine.outcome?_eq_some_iff.mpr ⟨id, written⟩⟩
      · exact .inl (Engine.operation?_publish_of_ne response same)
  | accept deadline => exact .inl (Engine.operation?_accept deadline)
  | refuse => exact .inl rfl

theorem Changes.operation?_of_claimed (changes : ledger.Changes after)
    (coherent : ledger.Coherent) (claimed : ledger.engine.status? serial = some (id, .claimed)) :
    after.engine.operation? serial = ledger.engine.operation? serial ∨
      ∃ outcome, after.engine.outcome? serial = some outcome := by
  induction changes with
  | refl => exact .inl rfl
  | @tail middle last earlier change ih =>
      have staged := (coherent.changes earlier).staged
      rcases ih with same | ⟨outcome, ended⟩
      · have still : middle.engine.status? serial = some (id, .claimed) := by
          rw [Engine.status?, same]
          exact claimed
        exact (change.operation?_of_claimed staged still).imp_left fun next => next.trans same
      · exact .inr ⟨outcome, (change.extends staged).outcome? ended⟩

theorem Changes.operation?_of_ending (changes : ledger.Changes after) (coherent : ledger.Coherent)
    (before : serial ∈ ledger.ending) (later : serial ∈ after.ending) :
    after.engine.operation? serial = ledger.engine.operation? serial := by
  obtain ⟨id, claimed⟩ := coherent.staged.claimed.mp before
  apply (changes.operation?_of_claimed coherent claimed).resolve_right
  rintro ⟨outcome, ended⟩
  obtain ⟨key, still⟩ := (coherent.changes changes).staged.claimed.mp later
  obtain ⟨own, resolved⟩ := Engine.outcome?_eq_some_iff.mp ended
  cases still.symm.trans resolved

end Ledger

namespace Moment

variable {moment after : Moment} {serial : Serial} {operation : Operation} {response : Response}

theorem Course.changes {rest : List Task} (course : moment.Course after)
    (coherent : (moment.within rest).ledger.Coherent) :
    (moment.within rest).ledger.Changes (after.within rest).ledger := by
  induction course with
  | refl => exact .refl
  | tail _ step ih => exact ih.trans ((step.within rest).changes (coherent.changes ih))

theorem Course.changes_alone (course : moment.Course after) (coherent : moment.ledger.Coherent) :
    moment.ledger.Changes after.ledger := by
  rw [← within_nil moment] at coherent
  have changes := Course.changes course coherent
  rwa [within_nil, within_nil] at changes

theorem changes_course {engine last : Engine} {agenda : List Task}
    (coherent : (Moment.mk engine agenda).ledger.Coherent) (caller : Caller) (call : Call)
    (course : (engine.beginAnswered caller call).Course ⟨last, []⟩) :
    Ledger.Changes (Moment.mk engine agenda).ledger (Moment.mk last agenda).ledger := by
  have begun := Engine.changes_beginAnswered agenda coherent caller call
  exact Relation.ReflTransGen.trans begun (Course.changes course (coherent.changes begun))

/-- The outcome of an operation is going to be written with a response, or has been. -/
def GetsResponse (serial : Serial) (operation : Operation) (response : Response)
    (moment : Moment) : Prop :=
  moment.engine.operation? serial = some { operation with stage := .claimed } ∧
      .publish serial response ∈ moment.agenda ∨
    moment.engine.outcome? serial = some (operation.outcomeOf response moment.engine.now)

theorem GetsResponse.proceed (gets : GetsResponse serial operation response moment)
    (step : moment.Proceeds after) (coherent : moment.ledger.Coherent) :
    GetsResponse serial operation response after := by
  have changes := step.changes coherent
  have now : after.engine.now = moment.engine.now := changes.now
  rcases gets with ⟨claimed, listed⟩ | ended
  · obtain ⟨engine, task, rest, connection, rfl, rfl⟩ := step.exists_carryOut
    rcases List.mem_cons.mp listed with rfl | later
    · right
      change Engine.outcome? (engine.publish serial response) serial = _
      rw [Engine.outcome?, Engine.operation?_publish_self]
      change engine.operation? serial = _ at claimed
      rw [claimed]
      rfl
    · -- The outcome has yet to be written, so nothing has changed about the operation.
      have still := List.mem_append_right (engine.carryOut connection task).agenda later
      refine .inl ⟨?_, still⟩
      exact (changes.operation?_of_ending coherent (Task.mem_ending_iff.mpr ⟨response, listed⟩)
        (Task.mem_ending_iff.mpr ⟨response, still⟩)).trans claimed
  · right
    rw [now]
    exact (coherent.extends changes).outcome? ended

theorem GetsResponse.course {rest : List Task}
    (gets : GetsResponse serial operation response (moment.within rest))
    (course : moment.Course after) (coherent : (moment.within rest).ledger.Coherent) :
    GetsResponse serial operation response (after.within rest) := by
  induction course with
  | refl => exact gets
  | tail earlier step ih =>
      exact ih.proceed (step.within rest) (coherent.changes (Course.changes earlier coherent))

/-- A response that an operation gets has been given once the call is over. -/
theorem GetsResponse.outcome? {last : Engine} (gets : GetsResponse serial operation response moment)
    (coherent : moment.ledger.Coherent) (course : moment.Course ⟨last, []⟩) :
    last.outcome? serial = some (operation.outcomeOf response moment.engine.now) := by
  have changes : Ledger.Changes _ _ := course.changes_alone coherent
  have now : last.now = moment.engine.now := changes.now
  rw [← within_nil moment] at gets coherent
  rcases gets.course course coherent with ⟨-, left⟩ | written
  · cases left
  · rw [← now]
    exact written

end Moment

namespace Engine

variable {engine : Engine} {ending : List Serial} {submitting : List (MessageId × Serial)}
variable {id : MessageId}

/-- A call about an identifier that is answered with yes takes out of the table what the identifier
stands for. -/
theorem taken_of_won (staged : Ledger.Staged ⟨engine, ending, submitting⟩) {call : Call}
    (target : call.target? = some id) (won : (engine.beginCall call).1 = .flag true) :
    ∃ serial, engine.pending.get? id = some serial ∧
      ∀ key, (engine.beginCall call).2.engine.pending.get? key ≠ some serial := by
  obtain ⟨reply, moment, same, begins⟩ := engine.exists_begins call
  rw [same] at won ⊢
  cases begins with
  | idle lost none =>
      cases won
      cases call with
      | deliver key response => cases lost
      | expire key reason => cases lost
      | _ => cases target
  | deliver found =>
      cases target
      exact ⟨_, (pending_of_takeOut found).1, fun key left =>
        ((staged.get?_takeOut found).mp left).2 rfl⟩
  | expire found =>
      cases target
      exact ⟨_, (pending_of_takeOut found).1, fun key left =>
        ((staged.get?_takeOut found).mp left).2 rfl⟩
  | _ => cases target

theorem reply_of_about? (staged : Ledger.Staged ⟨engine, ending, submitting⟩) {call : Call}
    (about : call.about? = some id) :
    (engine.beginCall call).1 = .flag (engine.isPending id) := by
  rw [isPending, PendingTable.contains]
  cases found : engine.pending.get? id with
  | none => cases call <;> cases about <;> simp [beginCall, takeOut, found]
  | some serial =>
      obtain ⟨claimed, -, taken⟩ := takeOut_of_present staged found
      cases call <;> cases about <;> simp [beginCall, taken, found]

theorem beginCall_of_free {call : Call} (about : call.about? = some id)
    (free : engine.pending.get? id = none) :
    engine.beginCall call = (.flag false, ⟨engine, []⟩) := by
  cases call <;> cases about <;> simp [beginCall, takeOut, free]

theorem beginRequest_of_free {callback : Callback}
    (held : engine.isHeld callback.holder = true) (about : callback.call.about? = some id)
    (free : engine.pending.get? id = none) (caller : Caller) :
    engine.beginRequest caller callback =
      (.flag false, ⟨engine, [.answer caller callback.call (.flag false)]⟩) := by
  rw [beginRequest_of_held held, beginAnswered, beginCall_of_free about free]
  rfl

theorem getsResponse_beginCall (staged : Ledger.Staged ⟨engine, ending, submitting⟩) {call : Call}
    (target : call.target? = some id) {serial : Serial}
    (present : engine.pending.get? id = some serial) :
    ∃ operation response, engine.operation? serial = some operation ∧
      call.response? engine operation = some response ∧
      Moment.GetsResponse serial operation response (engine.beginCall call).2 := by
  obtain ⟨claimed, -, found⟩ := takeOut_of_present staged present
  generalize claimed.withdraw id serial = taken at found
  obtain ⟨operation, stands, -, marked⟩ := operation?_takeOut_self found
  cases call with
  | deliver key response =>
      cases target
      refine ⟨operation, response, stands, rfl, .inr ?_⟩
      rw [beginCall, found]
      dsimp only
      rw [outcome?, operation?_publish_self, marked]
      rfl
  | expire key reason =>
      cases target
      refine ⟨operation, _, stands, rfl, .inl ?_⟩
      rw [beginCall, found]
      refine ⟨marked, ?_⟩
      have now : taken.now = engine.now := by rw [frame_takeOut found]
      have options : taken.options = engine.options := by rw [frame_takeOut found]
      dsimp only
      rw [beginExpiry, marked, now, options]
      exact List.mem_cons_of_mem _ (List.mem_append_right _ List.mem_cons_self)
  | _ => cases target

end Engine

end DirectoryClient
