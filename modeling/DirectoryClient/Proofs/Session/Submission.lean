import DirectoryClient.Proofs.Engine.Lifetime
import DirectoryClient.Proofs.Engine.Transmission
import DirectoryClient.Proofs.Session.Run

namespace DirectoryClient

namespace Moment

variable {moment after : Moment}

/-- While somebody holds the engine, a call is followed task by task without an end of the
engine. -/
theorem Course.reaches (course : moment.Course after) (held : true ∈ moment.engine.holders)
    (coherent : moment.ledger.Coherent) : moment.Reaches after := by
  induction course with
  | refl => exact .refl
  | @tail middle last earlier step ih =>
      have changes : Ledger.Changes _ _ := Course.changes_alone (earlier.tail step) coherent
      have settled : last.engine.Settled :=
        Engine.settled_of_held (changes.holders.symm ▸ held)
      have move := Moves.proceed step
      rw [settle_of_settled settled] at move
      exact .tail ih move

end Moment

namespace Engine

variable {engine : Engine} {holder : Holder}

theorem settled_submit (reachable : Moment.Reachable ⟨engine, []⟩)
    (held : engine.isHeld holder = true) (connection : Connection) (kind : OperationKind)
    (request : List UInt8) (timeout : Option Duration) :
    (engine.submit connection kind request timeout).2.Settled := by
  have changes : Ledger.Changes _ _ :=
    (engine.course_submit connection kind request timeout).changes_alone
      (reachable.beginSubmit held rfl).coherent
  have holders := changes.holders.trans
    (engine.holders_beginSubmit connection kind request timeout)
  exact settled_of_held (holders.symm ▸ true_mem_holders held)

end Engine

namespace Session

variable {session : Session} {holder : Holder} {kind : OperationKind} {request : List UInt8}
variable {timeout : Option Duration} {reason : SubmitError} {serial : Serial} {engine : Engine}

theorem perform_submit_of_error (reachable : Moment.Reachable ⟨session.engine, []⟩)
    (held : session.engine.isHeld holder = true)
    (refused : session.engine.submit session.connection kind request timeout =
      (.error reason, engine)) :
    session.perform (.submit holder kind request timeout) =
      (.refused reason, { session with engine }) := by
  have settled := Engine.settled_submit reachable held session.connection kind request timeout
  rw [refused] at settled
  simp only [perform, take, withEngine, held, if_true, submit, refused, settle,
    Engine.release_of_settled settled]

theorem perform_submit_of_ok (reachable : Moment.Reachable ⟨session.engine, []⟩)
    (held : session.engine.isHeld holder = true)
    (returned : session.engine.submit session.connection kind request timeout =
      (.ok serial, engine)) :
    session.perform (.submit holder kind request timeout) =
      (.submitted session.handles.length ((engine.messageId? serial).getD ⟨0⟩),
        { session with engine, handles := session.handles ++ [serial] }) := by
  have settled := Engine.settled_submit reachable held session.connection kind request timeout
  rw [returned] at settled
  simp only [perform, take, withEngine, held, if_true, submit, returned, settle, addHandle,
    Engine.release_of_settled settled]
  rfl

/-- Once a request has an identifier, only the connection can refuse it. -/
theorem perform_submit_of_registered (reachable : Moment.Reachable ⟨session.engine, []⟩)
    (held : session.engine.isHeld holder = true) {id : MessageId} {registered : Engine}
    (found : session.engine.register kind (max session.engine.options.maxMessageIdProbes 1) =
      (some id, registered)) :
    let final := (session.engine.submit session.connection kind request timeout).2
    session.perform (.submit holder kind request timeout) =
      match (session.connection.transmit id).failure with
      | some reason => (.refused (.transport reason), { session with engine := final })
      | none => (.submitted session.handles.length id, { session with
          engine := final
          handles := session.handles ++ [session.engine.operations.length] }) := by
  intro final
  have answered : session.engine.submit session.connection kind request timeout =
      ((Engine.conclusion id session.engine.operations.length
        (Engine.timerDeadline session.engine.now timeout)
          (session.connection.transmit id).failure).1, final) :=
    Prod.ext (Engine.fst_submit_of_registered found) rfl
  cases failed : (session.connection.transmit id).failure with
  | some reason =>
      rw [failed] at answered
      exact perform_submit_of_error reachable held answered
  | none =>
      rw [failed] at answered
      obtain ⟨started, same, course⟩ := Engine.begun_of_submit answered
      have coherent := (reachable.beginSubmit held same).coherent
      have own : started.engine.messageId? session.engine.operations.length = some id := by
        have begun : started.engine = registered.log (.transmitted id request) := by
          rw [← Engine.engine_beginSubmit_of_registered found, same]
        rw [begun, Engine.messageId?, Engine.operation?_log, Engine.operation?_register found,
          if_pos rfl]
        rfl
      have kept : final.messageId? _ = some id :=
        (coherent.extends (course.changes_alone coherent)).messageId? own
      rw [perform_submit_of_ok reachable held answered, kept]
      rfl

end Session

end DirectoryClient
