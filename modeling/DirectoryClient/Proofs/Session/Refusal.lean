import DirectoryClient.Proofs.Engine.Refusal
import DirectoryClient.Proofs.Session.Submission

namespace DirectoryClient

namespace Session

variable {session : Session} {holder : Holder} {kind : OperationKind} {request : List UInt8}
variable {timeout : Option Duration} {reason : SubmitError}

/-- Whoever is refused holds the engine, which has refused the request. -/
theorem exists_submit_of_refused (reachable : Moment.Reachable ⟨session.engine, []⟩)
    (refused : (session.perform (.submit holder kind request timeout)).1 = .refused reason) :
    session.engine.isHeld holder = true ∧ ∃ engine,
      session.engine.submit session.connection kind request timeout = (.error reason, engine) ∧
      (session.perform (.submit holder kind request timeout)).2 = { session with engine } := by
  cases held : session.engine.isHeld holder with
  | false => simp [perform, take, withEngine, held] at refused
  | true =>
      refine ⟨rfl, ?_⟩
      cases answered : session.engine.submit session.connection kind request timeout with
      | mk answer engine =>
          cases answer with
          | ok serial =>
              rw [perform_submit_of_ok reachable held answered] at refused
              cases refused
          | error other =>
              rw [perform_submit_of_error reachable held answered] at refused ⊢
              cases refused
              exact ⟨engine, rfl, rfl⟩

end Session

/-- A submission that fails leaves nothing of its operation behind and takes nothing else away. -/
theorem refused_leaves_nothing {session : Session}
    (reachable : Moment.Reachable ⟨session.engine, []⟩) {holder : Holder} {kind : OperationKind}
    {request : List UInt8} {timeout : Option Duration} {reason : SubmitError}
    (refused : (session.perform (.submit holder kind request timeout)).1 = .refused reason) :
    let engine := session.engine
    let started := (engine.beginSubmit session.connection kind request timeout).2
    let after := (session.perform (.submit holder kind request timeout)).2
    (after = { session with engine := after.engine } ∧ started.Course ⟨after.engine, []⟩) ∧
    ∀ last, started.Course ⟨last, []⟩ → engine.TakesBack last ∧
      (∀ probes, reason = .messageIdsExhausted probes →
        last = { engine with
          ids := last.ids
          trace := engine.trace ++ [.refused reason] } ∧
        last.transmissions = engine.transmissions) ∧
      ∀ failure, reason = .transport failure → ∃ id,
        started.engine.pending.get? id = some engine.operations.length ∧
        (session.connection.transmit id).failure = some failure ∧
        last.transmissions = engine.transmissions ++ [(id, request)] ∧
        ((session.connection.transmit id).callbacks = [] → last = { engine with
          ids := last.ids
          operations := engine.operations ++
            [{ messageId := id, kind, submittedAt := engine.now }]
          trace := engine.trace ++ [.transmitted id request, .returned .transmit id false,
            .refused reason] }) := by
  intro engine started after
  obtain ⟨held, final, answered, moved⟩ := Session.exists_submit_of_refused reachable refused
  obtain ⟨begins, begun, course⟩ := Engine.begun_of_submit answered
  have same : started = begins := congrArg Prod.snd begun
  clear_value started
  subst same
  refine ⟨?_, fun last course => ⟨Engine.takesBack_of_course reachable held begun course, ?_⟩⟩
  · have moved : after = { session with engine := final } := moved
    rw [moved]
    exact ⟨rfl, course⟩
  · rcases Engine.beginSubmit_eq_error begun with
      ⟨ids, -, rfl, rfl⟩ | ⟨id, registered, failure, found, failed, rfl, rfl⟩
    · cases course.eq_of_nil
      exact ⟨fun probes _ => ⟨rfl, List.filterMap_append.trans (List.append_nil _)⟩, nofun⟩
    · refine ⟨nofun, fun other same => ?_⟩
      cases same
      refine ⟨id, (Engine.get?_register found).mpr (.inr ⟨rfl, rfl⟩), failed, ?_, fun silent => ?_⟩
      · have transmissions := course.transmissions
        rw [Engine.transmissions_log, Engine.transmissions, Engine.transmissions,
          Engine.frame_register found] at transmissions
        exact transmissions
      · have whole := Engine.eq_of_failed_silently found silent failed course
        rw [whole]

/-- A connection that breaks on the fourth request, and ends this one and two others while it
does. -/
def Connection.breaking : Connection :=
  { transmit := fun id =>
      if id = ⟨4⟩ then
        { callbacks := [⟨0, .deliver ⟨1⟩ .success⟩, ⟨0, .expire ⟨4⟩ .canceled⟩,
            ⟨0, .expire ⟨2⟩ .canceled⟩]
          failure := some .closed }
      else {} }

/-- Three operations are pending, and two of them have a timer. -/
def Session.breaking : Session :=
  ((Session.start {} (.startingAt 1)).run
    [.reconnect .breaking, .submit 0 .search [] none, .submit 0 .add [] (some (.ofSeconds 5 0)),
      .submit 0 .compare [] (some (.ofSeconds 9 0))]).2

theorem refused_leaves_nothing_breaking :
    let engine := Session.breaking.engine
    let after :=
      (Session.breaking.perform (.submit 0 .delete [7] (some (.ofSeconds 5 0)))).2.engine
    (after.pending.get? ⟨1⟩ = none ∧ after.pending.get? ⟨2⟩ = none ∧
      after.pending.get? ⟨3⟩ ≠ none ∧ ∀ id, after.pending.get? id ≠ some 3) ∧
    (∃ events, after.trace = engine.trace ++ events ∧ Event.Asks ⟨1⟩ events ∧
      Event.Asks ⟨2⟩ events) ∧
    ∃ id, after.transmissions = engine.transmissions ++ [(id, [7])] := by
  intro engine after
  have reachable : Moment.Reachable ⟨engine, []⟩ := Session.reachable_run _ _ _
  have refused : (Session.breaking.perform (.submit 0 .delete [7] (some (.ofSeconds 5 0)))).1 =
      .refused (.transport .closed) := by
    decide +kernel
  have present : engine.pending.get? ⟨1⟩ = some 0 ∧ engine.pending.get? ⟨2⟩ = some 1 ∧
      engine.pending.get? ⟨3⟩ = some 2 ∧ engine.operations.length = 3 := by
    decide +kernel
  have ended : (after.outcome? 0).isSome ∧ (after.outcome? 1).isSome ∧
      ¬(after.outcome? 2).isSome := by
    decide +kernel
  obtain ⟨⟨-, course⟩, failed⟩ := refused_leaves_nothing reachable refused
  obtain ⟨takesBack, -, given⟩ := failed _ course
  obtain ⟨id, -, -, transmissions, -⟩ := given _ rfl
  obtain ⟨events, trace, asked⟩ := takesBack.asked
  have absent := takesBack.absent
  rw [show Session.breaking.engine.operations.length = 3 from present.2.2.2] at absent
  refine ⟨⟨?_, ?_, ?_, absent⟩, ⟨events, trace, ?_, ?_⟩, id, transmissions⟩
  · exact (takesBack.missing _ _ present.1).mpr ended.1
  · exact (takesBack.missing _ _ present.2.1).mpr ended.2.1
  · exact fun gone => ended.2.2 ((takesBack.missing _ _ present.2.2.1).mp gone)
  · exact asked _ _ present.1 ended.1
  · exact asked _ _ present.2.1 ended.2.1

end DirectoryClient
