import DirectoryClient.Proofs.Engine.Waiting
import DirectoryClient.Proofs.Session.Resolution

namespace DirectoryClient

/-- No operation that was returned is left behind without an outcome. -/
theorem never_stranded {moment : Moment} (reachable : moment.Reachable) :
    (∀ timer ∈ moment.engine.timers, ∃ operation,
      moment.engine.operation? timer.operation = some operation ∧
        operation.messageId = timer.messageId ∧ operation.outcome? = none ∧
          (operation.stage = .pending ∧
              moment.engine.pending.get? operation.messageId = some timer.operation ∨
            moment.Expiring timer.operation)) ∧
    (true ∉ moment.engine.holders → moment.engine.timers = [] → moment.isFiring = false →
      ∀ serial ∈ moment.engine.submitted, (moment.engine.outcome? serial).isSome) ∧
    (∀ engine : Engine,
      (∀ serial outcome, engine.outcome? serial = none →
        engine.release.outcome? serial = some outcome → outcome.response = .released) ∧
      ∃ events, engine.release.trace = engine.trace ++ events ∧
        ∀ event ∈ events, event.tellsConnection = false) ∧
    (true ∉ moment.engine.holders → ∀ serial ∈ moment.engine.submitted,
      moment.engine.outcome? serial = none → ¬moment.Expiring serial →
        (∀ timer ∈ moment.engine.timers, timer.operation ≠ serial) →
          ∀ after, moment.Reaches after → after.engine.timers ≠ [] →
            after.engine.outcome? serial = none) ∧
    ∀ options ids steps,
      let session := ((Session.start options ids).run steps).2
      true ∉ session.engine.holders → session.engine.timers = [] →
        ∀ handle < session.handles.length, ∃ outcome,
          (session.perform (.poll handle)).1 = .outcome outcome := by
  refine ⟨fun timer => reachable.timed, ?_, ?_, ?_, ?_⟩
  · intro unheld unarmed idle serial
    exact reachable.resolved_of_unheld unheld unarmed idle
  · exact fun engine => ⟨fun serial outcome => Engine.response_of_release, engine.trace_release⟩
  · intro unheld serial returned unresolved idle untimed after later
    exact reachable.unresolved_of_armed unheld returned unresolved idle untimed later
  · intro options ids steps session unheld unarmed handle inside
    have sound := (Session.leads_run_start options ids steps).sound
    have returned := sound.handles.mp (List.getElem_mem inside)
    obtain ⟨outcome, ended⟩ := Option.isSome_iff_exists.mp
      ((Session.reachable_run options ids steps).resolved_of_unheld unheld unarmed rfl returned)
    exact ⟨outcome, Session.poll_eq_outcome_iff.mpr ⟨_, List.getElem?_eq_getElem inside, ended⟩⟩

/-- Of three operations the second and the third have a timer, and the only reference is given
up. -/
def Session.abandoned : Session :=
  ((Session.start {} (.startingAt 1)).run
    [.submit 0 .search [] none, .submit 0 .add [] (some (.ofSeconds 1 0)),
      .submit 0 .delete [] (some (.ofSeconds 3 0)), .dropEngine 0]).2

theorem never_stranded_abandoned :
    let first := (Session.abandoned.run [.sleep (.ofSeconds 2 0)]).2
    let second := (first.run [.sleep (.ofSeconds 2 0)]).2
    first.engine.outcome? 0 = none ∧
      ∀ serial ∈ [0, 1, 2], (second.engine.outcome? serial).isSome := by
  intro first second
  have sound : Session.abandoned.Sound := (Session.leads_run_start _ _ _).sound
  have start : Moment.Reachable ⟨Session.abandoned.engine, []⟩ := Session.reachable_run _ _ _
  have one : Session.abandoned.Leads first := sound.leads_run _
  have two : first.Leads second := one.sound.leads_run _
  obtain ⟨-, -, -, waits, -⟩ := never_stranded start
  obtain ⟨-, ended, -, -, -⟩ := never_stranded ((start.reaches one.reaches).reaches two.reaches)
  constructor
  · refine waits ?_ 0 ?_ ?_ ?_ ?_ _ one.reaches ?_
    · decide +kernel
    · decide +kernel
    · decide +kernel
    · exact fun expiring => absurd expiring.1.choose_spec List.not_mem_nil
    · decide +kernel
    · decide +kernel
  · have returned : second.engine.submitted = [0, 1, 2] := by decide +kernel
    rw [← returned]
    exact ended (by decide +kernel) (by decide +kernel) rfl

end DirectoryClient
