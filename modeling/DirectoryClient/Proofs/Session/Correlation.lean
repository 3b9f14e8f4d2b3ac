import DirectoryClient.Proofs.Engine.Correlation
import DirectoryClient.Proofs.Session.Run

namespace DirectoryClient

/-- Whoever ends an operation by its identifier ends the one that was last registered under it. -/
theorem resolves_last_registered {engine : Engine} {agenda : List Task}
    (reachable : Moment.Reachable ⟨engine, agenda⟩) :
    (∀ caller callback id, callback.call.target? = some id →
      (engine.beginRequest caller callback).1 = .flag true →
        ∃ serial operation, engine.StandsFor id serial operation ∧
          ∀ after, (engine.beginRequest caller callback).2.Course ⟨after, []⟩ →
            engine.Resolves callback.call serial operation after) ∧
    (agenda = [] → ∀ timer ∈ engine.timers, ∃ operation,
      engine.StandsFor timer.messageId timer.operation operation ∧
        ∀ after, (engine.beginFiring timer).2.Course ⟨after, []⟩ →
          engine.Resolves (.expire timer.messageId .timeout) timer.operation operation after) ∧
    (∀ connection caller callback, (engine.beginRequest caller callback).2.Course
      ⟨(engine.request connection caller callback).2, []⟩) ∧
    ∀ connection, ∀ timer ∈ engine.timers,
      (engine.beginFiring timer).2.Course ⟨engine.fire connection timer, []⟩ := by
  refine ⟨fun caller callback id => reachable.resolves_beginRequest, ?_, ?_, ?_⟩
  · rintro rfl timer armed
    exact reachable.resolves_beginFiring armed
  · exact fun connection caller callback => Moment.exists_course connection _
  · intro connection timer armed
    rw [Engine.fire, if_pos armed]
    exact Moment.exists_course connection _

/-- The first and the second operation have had the same identifier, and the second has a timer. -/
def Session.reused : Session :=
  ((Session.start {} (.startingAt 1)).run
    [.submit 0 .search [] (some (.ofSeconds 1 0)), .request ⟨0, .entryReturned ⟨1⟩⟩,
      .request ⟨0, .deliver ⟨1⟩ .success⟩, .renumber ⟨1⟩,
      .submit 0 .compare [] (some (.ofSeconds 5 0)), .submit 0 .add [] none]).2

theorem resolves_last_registered_reused :
    let engine := Session.reused.engine
    let canceled := (engine.request {} .client ⟨0, .expire ⟨1⟩ .canceled⟩).2
    let fired := engine.fire {} ⟨1, ⟨1⟩, .ofSeconds 5 0⟩
    canceled.operation? 0 = engine.operation? 0 ∧
      (∃ outcome, canceled.outcome? 1 = some outcome ∧ outcome.kind = .compare) ∧
        ∃ outcome, fired.outcome? 1 = some outcome ∧ outcome.messageId = ⟨1⟩ := by
  intro engine canceled fired
  have reachable : Moment.Reachable ⟨engine, []⟩ := Session.reachable_run _ _ _
  have second : engine.operation? 1 = some
      { messageId := ⟨1⟩, kind := .compare, submittedAt := .zero } := by
    decide +kernel
  have used : ∀ serial < 2, engine.messageId? serial = some ⟨1⟩ := by decide +kernel
  have armed : (⟨1, ⟨1⟩, .ofSeconds 5 0⟩ : Timer) ∈ engine.timers := by decide +kernel
  obtain ⟨calls, timers, ends, fires⟩ := resolves_last_registered reachable
  obtain ⟨serial, operation, stands, resolves⟩ :=
    calls .client ⟨0, .expire ⟨1⟩ .canceled⟩ ⟨1⟩ rfl (by decide +kernel)
  obtain ⟨own, standsOwn, resolvesOwn⟩ := timers rfl _ armed
  have key : engine.messageId? serial = some ⟨1⟩ := by
    rw [Engine.messageId?, stands.found, Option.map_some, stands.messageId]
  cases Nat.le_antisymm (standsOwn.last serial key) (stands.last 1 (used 1 (by decide)))
  cases second.symm.trans stands.found
  cases second.symm.trans standsOwn.found
  have cancels := resolves _ (ends {} _ _)
  have expires := resolvesOwn _ (fires {} _ armed)
  obtain ⟨outcome, ended, -, kind, -⟩ := cancels.outcome
  obtain ⟨other, timedOut, id, -, -⟩ := expires.outcome
  exact ⟨cancels.earlier 0 (by decide) (used 0 (by decide)), ⟨outcome, ended, kind⟩,
    ⟨other, timedOut, id⟩⟩

end DirectoryClient
