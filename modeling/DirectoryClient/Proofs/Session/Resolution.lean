import DirectoryClient.Proofs.Engine.Resolution
import DirectoryClient.Proofs.Session.Run

namespace DirectoryClient

namespace Session

variable {session after : Session} {handle : Handle} {serial : Serial} {outcome : Outcome}

theorem poll_eq_outcome_iff : (session.perform (.poll handle)).1 = .outcome outcome ↔
    ∃ serial, session.handles[handle]? = some serial ∧
      session.engine.outcome? serial = some outcome := by
  change (session.withHandle handle _).1 = _ ↔ _
  rw [withHandle]
  split
  · next serial found =>
      simp only [found, Option.some.injEq, exists_eq_left']
      change _ ↔ session.outcome? serial = some outcome
      split
      · next reported known => simp [known]
      · next unknown => simp [unknown]
  · next missing => simp [missing]

theorem await_of_outcome (ended : session.engine.outcome? serial = some outcome)
    (limit : Option Duration) : session.await serial limit = (some (.ok outcome), session) := by
  have known : session.outcome? serial = some outcome := ended
  rw [Session.outcome?, Option.bind_eq_some_iff] at known
  obtain ⟨operation, found, reported⟩ := known
  have isOver : session.isOver serial = true := by
    rw [Session.isOver, found]
    simp [Operation.isResolved, reported]
  have passed : ∀ dues, session.pass (·.isOver serial) dues = session := by
    intro dues
    cases dues with
    | nil => rfl
    | cons due rest => rw [pass, if_pos isOver]
  simp only [await, passed, found, reported]

theorem perform_await_of_outcome (found : session.handles[handle]? = some serial)
    (ended : session.engine.outcome? serial = some outcome) (limit : Option Duration) :
    (session.perform (.await handle limit)).1 = .outcome outcome := by
  change (session.withHandle handle _).1 = _
  rw [withHandle, found]
  simp only [await_of_outcome ended]

end Session

/-- Whatever ends an operation ends it once and for all. -/
theorem resolved_once {moment : Moment} (reachable : moment.Reachable) :
    (∀ serial, moment.engine.trace.count (.published serial) =
      (moment.engine.outcome? serial).isSome.toNat) ∧
    (∀ after, moment.Reaches after → ∀ serial outcome,
      moment.engine.outcome? serial = some outcome →
        after.engine.outcome? serial = some outcome) ∧
    (moment.agenda = [] → moment.engine.resolvedCount =
      moment.engine.trace.countP Event.isWonCall + moment.engine.trace.countP Event.isWonFiring +
        (moment.engine.trace.map Event.failedCount).sum +
          (moment.engine.trace.map Event.releasedCount).sum) ∧
    ∀ options ids steps more handle other outcome,
      let session := ((Session.start options ids).run steps).2
      let later := (session.run more).2
      (session.perform (.poll handle)).1 = .outcome outcome →
        later.handles[other]? = session.handles[handle]? →
          (later.perform (.poll other)).1 = .outcome outcome ∧
            ∀ limit, (later.perform (.await other limit)).1 = .outcome outcome := by
  refine ⟨reachable.count_published, fun after later serial outcome =>
    reachable.outcome?_of_reaches later, reachable.resolvedCount_eq, ?_⟩
  intro options ids steps more handle other outcome session later reported same
  obtain ⟨serial, found, ended⟩ := Session.poll_eq_outcome_iff.mp reported
  have sound := (Session.leads_run_start options ids steps).sound
  have stays : later.engine.outcome? serial = some outcome :=
    (Session.reachable_run options ids steps).outcome?_of_reaches
      (sound.leads_run more).reaches ended
  have present : later.handles[other]? = some serial := same.trans found
  exact ⟨Session.poll_eq_outcome_iff.mpr ⟨serial, present, stays⟩,
    Session.perform_await_of_outcome present stays⟩

/-- A connection that ends everything else while it is told to forget a request. -/
def Connection.failing : Connection :=
  { deregister := fun id =>
      { callbacks := [⟨0, .deliver id .success⟩, ⟨0, .failAll .unavailable "gone"⟩] } }

/-- A response comes for the first of four operations, the timer of the second ends the other two
from inside, and a fifth is left when the engine goes. -/
def Session.everyWayOut : Session :=
  ((Session.start {} (.startingAt 1)).run
    [.reconnect .failing, .submit 0 .search [] none, .request ⟨0, .entryReturned ⟨1⟩⟩,
      .request ⟨0, .deliver ⟨1⟩ .success⟩, .submit 0 .add [] (some (.ofSeconds 1 0)),
      .submit 0 .search [] none, .submit 0 .delete [] none, .sleep (.ofSeconds 2 0),
      .submit 0 .compare [] none, .cloneHandle 4, .dropEngine 0]).2

theorem resolved_once_everyWayOut :
    Moment.Reachable ⟨Session.everyWayOut.engine, []⟩ ∧
      Session.everyWayOut.engine.resolvedCount = 1 + 1 + 2 + 1 ∧
      Session.everyWayOut.engine.trace.count (.published 1) = 1 := by
  have reachable : Moment.Reachable ⟨Session.everyWayOut.engine, []⟩ :=
    Session.reachable_run _ _ _
  obtain ⟨once, -, count, -⟩ := resolved_once reachable
  refine ⟨reachable, (count rfl).trans ?_, (once 1).trans ?_⟩
  · decide +kernel
  · decide +kernel

end DirectoryClient
