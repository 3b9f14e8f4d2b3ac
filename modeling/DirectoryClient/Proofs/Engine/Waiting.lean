import DirectoryClient.Proofs.Engine.Lifetime
import DirectoryClient.Proofs.Engine.Pending

namespace DirectoryClient

namespace Task

theorem ending_of_isAnswer {tasks : List Task} (answers : ∀ task ∈ tasks, task.isAnswer = true) :
    ending tasks = [] := by
  rw [ending, List.filterMap_eq_nil_iff]
  intro task member
  have answer := answers task member
  cases task with
  | answer caller call reply => rfl
  | _ => cases answer

end Task

namespace Moment

variable {moment after : Moment} {serial : Serial}

theorem Reachable.timed (reachable : moment.Reachable) {timer : Timer}
    (armed : timer ∈ moment.engine.timers) :
    ∃ operation, moment.engine.operation? timer.operation = some operation ∧
      operation.messageId = timer.messageId ∧ operation.outcome? = none ∧
        (operation.stage = .pending ∧
            moment.engine.pending.get? operation.messageId = some timer.operation ∨
          moment.Expiring timer.operation) := by
  obtain ⟨returned, own, place⟩ := reachable.coherent.timed timer armed
  obtain ⟨operation, found, inTable, beingEnded⟩ :=
    reachable.coherent.place (List.mem_append_left _ returned)
  rw [Engine.messageId?, found, Option.map_some, Option.some.injEq] at own
  refine ⟨operation, found, own, ?_, ?_⟩
  · rcases place with present | member
    · rw [Operation.outcome?, inTable.mp (own ▸ present)]
    · rw [Operation.outcome?, beingEnded.mp member]
  · refine place.imp (fun present => ?_) reachable.expiring_iff.mpr
    rw [← own] at present
    exact ⟨inTable.mp present, present⟩

theorem Reachable.resolved_of_unheld (reachable : moment.Reachable)
    (unheld : true ∉ moment.engine.holders) (unarmed : moment.engine.timers = [])
    (idle : moment.isFiring = false) (returned : serial ∈ moment.engine.submitted) :
    (moment.engine.outcome? serial).isSome := by
  obtain ⟨-, firing | ⟨settled, answers⟩⟩ := reachable.kept.keeper.resolve_left unheld
  · cases firing.symm.trans idle
  have empty : moment.engine.pending.entries = [] :=
    List.eq_nil_of_length_eq_zero (settled (Engine.isUnreachable_iff.mpr ⟨unheld, unarmed⟩))
  obtain ⟨operation, found, inTable, beingEnded⟩ :=
    reachable.coherent.place (List.mem_append_left _ returned)
  have ending : moment.ledger.ending = [] := Task.ending_of_isAnswer answers
  rw [PendingTable.get?_eq_some_iff] at inTable
  change (_, _) ∈ moment.engine.pending.entries ↔ _ at inTable
  rw [empty] at inTable
  rw [ending] at beingEnded
  change moment.engine.operation? serial = some operation at found
  rw [Engine.outcome?, found, Option.bind_some, Operation.outcome?]
  cases stage : operation.stage with
  | pending => cases inTable.mpr stage
  | claimed => cases beingEnded.mpr stage
  | resolved outcome => rfl

/-- Nobody holds the engine, and an operation without a timer waits as long as a timer is armed. -/
structure Waits (serial : Serial) (moment : Moment) : Prop where
  unheld : true ∉ moment.engine.holders
  alone : Task.submitting moment.agenda = []
  waits : moment.engine.timers = [] ∨
    (∃ id, moment.engine.pending.get? id = some serial) ∧
      ∀ timer ∈ moment.engine.timers, timer.operation ≠ serial

theorem Waits.log {engine : Engine} {tasks later : List Task} (waits : Waits serial ⟨engine, tasks⟩)
    (event : Event) (alone : Task.submitting later = []) : Waits serial ⟨engine.log event, later⟩ :=
  ⟨waits.unheld, alone, waits.waits⟩

theorem Proceeds.waits (step : moment.Proceeds after) (waits : Waits serial moment) :
    Waits serial after := by
  obtain ⟨engine, task, rest, connection, rfl, rfl⟩ := step.exists_carryOut
  have alone := waits.alone
  rw [← List.singleton_append, Task.submitting_append, List.append_eq_nil_iff] at alone
  obtain ⟨own, others⟩ := alone
  have later : Task.submitting
      ((engine.carryOut connection task).agenda ++ rest) = [] := by
    rw [Task.submitting_append, engine.submitting_carryOut, others]
    rfl
  cases task with
  | callback site id callback =>
      rw [carryOut_callback, engine.beginRequest_of_unheld waits.unheld]
      exact ⟨waits.unheld, others, waits.waits⟩
  | deregister serial id => exact waits.log _ later
  | abandon serial id => exact waits.log _ later
  | comeBack site id succeeded => exact waits.log _ later
  | answer caller call reply => exact waits.log _ later
  | publish other response =>
      refine ⟨waits.unheld, later, waits.waits.imp (fun unarmed => ?_) fun ⟨present, untimed⟩ =>
        ⟨present, fun timer armed => ?_⟩⟩
      · exact List.eq_nil_iff_forall_not_mem.mpr fun timer armed =>
          absurd (unarmed ▸ ((Engine.mem_timers_publish response).mp armed).1) List.not_mem_nil
      · exact untimed timer ((Engine.mem_timers_publish response).mp armed).1
  | accept id serial deadline => cases own
  | refuse id serial reason => cases own

theorem Waits.release {engine : Engine} (waits : Waits serial ⟨engine, []⟩)
    (coherent : Ledger.Coherent ⟨engine, [], []⟩) : Waits serial ⟨engine.release, []⟩ := by
  by_cases unarmed : engine.timers = []
  · have holders : engine.release.holders = engine.holders :=
      (Engine.changes_release coherent).holders
    refine ⟨holders ▸ waits.unheld, rfl, .inl ?_⟩
    exact List.eq_nil_iff_forall_not_mem.mpr fun timer armed =>
      absurd (unarmed ▸ Engine.mem_timers_release armed) List.not_mem_nil
  · obtain ⟨timer, armed⟩ := List.exists_mem_of_ne_nil _ unarmed
    rw [Engine.release_of_mem_timers armed]
    exact waits

theorem Waits.settle (waits : Waits serial moment) (coherent : moment.ledger.Coherent) :
    Waits serial moment.settle := by
  rw [Moment.settle]
  split
  · next finished =>
      obtain ⟨engine, agenda⟩ := moment
      cases finished
      exact waits.release coherent
  · exact waits

theorem Waits.beginFiring {engine : Engine} {timer : Timer} (waits : Waits serial ⟨engine, []⟩)
    (coherent : Ledger.Coherent ⟨engine, [], []⟩) (armed : timer ∈ engine.timers) :
    Waits serial (engine.beginFiring timer).2 := by
  obtain ⟨-, -, place⟩ := coherent.timed timer armed
  have own : engine.pending.get? timer.messageId = some timer.operation :=
    place.resolve_right List.not_mem_nil
  obtain ⟨⟨id, present⟩, untimed⟩ :=
    waits.waits.resolve_left (List.ne_nil_of_mem armed)
  have disarmed := coherent.turn (.disarm timer)
  simp only [Engine.beginFiring]
  refine ⟨?_, ?_, .inr ?_⟩
  · have holders := (Engine.changes_beginCall disarmed (.expire timer.messageId .timeout)).holders
    exact fun held => waits.unheld (holders.subst held)
  · rw [Task.submitting_append, Engine.submitting_beginCall]
    rfl
  · obtain ⟨reply, moment, same, begins⟩ := Engine.exists_begins
      { engine with timers := engine.timers.erase timer } (.expire timer.messageId .timeout)
    rw [same]
    cases begins with
    | idle lost none =>
        exact ⟨⟨id, present⟩, fun other left => untimed other (List.mem_of_mem_erase left)⟩
    | @expire _ _ other taken found =>
        have same : some other = some timer.operation :=
          (Engine.pending_of_takeOut found).1.symm.trans own
        cases same
        refine ⟨⟨id, (disarmed.staged.get?_takeOut found).mpr
          ⟨present, (untimed timer armed).symm⟩⟩, fun other left => ?_⟩
        have timers : taken.timers = engine.timers.erase timer := Engine.timers_takeOut found
        have earlier : other ∈ engine.timers.erase timer := timers ▸ left
        exact untimed other (List.mem_of_mem_erase earlier)

theorem Moves.waits (move : moment.Moves after) (coherent : moment.ledger.Coherent)
    (waits : Waits serial moment) : Waits serial after := by
  cases move with
  | proceed step => exact (step.waits waits).settle (coherent.changes (step.changes coherent))
  | submit held => exact absurd (Engine.true_mem_holders held) waits.unheld
  | request engine callback outside =>
      rw [engine.beginRequest_of_unheld waits.unheld]
      exact ⟨waits.unheld, rfl, waits.waits⟩
  | fire armed due => exact waits.beginFiring coherent armed
  | clone held => exact absurd (Engine.true_mem_holders held) waits.unheld
  | drop held => exact absurd (Engine.true_mem_holders held) waits.unheld
  | recordEntry engine other => exact ⟨waits.unheld, rfl, waits.waits⟩
  | recordReference engine other => exact ⟨waits.unheld, rfl, waits.waits⟩
  | pass later => exact ⟨waits.unheld, waits.alone, waits.waits⟩
  | renumber engine ids => exact ⟨waits.unheld, rfl, waits.waits⟩

theorem Reaches.waits (later : moment.Reaches after) (coherent : moment.ledger.Coherent)
    (waits : Waits serial moment) : Waits serial after := by
  induction later with
  | refl => exact waits
  | tail earlier move ih => exact move.waits (Reaches.coherent earlier coherent) ih

/-- Without a reference, an operation that nobody ends and that has no timer waits with the
engine. -/
theorem Reachable.unresolved_of_armed (reachable : moment.Reachable)
    (unheld : true ∉ moment.engine.holders) (returned : serial ∈ moment.engine.submitted)
    (unresolved : moment.engine.outcome? serial = none) (idle : ¬moment.Expiring serial)
    (untimed : ∀ timer ∈ moment.engine.timers, timer.operation ≠ serial)
    (later : moment.Reaches after) (armed : after.engine.timers ≠ []) :
    after.engine.outcome? serial = none := by
  obtain ⟨operation, found, missing⟩ := reachable.missing_iff (.inl returned)
  rw [Engine.outcome?, found, Option.bind_some] at unresolved
  have present : moment.engine.pending.get? operation.messageId = some serial :=
    Decidable.not_not.mp fun absent => idle (missing.mp ⟨absent, unresolved⟩)
  have waits : Waits serial moment :=
    ⟨unheld, (reachable.kept.keeper.resolve_left unheld).1, .inr ⟨⟨_, present⟩, untimed⟩⟩
  obtain ⟨⟨id, still⟩, -⟩ :=
    (Reaches.waits later reachable.coherent waits).waits.resolve_left armed
  obtain ⟨last, stands, -, -, none⟩ := (reachable.reaches later).entry still
  rw [Engine.outcome?, stands, Option.bind_some, none]

end Moment

end DirectoryClient
