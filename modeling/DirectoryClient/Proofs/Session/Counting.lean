import DirectoryClient.Proofs.Engine.Counter
import DirectoryClient.Proofs.Engine.History
import DirectoryClient.Proofs.Session.Run

namespace DirectoryClient

namespace Moment

/-- A call tells the engine that something has come in for an identifier, while the identifier
stands for an operation, and is answered with yes. -/
inductive Called (counter : Counter) (serial : Serial) (moment : Moment) : Moment → Prop where
  | intro {caller : Caller} {callback : Callback} {rest : List Task} {id : MessageId}
      {operation : Operation} (calls : moment.Calls caller callback rest)
      (asked : callback.call = counter.call id)
      (stands : moment.engine.StandsFor id serial operation)
      (answered : (moment.engine.beginRequest caller callback).1 = .flag true) :
      Called counter serial moment ((moment.engine.beginRequest caller callback).2.within rest)

/-- Somebody counts one more on a handle of an operation, perhaps from inside a call. -/
inductive Noted (counter : Counter) (serial : Serial) (moment : Moment) : Moment → Prop where
  | intro {operation : Operation} (found : moment.engine.operation? serial = some operation) :
      Noted counter serial moment ⟨moment.engine.count serial counter, moment.agenda⟩

/-- What can happen next in a run in which handles are used at any time. -/
inductive Evolves : Moment → Moment → Prop where
  | move {moment after : Moment} (move : moment.Moves after) : Evolves moment after
  | note {moment after : Moment} {counter : Counter} {serial : Serial}
      (noted : moment.Noted counter serial after) : Evolves moment after

/-- What can happen later in such a run. -/
def Unfolds : Moment → Moment → Prop :=
  Relation.ReflTransGen Evolves

variable {moment after : Moment} {counter : Counter} {serial : Serial}

theorem Called.standsFor (called : moment.Called counter serial after) :
    ∃ id operation, moment.engine.StandsFor id serial operation := by
  cases called with
  | intro calls asked stands answered => exact ⟨_, _, stands⟩

/-- The call counts for the operation that the identifier stands for, whoever has used the
identifier before. -/
theorem Called.engine_eq (called : moment.Called counter serial after)
    (coherent : moment.ledger.Coherent) : after.engine = moment.engine.count serial counter := by
  cases called with
  | @intro caller callback rest id operation calls asked stands answered =>
      obtain ⟨other, found⟩ := moment.engine.present_of_counted asked answered
      obtain ⟨present, holds⟩ := coherent.standsFor found
      have own : other = serial := Nat.le_antisymm
        (stands.last other (by simp [Engine.messageId?, holds.found, holds.messageId]))
        (holds.last serial (by simp [Engine.messageId?, stands.found, stands.messageId]))
      change (moment.engine.beginRequest caller callback).2.engine = _
      rcases moment.engine.beginRequest_cases caller callback with ⟨-, same⟩ | ⟨-, same⟩ <;>
        rw [same] at answered ⊢
      · rw [Engine.beginAnswered, asked]
        cases counter <;>
          simp [Counter.call, Engine.beginCall, found, own, Moment.within, Engine.count]
      · cases answered

/-- A call counts for one operation only, and with one counter only. -/
theorem Called.unique {other : Counter} {place : Serial}
    (called : moment.Called counter serial after) (again : moment.Called other place after)
    (coherent : moment.ledger.Coherent) : other = counter ∧ place = serial := by
  by_contra different
  obtain ⟨id, operation, stands⟩ := again.standsFor
  have counted := moment.engine.counted?_count serial place counter other
  rw [if_neg fun same => different ⟨same.1.symm, same.2.symm⟩, ← called.engine_eq coherent,
    again.engine_eq coherent] at counted
  exact Engine.counted?_count_ne (Option.isSome_of_eq_some stands.found)
    (congrArg (Option.getD · 0) counted)

theorem Evolves.coherent (evolves : moment.Evolves after) (coherent : moment.ledger.Coherent) :
    after.ledger.Coherent := by
  cases evolves with
  | move move => exact move.coherent coherent
  | note noted =>
      cases noted with
      | intro found => exact Engine.coherent_count coherent _ _

theorem Evolves.extends (evolves : moment.Evolves after) (coherent : moment.ledger.Coherent) :
    moment.engine.Extends after.engine := by
  cases evolves with
  | move move => exact move.extends coherent
  | note noted =>
      cases noted with
      | intro found => exact moment.engine.extends_count _ _

/-- Whatever ends reports what it has counted until then. -/
theorem Evolves.reports (evolves : moment.Evolves after) (coherent : moment.ledger.Coherent)
    (unresolved : moment.engine.outcome? serial = none) {operation : Operation}
    (found : after.engine.operation? serial = some operation) : operation.Reports := by
  cases evolves with
  | move move => exact move.reports coherent unresolved found
  | @note other place noted =>
      cases noted with
      | intro present =>
          intro outcome counter ended
          have still := moment.engine.outcome?_count place serial other
          rw [Engine.outcome?, found, Option.bind_some, ended, unresolved] at still
          cases still

theorem evolves_request {caller : Caller} (finished : moment.agenda = []) (callback : Callback)
    (outside : caller = .client ∨ caller = .schedule) :
    moment.Evolves (moment.engine.beginRequest caller callback).2 := by
  obtain ⟨engine, agenda⟩ := moment
  cases finished
  exact .move (.request engine callback outside)

theorem called_of_credits {caller : Caller} {callback : Callback} {rest : List Task}
    (calls : moment.Calls caller callback rest) (coherent : moment.ledger.Coherent)
    (credits : moment.engine.Credits callback.call counter serial)
    (answered : (moment.engine.beginRequest caller callback).1 = .flag true) :
    moment.Called counter serial ((moment.engine.beginRequest caller callback).2.within rest) := by
  obtain ⟨id, asked, present⟩ := credits
  obtain ⟨operation, stands⟩ := coherent.standsFor present
  exact .intro calls asked stands answered

theorem called_from_outside {caller : Caller} {callback : Callback} (finished : moment.agenda = [])
    (coherent : moment.ledger.Coherent)
    (credits : moment.engine.Credits callback.call counter serial)
    (answered : (moment.engine.beginRequest caller callback).1 = .flag true) :
    moment.Called counter serial (moment.engine.beginRequest caller callback).2 := by
  have called := called_of_credits (.outside caller callback finished) coherent credits answered
  rwa [within_nil] at called

/-- Whoever is answered with yes has counted for some operation. -/
theorem exists_called {caller : Caller} {callback : Callback} {rest : List Task} {id : MessageId}
    (calls : moment.Calls caller callback rest) (coherent : moment.ledger.Coherent)
    (asked : callback.call = counter.call id)
    (answered : (moment.engine.beginRequest caller callback).1 = .flag true) :
    ∃ serial, moment.Called counter serial
      ((moment.engine.beginRequest caller callback).2.within rest) := by
  obtain ⟨serial, present⟩ := moment.engine.present_of_counted asked answered
  exact ⟨serial, called_of_credits calls coherent ⟨id, asked, present⟩ answered⟩

theorem counted?_settle (moment : Moment) :
    moment.settle.engine.counted? counter serial = moment.engine.counted? counter serial := by
  rw [settle]
  split
  · exact Engine.counted?_release
  · rfl

theorem Proceeds.counted? (step : moment.Proceeds after) (coherent : moment.ledger.Coherent) :
    moment.Called counter serial after.settle ∨
      after.settle.engine.counted? counter serial = moment.engine.counted? counter serial := by
  rw [counted?_settle]
  obtain ⟨engine, task, rest, connection, rfl, rfl⟩ := step.exists_carryOut
  rcases engine.counted?_carryOut connection task with ⟨site, id, callback, rfl⟩ | same
  · rcases engine.counted?_beginRequest (.connection site id) callback counter serial with
      ⟨credits, answered, -⟩ | same
    · refine .inl ?_
      have called := called_of_credits (.inside rfl) coherent credits answered
      have busy : (Moment.within (engine.beginRequest (.connection site id) callback).2
          rest).agenda ≠ [] := by
        simp [Moment.within, Engine.beginRequest]
      have unsettled : settle (Moment.within
          (engine.beginRequest (.connection site id) callback).2 rest) = _ := if_neg busy
      exact unsettled.symm ▸ called
    · exact .inr same
  · exact .inr same

theorem noted_or_counted? (moment : Moment) (place : Serial) (other : Counter) :
    moment.Noted counter serial ⟨moment.engine.count place other, moment.agenda⟩ ∨
      ((moment.engine.count place other).counted? counter serial).getD 0 =
        (moment.engine.counted? counter serial).getD 0 := by
  rw [Engine.counted?_count]
  split
  · next own =>
      obtain ⟨rfl, rfl⟩ := own
      cases found : moment.engine.operation? place with
      | none => exact .inr (by simp [Engine.counted?, found])
      | some operation => exact .inl (.intro found)
  · exact .inr rfl

theorem Moves.counted? (move : moment.Moves after) (coherent : moment.ledger.Coherent) :
    moment.Called counter serial after ∨ moment.Noted counter serial after ∨
      (after.engine.counted? counter serial).getD 0 =
        (moment.engine.counted? counter serial).getD 0 := by
  cases move with
  | proceed step =>
      exact (step.counted? coherent).imp_right fun same => .inr (congrArg (Option.getD · 0) same)
  | @submit engine holder held connection kind request timeout =>
      exact .inr (.inr (engine.counted?_beginSubmit connection kind request timeout))
  | request engine callback outside =>
      rcases engine.counted?_beginRequest _ callback counter serial with
        ⟨credits, answered, -⟩ | same
      · exact .inl (called_from_outside rfl coherent credits answered)
      · exact .inr (.inr (congrArg (Option.getD · 0) same))
  | @fire engine timer armed due =>
      rcases Engine.counted?_beginCall { engine with timers := engine.timers.erase timer }
          (.expire timer.messageId .timeout) counter serial with ⟨⟨id, asked, -⟩, -⟩ | same
      · cases counter <;> cases asked
      · exact .inr (.inr (congrArg (Option.getD · 0) same))
  | recordEntry engine place => exact .inr (noted_or_counted? ⟨engine, []⟩ place .entries)
  | recordReference engine place => exact .inr (noted_or_counted? ⟨engine, []⟩ place .references)
  | drop held => exact .inr (.inr (congrArg (Option.getD · 0) Engine.counted?_release))
  | _ => exact .inr (.inr rfl)

/-- A counter moves on only if a call or a note says so, and a new operation has counted nothing. -/
theorem Evolves.counted? (evolves : moment.Evolves after) (coherent : moment.ledger.Coherent) :
    moment.Called counter serial after ∨ moment.Noted counter serial after ∨
      (after.engine.counted? counter serial).getD 0 =
        (moment.engine.counted? counter serial).getD 0 := by
  cases evolves with
  | move move => exact move.counted? coherent
  | @note other place noted =>
      cases noted with
      | intro found => exact .inr (moment.noted_or_counted? place other)

theorem Unfolds.extends (later : moment.Unfolds after) (coherent : moment.ledger.Coherent) :
    moment.engine.Extends after.engine ∧ after.ledger.Coherent := by
  induction later with
  | refl => exact ⟨.refl _, coherent⟩
  | tail earlier evolves ih =>
      exact ⟨ih.1.trans (evolves.extends ih.2), evolves.coherent ih.2⟩

end Moment

/-- How much has come in for an operation, as somebody tells who watches the run. -/
structure Tally where
  calls : Nat := 0
  /-- The notes before the outcome was written. -/
  notes : Nat := 0
  /-- The notes afterwards. -/
  late : Nat := 0

/-- The tally of one counter of an operation in a run. -/
inductive Tallied (counter : Counter) (serial : Serial) : Moment → Tally → Prop where
  | start (options : Options) (ids : IdSequence) :
      Tallied counter serial ⟨{ options, ids }, []⟩ {}
  | call {moment after : Moment} {tally : Tally} (earlier : Tallied counter serial moment tally)
      (evolves : moment.Evolves after) (called : moment.Called counter serial after) :
      Tallied counter serial after { tally with calls := tally.calls + 1 }
  | note {moment after : Moment} {tally : Tally} (earlier : Tallied counter serial moment tally)
      (noted : moment.Noted counter serial after)
      (unresolved : moment.engine.outcome? serial = none) :
      Tallied counter serial after { tally with notes := tally.notes + 1 }
  | late {moment after : Moment} {tally : Tally} (earlier : Tallied counter serial moment tally)
      (noted : moment.Noted counter serial after)
      (ended : (moment.engine.outcome? serial).isSome) :
      Tallied counter serial after { tally with late := tally.late + 1 }
  | other {moment after : Moment} {tally : Tally} (earlier : Tallied counter serial moment tally)
      (evolves : moment.Evolves after) (uncalled : ¬moment.Called counter serial after)
      (unnoted : ¬moment.Noted counter serial after) : Tallied counter serial after tally

namespace Tally

/-- What an operation shows is what has been told of it. -/
structure Fits (tally : Tally) (counter : Counter) (serial : Serial) (engine : Engine) : Prop where
  counted : (engine.counted? counter serial).getD 0 =
    .ofNat (tally.calls + tally.notes + tally.late)
  early : engine.outcome? serial = none → tally.late = 0
  reported : ∀ outcome, engine.outcome? serial = some outcome →
    ∃ operation, engine.operation? serial = some operation ∧ outcome.kind = operation.kind ∧
      outcome.counted counter =
        if operation.kind = .search then .ofNat (tally.calls + tally.notes) else 0

variable {tally next : Tally} {engine after : Engine} {counter : Counter} {serial : Serial}

/-- An outcome goes on showing what it has shown. -/
theorem Fits.reported_of_extends (fits : tally.Fits counter serial engine)
    (later : engine.Extends after) (same : next.calls + next.notes = tally.calls + tally.notes)
    {outcome : Outcome} (ended : engine.outcome? serial = some outcome) :
    ∃ operation, after.operation? serial = some operation ∧ outcome.kind = operation.kind ∧
      outcome.counted counter =
        if operation.kind = .search then .ofNat (next.calls + next.notes) else 0 := by
  obtain ⟨operation, found, kind, shown⟩ := fits.reported outcome ended
  obtain ⟨last, present, becomes⟩ := later.operation found
  refine ⟨last, present, kind.trans becomes.kind.symm, ?_⟩
  rw [shown, becomes.kind, same]

theorem Fits.count (fits : tally.Fits counter serial engine)
    (known : (engine.operation? serial).isSome)
    (total : next.calls + next.notes + next.late = tally.calls + tally.notes + tally.late + 1)
    (early : engine.outcome? serial = none → next.late = 0)
    (ended : (engine.outcome? serial).isSome →
      next.calls + next.notes = tally.calls + tally.notes) :
    next.Fits counter serial (engine.count serial counter) where
  counted := by
    obtain ⟨operation, found⟩ := Option.isSome_iff_exists.mp known
    have before := fits.counted
    rw [Engine.counted?_count, if_pos ⟨rfl, rfl⟩, total, UInt32.ofNat_add, ← before,
      Engine.counted?, found]
    rfl
  early := fun unresolved => early (engine.outcome?_count serial serial counter ▸ unresolved)
  reported := by
    intro outcome written
    rw [Engine.outcome?_count] at written
    exact fits.reported_of_extends (engine.extends_count serial counter)
      (ended (Option.isSome_of_eq_some written)) written

end Tally

namespace Tallied

open Moment

variable {moment after : Moment} {tally : Tally} {counter : Counter} {serial : Serial}

theorem coherent (tallied : Tallied counter serial moment tally) : moment.ledger.Coherent := by
  induction tallied with
  | start options ids => exact Ledger.coherent_start options ids
  | call earlier evolves called ih => exact evolves.coherent ih
  | note earlier noted unresolved ih => exact Evolves.coherent (.note noted) ih
  | late earlier noted ended ih => exact Evolves.coherent (.note noted) ih
  | other earlier evolves uncalled unnoted ih => exact evolves.coherent ih

/-- The counter stands still if there is neither a call nor a note. -/
theorem fits_other (fits : tally.Fits counter serial moment.engine)
    (coherent : moment.ledger.Coherent) (evolves : moment.Evolves after)
    (uncalled : ¬moment.Called counter serial after)
    (unnoted : ¬moment.Noted counter serial after) :
    tally.Fits counter serial after.engine := by
  have later := evolves.extends coherent
  have still := ((evolves.counted? coherent).resolve_left uncalled).resolve_left unnoted
  refine ⟨still.trans fits.counted, fun unresolved => fits.early ?_, fun outcome written => ?_⟩
  · refine Option.eq_none_iff_forall_ne_some.mpr fun outcome ended => ?_
    cases unresolved.symm.trans (later.outcome? ended)
  · cases ended : moment.engine.outcome? serial with
    | some before =>
        cases written.symm.trans (later.outcome? ended)
        exact fits.reported_of_extends later rfl ended
    | none =>
        obtain ⟨operation, found, reported⟩ := Option.bind_eq_some_iff.mp written
        obtain ⟨kind, shown⟩ := evolves.reports coherent ended found outcome counter reported
        have now := still.trans fits.counted
        rw [Engine.counted?, found, fits.early ended] at now
        exact ⟨operation, found, kind, shown.trans (congrArg (ite _ · 0) now)⟩

theorem fits (tallied : Tallied counter serial moment tally) :
    tally.Fits counter serial moment.engine := by
  induction tallied with
  | start options ids => exact ⟨rfl, fun _ => rfl, fun outcome ended => by cases ended⟩
  | @call moment after tally earlier evolves called ih =>
      obtain ⟨id, operation, stands⟩ := called.standsFor
      have unresolved : moment.engine.outcome? serial = none := by
        rw [Engine.outcome?, stands.found, Option.bind_some, Operation.outcome?, stands.pending]
      rw [called.engine_eq earlier.coherent]
      refine ih.count (Option.isSome_of_eq_some stands.found) (by dsimp only; omega) ih.early ?_
      simp [unresolved]
  | @note moment after tally earlier noted unresolved ih =>
      cases noted with
      | intro found =>
          refine ih.count (Option.isSome_of_eq_some found) (by dsimp only; omega) ih.early ?_
          simp [unresolved]
  | @late moment after tally earlier noted ended ih =>
      cases noted with
      | intro found =>
          refine ih.count (Option.isSome_of_eq_some found) (by dsimp only; omega) ?_ fun _ => rfl
          intro unresolved
          simp [unresolved] at ended
  | other earlier evolves uncalled unnoted ih =>
      exact fits_other ih earlier.coherent evolves uncalled unnoted

theorem exists_of_unfolds {options : Options} {ids : IdSequence}
    (later : Unfolds ⟨{ options, ids }, []⟩ moment) :
    ∃ tally, Tallied counter serial moment tally := by
  induction later with
  | refl => exact ⟨_, .start options ids⟩
  | @tail moment after earlier evolves ih =>
      obtain ⟨tally, tallied⟩ := ih
      by_cases called : moment.Called counter serial after
      · exact ⟨_, tallied.call evolves called⟩
      · by_cases noted : moment.Noted counter serial after
        · cases ended : moment.engine.outcome? serial with
          | none => exact ⟨_, tallied.note noted ended⟩
          | some outcome => exact ⟨_, tallied.late noted (Option.isSome_of_eq_some ended)⟩
        · exact ⟨_, tallied.other evolves called noted⟩

/-- Nothing has been told at a step that leaves the counter as it is. -/
theorem pass (tallied : Tallied counter serial moment tally) (evolves : moment.Evolves after)
    (same : (after.engine.counted? counter serial).getD 0 =
      (moment.engine.counted? counter serial).getD 0) :
    Tallied counter serial after tally := by
  refine tallied.other evolves (fun called => ?_) (fun noted => ?_)
  · obtain ⟨id, operation, stands⟩ := called.standsFor
    rw [called.engine_eq tallied.coherent] at same
    exact Engine.counted?_count_ne (Option.isSome_of_eq_some stands.found) same
  · cases noted with
    | intro found => exact Engine.counted?_count_ne (Option.isSome_of_eq_some found) same

theorem advance (tallied : Tallied counter serial moment tally) (connection : Connection)
    (tasks : Nat) (same : ∀ done ≤ tasks, (moment.advance connection done).engine.counted? counter
      serial = moment.engine.counted? counter serial) :
    Tallied counter serial (moment.advance connection tasks) tally := by
  induction tasks generalizing moment with
  | zero => exact tallied
  | succ tasks ih =>
      cases step : moment.next? connection with
      | none => simpa [Moment.advance, step] using tallied
      | some after =>
          have unrolled : ∀ done, moment.advance connection (done + 1) =
              after.settle.advance connection done := by simp [Moment.advance, step]
          have first := same 1 (Nat.le_add_left 1 tasks)
          rw [unrolled] at first ⊢
          refine ih (tallied.pass (.move (.proceed ⟨connection, step⟩))
            (congrArg (Option.getD · 0) first)) fun done fewer => ?_
          have later := same (done + 1) (Nat.succ_le_succ fewer)
          rw [unrolled] at later
          exact later.trans first.symm

/-- A call from outside is told if it is answered with yes. -/
theorem told {caller : Caller} {callback : Callback} (tallied : Tallied counter serial moment tally)
    (finished : moment.agenda = []) (outside : caller = .client ∨ caller = .schedule)
    (credits : moment.engine.Credits callback.call counter serial)
    (answered : (moment.engine.beginRequest caller callback).1 = .flag true) :
    Tallied counter serial (moment.engine.beginRequest caller callback).2
      { tally with calls := tally.calls + 1 } :=
  tallied.call (evolves_request finished callback outside)
    (called_from_outside finished tallied.coherent credits answered)

end Tallied

/-- Every run has a tally of every counter, in which a call that is answered with yes appears once:
for the operation that its identifier stands for. The counters of an operation agree with the tally.
The outcome of a search shows what was told before it was written, that of any other request shows
nothing, and what is told later leaves it as it is. -/
theorem outcome_carries_counts :
    (∀ options ids moment, Moment.Unfolds ⟨{ options, ids }, []⟩ moment →
      (∀ counter serial, ∃ tally, Tallied counter serial moment tally) ∧
      ∀ counter caller callback rest id, moment.Calls caller callback rest →
        callback.call = Counter.call counter id →
        (moment.engine.beginRequest caller callback).1 = .flag true →
        let after := (moment.engine.beginRequest caller callback).2.within rest
        ∃ serial, ∀ other place,
          moment.Called other place after ↔ other = counter ∧ place = serial) ∧
    ∀ counter serial moment tally, Tallied counter serial moment tally →
      ∀ operation, moment.engine.operation? serial = some operation →
        operation.counted counter = .ofNat (tally.calls + tally.notes + tally.late) ∧
        (operation.outcome? = none → tally.late = 0) ∧
        ∀ outcome, operation.outcome? = some outcome →
          outcome.kind = operation.kind ∧
          outcome.counted counter =
            (if operation.kind = .search then .ofNat (tally.calls + tally.notes) else 0) ∧
          ∀ after, moment.Unfolds after → after.engine.outcome? serial = some outcome := by
  refine ⟨fun options ids moment later => ⟨fun counter serial => Tallied.exists_of_unfolds later,
    fun counter caller callback rest id calls asked answered => ?_⟩,
    fun counter serial moment tally tallied operation found => ?_⟩
  · have coherent := (later.extends (Ledger.coherent_start options ids)).2
    obtain ⟨serial, called⟩ := Moment.exists_called calls coherent asked answered
    refine ⟨serial, fun other place => ⟨fun again => called.unique again coherent, ?_⟩⟩
    rintro ⟨rfl, rfl⟩
    exact called
  · have fits := tallied.fits
    have same : moment.engine.outcome? serial = operation.outcome? := by
      rw [Engine.outcome?, found, Option.bind_some]
    refine ⟨?_, fun unresolved => fits.early (same.trans unresolved), fun outcome ended => ?_⟩
    · have counted := fits.counted
      rwa [Engine.counted?, found] at counted
    · have written := same.trans ended
      obtain ⟨own, present, kind, shown⟩ := fits.reported outcome written
      cases found.symm.trans present
      exact ⟨kind, shown, fun after later => (later.extends tallied.coherent).1.outcome? written⟩

/-- A search is canceled while its handle is in use. The connection is being told of the end. -/
def Moment.interrupted : Moment :=
  let asked := (Engine.beginSubmit { ids := .startingAt 1 } {} .search [] none).2
  let told := ((asked.advance {} 2).engine.beginRequest .client ⟨0, .entryReturned ⟨1⟩⟩).2
  ((told.advance {} 1).engine.beginRequest .client ⟨0, .expire ⟨1⟩ .canceled⟩).2.advance {} 1

theorem outcome_carries_counts_interrupted :
    let noted : Moment := ⟨Moment.interrupted.engine.count 0 .entries, Moment.interrupted.agenda⟩
    let finished := noted.advance {} 3
    let after : Moment := ⟨finished.engine.count 0 .entries, finished.agenda⟩
    Tallied .entries 0 after ⟨1, 1, 1⟩ ∧ ∃ operation outcome,
      after.engine.operation? 0 = some operation ∧ operation.outcome? = some outcome ∧
      operation.entries = 3 ∧ outcome.entries = 2 ∧ outcome.kind = .search ∧
      ∀ later, after.Unfolds later → later.engine.outcome? 0 = some outcome := by
  intro noted finished after
  have asked : Tallied .entries 0
      (Engine.beginSubmit { ids := .startingAt 1 } {} .search [] none).2 {} :=
    (Tallied.start {} (.startingAt 1)).pass
      (.move (.submit (rfl : Engine.isHeld _ 0 = true) {} .search [] none)) (by decide +kernel)
  have told := (asked.advance {} 2 (by decide +kernel)).told (by decide +kernel) (.inl rfl)
    ⟨⟨1⟩, rfl, by decide +kernel⟩ (by decide +kernel : (Engine.beginRequest _ .client
      ⟨0, .entryReturned ⟨1⟩⟩).1 = _)
  have canceled := (told.advance {} 1 (by decide +kernel)).pass
    (Moment.evolves_request (by decide +kernel) ⟨0, .expire ⟨1⟩ .canceled⟩ (.inl rfl))
    (by decide +kernel)
  have interrupted : Tallied .entries 0 Moment.interrupted ⟨1, 0, 0⟩ :=
    canceled.advance {} 1 (by decide +kernel)
  have present : (Moment.interrupted.engine.operation? 0).isSome := by decide +kernel
  obtain ⟨claimed, found⟩ := Option.isSome_iff_exists.mp present
  have ending : Tallied .entries 0 finished ⟨1, 1, 0⟩ :=
    (interrupted.note (.intro found) (by decide +kernel)).advance {} 3 (by decide +kernel)
  have known : (finished.engine.operation? 0).isSome := by decide +kernel
  obtain ⟨resolved, stands⟩ := Option.isSome_iff_exists.mp known
  have tallied : Tallied .entries 0 after ⟨1, 1, 1⟩ :=
    ending.late (.intro stands) (by decide +kernel)
  have search : (after.engine.operation? 0).map Operation.kind = some .search := by decide +kernel
  have shown : ((after.engine.operation? 0).bind Operation.outcome?).isSome := by decide +kernel
  obtain ⟨operation, held, kind⟩ := Option.map_eq_some_iff.mp search
  obtain ⟨outcome, reported⟩ := Option.isSome_iff_exists.mp (held ▸ shown)
  obtain ⟨counted, -, shows⟩ := outcome_carries_counts.2 _ _ _ _ tallied operation held
  obtain ⟨same, entries, stays⟩ := shows outcome reported
  rw [kind] at same entries
  exact ⟨tallied, operation, outcome, held, reported, counted, entries, same, stays⟩

end DirectoryClient
