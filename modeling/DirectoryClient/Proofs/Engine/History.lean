import DirectoryClient.Proofs.Engine.Cleanup
import DirectoryClient.Proofs.Engine.Clock

namespace DirectoryClient

theorem Event.eq_published_of_isEffect {event : Event} {serial : Serial}
    (effect : event.isEffect = true) (subject : event.subject? = some serial) :
    event = .published serial := by
  cases event with
  | deregistered other id => cases effect
  | abandoned other id => cases effect
  | published other =>
      cases subject
      rfl
  | _ => cases subject

namespace Engine

variable {engine after : Engine} {serial : Serial} {id : MessageId}
variable {ending : List Serial} {submitting : List (MessageId × Serial)}

/-- Of what a call does at once, only an outcome is about the end of an operation. -/
theorem silent_or_claimed {events : List Event} (trace : after.trace = engine.trace ++ events)
    (effects : ∀ event ∈ events, event.isEffect = true)
    (published : Ledger.Published ⟨after, ending, submitting⟩) :
    Moment.Silent serial engine after ∨ after.Claimed serial := by
  by_cases told : .published serial ∈ events
  · have ended := published.mem_trace_iff.mp (trace ▸ List.mem_append_right _ told)
    exact .inr (claimed_of_outcome ended)
  · refine .inl ⟨events, trace, fun event member subject => told ?_⟩
    rwa [← Event.eq_published_of_isEffect (effects event member) subject]

theorem Ended.retimed {event : Event} {abandons : Bool} (ended : engine.Ended serial event)
    (retimed : engine.Retimed abandons after) : after.Ended serial event := by
  have own := retimed.messageId? serial
  have option := retimed.option
  have told := fun outcome => @Retimed.outcome? abandons engine after serial retimed outcome
  obtain ⟨operations, now, rfl⟩ := retimed.frame
  refine ⟨ended.ending, fun caller id reason reply same => ?_⟩
  obtain ⟨used, outcome, elapsed, reported, response⟩ := ended.responds caller id reason reply same
  obtain ⟨last, found, alike⟩ := told outcome reported
  rw [option] at response
  obtain ⟨later, stated⟩ := alike.exists_eq response
  exact ⟨own.trans used, last, later, found, option ▸ stated⟩

theorem claimed_of_beginSubmit {connection : Connection} {kind : OperationKind}
    {request : List UInt8} {timeout : Option Duration}
    (claimed : (engine.beginSubmit connection kind request timeout).2.engine.Claimed serial) :
    engine.Claimed serial := by
  rw [beginSubmit] at claimed
  split at claimed
  · next probed exhausted =>
      obtain ⟨ids, rfl⟩ := register_eq_none exhausted
      exact claimed
  · next id registered found => exact (Ledger.Turn.register found).claimed_iff.mp claimed

end Engine

namespace Moment

variable {moment middle after : Moment} {engine last : Engine} {serial : Serial} {id : MessageId}

/-! ## Before an operation is claimed -/

theorem Proceeds.silent_or_claimed (step : moment.Proceeds after)
    (coherent : moment.ledger.Coherent) (closed : Task.Closed moment.agenda) :
    Silent serial moment.engine after.engine ∨ after.engine.Claimed serial := by
  have changes := step.changes coherent
  by_cases claimed : moment.engine.Claimed serial
  · exact .inr (changes.claimed coherent claimed)
  · obtain ⟨engine, task, rest, connection, rfl, rfl⟩ := step.exists_carryOut
    rcases Engine.carryOut_event connection engine task with
      ⟨site, id, callback, rfl⟩ | ⟨event, trace, subject, -⟩
    · obtain ⟨events, trace, effects⟩ :=
        engine.effects_beginRequest (.connection site id) callback
      exact Engine.silent_or_claimed trace effects (coherent.changes changes).published
    · refine .inl ⟨[event], trace, fun other member own => ?_⟩
      rw [List.mem_singleton.mp member, subject] at own
      obtain ⟨id, stands⟩ := coherent.staged.claimed.mp (closed.1 serial own)
      exact claimed ⟨id, .claimed, stands, nofun⟩

theorem Moves.silent_or_claimed (move : moment.Moves after) (coherent : moment.ledger.Coherent)
    (closed : Task.Closed moment.agenda) :
    Silent serial moment.engine after.engine ∨ after.engine.Claimed serial := by
  have finished := move.coherent coherent
  cases move with
  | @proceed _ after step =>
      have stepped := coherent.changes (step.changes coherent)
      rcases step.silent_or_claimed coherent closed with silent | claimed
      · rw [settle] at finished ⊢
        split at finished
        · next empty =>
            rw [if_pos empty]
            obtain ⟨events, trace, effects⟩ := after.engine.effects_release
            exact (Engine.silent_or_claimed trace effects finished.published).imp_left silent.trans
        · next left =>
            rw [if_neg left]
            exact .inl silent
      · exact .inr ((changes_settle stepped).claimed stepped claimed)
  | submit held connection kind request timeout =>
      exact .inl (silent_beginSubmit _ connection kind request timeout)
  | @request engine caller callback outside =>
      obtain ⟨events, trace, effects⟩ := engine.effects_beginRequest caller callback
      exact Engine.silent_or_claimed trace effects finished.published
  | @fire engine timer armed due =>
      obtain ⟨events, trace, effects⟩ :=
        Engine.effects_beginCall { engine with timers := engine.timers.erase timer }
          (.expire timer.messageId .timeout)
      exact Engine.silent_or_claimed trace effects finished.published
  | @drop engine holder held =>
      obtain ⟨events, trace, effects⟩ := (engine.drop holder).effects_release
      exact Engine.silent_or_claimed trace effects finished.published
  | recordEntry engine other => exact .inl (silent_log _ rfl)
  | recordReference engine other => exact .inl (silent_log _ rfl)
  | _ => exact .inl (.refl serial _)

theorem Silent.untold {engine after : Engine} (silent : Silent serial engine after)
    (before : ∀ event ∈ engine.trace, event.subject? ≠ some serial) :
    ∀ event ∈ after.trace, event.subject? ≠ some serial := by
  obtain ⟨events, trace, quiet⟩ := silent
  intro event member
  rw [trace] at member
  exact (List.mem_append.mp member).elim (before event) (quiet event)

theorem Silent.record_eq {engine after : Engine} (silent : Silent serial engine after) :
    Event.record serial after.trace = Event.record serial engine.trace := by
  obtain ⟨events, trace, quiet⟩ := silent
  rw [trace, Event.record_append, Event.record_eq_nil quiet, List.append_nil]

/-- Whatever is told of the end of an operation is told after somebody has claimed it. -/
theorem Reachable.untold (reachable : moment.Reachable)
    (unclaimed : ¬moment.engine.Claimed serial) :
    ∀ event ∈ moment.engine.trace, event.subject? ≠ some serial := by
  obtain ⟨options, ids, later⟩ := reachable
  induction later with
  | refl => exact fun event member => absurd member List.not_mem_nil
  | tail earlier move ih =>
      have reached : Reachable _ := ⟨options, ids, earlier⟩
      have silent :=
        (move.silent_or_claimed reached.coherent reached.closed).resolve_right unclaimed
      exact silent.untold
        (ih fun claimed => unclaimed (move.claimed reached.coherent claimed))

theorem Proceeds.untold (step : moment.Proceeds after) (reachable : moment.Reachable)
    (unclaimed : ¬after.engine.Claimed serial) :
    ∀ event ∈ after.engine.trace, event.subject? ≠ some serial := by
  have coherent := reachable.coherent
  have silent := (step.silent_or_claimed coherent reachable.closed).resolve_right unclaimed
  exact silent.untold (reachable.untold fun claimed =>
    unclaimed ((step.changes coherent).claimed coherent claimed))

/-! ## After an operation has been claimed -/

/-- When the call under way is over, every operation that has been claimed by now has ended. -/
def EndsClaimed (moment : Moment) : Prop :=
  ∀ last, moment.Course ⟨last, []⟩ → ∀ serial, moment.engine.Claimed serial →
    ∃ event, last.Ended serial event

/-- A request that takes an operation out of the table ends it by the time the call is over. -/
theorem ended_beginRequest {agenda : List Task}
    (coherent : (Moment.mk engine agenda).ledger.Coherent) (closed : Task.Closed agenda)
    (silent : ∀ event ∈ engine.trace, event.subject? ≠ some serial) (caller : Caller)
    (callback : Callback) (present : engine.pending.get? id = some serial)
    (taken : ∀ key, (engine.beginRequest caller callback).2.engine.pending.get? key ≠ some serial)
    (course : ((engine.beginRequest caller callback).2.within agenda).Course ⟨last, []⟩) :
    last.Ended serial (.replied caller callback.call (engine.beginRequest caller callback).1) := by
  rcases engine.beginRequest_cases caller callback with ⟨-, same⟩ | ⟨-, same⟩ <;>
    rw [same] at taken course ⊢
  · exact ended_within coherent closed silent caller callback.call present taken course
  · exact absurd present (taken id)

theorem Proceeds.endsClaimed (step : moment.Proceeds after) (reachable : moment.Reachable)
    (ends : moment.EndsClaimed) : after.EndsClaimed := by
  intro last course serial claimed
  by_cases before : moment.engine.Claimed serial
  · exact ends last (.head step course) serial before
  -- What the step has claimed was in the table, and of all tasks only a call takes anything out.
  · have silent := reachable.untold before
    have coherent := reachable.coherent
    obtain ⟨⟨id, present⟩, gone⟩ := (step.changes coherent).taken coherent before claimed
    obtain ⟨engine, task, rest, connection, rfl, rfl⟩ := step.exists_carryOut
    cases task with
    | callback site key callback =>
        exact ⟨_, @ended_beginRequest _ _ _ _ rest coherent reachable.closed.2 silent _ callback
          present gone course⟩
    -- The operation that is given up is still pending.
    | refuse key other reason => exact absurd claimed before
    | accept key other deadline =>
        rw [carryOut_accept] at gone
        have kept : (engine.accept key other deadline).pending.get? id = some serial := by
          rwa [Engine.pending_accept]
        exact absurd kept (gone id)
    | _ => exact absurd present (gone id)

/-- An operation that is left when the engine goes ends with it. -/
theorem ended_release {ending : List Serial} {submitting : List (MessageId × Serial)}
    (coherent : Ledger.Coherent ⟨engine, ending, submitting⟩)
    (silent : ∀ event ∈ engine.trace, event.subject? ≠ some serial)
    (unclaimed : ¬engine.Claimed serial) (claimed : engine.release.Claimed serial) :
    ∃ count, engine.release.Ended serial (.released count) := by
  have changes : Ledger.Changes _ _ := Engine.changes_release coherent
  obtain ⟨⟨id, present⟩, -⟩ := changes.taken coherent unclaimed claimed
  have options : engine.release.options = engine.options := changes.options
  rw [Engine.release] at claimed options ⊢
  split at claimed
  · next gone =>
      rw [if_pos gone] at options ⊢
      refine ⟨(engine.failAll .localError Engine.releaseMessage).1, ?_,
        fun _ _ _ _ same => by cases same⟩
      obtain ⟨events, trace, ending⟩ := @Engine.ending_failAll _ _ _ (.released _) _ _ coherent
        present .localError Engine.releaseMessage engine.options.abandonOnTimeout rfl
      rw [options]
      exact trace ▸ ending.prepend silent
  · exact absurd claimed unclaimed

theorem EndsClaimed.release (ends : EndsClaimed ⟨engine, []⟩)
    (coherent : Ledger.Coherent ⟨engine, [], []⟩)
    (untold : ∀ serial, ¬engine.Claimed serial →
      ∀ event ∈ engine.trace, event.subject? ≠ some serial) : EndsClaimed ⟨engine.release, []⟩ := by
  intro last course serial claimed
  cases course.eq_of_nil
  by_cases before : engine.Claimed serial
  · obtain ⟨event, ended⟩ := ends engine .refl serial before
    have changes : Ledger.Changes _ _ := Engine.changes_release coherent
    have idle := @not_live_of_outcome ⟨engine, []⟩ _ coherent (ended.resolved coherent.published)
    have silent := silent_release fun id present => idle (.inl ⟨id, present⟩)
    exact ⟨event, ended.later silent (coherent.extends changes) changes.options⟩
  · obtain ⟨count, ended⟩ := ended_release coherent (untold serial before) before claimed
    exact ⟨_, ended⟩

/-- What begins between calls has to tell only of the operations that it claims itself. -/
theorem EndsClaimed.begin (ends : EndsClaimed ⟨engine, []⟩) (reachable : Reachable ⟨engine, []⟩)
    (move : Moves ⟨engine, []⟩ after)
    (fresh : ∀ last, after.Course ⟨last, []⟩ → ∀ serial, ¬engine.Claimed serial →
      after.engine.Claimed serial → ∃ event, last.Ended serial event) : after.EndsClaimed := by
  intro last course serial claimed
  by_cases before : engine.Claimed serial
  · obtain ⟨event, ended⟩ := ends engine .refl serial before
    have coherent := reachable.coherent
    have moved := move.coherent coherent
    have resolved := ended.resolved coherent.published
    have still : (after.engine.outcome? serial).isSome := by
      obtain ⟨outcome, reported⟩ := Option.isSome_iff_exists.mp resolved
      rw [(move.extends coherent).outcome? reported]
      rfl
    have through := through_of_not_live (move.closed reachable.closed)
      (not_live_of_outcome moved still)
    have changes : Ledger.Changes _ _ := Course.changes_alone course moved
    have silent := (move.silent coherent reachable.closed resolved).trans (course.through through).2
    exact ⟨event, ended.later silent ((move.extends coherent).trans (moved.extends changes))
      (changes.options.trans (move.options coherent))⟩
  · exact fresh last course serial before claimed

/-- How an operation ends is told in the same way if the clock is moved meanwhile. -/
theorem EndsClaimed.pass (ends : moment.EndsClaimed) (time : Duration) :
    EndsClaimed ⟨{ moment.engine with now := time }, moment.agenda⟩ := by
  intro last course serial claimed
  obtain ⟨first, same, retimed⟩ := (moment.retimed_pass time).course course
  obtain ⟨event, ended⟩ := ends first same serial claimed
  exact ⟨event, ended.retimed retimed⟩

theorem Moves.endsClaimed (move : moment.Moves after) (reachable : moment.Reachable)
    (ends : moment.EndsClaimed) : after.EndsClaimed := by
  have coherent := reachable.coherent
  -- The move itself is needed again for the operations that have been claimed before.
  have again := move
  cases move with
  | @proceed _ after step =>
      have stepped := step.endsClaimed reachable ends
      have later := coherent.changes (step.changes coherent)
      have untold := fun serial => @Proceeds.untold _ _ serial step reachable
      rw [settle]
      split
      · next empty =>
          obtain ⟨engine, agenda⟩ := after
          cases empty
          exact stepped.release later untold
      · exact stepped
  | submit held connection kind request timeout =>
      exact ends.begin reachable again fun _ _ _ unclaimed claimed =>
        absurd (Engine.claimed_of_beginSubmit claimed) unclaimed
  | @request engine caller callback outside =>
      refine ends.begin reachable again fun last course serial unclaimed claimed => ?_
      have changes := Engine.changes_beginRequest [] coherent caller callback
      obtain ⟨⟨id, present⟩, gone⟩ := changes.taken coherent unclaimed claimed
      rw [← within_nil (engine.beginRequest caller callback).2] at course
      exact ⟨_, ended_beginRequest coherent trivial (reachable.untold unclaimed) caller callback
        present gone course⟩
  | @fire engine timer armed due =>
      refine ends.begin reachable again fun last course serial unclaimed claimed => ?_
      have disarmed := coherent.disarm timer
      have changes := Engine.changes_beginAnswered [] disarmed (.timer timer.operation)
        (.expire timer.messageId .timeout)
      obtain ⟨⟨id, present⟩, gone⟩ := changes.taken disarmed unclaimed claimed
      exact ⟨_, ended_beginAnswered disarmed (reachable.untold unclaimed) _ _ present gone course⟩
  | @drop engine holder held =>
      refine ends.begin reachable again fun last course serial unclaimed claimed => ?_
      have dropped : Ledger.Coherent ⟨engine.drop holder, [], []⟩ :=
        coherent.turn (.tend engine.ids (engine.holders.set holder false) engine.now)
      obtain ⟨count, ended⟩ :=
        ended_release dropped (reachable.untold unclaimed) unclaimed claimed
      cases course.eq_of_nil
      exact ⟨_, ended⟩
  | recordEntry engine other =>
      exact ends.begin reachable again fun _ _ _ unclaimed claimed =>
        absurd ((Ledger.Turn.recordEntry other).claimed_iff.mp claimed) unclaimed
  | recordReference engine other =>
      exact ends.begin reachable again fun _ _ _ unclaimed claimed =>
        absurd ((Ledger.Turn.recordReference other).claimed_iff.mp claimed) unclaimed
  | pass later => exact ends.pass _
  | _ =>
      exact ends.begin reachable again fun _ _ _ unclaimed claimed => absurd claimed unclaimed

/-- When the call under way is over, the trace tells how each operation has ended that has been
claimed by now. -/
theorem Reachable.endsClaimed (reachable : moment.Reachable) : moment.EndsClaimed := by
  obtain ⟨options, ids, later⟩ := reachable
  induction later with
  | refl =>
      rintro last course serial ⟨id, stage, stands, -⟩
      cases stands
  | tail earlier move ih => exact move.endsClaimed ⟨options, ids, earlier⟩ ih

/-- The record of an operation that has ended is complete. -/
theorem Reachable.record_eq (reachable : moment.Reachable)
    (ended : (moment.engine.outcome? serial).isSome) (course : moment.Course ⟨last, []⟩) :
    Event.record serial last.trace = Event.record serial moment.engine.trace :=
  (course.through (through_of_not_live reachable.closed
    (not_live_of_outcome reachable.coherent ended))).2.record_eq

/-! ## Who has ended an operation -/

/-- What calls can begin at a moment: those from outside if nothing is under way, and the one that
the connection makes next, which leaves the rest to be done afterwards. -/
inductive Calls (moment : Moment) : Caller → Callback → List Task → Prop where
  | outside (caller : Caller) (callback : Callback) (finished : moment.agenda = []) :
      Calls moment caller callback []
  | inside {site : Site} {id : MessageId} {callback : Callback} {rest : List Task}
      (next : moment.agenda = .callback site id callback :: rest) :
      Calls moment (.connection site id) callback rest

/-- The engines that go if nobody can reach them: the one at the end of a call, and the one that a
reference has been given up to. -/
inductive Leaves (moment : Moment) : Engine → Prop where
  | finished {engine : Engine} (step : moment.Proceeds ⟨engine, []⟩) : Leaves moment engine
  | dropped (holder : Holder) (finished : moment.agenda = []) :
      Leaves moment (moment.engine.drop holder)

variable {caller : Caller} {callback : Callback} {rest : List Task} {timer : Timer}

theorem Calls.ledger_eq (calls : moment.Calls caller callback rest) :
    (Moment.mk moment.engine rest).ledger = moment.ledger := by
  cases calls with
  | outside caller callback finished => rw [ledger, ledger, finished]
  | inside next => rw [ledger, ledger, next]; rfl

theorem Calls.closed (calls : moment.Calls caller callback rest)
    (closed : Task.Closed moment.agenda) : Task.Closed rest := by
  cases calls with
  | outside caller callback finished => trivial
  | inside next => exact (next ▸ closed).2

theorem Leaves.coherent (leaves : moment.Leaves engine) (coherent : moment.ledger.Coherent) :
    Ledger.Coherent ⟨engine, [], []⟩ := by
  cases leaves with
  | finished step => exact coherent.changes (step.changes coherent)
  | dropped holder finished =>
      rw [ledger, finished] at coherent
      exact coherent.turn (.tend moment.engine.ids (moment.engine.holders.set holder false) _)

theorem Leaves.untold (leaves : moment.Leaves engine) (reachable : moment.Reachable)
    (unclaimed : ¬engine.Claimed serial) :
    ∀ event ∈ engine.trace, event.subject? ≠ some serial := by
  cases leaves with
  | finished step => exact step.untold reachable unclaimed
  | dropped holder finished => exact reachable.untold unclaimed

/-- A call that takes an operation out of the table is the one that has ended it. -/
theorem Reachable.endedBy?_request (reachable : moment.Reachable)
    (calls : moment.Calls caller callback rest)
    (present : moment.engine.pending.get? id = some serial)
    (taken : ∀ key,
      (moment.engine.beginRequest caller callback).2.engine.pending.get? key ≠ some serial)
    (course : ((moment.engine.beginRequest caller callback).2.within rest).Course ⟨last, []⟩) :
    Event.endedBy? serial last.trace =
      some (.replied caller callback.call (moment.engine.beginRequest caller callback).1) := by
  have coherent := reachable.coherent
  rw [← calls.ledger_eq] at coherent
  have silent := reachable.untold (Engine.not_claimed_of_present coherent.staged present)
  exact (ended_beginRequest coherent (calls.closed reachable.closed) silent caller callback present
    taken course).ending.endedBy?_eq

theorem Reachable.taken_of_won (reachable : moment.Reachable)
    (target : callback.call.target? = some id)
    (won : (moment.engine.beginRequest caller callback).1 = .flag true) :
    ∃ serial, moment.engine.pending.get? id = some serial ∧ ∀ key,
      (moment.engine.beginRequest caller callback).2.engine.pending.get? key ≠ some serial := by
  rcases moment.engine.beginRequest_cases caller callback with ⟨-, same⟩ | ⟨-, same⟩ <;>
    rw [same] at won ⊢
  · exact Engine.taken_of_won reachable.coherent.staged target won
  · cases won

theorem Reachable.endedBy?_firing (reachable : Reachable ⟨engine, []⟩)
    (armed : timer ∈ engine.timers) (course : (engine.beginFiring timer).2.Course ⟨last, []⟩) :
    Event.endedBy? timer.operation last.trace =
      some (.replied (.timer timer.operation) (.expire timer.messageId .timeout) (.flag true)) := by
  have coherent := reachable.coherent
  have disarmed := coherent.disarm timer
  obtain ⟨-, -, place⟩ := coherent.timed timer armed
  have present := place.resolve_right List.not_mem_nil
  have silent := reachable.untold (Engine.not_claimed_of_present coherent.staged present)
  obtain ⟨taken, found, begun⟩ := Engine.beginFiring_eq coherent armed
  have gone : ∀ key, (engine.beginFiring timer).2.engine.pending.get? key ≠
      some timer.operation := by
    intro key left
    rw [begun] at left
    exact ((disarmed.staged.get?_takeOut found).mp left).2 rfl
  have ended : last.Ended timer.operation (.replied (.timer timer.operation)
      (.expire timer.messageId .timeout) (engine.beginFiring timer).1) :=
    ended_beginAnswered disarmed silent _ _ present gone course
  rw [begun] at ended
  exact ended.ending.endedBy?_eq

theorem Reachable.endedBy?_release (reachable : moment.Reachable) (leaves : moment.Leaves engine)
    (unresolved : engine.outcome? serial = none)
    (resolved : (engine.release.outcome? serial).isSome) :
    ∃ count, Event.endedBy? serial engine.release.trace = some (.released count) := by
  have coherent := leaves.coherent reachable.coherent
  have unclaimed : ¬engine.Claimed serial := fun claimed => by
    have ended := Engine.outcome?_of_claimed coherent.staged claimed
    simp [unresolved] at ended
  obtain ⟨count, ended⟩ := ended_release coherent (leaves.untold reachable unclaimed) unclaimed
    (Engine.claimed_of_outcome resolved)
  exact ⟨count, ended.ending.endedBy?_eq⟩

theorem eq_of_refused (refused : (engine.beginRequest caller callback).1 = .flag false)
    (course : (engine.beginRequest caller callback).2.Course ⟨last, []⟩) :
    last = engine.log (.replied caller callback.call (.flag false)) := by
  rcases engine.beginRequest_cases caller callback with ⟨-, same⟩ | ⟨-, same⟩ <;>
    rw [same] at refused course
  · obtain ⟨reply, moment, begun, begins⟩ := engine.exists_begins callback.call
    rw [Engine.beginAnswered, begun] at course
    rw [begun] at refused
    cases refused
    generalize callback.call = call at begins course ⊢
    cases begins with
    | idle lost none => exact Course.answered course
  · cases refused

end Moment

end DirectoryClient
