import DirectoryClient.Proofs.Engine.Correlation
import DirectoryClient.Proofs.Engine.Deadline
import DirectoryClient.Proofs.Engine.Visit

namespace DirectoryClient

namespace Ledger

variable {ledger after : Ledger}

theorem Changes.options (changes : ledger.Changes after) :
    after.engine.options = ledger.engine.options := by
  rw [changes.frame]

theorem Turn.options (turn : ledger.Turn after) :
    after.engine.options = ledger.engine.options := by
  cases turn with
  | register found => rw [Engine.frame_register found]
  | _ => rfl

end Ledger

namespace Engine

/-- Somebody has claimed an operation. -/
def Claimed (engine : Engine) (serial : Serial) : Prop :=
  ∃ id stage, engine.status? serial = some (id, stage) ∧ stage ≠ .pending

/-- The response of an operation that was ended by a timeout or on request says why, after which
time, and whether the operation is abandoned. The time is the one at which somebody claimed the
operation, so it may be shorter than what the outcome took. -/
def Responds (engine : Engine) (serial : Serial) (last : Event) : Prop :=
  ∀ caller id reason reply, last = .replied caller (.expire id reason) reply →
    engine.messageId? serial = some id ∧ ∃ outcome elapsed,
      engine.outcome? serial = some outcome ∧
        outcome.response = reason.response elapsed engine.options.abandonOnTimeout

/-- An operation has ended, and the trace and its outcome say how. -/
structure Ended (engine : Engine) (serial : Serial) (last : Event) : Prop where
  ending : Event.Ending engine.options.abandonOnTimeout serial last engine.trace
  responds : engine.Responds serial last

variable {engine after : Engine} {serial : Serial} {id : MessageId} {last : Event}
variable {ending : List Serial} {submitting : List (MessageId × Serial)}

theorem Responds.later (responds : engine.Responds serial last) (extends_ : engine.Extends after)
    (options : after.options = engine.options) : after.Responds serial last := by
  intro caller id reason reply same
  obtain ⟨own, outcome, elapsed, ended, response⟩ := responds caller id reason reply same
  exact ⟨extends_.messageId? own, outcome, elapsed, extends_.outcome? ended,
    by rw [options, response]⟩

theorem Ended.later (ended : engine.Ended serial last)
    (silent : Moment.Silent serial engine after) (extends_ : engine.Extends after)
    (options : after.options = engine.options) : after.Ended serial last := by
  obtain ⟨events, trace, quiet⟩ := silent
  refine ⟨?_, ended.responds.later extends_ options⟩
  rw [options, trace]
  exact ended.ending.append quiet

theorem Ended.resolved (ended : engine.Ended serial last)
    (published : Ledger.Published ⟨engine, ending, submitting⟩) :
    (engine.outcome? serial).isSome :=
  published.mem_trace_iff.mp ended.ending.mem_published

theorem outcome?_of_claimed (staged : Ledger.Staged ⟨engine, [], []⟩)
    (claimed : engine.Claimed serial) : (engine.outcome? serial).isSome := by
  obtain ⟨id, stage, stands, started⟩ := claimed
  cases stage with
  | pending => exact absurd rfl started
  | claimed => cases staged.claimed.mpr ⟨id, stands⟩
  | resolved outcome => rw [outcome?_eq_some_iff.mpr ⟨id, stands⟩]; rfl

theorem claimed_of_outcome (ended : (engine.outcome? serial).isSome) : engine.Claimed serial := by
  obtain ⟨outcome, reported⟩ := Option.isSome_iff_exists.mp ended
  obtain ⟨id, stands⟩ := outcome?_eq_some_iff.mp reported
  exact ⟨id, .resolved outcome, stands, nofun⟩

theorem not_claimed_of_present (staged : Ledger.Staged ⟨engine, ending, submitting⟩)
    (present : engine.pending.get? id = some serial) : ¬engine.Claimed serial := by
  rintro ⟨key, stage, stands, started⟩
  cases stands.symm.trans (staged.entry present)
  exact started rfl

theorem outcome?_of_present (staged : Ledger.Staged ⟨engine, ending, submitting⟩)
    (present : engine.pending.get? id = some serial) : engine.outcome? serial = none :=
  Option.not_isSome_iff_eq_none.mp fun ended =>
    not_claimed_of_present staged present (claimed_of_outcome ended)

/-! ## Ending several operations at once -/

theorem outcome?_failAll (staged : Ledger.Staged ⟨engine, ending, submitting⟩)
    (present : engine.pending.get? id = some serial) (code : ResultCode) (message : String) :
    ∃ operation, engine.operation? serial = some operation ∧
      (engine.failAll code message).2.outcome? serial =
        some (operation.outcomeOf { code, diagnostic := some message } engine.now) := by
  obtain ⟨operation, found, -, pending⟩ := status?_eq_some_iff.mp (staged.entry present)
  refine ⟨operation, found, ?_⟩
  have listed : serial ∈ engine.pending.serials := PendingTable.mem_serials_iff.mpr ⟨id, present⟩
  rw [outcome?, failAll, operation?_failEach]
  change ((engine.operation? serial).map _).bind _ = _
  rw [found, Option.map_some, if_pos ⟨listed, pending⟩]
  rfl

/-- Of the operations whose outcomes are written at once, each one has ended. -/
theorem ending_of_trace (before : Ledger.Published ⟨engine, ending, submitting⟩)
    (later : Ledger.Published ⟨after, ending, submitting⟩) {written : List Serial}
    (trace : after.trace = engine.trace ++ (written.map .published ++ [last]))
    (quietly : last.endsQuietly = true) (unresolved : engine.outcome? serial = none)
    (resolved : (after.outcome? serial).isSome) {abandons : Bool} :
    Event.Ending abandons serial last (written.map .published ++ [last]) := by
  have published : after.published = engine.published ++ written := by
    have silent := (Event.isPlain_of_endsQuietly quietly).2
    simp only [published, trace, List.filterMap_append, List.filterMap_map, List.filterMap_cons,
      silent, List.filterMap_nil, List.append_nil]
    exact congrArg _ List.filterMap_some
  have absent : serial ∉ engine.published := fun member => by
    have ended : (engine.outcome? serial).isSome := before.mem_iff.mp member
    simp [unresolved] at ended
  have listed : serial ∈ engine.published ++ written := published ▸ later.mem_iff.mpr resolved
  have distinct : (engine.published ++ written).Nodup := published ▸ later.distinct
  exact Event.ending_of_written written ((List.mem_append.mp listed).resolve_left absent)
    (List.nodup_append.mp distinct).2.1 quietly

theorem ending_failAll (coherent : Ledger.Coherent ⟨engine, ending, submitting⟩)
    (present : engine.pending.get? id = some serial) (code : ResultCode) (message : String)
    {abandons : Bool} (quietly : last.endsQuietly = true) :
    ∃ events, ((engine.failAll code message).2.log last).trace = engine.trace ++ events ∧
      Event.Ending abandons serial last events := by
  obtain ⟨written, -, -, trace⟩ := trace_failEach { engine with pending := ∅ }
    { code, diagnostic := some message } engine.pending.serials
  have whole : ((engine.failAll code message).2.log last).trace =
      engine.trace ++ (written.map .published ++ [last]) := by
    change (failEach _ _ _).2.trace ++ _ = _
    rw [trace, List.append_assoc]
  have finished := coherent.changes (.tail (changes_failAll coherent code message)
    (.note (Event.isPlain_of_endsQuietly quietly)))
  obtain ⟨operation, -, ended⟩ := outcome?_failAll coherent.staged present code message
  exact ⟨_, whole, ending_of_trace coherent.published finished.published whole quietly
    (outcome?_of_present coherent.staged present) (Option.isSome_of_eq_some ended)⟩

theorem eq_of_taken {other : Serial} {key : MessageId} {left : Engine}
    (staged : Ledger.Staged ⟨engine, ending, submitting⟩)
    (found : engine.takeOut key = some (other, left))
    (present : engine.pending.get? id = some serial) (gone : left.pending.get? id ≠ some serial) :
    serial = other := by
  by_contra different
  exact gone ((staged.get?_takeOut found).mpr ⟨present, different⟩)

/-- A call that takes an operation out of the table ends it, and the trace of the call tells so. -/
theorem ending_beginAnswered (coherent : Ledger.Coherent ⟨engine, ending, submitting⟩)
    (caller : Caller) (call : Call) (present : engine.pending.get? id = some serial)
    (taken : ∀ key, (engine.beginAnswered caller call).engine.pending.get? key ≠ some serial)
    {after : Engine} (course : (engine.beginAnswered caller call).Course ⟨after, []⟩) :
    ∃ events, after.trace = engine.trace ++ events ∧
      Event.Ending engine.options.abandonOnTimeout serial
        (.replied caller call (engine.beginCall call).1) events := by
  rw [beginAnswered] at taken course
  obtain ⟨reply, moment, same, begins⟩ := engine.exists_begins call
  rw [same] at taken course ⊢
  cases begins with
  | idle lost none => exact absurd present (taken id)
  | countEntry counted => exact absurd present (taken id)
  | countReference counted => exact absurd present (taken id)
  | @deliver key response other left found =>
      cases eq_of_taken coherent.staged found present (taken id)
      cases Moment.Course.answered course
      refine ⟨[.published serial, .replied caller (.deliver key response) (.flag true)], ?_,
        Event.ending_of_written [serial] List.mem_cons_self (List.nodup_singleton _) rfl⟩
      rw [trace_log, trace_publish, trace_takeOut found, List.append_assoc]
      rfl
  | failAll code message =>
      cases Moment.Course.answered course
      exact ending_failAll coherent present code message rfl
  | @expire key reason other left found =>
      cases eq_of_taken coherent.staged found present (taken id)
      -- With the operation its identifier is gone, so the connection cannot be visited under it.
      have free : left.pending.get? key = none := by
        refine Option.eq_none_iff_forall_ne_some.mpr fun other listed => ?_
        obtain ⟨earlier, different⟩ := (coherent.staged.get?_takeOut found).mp listed
        cases earlier.symm.trans (pending_of_takeOut found).1
        exact different rfl
      obtain ⟨cleanup, cleaned, trace⟩ := Moment.Course.expiry course ⟨taken, free⟩
      have options : left.options = engine.options := by rw [frame_takeOut found]
      rw [options] at cleaned
      refine ⟨_, trace.trans (congrArg (· ++ _) (trace_takeOut found)), ?_⟩
      exact @Event.Ending.expired _ _ _ _ _ [] _ [] (by simp) cleaned (by simp)

theorem present_of_taken (staged : Ledger.Staged ⟨engine, ending, submitting⟩)
    {caller : Caller} {key : MessageId} {reason : Expiry}
    (present : engine.pending.get? id = some serial)
    (taken : ∀ other, (engine.beginAnswered caller (.expire key reason)).engine.pending.get? other ≠
      some serial) : engine.pending.get? key = some serial := by
  rw [beginAnswered, beginCall] at taken
  split at taken
  · exact absurd present (taken id)
  · next other left found =>
      rw [eq_of_taken staged found present (taken id)]
      exact (pending_of_takeOut found).1

end Engine

namespace Moment

variable {engine after : Engine} {agenda : List Task} {serial : Serial} {id : MessageId}

/-- Once the call is over that took an operation out of the table, the operation has ended. -/
theorem ended_beginAnswered (coherent : (Moment.mk engine agenda).ledger.Coherent)
    (silent : ∀ event ∈ engine.trace, event.subject? ≠ some serial) (caller : Caller) (call : Call)
    (present : engine.pending.get? id = some serial)
    (taken : ∀ key, (engine.beginAnswered caller call).engine.pending.get? key ≠ some serial)
    (course : (engine.beginAnswered caller call).Course ⟨after, []⟩) :
    after.Ended serial (.replied caller call (engine.beginCall call).1) := by
  have changes := changes_course coherent caller call course
  have options : after.options = engine.options := changes.options
  obtain ⟨events, trace, ending⟩ :=
    Engine.ending_beginAnswered coherent caller call present taken course
  constructor
  · rw [options, trace]
    exact ending.prepend silent
  · intro other key reason reply same
    cases same
    have own := Engine.present_of_taken coherent.staged present taken
    obtain ⟨operation, response, found, gives, ended⟩ :=
      outcome_beginAnswered coherent caller (.expire key reason) rfl own course
    have used := Engine.messageId?_of_status? (coherent.staged.entry own)
    refine ⟨(coherent.extends changes).messageId? used, _, engine.now - operation.submittedAt,
      ended, ?_⟩
    rw [options]
    exact (Option.some.inj gives).symm

/-- What still waits for the end of the call does not touch the operation any more. -/
theorem ended_within (coherent : (Moment.mk engine agenda).ledger.Coherent)
    (closed : Task.Closed agenda) (silent : ∀ event ∈ engine.trace, event.subject? ≠ some serial)
    (caller : Caller) (call : Call) (present : engine.pending.get? id = some serial)
    (taken : ∀ key, (engine.beginAnswered caller call).engine.pending.get? key ≠ some serial)
    (course : ((engine.beginAnswered caller call).within agenda).Course ⟨after, []⟩) :
    after.Ended serial (.replied caller call (engine.beginCall call).1) := by
  obtain ⟨middle, inner, outer⟩ := Course.split course
  have ended := ended_beginAnswered coherent silent caller call present taken inner
  have finished := coherent.changes (changes_course coherent caller call inner)
  have through : Through serial ⟨middle, agenda⟩ :=
    through_of_not_live closed (not_live_of_outcome finished (ended.resolved finished.published))
  have later : Ledger.Changes _ _ := Course.changes_alone outer finished
  exact ended.later (outer.through through).2 (finished.extends later) later.options

end Moment

namespace Ledger

variable {ledger after : Ledger} {serial : Serial}

theorem Changes.claimed (changes : ledger.Changes after) (coherent : ledger.Coherent)
    (claimed : ledger.engine.Claimed serial) : after.engine.Claimed serial := by
  obtain ⟨id, stage, stands, started⟩ := claimed
  obtain ⟨operation, found, -, -⟩ := Engine.status?_eq_some_iff.mp stands
  obtain ⟨later, present, -⟩ := (coherent.extends changes).operation found
  refine ⟨later.messageId, later.stage,
    Engine.status?_eq_some_iff.mpr ⟨later, present, rfl, rfl⟩, fun pending => started ?_⟩
  have still := Engine.status?_eq_some_iff.mpr ⟨later, present, rfl, pending⟩
  cases stands.symm.trans (changes.armed_of_pending coherent still).1
  rfl

/-- Whatever is claimed in the course of some changes was in the table before, and is not any
more. -/
theorem Changes.taken (changes : ledger.Changes after) (coherent : ledger.Coherent)
    (unclaimed : ¬ledger.engine.Claimed serial) (claimed : after.engine.Claimed serial) :
    (∃ id, ledger.engine.pending.get? id = some serial) ∧
      ∀ key, after.engine.pending.get? key ≠ some serial := by
  refine ⟨?_, fun key present =>
    Engine.not_claimed_of_present (coherent.changes changes).staged present claimed⟩
  by_contra absent
  have idle : ¬ledger.Live serial := by
    rintro (present | member)
    · exact absent present
    · obtain ⟨id, stands⟩ := coherent.staged.claimed.mp member
      exact unclaimed ⟨id, .claimed, stands, nofun⟩
  obtain ⟨id, stage, stands, started⟩ := claimed
  have same := (changes.operation?_of_not_live idle).1
  refine unclaimed ⟨id, stage, ?_, started⟩
  rw [← stands, Engine.status?, Engine.status?, same]

theorem Turn.claimed_iff (turn : ledger.Turn after) :
    after.engine.Claimed serial ↔ ledger.engine.Claimed serial := by
  cases turn with
  | @register engine kind probes id registered found =>
      have status := Engine.status?_register found serial
      constructor
      · rintro ⟨key, stage, stands, started⟩
        rw [status] at stands
        split at stands
        · cases stands
          exact absurd rfl started
        · exact ⟨key, stage, stands, started⟩
      · rintro ⟨key, stage, stands, started⟩
        have earlier := Nat.ne_of_lt (Engine.lt_length_of_status? stands)
        exact ⟨key, stage, (status.trans (if_neg earlier)).trans stands, started⟩
  | recordEntry other => simp only [Engine.Claimed, Engine.status?_countEntry]
  | recordReference other => simp only [Engine.Claimed, Engine.status?_countReference]
  | _ => exact Iff.rfl

end Ledger

namespace Moment

variable {moment after : Moment} {serial : Serial}

theorem Moves.claimed (move : moment.Moves after) (coherent : moment.ledger.Coherent)
    (claimed : moment.engine.Claimed serial) : after.engine.Claimed serial := by
  obtain ⟨middle, rfl | turn, changes⟩ := move.course coherent
  · exact changes.claimed coherent claimed
  · exact changes.claimed (coherent.turn turn) (turn.claimed_iff.mpr claimed)

theorem Moves.options (move : moment.Moves after) (coherent : moment.ledger.Coherent) :
    after.engine.options = moment.engine.options := by
  obtain ⟨middle, rfl | turn, changes⟩ := move.course coherent
  · exact changes.options
  · exact changes.options.trans turn.options

end Moment

end DirectoryClient
