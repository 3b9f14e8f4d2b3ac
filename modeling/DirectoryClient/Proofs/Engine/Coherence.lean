import DirectoryClient.Proofs.Engine.Ledger

/-!
# Coherence

The table, the stages of the operations, the timers and the trace are changed by separate
statements, in an order that differs from one way of ending an operation to the next. A ledger is
`Coherent` when they tell the same story, and every change of a ledger keeps it so.
-/

namespace DirectoryClient

namespace Ledger

open PendingTable Engine

/-- The table has the pending operations, and those that somebody has claimed are being ended. -/
structure Staged (ledger : Ledger) : Prop where
  entry : ∀ {id serial}, ledger.engine.pending.get? id = some serial →
    ledger.engine.status? serial = some (id, .pending)
  claimed : ∀ {serial}, serial ∈ ledger.ending ↔
    ∃ id, ledger.engine.status? serial = some (id, .claimed)
  distinct : ledger.ending.Nodup

/-- An operation is live as long as its identifier stands for it or somebody is ending it. -/
def Live (ledger : Ledger) (serial : Serial) : Prop :=
  (∃ id, ledger.engine.pending.get? id = some serial) ∨ serial ∈ ledger.ending

/-- A live operation is the last one that was registered under its identifier. -/
def Latest (ledger : Ledger) : Prop :=
  ∀ {serial other id}, ledger.Live serial → ledger.engine.messageId? serial = some id →
    ledger.engine.messageId? other = some id → other ≤ serial

/-- An armed timer is that of an operation that was returned, under the identifier of the operation,
and the operation is in the table or is being ended. -/
def Timed (ledger : Ledger) : Prop :=
  ∀ timer ∈ ledger.engine.timers,
    timer.operation ∈ ledger.engine.submitted ∧
      ledger.engine.messageId? timer.operation = some timer.messageId ∧
      (ledger.engine.pending.get? timer.messageId = some timer.operation ∨
        timer.operation ∈ ledger.ending)

/-- The operations that a submission has returned or is about to return or give up. -/
def known (ledger : Ledger) : List Serial :=
  ledger.engine.submitted ++ ledger.submitting.map Prod.snd

/-- The operations that a submission has returned or has registered are in the table until they are
claimed, and there is nothing else in the table. -/
structure Known (ledger : Ledger) : Prop where
  own : ∀ {id serial}, (id, serial) ∈ ledger.submitting → ledger.engine.messageId? serial = some id
  present : ∀ {serial}, serial ∈ ledger.known → ∃ id stage,
    ledger.engine.status? serial = some (id, stage) ∧
      (stage = .pending → ledger.engine.pending.get? id = some serial)
  entry : ∀ {id serial}, ledger.engine.pending.get? id = some serial → serial ∈ ledger.known
  distinct : ledger.known.Nodup

/-- The outcome of an operation is written once. -/
structure Published (ledger : Ledger) : Prop where
  resolved : ∀ {serial}, serial ∈ ledger.engine.published ↔
    ∃ id outcome, ledger.engine.status? serial = some (id, .resolved outcome)
  distinct : ledger.engine.published.Nodup

/-- The table, the operations, the timers and the trace tell the same story. -/
structure Coherent (ledger : Ledger) : Prop where
  staged : ledger.Staged
  latest : ledger.Latest
  timed : ledger.Timed
  known : ledger.Known
  published : ledger.Published

theorem coherent_start (options : Options) (ids : IdSequence) :
    Coherent ⟨{ options, ids }, [], []⟩ where
  staged :=
    { entry := fun found => by cases found
      claimed := by simp [status?, operation?]
      distinct := List.nodup_nil }
  latest := by
    rintro serial other id (⟨id, found⟩ | ended)
    · cases found
    · cases ended
  timed := by simp [Timed]
  known :=
    { own := by simp
      present := by simp [Ledger.known, submitted]
      entry := fun found => by cases found
      distinct := by simp [Ledger.known, submitted] }
  published :=
    { resolved := by simp [published, status?, operation?]
      distinct := by simp [published] }

/-! ## Changes of which the invariants take no notice -/

/-- Two ledgers that the invariants cannot tell apart. -/
structure Agrees (ledger after : Ledger) : Prop where
  status : ∀ serial, after.engine.status? serial = ledger.engine.status? serial
  pending : after.engine.pending = ledger.engine.pending
  timers : after.engine.timers = ledger.engine.timers
  submitted : after.engine.submitted = ledger.engine.submitted
  published : after.engine.published = ledger.engine.published
  ending : after.ending = ledger.ending
  submitting : after.submitting = ledger.submitting

theorem Coherent.agrees {ledger after : Ledger} (coherent : ledger.Coherent)
    (same : ledger.Agrees after) : after.Coherent := by
  have ids : ∀ serial, after.engine.messageId? serial = ledger.engine.messageId? serial := by
    intro serial
    rw [messageId?_eq, messageId?_eq, same.status]
  have known : after.known = ledger.known := by
    rw [Ledger.known, Ledger.known, same.submitted, same.submitting]
  refine ⟨⟨?_, ?_, ?_⟩, ?_, ?_, ⟨?_, ?_, ?_, ?_⟩, ⟨?_, ?_⟩⟩
  · intro id serial found
    rw [same.status]
    exact coherent.staged.entry (same.pending ▸ found)
  · intro serial
    rw [same.ending, same.status]
    exact coherent.staged.claimed
  · exact same.ending ▸ coherent.staged.distinct
  · intro serial other id live
    rw [ids, ids]
    rw [Live, same.pending, same.ending] at live
    exact coherent.latest live
  · intro timer armed
    rw [same.submitted, ids, same.pending, same.ending]
    exact coherent.timed timer (same.timers ▸ armed)
  · intro id serial member
    rw [ids]
    exact coherent.known.own (same.submitting ▸ member)
  · intro serial member
    rw [same.status, same.pending]
    exact coherent.known.present (known ▸ member)
  · intro id serial found
    rw [known]
    exact coherent.known.entry (same.pending ▸ found)
  · exact known ▸ coherent.known.distinct
  · intro serial
    rw [same.published, same.status]
    exact coherent.published.resolved
  · exact same.published ▸ coherent.published.distinct

variable {engine taken registered : Engine} {ending : List Serial}
variable {submitting : List (MessageId × Serial)} {id : MessageId} {serial other : Serial}

theorem Staged.id_eq {ledger : Ledger} (staged : ledger.Staged) {first second : MessageId}
    (one : ledger.engine.pending.get? first = some serial)
    (two : ledger.engine.pending.get? second = some serial) : first = second := by
  have same := (staged.entry one).symm.trans (staged.entry two)
  cases same
  rfl

theorem Staged.not_ending {ledger : Ledger} (staged : ledger.Staged)
    (found : ledger.engine.pending.get? id = some serial) : serial ∉ ledger.ending := by
  intro member
  obtain ⟨own, claimed⟩ := staged.claimed.mp member
  cases (staged.entry found).symm.trans claimed

theorem Published.mem_iff {ledger : Ledger} {serial : Serial}
    (published : ledger.Published) :
    serial ∈ ledger.engine.published ↔ (ledger.engine.outcome? serial).isSome := by
  rw [published.resolved, Option.isSome_iff_exists]
  simp only [outcome?_eq_some_iff]
  exact exists_comm

theorem Published.mem_trace_iff {ledger : Ledger} {serial : Serial}
    (published : ledger.Published) :
    .published serial ∈ ledger.engine.trace ↔ (ledger.engine.outcome? serial).isSome := by
  rw [← published.mem_iff, Engine.published, List.mem_filterMap]
  constructor
  · exact fun told => ⟨_, told, rfl⟩
  · rintro ⟨event, told, own⟩
    cases event with
    | published other =>
        cases own
        exact told
    | _ => cases own

/-! ## Taking an operation out of the table -/

theorem Staged.get?_takeOut (staged : Staged ⟨engine, ending, submitting⟩)
    (found : engine.takeOut id = some (serial, taken)) {key : MessageId} :
    taken.pending.get? key = some other ↔
      engine.pending.get? key = some other ∧ other ≠ serial := by
  obtain ⟨present, table⟩ := pending_of_takeOut found
  rw [table, get?_removeIfSame]
  refine and_congr_right fun earlier => ⟨fun different same => ?_, fun different _ => different⟩
  subst same
  exact different (staged.id_eq earlier present) rfl

theorem Staged.takeOut (staged : Staged ⟨engine, ending, submitting⟩)
    (found : engine.takeOut id = some (serial, taken)) :
    Staged ⟨taken, serial :: ending, submitting⟩ where
  entry := by
    intro key other left
    obtain ⟨earlier, different⟩ := (staged.get?_takeOut found).mp left
    exact (status?_takeOut_of_ne found different).trans (staged.entry earlier)
  claimed := by
    intro other
    by_cases same : other = serial
    · subst same
      obtain ⟨own, -, claimed⟩ := status?_takeOut_self found
      exact ⟨fun _ => ⟨own, claimed⟩, fun _ => List.mem_cons_self⟩
    · rw [status?_takeOut_of_ne found same, List.mem_cons, or_iff_right same]
      exact staged.claimed
  distinct := List.nodup_cons.mpr ⟨staged.not_ending (pending_of_takeOut found).1, staged.distinct⟩

theorem Coherent.latest_takeOut (coherent : Coherent ⟨engine, ending, submitting⟩)
    (found : engine.takeOut id = some (serial, taken)) :
    Latest ⟨taken, serial :: ending, submitting⟩ := by
  intro first second key live
  simp only [messageId?_takeOut found]
  apply coherent.latest
  rcases live with ⟨key, left⟩ | member
  · exact .inl ⟨key, ((coherent.staged.get?_takeOut found).mp left).1⟩
  · rcases List.mem_cons.mp member with rfl | member
    · exact .inl ⟨id, (pending_of_takeOut found).1⟩
    · exact .inr member

theorem Coherent.timed_takeOut (coherent : Coherent ⟨engine, ending, submitting⟩)
    (found : engine.takeOut id = some (serial, taken)) :
    Timed ⟨taken, serial :: ending, submitting⟩ := by
  intro timer armed
  obtain ⟨returned, own, place⟩ := coherent.timed timer (timers_takeOut found ▸ armed)
  refine ⟨submitted_takeOut found ▸ returned, (messageId?_takeOut found _).trans own, ?_⟩
  by_cases same : timer.operation = serial
  · exact .inr (List.mem_cons.mpr (.inl same))
  · exact place.imp (fun present => (coherent.staged.get?_takeOut found).mpr ⟨present, same⟩)
      (List.mem_cons_of_mem serial)

theorem Coherent.known_takeOut (coherent : Coherent ⟨engine, ending, submitting⟩)
    (found : engine.takeOut id = some (serial, taken)) :
    Known ⟨taken, serial :: ending, submitting⟩ := by
  have same : Ledger.known ⟨taken, serial :: ending, submitting⟩ =
      Ledger.known ⟨engine, ending, submitting⟩ := by
    rw [Ledger.known, Ledger.known, submitted_takeOut found]
  refine ⟨?_, ?_, ?_, same ▸ coherent.known.distinct⟩
  · intro key other member
    exact (messageId?_takeOut found other).trans (coherent.known.own member)
  · intro other member
    by_cases own : other = serial
    · subst own
      obtain ⟨key, -, claimed⟩ := status?_takeOut_self found
      exact ⟨key, .claimed, claimed, by simp⟩
    · obtain ⟨key, stage, stands, place⟩ := coherent.known.present (same ▸ member)
      exact ⟨key, stage, (status?_takeOut_of_ne found own).trans stands,
        fun pending => (coherent.staged.get?_takeOut found).mpr ⟨place pending, own⟩⟩
  · intro key other left
    rw [same]
    exact coherent.known.entry ((coherent.staged.get?_takeOut found).mp left).1

theorem Coherent.published_takeOut (coherent : Coherent ⟨engine, ending, submitting⟩)
    (found : engine.takeOut id = some (serial, taken)) :
    Published ⟨taken, serial :: ending, submitting⟩ := by
  have same := Engine.published_takeOut found
  refine ⟨?_, same ▸ coherent.published.distinct⟩
  intro other
  change other ∈ taken.published ↔ _
  rw [same]
  by_cases own : other = serial
  · subst own
    obtain ⟨key, before, claimed⟩ := status?_takeOut_self found
    refine ⟨fun member => ?_, fun ⟨key, outcome, ended⟩ => ?_⟩
    · obtain ⟨key, outcome, ended⟩ := coherent.published.resolved.mp member
      cases before.symm.trans ended
    · cases claimed.symm.trans ended
  · rw [status?_takeOut_of_ne found own]
    exact coherent.published.resolved

theorem Coherent.takeOut (coherent : Coherent ⟨engine, ending, submitting⟩)
    (found : engine.takeOut id = some (serial, taken)) :
    Coherent ⟨taken, serial :: ending, submitting⟩ :=
  ⟨coherent.staged.takeOut found, coherent.latest_takeOut found, coherent.timed_takeOut found,
    coherent.known_takeOut found, coherent.published_takeOut found⟩

/-! ## Writing an outcome -/

theorem Staged.claimed_head (staged : Staged ⟨engine, serial :: ending, submitting⟩) :
    (∃ id, engine.status? serial = some (id, .claimed)) ∧ serial ∉ ending :=
  ⟨staged.claimed.mp List.mem_cons_self, (List.nodup_cons.mp staged.distinct).1⟩

theorem Staged.publish (staged : Staged ⟨engine, serial :: ending, submitting⟩)
    (response : Response) : Staged ⟨engine.publish serial response, ending, submitting⟩ where
  entry := by
    intro key other present
    have different : other ≠ serial := by
      intro same
      exact staged.not_ending present (List.mem_cons.mpr (.inl same))
    exact (status?_publish_of_ne response different).trans (staged.entry present)
  claimed := by
    intro other
    obtain ⟨⟨own, claimed⟩, absent⟩ := staged.claimed_head
    by_cases same : other = serial
    · subst same
      obtain ⟨outcome, written⟩ := status?_publish_self response claimed
      refine ⟨fun member => absurd member absent, fun ⟨key, still⟩ => ?_⟩
      cases written.symm.trans still
    · rw [status?_publish_of_ne response same]
      exact (List.mem_cons.trans (or_iff_right same)).symm.trans staged.claimed
  distinct := (List.nodup_cons.mp staged.distinct).2

theorem Coherent.latest_publish (coherent : Coherent ⟨engine, serial :: ending, submitting⟩)
    (response : Response) : Latest ⟨engine.publish serial response, ending, submitting⟩ := by
  intro first second key live
  simp only [messageId?_publish]
  exact coherent.latest (live.imp id (List.mem_cons_of_mem serial))

theorem Coherent.timed_publish (coherent : Coherent ⟨engine, serial :: ending, submitting⟩)
    (response : Response) : Timed ⟨engine.publish serial response, ending, submitting⟩ := by
  intro timer armed
  obtain ⟨earlier, different⟩ := (mem_timers_publish response).mp armed
  obtain ⟨returned, own, place⟩ := coherent.timed timer earlier
  refine ⟨by simpa using returned, by simpa using own, ?_⟩
  exact place.imp id fun member => (List.mem_cons.mp member).resolve_left different

theorem Coherent.known_publish (coherent : Coherent ⟨engine, serial :: ending, submitting⟩)
    (response : Response) : Known ⟨engine.publish serial response, ending, submitting⟩ := by
  have same : Ledger.known ⟨engine.publish serial response, ending, submitting⟩ =
      Ledger.known ⟨engine, serial :: ending, submitting⟩ := by
    rw [Ledger.known, Ledger.known, submitted_publish]
  refine ⟨?_, ?_, ?_, same ▸ coherent.known.distinct⟩
  · intro key other member
    rw [messageId?_publish]
    exact coherent.known.own member
  · intro other member
    obtain ⟨key, stage, stands, place⟩ := coherent.known.present (same ▸ member)
    by_cases own : other = serial
    · subst own
      obtain ⟨outcome, written⟩ := status?_publish_self response stands
      exact ⟨key, .resolved outcome, written, by simp⟩
    · exact ⟨key, stage, (status?_publish_of_ne response own).trans stands, place⟩
  · intro key other present
    rw [same]
    exact coherent.known.entry present

theorem Coherent.published_publish (coherent : Coherent ⟨engine, serial :: ending, submitting⟩)
    (response : Response) : Published ⟨engine.publish serial response, ending, submitting⟩ := by
  obtain ⟨⟨own, claimed⟩, -⟩ := coherent.staged.claimed_head
  have fresh : serial ∉ engine.published := by
    intro member
    obtain ⟨key, outcome, ended⟩ := coherent.published.resolved.mp member
    cases claimed.symm.trans ended
  refine ⟨?_, ?_⟩
  · intro other
    change other ∈ (engine.publish serial response).published ↔ _
    rw [Engine.published_publish, List.mem_append, List.mem_singleton]
    by_cases same : other = serial
    · subst same
      obtain ⟨outcome, written⟩ := status?_publish_self response claimed
      exact ⟨fun _ => ⟨own, outcome, written⟩, fun _ => .inr rfl⟩
    · rw [status?_publish_of_ne response same, or_iff_left same]
      exact coherent.published.resolved
  · change (engine.publish serial response).published.Nodup
    rw [Engine.published_publish]
    exact List.nodup_append.mpr ⟨coherent.published.distinct, List.nodup_singleton serial,
      fun first member second last same =>
        fresh (List.mem_singleton.mp last ▸ same ▸ member)⟩

theorem Coherent.publish (coherent : Coherent ⟨engine, serial :: ending, submitting⟩)
    (response : Response) : Coherent ⟨engine.publish serial response, ending, submitting⟩ :=
  ⟨coherent.staged.publish response, coherent.latest_publish response,
    coherent.timed_publish response, coherent.known_publish response,
    coherent.published_publish response⟩

end Ledger

end DirectoryClient
