import DirectoryClient.Proofs.Engine.History
import DirectoryClient.Proofs.Session.Resolution

namespace DirectoryClient

namespace Expiry

/-- How the text of the outcome ends when an operation is ended by a timeout or on request. -/
def sequel (abandons : Bool) : String :=
  if abandons then "and will be abandoned" else "without being abandoned"

theorem exists_message_eq (reason : Expiry) (elapsed : Duration) (abandons : Bool) :
    ∃ front, reason.message elapsed abandons = front ++ sequel abandons :=
  ⟨_, rfl⟩

theorem suffix_message_iff (reason : Expiry) (elapsed : Duration) (abandons said : Bool) :
    (sequel said).toList <:+ (reason.message elapsed abandons).toList ↔ said = abandons := by
  obtain ⟨front, same⟩ := reason.exists_message_eq elapsed abandons
  rw [same, String.toList_append]
  constructor
  · intro other
    have own := List.suffix_append front.toList (sequel abandons).toList
    have nested := List.suffix_or_suffix_of_suffix other own
    revert nested
    cases said <;> cases abandons <;> decide
  · rintro rfl
    exact List.suffix_append _ _

end Expiry

namespace Engine

/-- What has been done about an operation that was ended by a timeout or on request, and what its
outcome says. -/
structure CleanedUp (engine : Engine) (serial : Serial) (id : MessageId) (reason : Expiry) :
    Prop where
  messageId : engine.messageId? serial = some id
  record : Event.record serial engine.trace = .deregistered serial id ::
    ((if engine.options.abandonOnTimeout then [.abandoned serial id] else []) ++
      [.published serial])
  visits : ∃ before cleanup rest,
    engine.trace = before ++ (cleanup ++ .published serial :: rest) ∧
      Event.IsCleanup engine.options.abandonOnTimeout serial id cleanup
  response : ∃ outcome text, engine.outcome? serial = some outcome ∧
    outcome.response.code = (match reason with
      | .timeout => .timeout
      | .canceled => .userCanceled) ∧
    outcome.response.diagnostic = some text ∧
    ("and will be abandoned".toList <:+ text.toList ↔ .abandoned serial id ∈ engine.trace) ∧
    ("without being abandoned".toList <:+ text.toList ↔ .abandoned serial id ∉ engine.trace)

/-- What the trace tells of the end of an operation, by who has ended it. -/
inductive Accounted (engine : Engine) (serial : Serial) : Event → Prop where
  | cleanedUp {caller : Caller} {id : MessageId} {reason : Expiry}
      (cleanedUp : engine.CleanedUp serial id reason) :
      Accounted engine serial (.replied caller (.expire id reason) (.flag true))
  | spared {last : Event} (quietly : last.endsQuietly = true)
      (record : Event.record serial engine.trace = [.published serial]) :
      Accounted engine serial last

variable {engine : Engine} {serial : Serial} {id : MessageId} {last : Event}

theorem mem_record_iff {event : Event} {trace : List Event} (own : event.subject? = some serial) :
    event ∈ Event.record serial trace ↔ event ∈ trace := by
  rw [Event.record, List.mem_filter, decide_eq_true own, eq_self, and_true]

theorem Ended.accounted (ended : engine.Ended serial last) : engine.Accounted serial last := by
  obtain ⟨ending, responds⟩ := ended
  generalize same : engine.trace = trace at ending
  cases ending with
  | @expired caller id reason before cleanup rest earlier cleaned later =>
      have record := congrArg (Event.record serial) same
      rw [Event.record_expired earlier cleaned later] at record
      obtain ⟨own, outcome, elapsed, reported, response⟩ := responds caller id reason _ rfl
      have told : .abandoned serial id ∈ engine.trace ↔ true = engine.options.abandonOnTimeout := by
        rw [← mem_record_iff rfl, record]
        cases engine.options.abandonOnTimeout <;> simp
      have ends := reason.suffix_message_iff elapsed engine.options.abandonOnTimeout
      refine .cleanedUp ⟨own, record, ⟨before, cleanup, _, same, cleaned⟩, outcome,
        reason.message elapsed engine.options.abandonOnTimeout, reported, ?_, ?_, ?_, ?_⟩
      · rw [response]
        cases reason <;> rfl
      · rw [response]
        rfl
      · exact (ends true).trans told.symm
      · rw [told]
        refine (ends false).trans ?_
        cases engine.options.abandonOnTimeout <;> decide
  | quiet quietly earlier apart later =>
      exact .spared quietly (same ▸ Event.record_quiet quietly earlier apart later)

end Engine

namespace Moment

variable {moment : Moment} {engine : Engine} {serial : Serial}

/-- Who has ended an operation is told by the trace. Whoever asks for the end of an operation and is
answered with yes has ended the one that the identifier stands for, and whoever is answered with no
has done nothing. -/
structure Attributes (moment : Moment) : Prop where
  won : ∀ caller callback id, callback.call.target? = some id →
    (moment.engine.beginRequest caller callback).1 = .flag true →
      ∃ serial, moment.engine.pending.get? id = some serial ∧ ∀ key,
        (moment.engine.beginRequest caller callback).2.engine.pending.get? key ≠ some serial
  refused : ∀ caller callback,
    (moment.engine.beginRequest caller callback).1 = .flag false →
      ∀ after, (moment.engine.beginRequest caller callback).2.Course ⟨after, []⟩ →
        after = moment.engine.log (.replied caller callback.call (.flag false))
  request : ∀ caller callback rest, moment.Calls caller callback rest →
    ∀ id serial, moment.engine.pending.get? id = some serial →
      (∀ key, (moment.engine.beginRequest caller callback).2.engine.pending.get? key ≠
        some serial) →
      ∀ after, ((moment.engine.beginRequest caller callback).2.within rest).Course ⟨after, []⟩ →
        Event.endedBy? serial after.trace =
          some (.replied caller callback.call (moment.engine.beginRequest caller callback).1)
  firing : moment.agenda = [] → ∀ timer ∈ moment.engine.timers,
    ∀ after, (moment.engine.beginFiring timer).2.Course ⟨after, []⟩ →
      Event.endedBy? timer.operation after.trace =
        some (.replied (.timer timer.operation) (.expire timer.messageId .timeout) (.flag true))
  release : ∀ engine, moment.Leaves engine → ∀ serial, engine.outcome? serial = none →
    (engine.release.outcome? serial).isSome →
      ∃ count, Event.endedBy? serial engine.release.trace = some (.released count)

theorem Reachable.attributes (reachable : moment.Reachable) : moment.Attributes where
  won := fun caller callback id target won => reachable.taken_of_won target won
  refused := fun caller callback lost after course => eq_of_refused lost course
  request := fun caller callback rest calls id serial present taken after course =>
    reachable.endedBy?_request calls present taken course
  firing := by
    intro finished timer armed after course
    obtain ⟨engine, agenda⟩ := moment
    cases finished
    exact reachable.endedBy?_firing armed course
  release := fun engine leaves serial unresolved resolved =>
    reachable.endedBy?_release leaves unresolved resolved

theorem Reachable.accounted (reachable : moment.Reachable) (course : moment.Course ⟨engine, []⟩)
    (told : ∃ event ∈ moment.engine.trace, event.subject? = some serial) :
    ∃ last, Event.endedBy? serial engine.trace = some last ∧ engine.Accounted serial last := by
  obtain ⟨event, member, subject⟩ := told
  have claimed : moment.engine.Claimed serial := by
    by_contra unclaimed
    exact reachable.untold unclaimed event member subject
  obtain ⟨last, ended⟩ := reachable.endsClaimed engine course serial claimed
  exact ⟨last, ended.ending.endedBy?_eq, ended.accounted⟩

theorem Reachable.not_abandoned (reachable : moment.Reachable)
    (spares : moment.engine.options.abandonOnTimeout = false) (serial : Serial) (id : MessageId) :
    .abandoned serial id ∉ moment.engine.trace := by
  intro abandoned
  have course := exists_course {} moment
  obtain ⟨last, -, accounted⟩ := reachable.accounted course ⟨_, abandoned, rfl⟩
  have changes : Ledger.Changes _ _ := course.changes_alone reachable.coherent
  have options : (moment.finish {}).options = moment.engine.options := changes.options
  have listed : .abandoned serial id ∈ Event.record serial (moment.finish {}).trace :=
    (Engine.mem_record_iff rfl).mpr ((reachable.coherent.extends changes).trace.subset abandoned)
  cases accounted with
  | cleanedUp cleanedUp => simp [cleanedUp.record, options, spares] at listed
  | spared quietly record => simp [record] at listed

theorem Reachable.record_eq_nil (reachable : moment.Reachable) (finished : moment.agenda = [])
    (unresolved : moment.engine.outcome? serial = none) :
    Event.record serial moment.engine.trace = [] := by
  obtain ⟨engine, agenda⟩ := moment
  cases finished
  refine Event.record_eq_nil (reachable.untold fun claimed => ?_)
  have ended := Engine.outcome?_of_claimed reachable.coherent.staged claimed
  simp [unresolved] at ended

end Moment

/-- The connection is told once of each operation that is ended by a timeout or on request, before
the outcome can be seen, and of no other. -/
theorem cleaned_up_once {moment : Moment} (reachable : moment.Reachable) :
    (∀ serial, .published serial ∈ moment.engine.trace ↔
      (moment.engine.outcome? serial).isSome) ∧
    (∀ after, moment.Course ⟨after, []⟩ → ∀ serial,
      ((∃ event ∈ moment.engine.trace, event.subject? = some serial) →
        ∃ last, Event.endedBy? serial after.trace = some last ∧ after.Accounted serial last) ∧
      ((moment.engine.outcome? serial).isSome →
        Event.record serial after.trace = Event.record serial moment.engine.trace)) ∧
    (∀ after, moment.Reaches after → ∀ serial, (moment.engine.outcome? serial).isSome →
      Event.record serial after.engine.trace = Event.record serial moment.engine.trace) ∧
    (moment.agenda = [] → ∀ serial, moment.engine.outcome? serial = none →
      Event.record serial moment.engine.trace = []) ∧
    (moment.engine.options.abandonOnTimeout = false → ∀ serial id,
      .abandoned serial id ∉ moment.engine.trace) ∧
    moment.Attributes ∧
    ∀ options ids steps handle outcome,
      let session := ((Session.start options ids).run steps).2
      (session.perform (.poll handle)).1 = .outcome outcome → ∃ serial last,
        session.handles[handle]? = some serial ∧
          session.engine.outcome? serial = some outcome ∧
          Event.endedBy? serial session.engine.trace = some last ∧
          session.engine.Accounted serial last := by
  refine ⟨fun serial => reachable.coherent.published.mem_trace_iff,
    fun after course serial => ⟨?_, ?_⟩, ?_, ?_, ?_, ?_, ?_⟩
  · exact reachable.accounted course
  · exact fun ended => reachable.record_eq ended course
  · exact fun after later serial ended => (reachable.silent later ended).record_eq
  · exact fun finished serial => reachable.record_eq_nil finished
  · exact reachable.not_abandoned
  · exact reachable.attributes
  · intro options ids steps handle outcome session reported
    obtain ⟨serial, found, ended⟩ := Session.poll_eq_outcome_iff.mp reported
    have reached : Moment.Reachable ⟨session.engine, []⟩ := Session.reachable_run options ids steps
    have published : .published serial ∈ session.engine.trace :=
      reached.coherent.published.mem_trace_iff.mpr (Option.isSome_of_eq_some ended)
    obtain ⟨last, ended_by, accounted⟩ := reached.accounted .refl ⟨_, published, rfl⟩
    exact ⟨serial, last, found, ended, ended_by, accounted⟩

/-- A connection that fails whenever it is told something, and cancels the second request while it
is told to forget the first. -/
def Connection.reluctant : Connection :=
  { deregister := fun id =>
      { callbacks :=
          if id = ⟨1⟩ then [⟨0, .expire ⟨2⟩ .canceled⟩, ⟨0, .expire ⟨1⟩ .canceled⟩] else []
        failure := some .closed }
    abandon := fun _ => { failure := some ⟨.unavailable, "closed"⟩ } }

/-- The first of three requests times out, and a response comes for the third. -/
def Session.timingOut : Session :=
  ((Session.start { abandonOnTimeout := true } (.startingAt 1)).run
    [.reconnect .reluctant, .submit 0 .search [] (some (.ofSeconds 1 0)), .submit 0 .add [] none,
      .submit 0 .search [] none, .sleep (.ofSeconds 2 0),
      .request ⟨0, .deliver ⟨3⟩ .success⟩]).2

theorem cleaned_up_once_timingOut :
    let engine := Session.timingOut.engine
    engine.CleanedUp 0 ⟨1⟩ .timeout ∧ engine.CleanedUp 1 ⟨2⟩ .canceled ∧
      Event.record 2 engine.trace = [.published 2] := by
  intro engine
  have reachable : Moment.Reachable ⟨engine, []⟩ := Session.reachable_run _ _ _
  obtain ⟨visible, ended, -⟩ := cleaned_up_once reachable
  have accounted : ∀ serial last, (engine.outcome? serial).isSome →
      Event.endedBy? serial engine.trace = some last → engine.Accounted serial last := by
    intro serial last resolved same
    obtain ⟨other, own, accounted⟩ :=
      (ended engine .refl serial).1 ⟨_, (visible serial).mpr resolved, rfl⟩
    cases same.symm.trans own
    exact accounted
  have timer := accounted 0 (.replied (.timer 0) (.expire ⟨1⟩ .timeout) (.flag true))
    (by decide +kernel) (by decide +kernel)
  have nested := accounted 1
    (.replied (.connection .deregister ⟨1⟩) (.expire ⟨2⟩ .canceled) (.flag true))
    (by decide +kernel) (by decide +kernel)
  have response := accounted 2 (.replied .client (.deliver ⟨3⟩ .success) (.flag true))
    (by decide +kernel) (by decide +kernel)
  refine ⟨?_, ?_, ?_⟩
  · cases timer with
    | cleanedUp cleanedUp => exact cleanedUp
    | spared quietly => cases quietly
  · cases nested with
    | cleanedUp cleanedUp => exact cleanedUp
    | spared quietly => cases quietly
  · cases response with
    | spared quietly record => exact record

end DirectoryClient
