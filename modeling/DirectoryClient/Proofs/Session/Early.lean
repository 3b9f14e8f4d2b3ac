import DirectoryClient.Proofs.Engine.Counting
import DirectoryClient.Proofs.Engine.Early
import DirectoryClient.Proofs.Session.Resolution
import DirectoryClient.Proofs.Session.Submission

namespace DirectoryClient

namespace Moment

/-- What follows for a submission from the first call that ends its operation, if the call is made
before the submission is over. -/
structure Early (id : MessageId) (serial : Serial) (operation : Operation) (response : Response)
    (last : Engine) (started first : Moment) : Prop where
  spares : started.Spares id first
  ends : first.Ends id serial operation response
  spent : ∀ next later, first.Proceeds next → next.Course later → Spent id serial later.engine
  outcome : last.outcome? serial = some (operation.outcomeOf response started.engine.now)
  unlisted : Unlisted serial id last
  leftAlone : ∀ later, Reaches ⟨last, []⟩ later →
    LeftAlone serial ⟨last, []⟩ later ∧ serial ∉ later.fired

variable {started first : Moment} {last : Engine} {id : MessageId} {serial : Serial}
variable {operation : Operation} {response : Response}

theorem early_of_first (reachable : started.Reachable) (held : true ∈ started.engine.holders)
    (unfired : serial ∉ started.fired) (spares : started.Spares id first)
    (ends : first.Ends id serial operation response) (course : first.Course ⟨last, []⟩) :
    Early id serial operation response last started first := by
  have changes : Ledger.Changes started.ledger first.ledger :=
    spares.course.changes_alone reachable.coherent
  have coherent := reachable.coherent.changes changes
  have whole : started.Course ⟨last, []⟩ := .trans spares.course course
  have now : first.engine.now = started.engine.now := changes.now
  have outcome := ends.outcome? coherent course
  have returned := reachable.reaches (whole.reaches held reachable.coherent)
  have spent : ∀ next later, first.Proceeds next → next.Course later → Spent id serial later.engine :=
    fun _ _ step remaining => ((ends.unlisted coherent step).course remaining).spent
  refine ⟨spares, ends, spent, now ▸ outcome, ?_, fun later reaches => ?_⟩
  · obtain ⟨next, step, remaining⟩ := ends.exists_proceeds course
    exact (spent next _ step remaining).unlisted
  · have leftAlone := returned.leftAlone reaches (Option.isSome_of_eq_some outcome)
    exact ⟨leftAlone, fun fired => unfired (whole.fired ▸ leftAlone.fired fired)⟩

end Moment

namespace Engine

variable {engine registered last : Engine} {connection : Connection} {kind : OperationKind}
variable {request : List UInt8} {timeout : Option Duration} {id : MessageId}

/-- If the connection makes a call that ends the operation, it is met before the submission is
over. -/
theorem meets_of_listed (reachable : Moment.Reachable ⟨engine, []⟩) {holder : Holder}
    (held : engine.isHeld holder = true)
    (found : engine.register kind (max engine.options.maxMessageIdProbes 1) = (some id, registered))
    {callback : Callback} (listed : callback ∈ (connection.transmit id).callbacks)
    (reaches : engine.isHeld callback.holder = true) (settles : callback.call.Settles id)
    (course : (engine.beginSubmit connection kind request timeout).2.Course ⟨last, []⟩) :
    (engine.beginSubmit connection kind request timeout).2.Meets id last := by
  generalize begun : engine.beginSubmit connection kind request timeout = answered at course ⊢
  have coherent := (reachable.beginSubmit held begun).coherent
  have holders : answered.2.engine.holders = engine.holders :=
    begun ▸ engine.holders_beginSubmit connection kind request timeout
  have still : answered.2.engine.isHeld callback.holder = true := by
    rw [isHeld, holders]
    exact reaches
  rw [beginSubmit_of_registered found] at begun
  subst begun
  simp only [Task.ofReaction, List.append_assoc] at course coherent ⊢
  exact Moment.meets_of_mem coherent course listed still settles

theorem agenda_carryOut_conclusion (serial : Serial) (deadline : Option Duration)
    (failure : Option TransportError) (connection : Connection) (engine : Engine) :
    (engine.carryOut connection (conclusion id serial deadline failure).2).agenda = [] := by
  cases failure with
  | some reason => rfl
  | none =>
      rw [conclusion, Moment.carryOut_accept]

/-- Of the calls that end the operation of a submission the first finds it with what it has
counted. -/
theorem exists_early (reachable : Moment.Reachable ⟨engine, []⟩) {holder : Holder}
    (held : engine.isHeld holder = true)
    (found : engine.register kind (max engine.options.maxMessageIdProbes 1) = (some id, registered))
    {started : Moment} (begun : (engine.beginSubmit connection kind request timeout).2 = started)
    (meets : started.Meets id last) :
    ∃ first events response, first.engine.trace = started.engine.trace ++ events ∧
      started.Early id engine.operations.length
        { messageId := id, kind, submittedAt := engine.now
          entries := .ofNat (events.count (.entryCounted engine.operations.length))
          references := .ofNat (events.count (.referenceCounted engine.operations.length)) }
        response last first := by
  obtain ⟨later, course, settles, remaining⟩ := meets
  have reachable_started : started.Reachable :=
    reachable.beginSubmit held (Prod.ext rfl begun)
  have same : started.engine = registered.log (.transmitted id request) :=
    begun ▸ engine_beginSubmit_of_registered found
  have present : started.engine.pending.get? id = some engine.operations.length :=
    begun ▸ get?_beginSubmit.mpr (.inr ⟨congrArg Prod.fst found, rfl⟩)
  have fresh : started.engine.operation? engine.operations.length =
      some { messageId := id, kind, submittedAt := engine.now } := by
    rw [same, operation?_log, operation?_register found, if_pos rfl]
  have whole : started.agenda = Task.ofReaction .transmit id (connection.transmit id) ++
      [(conclusion id engine.operations.length (timerDeadline engine.now timeout)
        (connection.transmit id).failure).2] := by
    rw [← begun, beginSubmit_of_registered found]
  have holders : started.engine.holders = engine.holders :=
    begun ▸ engine.holders_beginSubmit connection kind request timeout
  have fired : started.fired = Moment.fired ⟨engine, []⟩ :=
    begun ▸ Moment.fired_beginSubmit engine connection kind request timeout
  obtain ⟨first, spares, settlesFirst, still, after⟩ := course.exists_first settles
    reachable_started.coherent whole (Task.submitting_ofReaction _ _ _)
    (agenda_carryOut_conclusion _ _ _) present
  have changes : Ledger.Changes started.ledger first.ledger :=
    spares.course.changes_alone reachable_started.coherent
  obtain ⟨events, trace, counted⟩ :=
    spares.course.operation?_of_present reachable_started.coherent fresh rfl still
  obtain ⟨operation, response, ends⟩ :=
    settlesFirst.exists_ends (reachable_started.coherent.changes changes) still
  cases counted.symm.trans ends.found
  refine ⟨first, events, response, trace, ?_⟩
  simp only [UInt32.zero_add] at ends
  refine Moment.early_of_first reachable_started ?_ ?_ spares ends (.trans after remaining)
  · rw [holders]
    exact true_mem_holders held
  · rw [fired]
    exact fun member => Nat.lt_irrefl _ (reachable.lt_length_of_fired member)

end Engine

/-- The first call that ends an operation while the connection writes its request decides how the
operation ends, whatever the submission returns. -/
theorem early_response_kept {session : Session} (reachable : Moment.Reachable ⟨session.engine, []⟩)
    {holder : Holder} (held : session.engine.isHeld holder = true) {kind : OperationKind}
    {id : MessageId} {registered : Engine}
    (found : session.engine.register kind (max session.engine.options.maxMessageIdProbes 1) =
      (some id, registered)) (request : List UInt8) (timeout : Option Duration) :
    let engine := session.engine
    let serial := engine.operations.length
    let reaction := session.connection.transmit id
    let started := (engine.beginSubmit session.connection kind request timeout).2
    let performed := session.perform (.submit holder kind request timeout)
    let handled (engine : Engine) : Session :=
      { session with engine := engine, handles := session.handles ++ [serial] }
    (∀ last, started.Course ⟨last, []⟩ →
      (∃ callback ∈ reaction.callbacks,
        engine.isHeld callback.holder = true ∧ callback.call.Settles id) ∨
      started.Meets id last →
        ∃ first events response, first.engine.trace = started.engine.trace ++ events ∧
          let operation : Operation :=
            { messageId := id, kind, submittedAt := engine.now
              entries := .ofNat (events.count (.entryCounted serial))
              references := .ofNat (events.count (.referenceCounted serial)) }
          Moment.Early id serial operation response last started first ∧
          (reaction.failure = none →
            ((handled last).perform (.poll session.handles.length)).1 =
              .outcome (operation.outcomeOf response engine.now))) ∧
    started.Course ⟨performed.2.engine, []⟩ ∧
    performed = match reaction.failure with
      | some reason =>
          (.refused (.transport reason), { session with engine := performed.2.engine })
      | none => (.submitted session.handles.length id, handled performed.2.engine) := by
  intro engine serial reaction started performed handled
  refine ⟨fun last course early => ?_, ?_⟩
  · have meets : started.Meets id last := early.elim
      (fun ⟨_, listed, reaches, settles⟩ =>
        Engine.meets_of_listed reachable held found listed reaches settles course) (fun meets => meets)
    obtain ⟨first, events, response, trace, early⟩ :=
      Engine.exists_early reachable held found rfl meets
    refine ⟨first, events, response, trace, early, fun _ => ?_⟩
    have now : started.engine.now = engine.now :=
      engine.now_beginSubmit session.connection kind request timeout
    exact Session.poll_eq_outcome_iff.mpr
      ⟨serial, List.getElem?_concat_length, now ▸ early.outcome⟩
  · have reported : performed = _ := Session.perform_submit_of_registered reachable held found
    have course := engine.course_submit session.connection kind request timeout
    clear_value performed
    subst reported
    cases reaction.failure <;> exact ⟨course, rfl⟩

/-- A connection that answers from inside the write, calls the answer off again, and breaks unless
the request is its first. -/
def Connection.hasty : Connection :=
  { transmit := fun id =>
      { callbacks := [⟨0, .entryReturned id⟩, ⟨0, .referenceReturned id⟩, ⟨0, .entryReturned id⟩,
          ⟨0, .deliver id .success⟩, ⟨0, .entryReturned id⟩, ⟨0, .expire id .canceled⟩,
          ⟨0, .failAll .unavailable "gone"⟩]
        failure := if id = ⟨1⟩ then none else some .closed } }

def Session.hasty : Session :=
  ((Session.start {} (.startingAt 1)).run [.reconnect .hasty]).2

theorem early_response_kept_hasty :
    let first := Session.hasty.perform (.submit 0 .search [7] (some (.ofSeconds 5 0)))
    let second := first.2.perform (.submit 0 .add [8] (some (.ofSeconds 5 0)))
    (first.1 = .submitted 0 ⟨1⟩ ∧
      (∃ events : List Event, (first.2.perform (.poll 0)).1 = .outcome
          { messageId := ⟨1⟩, kind := .search, response := .success, elapsed := .zero
            entries := .ofNat (events.count (.entryCounted 0))
            references := .ofNat (events.count (.referenceCounted 0)) } ∧
        UInt32.ofNat (events.count (.entryCounted 0)) = 2 ∧
        UInt32.ofNat (events.count (.referenceCounted 0)) = 1) ∧
      first.2.engine.pending.get? ⟨1⟩ = none ∧
      ∀ later, Moment.Reaches ⟨first.2.engine, []⟩ later → 0 ∉ later.fired) ∧
    second.1 = .refused (.transport .closed) ∧
      ∀ id, second.2.engine.pending.get? id ≠ some 1 := by
  intro first second
  have reachable : Moment.Reachable ⟨Session.hasty.engine, []⟩ := Session.reachable_run _ _ _
  have again : Moment.Reachable ⟨first.2.engine, []⟩ :=
    Session.reachable_run {} (.startingAt 1)
      [.reconnect .hasty, .submit 0 .search [7] (some (.ofSeconds 5 0))]
  have held : Session.hasty.engine.isHeld 0 = true ∧ first.2.engine.isHeld 0 = true := by
    decide +kernel
  have found : (Session.hasty.engine.register .search
        (max Session.hasty.engine.options.maxMessageIdProbes 1)).1 = some ⟨1⟩ ∧
      (first.2.engine.register .add
        (max first.2.engine.options.maxMessageIdProbes 1)).1 = some ⟨2⟩ := by
    decide +kernel
  have serial : first.2.engine.operations.length = 1 := by decide +kernel
  obtain ⟨kept, course, performed⟩ := early_response_kept reachable held.1
    (Prod.ext found.1 rfl) [7] (some (.ofSeconds 5 0))
  obtain ⟨_, events, response, -, early, polled⟩ := kept _ course
    (.inl ⟨⟨0, .deliver ⟨1⟩ .success⟩, by decide +kernel, by decide +kernel, .inl rfl⟩)
  have taken : (Session.hasty.connection.transmit ⟨1⟩).failure = none := by decide +kernel
  obtain ⟨keptAgain, courseAgain, performedAgain⟩ := early_response_kept again held.2
    (Prod.ext found.2 rfl) [8] (some (.ofSeconds 5 0))
  obtain ⟨_, _, _, -, earlyAgain, -⟩ := keptAgain _ courseAgain
    (.inl ⟨⟨0, .expire ⟨2⟩ .canceled⟩, by decide +kernel, by decide +kernel, .inl rfl⟩)
  have reported : (first.2.perform (.poll 0)).1 = .outcome
      { messageId := ⟨1⟩, kind := .search, response, elapsed := .zero
        entries := .ofNat (events.count (.entryCounted 0))
        references := .ofNat (events.count (.referenceCounted 0)) } := by
    have whole := congrArg (fun next => (next.2.perform (.poll 0)).1) performed
    rw [taken] at whole
    exact whole.trans (polled taken)
  have shown : (first.2.perform (.poll 0)).1 = .outcome
      { messageId := ⟨1⟩, kind := .search, response := .success, elapsed := .zero
        entries := 2, references := 1 } := by
    decide +kernel
  have same := reported.symm.trans shown
  simp only [Answer.outcome.injEq, Outcome.mk.injEq, true_and, and_true] at same
  obtain ⟨rfl, entries, references⟩ := same
  refine ⟨⟨?_, ⟨events, reported, entries, references⟩, early.unlisted.identifier,
    fun later reaches => ?_⟩, ?_, ?_⟩
  · rw [show first = _ from performed, taken]
    rfl
  · exact (early.leftAlone later reaches).2
  · exact congrArg Prod.fst performedAgain
  · rw [← serial]
    exact earlyAgain.unlisted.operation

end DirectoryClient
