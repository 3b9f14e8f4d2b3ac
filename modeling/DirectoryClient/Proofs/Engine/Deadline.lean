import DirectoryClient.Proofs.Engine.Firing
import DirectoryClient.Proofs.Engine.Pending
import DirectoryClient.Proofs.Engine.Resolution

namespace DirectoryClient

namespace Engine

variable {engine after : Engine} {id : MessageId} {serial : Serial} {timer : Timer}

theorem mem_timers_accept_of_mem (deadline : Option Duration) (armed : timer ∈ engine.timers) :
    timer ∈ (engine.accept id serial deadline).timers := by
  cases deadline with
  | none => exact armed
  | some deadline =>
      change timer ∈ (engine.arm id serial deadline).timers
      rw [arm]
      split
      · exact List.mem_append_left _ armed
      · exact armed

theorem mem_timers_accept_of_pending {own : MessageId} (deadline : Duration)
    (pending : engine.status? serial = some (own, .pending)) :
    ⟨serial, id, deadline⟩ ∈ (engine.accept id serial (some deadline)).timers := by
  obtain ⟨operation, found, -, stage⟩ := status?_eq_some_iff.mp pending
  change _ ∈ (engine.arm id serial deadline).timers
  rw [arm, if_pos]
  · exact List.mem_append_right _ List.mem_cons_self
  · rw [found, Option.any_some, Operation.isPending, stage]
    rfl

theorem deadline_of_mem_timers_accept {deadline : Option Duration}
    (armed : timer ∈ (engine.accept id serial deadline).timers) :
    timer ∈ engine.timers ∨ timer.operation = serial ∧ deadline = some timer.deadline := by
  cases deadline with
  | none => exact .inl armed
  | some deadline =>
      refine (mem_timers_arm armed).imp_right fun ⟨same, _⟩ => ?_
      cases same
      exact ⟨rfl, rfl⟩

theorem mem_timers_beginCall (engine : Engine) (call : Call)
    (armed : timer ∈ (engine.beginCall call).2.engine.timers) : timer ∈ engine.timers := by
  obtain ⟨reply, moment, same, begins⟩ := engine.exists_begins call
  rw [same] at armed
  cases begins with
  | deliver found => exact timers_takeOut found ▸ ((mem_timers_publish _).mp armed).1
  | expire found => exact timers_takeOut found ▸ armed
  | failAll code message => exact mem_timers_failEach { engine with pending := ∅ } armed
  | _ => exact armed

theorem mem_timers_beginRequest {caller : Caller} {callback : Callback}
    (armed : timer ∈ (engine.beginRequest caller callback).2.engine.timers) :
    timer ∈ engine.timers := by
  rcases engine.beginRequest_cases caller callback with ⟨-, same⟩ | ⟨-, same⟩ <;> rw [same] at armed
  · exact mem_timers_beginCall engine callback.call armed
  · exact armed

/-- Only the task that returns an operation arms a timer. -/
theorem mem_timers_carryOut {connection : Connection} {task : Task}
    (armed : timer ∈ (engine.carryOut connection task).engine.timers) :
    timer ∈ engine.timers ∨ ∃ id, task = .accept id timer.operation (some timer.deadline) := by
  cases task with
  | callback site id callback => exact .inl (mem_timers_beginRequest armed)
  | publish serial response => exact .inl ((mem_timers_publish response).mp armed).1
  | accept id serial deadline =>
      rw [Moment.carryOut_accept] at armed
      refine (deadline_of_mem_timers_accept armed).imp_right fun ⟨own, same⟩ => ⟨id, ?_⟩
      rw [own, same]
  | _ => exact .inl armed

theorem timers_beginSubmit (engine : Engine) (connection : Connection) (kind : OperationKind)
    (request : List UInt8) (timeout : Option Duration) :
    (engine.beginSubmit connection kind request timeout).2.engine.timers = engine.timers := by
  obtain ⟨_, _, _, _, same⟩ := engine.frame_beginSubmit connection kind request timeout
  rw [same]

theorem now_beginSubmit (engine : Engine) (connection : Connection) (kind : OperationKind)
    (request : List UInt8) (timeout : Option Duration) :
    (engine.beginSubmit connection kind request timeout).2.engine.now = engine.now := by
  obtain ⟨_, _, _, _, same⟩ := engine.frame_beginSubmit connection kind request timeout
  rw [same]

theorem status?_beginSubmit (connection : Connection) (kind : OperationKind)
    (request : List UInt8) (timeout : Option Duration)
    (earlier : serial ≠ engine.operations.length) :
    (engine.beginSubmit connection kind request timeout).2.engine.status? serial =
      engine.status? serial := by
  rw [beginSubmit]
  split
  · next probed exhausted =>
      obtain ⟨ids, rfl⟩ := register_eq_none exhausted
      rfl
  · next id registered found => exact (status?_register found serial).trans (if_neg earlier)

/-- A submission that returns an operation has registered it, and arms its timer last. -/
theorem beginSubmit_eq_ok {connection : Connection} {kind : OperationKind} {request : List UInt8}
    {timeout : Option Duration} {started : Moment}
    (begun : engine.beginSubmit connection kind request timeout = (.ok serial, started)) :
    ∃ id registered,
      engine.register kind (max engine.options.maxMessageIdProbes 1) = (some id, registered) ∧
        serial = engine.operations.length ∧ started = ⟨registered.log (.transmitted id request),
          Task.ofReaction .transmit id (connection.transmit id) ++
            [.accept id serial (timerDeadline engine.now timeout)]⟩ := by
  simp only [beginSubmit] at begun
  split at begun
  · cases begun
  · next id registered found =>
      refine ⟨id, registered, found, ?_⟩
      split at begun
      · cases begun
      · cases begun
        exact ⟨rfl, rfl⟩

end Engine

namespace Ledger

variable {ledger after : Ledger} {id : MessageId} {serial : Serial}

/-- The timer of an operation stays armed as long as the operation is pending. -/
theorem Change.armed_of_pending (change : ledger.Change after) (staged : ledger.Staged)
    (pending : after.engine.status? serial = some (id, .pending)) :
    ledger.engine.status? serial = some (id, .pending) ∧
      ∀ timer ∈ ledger.engine.timers, timer.operation = serial → timer ∈ after.engine.timers := by
  cases change with
  | note plain => exact ⟨pending, fun timer armed _ => armed⟩
  | countEntry present =>
      rw [Engine.status?_countEntry] at pending
      exact ⟨pending, fun timer armed _ => armed⟩
  | countReference present =>
      rw [Engine.status?_countReference] at pending
      exact ⟨pending, fun timer armed _ => armed⟩
  | @takeOut engine ending submitting key other taken found =>
      by_cases same : serial = other
      · subst same
        obtain ⟨own, -, claimed⟩ := Engine.status?_takeOut_self found
        cases claimed.symm.trans pending
      · refine ⟨(Engine.status?_takeOut_of_ne found same).symm.trans pending, ?_⟩
        intro timer armed _
        exact (Engine.timers_takeOut found).symm ▸ armed
  | @publish engine ending submitting other response =>
      by_cases same : serial = other
      · subst same
        obtain ⟨⟨own, claimed⟩, -⟩ := staged.claimed_head
        obtain ⟨outcome, written⟩ := Engine.status?_publish_self response claimed
        cases written.symm.trans pending
      · refine ⟨(Engine.status?_publish_of_ne response same).symm.trans pending, ?_⟩
        intro timer armed own
        exact (Engine.mem_timers_publish response).mpr ⟨armed, own ▸ same⟩
  | accept deadline =>
      rw [Engine.status?_accept] at pending
      exact ⟨pending, fun timer armed _ => Engine.mem_timers_accept_of_mem deadline armed⟩
  | refuse => exact ⟨pending, fun timer armed _ => armed⟩

theorem Changes.armed_of_pending (changes : ledger.Changes after) (coherent : ledger.Coherent)
    (pending : after.engine.status? serial = some (id, .pending)) :
    ledger.engine.status? serial = some (id, .pending) ∧
      ∀ timer ∈ ledger.engine.timers, timer.operation = serial → timer ∈ after.engine.timers := by
  induction changes with
  | refl => exact ⟨pending, fun timer armed _ => armed⟩
  | tail earlier change ih =>
      obtain ⟨before, keeps⟩ :=
        change.armed_of_pending (coherent.changes earlier).staged pending
      obtain ⟨first, kept⟩ := ih before
      exact ⟨first, fun timer armed own => keeps timer (kept timer armed own) own⟩

/-- Unless something is being submitted, no change arms a timer. -/
theorem Change.mem_timers (change : ledger.Change after) (idle : ledger.submitting = []) :
    after.submitting = [] ∧
      ∀ timer ∈ after.engine.timers, timer ∈ ledger.engine.timers := by
  cases change with
  | takeOut found => exact ⟨idle, fun timer armed => Engine.timers_takeOut found ▸ armed⟩
  | publish response =>
      exact ⟨idle, fun timer armed => ((Engine.mem_timers_publish response).mp armed).1⟩
  | accept deadline => cases idle
  | refuse => cases idle
  | _ => exact ⟨idle, fun timer armed => armed⟩

theorem Changes.mem_timers (changes : ledger.Changes after) (idle : ledger.submitting = []) :
    after.submitting = [] ∧
      ∀ timer ∈ after.engine.timers, timer ∈ ledger.engine.timers := by
  induction changes with
  | refl => exact ⟨idle, fun timer armed => armed⟩
  | tail earlier change ih =>
      obtain ⟨still, new⟩ := change.mem_timers ih.1
      exact ⟨still, fun timer armed => ih.2 timer (new timer armed)⟩

end Ledger

namespace Moment

variable {moment after : Moment} {serial : Serial} {deadline : Option Duration}

/-- An operation has a timer if it has a deadline and is pending, and its timer is due then. -/
structure Tracks (serial : Serial) (deadline : Option Duration) (moment : Moment) : Prop where
  registered : ∃ id, moment.engine.messageId? serial = some id
  accepts : ∀ {id due}, .accept id serial due ∈ moment.agenda → due = deadline
  due : ∀ timer ∈ moment.engine.timers, timer.operation = serial → deadline = some timer.deadline
  armed : ∀ {id time}, moment.engine.status? serial = some (id, .pending) →
    deadline = some time → (∃ key, .accept key serial deadline ∈ moment.agenda) ∨
      ∃ timer ∈ moment.engine.timers, timer.operation = serial
  fired : serial ∈ moment.fired → ∃ time, deadline = some time ∧ time ≤ moment.engine.now

theorem not_accept_of_submitting {tasks : List Task} (idle : Task.submitting tasks = [])
    {id : MessageId} {due : Option Duration} : .accept id serial due ∉ tasks := by
  intro member
  have listed : (id, serial) ∈ Task.submitting tasks := List.mem_filterMap.mpr ⟨_, member, rfl⟩
  rw [idle] at listed
  cases listed

theorem Proceeds.tracks (step : moment.Proceeds after) (coherent : moment.ledger.Coherent)
    (tracks : Tracks serial deadline moment) : Tracks serial deadline after := by
  have changes := step.changes coherent
  have extends_ : moment.engine.Extends after.engine := coherent.extends changes
  have now : after.engine.now = moment.engine.now := changes.now
  have fired := step.fired
  obtain ⟨engine, task, rest, connection, rfl, rfl⟩ := step.exists_carryOut
  have quiet := engine.submitting_carryOut connection task
  refine ⟨?_, ?_, ?_, ?_, ?_⟩
  · exact tracks.registered.imp fun id => extends_.messageId?
  · intro id due member
    rcases List.mem_append.mp member with new | old
    · exact absurd new (not_accept_of_submitting quiet)
    · exact tracks.accepts (List.mem_cons_of_mem task old)
  · intro timer armed own
    rcases Engine.mem_timers_carryOut armed with earlier | ⟨id, rfl⟩
    · exact tracks.due timer earlier own
    · subst own
      exact (tracks.accepts List.mem_cons_self).symm
  · intro id time pending timed
    obtain ⟨before, keeps⟩ := changes.armed_of_pending coherent pending
    rcases tracks.armed before timed with ⟨key, listed⟩ | ⟨timer, armed, own⟩
    · rcases List.mem_cons.mp listed with rfl | later
      -- The task that returns the operation is the one that arms the timer.
      · subst timed
        rw [carryOut_accept]
        exact .inr ⟨_, Engine.mem_timers_accept_of_pending time before, rfl⟩
      · exact .inl ⟨key, List.mem_append_right _ later⟩
    · exact .inr ⟨timer, keeps timer armed own, own⟩
  · intro member
    rw [now]
    exact tracks.fired (fired ▸ member)

/-- Between calls, what neither arms a timer nor brings an operation back keeps the deadlines. -/
theorem Tracks.idle {engine : Engine} (tracks : Tracks serial deadline ⟨engine, []⟩)
    (extends_ : engine.Extends after.engine)
    (accepts : ∀ id due, .accept id serial due ∉ after.agenda)
    (timers : ∀ timer ∈ after.engine.timers, timer ∈ engine.timers)
    (armed : ∀ id, after.engine.status? serial = some (id, .pending) →
      engine.status? serial = some (id, .pending) ∧
        ∀ timer ∈ engine.timers, timer.operation = serial → timer ∈ after.engine.timers)
    (fired : serial ∈ after.fired → ∃ time, deadline = some time ∧ time ≤ after.engine.now) :
    Tracks serial deadline after where
  registered := tracks.registered.imp fun id => extends_.messageId?
  accepts := fun member => absurd member (accepts _ _)
  due := fun timer present => tracks.due timer (timers timer present)
  armed := by
    intro id time pending timed
    obtain ⟨before, keeps⟩ := armed id pending
    -- No submission is under way between calls, so the timer is armed already.
    obtain ⟨timer, present, own⟩ :=
      (tracks.armed before timed).resolve_left fun ⟨key, member⟩ => by cases member
    exact .inr ⟨timer, keeps timer present own, own⟩
  fired := fired

theorem Tracks.changes {engine : Engine} (tracks : Tracks serial deadline ⟨engine, []⟩)
    (coherent : Ledger.Coherent ⟨engine, [], []⟩)
    (changes : Ledger.Changes ⟨engine, [], []⟩ after.ledger)
    (fired : after.fired = Moment.fired ⟨engine, []⟩) : Tracks serial deadline after := by
  obtain ⟨submitting, timers⟩ := changes.mem_timers rfl
  refine tracks.idle (coherent.extends changes) (fun _ _ => not_accept_of_submitting submitting)
    timers (fun id => changes.armed_of_pending coherent) fun member => ?_
  have now : after.engine.now = engine.now := changes.now
  rw [now]
  exact tracks.fired (fired ▸ member)

theorem Tracks.release {engine : Engine} (tracks : Tracks serial deadline ⟨engine, []⟩)
    (coherent : Ledger.Coherent ⟨engine, [], []⟩) :
    Tracks serial deadline ⟨engine.release, []⟩ :=
  tracks.changes coherent (Engine.changes_release coherent) (fired_release engine)

theorem Tracks.settle (tracks : Tracks serial deadline moment)
    (coherent : moment.ledger.Coherent) : Tracks serial deadline moment.settle := by
  rw [Moment.settle]
  split
  · next finished =>
      obtain ⟨engine, agenda⟩ := moment
      cases finished
      exact tracks.release coherent
  · exact tracks

end Moment

namespace Engine

variable {engine : Engine} {serial : Serial} {timer : Timer}

/-- A timer that fires between calls finds its own operation. -/
theorem beginFiring_eq (coherent : Ledger.Coherent ⟨engine, [], []⟩)
    (armed : timer ∈ engine.timers) :
    ∃ taken, takeOut { engine with timers := engine.timers.erase timer } timer.messageId =
        some (timer.operation, taken) ∧
      engine.beginFiring timer = (.flag true,
        (taken.beginExpiry timer.messageId timer.operation .timeout).within
          [.answer (.timer timer.operation) (.expire timer.messageId .timeout) (.flag true)]) := by
  obtain ⟨-, -, place⟩ := coherent.timed timer armed
  have present := place.resolve_right List.not_mem_nil
  have disarmed := coherent.disarm timer
  obtain ⟨claimed, -, found⟩ := takeOut_of_present disarmed.staged present
  refine ⟨_, found, ?_⟩
  simp only [beginFiring, beginCall, found]
  rfl

theorem submitting_beginFiring (engine : Engine) (timer : Timer) :
    Task.submitting (engine.beginFiring timer).2.agenda = [] :=
  submitting_beginAnswered { engine with timers := engine.timers.erase timer }
    (.timer timer.operation) (.expire timer.messageId .timeout)

theorem mem_timers_beginFiring {other : Timer}
    (armed : other ∈ (engine.beginFiring timer).2.engine.timers) : other ∈ engine.timers :=
  List.mem_of_mem_erase (mem_timers_beginCall { engine with timers := engine.timers.erase timer }
    (.expire timer.messageId .timeout) armed)

theorem expiring_beginFiring (coherent : Ledger.Coherent ⟨engine, [], []⟩)
    (armed : timer ∈ engine.timers) (expiring : (engine.beginFiring timer).2.Expiring serial) :
    timer.operation = serial := by
  obtain ⟨taken, -, same⟩ := beginFiring_eq coherent armed
  have member := Task.mem_ending_iff.mpr expiring.1
  rw [same, Moment.within, Task.ending_append, ending_beginExpiry] at member
  exact (List.mem_singleton.mp member).symm

end Engine

namespace Moment

variable {moment after : Moment} {serial : Serial} {deadline : Option Duration}

theorem Tracks.beginFiring {engine : Engine} {timer : Timer}
    (tracks : Tracks serial deadline ⟨engine, []⟩) (coherent : Ledger.Coherent ⟨engine, [], []⟩)
    (armed : timer ∈ engine.timers) (due : timer.deadline ≤ engine.now) :
    Tracks serial deadline (engine.beginFiring timer).2 := by
  have disarmed := coherent.disarm timer
  have changes := Engine.changes_beginAnswered [] disarmed (.timer timer.operation)
    (.expire timer.messageId .timeout)
  rw [within_nil] at changes
  have now : (engine.beginFiring timer).2.engine.now = engine.now := changes.now
  have later := disarmed.extends changes
  refine tracks.idle ⟨later.operation, later.trace⟩
    (fun _ _ => not_accept_of_submitting (Engine.submitting_beginFiring engine timer))
    (fun _ => Engine.mem_timers_beginFiring) (fun id pending => ?_) fun member => ?_
  · obtain ⟨before, keeps⟩ := changes.armed_of_pending disarmed pending
    refine ⟨before, fun other present own => keeps other ?_ own⟩
    refine (List.mem_erase_of_ne fun same => ?_).mpr present
    -- The timer that fires has taken its own operation out of the table.
    subst same own
    obtain ⟨taken, found, same⟩ := Engine.beginFiring_eq coherent armed
    obtain ⟨own, -, claimed⟩ := Engine.status?_takeOut_self found
    rw [same] at pending
    cases claimed.symm.trans pending
  · rw [fired_beginFiring, List.mem_append, List.mem_singleton] at member
    rw [now]
    rcases member with before | rfl
    · exact tracks.fired before
    · exact ⟨timer.deadline, tracks.due timer armed rfl, due⟩

theorem Tracks.beginSubmit {engine : Engine} (tracks : Tracks serial deadline ⟨engine, []⟩)
    (coherent : Ledger.Coherent ⟨engine, [], []⟩) {holder : Holder}
    (held : engine.isHeld holder = true) (connection : Connection) (kind : OperationKind)
    (request : List UInt8) (timeout : Option Duration) :
    Tracks serial deadline (engine.beginSubmit connection kind request timeout).2 := by
  have later := (Moves.submit held connection kind request timeout).extends coherent
  have other : serial ≠ engine.operations.length :=
    Nat.ne_of_lt (Engine.lt_length_of_messageId? tracks.registered.choose_spec)
  refine tracks.idle later (fun id due member => other ?_) (fun timer armed => ?_)
    (fun id pending => ?_) fun member => ?_
  · rw [Engine.beginSubmit] at member
    split at member
    · cases member
    · rcases List.mem_append.mp member with reaction | last
      · exact absurd reaction (not_accept_of_submitting (Task.submitting_ofReaction _ _ _))
      · split at last
        · cases List.mem_singleton.mp last
        · cases List.mem_singleton.mp last
          rfl
  · rwa [Engine.timers_beginSubmit] at armed
  · rw [Engine.status?_beginSubmit connection kind request timeout other] at pending
    rw [Engine.timers_beginSubmit]
    exact ⟨pending, fun _ armed _ => armed⟩
  · rw [fired_beginSubmit] at member
    rw [Engine.now_beginSubmit]
    exact tracks.fired member

theorem Moves.tracks (move : moment.Moves after) (coherent : moment.ledger.Coherent)
    (tracks : Tracks serial deadline moment) : Tracks serial deadline after := by
  have later := move.extends coherent
  cases move with
  | proceed step =>
      exact (step.tracks coherent tracks).settle (coherent.changes (step.changes coherent))
  | submit held connection kind request timeout =>
      exact tracks.beginSubmit coherent held connection kind request timeout
  | @request engine caller callback outside =>
      have changes := Engine.changes_beginRequest [] coherent caller callback
      rw [within_nil] at changes
      exact tracks.changes coherent changes
        (fired_beginRequest engine callback (by rcases outside with rfl | rfl <;> rfl))
  | fire armed due => exact tracks.beginFiring coherent armed due
  | clone held => exact ⟨tracks.registered, tracks.accepts, tracks.due, tracks.armed, tracks.fired⟩
  | @drop engine holder held =>
      have dropped := coherent.turn (.tend engine.ids (engine.holders.set holder false) engine.now)
      have still : Tracks serial deadline ⟨engine.drop holder, []⟩ :=
        ⟨tracks.registered, tracks.accepts, tracks.due, tracks.armed, tracks.fired⟩
      exact still.release dropped
  | recordEntry engine other =>
      refine ⟨tracks.registered.imp fun id => later.messageId?, tracks.accepts, tracks.due, ?_,
        fun member => tracks.fired ?_⟩
      · intro id time pending
        rw [Engine.status?_countEntry] at pending
        exact tracks.armed pending
      · rwa [fired_of_effects engine rfl (by simp [Event.isEffect]) rfl] at member
  | recordReference engine other =>
      refine ⟨tracks.registered.imp fun id => later.messageId?, tracks.accepts, tracks.due, ?_,
        fun member => tracks.fired ?_⟩
      · intro id time pending
        rw [Engine.status?_countReference] at pending
        exact tracks.armed pending
      · rwa [fired_of_effects engine rfl (by simp [Event.isEffect]) rfl] at member
  | @pass engine time past =>
      refine ⟨tracks.registered, tracks.accepts, tracks.due, tracks.armed, fun member => ?_⟩
      obtain ⟨limit, timed, before⟩ := tracks.fired member
      exact ⟨limit, timed, Nat.le_trans before past⟩
  | renumber engine ids =>
      exact ⟨tracks.registered, tracks.accepts, tracks.due, tracks.armed, tracks.fired⟩

theorem Reaches.tracks (later : moment.Reaches after) (coherent : moment.ledger.Coherent)
    (tracks : Tracks serial deadline moment) : Tracks serial deadline after := by
  induction later with
  | refl => exact tracks
  | tail earlier move ih => exact move.tracks (Reaches.coherent earlier coherent) ih

theorem Reachable.beginSubmit {engine : Engine} (reachable : Reachable ⟨engine, []⟩)
    {holder : Holder} (held : engine.isHeld holder = true) {connection : Connection}
    {kind : OperationKind} {request : List UInt8} {timeout : Option Duration}
    {answer : Except SubmitError Serial} {started : Moment}
    (begun : engine.beginSubmit connection kind request timeout = (answer, started)) :
    started.Reachable := by
  have move := Moves.submit held connection kind request timeout
  rw [begun] at move
  exact reachable.reaches (.single move)

theorem Reachable.tracks_beginSubmit {engine : Engine} (reachable : Reachable ⟨engine, []⟩)
    {connection : Connection} {kind : OperationKind} {request : List UInt8}
    {timeout : Option Duration} {started : Moment}
    (begun : engine.beginSubmit connection kind request timeout = (.ok serial, started)) :
    Tracks serial (Engine.timerDeadline engine.now timeout) started := by
  have fired := fired_beginSubmit engine connection kind request timeout
  have timers := engine.timers_beginSubmit connection kind request timeout
  rw [begun] at fired timers
  obtain ⟨id, registered, found, rfl, rfl⟩ := Engine.beginSubmit_eq_ok begun
  refine ⟨⟨id, ?_⟩, fun member => ?_, fun timer armed own => ?_, fun _ _ => .inl ⟨id, ?_⟩,
    fun member => ?_⟩
  · exact (Engine.messageId?_register found _).trans (if_pos rfl)
  · rcases List.mem_append.mp member with reaction | last
    · exact absurd reaction (not_accept_of_submitting (Task.submitting_ofReaction _ _ _))
    · cases List.mem_singleton.mp last
      rfl
  · rw [timers] at armed
    obtain ⟨-, used, -⟩ := reachable.coherent.timed timer armed
    exact absurd own (Nat.ne_of_lt (Engine.lt_length_of_messageId? used))
  · exact List.mem_append_right _ List.mem_cons_self
  · rw [fired] at member
    exact absurd (reachable.lt_length_of_fired member) (Nat.lt_irrefl _)

/-- Between calls, an operation whose deadline has passed has ended, unless its timer is due and
has yet to fire. -/
theorem Tracks.resolved {engine : Engine} {time : Duration}
    (tracks : Tracks serial (some time) ⟨engine, []⟩)
    (coherent : Ledger.Coherent ⟨engine, [], []⟩) (past : time ≤ engine.now)
    (idle : ∀ timer ∈ engine.timers, engine.now < timer.deadline) :
    (engine.outcome? serial).isSome := by
  obtain ⟨id, own⟩ := tracks.registered
  obtain ⟨operation, found, rfl⟩ := Option.map_eq_some_iff.mp own
  have stands := Engine.status?_eq_some_iff.mpr ⟨operation, found, rfl, rfl⟩
  cases stage : operation.stage with
  | pending =>
      rw [stage] at stands
      obtain ⟨timer, armed, same⟩ :=
        (tracks.armed stands rfl).resolve_left fun ⟨key, member⟩ => by cases member
      cases tracks.due timer armed same
      exact absurd (idle timer armed) (Nat.not_lt_of_le past)
  | claimed =>
      rw [stage] at stands
      cases coherent.staged.claimed.mpr ⟨_, stands⟩
  | resolved outcome =>
      rw [stage] at stands
      rw [Engine.outcome?_eq_some_iff.mpr ⟨_, stands⟩]
      rfl

theorem untimed_of_outcome (coherent : moment.ledger.Coherent)
    (ended : (moment.engine.outcome? serial).isSome) :
    ∀ timer ∈ moment.engine.timers, timer.operation ≠ serial := by
  rintro timer armed rfl
  obtain ⟨-, -, place⟩ := coherent.timed timer armed
  exact not_live_of_outcome coherent ended (place.imp_left fun present => ⟨_, present⟩)

theorem Reachable.fired_of_outcome (reachable : moment.Reachable) (later : moment.Reaches after)
    (ended : (moment.engine.outcome? serial).isSome) (fired : serial ∈ after.fired) :
    serial ∈ moment.fired := by
  obtain ⟨outcome, reported⟩ := Option.isSome_iff_exists.mp ended
  induction later with
  | refl => exact fired
  | tail earlier move ih =>
      apply ih
      rcases move.fired with same | ⟨timer, armed, -, -, added⟩
      · rwa [same] at fired
      · rw [added, List.mem_append, List.mem_singleton] at fired
        refine fired.resolve_right fun own => ?_
        have still : _ = some outcome :=
          (Reaches.extends earlier reachable.coherent).outcome? reported
        exact untimed_of_outcome (reachable.reaches earlier).coherent (by rw [still]; rfl) timer
          armed own.symm

/-! ## What users see of a deadline -/

/-- An operation is ended by its timer at its deadline and not before, unless it has ended by
then. -/
structure InTime (serial : Serial) (deadline : Duration) (moment : Moment) : Prop where
  ended : moment.agenda = [] → deadline ≤ moment.engine.now →
    (∀ timer ∈ moment.engine.timers, moment.engine.now < timer.deadline) →
      (moment.engine.outcome? serial).isSome
  timer : moment.agenda = [] → ∀ timer ∈ moment.engine.timers,
    (moment.engine.beginFiring timer).2.Expiring serial → timer.deadline = deadline
  fired : serial ∈ moment.fired → deadline ≤ moment.engine.now

/-- No timer has to do with an operation. -/
structure Untimed (serial : Serial) (moment : Moment) : Prop where
  armed : ∀ timer ∈ moment.engine.timers, timer.operation ≠ serial
  timer : moment.agenda = [] → ∀ timer ∈ moment.engine.timers,
    ¬(moment.engine.beginFiring timer).2.Expiring serial
  fired : serial ∉ moment.fired

/-- Nothing has come of an operation in a part of a run, neither of its timer nor otherwise. -/
structure LeftAlone (serial : Serial) (moment after : Moment) : Prop where
  outcome : after.engine.outcome? serial = moment.engine.outcome? serial
  silent : Silent serial moment.engine after.engine
  fired : serial ∈ after.fired → serial ∈ moment.fired
  timer : ∀ timer, timer.operation = serial →
    timer ∉ after.engine.timers ∧ ∀ connection, after.engine.fire connection timer = after.engine

theorem Tracks.inTime {time : Duration} (tracks : Tracks serial (some time) moment)
    (coherent : moment.ledger.Coherent) : InTime serial time moment where
  ended := by
    intro finished past idle
    obtain ⟨engine, agenda⟩ := moment
    cases finished
    exact tracks.resolved coherent past idle
  timer := by
    intro finished timer armed expiring
    obtain ⟨engine, agenda⟩ := moment
    cases finished
    have own := Engine.expiring_beginFiring coherent armed expiring
    exact (Option.some.inj (tracks.due timer armed own)).symm
  fired := by
    intro member
    obtain ⟨limit, same, past⟩ := tracks.fired member
    cases same
    exact past

theorem Tracks.untimed (tracks : Tracks serial none moment) (coherent : moment.ledger.Coherent) :
    Untimed serial moment where
  armed := fun timer armed own => by cases tracks.due timer armed own
  timer := by
    intro finished timer armed expiring
    obtain ⟨engine, agenda⟩ := moment
    cases finished
    cases tracks.due timer armed (Engine.expiring_beginFiring coherent armed expiring)
  fired := fun member => by
    obtain ⟨limit, same, -⟩ := tracks.fired member
    cases same

theorem Reachable.leftAlone (reachable : moment.Reachable) (later : moment.Reaches after)
    (ended : (moment.engine.outcome? serial).isSome) : LeftAlone serial moment after := by
  obtain ⟨outcome, reported⟩ := Option.isSome_iff_exists.mp ended
  have still := reachable.outcome?_of_reaches later reported
  have untimed := untimed_of_outcome (reachable.reaches later).coherent
    (Option.isSome_iff_exists.mpr ⟨outcome, still⟩)
  refine ⟨still.trans reported.symm, reachable.silent later ended,
    reachable.fired_of_outcome later ended, fun timer own => ?_⟩
  have absent : timer ∉ after.engine.timers := fun armed => untimed timer armed own
  exact ⟨absent, fun connection => if_neg absent⟩

end Moment

end DirectoryClient
