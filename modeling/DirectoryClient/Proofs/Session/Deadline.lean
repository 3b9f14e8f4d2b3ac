import DirectoryClient.Proofs.Engine.Correlation
import DirectoryClient.Proofs.Engine.Deadline
import DirectoryClient.Proofs.Session.Resolution

namespace DirectoryClient

/-- A step submits a request of a kind with a timeout, its own or that of the options. -/
inductive Step.Submits (options : Options) (kind : OperationKind) :
    Step → Option Duration → Prop where
  | submit (holder : Holder) (request : List UInt8) (timeout : Option Duration) :
      Submits options kind (.submit holder kind request timeout) timeout
  | submitDefault (holder : Holder) (request : List UInt8) :
      Submits options kind (.submitDefault holder kind request) (options.responseTimeoutFor kind)

namespace Engine

variable {engine : Engine} {timer : Timer}

theorem fst_submit (engine : Engine) (connection : Connection) (kind : OperationKind)
    (request : List UInt8) (timeout other : Option Duration) :
    (engine.submit connection kind request timeout).1 =
      (engine.submit connection kind request other).1 := by
  simp only [submit, beginSubmit]
  split
  · rfl
  · next id registered found => cases (connection.transmit id).failure <;> rfl

theorem changes_request (coherent : Ledger.Coherent ⟨engine, [], []⟩) (connection : Connection)
    (caller : Caller) (callback : Callback) : Ledger.Changes ⟨engine, [], []⟩
      ⟨(engine.request connection caller callback).2, [], []⟩ := by
  have begun := changes_beginRequest [] coherent caller callback
  rw [Moment.within_nil] at begun
  exact begun.trans (Moment.Course.changes_alone (Moment.exists_course connection _)
    (coherent.changes begun))

theorem changes_fire (coherent : Ledger.Coherent ⟨engine, [], []⟩) (connection : Connection)
    (timer : Timer) : Ledger.Changes ⟨{ engine with timers := engine.timers.erase timer }, [], []⟩
      ⟨engine.fire connection timer, [], []⟩ := by
  have disarmed := coherent.disarm timer
  rw [fire]
  split
  · have begun := changes_beginAnswered [] disarmed (.timer timer.operation)
      (.expire timer.messageId .timeout)
    rw [Moment.within_nil] at begun
    exact begun.trans (Moment.Course.changes_alone (Moment.exists_course connection _)
      (disarmed.changes begun))
  · next unarmed =>
      rw [List.erase_of_not_mem unarmed]
      exact .refl

theorem not_mem_timers_fire (reachable : Moment.Reachable ⟨engine, []⟩) (connection : Connection)
    (timer : Timer) : timer ∉ (engine.fire connection timer).timers := by
  intro armed
  have changes := changes_fire reachable.coherent connection timer
  have finished := (reachable.coherent.disarm timer).changes changes
  have before : timer ∈ engine.timers :=
    List.mem_of_mem_erase ((changes.mem_timers rfl).2 timer armed)
  obtain ⟨operation, -, resolves⟩ := reachable.resolves_beginFiring before
  obtain ⟨outcome, ended, -⟩ := (resolves _ (Moment.exists_course connection _)).outcome
  rw [fire, if_pos before] at finished armed
  have resolved := Option.isSome_iff_exists.mpr ⟨outcome, ended⟩
  exact @Moment.untimed_of_outcome ⟨_, []⟩ _ finished resolved timer armed rfl

end Engine

namespace Session

variable {session : Session} {timer : Timer} {wake : Duration}

theorem time_le_of_mem_agenda {due : Due} (member : due ∈ session.agenda (some wake)) :
    due.time ≤ wake := by
  rw [agenda, List.mem_mergeSort, List.mem_filter, Option.all_some, decide_eq_true_eq] at member
  exact member.2

theorem mem_agenda_of_mem_timers (armed : timer ∈ session.engine.timers)
    (due : timer.deadline ≤ wake) : .timer timer ∈ session.agenda (some wake) := by
  rw [agenda, List.mem_mergeSort, List.mem_filter, Option.all_some, decide_eq_true_eq]
  exact ⟨List.mem_append_left _ (List.mem_map_of_mem armed), due⟩

theorem max_le {first second limit : Duration} (one : first ≤ limit) (two : second ≤ limit) :
    max first second ≤ limit := by
  change (if first ≤ second then second else first) ≤ limit
  split <;> assumption

theorem happen_deadlines (reachable : Moment.Reachable ⟨session.engine, []⟩) (due : Due) :
    (session.happen due).engine.now = max session.engine.now due.time ∧
      (∀ timer ∈ (session.happen due).engine.timers, timer ∈ session.engine.timers) ∧
      ∀ timer, due = .timer timer → timer ∉ (session.happen due).engine.timers := by
  have moved : Moment.Reachable ⟨(session.moveTo due.time).engine, []⟩ :=
    reachable.reaches (.single (.pass (Duration.le_max_left _ _)))
  cases due with
  | timer armed =>
      have changes := Engine.changes_fire moved.coherent session.connection armed
      have released : Ledger.Changes _ _ := changes.trans
        (Engine.changes_release ((moved.coherent.disarm armed).changes changes))
      refine ⟨released.now, fun timer left => ?_, fun timer same => ?_⟩
      · exact List.mem_of_mem_erase ((released.mem_timers rfl).2 timer left)
      · cases same
        exact fun left => Engine.not_mem_timers_fire moved session.connection armed
          (Engine.mem_timers_release left)
  | plan made =>
      have changes := Engine.changes_request moved.coherent session.connection .schedule
        made.callback
      have released : Ledger.Changes _ _ :=
        changes.trans (Engine.changes_release (moved.coherent.changes changes))
      exact ⟨released.now, (released.mem_timers rfl).2, nofun⟩

/-- Letting things happen until a time leaves no timer armed that was among them. -/
theorem pass_deadlines (sound : session.Sound) (reachable : Moment.Reachable ⟨session.engine, []⟩)
    (early : session.engine.now ≤ wake) {dues : List Due}
    (reached : ∀ due ∈ dues, due.time ≤ wake) :
    (session.pass (fun _ => false) dues).engine.now ≤ wake ∧
      ∀ timer ∈ (session.pass (fun _ => false) dues).engine.timers,
        timer ∈ session.engine.timers ∧ .timer timer ∉ dues := by
  induction dues generalizing session with
  | nil => exact ⟨early, fun timer armed => ⟨armed, List.not_mem_nil⟩⟩
  | cons due rest ih =>
      have leads := sound.leads_happen due
      obtain ⟨now, timers, gone⟩ := happen_deadlines reachable due
      obtain ⟨past, left⟩ := ih leads.sound (reachable.reaches leads.reaches)
        (now ▸ max_le early (reached due List.mem_cons_self))
        fun later member => reached later (List.mem_cons_of_mem due member)
      refine ⟨past, fun timer armed => ?_⟩
      obtain ⟨still, absent⟩ := left timer armed
      refine ⟨timers timer still, fun member => ?_⟩
      rcases List.mem_cons.mp member with same | later
      · exact gone timer same.symm still
      · exact absent later

/-- Whoever wakes up finds no timer that is due. -/
theorem not_due_of_sleep (sound : session.Sound) (reachable : Moment.Reachable ⟨session.engine, []⟩)
    (span : Duration) : ∀ timer ∈ (session.sleep span).engine.timers,
      (session.sleep span).engine.now < timer.deadline := by
  intro timer armed
  have early : session.engine.now ≤ session.engine.now + span := Nat.le_add_right _ _
  obtain ⟨past, left⟩ := pass_deadlines sound reachable early
    fun due member => time_le_of_mem_agenda member
  obtain ⟨before, absent⟩ := left timer armed
  have later : session.engine.now + span < timer.deadline :=
    Nat.lt_of_not_le fun due => absent (mem_agenda_of_mem_timers before due)
  exact Nat.lt_of_le_of_lt (max_le past (Nat.le_refl _)) later

theorem not_due_of_perform_sleep (sound : session.Sound)
    (reachable : Moment.Reachable ⟨session.engine, []⟩) (span : Duration) :
    ∀ timer ∈ (session.perform (.sleep span)).2.engine.timers,
      (session.perform (.sleep span)).2.engine.now < timer.deadline := by
  intro timer armed
  have slept := reachable.reaches (sound.leads_sleep span).reaches
  have now : (session.sleep span).engine.release.now = (session.sleep span).engine.now :=
    (Engine.changes_release slept.coherent).now
  change (session.sleep span).engine.release.now < timer.deadline
  rw [now]
  exact not_due_of_sleep sound reachable span timer (Engine.mem_timers_release armed)

/-- The handle that a submission gives is on an operation of its engine, which goes on from the
moment at which the submission began. -/
theorem exists_beginSubmit {step : Step} {kind : OperationKind} {timeout : Option Duration}
    {handle : Handle} {id : MessageId} (submits : step.Submits session.engine.options kind timeout)
    (answered : (session.perform step).1 = .submitted handle id) :
    ∃ holder request serial started, session.engine.isHeld holder = true ∧
      session.engine.beginSubmit session.connection kind request timeout = (.ok serial, started) ∧
      started.Reaches ⟨(session.perform step).2.engine, []⟩ ∧
      (session.perform step).2.handles[handle]? = some serial := by
  obtain ⟨holder, request, same⟩ : ∃ holder request,
      session.take step = session.withEngine holder (session.submit kind request timeout) := by
    cases submits <;> exact ⟨_, _, rfl⟩
  simp only [perform, same] at answered ⊢
  rw [withEngine] at answered ⊢
  split at answered
  · next held =>
      have reaches :=
        Engine.reaches_finish_beginSubmit held session.connection kind request timeout
      simp only [held, if_true, submit, Engine.submit] at answered reaches ⊢
      cases begun : session.engine.beginSubmit session.connection kind request timeout with
      | mk answer started =>
          rw [begun] at answered reaches
          cases answer with
          | error reason => cases answered
          | ok serial =>
              cases answered
              exact ⟨holder, request, serial, started, held, begun, reaches,
                List.getElem?_concat_length⟩
  · cases answered

end Session

namespace Engine

variable {start span : Duration} {timeout : Option Duration}

theorem timerDeadline_of_fits (positive : .zero < span)
    (short : span ≤ .ofSeconds (30 * 365 * 24 * 60 * 60) 0) :
    timerDeadline start (some span) = some (start + span) :=
  if_pos ⟨positive, short⟩

theorem timerDeadline_eq_none (unfit : ∀ span, timeout = some span →
    ¬(.zero < span ∧ span ≤ .ofSeconds (30 * 365 * 24 * 60 * 60) 0)) :
    timerDeadline start timeout = none := by
  cases timeout with
  | none => rfl
  | some span => exact if_neg (unfit span rfl)

end Engine

/-- A timeout ends an operation in time and not before, and it leaves alone what has ended. -/
theorem ends_by_deadline {engine : Engine} {holder : Holder} {connection : Connection}
    {kind : OperationKind} {request : List UInt8} {timeout : Option Duration} {serial : Serial}
    {started : Moment} (reachable : Moment.Reachable ⟨engine, []⟩)
    (held : engine.isHeld holder = true)
    (begun : engine.beginSubmit connection kind request timeout = (.ok serial, started)) :
    (∀ span, timeout = some span → .zero < span → span ≤ .ofSeconds (30 * 365 * 24 * 60 * 60) 0 →
      ∀ after, started.Reaches after → after.InTime serial (engine.now + span)) ∧
    (∀ middle, started.Reaches middle → (middle.engine.outcome? serial).isSome →
      ∀ after, middle.Reaches after → middle.LeftAlone serial after) ∧
    ((∀ span, timeout = some span →
        ¬(.zero < span ∧ span ≤ .ofSeconds (30 * 365 * 24 * 60 * 60) 0)) →
      ∀ after, started.Reaches after → after.Untimed serial) ∧
    (∀ other, (engine.submit connection kind request other).1 = .ok serial) ∧
    ∀ options ids steps step kind timeout handle id more,
      let session := ((Session.start options ids).run steps).2
      let later := ((session.perform step).2.run more).2
      step.Submits session.engine.options kind timeout →
        (session.perform step).1 = .submitted handle id →
          (∃ holder request serial started, session.engine.isHeld holder = true ∧
            session.engine.beginSubmit session.connection kind request timeout =
              (.ok serial, started) ∧
            started.Reaches ⟨later.engine, []⟩ ∧ later.handles[handle]? = some serial) ∧
          (∀ span, timeout = some span → .zero < span →
            span ≤ .ofSeconds (30 * 365 * 24 * 60 * 60) 0 →
              session.engine.now + span ≤ later.engine.now →
                (∀ timer ∈ later.engine.timers, later.engine.now < timer.deadline) →
                  ∃ outcome, (later.perform (.poll handle)).1 = .outcome outcome) ∧
          ∀ pause, ∀ timer ∈ (later.perform (.sleep pause)).2.engine.timers,
            (later.perform (.sleep pause)).2.engine.now < timer.deadline := by
  have start := reachable.beginSubmit held begun
  have tracks := reachable.tracks_beginSubmit begun
  refine ⟨?_, ?_, ?_, ?_, ?_⟩
  · rintro span rfl positive short after later
    rw [Engine.timerDeadline_of_fits positive short] at tracks
    exact (Moment.Reaches.tracks later start.coherent tracks).inTime (start.reaches later).coherent
  · exact fun middle earlier ended after later => (start.reaches earlier).leftAlone later ended
  · intro unfit after later
    rw [Engine.timerDeadline_eq_none unfit] at tracks
    exact (Moment.Reaches.tracks later start.coherent tracks).untimed (start.reaches later).coherent
  · intro other
    rw [engine.fst_submit connection kind request other timeout, Engine.submit, begun]
  · intro options ids steps step kind timeout handle id more session later submits answered
    have reached : Moment.Reachable ⟨session.engine, []⟩ :=
      Session.reachable_run options ids steps
    have sound := (Session.leads_run_start options ids steps).sound
    have first : session.Leads (session.perform step).2 := sound.leads_perform step
    have rest : (session.perform step).2.Leads later := first.sound.leads_run more
    have final : Moment.Reachable ⟨later.engine, []⟩ :=
      (reached.reaches first.reaches).reaches rest.reaches
    obtain ⟨holder, request, serial, started, held, begun, reaches, found⟩ :=
      Session.exists_beginSubmit submits answered
    have present : later.handles[handle]? = some serial := rest.getElem?_handles found
    have continues := Relation.ReflTransGen.trans reaches rest.reaches
    refine ⟨⟨holder, request, serial, started, held, begun, continues, present⟩, ?_, ?_⟩
    · rintro span rfl positive short past idle
      have tracks := reached.tracks_beginSubmit begun
      rw [Engine.timerDeadline_of_fits positive short] at tracks
      have coherent := (reached.beginSubmit held begun).coherent
      have ended := (Moment.Reaches.tracks continues coherent tracks).resolved final.coherent past
        idle
      obtain ⟨outcome, reported⟩ := Option.isSome_iff_exists.mp ended
      exact ⟨outcome, Session.poll_eq_outcome_iff.mpr ⟨serial, present, reported⟩⟩
    · exact fun pause => Session.not_due_of_perform_sleep rest.sound final pause

/-- A request without a timeout waits for its response. -/
def Session.unlimited : Session :=
  ((Session.start {} (.startingAt 1)).run [.submit 0 .add [] none, .sleep (.ofSeconds 1 0)]).2

theorem ends_by_deadline_search :
    let first := (Session.unlimited.perform (.submit 0 .search [] (some (.ofSeconds 5 0)))).2
    let second := (first.run [.sleep (.ofSeconds 6 0)]).2
    let third := (second.run [.request ⟨0, .failAll .unavailable "gone"⟩]).2
    (second.engine.outcome? 1).isSome ∧ .ofSeconds 6 0 ≤ second.engine.now ∧
      Moment.LeftAlone 1 ⟨second.engine, []⟩ ⟨third.engine, []⟩ := by
  intro first second third
  have reachable : Moment.Reachable ⟨Session.unlimited.engine, []⟩ := Session.reachable_run _ _ _
  have sound : Session.unlimited.Sound := (Session.leads_run_start _ _ _).sound
  have one : Session.unlimited.Leads first := sound.leads_perform _
  have two : first.Leads second := one.sound.leads_run _
  have three : second.Leads third := two.sound.leads_run _
  have submitted : (Session.unlimited.perform (.submit 0 .search []
      (some (.ofSeconds 5 0)))).1 = .submitted 1 ⟨2⟩ := by decide +kernel
  obtain ⟨holder, request, serial, started, held, begun, reaches, found⟩ :=
    Session.exists_beginSubmit (.submit 0 [] _) submitted
  have handles : first.handles = [0, 1] := by decide +kernel
  have own : serial = 1 := by
    change first.handles[1]? = some serial at found
    rw [handles] at found
    cases found
    rfl
  subst own
  obtain ⟨inTime, leftAlone, -⟩ := ends_by_deadline reachable held begun
  have slept := Relation.ReflTransGen.trans reaches two.reaches
  have timely := inTime _ rfl (by decide) (by decide) _ slept
  have ended := timely.ended rfl (by decide +kernel) (by decide +kernel)
  have past := timely.fired (by decide +kernel)
  have start : Session.unlimited.engine.now = .ofSeconds 1 0 := by decide +kernel
  rw [start] at past
  exact ⟨ended, past, leftAlone _ slept ended _ three.reaches⟩

end DirectoryClient
