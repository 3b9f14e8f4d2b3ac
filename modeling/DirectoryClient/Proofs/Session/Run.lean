import DirectoryClient.Proofs.Engine.Returned
import DirectoryClient.Session.Step

/-!
# Sessions are runs of an engine

Every step of a session is a part of a run of its engine, so what holds of all runs holds of all
sessions. The handles of a session are on the operations that its submissions have returned.
-/

namespace DirectoryClient

theorem Duration.le_max_left (first second : Duration) : first ≤ max first second := by
  change first ≤ if first ≤ second then second else first
  split
  · assumption
  · exact Nat.le_refl _

theorem Duration.le_max_right (first second : Duration) : second ≤ max first second := by
  change second ≤ if first ≤ second then second else first
  split
  · exact Nat.le_refl _
  · next later => exact Nat.le_of_not_le later

namespace Moment

variable {moment : Moment}

theorem settle_of_settled (settled : moment.engine.Settled) : moment.settle = moment := by
  rw [settle]
  split
  · next finished =>
      rw [Engine.release_of_settled settled, ← finished]
  · rfl

theorem settle_append_singleton (engine : Engine) (tasks : List Task) (task : Task) :
    settle ⟨engine, tasks ++ [task]⟩ = ⟨engine, tasks ++ [task]⟩ := by
  rw [settle, if_neg]
  exact List.append_ne_nil_of_right_ne_nil tasks (List.cons_ne_nil task [])

theorem reaches_finish (connection : Connection) (moment : Moment) :
    moment.settle.Reaches ⟨(moment.finish connection).release, []⟩ := by
  induction moment using Moment.finish.induct connection with
  | case1 moment finished =>
      obtain ⟨engine, agenda⟩ := moment
      cases agenda with
      | nil =>
          rw [finish]
          exact .refl
      | cons task rest => cases finished
  | case2 moment after step ih =>
      obtain ⟨engine, agenda⟩ := moment
      cases agenda with
      | nil => cases step
      | cons task rest =>
          have same : finish connection ⟨engine, task :: rest⟩ = after.finish connection := by
            cases step
            rw [finish]
            rfl
          rw [same]
          exact .head (.proceed ⟨connection, step⟩) ih

end Moment

namespace Engine

variable {engine : Engine}

theorem reaches_request (engine : Engine) (connection : Connection) {caller : Caller}
    (callback : Callback) (outside : caller = .client ∨ caller = .schedule) :
    Moment.Reaches ⟨engine, []⟩
      ⟨(engine.request connection caller callback).2.release, []⟩ := by
  have later := Moment.reaches_finish connection (engine.beginRequest caller callback).2
  simp only [beginRequest, Moment.settle_append_singleton] at later
  exact .head (.request engine callback outside) later

theorem reaches_finish_beginSubmit {holder : Holder} (held : engine.isHeld holder = true)
    (connection : Connection) (kind : OperationKind) (request : List UInt8)
    (timeout : Option Duration) :
    (engine.beginSubmit connection kind request timeout).2.Reaches
      ⟨(engine.submit connection kind request timeout).2.release, []⟩ := by
  have settled : (engine.beginSubmit connection kind request timeout).2.engine.Settled := by
    apply settled_of_held
    rw [holders_beginSubmit]
    exact true_mem_holders held
  have later := Moment.reaches_finish connection
    (engine.beginSubmit connection kind request timeout).2
  rwa [Moment.settle_of_settled settled] at later

theorem reaches_submit {holder : Holder} (held : engine.isHeld holder = true)
    (connection : Connection) (kind : OperationKind) (request : List UInt8)
    (timeout : Option Duration) :
    Moment.Reaches ⟨engine, []⟩
      ⟨(engine.submit connection kind request timeout).2.release, []⟩ :=
  .head (.submit held connection kind request timeout)
    (reaches_finish_beginSubmit held connection kind request timeout)

theorem reaches_fire (engine : Engine) (connection : Connection) {timer : Timer}
    (due : timer.deadline ≤ engine.now) (settled : engine.Settled) :
    Moment.Reaches ⟨engine, []⟩ ⟨(engine.fire connection timer).release, []⟩ := by
  rw [fire]
  split
  · next armed =>
      have later := Moment.reaches_finish connection (engine.beginFiring timer).2
      simp only [beginFiring, Moment.settle_append_singleton] at later
      exact .head (.fire armed due) later
  · rw [release_of_settled settled]
    exact .refl

theorem submitted_submit (engine : Engine) (connection : Connection) (kind : OperationKind)
    (request : List UInt8) (timeout : Option Duration) :
    (engine.submit connection kind request timeout).2.submitted =
      engine.submitted ++
        (engine.submit connection kind request timeout).1.toOption.toList := by
  simp only [submit, Moment.submitted_finish, beginSubmit]
  split
  · next probed exhausted =>
      obtain ⟨ids, rfl⟩ := register_eq_none exhausted
      rw [Moment.returned_of_submitting rfl, submitted_log]
      rfl
  · next id registered found =>
      have same : registered.submitted = engine.submitted := by
        rw [frame_register found]
        rfl
      rw [Moment.returned_append, Moment.returned_of_submitting (Task.submitting_ofReaction _ _ _),
        submitted_log, same]
      split <;> simp [Task.returning, Task.returning?, Except.toOption, Event.submitted?]

theorem submitted_request (engine : Engine) (connection : Connection) (caller : Caller)
    (callback : Callback) :
    (engine.request connection caller callback).2.submitted = engine.submitted := by
  rw [request, Moment.submitted_finish,
    Moment.returned_of_submitting (engine.submitting_beginRequest caller callback),
    submitted_beginRequest]

theorem submitted_fire (engine : Engine) (connection : Connection) (timer : Timer) :
    (engine.fire connection timer).submitted = engine.submitted := by
  rw [fire]
  split
  · have idle := submitting_beginCall { engine with timers := engine.timers.erase timer }
      (.expire timer.messageId .timeout)
    have same := submitted_beginCall { engine with timers := engine.timers.erase timer }
      (.expire timer.messageId .timeout)
    rw [Moment.submitted_finish]
    simp only [beginFiring]
    rw [Moment.returned_append, Moment.returned_of_submitting idle, same]
    exact List.append_nil _
  · rfl

end Engine

namespace Session

/-- Between steps, nothing is pending on an engine that nobody can reach, and the handles are on the
operations that submissions have returned. -/
structure Sound (session : Session) : Prop where
  settled : session.engine.Settled
  handles : ∀ {serial}, serial ∈ session.handles ↔ serial ∈ session.engine.submitted

/-- What becomes of a session in its run. -/
structure Leads (session after : Session) : Prop where
  reaches : Moment.Reaches ⟨session.engine, []⟩ ⟨after.engine, []⟩
  handles : session.handles <+: after.handles
  sound : after.Sound

variable {session middle after : Session}

theorem Sound.settle_eq (sound : session.Sound) : session.settle = session := by
  rw [Session.settle, Engine.release_of_settled sound.settled]

theorem Sound.leads (sound : session.Sound) : session.Leads session :=
  ⟨.refl, List.prefix_refl _, sound⟩

theorem Leads.trans (one : session.Leads middle) (two : middle.Leads after) : session.Leads after :=
  ⟨Relation.ReflTransGen.trans one.reaches two.reaches, one.handles.trans two.handles, two.sound⟩

theorem Leads.getElem?_handles {handle : Handle} {serial : Serial} (leads : session.Leads after)
    (found : session.handles[handle]? = some serial) : after.handles[handle]? = some serial := by
  obtain ⟨added, same⟩ := leads.handles
  rw [← same, List.getElem?_append_left (List.getElem?_eq_some_iff.mp found).1, found]

theorem sound_start (options : Options) (ids : IdSequence) : (start options ids).Sound :=
  ⟨Engine.settled_of_held List.mem_cons_self, by simp [start, Engine.submitted]⟩

theorem Sound.leads_settle (sound : session.Sound)
    (reaches : Moment.Reaches ⟨session.engine, []⟩ ⟨after.engine.release, []⟩)
    (handles : after.handles = session.handles)
    (submitted : after.engine.submitted = session.engine.submitted) :
    session.Leads after.settle where
  reaches := reaches
  handles := handles ▸ List.prefix_refl _
  sound :=
    { settled := after.engine.settled_release
      handles := by
        intro serial
        change serial ∈ after.handles ↔ serial ∈ after.engine.release.submitted
        rw [Engine.submitted_release, handles, submitted]
        exact sound.handles }

theorem Sound.leads_same (sound : session.Sound) (engine : after.engine = session.engine)
    (handles : after.handles = session.handles) : session.Leads after.settle := by
  refine sound.leads_settle ?_ handles (by rw [engine])
  rw [engine, Engine.release_of_settled sound.settled]
  exact .refl

theorem Sound.leads_addHandle {serial : Serial} (sound : session.Sound)
    (member : serial ∈ session.handles) : session.Leads (session.addHandle serial).2.settle := by
  have handled : (session.addHandle serial).2.Sound := by
    refine ⟨sound.settled, ?_⟩
    intro other
    change other ∈ session.handles ++ [serial] ↔ other ∈ session.engine.submitted
    rw [List.mem_append, List.mem_singleton, ← sound.handles]
    exact ⟨fun found => found.elim id fun same => same ▸ member, .inl⟩
  rw [handled.settle_eq]
  exact ⟨.refl, List.prefix_append _ _, handled⟩

/-! ## The passing of time -/

theorem Sound.leads_moveTo (sound : session.Sound) (time : Duration) :
    session.Leads (session.moveTo time) where
  reaches := .single (.pass (Duration.le_max_left _ _))
  handles := List.prefix_refl _
  sound := ⟨sound.settled.congr rfl rfl rfl, sound.handles⟩

theorem Sound.leads_happen (sound : session.Sound) (due : Due) :
    session.Leads (session.happen due) := by
  have moved := sound.leads_moveTo due.time
  apply moved.trans
  cases due with
  | timer armed =>
      exact moved.sound.leads_settle
        (Engine.reaches_fire _ _ (Duration.le_max_right _ _) moved.sound.settled) rfl
        (Engine.submitted_fire _ _ _)
  | plan made =>
      exact moved.sound.leads_settle (Engine.reaches_request _ _ _ (.inr rfl)) rfl
        (Engine.submitted_request _ _ _ _)

theorem Sound.leads_pass (sound : session.Sound) (enough : Session → Bool) (dues : List Due) :
    session.Leads (session.pass enough dues) := by
  induction dues generalizing session with
  | nil => exact sound.leads
  | cons due rest ih =>
      rw [pass]
      split
      · exact sound.leads
      · have first := sound.leads_happen due
        exact first.trans (ih first.sound)

theorem Sound.leads_sleep (sound : session.Sound) (span : Duration) :
    session.Leads (session.sleep span) := by
  have passed := sound.leads_pass (fun _ => false)
    (session.agenda (some (session.engine.now + span)))
  exact passed.trans (passed.sound.leads_moveTo _)

theorem Sound.leads_await (sound : session.Sound) (serial : Serial) (limit : Option Duration) :
    session.Leads (session.await serial limit).2 := by
  have passed := sound.leads_pass (·.isOver serial)
    (session.agenda (limit.map (session.engine.now + ·)))
  rw [await]
  split
  · exact passed
  · split
    · exact passed
    · exact passed
    · exact passed.trans (passed.sound.leads_moveTo _)

/-! ## Steps -/

theorem Leads.settle (later : session.Leads after) : session.Leads after.settle :=
  later.trans (later.sound.leads_same rfl rfl)

theorem Sound.leads_submit (sound : session.Sound) {holder : Holder}
    (held : session.engine.isHeld holder = true) (kind : OperationKind) (request : List UInt8)
    (timeout : Option Duration) :
    session.Leads (session.submit kind request timeout).2.settle := by
  have reaches := Engine.reaches_submit held session.connection kind request timeout
  have submitted := session.engine.submitted_submit session.connection kind request timeout
  rw [Session.submit]
  split
  · next reason engine refused =>
      rw [refused] at reaches submitted
      exact sound.leads_settle reaches rfl (submitted.trans (List.append_nil _))
  · next serial engine returned =>
      rw [returned] at reaches submitted
      refine ⟨reaches, List.prefix_append _ _, ⟨engine.settled_release, ?_⟩⟩
      intro other
      change other ∈ session.handles ++ [serial] ↔ other ∈ engine.release.submitted
      have same : engine.submitted = session.engine.submitted ++ [serial] := submitted
      rw [Engine.submitted_release, same, List.mem_append, List.mem_append, sound.handles]

/-- What holds of a session and after every action on a handle holds after an action on any
handle. -/
theorem of_withHandle (holds : Session → Prop) {handle : Handle}
    {action : Serial → Answer × Session} (missing : holds session)
    (each : ∀ serial ∈ session.handles, holds (action serial).2) :
    holds (session.withHandle handle action).2 := by
  rw [withHandle]
  split
  · next serial found => exact each serial (List.mem_of_getElem? found)
  · exact missing

theorem of_withEngine (holds : Session → Prop) {holder : Holder} {action : Answer × Session}
    (unheld : holds session) (held : session.engine.isHeld holder = true → holds action.2) :
    holds (session.withEngine holder action).2 := by
  rw [withEngine]
  split
  · next isHeld => exact held isHeld
  · exact unheld

theorem leads_withHandle {handle : Handle} {action : Serial → Answer × Session}
    (sound : session.Sound)
    (each : ∀ serial ∈ session.handles, session.Leads (action serial).2.settle) :
    session.Leads (session.withHandle handle action).2.settle :=
  of_withHandle (session.Leads ·.settle) (sound.leads_same rfl rfl) each

theorem leads_withEngine {holder : Holder} {action : Answer × Session} (sound : session.Sound)
    (held : session.engine.isHeld holder = true → session.Leads action.2.settle) :
    session.Leads (session.withEngine holder action).2.settle :=
  of_withEngine (session.Leads ·.settle) (sound.leads_same rfl rfl) held

theorem Sound.leads_perform (sound : session.Sound) (step : Step) :
    session.Leads (session.perform step).2 := by
  change session.Leads (session.take step).2.settle
  cases step with
  | submit holder kind request timeout =>
      exact leads_withEngine sound fun held => sound.leads_submit held kind request timeout
  | submitDefault holder kind request =>
      exact leads_withEngine sound fun held => sound.leads_submit held kind request _
  | request callback =>
      exact sound.leads_settle (Engine.reaches_request _ _ _ (.inl rfl)) rfl
        (Engine.submitted_request _ _ _ _)
  | inspect handle =>
      refine leads_withHandle sound fun serial _ => ?_
      split <;> exact sound.leads_same rfl rfl
  | cloneHandle handle =>
      exact leads_withHandle sound fun serial member => sound.leads_addHandle member
  | recordEntry handle =>
      refine leads_withHandle sound fun serial _ => sound.leads_settle ?_ rfl ?_
      · have settled : (session.engine.countEntry serial).Settled := sound.settled.congr rfl rfl rfl
        rw [Engine.release_of_settled settled]
        exact .single (.recordEntry _ serial)
      · exact Engine.submitted_countEntry serial
  | recordReference handle =>
      refine leads_withHandle sound fun serial _ => sound.leads_settle ?_ rfl ?_
      · have settled : (session.engine.countReference serial).Settled :=
          sound.settled.congr rfl rfl rfl
        rw [Engine.release_of_settled settled]
        exact .single (.recordReference _ serial)
      · exact Engine.submitted_countReference serial
  | await handle limit =>
      refine leads_withHandle sound fun serial _ => ?_
      have later := (sound.leads_await serial limit).settle
      revert later
      split <;> next answered => rw [answered]; exact id
  | poll handle =>
      refine leads_withHandle sound fun serial _ => ?_
      split <;> exact sound.leads_same rfl rfl
  | sleep span => exact (sound.leads_sleep span).settle
  | plan span callback => exact sound.leads_same rfl rfl
  | reconnect connection => exact sound.leads_same rfl rfl
  | cloneEngine holder =>
      refine leads_withEngine sound fun held => sound.leads_settle ?_ rfl rfl
      have settled : session.engine.clone.2.Settled :=
        Engine.settled_of_held (List.mem_append_right _ List.mem_cons_self)
      change Moment.Reaches _ ⟨session.engine.clone.2.release, []⟩
      rw [Engine.release_of_settled settled]
      exact .single (.clone held)
  | dropEngine holder =>
      exact leads_withEngine sound fun held => sound.leads_settle (.single (.drop held)) rfl rfl
  | renumber id =>
      refine sound.leads_settle ?_ rfl rfl
      have settled : Engine.Settled { session.engine with ids := ⟨id.value⟩ } :=
        sound.settled.congr rfl rfl rfl
      change Moment.Reaches _ ⟨Engine.release { session.engine with ids := ⟨id.value⟩ }, []⟩
      rw [Engine.release_of_settled settled]
      exact .single (.renumber _ _)

theorem Sound.leads_run (sound : session.Sound) (steps : List Step) :
    session.Leads (session.run steps).2 := by
  induction steps generalizing session with
  | nil => exact sound.leads
  | cons step rest ih =>
      have first := sound.leads_perform step
      exact first.trans (ih first.sound)

theorem leads_run_start (options : Options) (ids : IdSequence) (steps : List Step) :
    (start options ids).Leads ((start options ids).run steps).2 :=
  (sound_start options ids).leads_run steps

theorem reachable_run (options : Options) (ids : IdSequence) (steps : List Step) :
    Moment.Reachable ⟨((start options ids).run steps).2.engine, []⟩ :=
  ⟨options, ids, (leads_run_start options ids steps).reaches⟩

end Session

end DirectoryClient
