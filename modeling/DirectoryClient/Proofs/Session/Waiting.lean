import DirectoryClient.Proofs.Session.Agenda
import DirectoryClient.Proofs.Session.Pending
import Mathlib.Data.List.Infix

namespace DirectoryClient

namespace Answer

/-- What whoever looks at an operation is told. -/
def ofOutcome : Option Outcome → Answer
  | some reported => .outcome reported
  | none => .unresolved

/-- What whoever waits for an operation is told, if anything. -/
def ofWait : Option (Except AwaitError Outcome) → Answer
  | some (.ok reported) => .outcome reported
  | some (.error reason) => .failed reason
  | none => .endless

end Answer

namespace Session

variable {session after : Session} {handle : Handle} {serial : Serial} {limit : Option Duration}

theorem Sound.exists_operation (sound : session.Sound)
    (reachable : Moment.Reachable ⟨session.engine, []⟩) (held : serial ∈ session.handles) :
    ∃ operation, session.engine.operation? serial = some operation :=
  (reachable.present_iff rfl (sound.handles.mp held)).imp fun _ => And.left

/-! ## What a wait comes to -/

/-- A wait goes through the agenda until the operation has ended. If it is given up, it is a
sleep. -/
inductive Awaits (session : Session) (serial : Serial) (limit : Option Duration) :
    Option (Except AwaitError Outcome) × Session → Prop where
  | ended {done left outcome}
      (split : session.agenda (limit.map (session.engine.now + ·)) = done ++ left)
      (reported : (session.happenAll done).engine.outcome? serial = some outcome) :
      Awaits session serial limit (some (.ok outcome), session.happenAll done)
  | elapsed {span operation} (limited : limit = some span)
      (found : session.engine.operation? serial = some operation)
      (unresolved : (session.sleep span).engine.outcome? serial = none) :
      Awaits session serial limit (some (.error (.elapsed operation.messageId)),
        session.sleep span)
  | endless (unlimited : limit = none)
      (unresolved :
        (session.happenAll (session.agenda none)).engine.outcome? serial = none) :
      Awaits session serial limit (none, session.happenAll (session.agenda none))

theorem awaits_await (sound : session.Sound) (reachable : Moment.Reachable ⟨session.engine, []⟩)
    (held : serial ∈ session.handles) (limit : Option Duration) :
    session.Awaits serial limit (session.await serial limit) := by
  obtain ⟨done, left, split, passed, stopped⟩ := session.exists_pass (·.isOver serial)
    (session.agenda (limit.map (session.engine.now + ·)))
  have leads := sound.leads_happenAll done
  obtain ⟨before, known⟩ := sound.exists_operation reachable held
  obtain ⟨operation, found⟩ := leads.sound.exists_operation (reachable.reaches leads.reaches)
    (leads.handles.subset held)
  have reported : (session.happenAll done).engine.outcome? serial = operation.outcome? := by
    rw [Engine.outcome?, found]
    rfl
  simp only [await, passed, found, known, Option.map_some, Option.getD_some]
  cases ended : operation.outcome? with
  | some outcome => exact .ended split (reported.trans ended)
  | none =>
      have unresolved := reported.trans ended
      have waiting : (session.happenAll done).isOver serial ≠ true := by
        simp [isOver, found, Operation.isResolved, ended]
      obtain rfl := stopped.resolve_right waiting
      rw [List.append_nil] at split
      subst split
      cases limit with
      | none => exact .endless rfl unresolved
      | some span =>
          have slept := session.sleep_eq span
          have given : Awaits session serial (some span) _ := .elapsed rfl known (slept ▸ unresolved)
          rwa [slept] at given

theorem now_sleep (sound : session.Sound) (reachable : Moment.Reachable ⟨session.engine, []⟩)
    (span : Duration) : (session.sleep span).engine.now = session.engine.now + span := by
  rw [sleep_eq]
  apply Duration.max_eq_right
  obtain ⟨-, -, stands | ⟨last, member, stands⟩⟩ :=
    now_happenAll sound reachable (session.agenda (some (session.engine.now + span)))
  · rw [stands]
    exact Nat.le_add_right _ _
  · exact stands ▸ time_le_of_mem_agenda member

/-- A wait for an operation that has not ended does what a sleep does that takes as long. -/
theorem snd_await (apart : session.DistinctTimes) (onTime : session.OnTime) (sound : session.Sound)
    (reachable : Moment.Reachable ⟨session.engine, []⟩) (held : serial ∈ session.handles)
    (unresolved : session.engine.outcome? serial = none) (limit : Option Duration) :
    (session.await serial limit).2 =
      session.sleep ((session.await serial limit).2.engine.now - session.engine.now) := by
  have awaits := awaits_await sound reachable held limit
  generalize session.await serial limit = result at awaits
  cases awaits with
  | @ended done left outcome split reported =>
      have early : (limit.map (session.engine.now + ·)).all (session.engine.now ≤ ·) = true := by
        cases limit with
        | none => rfl
        | some span => exact decide_eq_true (Nat.le_add_right _ _)
      refine (sleep_of_split apart onTime sound reachable split early fun _ nothing => ?_).symm
      -- If nothing has happened, then the operation had ended before the wait.
      subst nothing
      cases unresolved.symm.trans reported
  | elapsed limited found unresolved =>
      rw [now_sleep sound reachable, Duration.add_sub_cancel_left]
  | endless unlimited unresolved =>
      exact (sleep_of_split apart onTime sound reachable (List.append_nil _).symm rfl
        fun rest => absurd rfl rest).symm

/-! ## Between steps nothing is overdue -/

theorem onTime_iff : session.OnTime ↔
    (∀ timer ∈ session.engine.timers, session.engine.now ≤ timer.deadline) ∧
      ∀ made ∈ session.plans, session.engine.now ≤ made.due :=
  forall_toCome

theorem OnTime.keep (onTime : session.OnTime) (now : after.engine.now = session.engine.now)
    (timers : ∀ timer ∈ after.engine.timers, timer ∈ session.engine.timers)
    (plans : after.plans = session.plans) : after.OnTime := by
  obtain ⟨armed, planned⟩ := onTime_iff.mp onTime
  rw [onTime_iff, now, plans]
  exact ⟨fun timer member => armed timer (timers timer member), planned⟩

theorem OnTime.settle (onTime : session.OnTime) : session.settle.OnTime :=
  onTime.keep (Engine.now_release _) (fun _ => Engine.mem_timers_release) rfl

theorem OnTime.sleep (onTime : session.OnTime) (sound : session.Sound)
    (reachable : Moment.Reachable ⟨session.engine, []⟩) (span : Duration) :
    (session.sleep span).OnTime := by
  have split := (List.append_nil (session.agenda (some (session.engine.now + span)))).symm
  rw [Session.sleep, pass_never]
  refine (onTime.happenAll split sound reachable).moveTo fun due member => ?_
  rcases mem_of_split split sound reachable due member with nothing | later
  · cases nothing
  · obtain ⟨-, wake, same, after⟩ := mem_beyond.mp later
    cases same
    exact Nat.le_of_lt after

theorem OnTime.await (onTime : session.OnTime) (sound : session.Sound)
    (reachable : Moment.Reachable ⟨session.engine, []⟩) (held : serial ∈ session.handles)
    (limit : Option Duration) : (session.await serial limit).2.OnTime := by
  have awaits := awaits_await sound reachable held limit
  generalize session.await serial limit = result at awaits
  cases awaits with
  | ended split reported => exact onTime.happenAll split sound reachable
  | elapsed limited found unresolved => exact onTime.sleep sound reachable _
  | endless unlimited unresolved =>
      exact onTime.happenAll (List.append_nil _).symm sound reachable

theorem OnTime.submit (onTime : session.OnTime)
    (reachable : Moment.Reachable ⟨session.engine, []⟩) {holder : Holder}
    (held : session.engine.isHeld holder = true) (kind : OperationKind) (request : List UInt8)
    (timeout : Option Duration) : (session.submit kind request timeout).2.OnTime := by
  obtain ⟨armed, planned⟩ := onTime_iff.mp onTime
  have now := Engine.now_submit reachable held session.connection kind request timeout
  have timers := Engine.le_of_mem_timers_submit session.connection kind request timeout armed
  rw [Session.submit]
  split <;>
    next engine submitted =>
      rw [submitted] at now timers
      refine onTime_iff.mpr ⟨fun timer member => ?_, fun made member => ?_⟩
      · exact now.symm ▸ timers timer member
      · exact now.symm ▸ planned made member

theorem OnTime.perform (onTime : session.OnTime) (sound : session.Sound)
    (reachable : Moment.Reachable ⟨session.engine, []⟩) (step : Step) :
    (session.perform step).2.OnTime := by
  have same : ∀ {after : Session}, after.engine.now = session.engine.now →
      after.engine.timers = session.engine.timers → after.plans = session.plans → after.OnTime :=
    fun now timers plans => onTime.keep now (fun timer armed => timers ▸ armed) plans
  change (session.take step).2.settle.OnTime
  apply settle
  cases step with
  | submit holder kind request timeout =>
      exact of_withEngine OnTime onTime fun held => onTime.submit reachable held kind request timeout
  | submitDefault holder kind request =>
      exact of_withEngine OnTime onTime fun held => onTime.submit reachable held kind request _
  | request callback =>
      have changes := Engine.changes_request reachable.coherent session.connection .client callback
      exact onTime.keep changes.now (changes.mem_timers rfl).2 rfl
  | inspect handle =>
      refine of_withHandle OnTime onTime fun serial _ => ?_
      split <;> exact onTime
  | cloneHandle handle => exact of_withHandle OnTime onTime fun serial _ => same rfl rfl rfl
  | recordEntry handle => exact of_withHandle OnTime onTime fun serial _ => same rfl rfl rfl
  | recordReference handle => exact of_withHandle OnTime onTime fun serial _ => same rfl rfl rfl
  | await handle limit =>
      refine of_withHandle OnTime onTime fun serial held => ?_
      have waited := onTime.await sound reachable held limit
      revert waited
      split <;> next answered => rw [answered]; exact id
  | poll handle =>
      refine of_withHandle OnTime onTime fun serial _ => ?_
      split <;> exact onTime
  | sleep span => exact onTime.sleep sound reachable span
  | plan span callback =>
      obtain ⟨armed, planned⟩ := onTime_iff.mp onTime
      refine onTime_iff.mpr ⟨armed, fun made member => ?_⟩
      rcases List.mem_append.mp member with earlier | new
      · exact planned made earlier
      · cases List.mem_singleton.mp new
        exact Nat.le_add_right _ _
  | reconnect connection => exact same rfl rfl rfl
  | cloneEngine holder => exact of_withEngine OnTime onTime fun _ => same rfl rfl rfl
  | dropEngine holder => exact of_withEngine OnTime onTime fun _ => same rfl rfl rfl
  | renumber id => exact same rfl rfl rfl

theorem OnTime.run (onTime : session.OnTime) (sound : session.Sound)
    (reachable : Moment.Reachable ⟨session.engine, []⟩) (steps : List Step) :
    (session.run steps).2.OnTime := by
  induction steps generalizing session with
  | nil => exact onTime
  | cons step rest ih =>
      have leads := sound.leads_perform step
      exact ih (onTime.perform sound reachable step) leads.sound (reachable.reaches leads.reaches)

theorem onTime_run (options : Options) (ids : IdSequence) (steps : List Step) :
    ((start options ids).run steps).2.OnTime := by
  have onTime : (start options ids).OnTime := fun due nothing => absurd nothing List.not_mem_nil
  exact onTime.run (sound_start options ids) (reachable_run options ids []) steps

/-! ## Runs without waits -/

theorem perform_await (sound : session.Sound) (found : session.handles[handle]? = some serial)
    (limit : Option Duration) : session.perform (.await handle limit) =
      (.ofWait (session.await serial limit).1, (session.await serial limit).2) := by
  have settled := (sound.leads_await serial limit).sound.settle_eq
  simp only [perform, take, withHandle, found]
  revert settled
  cases session.await serial limit with
  | mk answer after =>
      intro settled
      cases answer with
      | none => exact congrArg (Prod.mk _) settled
      | some answer => cases answer <;> exact congrArg (Prod.mk _) settled

theorem perform_poll (sound : session.Sound) (found : session.handles[handle]? = some serial) :
    session.perform (.poll handle) = (.ofOutcome (session.engine.outcome? serial), session) := by
  simp only [perform, take, withHandle, found]
  change _ = (Answer.ofOutcome (session.outcome? serial), session)
  cases session.outcome? serial <;> exact congrArg (Prod.mk _) sound.settle_eq

theorem outcome?_of_unresolved (sound : session.Sound)
    (found : session.handles[handle]? = some serial)
    (unresolved : (session.perform (.poll handle)).1 = .unresolved) :
    session.engine.outcome? serial = none := by
  rw [perform_poll sound found] at unresolved
  cases reported : session.engine.outcome? serial with
  | none => rfl
  | some outcome => simp [reported, Answer.ofOutcome] at unresolved

theorem perform_sleep (sound : session.Sound) (span : Duration) :
    session.perform (.sleep span) = (.done, session.sleep span) :=
  congrArg (Prod.mk _) (sound.leads_sleep span).sound.settle_eq

theorem perform_of_no_handle (sound : session.Sound) (missing : session.handles[handle]? = none)
    (limit : Option Duration) : (session.perform (.await handle limit)).2 = session ∧
      session.perform (.poll handle) = (.noHandle, session) := by
  simp only [perform, take, withHandle, missing, sound.settle_eq, and_self]

/-- The step to take instead of a wait: a sleep that takes as long, or a look if there is nothing to
wait for. -/
def instead (session : Session) : Step → Step
  | .await handle limit =>
      if (session.perform (.poll handle)).1 = .unresolved then
        .sleep ((session.perform (.await handle limit)).2.engine.now - session.engine.now)
      else
        .poll handle
  | step => step

/-- The steps of a run with something else in the place of each wait. -/
def withoutWaits (session : Session) : List Step → List Step
  | [] => []
  | step :: rest => session.instead step :: (session.perform step).2.withoutWaits rest

theorem snd_perform_instead (apart : session.DistinctTimes) (onTime : session.OnTime)
    (sound : session.Sound) (reachable : Moment.Reachable ⟨session.engine, []⟩) (step : Step) :
    (session.perform (session.instead step)).2 = (session.perform step).2 := by
  cases step with
  | await handle limit =>
      rw [instead]
      cases found : session.handles[handle]? with
      | none =>
          obtain ⟨waited, looked⟩ := perform_of_no_handle sound found limit
          rw [waited, looked, if_neg nofun, looked]
      | some serial =>
          rw [perform_await sound found, perform_poll sound found]
          cases reported : session.engine.outcome? serial with
          | none =>
              rw [Answer.ofOutcome, if_pos rfl, perform_sleep sound]
              exact (snd_await apart onTime sound reachable (List.mem_of_getElem? found) reported
                limit).symm
          | some outcome =>
              rw [Answer.ofOutcome, if_neg nofun, perform_poll sound found,
                await_of_outcome reported]
  | _ => rfl

theorem run_withoutWaits (onTime : session.OnTime) (sound : session.Sound)
    (reachable : Moment.Reachable ⟨session.engine, []⟩) {steps : List Step}
    (apart : ∀ before, before <+: steps → (session.run before).2.DistinctTimes) :
    (session.run (session.withoutWaits steps)).2 = (session.run steps).2 := by
  induction steps generalizing session with
  | nil => rfl
  | cons step rest ih =>
      have leads := sound.leads_perform step
      have here : session.DistinctTimes := apart [] List.nil_prefix
      have same := snd_perform_instead here onTime sound reachable step
      have later := ih (onTime.perform sound reachable step) leads.sound
        (reachable.reaches leads.reaches) fun before start =>
          apart (step :: before) (List.prefix_cons_inj step |>.mpr start)
      change ((session.perform (session.instead step)).2.run _).2 = _
      rw [same]
      exact later

end Session

/-- Waiting for an operation is looking at it and letting time go by. -/
theorem waiting_observes (options : Options) (ids : IdSequence) (steps : List Step) :
    let start := Session.start options ids
    let session := (start.run steps).2
    ((∀ before, before <+: steps → (start.run before).2.DistinctTimes) →
      (start.run (start.withoutWaits steps)).2 = session) ∧
    ∀ handle limit, handle < session.handles.length →
      let answer := (session.perform (.await handle limit)).1
      let awaited := (session.perform (.await handle limit)).2
      (∀ outcome, (session.perform (.poll handle)).1 = .outcome outcome →
        answer = .outcome outcome ∧ awaited = session) ∧
      ((session.perform (.poll handle)).1 = .unresolved → session.DistinctTimes →
        (session.perform (.sleep (awaited.engine.now - session.engine.now))).2 = awaited) ∧
      ((∃ outcome, answer = .outcome outcome ∧
          ∀ more, ((awaited.run more).2.perform (.poll handle)).1 = .outcome outcome) ∨
        (∃ span operation, limit = some span ∧
          (session.perform (.inspect handle)).1 = .operation operation ∧
          answer = .failed (.elapsed operation.messageId) ∧
          awaited.engine.now = session.engine.now + span ∧
          (awaited.perform (.poll handle)).1 = .unresolved) ∨
        (limit = none ∧ answer = .endless ∧ awaited.toCome = [] ∧
          (awaited.perform (.poll handle)).1 = .unresolved)) := by
  intro start session
  have leads : start.Leads session := Session.leads_run_start options ids steps
  have sound := leads.sound
  have reachable : Moment.Reachable ⟨session.engine, []⟩ := Session.reachable_run options ids steps
  have onTime : session.OnTime := Session.onTime_run options ids steps
  refine ⟨Session.run_withoutWaits (Session.onTime_run options ids [])
    (Session.sound_start options ids) (Session.reachable_run options ids []), ?_⟩
  intro handle limit inside answer awaited
  obtain ⟨serial, found⟩ : ∃ serial, session.handles[handle]? = some serial :=
    ⟨_, List.getElem?_eq_getElem inside⟩
  have held : serial ∈ session.handles := List.mem_of_getElem? found
  have waited := Session.perform_await sound found limit
  have after : awaited = (session.await serial limit).2 := congrArg Prod.snd waited
  have later : session.Leads awaited := sound.leads_perform (.await handle limit)
  have remains : awaited.handles[handle]? = some serial := later.getElem?_handles found
  refine ⟨fun outcome reported => ?_, fun unresolved apart => ?_, ?_⟩
  · obtain ⟨other, same, ended⟩ := Session.poll_eq_outcome_iff.mp reported
    cases found.symm.trans same
    have both := waited.trans (by rw [Session.await_of_outcome ended])
    exact ⟨congrArg Prod.fst both, congrArg Prod.snd both⟩
  · have pending := Session.outcome?_of_unresolved sound found unresolved
    rw [Session.perform_sleep sound, after]
    exact (Session.snd_await apart onTime sound reachable held pending limit).symm
  · have awaits := Session.awaits_await sound reachable held limit
    generalize session.await serial limit = result at waited after awaits
    cases awaits with
    | @ended done left outcome split reported =>
        refine .inl ⟨outcome, congrArg Prod.fst waited, fun more => ?_⟩
        have rest : awaited.Leads (awaited.run more).2 := later.sound.leads_run more
        have ended : awaited.engine.outcome? serial = some outcome := after ▸ reported
        have stays := (reachable.reaches later.reaches).outcome?_of_reaches rest.reaches ended
        exact Session.poll_eq_outcome_iff.mpr ⟨serial, rest.getElem?_handles remains, stays⟩
    | @elapsed span operation limited known unresolved =>
        refine .inr (.inl ⟨span, operation, limited,
          Session.perform_inspect_of_operation? found known, congrArg Prod.fst waited, ?_, ?_⟩)
        · rw [after, Session.now_sleep sound reachable]
        · rw [Session.perform_poll later.sound remains, after, unresolved]
          rfl
    | endless unlimited unresolved =>
        refine .inr (.inr ⟨unlimited, congrArg Prod.fst waited, ?_, ?_⟩)
        · rw [after, Session.toCome_happenAll sound reachable]
        · rw [Session.perform_poll later.sound remains, after, unresolved]
          rfl

/-- One request is waited for until its response comes; then another, which has a timeout, for too
short a time. -/
def Step.impatient : List Step :=
  [.submit 0 .search [] (some (.ofSeconds 60 0)), .submit 0 .add [] none,
    .plan (.ofSeconds 3 0) ⟨0, .deliver ⟨2⟩ .success⟩, .await 1 (some (.ofSeconds 5 0)),
    .await 0 (some (.ofSeconds 10 0))]

theorem waiting_observes_impatient :
    let start := Session.start {} (.startingAt 1)
    let session := (start.run Step.impatient).2
    (start.run (start.withoutWaits Step.impatient)).2 = session ∧
      session.engine.now = .ofSeconds 13 0 ∧
      (session.perform (.await 1 (some .zero))).2 = session ∧
      (session.perform (.sleep (.ofSeconds 47 0))).2 =
        (session.perform (.await 0 (some .longest))).2 := by
  intro start session
  obtain ⟨unwaited, observes⟩ := waiting_observes {} (.startingAt 1) Step.impatient
  have apart : ∀ before ∈ Step.impatient.inits, (start.run before).2.DistinctTimes := by decide +kernel
  have inside : session.handles.length = 2 := by decide +kernel
  have now : session.engine.now = .ofSeconds 13 0 := by decide +kernel
  refine ⟨unwaited fun before first => apart before ((List.mem_inits _ _).mpr first), now, ?_, ?_⟩
  · obtain ⟨ended, -, -⟩ := observes 1 (some .zero) (inside ▸ by decide)
    have reported : (session.perform (.poll 1)).1 = .outcome ⟨⟨2⟩, .add, .success, 0, 0,
        .ofSeconds 3 0⟩ := by decide +kernel
    exact (ended _ reported).2
  · obtain ⟨-, slept, -⟩ := observes 0 (some .longest) (inside ▸ by decide)
    have same := slept (by decide +kernel) (by decide +kernel)
    have after : (session.perform (.await 0 (some .longest))).2.engine.now = .ofSeconds 60 0 := by
      decide +kernel
    rw [after, now] at same
    exact same

end DirectoryClient
