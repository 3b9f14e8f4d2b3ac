import DirectoryClient.Proofs.Session.Deadline

/-!
# What is still to come

As time goes by, what falls due happens and is gone. Time passes over nothing: between steps,
everything that is still to come lies ahead. If no two of these things fall due at the same time,
then it makes no difference whether somebody sleeps until a time or stops there for another reason.
-/

namespace DirectoryClient

namespace Duration

variable {first second start time span : Duration}

theorem max_eq_right (ordered : first ≤ second) : max first second = second :=
  if_pos ordered

theorem add_sub_cancel (ordered : start ≤ time) : start + (time - start) = time :=
  congrArg Duration.mk (Nat.add_sub_cancel' ordered)

theorem add_sub_cancel_left : start + span - start = span :=
  congrArg Duration.mk (Nat.add_sub_cancel_left _ _)

end Duration

namespace Engine

variable {engine : Engine} {timer : Timer}

theorem now_failEach (engine : Engine) (response : Response) (serials : List Serial) :
    (engine.failEach response serials).2.now = engine.now := by
  induction serials generalizing engine with
  | nil => rfl
  | cons first rest ih =>
      rw [failEach]
      split
      · exact ih engine
      · next claimed won =>
          obtain ⟨operation, found, pending, rfl⟩ := claim_eq_some won
          exact ih _

@[simp] theorem now_release (engine : Engine) : engine.release.now = engine.now := by
  rw [release]
  split
  · exact now_failEach _ _ _
  · rfl

theorem le_of_timerDeadline {start due : Duration} {timeout : Option Duration}
    (timed : timerDeadline start timeout = some due) : start ≤ due := by
  cases timeout with
  | none => cases timed
  | some span =>
      obtain ⟨-, rfl⟩ := Option.ite_some_none_eq_some.mp timed
      exact Nat.le_add_right _ _

end Engine

namespace Moment

variable {moment after : Moment} {time : Duration}

/-- No timer that is armed, or about to be, is due before a time. -/
structure Ahead (time : Duration) (moment : Moment) : Prop where
  timers : ∀ timer ∈ moment.engine.timers, time ≤ timer.deadline
  accepts : ∀ {id serial due}, .accept id serial (some due) ∈ moment.agenda → time ≤ due

theorem Proceeds.ahead (step : moment.Proceeds after) (ahead : Ahead time moment) :
    Ahead time after := by
  obtain ⟨engine, task, rest, connection, rfl, rfl⟩ := step.exists_carryOut
  refine ⟨fun timer armed => ?_, fun {id serial due} member => ?_⟩
  · rcases Engine.mem_timers_carryOut armed with earlier | ⟨id, rfl⟩
    · exact ahead.timers timer earlier
    · exact ahead.accepts List.mem_cons_self
  · rcases List.mem_append.mp member with new | old
    · exact absurd new (not_accept_of_submitting (engine.submitting_carryOut connection task))
    · exact ahead.accepts (List.mem_cons_of_mem task old)

theorem Course.ahead (course : moment.Course after) (ahead : Ahead time moment) :
    Ahead time after := by
  induction course with
  | refl => exact ahead
  | tail _ step ih => exact step.ahead ih

theorem ahead_beginSubmit {engine : Engine} (connection : Connection) (kind : OperationKind)
    (request : List UInt8) (timeout : Option Duration)
    (timers : ∀ timer ∈ engine.timers, engine.now ≤ timer.deadline) :
    Ahead engine.now (engine.beginSubmit connection kind request timeout).2 := by
  refine ⟨?_, ?_⟩
  · rw [Engine.timers_beginSubmit]
    exact timers
  · intro id serial due member
    rw [Engine.beginSubmit] at member
    split at member
    · cases member
    · rcases List.mem_append.mp member with reaction | last
      · exact absurd reaction (not_accept_of_submitting (Task.submitting_ofReaction _ _ _))
      · split at last
        · cases List.mem_singleton.mp last
        · injection List.mem_singleton.mp last with _ _ timed
          exact Engine.le_of_timerDeadline timed.symm

end Moment

namespace Engine

variable {engine : Engine}

/-- A submission arms its timer for a later time. -/
theorem le_of_mem_timers_submit (connection : Connection) (kind : OperationKind)
    (request : List UInt8) (timeout : Option Duration)
    (timers : ∀ timer ∈ engine.timers, engine.now ≤ timer.deadline) :
    ∀ timer ∈ (engine.submit connection kind request timeout).2.timers,
      engine.now ≤ timer.deadline :=
  (Moment.Course.ahead (Moment.exists_course connection _)
    (Moment.ahead_beginSubmit connection kind request timeout timers)).timers

theorem now_submit (reachable : Moment.Reachable ⟨engine, []⟩) {holder : Holder}
    (held : engine.isHeld holder = true) (connection : Connection) (kind : OperationKind)
    (request : List UInt8) (timeout : Option Duration) :
    (engine.submit connection kind request timeout).2.now = engine.now := by
  have begun := reachable.reaches (.single (.submit held connection kind request timeout))
  have changes := Moment.Course.changes_alone (Moment.exists_course connection _) begun.coherent
  exact changes.now.trans (engine.now_beginSubmit connection kind request timeout)

end Engine

namespace Session

variable {session : Session} {limit : Option Duration} {due : Due} {dues rest done left : List Due}

/-- Everything that is to happen at some time. -/
def toCome (session : Session) : List Due :=
  session.engine.timers.map .timer ++ session.plans.map .plan

theorem forall_toCome {holds : Due → Prop} : (∀ due ∈ session.toCome, holds due) ↔
    (∀ timer ∈ session.engine.timers, holds (.timer timer)) ∧
      ∀ made ∈ session.plans, holds (.plan made) := by
  simp only [toCome, List.forall_mem_append, List.forall_mem_map]

theorem perm_agenda (session : Session) (limit : Option Duration) :
    (session.agenda limit).Perm (session.toCome.filter fun due => limit.all (due.time ≤ ·)) :=
  List.mergeSort_perm _ _

theorem mem_agenda :
    due ∈ session.agenda limit ↔ due ∈ session.toCome ∧ limit.all (due.time ≤ ·) := by
  rw [(session.perm_agenda limit).mem_iff, List.mem_filter]

theorem sorted_agenda (session : Session) (limit : Option Duration) :
    (session.agenda limit).Pairwise fun first second => first.time ≤ second.time := by
  have transitive : ∀ first second third : Due, decide (first.time ≤ second.time) = true →
      decide (second.time ≤ third.time) = true → decide (first.time ≤ third.time) = true := by
    simp only [decide_eq_true_eq]
    exact fun first second third => Nat.le_trans
  have total : ∀ first second : Due,
      (decide (first.time ≤ second.time) || decide (second.time ≤ first.time)) = true := by
    simp only [Bool.or_eq_true, decide_eq_true_eq]
    exact fun first second => Nat.le_total _ _
  have sorted := List.pairwise_mergeSort transitive total
    (session.toCome.filter fun due => limit.all (due.time ≤ ·))
  simp only [decide_eq_true_eq] at sorted
  exact sorted

/-! ## One thing after the other -/

/-- Does everything on a list. -/
def happenAll (session : Session) (dues : List Due) : Session :=
  dues.foldl happen session

theorem pass_never (session : Session) (dues : List Due) :
    session.pass (fun _ => false) dues = session.happenAll dues := by
  induction dues generalizing session with
  | nil => rfl
  | cons due rest ih => exact ih (session.happen due)

/-- What falls due happens up to the point at which there has been enough of it. -/
theorem exists_pass (session : Session) (enough : Session → Bool) (dues : List Due) :
    ∃ done left, dues = done ++ left ∧ session.pass enough dues = session.happenAll done ∧
      (left = [] ∨ enough (session.happenAll done) = true) := by
  induction dues generalizing session with
  | nil => exact ⟨[], [], rfl, rfl, .inl rfl⟩
  | cons due rest ih =>
      rw [pass]
      split
      · next reached => exact ⟨[], due :: rest, rfl, rfl, .inr reached⟩
      · obtain ⟨done, left, rfl, passed, stopped⟩ := ih (session.happen due)
        exact ⟨due :: done, left, rfl, passed, stopped⟩

theorem Sound.leads_happenAll (sound : session.Sound) (dues : List Due) :
    session.Leads (session.happenAll dues) :=
  session.pass_never dues ▸ sound.leads_pass _ dues

/-- The clock stands where it stood or at the time of something that has happened, and everything
that has happened lies behind. -/
theorem now_happenAll (sound : session.Sound)
    (reachable : Moment.Reachable ⟨session.engine, []⟩) (dues : List Due) :
    session.engine.now ≤ (session.happenAll dues).engine.now ∧
      (∀ due ∈ dues, due.time ≤ (session.happenAll dues).engine.now) ∧
      ((session.happenAll dues).engine.now = session.engine.now ∨
        ∃ due ∈ dues, (session.happenAll dues).engine.now = due.time) := by
  induction dues generalizing session with
  | nil => exact ⟨Nat.le_refl _, fun due nothing => absurd nothing List.not_mem_nil, .inl rfl⟩
  | cons due rest ih =>
      have leads := sound.leads_happen due
      obtain ⟨now, -, -⟩ := happen_deadlines reachable due
      obtain ⟨later, behind, stands⟩ := ih leads.sound (reachable.reaches leads.reaches)
      rw [now] at later stands
      refine ⟨Nat.le_trans (Duration.le_max_left _ _) later, fun other member => ?_, ?_⟩
      · rcases List.mem_cons.mp member with rfl | member
        · exact Nat.le_trans (Duration.le_max_right _ _) later
        · exact behind other member
      · rcases stands with same | ⟨other, member, same⟩
        · by_cases ordered : session.engine.now ≤ due.time
          · rw [Duration.max_eq_right ordered] at same
            exact .inr ⟨due, List.mem_cons_self, same⟩
          · exact .inl (same.trans (if_neg ordered))
        · exact .inr ⟨other, List.mem_cons_of_mem due member, same⟩

/-! ## What is left -/

def Due.plan? : Due → Option Plan
  | .timer _ => none
  | .plan made => some made

/-- A list has everything that is still to come, and each plan as often as it has been made. -/
structure Covers (dues : List Due) (session : Session) : Prop where
  timers : ∀ timer ∈ session.engine.timers, .timer timer ∈ dues
  plans : session.plans.Perm (dues.filterMap Due.plan?)

theorem Covers.mem (covers : Covers dues session) : ∀ due ∈ session.toCome, due ∈ dues := by
  refine forall_toCome.mpr ⟨covers.timers, fun made planned => ?_⟩
  obtain ⟨due, member, same⟩ := List.mem_filterMap.mp (covers.plans.mem_iff.mp planned)
  cases due with
  | timer armed => cases same
  | plan other =>
      cases same
      exact member

theorem Covers.of_perm (perm : session.toCome.Perm dues) : Covers dues session where
  timers timer armed := perm.mem_iff.mp (List.mem_append_left _ (List.mem_map_of_mem armed))
  plans := by
    have same : session.toCome.filterMap Due.plan? = session.plans := by
      simp [toCome, List.filterMap_map, Function.comp_def, Due.plan?]
    exact same ▸ perm.filterMap Due.plan?

/-- What happens is not to come any more. -/
theorem Covers.happen (covers : Covers (due :: rest) session)
    (reachable : Moment.Reachable ⟨session.engine, []⟩) : Covers rest (session.happen due) := by
  obtain ⟨-, kept, gone⟩ := happen_deadlines reachable due
  refine ⟨fun timer armed => ?_, ?_⟩
  · rcases List.mem_cons.mp (covers.timers timer (kept timer armed)) with rfl | later
    · exact absurd armed (gone timer rfl)
    · exact later
  · cases due with
    | timer armed => exact covers.plans
    | plan made =>
        have planned : session.plans.Perm (made :: rest.filterMap Due.plan?) := covers.plans
        have left := planned.erase made
        rwa [List.erase_cons_head] at left

theorem Covers.happenAll (covers : Covers (dues ++ rest) session) (sound : session.Sound)
    (reachable : Moment.Reachable ⟨session.engine, []⟩) :
    Covers rest (session.happenAll dues) := by
  induction dues generalizing session with
  | nil => exact covers
  | cons due later ih =>
      have leads := sound.leads_happen due
      exact ih (covers.happen reachable) leads.sound (reachable.reaches leads.reaches)

/-- Everything that is to happen after a time. -/
def beyond (session : Session) (limit : Option Duration) : List Due :=
  session.toCome.filter fun due => !limit.all (due.time ≤ ·)

theorem mem_beyond : due ∈ session.beyond limit ↔
    due ∈ session.toCome ∧ ∃ wake, limit = some wake ∧ wake < due.time := by
  rw [beyond, List.mem_filter]
  refine and_congr_right fun _ => ?_
  cases limit with
  | none => simp
  | some wake =>
      simp only [Option.all_some, Bool.not_eq_true', decide_eq_false_iff_not, Option.some.injEq,
        exists_eq_left']
      exact Nat.not_le

theorem covers_agenda (session : Session) (limit : Option Duration) :
    Covers (session.agenda limit ++ session.beyond limit) session :=
  .of_perm (((session.perm_agenda limit).append_right _).trans
    (List.filter_append_perm _ _)).symm

/-- Once a part of an agenda has happened, what is to come is the rest of it and what lies
beyond. -/
theorem mem_of_split (split : session.agenda limit = done ++ left) (sound : session.Sound)
    (reachable : Moment.Reachable ⟨session.engine, []⟩) :
    ∀ due ∈ (session.happenAll done).toCome, due ∈ left ∨ due ∈ session.beyond limit := by
  have covers := session.covers_agenda limit
  rw [split, List.append_assoc] at covers
  exact fun due member => List.mem_append.mp ((covers.happenAll sound reachable).mem due member)

/-- Once everything has happened, nothing is to come any more. -/
theorem toCome_happenAll (sound : session.Sound)
    (reachable : Moment.Reachable ⟨session.engine, []⟩) :
    (session.happenAll (session.agenda none)).toCome = [] := by
  refine List.eq_nil_iff_forall_not_mem.mpr fun due member => ?_
  rcases mem_of_split (List.append_nil _).symm sound reachable due member with nothing | later
  · cases nothing
  · obtain ⟨-, wake, same, -⟩ := mem_beyond.mp later
    cases same

/-- What has happened of an agenda was due before everything that is left or lies beyond. -/
theorem le_of_split (split : session.agenda limit = done ++ left)
    (later : due ∈ left ∨ due ∈ session.beyond limit) :
    due ∈ session.toCome ∧ ∀ earlier ∈ done, earlier.time ≤ due.time := by
  rcases later with later | later
  · have listed : due ∈ session.agenda limit := split ▸ List.mem_append_right done later
    have sorted := split ▸ session.sorted_agenda limit
    exact ⟨(mem_agenda.mp listed).1, fun earlier member =>
      (List.pairwise_append.mp sorted).2.2 earlier member due later⟩
  · obtain ⟨listed, wake, rfl, after⟩ := mem_beyond.mp later
    refine ⟨listed, fun earlier member => Nat.le_trans ?_ (Nat.le_of_lt after)⟩
    exact time_le_of_mem_agenda (split ▸ List.mem_append_left left member)

/-! ## Nothing is overdue -/

/-- Everything that is to come lies ahead. -/
def OnTime (session : Session) : Prop :=
  ∀ due ∈ session.toCome, session.engine.now ≤ due.time

theorem OnTime.happenAll (onTime : session.OnTime)
    (split : session.agenda limit = done ++ left) (sound : session.Sound)
    (reachable : Moment.Reachable ⟨session.engine, []⟩) : (session.happenAll done).OnTime := by
  intro due member
  obtain ⟨listed, earlier⟩ := le_of_split split (mem_of_split split sound reachable due member)
  obtain ⟨-, -, stands | ⟨last, happened, stands⟩⟩ := now_happenAll sound reachable done
  · exact stands ▸ onTime due listed
  · exact stands ▸ earlier last happened

/-- Whoever wakes up at a time has missed nothing. -/
theorem OnTime.moveTo (onTime : session.OnTime) {wake : Duration}
    (ahead : ∀ due ∈ session.toCome, wake ≤ due.time) : (session.moveTo wake).OnTime :=
  fun due member => max_le (onTime due member) (ahead due member)

/-! ## Stopping and sleeping -/

/-- No two things fall due at the same time. -/
def DistinctTimes (session : Session) : Prop :=
  (session.toCome.map Due.time).Nodup

instance (session : Session) : Decidable session.DistinctTimes :=
  inferInstanceAs (Decidable (session.toCome.map Due.time).Nodup)

theorem DistinctTimes.sorted_agenda (apart : session.DistinctTimes) (limit : Option Duration) :
    (session.agenda limit).Pairwise fun first second => first.time < second.time := by
  have kept : (session.toCome.filter fun due => limit.all (due.time ≤ ·)).Pairwise
      fun first second => first.time ≠ second.time :=
    (List.pairwise_map.mp apart).sublist List.filter_sublist
  have distinct := (session.perm_agenda limit).symm.pairwise kept Ne.symm
  refine (session.sorted_agenda limit).imp₂ (fun first second ordered different => ?_) distinct
  exact Nat.lt_of_le_of_ne ordered fun same => different (congrArg Duration.mk same)

/-- A shorter agenda has what falls due of a longer one until then. -/
theorem perm_agenda_of_le {time : Duration} (early : limit.all (time ≤ ·) = true) :
    (session.agenda (some time)).Perm
      ((session.agenda limit).filter fun due => due.time ≤ time) := by
  have within : ∀ due ∈ session.toCome,
      (decide (due.time ≤ time) && limit.all (due.time ≤ ·)) = decide (due.time ≤ time) := by
    intro due _
    by_cases reached : due.time ≤ time
    · cases limit with
      | none => simp
      | some wake =>
          have later : time ≤ wake := of_decide_eq_true early
          simp [reached, show due.time ≤ wake from Nat.le_trans reached later]
    · simp [reached]
  have part := (session.perm_agenda limit).filter fun due => decide (due.time ≤ time)
  rw [List.filter_filter, List.filter_congr within] at part
  exact (session.perm_agenda (some time)).trans part.symm

/-- If a part of an agenda has happened and the rest lies ahead, then that part is what there was to
do until now. -/
theorem agenda_of_split (apart : session.DistinctTimes) {time : Duration}
    (split : session.agenda limit = done ++ left) (early : limit.all (time ≤ ·) = true)
    (happened : ∀ due ∈ done, due.time ≤ time) (ahead : ∀ due ∈ left, time < due.time) :
    session.agenda (some time) = done := by
  have kept : (done ++ left).filter (fun due => due.time ≤ time) = done := by
    rw [List.filter_append, List.filter_eq_self.mpr, List.filter_eq_nil_iff.mpr, List.append_nil]
    · exact fun due member reached => Nat.not_le_of_lt (ahead due member) (of_decide_eq_true reached)
    · exact fun due member => decide_eq_true (happened due member)
  have perm := session.perm_agenda_of_le early
  rw [split, kept] at perm
  have sorted := split ▸ apart.sorted_agenda limit
  -- Times that differ leave one order only.
  exact List.Perm.eq_of_pairwise
    (fun _ _ _ _ first second => absurd first (Nat.lt_asymm second))
    (apart.sorted_agenda (some time)) (List.pairwise_append.mp sorted).1 perm

theorem sleep_eq (session : Session) (span : Duration) :
    session.sleep span =
      (session.happenAll (session.agenda (some (session.engine.now + span)))).moveTo
        (session.engine.now + span) := by
  rw [sleep, pass_never]

theorem moveTo_now (session : Session) : session.moveTo session.engine.now = session := by
  rw [moveTo, Duration.max_eq_right (Nat.le_refl _)]

/-- Whoever stops after a part of an agenda finds what a sleeper finds who wakes up then. -/
theorem sleep_of_split (apart : session.DistinctTimes) (onTime : session.OnTime)
    (sound : session.Sound) (reachable : Moment.Reachable ⟨session.engine, []⟩)
    (split : session.agenda limit = done ++ left)
    (early : limit.all (session.engine.now ≤ ·) = true) (moved : left ≠ [] → done ≠ []) :
    session.sleep ((session.happenAll done).engine.now - session.engine.now) =
      session.happenAll done := by
  obtain ⟨later, happened, stands⟩ := now_happenAll sound reachable done
  have sorted := split ▸ apart.sorted_agenda limit
  have stopped : left ≠ [] → ∃ due ∈ done, (session.happenAll done).engine.now = due.time := by
    intro rest
    rcases stands with same | last
    -- The clock has not moved, so what has happened was due when it began.
    · obtain ⟨first, member⟩ := List.exists_mem_of_ne_nil done (moved rest)
      have listed : first ∈ session.agenda limit := split ▸ List.mem_append_left left member
      have reached : (session.happenAll done).engine.now ≤ first.time :=
        same ▸ onTime first (mem_agenda.mp listed).1
      exact ⟨first, member, congrArg Duration.mk (Nat.le_antisymm reached (happened first member))⟩
    · exact last
  have ahead : ∀ due ∈ left, (session.happenAll done).engine.now < due.time := by
    intro due member
    obtain ⟨last, before, same⟩ := stopped (List.ne_nil_of_mem member)
    exact same ▸ (List.pairwise_append.mp sorted).2.2 last before due member
  have within : limit.all ((session.happenAll done).engine.now ≤ ·) = true := by
    rcases stands with same | ⟨last, member, same⟩
    · rwa [same]
    · rw [same]
      exact (mem_agenda.mp (split ▸ List.mem_append_left left member)).2
  rw [sleep_eq, Duration.add_sub_cancel later, agenda_of_split apart split within happened ahead,
    moveTo_now]

end Session

end DirectoryClient
