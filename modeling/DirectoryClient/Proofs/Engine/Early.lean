import DirectoryClient.Proofs.Engine.Cleanup
import DirectoryClient.Proofs.Engine.Transmission

namespace DirectoryClient

namespace Call

/-- Whether a call ends the operation that an identifier stands for, if it stands for one. -/
def Settles (id : MessageId) (call : Call) : Prop :=
  call.target? = some id ∨ ∃ code message, call = .failAll code message

/-- The response that a call gives to an operation that it ends, alone or among others. -/
def verdict? (engine : Engine) (operation : Operation) : Call → Option Response
  | .failAll code message => some { code, diagnostic := some message }
  | call => call.response? engine operation

end Call

namespace Engine

variable {engine : Engine} {ending : List Serial} {submitting : List (MessageId × Serial)}
variable {id : MessageId} {serial : Serial} {call : Call}

theorem getsResponse_of_settles (coherent : Ledger.Coherent ⟨engine, ending, submitting⟩)
    (settles : call.Settles id) (present : engine.pending.get? id = some serial) :
    ∃ operation response, engine.operation? serial = some operation ∧
      call.verdict? engine operation = some response ∧
      Moment.GetsResponse serial operation response (engine.beginCall call).2 := by
  rcases settles with target | ⟨code, message, rfl⟩
  · obtain ⟨operation, response, found, gives, gets⟩ :=
      getsResponse_beginCall coherent.staged target present
    refine ⟨operation, response, found, ?_, gets⟩
    cases call with
    | failAll code message => cases target
    | _ => exact gives
  · obtain ⟨operation, found, ended⟩ := outcome?_failAll coherent.staged present code message
    have now : (engine.failAll code message).2.now = engine.now :=
      (changes_failAll coherent code message).now
    exact ⟨operation, _, found, rfl, .inr (now.symm ▸ ended)⟩

theorem won_of_present (staged : Ledger.Staged ⟨engine, ending, submitting⟩)
    (target : call.target? = some id) (present : engine.pending.get? id = some serial) :
    (engine.beginCall call).1 = .flag true := by
  rw [reply_of_about? staged (Call.about?_of_target? target), isPending, PendingTable.contains,
    present]
  rfl

theorem absent_of_settles (staged : Ledger.Staged ⟨engine, ending, submitting⟩)
    (settles : call.Settles id) (present : engine.pending.get? id = some serial) (key : MessageId) :
    (engine.beginCall call).2.engine.pending.get? key ≠ some serial := by
  rcases settles with target | ⟨code, message, rfl⟩
  · obtain ⟨other, stands, gone⟩ :=
      taken_of_won staged target (won_of_present staged target present)
    cases stands.symm.trans present
    exact gone key
  · change (engine.failAll code message).2.pending.get? key ≠ some serial
    rw [pending_failAll]
    exact nofun

theorem mayEnd_of_settles (coherent : Ledger.Coherent ⟨engine, ending, submitting⟩)
    (settles : call.Settles id) (present : engine.pending.get? id = some serial) :
    call.mayEnd id (engine.beginCall call).1 := by
  rcases settles with target | ⟨code, message, rfl⟩
  · rw [won_of_present coherent.staged target present]
    cases call <;> cases target <;> exact ⟨rfl, rfl⟩
  · obtain ⟨operation, found, ended⟩ := outcome?_failAll coherent.staged present code message
    obtain ⟨events, trace, asked⟩ := engine.mayEnd_beginCall (.failAll code message)
    have written := Event.mem_of_outcome trace coherent.published
      (coherent.changes (changes_failAll coherent code message)).published
      (outcome?_of_present coherent.staged present) (Option.isSome_of_eq_some ended)
    obtain ⟨key, -, some⟩ := asked serial (.inl ⟨_, written, rfl⟩)
    exact some

/-- A call that does not end an operation leaves it in the table. -/
theorem get?_beginCall_of_spared (staged : Ledger.Staged ⟨engine, ending, submitting⟩)
    (spares : ¬call.Settles id) (present : engine.pending.get? id = some serial) :
    (engine.beginCall call).2.engine.pending.get? id = some serial := by
  obtain ⟨reply, moment, same, begins⟩ := engine.exists_begins call
  rw [same]
  cases begins with
  | deliver found =>
      refine (staged.get?_takeOut found).mpr ⟨present, fun own => spares (.inl ?_)⟩
      subst own
      rw [staged.id_eq present (pending_of_takeOut found).1]
      rfl
  | expire found =>
      refine (staged.get?_takeOut found).mpr ⟨present, fun own => spares (.inl ?_)⟩
      subst own
      rw [staged.id_eq present (pending_of_takeOut found).1]
      rfl
  | failAll code message => exact absurd (.inr ⟨code, message, rfl⟩) spares
  | _ => exact present

/-- A call leaves an operation alone that is not in the table. -/
theorem operation?_beginCall_of_absent (absent : ∀ id, engine.pending.get? id ≠ some serial)
    (call : Call) :
    (engine.beginCall call).2.engine.operation? serial = engine.operation? serial := by
  obtain ⟨reply, moment, same, begins⟩ := engine.exists_begins call
  rw [same]
  cases begins with
  | idle lost none => rfl
  | @deliver id response other taken found =>
      have different : serial ≠ other := fun own => absent id (own ▸ (pending_of_takeOut found).1)
      exact (operation?_publish_of_ne response different).trans
        (operation?_takeOut_of_ne found different)
  | @expire id reason other taken found =>
      have different : serial ≠ other := fun own => absent id (own ▸ (pending_of_takeOut found).1)
      exact operation?_takeOut_of_ne found different
  | @countEntry id other present =>
      have different : other ≠ serial := fun own => absent id (own ▸ present)
      exact (operation?_countEntry other).trans (if_neg different)
  | @countReference id other present =>
      have different : other ≠ serial := fun own => absent id (own ▸ present)
      exact (operation?_countReference other).trans (if_neg different)
  | failAll code message =>
      have unlisted : serial ∉ engine.pending.serials := fun member => by
        obtain ⟨id, present⟩ := PendingTable.mem_serials_iff.mp member
        exact absent id present
      rw [failAll, operation?_failEach]
      simp only [unlisted, false_and, if_false]
      exact Option.map_id'

theorem get?_carryOut_of_spared (staged : Ledger.Staged ⟨engine, ending, submitting⟩)
    (present : engine.pending.get? id = some serial) (connection : Connection) {task : Task}
    (idle : task.submitting? = none)
    (spares : ∀ {site key callback}, task = .callback site key callback →
      engine.isHeld callback.holder = true → ¬callback.call.Settles id) :
    (engine.carryOut connection task).engine.pending.get? id = some serial := by
  cases task with
  | callback site key callback =>
      rw [Moment.carryOut_callback]
      rcases engine.beginRequest_cases (.connection site key) callback with
        ⟨held, same⟩ | ⟨-, same⟩ <;> rw [same]
      · exact get?_beginCall_of_spared staged (spares rfl held) present
      · exact present
  | accept key other deadline => cases idle
  | refuse key other reason => cases idle
  | _ => exact present

end Engine

namespace Moment

/-- The next task is a call that ends the operation of an identifier. -/
def SettlesNext (id : MessageId) (moment : Moment) : Prop :=
  ∃ site key callback rest, moment.agenda = .callback site key callback :: rest ∧
    moment.engine.isHeld callback.holder = true ∧ callback.call.Settles id

/-- Some tasks are carried out, none of which ends the operation of an identifier. -/
def Spares (id : MessageId) : Moment → Moment → Prop :=
  Relation.ReflTransGen fun before after => before.Proceeds after ∧ ¬before.SettlesNext id

/-- Before the call under way is over, a call from inside it ends the operation of an identifier. -/
def Meets (id : MessageId) (last : Engine) (moment : Moment) : Prop :=
  ∃ middle, moment.Course middle ∧ middle.SettlesNext id ∧ middle.Course ⟨last, []⟩

/-- The next call ends an operation that is still there, and gives it a response. -/
structure Ends (id : MessageId) (serial : Serial) (operation : Operation) (response : Response)
    (moment : Moment) : Prop where
  present : moment.engine.pending.get? id = some serial
  found : moment.engine.operation? serial = some operation
  next : ∃ site key callback rest, moment.agenda = .callback site key callback :: rest ∧
    moment.engine.isHeld callback.holder = true ∧ callback.call.Settles id ∧
    callback.call.verdict? moment.engine operation = some response ∧
    callback.call.mayEnd id (moment.engine.beginRequest (.connection site key) callback).1

/-- Whoever calls about an identifier is told that it stands for nothing, and no call has an effect
on the operation that it stood for. -/
structure Spent (id : MessageId) (serial : Serial) (engine : Engine) : Prop where
  unlisted : Unlisted serial id engine
  answers : ∀ caller callback, engine.isHeld callback.holder = true →
    callback.call.about? = some id → engine.beginRequest caller callback =
      (.flag false, ⟨engine, [.answer caller callback.call (.flag false)]⟩)
  spares : ∀ call, (engine.beginCall call).2.engine.operation? serial = engine.operation? serial

variable {moment after later : Moment} {engine last : Engine} {id : MessageId} {serial : Serial}
variable {operation : Operation} {response : Response}

theorem Spares.course (spares : moment.Spares id after) : moment.Course after := by
  induction spares with
  | refl => exact .refl
  | tail _ step ih => exact .tail ih step.1

/-- A call that the connection has yet to make is met, whatever it calls before. -/
theorem meets_of_mem {site : Site} {key : MessageId} {callbacks : List Callback}
    {callback : Callback} {rest : List Task}
    (coherent : (Moment.mk engine (callbacks.map (.callback site key) ++ rest)).ledger.Coherent)
    (course : Course ⟨engine, callbacks.map (.callback site key) ++ rest⟩ ⟨last, []⟩)
    (member : callback ∈ callbacks) (held : engine.isHeld callback.holder = true)
    (settles : callback.call.Settles id) :
    Meets id last ⟨engine, callbacks.map (.callback site key) ++ rest⟩ := by
  obtain ⟨before, others, rfl⟩ := List.append_of_mem member
  rw [List.map_append, List.append_assoc] at course coherent ⊢
  obtain ⟨middle, earlier, remaining⟩ := course.split
  have reached := Course.withRest earlier (List.map (.callback site key) (callback :: others) ++ rest)
  have changes : Ledger.Changes _ _ := reached.changes_alone coherent
  have holders : middle.holders = engine.holders := changes.holders
  refine ⟨_, reached, ⟨site, key, callback, _, rfl, ?_, settles⟩, remaining⟩
  change middle.isHeld callback.holder = true
  rw [Engine.isHeld, holders]
  exact held

/-- If a call comes that ends an operation, there is a first one, and it meets the operation. -/
theorem Course.exists_first {front : List Task} {final : Task} (course : moment.Course later)
    (settles : later.SettlesNext id) (coherent : moment.ledger.Coherent)
    (whole : moment.agenda = front ++ [final]) (idle : Task.submitting front = [])
    (ends : ∀ connection engine, (Engine.carryOut connection engine final).agenda = [])
    (present : moment.engine.pending.get? id = some serial) :
    ∃ first, moment.Spares id first ∧ first.SettlesNext id ∧
      first.engine.pending.get? id = some serial ∧ first.Course later := by
  -- The induction is on the course. What is left to do before the last task never enters anything
  -- in the table, so the operation stays there until the first call that ends it.
  induction course using Relation.ReflTransGen.head_induction_on generalizing front with
  | refl => exact ⟨later, .refl, settles, present, .refl⟩
  | @head moment next step remaining ih =>
      by_cases settled : moment.SettlesNext id
      · exact ⟨moment, .refl, settled, present, .head step remaining⟩
      have coherent_next := coherent.changes (step.changes coherent)
      have spared : moment.Spares id next := .single ⟨step, settled⟩
      obtain ⟨engine, task, tasks, connection, rfl, rfl⟩ := step.exists_carryOut
      cases front with
      | nil =>
          cases whole
          obtain ⟨site, key, callback, rest, same, -⟩ := settles
          rw [ends, List.append_nil] at remaining
          cases Course.eq_of_nil remaining
          cases same
      | cons own rest =>
          obtain ⟨rfl, rfl⟩ : task = own ∧ tasks = rest ++ [final] := List.cons.inj whole
          have quiet : task.submitting? = none :=
            List.filterMap_eq_nil_iff.mp idle task List.mem_cons_self
          have still := Engine.get?_carryOut_of_spared coherent.staged present connection quiet
            fun same held settles => settled ⟨_, _, _, _, congrArg (· :: _) same, held, settles⟩
          have silent : Task.submitting ((engine.carryOut connection task).agenda ++ rest) = [] := by
            rw [Task.submitting_append, engine.submitting_carryOut]
            exact List.filterMap_eq_nil_iff.mpr fun other member =>
              List.filterMap_eq_nil_iff.mp idle other (List.mem_cons_of_mem task member)
          obtain ⟨first, spares, found⟩ :=
            ih coherent_next (List.append_assoc _ _ _).symm silent still
          exact ⟨first, .trans spared spares, found⟩

theorem Unlisted.course (unlisted : Unlisted serial id moment.engine)
    (course : moment.Course after) : Unlisted serial id after.engine := by
  refine ⟨fun key present => unlisted.operation key (course.get? present), ?_⟩
  cases stands : after.engine.pending.get? id with
  | none => rfl
  | some other => cases unlisted.identifier.symm.trans (course.get? stands)

theorem Unlisted.spent (unlisted : Unlisted serial id engine) : Spent id serial engine :=
  ⟨unlisted,
    fun caller _ held about => Engine.beginRequest_of_free held about unlisted.identifier caller,
    Engine.operation?_beginCall_of_absent unlisted.operation⟩

theorem SettlesNext.exists_ends (settles : moment.SettlesNext id)
    (coherent : moment.ledger.Coherent) (present : moment.engine.pending.get? id = some serial) :
    ∃ operation response, moment.Ends id serial operation response := by
  obtain ⟨site, key, callback, rest, whole, held, settles⟩ := settles
  obtain ⟨operation, response, found, gives, -⟩ :=
    Engine.getsResponse_of_settles coherent settles present
  refine ⟨operation, response, present, found, site, key, callback, rest, whole, held, settles,
    gives, ?_⟩
  rw [Engine.beginRequest_of_held held]
  exact Engine.mayEnd_of_settles coherent settles present

theorem Proceeds.eq_of_callback {site : Site} {key : MessageId} {callback : Callback}
    {rest : List Task} (step : moment.Proceeds after)
    (whole : moment.agenda = .callback site key callback :: rest)
    (held : moment.engine.isHeld callback.holder = true) :
    after = (moment.engine.beginAnswered (.connection site key) callback.call).within rest := by
  obtain ⟨engine, task, tasks, connection, rfl, rfl⟩ := step.exists_carryOut
  cases whole
  rw [carryOut_callback, Engine.beginRequest_of_held held]
  rfl

/-- The call that ends an operation takes it out of the table before it does anything else. -/
theorem Ends.unlisted (ends : moment.Ends id serial operation response)
    (coherent : moment.ledger.Coherent) (step : moment.Proceeds after) :
    Unlisted serial id after.engine := by
  obtain ⟨site, key, callback, rest, whole, held, settles, -, -⟩ := ends.next
  have gone := Engine.absent_of_settles coherent.staged settles ends.present
  cases step.eq_of_callback whole held
  refine ⟨gone, ?_⟩
  cases stands : (moment.engine.beginCall callback.call).2.engine.pending.get? id with
  | none => exact stands
  | some other =>
      cases ends.present.symm.trans (Course.get? (.single step) stands)
      exact absurd stands (gone id)

theorem Ends.getsResponse (ends : moment.Ends id serial operation response)
    (coherent : moment.ledger.Coherent) (step : moment.Proceeds after) :
    GetsResponse serial operation response after := by
  obtain ⟨site, key, callback, rest, whole, held, settles, gives, -⟩ := ends.next
  obtain ⟨_, _, found, same, gets⟩ := Engine.getsResponse_of_settles coherent settles ends.present
  cases ends.found.symm.trans found
  cases gives.symm.trans same
  cases step.eq_of_callback whole held
  exact gets.imp_left fun ⟨claimed, listed⟩ =>
    ⟨claimed, List.mem_append_left _ (List.mem_append_left _ listed)⟩

theorem Ends.exists_proceeds (ends : moment.Ends id serial operation response)
    (course : moment.Course ⟨last, []⟩) :
    ∃ next, moment.Proceeds next ∧ next.Course ⟨last, []⟩ := by
  rcases Relation.ReflTransGen.cases_head course with same | found
  · obtain ⟨_, _, _, _, whole, -⟩ := ends.next
    cases same
    cases whole
  · exact found

/-- Whatever comes after the call, the operation ends with the response that the call gives. -/
theorem Ends.outcome? (ends : moment.Ends id serial operation response)
    (coherent : moment.ledger.Coherent) (course : moment.Course ⟨last, []⟩) :
    last.outcome? serial = some (operation.outcomeOf response moment.engine.now) := by
  obtain ⟨next, step, remaining⟩ := ends.exists_proceeds course
  have changes : Ledger.Changes moment.ledger next.ledger := step.changes coherent
  have now : next.engine.now = moment.engine.now := changes.now
  rw [← now]
  exact (ends.getsResponse coherent step).outcome? (coherent.changes changes) remaining

end Moment

end DirectoryClient
