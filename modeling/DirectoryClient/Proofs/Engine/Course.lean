import DirectoryClient.Proofs.Engine.Call
import DirectoryClient.Proofs.Engine.Submission

namespace DirectoryClient

open Ledger

namespace Engine

variable {engine : Engine} {ending : List Serial} {submitting : List (MessageId × Serial)}
variable {id : MessageId} {serial : Serial}

theorem takeOut_of_present (staged : Staged ⟨engine, ending, submitting⟩)
    (present : engine.pending.get? id = some serial) :
    ∃ claimed, engine.claim serial = some claimed ∧
      engine.takeOut id = some (serial, claimed.withdraw id serial) := by
  obtain ⟨operation, found, -, pending⟩ := status?_eq_some_iff.mp (staged.entry present)
  have claimed := claim_of_pending found pending
  exact ⟨_, claimed, by rw [takeOut, present]; simp [claimed]⟩

/-- Ending everything at once comes to the same as ending one operation after the other. -/
theorem changes_failEach (coherent : Coherent ⟨engine, ending, submitting⟩) (response : Response)
    {entries : List (MessageId × Serial)} (table : engine.pending.entries = entries) :
    Changes ⟨engine, ending, submitting⟩
      ⟨(({ engine with pending := ∅ }).failEach response (entries.map Prod.snd)).2, ending,
        submitting⟩ := by
  induction entries generalizing engine with
  | nil =>
      have empty : engine.pending = ∅ := PendingTable.ext_entries table
      rw [← empty]
      exact .refl
  | cons entry rest ih =>
      obtain ⟨id, serial⟩ := entry
      have present : engine.pending.get? id = some serial :=
        PendingTable.get?_eq_some_iff.mpr (table ▸ List.mem_cons_self)
      obtain ⟨claimed, won, found⟩ := takeOut_of_present coherent.staged present
      obtain ⟨operation, marked, pending, rfl⟩ := claim_eq_some won
      have left : (engine.pending.removeIfSame id serial).entries = rest :=
        PendingTable.entries_removeIfSame_head table
      have later := ih ((coherent.takeOut found).publish response) left
      refine .head (.takeOut found) (.head (.publish response) ?_)
      have emptied : claim { engine with pending := ∅ } serial = some { engine with
          pending := ∅
          operations := engine.operations.set serial { operation with stage := .claimed } } :=
        claim_of_pending marked pending
      rw [List.map_cons, failEach, emptied]
      exact later

theorem changes_failAll (coherent : Coherent ⟨engine, ending, submitting⟩) (code : ResultCode)
    (message : String) :
    Changes ⟨engine, ending, submitting⟩ ⟨(engine.failAll code message).2, ending, submitting⟩ :=
  changes_failEach coherent _ rfl

theorem changes_release (coherent : Coherent ⟨engine, ending, submitting⟩) :
    Changes ⟨engine, ending, submitting⟩ ⟨engine.release, ending, submitting⟩ := by
  rw [release]
  split
  · exact .tail (changes_failAll coherent _ _) (.note ⟨rfl, rfl⟩)
  · exact .refl

@[simp] theorem ending_beginExpiry (reason : Expiry) :
    Task.ending (engine.beginExpiry id serial reason).agenda = [serial] := by
  rw [beginExpiry]
  split <;> rfl

@[simp] theorem submitting_beginExpiry (reason : Expiry) :
    Task.submitting (engine.beginExpiry id serial reason).agenda = [] := by
  rw [beginExpiry]
  split <;> rfl

theorem submitting_beginCall (engine : Engine) (call : Call) :
    Task.submitting (engine.beginCall call).2.agenda = [] := by
  obtain ⟨reply, moment, same, begins⟩ := engine.exists_begins call
  rw [same]
  cases begins with
  | expire found => exact submitting_beginExpiry _
  | _ => rfl

theorem changes_beginCall (coherent : Coherent ⟨engine, ending, submitting⟩) (call : Call) :
    Changes ⟨engine, ending, submitting⟩
      ⟨(engine.beginCall call).2.engine, Task.ending (engine.beginCall call).2.agenda ++ ending,
        submitting⟩ := by
  obtain ⟨reply, moment, same, begins⟩ := engine.exists_begins call
  rw [same]
  cases begins with
  | idle lost none => exact .refl
  | deliver found => exact .head (.takeOut found) (.single (.publish _))
  | expire found =>
      simp only [ending_beginExpiry]
      exact .single (.takeOut found)
  | countEntry present => exact .single (.countEntry present)
  | countReference present => exact .single (.countReference present)
  | failAll code message => exact changes_failAll coherent code message

variable (agenda : List Task)

theorem submitting_beginAnswered (engine : Engine) (caller : Caller) (call : Call) :
    Task.submitting (engine.beginAnswered caller call).agenda = [] := by
  rw [beginAnswered, Moment.within, Task.submitting_append, submitting_beginCall]
  rfl

theorem changes_beginAnswered (coherent : (Moment.mk engine agenda).ledger.Coherent)
    (caller : Caller) (call : Call) :
    (Moment.mk engine agenda).ledger.Changes
      ((engine.beginAnswered caller call).within agenda).ledger := by
  have changes := changes_beginCall coherent call
  simp only [beginAnswered, Moment.within, Moment.ledger_append, List.append_assoc,
    submitting_beginCall]
  exact changes

theorem submitting_beginRequest (engine : Engine) (caller : Caller) (callback : Callback) :
    Task.submitting (engine.beginRequest caller callback).2.agenda = [] := by
  rcases engine.beginRequest_cases caller callback with ⟨-, same⟩ | ⟨-, same⟩ <;> rw [same]
  · exact engine.submitting_beginAnswered caller callback.call
  · rfl

theorem changes_beginRequest (coherent : (Moment.mk engine agenda).ledger.Coherent)
    (caller : Caller) (callback : Callback) :
    (Moment.mk engine agenda).ledger.Changes
      ((engine.beginRequest caller callback).2.within agenda).ledger := by
  rcases engine.beginRequest_cases caller callback with ⟨-, same⟩ | ⟨-, same⟩ <;> rw [same]
  · exact changes_beginAnswered agenda coherent caller callback.call
  · exact .refl

end Engine

namespace Moment

variable {moment after : Moment}

theorem carryOut_callback (connection : Connection) (engine : Engine) (site : Site) (id : MessageId)
    (callback : Callback) : engine.carryOut connection (.callback site id callback) =
      (engine.beginRequest (.connection site id) callback).2 := rfl

theorem Proceeds.changes (step : moment.Proceeds after) (coherent : moment.ledger.Coherent) :
    moment.ledger.Changes after.ledger := by
  obtain ⟨engine, task, rest, connection, rfl, rfl⟩ := step.exists_carryOut
  cases task with
  | callback site id callback =>
      exact Engine.changes_beginRequest rest coherent _ callback
  | deregister serial id =>
      simp only [Engine.carryOut, ledger_append, Task.ending_ofReaction,
        Task.submitting_ofReaction]
      exact .single (.note ⟨rfl, rfl⟩)
  | abandon serial id =>
      simp only [Engine.carryOut, ledger_append, Task.ending_ofReaction,
        Task.submitting_ofReaction]
      exact .single (.note ⟨rfl, rfl⟩)
  | comeBack site id succeeded => exact .single (.note ⟨rfl, rfl⟩)
  | publish serial response => exact .single (.publish response)
  | answer caller call reply => exact .single (.note ⟨rfl, rfl⟩)
  | accept id serial deadline =>
      cases deadline with
      | none => exact .single (.accept none)
      | some deadline => exact .single (.accept (some deadline))
  | refuse id serial reason => exact .head .refuse (.single (.note ⟨rfl, rfl⟩))

theorem changes_settle (coherent : moment.ledger.Coherent) :
    moment.ledger.Changes moment.settle.ledger := by
  rw [settle]
  split
  · next finished =>
      obtain ⟨engine, agenda⟩ := moment
      cases finished
      exact Engine.changes_release coherent
  · exact .refl

/-- A move is a turn, if it begins something, and then the changes of a call. -/
theorem Moves.course (move : moment.Moves after) (coherent : moment.ledger.Coherent) :
    ∃ middle : Ledger, (middle = moment.ledger ∨ moment.ledger.Turn middle) ∧
      middle.Changes after.ledger := by
  cases move with
  | proceed step =>
      have first := step.changes coherent
      exact ⟨_, .inl rfl, .trans first (changes_settle (coherent.changes first))⟩
  | @submit engine holder held connection kind request timeout =>
      rw [Engine.beginSubmit]
      split
      · next probed registered =>
          obtain ⟨ids, rfl⟩ := Engine.register_eq_none registered
          exact ⟨_, .inr (.tend ids _ _), .single (.note ⟨rfl, rfl⟩)⟩
      · next id registered found =>
          refine ⟨_, .inr (.register found), ?_⟩
          simp only [ledger_append]
          split <;> simp only [Task.ending_ofReaction, Task.submitting_ofReaction] <;>
            exact .single (.note ⟨rfl, rfl⟩)
  | @request engine caller callback outside =>
      have changes := Engine.changes_beginRequest [] coherent caller callback
      rw [within_nil] at changes
      exact ⟨_, .inl rfl, changes⟩
  | @fire engine timer armed due =>
      have disarmed : Coherent ⟨{ engine with timers := engine.timers.erase timer }, [], []⟩ :=
        coherent.turn (.disarm timer)
      have changes := Engine.changes_beginAnswered [] disarmed
        (.timer timer.operation) (.expire timer.messageId .timeout)
      rw [within_nil] at changes
      exact ⟨_, .inr (.disarm timer), changes⟩
  | clone held => exact ⟨_, .inr (.tend _ _ _), .refl⟩
  | @drop engine holder held =>
      have dropped := coherent.turn (.tend engine.ids (engine.holders.set holder false) engine.now)
      exact ⟨_, .inr (.tend _ _ _), Engine.changes_release dropped⟩
  | recordEntry engine serial => exact ⟨_, .inr (.recordEntry serial), .refl⟩
  | recordReference engine serial => exact ⟨_, .inr (.recordReference serial), .refl⟩
  | pass later => exact ⟨_, .inr (.tend _ _ _), .refl⟩
  | renumber engine ids => exact ⟨_, .inr (.tend _ _ _), .refl⟩

theorem Moves.coherent (move : moment.Moves after) (coherent : moment.ledger.Coherent) :
    after.ledger.Coherent := by
  obtain ⟨middle, rfl | turn, changes⟩ := move.course coherent
  · exact coherent.changes changes
  · exact (coherent.turn turn).changes changes

theorem Reaches.coherent (later : moment.Reaches after) (coherent : moment.ledger.Coherent) :
    after.ledger.Coherent := by
  induction later with
  | refl => exact coherent
  | tail _ move ih => exact move.coherent ih

theorem Reachable.coherent (reachable : moment.Reachable) : moment.ledger.Coherent := by
  obtain ⟨options, ids, later⟩ := reachable
  exact Reaches.coherent later (coherent_start options ids)

end Moment

end DirectoryClient
