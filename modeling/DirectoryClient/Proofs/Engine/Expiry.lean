import DirectoryClient.Proofs.Engine.Progress

namespace DirectoryClient

/-- Each outcome that is going to be written belongs to an expiry call that has yet to be
answered. -/
def Task.Answered (engine : Engine) : List Task → Prop
  | [] => True
  | task :: rest =>
      (∀ serial, task.ending? = some serial → ∃ id caller reason,
        engine.messageId? serial = some id ∧
          .answer caller (.expire id reason) (.flag true) ∈ rest) ∧
        Task.Answered engine rest

namespace Task

variable {engine after : Engine} {first second tasks : List Task}

theorem Answered.append (before : Answered engine first) (later : Answered engine second) :
    Answered engine (first ++ second) := by
  induction first with
  | nil => exact later
  | cons task rest ih =>
      refine ⟨fun serial own => ?_, ih before.2⟩
      obtain ⟨id, caller, reason, same, answer⟩ := before.1 serial own
      exact ⟨id, caller, reason, same, List.mem_append_left _ answer⟩

theorem answered_of_ending (idle : ending tasks = []) : Answered engine tasks := by
  induction tasks with
  | nil => trivial
  | cons task rest ih =>
      rw [ending_cons, List.append_eq_nil_iff] at idle
      refine ⟨fun serial own => ?_, ih idle.2⟩
      rw [own] at idle
      cases idle.1

theorem Answered.extends (answered : Answered engine tasks) (later : engine.Extends after) :
    Answered after tasks := by
  induction tasks with
  | nil => trivial
  | cons task rest ih =>
      refine ⟨fun serial own => ?_, ih answered.2⟩
      obtain ⟨id, caller, reason, same, answer⟩ := answered.1 serial own
      exact ⟨id, caller, reason, later.messageId? same, answer⟩

theorem Answered.of_mem {serial : Serial} (answered : Answered engine tasks)
    (member : serial ∈ ending tasks) : ∃ id caller reason,
      engine.messageId? serial = some id ∧
        .answer caller (.expire id reason) (.flag true) ∈ tasks := by
  induction tasks with
  | nil => cases member
  | cons task rest ih =>
      rw [ending_cons, List.mem_append, Option.mem_toList] at member
      have found := member.elim (answered.1 serial) (ih answered.2)
      obtain ⟨id, caller, reason, same, answer⟩ := found
      exact ⟨id, caller, reason, same, List.mem_cons_of_mem _ answer⟩

theorem answered_beginExpiry {id : MessageId} {serial : Serial}
    (own : engine.messageId? serial = some id) (caller : Caller) (reason : Expiry) :
    Answered engine ((engine.beginExpiry id serial reason).agenda ++
      [.answer caller (.expire id reason) (.flag true)]) := by
  rw [Engine.beginExpiry]
  split <;> simp [Answered, ending?, own]

end Task

namespace Engine

open Ledger

variable {engine : Engine} {ending : List Serial} {submitting : List (MessageId × Serial)}

theorem answered_beginAnswered (staged : Staged ⟨engine, ending, submitting⟩) (caller : Caller)
    (call : Call) : Task.Answered (engine.beginAnswered caller call).engine
      (engine.beginAnswered caller call).agenda := by
  rw [beginAnswered, Moment.within]
  obtain ⟨reply, moment, same, begins⟩ := engine.exists_begins call
  rw [same]
  cases begins with
  | @expire id reason serial taken found =>
      have own := messageId?_of_status? (staged.entry (pending_of_takeOut found).1)
      exact Task.answered_beginExpiry ((messageId?_takeOut found serial).trans own) caller reason
  | _ => exact Task.answered_of_ending rfl

theorem answered_beginRequest (staged : Staged ⟨engine, ending, submitting⟩) (caller : Caller)
    (callback : Callback) : Task.Answered (engine.beginRequest caller callback).2.engine
      (engine.beginRequest caller callback).2.agenda := by
  rcases engine.beginRequest_cases caller callback with ⟨-, same⟩ | ⟨-, same⟩ <;> rw [same]
  · exact answered_beginAnswered staged caller callback.call
  · exact Task.answered_of_ending rfl

theorem answered_carryOut (connection : Connection) (staged : Staged ⟨engine, ending, submitting⟩)
    (task : Task) : Task.Answered (engine.carryOut connection task).engine
      (engine.carryOut connection task).agenda := by
  cases task with
  | callback site id callback =>
      rw [Moment.carryOut_callback]
      exact answered_beginRequest staged _ callback
  | deregister serial id => exact Task.answered_of_ending (Task.ending_ofReaction _ _ _)
  | abandon serial id => exact Task.answered_of_ending (Task.ending_ofReaction _ _ _)
  | comeBack site id succeeded => trivial
  | publish serial response => trivial
  | answer caller call reply => trivial
  | accept id serial deadline => trivial
  | refuse id serial reason => trivial

end Engine

namespace Moment

variable {moment after : Moment}

def Answering (moment : Moment) : Prop :=
  Task.Answered moment.engine moment.agenda

theorem Proceeds.answering (step : moment.Proceeds after) (coherent : moment.ledger.Coherent)
    (answering : moment.Answering) : after.Answering := by
  have later := coherent.extends (step.changes coherent)
  obtain ⟨engine, task, rest, connection, rfl, rfl⟩ := step.exists_carryOut
  exact (Engine.answered_carryOut connection coherent.staged task).append
    (answering.2.extends later)

theorem answering_settle (answering : moment.Answering) : moment.settle.Answering := by
  rw [settle]
  split
  · trivial
  · exact answering

theorem Moves.answering (move : moment.Moves after) (coherent : moment.ledger.Coherent)
    (answering : moment.Answering) : after.Answering := by
  have later := move.extends coherent
  cases move with
  | proceed step => exact answering_settle (step.answering coherent answering)
  | submit held connection kind request timeout =>
      rw [Engine.beginSubmit]
      split
      · trivial
      · apply Task.answered_of_ending
        simp only [Task.ending_append, Task.ending_ofReaction]
        split <;> rfl
  | request engine callback outside => exact Engine.answered_beginRequest coherent.staged _ callback
  | @fire engine timer armed due =>
      exact Engine.answered_beginAnswered (coherent.turn (.disarm timer)).staged
        (.timer timer.operation) (.expire timer.messageId .timeout)
  | clone held => trivial
  | drop held => trivial
  | recordEntry engine serial => trivial
  | recordReference engine serial => trivial
  | pass past => exact answering.extends later
  | renumber engine ids => trivial

theorem Reachable.answering (reachable : moment.Reachable) : moment.Answering := by
  obtain ⟨options, ids, later⟩ := reachable
  induction later with
  | refl => trivial
  | tail earlier move ih => exact move.answering (Reachable.coherent ⟨options, ids, earlier⟩) ih

end Moment

end DirectoryClient
