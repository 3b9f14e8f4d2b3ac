import DirectoryClient.Proofs.Engine.Frame

namespace DirectoryClient

/-- The identifier of the operation that a task tells the connection of. -/
def Task.tells? : Task → Option MessageId
  | .deregister _ id => some id
  | .abandon _ id => some id
  | .callback site id _ => if site = .transmit then none else some id
  | .comeBack site id _ => if site = .transmit then none else some id
  | _ => none

/-- The connection is told of operations only while their outcomes wait to be written. -/
def Task.OutcomesFollow (engine : Engine) : List Task → Prop
  | [] => True
  | task :: rest =>
      (∀ id, task.tells? = some id →
        ∃ serial ∈ Task.ending rest, engine.messageId? serial = some id) ∧
        Task.OutcomesFollow engine rest

namespace Task

variable {engine after : Engine} {first second tasks : List Task} {task : Task} {id : MessageId}

/-- Tasks may be put in front of others if these are going to write the outcomes. -/
theorem OutcomesFollow.prepend (later : OutcomesFollow engine second)
    (owed : ∀ task ∈ first, ∀ id, task.tells? = some id →
      ∃ serial ∈ ending second, engine.messageId? serial = some id) :
    OutcomesFollow engine (first ++ second) := by
  induction first with
  | nil => exact later
  | cons task rest ih =>
      refine ⟨fun id tells => ?_, ih fun next member => owed next (List.mem_cons_of_mem task member)⟩
      obtain ⟨serial, waiting, own⟩ := owed task List.mem_cons_self id tells
      have listed := List.mem_append_right (ending rest) waiting
      rw [← ending_append] at listed
      exact ⟨serial, listed, own⟩

theorem OutcomesFollow.append (before : OutcomesFollow engine first)
    (later : OutcomesFollow engine second) : OutcomesFollow engine (first ++ second) := by
  induction first with
  | nil => exact later
  | cons task rest ih =>
      refine ⟨fun id tells => ?_, ih before.2⟩
      obtain ⟨serial, waiting, own⟩ := before.1 id tells
      have listed := List.mem_append_left (ending second) waiting
      rw [← ending_append] at listed
      exact ⟨serial, listed, own⟩

theorem outcomesFollow_of_silent (silent : ∀ task ∈ tasks, task.tells? = none) :
    OutcomesFollow engine tasks := by
  induction tasks with
  | nil => trivial
  | cons task rest ih =>
      refine ⟨fun id tells => ?_, ih fun next member => silent next (List.mem_cons_of_mem task member)⟩
      cases (silent task List.mem_cons_self).symm.trans tells

theorem OutcomesFollow.extends (follow : OutcomesFollow engine tasks)
    (later : engine.Extends after) : OutcomesFollow after tasks := by
  induction tasks with
  | nil => trivial
  | cons task rest ih =>
      refine ⟨fun id tells => ?_, ih follow.2⟩
      obtain ⟨serial, waiting, own⟩ := follow.1 id tells
      exact ⟨serial, waiting, later.messageId? own⟩

theorem OutcomesFollow.of_mem (follow : OutcomesFollow engine tasks) (member : task ∈ tasks)
    (tells : task.tells? = some id) :
    ∃ serial ∈ ending tasks, engine.messageId? serial = some id := by
  induction tasks with
  | nil => cases member
  | cons next rest ih =>
      have found : ∃ serial ∈ ending rest, engine.messageId? serial = some id := by
        rcases List.mem_cons.mp member with rfl | later
        · exact follow.1 id tells
        · exact ih follow.2 later
      obtain ⟨serial, waiting, own⟩ := found
      refine ⟨serial, ?_, own⟩
      rw [ending_cons]
      exact List.mem_append_right _ waiting

theorem tells?_ofReaction {ε : Type} (site : Site) (key : MessageId) (reaction : Reaction ε) :
    ∀ task ∈ ofReaction site key reaction,
      task.tells? = if site = .transmit then none else some key := by
  intro task member
  rcases List.mem_append.mp member with call | last
  · obtain ⟨callback, -, rfl⟩ := List.mem_map.mp call
    rfl
  · rw [List.mem_singleton.mp last]
    rfl

theorem outcomesFollow_ofReaction {ε : Type} (site : Site) (reaction : Reaction ε) {serial : Serial}
    (waiting : serial ∈ ending tasks) (own : engine.messageId? serial = some id)
    (later : OutcomesFollow engine tasks) :
    OutcomesFollow engine (ofReaction site id reaction ++ tasks) := by
  refine later.prepend fun task member key tells => ⟨serial, waiting, ?_⟩
  rw [tells?_ofReaction site id reaction task member] at tells
  split at tells
  · cases tells
  · cases tells
    exact own

theorem outcomesFollow_beginExpiry {serial : Serial} (own : engine.messageId? serial = some id)
    (reason : Expiry) : OutcomesFollow engine (engine.beginExpiry id serial reason).agenda := by
  rw [Engine.beginExpiry]
  split <;> simp [OutcomesFollow, tells?, ending, ending?, own]

end Task

namespace Engine

open Ledger

variable {engine : Engine} {ending : List Serial} {submitting : List (MessageId × Serial)}

theorem outcomesFollow_beginAnswered (staged : Staged ⟨engine, ending, submitting⟩) (caller : Caller)
    (call : Call) : Task.OutcomesFollow (engine.beginAnswered caller call).engine
      (engine.beginAnswered caller call).agenda := by
  have answer : ∀ reply later, Task.OutcomesFollow later [.answer caller call reply] :=
    fun reply later => ⟨nofun, trivial⟩
  rw [beginAnswered, Moment.within]
  obtain ⟨reply, moment, same, begins⟩ := engine.exists_begins call
  rw [same]
  cases begins with
  | @expire id reason serial taken found =>
      have own := messageId?_of_status? (staged.entry (pending_of_takeOut found).1)
      rw [← messageId?_takeOut found serial] at own
      exact (Task.outcomesFollow_beginExpiry own reason).append (answer _ _)
  | _ => exact answer _ _

theorem outcomesFollow_beginRequest (staged : Staged ⟨engine, ending, submitting⟩) (caller : Caller)
    (callback : Callback) : Task.OutcomesFollow (engine.beginRequest caller callback).2.engine
      (engine.beginRequest caller callback).2.agenda := by
  rcases engine.beginRequest_cases caller callback with ⟨-, same⟩ | ⟨-, same⟩ <;> rw [same]
  · exact outcomesFollow_beginAnswered staged caller callback.call
  · exact ⟨nofun, trivial⟩

theorem outcomesFollow_beginSubmit (engine : Engine) (connection : Connection) (kind : OperationKind)
    (request : List UInt8) (timeout : Option Duration) :
    Task.OutcomesFollow (engine.beginSubmit connection kind request timeout).2.engine
      (engine.beginSubmit connection kind request timeout).2.agenda := by
  rw [beginSubmit]
  split
  · trivial
  · refine Task.outcomesFollow_of_silent fun task member => ?_
    rcases List.mem_append.mp member with visit | last
    · exact Task.tells?_ofReaction _ _ _ task visit
    · rw [List.mem_singleton.mp last]
      split <;> rfl

end Engine

namespace Moment

variable {moment after : Moment} {serial : Serial} {id : MessageId} {task : Task}

def OutcomesFollow (moment : Moment) : Prop :=
  Task.OutcomesFollow moment.engine moment.agenda

theorem Proceeds.outcomesFollow (step : moment.Proceeds after) (coherent : moment.ledger.Coherent)
    (follow : moment.OutcomesFollow) : after.OutcomesFollow := by
  have later := coherent.extends (step.changes coherent)
  obtain ⟨engine, task, rest, connection, rfl, rfl⟩ := step.exists_carryOut
  have left := Task.OutcomesFollow.extends follow.2 later
  cases task with
  | callback site id callback =>
      exact (Engine.outcomesFollow_beginRequest coherent.staged _ callback).append left
  | deregister serial id =>
      obtain ⟨owner, waiting, own⟩ := follow.1 id rfl
      exact Task.outcomesFollow_ofReaction _ _ waiting (later.messageId? own) left
  | abandon serial id =>
      obtain ⟨owner, waiting, own⟩ := follow.1 id rfl
      exact Task.outcomesFollow_ofReaction _ _ waiting (later.messageId? own) left
  | _ => exact left

theorem Moves.outcomesFollow (move : moment.Moves after) (coherent : moment.ledger.Coherent)
    (follow : moment.OutcomesFollow) : after.OutcomesFollow := by
  have later := move.extends coherent
  cases move with
  | proceed step =>
      rw [settle]
      split
      · trivial
      · exact step.outcomesFollow coherent follow
  | submit held connection kind request timeout =>
      exact Engine.outcomesFollow_beginSubmit _ connection kind request timeout
  | request engine callback outside =>
      exact Engine.outcomesFollow_beginRequest coherent.staged _ callback
  | @fire engine timer armed due =>
      exact Engine.outcomesFollow_beginAnswered (coherent.turn (.disarm timer)).staged
        (.timer timer.operation) (.expire timer.messageId .timeout)
  | pass past => exact follow.extends later
  | _ => trivial

theorem Reachable.outcomesFollow (reachable : moment.Reachable) : moment.OutcomesFollow := by
  obtain ⟨options, ids, later⟩ := reachable
  induction later with
  | refl => trivial
  | tail earlier move ih => exact move.outcomesFollow (Reachable.coherent ⟨options, ids, earlier⟩) ih

/-- An operation that is being ended keeps its identifier out of the table. -/
theorem free_of_ending (coherent : moment.ledger.Coherent)
    (waiting : serial ∈ Task.ending moment.agenda)
    (own : moment.engine.messageId? serial = some id) :
    moment.engine.pending.get? id = none := by
  refine Option.eq_none_iff_forall_ne_some.mpr fun other present => ?_
  have used : moment.engine.messageId? other = some id :=
    Engine.messageId?_of_status? (coherent.staged.entry present)
  -- Of two operations under one identifier, both being live, each is the last.
  have same : other = serial := Nat.le_antisymm (coherent.latest (.inr waiting) own used)
    (coherent.latest (.inl ⟨id, present⟩) used own)
  exact coherent.staged.not_ending present (same ▸ waiting)

theorem claimed_of_ending (coherent : moment.ledger.Coherent)
    (waiting : serial ∈ Task.ending moment.agenda) :
    ∃ operation, moment.engine.operation? serial = some operation ∧
      operation.stage = .claimed := by
  obtain ⟨id, stands⟩ := coherent.staged.claimed.mp waiting
  obtain ⟨operation, found, -, claimed⟩ := Engine.status?_eq_some_iff.mp stands
  exact ⟨operation, found, claimed⟩

/-- The outcome that waits to be written is the one that will be seen. -/
theorem outcome?_of_publish {operation : Operation} {response : Response} {last : Engine}
    (coherent : moment.ledger.Coherent)
    (found : moment.engine.operation? serial = some operation) (claimed : operation.stage = .claimed)
    (listed : .publish serial response ∈ moment.agenda) (course : moment.Course ⟨last, []⟩) :
    last.outcome? serial = some (operation.outcomeOf response moment.engine.now) := by
  have same : { operation with stage := .claimed } = operation := by
    rw [← claimed]
  exact GetsResponse.outcome? (.inl ⟨same.symm ▸ found, listed⟩) coherent course

end Moment

end DirectoryClient
