import DirectoryClient.Proofs.Engine.Release
import DirectoryClient.Proofs.Engine.Tally

namespace DirectoryClient

namespace Task

def isFiring : Task → Bool
  | .answer (.timer _) _ _ => true
  | _ => false

def isAnswer : Task → Bool
  | .answer _ _ _ => true
  | _ => false

theorem isAnswer_of_isFiring {task : Task} (firing : task.isFiring = true) :
    task.isAnswer = true := by
  cases task with
  | answer caller call reply => rfl
  | _ => cases firing

theorem isFiring_ofReaction {ε : Type} (site : Site) (id : MessageId) (reaction : Reaction ε) :
    ∀ task ∈ ofReaction site id reaction, task.isFiring = false := by
  intro task member
  rcases List.mem_append.mp member with called | back
  · obtain ⟨callback, -, rfl⟩ := List.mem_map.mp called
    rfl
  · rw [List.mem_singleton.mp back]
    rfl

end Task

namespace Engine

variable (engine : Engine)

theorem isFiring_beginCall (call : Call) :
    ∀ task ∈ (engine.beginCall call).2.agenda, task.isFiring = false := by
  obtain ⟨reply, moment, same, begins⟩ := engine.exists_begins call
  rw [same]
  cases begins with
  | expire found =>
      simp only [beginExpiry]
      split <;> simp [Task.isFiring]
  | _ => exact fun task member => absurd member List.not_mem_nil

theorem isFiring_beginRequest {caller : Caller} (callback : Callback)
    (other : caller.isTimer = false) :
    ∀ task ∈ (engine.beginRequest caller callback).2.agenda, task.isFiring = false := by
  have answer : ∀ reply, (Task.answer caller callback.call reply).isFiring = false := by
    intro reply
    cases caller with
    | timer operation => cases other
    | _ => rfl
  rcases engine.beginRequest_cases caller callback with ⟨-, same⟩ | ⟨-, same⟩ <;> rw [same]
  · intro task member
    rcases List.mem_append.mp member with begun | last
    · exact engine.isFiring_beginCall callback.call task begun
    · rw [List.mem_singleton.mp last]
      exact answer _
  · intro task member
    rw [List.mem_singleton.mp member]
    exact answer _

theorem isFiring_carryOut (connection : Connection) (task : Task) :
    ∀ next ∈ (engine.carryOut connection task).agenda, next.isFiring = false := by
  cases task with
  | callback site id callback => exact engine.isFiring_beginRequest callback rfl
  | deregister serial id => exact Task.isFiring_ofReaction _ _ _
  | abandon serial id => exact Task.isFiring_ofReaction _ _ _
  | comeBack site id succeeded => simp [carryOut]
  | publish serial response => simp [carryOut]
  | answer caller call reply => simp [carryOut]
  | accept id serial deadline => simp [carryOut]
  | refuse id serial reason => simp [carryOut]

theorem submitting_carryOut (connection : Connection) (task : Task) :
    Task.submitting (engine.carryOut connection task).agenda = [] := by
  cases task with
  | callback site id callback => exact engine.submitting_beginRequest _ callback
  | deregister serial id => exact Task.submitting_ofReaction _ _ _
  | abandon serial id => exact Task.submitting_ofReaction _ _ _
  | comeBack site id succeeded => rfl
  | publish serial response => rfl
  | answer caller call reply => rfl
  | accept id serial deadline => rfl
  | refuse id serial reason => rfl

theorem carryOut_of_isAnswer (connection : Connection) {task : Task}
    (answer : task.isAnswer = true) :
    ∃ event, engine.carryOut connection task = ⟨engine.log event, []⟩ := by
  cases task with
  | answer caller call reply => exact ⟨_, rfl⟩
  | _ => cases answer

end Engine

namespace Ledger

variable {ledger after : Ledger}

theorem Changes.holders (changes : ledger.Changes after) :
    after.engine.holders = ledger.engine.holders := by
  rw [changes.frame]

end Ledger

namespace Moment

variable {moment after : Moment}

/-- Whether a timer has fired and is not through with what it does. -/
def isFiring (moment : Moment) : Bool :=
  moment.agenda.any Task.isFiring

/-- Without a reference, it is a firing timer that has something to do, or nobody. -/
structure Kept (moment : Moment) : Prop where
  last : ∀ task ∈ moment.agenda.dropLast, task.isFiring = false
  keeper : true ∈ moment.engine.holders ∨ Task.submitting moment.agenda = [] ∧
    (moment.isFiring = true ∨
      moment.engine.Settled ∧ ∀ task ∈ moment.agenda, task.isAnswer = true)

theorem Kept.of_idle {engine : Engine} (settled : engine.Settled) : Kept ⟨engine, []⟩ :=
  ⟨fun _ member => absurd member List.not_mem_nil,
    .inr ⟨rfl, .inr ⟨settled, fun _ member => absurd member List.not_mem_nil⟩⟩⟩

theorem Kept.settled {engine : Engine} (kept : Kept ⟨engine, []⟩) : engine.Settled := by
  rcases kept.keeper with held | ⟨-, firing | ⟨settled, -⟩⟩
  · exact Engine.settled_of_held held
  · cases firing
  · exact settled

theorem Kept.rest_eq_nil {engine : Engine} {task : Task} {rest : List Task}
    (kept : Kept ⟨engine, task :: rest⟩) (firing : task.isFiring = true) : rest = [] := by
  cases rest with
  | nil => rfl
  | cons next rest =>
      have idle := kept.last task (by simp)
      cases firing.symm.trans idle

theorem dropLast_append_subset {α : Type} (first second : List α) :
    (first ++ second).dropLast ⊆ first ++ second.dropLast := by
  cases second with
  | nil =>
      rw [List.append_nil, List.dropLast_nil, List.append_nil]
      exact List.dropLast_subset first
  | cons item rest =>
      rw [List.dropLast_append_cons]
      exact List.Subset.refl _

theorem Proceeds.kept (step : moment.Proceeds after) (coherent : moment.ledger.Coherent)
    (kept : moment.Kept) : after.settle.Kept := by
  have holders : after.engine.holders = moment.engine.holders := (step.changes coherent).holders
  rw [settle]
  split
  · exact .of_idle (Engine.settled_release _)
  · next going =>
      obtain ⟨engine, task, rest, connection, rfl, rfl⟩ := step.exists_carryOut
      have quiet := engine.isFiring_carryOut connection task
      refine ⟨fun later member => ?_, ?_⟩
      · rcases List.mem_append.mp (dropLast_append_subset _ _ member) with new | old
        · exact quiet later new
        · apply kept.last later
          rw [List.dropLast_cons_of_ne_nil (List.ne_nil_of_mem (List.dropLast_subset rest old))]
          exact List.mem_cons_of_mem task old
      · rcases kept.keeper with held | ⟨alone, keeper⟩
        · exact .inl (holders ▸ held)
        · rw [← List.singleton_append, Task.submitting_append, List.append_eq_nil_iff] at alone
          have quietly : Task.submitting
              ((engine.carryOut connection task).agenda ++ rest) = [] := by
            rw [Task.submitting_append, engine.submitting_carryOut, alone.2]
            rfl
          refine .inr ⟨quietly, ?_⟩
          rcases keeper with firing | ⟨settled, answers⟩
          · rw [isFiring, List.any_cons, Bool.or_eq_true_iff] at firing
            rw [isFiring, List.any_append, Bool.or_eq_true_iff]
            refine .inl (.inr (firing.resolve_left fun head => going ?_))
            obtain ⟨event, same⟩ := engine.carryOut_of_isAnswer connection
              (Task.isAnswer_of_isFiring head)
            rw [kept.rest_eq_nil head, same]
            rfl
          · obtain ⟨event, same⟩ := engine.carryOut_of_isAnswer connection
              (answers task List.mem_cons_self)
            rw [same]
            exact .inr ⟨settled.congr rfl rfl rfl,
              fun later member => answers later (List.mem_cons_of_mem task member)⟩

theorem Kept.of_same {engine later : Engine} (kept : Kept ⟨engine, []⟩)
    (holders : later.holders = engine.holders) (timers : later.timers = engine.timers)
    (pending : later.pending = engine.pending) : Kept ⟨later, []⟩ :=
  .of_idle (kept.settled.congr holders timers pending)

theorem Kept.beginRequest {engine : Engine} (kept : Kept ⟨engine, []⟩)
    (coherent : Ledger.Coherent ⟨engine, [], []⟩) {caller : Caller} (callback : Callback)
    (outside : caller = .client ∨ caller = .schedule) :
    Kept (engine.beginRequest caller callback).2 := by
  have other : caller.isTimer = false := by rcases outside with rfl | rfl <;> rfl
  refine ⟨fun task member => engine.isFiring_beginRequest callback other task
    (List.dropLast_subset _ member), ?_⟩
  by_cases held : true ∈ engine.holders
  · have changes := Engine.changes_beginRequest [] coherent caller callback
    exact .inl (changes.holders.symm.subst held)
  · rw [engine.beginRequest_of_unheld held]
    refine .inr ⟨rfl, .inr ⟨kept.settled, fun task member => ?_⟩⟩
    rw [List.mem_singleton.mp member]
    rfl

theorem kept_beginSubmit {engine : Engine} (held : true ∈ engine.holders)
    (connection : Connection) (kind : OperationKind) (request : List UInt8)
    (timeout : Option Duration) :
    Kept (engine.beginSubmit connection kind request timeout).2 := by
  refine ⟨fun task member => ?_, .inl ?_⟩
  · replace member := List.dropLast_subset _ member
    rw [Engine.beginSubmit] at member
    split at member
    · cases member
    · rcases List.mem_append.mp member with reaction | last
      · exact Task.isFiring_ofReaction _ _ _ task reaction
      · rw [List.mem_singleton.mp last]
        split <;> rfl
  · rw [Engine.holders_beginSubmit]
    exact held

theorem kept_beginFiring (engine : Engine) (timer : Timer) : Kept (engine.beginFiring timer).2 := by
  simp only [Engine.beginFiring]
  refine ⟨fun task member => ?_, .inr ⟨?_, .inl ?_⟩⟩
  · rw [List.dropLast_concat] at member
    exact Engine.isFiring_beginCall _ _ task member
  · rw [Task.submitting_append, Engine.submitting_beginCall]
    rfl
  · rw [isFiring, List.any_append]
    exact Bool.or_true _

theorem Moves.kept (move : moment.Moves after) (coherent : moment.ledger.Coherent)
    (kept : moment.Kept) : after.Kept := by
  cases move with
  | proceed step => exact step.kept coherent kept
  | submit held connection kind request timeout =>
      exact kept_beginSubmit (Engine.true_mem_holders held) connection kind request timeout
  | request engine callback outside => exact kept.beginRequest coherent callback outside
  | fire armed due => exact kept_beginFiring _ _
  | clone held =>
      exact .of_idle (Engine.settled_of_held (List.mem_append_right _ List.mem_cons_self))
  | drop held => exact .of_idle (Engine.settled_release _)
  | recordEntry engine serial => exact kept.of_same rfl rfl rfl
  | recordReference engine serial => exact kept.of_same rfl rfl rfl
  | pass later => exact ⟨kept.last, kept.keeper⟩
  | renumber engine ids => exact kept.of_same rfl rfl rfl

theorem Reachable.kept (reachable : moment.Reachable) : moment.Kept := by
  obtain ⟨options, ids, later⟩ := reachable
  induction later with
  | refl => exact .of_idle (Engine.settled_of_held List.mem_cons_self)
  | tail earlier move ih => exact move.kept (Reachable.coherent ⟨options, ids, earlier⟩) ih

end Moment

end DirectoryClient
