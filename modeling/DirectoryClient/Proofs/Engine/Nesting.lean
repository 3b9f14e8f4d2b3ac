import DirectoryClient.Proofs.Engine.Counting
import DirectoryClient.Proofs.Engine.Transmission
import Mathlib.Data.Prod.Lex

/-!
# How far calls are nested

A connection that is told of the end of an operation may end others from inside, and is told of
these in turn. But an operation is taken out of the table before the connection is told of it, so
each expiry uses up an operation that was pending before. This bounds how often the connection is
told, how deep the expiries are nested, and, together with the calls that a visit brings, the call
as a whole.
-/

namespace DirectoryClient

namespace Event

def isDeregistration : Event → Bool
  | .deregistered _ _ => true
  | _ => false

def isAbandonment : Event → Bool
  | .abandoned _ _ => true
  | _ => false

end Event

namespace Task

def isCallback : Task → Bool
  | .callback _ _ _ => true
  | _ => false

/-- Whether an expiry is under way that has found its operation. -/
def isWonExpiry : Task → Bool
  | .answer _ (.expire _ _) (.flag won) => won
  | _ => false

/-- Whether an expiry is under way that has found nothing to end. -/
def isLostExpiry : Task → Bool
  | .answer _ (.expire _ _) (.flag won) => !won
  | _ => false

/-- Whether an expiry is under way: it has begun and is yet to be answered. -/
def isExpiry (task : Task) : Bool :=
  task.isWonExpiry || task.isLostExpiry

end Task

/-- What the end of one operation by a timeout or on request costs at most once. -/
inductive Toll where
  | deregistration
  | abandonment
  /-- The call itself, until it is answered. -/
  | expiry

namespace Toll

/-- Whether a task is a toll that has yet to be paid. -/
def owed : Toll → Task → Bool
  | .deregistration, .deregister _ _ => true
  | .abandonment, .abandon _ _ => true
  | .expiry, task => task.isWonExpiry
  | _, _ => false

/-- Whether an event tells that a toll has been paid. An expiry that has been answered is not under
way any more, so nothing is left of its toll. -/
def paid : Toll → Event → Bool
  | .deregistration, event => event.isDeregistration
  | .abandonment, event => event.isAbandonment
  | .expiry, _ => false

variable {toll : Toll}

theorem paid_of_isEffect {event : Event} (effect : event.isEffect = true) :
    toll.paid event = false := by
  cases toll <;> cases event <;> first | rfl | cases effect

theorem countP_paid_of_effects {events : List Event}
    (effects : ∀ event ∈ events, event.isEffect = true) : events.countP toll.paid = 0 := by
  rw [List.countP_eq_zero]
  intro event member
  rw [paid_of_isEffect (effects event member)]
  exact Bool.false_ne_true

@[simp] theorem countP_owed_ofReaction {ε : Type} (toll : Toll) (site : Site) (id : MessageId)
    (reaction : Reaction ε) : (Task.ofReaction site id reaction).countP toll.owed = 0 := by
  rw [List.countP_eq_zero]
  intro task member
  rcases List.mem_append.mp member with called | back
  · obtain ⟨callback, -, rfl⟩ := List.mem_map.mp called
    cases toll <;> exact Bool.false_ne_true
  · rw [List.mem_singleton.mp back]
    cases toll <;> exact Bool.false_ne_true

theorem owed_answer_of_lost {caller : Caller} {call : Call} {reply : Reply}
    (lost : call.wins reply = false) : toll.owed (.answer caller call reply) = false := by
  cases toll with
  | expiry => cases call <;> cases reply <;> first | rfl | exact lost
  | _ => rfl

/-- Each toll of an expiry is owed once at most. -/
theorem countP_owed_beginExpiry_le (toll : Toll) (engine : Engine) (id : MessageId)
    (serial : Serial) (reason : Expiry) (caller : Caller) :
    ((engine.beginExpiry id serial reason).agenda ++
      [Task.answer caller (.expire id reason) (.flag true)]).countP toll.owed ≤ 1 := by
  rw [Engine.beginExpiry]
  cases toll <;> split <;> first | exact Nat.le_refl 1 | exact Nat.zero_le 1

end Toll

namespace Engine

variable {engine taken : Engine} {id : MessageId} {serial : Serial}

theorem pendingCount_takeOut_lt (found : engine.takeOut id = some (serial, taken)) :
    taken.pendingCount < engine.pendingCount := by
  obtain ⟨present, table⟩ := pending_of_takeOut found
  rw [pendingCount, pendingCount, table]
  exact List.length_filter_lt_length_iff_exists.mpr
    ⟨(id, serial), PendingTable.mem_of_get? present, by simp⟩

end Engine

namespace Moment

open Engine

variable {moment after : Moment}

/-- The operations that can still be ended, with the tolls that are owed or have been paid for those
that have been ended already. -/
def expense (toll : Toll) (moment : Moment) : Nat :=
  moment.engine.pendingCount + moment.agenda.countP toll.owed +
    moment.engine.trace.countP toll.paid

theorem expense_append (toll : Toll) (engine : Engine) (first second : List Task) :
    expense toll ⟨engine, first ++ second⟩ =
      expense toll ⟨engine, first⟩ + second.countP toll.owed := by
  simp only [expense, List.countP_append]
  omega

theorem expense_of_effects {toll : Toll} {engine : Engine} {events : List Event}
    (trace : moment.engine.trace = engine.trace ++ events)
    (effects : ∀ event ∈ events, event.isEffect = true) :
    expense toll moment = moment.engine.pendingCount + moment.agenda.countP toll.owed +
      engine.trace.countP toll.paid := by
  rw [expense, trace, List.countP_append, Toll.countP_paid_of_effects effects, Nat.add_zero]

/-- A call that ends an operation owes no more than the operation stood for. -/
theorem expense_beginAnswered_le (toll : Toll) (engine : Engine) (caller : Caller) (call : Call) :
    expense toll (engine.beginAnswered caller call) ≤ expense toll ⟨engine, []⟩ := by
  obtain ⟨events, added, effects⟩ := engine.effects_beginCall call
  have trace : (engine.beginAnswered caller call).engine.trace = engine.trace ++ events := added
  rw [expense_of_effects trace effects]
  simp only [expense, List.countP_nil, Nat.add_zero]
  apply Nat.add_le_add_right
  rw [beginAnswered]
  obtain ⟨reply, begun, same, begins⟩ := engine.exists_begins call
  rw [same]
  -- Only an expiry that has found its operation owes a toll, and then the table has one entry less.
  cases begins with
  | idle lost none =>
      have nothing : toll.owed (.answer caller call reply) = false := Toll.owed_answer_of_lost lost
      simp [within, nothing]
  | deliver found =>
      have fewer := pendingCount_takeOut_lt found
      cases toll <;> exact Nat.le_of_lt fewer
  | @expire id reason serial taken found =>
      have fewer := pendingCount_takeOut_lt found
      have once := Toll.countP_owed_beginExpiry_le toll taken id serial reason caller
      have kept : (taken.beginExpiry id serial reason).engine = taken := rfl
      simp only [within, kept]
      omega
  | countEntry present => cases toll <;> exact Nat.le_refl _
  | countReference present => cases toll <;> exact Nat.le_refl _
  | failAll code message =>
      have emptied : (engine.failAll code message).2.pendingCount = 0 := by
        rw [pendingCount, pending_failAll]
        rfl
      simp only [within, emptied]
      cases toll <;> exact Nat.zero_le _

theorem expense_beginRequest_le (toll : Toll) (engine : Engine) (caller : Caller)
    (callback : Callback) :
    expense toll (engine.beginRequest caller callback).2 ≤ expense toll ⟨engine, []⟩ := by
  rcases engine.beginRequest_cases caller callback with ⟨-, same⟩ | ⟨-, same⟩ <;> rw [same]
  · exact expense_beginAnswered_le toll engine caller callback.call
  · refine Nat.le_of_eq ?_
    obtain ⟨holder, call⟩ := callback
    cases toll <;> cases call <;> rfl

theorem expense_log_of_silent {toll : Toll} {event : Event} (silent : toll.paid event = false)
    (engine : Engine) (tasks : List Task) :
    expense toll ⟨engine.log event, tasks⟩ = expense toll ⟨engine, tasks⟩ := by
  simp [expense, pendingCount, silent]

/-- A submission adds at most the operation that it registers. -/
theorem expense_beginSubmit_le (toll : Toll) (engine : Engine) (connection : Connection)
    (kind : OperationKind) (request : List UInt8) (timeout : Option Duration) :
    expense toll (engine.beginSubmit connection kind request timeout).2 ≤
      expense toll ⟨engine, []⟩ + 1 := by
  cases found : engine.register kind (max engine.options.maxMessageIdProbes 1) with
  | mk own registered =>
      cases own with
      | none =>
          obtain ⟨ids, rfl⟩ := register_eq_none found
          rw [beginSubmit_of_exhausted found,
            expense_log_of_silent (by cases toll <;> rfl)]
          exact Nat.le_succ _
      | some id =>
          obtain ⟨ids, pending, inserted, rfl⟩ := register_eq_some found
          have grown : pending.size = engine.pending.size + 1 := by
            rw [PendingTable.size, (PendingTable.insertIfAbsent_eq_some inserted).2,
              List.length_append]
            rfl
          have silent : ∀ answer, [(conclusion id engine.operations.length
              (timerDeadline engine.now timeout) answer).2].countP toll.owed = 0 := by
            intro answer
            cases toll <;> cases answer <;> rfl
          rw [beginSubmit_of_registered found,
            expense_log_of_silent (by cases toll <;> rfl), expense_append, silent]
          simp only [expense, Toll.countP_owed_ofReaction, pendingCount, grown, List.countP_nil]
          omega

/-- A toll that is paid by an event has been owed by the task that leaves the event behind. -/
theorem expense_log_le (toll : Toll) (engine : Engine) (task : Task) (event : Event)
    {tasks : List Task} (covered : toll.paid event = true → toll.owed task = true)
    (silent : tasks.countP toll.owed = 0) :
    expense toll ⟨engine.log event, tasks⟩ ≤ expense toll ⟨engine, [task]⟩ := by
  have once : [event].countP toll.paid ≤ [task].countP toll.owed := by
    cases paid : toll.paid event with
    | false => simp [paid]
    | true => simp [paid, covered paid]
  simp only [expense, silent, trace_log, List.countP_append, pendingCount, pending_log]
  omega

theorem expense_carryOut_le (toll : Toll) (connection : Connection) (engine : Engine)
    (task : Task) :
    expense toll (engine.carryOut connection task) ≤ expense toll ⟨engine, [task]⟩ := by
  cases task with
  | callback site id callback =>
      have begun := expense_beginRequest_le toll engine (.connection site id) callback
      rw [carryOut_callback]
      exact Nat.le_trans begun (Nat.add_le_add_right (Nat.le_add_right _ _) _)
  | deregister serial id =>
      exact expense_log_le toll engine _ (.deregistered serial id)
        (by cases toll <;> exact fun paid => paid) (toll.countP_owed_ofReaction _ _ _)
  | abandon serial id =>
      exact expense_log_le toll engine _ (.abandoned serial id)
        (by cases toll <;> exact fun paid => paid) (toll.countP_owed_ofReaction _ _ _)
  | comeBack site id succeeded =>
      exact expense_log_le toll engine _ (.returned site id succeeded)
        (by cases toll <;> exact fun paid => paid) rfl
  | publish serial response =>
      have trace : (engine.publish serial response).trace = engine.trace ++ [.published serial] :=
        engine.trace_publish response
      rw [carryOut, expense_of_effects trace (by simp [Event.isEffect])]
      exact Nat.add_le_add_right (Nat.add_le_add_left (Nat.zero_le _) _) _
  | answer caller call reply =>
      have free : toll.paid (.replied caller call reply) ≠ true := by
        cases toll <;> exact Bool.false_ne_true
      exact expense_log_le toll engine _ _ (fun paid => absurd paid free) rfl
  | accept id serial deadline =>
      rw [carryOut_accept]
      simp only [expense, trace_accept, pendingCount, pending_accept, List.countP_append]
      cases toll <;> exact Nat.le_refl _
  | refuse id serial reason =>
      have smaller : (engine.withdraw id serial).pendingCount ≤ engine.pendingCount :=
        PendingTable.size_removeIfSame_le _ _ _
      have same : (engine.withdraw id serial).trace = engine.trace := rfl
      have free : toll.paid (.refused (.transport reason)) ≠ true := by
        cases toll <;> exact Bool.false_ne_true
      have written := expense_log_le toll (engine.withdraw id serial) (.refuse id serial reason)
        _ (fun paid => absurd paid free) List.countP_nil
      refine Nat.le_trans written ?_
      simp only [expense, same]
      omega

theorem Proceeds.expense_le (toll : Toll) (step : moment.Proceeds after) :
    expense toll after ≤ expense toll moment := by
  obtain ⟨engine, task, rest, connection, rfl, rfl⟩ := step.exists_carryOut
  rw [← List.singleton_append, expense_append, expense_append]
  exact Nat.add_le_add_right (expense_carryOut_le toll connection engine task) _

theorem Course.expense_le (toll : Toll) (course : moment.Course after) :
    expense toll after ≤ expense toll moment := by
  induction course with
  | refl => exact Nat.le_refl _
  | tail _ step ih => exact Nat.le_trans (step.expense_le toll) ih

/-! ## The depth of expiries -/

/-- An expiry that finds nothing to end is answered at once, so no other task gets in front of
it. -/
def Brief (moment : Moment) : Prop :=
  ∀ task ∈ moment.agenda.tail, task.isLostExpiry = false

theorem brief_nil (engine : Engine) : Brief ⟨engine, []⟩ :=
  List.forall_mem_nil _

theorem brief_singleton (engine : Engine) (task : Task) : Brief ⟨engine, [task]⟩ :=
  List.forall_mem_nil _

theorem brief_beginAnswered (engine : Engine) (caller : Caller) (call : Call) :
    (engine.beginAnswered caller call).Brief := by
  rw [beginAnswered]
  obtain ⟨reply, begun, same, begins⟩ := engine.exists_begins call
  rw [same]
  cases begins with
  | expire found =>
      rw [beginExpiry]
      split <;> simp [Brief, within, Task.isLostExpiry]
  | _ => exact brief_singleton _ _

theorem brief_beginRequest (engine : Engine) (caller : Caller) (callback : Callback) :
    (engine.beginRequest caller callback).2.Brief := by
  rcases engine.beginRequest_cases caller callback with ⟨-, same⟩ | ⟨-, same⟩ <;> rw [same]
  · exact brief_beginAnswered engine caller callback.call
  · exact brief_singleton _ _

theorem isLostExpiry_ofReaction {ε : Type} {site : Site} {id : MessageId} {reaction : Reaction ε}
    {task : Task} (member : task ∈ Task.ofReaction site id reaction) :
    task.isLostExpiry = false := by
  rcases List.mem_append.mp member with called | back
  · obtain ⟨callback, -, rfl⟩ := List.mem_map.mp called
    rfl
  · rw [List.mem_singleton.mp back]
    rfl

theorem brief_beginSubmit (engine : Engine) (connection : Connection) (kind : OperationKind)
    (request : List UInt8) (timeout : Option Duration) :
    (engine.beginSubmit connection kind request timeout).2.Brief := by
  cases found : engine.register kind (max engine.options.maxMessageIdProbes 1) with
  | mk own registered =>
      cases own with
      | none =>
          rw [beginSubmit_of_exhausted found]
          exact brief_nil _
      | some id =>
          rw [beginSubmit_of_registered found]
          intro task later
          rcases List.mem_append.mp (List.mem_of_mem_tail later) with reacts | concludes
          · exact isLostExpiry_ofReaction reacts
          · rw [List.mem_singleton.mp concludes]
            cases (connection.transmit id).failure <;> rfl

theorem brief_carryOut (connection : Connection) (engine : Engine) (task : Task) :
    (engine.carryOut connection task).Brief := by
  cases task with
  | callback site id callback => exact brief_beginRequest engine (.connection site id) callback
  | deregister serial id => exact fun _ later => isLostExpiry_ofReaction (List.mem_of_mem_tail later)
  | abandon serial id => exact fun _ later => isLostExpiry_ofReaction (List.mem_of_mem_tail later)
  | accept id serial deadline =>
      rw [carryOut_accept]
      exact brief_nil _
  | _ => exact brief_nil _

theorem Proceeds.brief (step : moment.Proceeds after) (brief : moment.Brief) : after.Brief := by
  obtain ⟨engine, task, rest, connection, rfl, rfl⟩ := step.exists_carryOut
  have new := brief_carryOut connection engine task
  intro later member
  rw [Brief] at new
  cases front : (engine.carryOut connection task).agenda with
  | nil =>
      rw [front] at member
      exact brief later (List.mem_of_mem_tail member)
  | cons first others =>
      rw [front] at member new
      exact (List.mem_append.mp member).elim (new later) (brief later)

theorem Course.brief (course : moment.Course after) (brief : moment.Brief) : after.Brief := by
  induction course with
  | refl => exact brief
  | tail _ step ih => exact step.brief ih

/-- Of the expiries that are under way all but the innermost have found their operations. -/
theorem Brief.countP_isExpiry_le (brief : moment.Brief) :
    moment.agenda.countP Task.isExpiry ≤ moment.agenda.countP Task.isWonExpiry + 1 := by
  obtain ⟨engine, agenda⟩ := moment
  cases agenda with
  | nil => exact Nat.zero_le _
  | cons task rest =>
      have others : rest.countP Task.isExpiry = rest.countP Task.isWonExpiry := by
        refine List.countP_congr fun later member => ?_
        rw [Task.isExpiry, brief later member, Bool.or_false]
      simp only [List.countP_cons, others]
      split <;> split <;> omega

/-! ## The end of a call -/

/-- What can still bring visits to the connection. Each visit may bring any number of calls. -/
def stake (moment : Moment) : Nat :=
  3 * moment.engine.pendingCount + moment.agenda.countP (Toll.owed .deregistration) +
    moment.agenda.countP (Toll.owed .abandonment)

/-- The number of tasks until the next visit to the connection at most. -/
def backlog (moment : Moment) : Nat :=
  moment.agenda.length + moment.agenda.countP Task.isCallback

/-- How far a call is from its end. -/
def rank (moment : Moment) : ℕ ×ₗ ℕ :=
  toLex (moment.stake, moment.backlog)

theorem stake_append (engine : Engine) (first second : List Task) :
    stake ⟨engine, first ++ second⟩ = stake ⟨engine, first⟩ +
      (second.countP (Toll.owed .deregistration) + second.countP (Toll.owed .abandonment)) := by
  simp only [stake, List.countP_append]
  omega

theorem backlog_append (engine : Engine) (first second : List Task) :
    backlog ⟨engine, first ++ second⟩ =
      backlog ⟨engine, first⟩ + (second.length + second.countP Task.isCallback) := by
  simp only [backlog, List.countP_append, List.length_append]
  omega

/-- A call brings visits only for an operation that it takes out of the table. -/
theorem rank_beginAnswered (engine : Engine) (caller : Caller) (call : Call) :
    (engine.beginAnswered caller call).stake < stake ⟨engine, []⟩ ∨
      (engine.beginAnswered caller call).stake ≤ stake ⟨engine, []⟩ ∧
        (engine.beginAnswered caller call).backlog = 1 := by
  rw [beginAnswered]
  obtain ⟨reply, begun, same, begins⟩ := engine.exists_begins call
  rw [same]
  cases begins with
  | idle lost none => exact .inr ⟨Nat.le_refl _, rfl⟩
  | deliver found =>
      have fewer := pendingCount_takeOut_lt found
      exact .inr ⟨Nat.mul_le_mul_left 3 (Nat.le_of_lt fewer), rfl⟩
  | @expire id reason serial taken found =>
      have fewer := pendingCount_takeOut_lt found
      have deregisters :=
        Toll.countP_owed_beginExpiry_le .deregistration taken id serial reason caller
      have abandons := Toll.countP_owed_beginExpiry_le .abandonment taken id serial reason caller
      have kept : (taken.beginExpiry id serial reason).engine = taken := rfl
      left
      simp only [stake, within, kept, List.countP_nil]
      omega
  | countEntry present => exact .inr ⟨Nat.le_refl _, rfl⟩
  | countReference present => exact .inr ⟨Nat.le_refl _, rfl⟩
  | failAll code message =>
      have emptied : (engine.failAll code message).2.pendingCount = 0 := by
        rw [pendingCount, pending_failAll]
        rfl
      refine .inr ⟨?_, rfl⟩
      simp only [stake, within, emptied]
      exact Nat.zero_le _

theorem rank_beginRequest (engine : Engine) (caller : Caller) (callback : Callback) :
    (engine.beginRequest caller callback).2.stake < stake ⟨engine, []⟩ ∨
      (engine.beginRequest caller callback).2.stake ≤ stake ⟨engine, []⟩ ∧
        (engine.beginRequest caller callback).2.backlog = 1 := by
  rcases engine.beginRequest_cases caller callback with ⟨-, same⟩ | ⟨-, same⟩ <;> rw [same]
  · exact rank_beginAnswered engine caller callback.call
  · exact .inr ⟨Nat.le_refl _, rfl⟩

theorem stake_visit_lt {ε : Type} (engine : Engine) (event : Event) (site : Site) (id : MessageId)
    (reaction : Reaction ε) {task : Task}
    (visit : stake ⟨engine, [task]⟩ = 3 * engine.pendingCount + 1) :
    stake ⟨engine.log event, Task.ofReaction site id reaction⟩ < stake ⟨engine, [task]⟩ := by
  rw [visit, stake, Toll.countP_owed_ofReaction, Toll.countP_owed_ofReaction]
  exact Nat.lt_succ_self _

/-- A task that is carried out either uses up something that could bring a visit, or it is gone and
nothing but the answer to a call has taken its place. -/
theorem rank_carryOut (connection : Connection) (engine : Engine) (task : Task) :
    (engine.carryOut connection task).stake < stake ⟨engine, [task]⟩ ∨
      (engine.carryOut connection task).stake ≤ stake ⟨engine, [task]⟩ ∧
        (engine.carryOut connection task).backlog < backlog ⟨engine, [task]⟩ := by
  cases task with
  | callback site id callback =>
      rw [carryOut_callback]
      refine (rank_beginRequest engine (.connection site id) callback).imp_right
        fun ⟨stake, backlog⟩ => ⟨stake, ?_⟩
      rw [backlog]
      exact Nat.one_lt_two
  | deregister serial id => exact .inl (stake_visit_lt engine _ _ _ _ rfl)
  | abandon serial id => exact .inl (stake_visit_lt engine _ _ _ _ rfl)
  | comeBack site id succeeded => exact .inr ⟨Nat.le_refl _, Nat.one_pos⟩
  | publish serial response => exact .inr ⟨Nat.le_refl _, Nat.one_pos⟩
  | answer caller call reply => exact .inr ⟨Nat.le_refl _, Nat.one_pos⟩
  | accept id serial deadline =>
      rw [carryOut_accept]
      refine .inr ⟨?_, Nat.one_pos⟩
      simp only [stake, pendingCount, pending_accept]
      exact Nat.le_refl _
  | refuse id serial reason =>
      have smaller : (engine.withdraw id serial).pendingCount ≤ engine.pendingCount :=
        PendingTable.size_removeIfSame_le _ _ _
      exact .inr ⟨Nat.mul_le_mul_left 3 smaller, Nat.one_pos⟩

theorem Proceeds.rank_lt (step : moment.Proceeds after) : after.rank < moment.rank := by
  obtain ⟨engine, task, rest, connection, rfl, rfl⟩ := step.exists_carryOut
  rw [rank, rank, Prod.Lex.toLex_lt_toLex', ← List.singleton_append, stake_append, stake_append,
    backlog_append, backlog_append]
  rcases rank_carryOut connection engine task with lower | ⟨lower, fewer⟩
  · exact ⟨Nat.add_le_add_right (Nat.le_of_lt lower) _, fun same =>
      absurd (Nat.add_right_cancel same) (Nat.ne_of_lt lower)⟩
  · exact ⟨Nat.add_le_add_right lower _, fun _ => Nat.add_lt_add_right fewer _⟩

end Moment

end DirectoryClient
