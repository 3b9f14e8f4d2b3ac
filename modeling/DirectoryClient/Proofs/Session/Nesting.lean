import DirectoryClient.Proofs.Engine.Cause
import DirectoryClient.Proofs.Engine.Nesting
import Mathlib.Order.WellFounded

namespace DirectoryClient

namespace Moment

open Engine

/-- What holds of a call that has begun on an engine as it was before, with a connection that may
behave in another way each time it is reached. -/
structure Bounded (before : Engine) (most : Nat) (begun : Moment) : Prop where
  /-- There is no call that goes on forever. -/
  ends : ∀ moments : Nat → Moment, moments 0 = begun →
    ∃ step, ¬(moments step).Proceeds (moments (step + 1))
  /-- A call that cannot go on is over. -/
  returns : ∀ later, begun.Course later → (∀ next, ¬later.Proceeds next) → later.agenda = []
  /-- With the same connection throughout, the call comes to the end that `finish` computes. -/
  finishes : ∀ connection, begun.Course ⟨begun.finish connection, []⟩
  visits : ∀ later, begun.Course later → ∃ events, later.engine.trace = before.trace ++ events ∧
    events.countP Event.isDeregistration ≤ most ∧ events.countP Event.isAbandonment ≤ most
  /-- An expiry that has found its operation is one of `most` that are under way at the same time,
  and one that finds nothing is inside these. -/
  depth : ∀ later, begun.Course later → later.agenda.countP Task.isWonExpiry ≤ most ∧
    later.agenda.countP Task.isExpiry ≤ most + 1

variable {before : Engine} {begun : Moment} {most : Nat}

theorem bounded_of_expense {events : List Event}
    (trace : begun.engine.trace = before.trace ++ events)
    (covered : ∀ toll, begun.expense toll ≤ most + before.trace.countP (Toll.paid toll))
    (brief : begun.Brief) : Bounded before most begun where
  ends := by
    intro moments _
    obtain ⟨step, stuck⟩ :=
      WellFounded.not_rel_apply_succ (r := (· < ·)) fun step => (moments step).rank
    exact ⟨step, fun goes => stuck goes.rank_lt⟩
  returns := by
    intro later _ stuck
    obtain ⟨engine, agenda⟩ := later
    cases agenda with
    | nil => rfl
    | cons task rest => exact absurd ⟨default, rfl⟩ (stuck _)
  finishes := fun connection => exists_course connection begun
  visits := by
    intro later course
    obtain ⟨more, added, -⟩ := course.counts
    have whole : later.engine.trace = before.trace ++ (events ++ more) := by
      rw [added, trace, List.append_assoc]
    have paid : ∀ toll : Toll, (events ++ more).countP toll.paid ≤ most := by
      intro toll
      have spent := Nat.le_trans (course.expense_le toll) (covered toll)
      rw [expense, whole, List.countP_append] at spent
      omega
    exact ⟨events ++ more, whole, paid .deregistration, paid .abandonment⟩
  depth := by
    intro later course
    have spent := Nat.le_trans (course.expense_le .expiry) (covered .expiry)
    have nothing : before.trace.countP (Toll.paid .expiry) = 0 :=
      List.countP_eq_zero.mpr fun _ _ => Bool.false_ne_true
    have owed : later.agenda.countP (Toll.owed .expiry) ≤ most := by
      rw [expense] at spent
      omega
    exact ⟨owed, Nat.le_trans (course.brief brief).countP_isExpiry_le (Nat.succ_le_succ owed)⟩

theorem bounded_beginRequest (engine : Engine) (caller : Caller) (callback : Callback) :
    Bounded engine engine.pendingCount (engine.beginRequest caller callback).2 := by
  obtain ⟨events, trace, -⟩ := engine.counts_beginRequest caller callback
  exact bounded_of_expense trace (fun toll => expense_beginRequest_le toll engine caller callback)
    (brief_beginRequest engine caller callback)

theorem bounded_beginFiring (engine : Engine) (timer : Timer) :
    Bounded engine engine.pendingCount (engine.beginFiring timer).2 := by
  obtain ⟨events, trace, -⟩ := ({ engine with timers := engine.timers.erase timer }).counts_beginCall
    (.expire timer.messageId .timeout)
  exact bounded_of_expense trace
    (fun toll => expense_beginAnswered_le toll { engine with timers := engine.timers.erase timer }
      (.timer timer.operation) (.expire timer.messageId .timeout))
    (brief_beginAnswered _ (.timer timer.operation) (.expire timer.messageId .timeout))

/-- A submission may register one operation, and the connection may end it at once. -/
theorem bounded_beginSubmit (engine : Engine) (connection : Connection) (kind : OperationKind)
    (request : List UInt8) (timeout : Option Duration) :
    Bounded engine (engine.pendingCount + 1)
      (engine.beginSubmit connection kind request timeout).2 := by
  have cheap := fun toll => expense_beginSubmit_le toll engine connection kind request timeout
  have brief := brief_beginSubmit engine connection kind request timeout
  obtain ⟨event, trace, -⟩ := engine.beginSubmit_event connection kind request timeout
  refine bounded_of_expense trace (fun toll => Nat.le_trans (cheap toll) ?_) brief
  rw [expense, Nat.add_right_comm]
  exact Nat.le_refl _

end Moment

/-- Whatever the connection does and calls from inside, a call ends, and the operations that were
pending before it bound the visits to the connection and the depth of the expiries. A submission
adds one operation to these. -/
theorem nested_calls_end (engine : Engine) :
    (∀ caller callback,
      Moment.Bounded engine engine.pendingCount (engine.beginRequest caller callback).2) ∧
    (∀ timer, Moment.Bounded engine engine.pendingCount (engine.beginFiring timer).2) ∧
    ∀ connection kind request timeout, Moment.Bounded engine (engine.pendingCount + 1)
      (engine.beginSubmit connection kind request timeout).2 :=
  ⟨Moment.bounded_beginRequest engine, Moment.bounded_beginFiring engine,
    Moment.bounded_beginSubmit engine⟩

end DirectoryClient
