import DirectoryClient.Engine.Run
import Mathlib.Logic.Relation

/-!
# Runs of an engine

A run goes from moment to moment. Between calls, a call of a client or of a plan may begin, a timer
that is due may fire, and references to the engine come and go. Within a call one task is carried
out after the other. Time may pass at any moment. The connection may react in another way each time
it is reached, so the runs of this module are those of every connection, however it behaves and
whatever it remembers.
-/

namespace DirectoryClient

namespace Moment

/-- One task of the call under way is carried out, whatever the connection does. -/
def Proceeds (moment after : Moment) : Prop :=
  ∃ connection, moment.next? connection = some after

/-- Some tasks of a call are carried out one after the other. -/
def Course : Moment → Moment → Prop :=
  Relation.ReflTransGen Proceeds

/-- Lets an engine go that nobody can reach, unless a call is still under way. -/
def settle (moment : Moment) : Moment :=
  if moment.agenda = [] then ⟨moment.engine.release, []⟩ else moment

/-- What can happen next in a run. -/
inductive Moves : Moment → Moment → Prop where
  | proceed {moment after : Moment} (step : moment.Proceeds after) : Moves moment after.settle
  | submit {engine : Engine} {holder : Holder} (held : engine.isHeld holder = true)
      (connection : Connection) (kind : OperationKind) (request : List UInt8)
      (timeout : Option Duration) :
      Moves ⟨engine, []⟩ (engine.beginSubmit connection kind request timeout).2
  | request (engine : Engine) {caller : Caller} (callback : Callback)
      (outside : caller = .client ∨ caller = .schedule) :
      Moves ⟨engine, []⟩ (engine.beginRequest caller callback).2
  | fire {engine : Engine} {timer : Timer} (armed : timer ∈ engine.timers)
      (due : timer.deadline ≤ engine.now) :
      Moves ⟨engine, []⟩ (engine.beginFiring timer).2
  | clone {engine : Engine} {holder : Holder} (held : engine.isHeld holder = true) :
      Moves ⟨engine, []⟩ ⟨engine.clone.2, []⟩
  | drop {engine : Engine} {holder : Holder} (held : engine.isHeld holder = true) :
      Moves ⟨engine, []⟩ ⟨(engine.drop holder).release, []⟩
  | recordEntry (engine : Engine) (serial : Serial) :
      Moves ⟨engine, []⟩ ⟨engine.countEntry serial, []⟩
  | recordReference (engine : Engine) (serial : Serial) :
      Moves ⟨engine, []⟩ ⟨engine.countReference serial, []⟩
  | pass {moment : Moment} {time : Duration} (later : moment.engine.now ≤ time) :
      Moves moment ⟨{ moment.engine with now := time }, moment.agenda⟩
  | renumber (engine : Engine) (ids : IdSequence) :
      Moves ⟨engine, []⟩ ⟨{ engine with ids }, []⟩

/-- What can happen later in a run. -/
def Reaches : Moment → Moment → Prop :=
  Relation.ReflTransGen Moves

/-- What can happen at all, from a new engine on. -/
def Reachable (moment : Moment) : Prop :=
  ∃ options ids, Reaches ⟨{ options, ids }, []⟩ moment

variable {moment after : Moment}

theorem Reachable.reaches (reachable : moment.Reachable) (later : moment.Reaches after) :
    after.Reachable := by
  obtain ⟨options, ids, earlier⟩ := reachable
  exact ⟨options, ids, Relation.ReflTransGen.trans earlier later⟩

/-- A call from inside another, with what the other still has to do. -/
def within (moment : Moment) (rest : List Task) : Moment :=
  ⟨moment.engine, moment.agenda ++ rest⟩

@[simp] theorem within_nil (moment : Moment) : moment.within [] = moment := by
  rw [within, List.append_nil]

theorem Proceeds.exists_carryOut (step : moment.Proceeds after) :
    ∃ engine task rest connection, moment = ⟨engine, task :: rest⟩ ∧
      after = ⟨(engine.carryOut connection task).engine,
        (engine.carryOut connection task).agenda ++ rest⟩ := by
  obtain ⟨connection, next⟩ := step
  obtain ⟨engine, agenda⟩ := moment
  cases agenda with
  | nil => cases next
  | cons task rest =>
      cases next
      exact ⟨engine, task, rest, connection, rfl, rfl⟩

theorem Proceeds.within (step : moment.Proceeds after) (rest : List Task) :
    (moment.within rest).Proceeds (after.within rest) := by
  obtain ⟨connection, next⟩ := step
  obtain ⟨engine, agenda⟩ := moment
  refine ⟨connection, ?_⟩
  cases agenda with
  | nil => cases next
  | cons task tasks =>
      cases next
      simp [Moment.within, next?]

theorem Course.withRest (course : moment.Course after) (rest : List Task) :
    (moment.within rest).Course (after.within rest) := by
  induction course with
  | refl => exact .refl
  | tail _ step ih => exact .tail ih (step.within rest)

/-- Every call comes to its end, whichever connection it meets. -/
theorem exists_course (connection : Connection) (moment : Moment) :
    moment.Course ⟨moment.finish connection, []⟩ := by
  induction moment using Moment.finish.induct connection with
  | case1 moment finished =>
      rw [finish]
      split
      · next ended =>
          obtain ⟨engine, agenda⟩ := moment
          cases agenda with
          | nil => exact .refl
          | cons task rest => cases ended
      · next after step => simp [finished] at step
  | case2 moment after step ih =>
      rw [finish]
      split
      · next ended => simp [step] at ended
      · next other same =>
          cases step.symm.trans same
          exact .head ⟨connection, step⟩ ih

/-- The moment after some tasks, or at the end of the call. -/
def advance (connection : Connection) : Nat → Moment → Moment
  | 0, moment => moment
  | tasks + 1, moment =>
      match moment.next? connection with
      | none => moment
      | some after => after.settle.advance connection tasks

theorem reaches_advance (connection : Connection) (tasks : Nat) (moment : Moment) :
    moment.Reaches (moment.advance connection tasks) := by
  induction tasks generalizing moment with
  | zero => exact .refl
  | succ tasks ih =>
      rw [advance]
      split
      · exact .refl
      · next after step => exact .head (.proceed ⟨connection, step⟩) (ih after.settle)

end Moment

end DirectoryClient
