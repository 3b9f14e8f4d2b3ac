import DirectoryClient.Proofs.Engine.Firing
import DirectoryClient.Proofs.Engine.Record

namespace DirectoryClient

/-- The identifier of a visit that a task begins or ends. -/
def Task.visited? : Task → Option MessageId
  | .deregister _ id => some id
  | .abandon _ id => some id
  | .comeBack _ id _ => some id
  | _ => none

theorem Event.visited?_of_isEffect {event : Event} (effect : event.isEffect = true) :
    event.visited? = none := by
  cases event with
  | returned site id succeeded => cases effect
  | _ => rfl

namespace Engine

variable {engine : Engine} {id : MessageId}

theorem visited?_beginExpiry {serial : Serial} {key : MessageId} {reason : Expiry} {task : Task}
    (member : task ∈ (engine.beginExpiry key serial reason).agenda)
    (visited : task.visited? = some id) : key = id := by
  rw [beginExpiry] at member
  split at member <;>
    simp only [List.cons_append, List.nil_append, List.mem_cons, List.not_mem_nil, or_false]
      at member
  · rcases member with rfl | rfl | rfl
    · exact Option.some.inj visited
    · exact Option.some.inj visited
    · cases visited
  · rcases member with rfl | rfl
    · exact Option.some.inj visited
    · cases visited

/-- A call visits the connection under the identifier of a pending operation only. -/
theorem visited?_beginCall {call : Call} {task : Task}
    (member : task ∈ (engine.beginCall call).2.agenda) (visited : task.visited? = some id) :
    ∃ serial, engine.pending.get? id = some serial := by
  obtain ⟨reply, moment, same, begins⟩ := engine.exists_begins call
  rw [same] at member
  cases begins with
  | expire found =>
      exact ⟨_, visited?_beginExpiry member visited ▸ (pending_of_takeOut found).1⟩
  | _ => cases member

theorem visited?_beginRequest {caller : Caller} {callback : Callback} {task : Task}
    (member : task ∈ (engine.beginRequest caller callback).2.agenda)
    (visited : task.visited? = some id) : ∃ serial, engine.pending.get? id = some serial := by
  rcases engine.beginRequest_cases caller callback with ⟨-, same⟩ | ⟨-, same⟩ <;>
    rw [same] at member
  · rcases List.mem_append.mp member with begun | last
    · exact visited?_beginCall begun visited
    · rw [List.mem_singleton.mp last] at visited
      cases visited
  · rw [List.mem_singleton.mp member] at visited
    cases visited

theorem effects_beginRequest (engine : Engine) (caller : Caller) (callback : Callback) :
    ∃ events, (engine.beginRequest caller callback).2.engine.trace = engine.trace ++ events ∧
      ∀ event ∈ events, event.isEffect = true := by
  rcases engine.beginRequest_cases caller callback with ⟨-, same⟩ | ⟨-, same⟩ <;> rw [same]
  · exact engine.effects_beginCall callback.call
  · exact ⟨[], (List.append_nil _).symm, by simp⟩

theorem visited?_ofReaction {ε : Type} (site : Site) (key : MessageId) (reaction : Reaction ε)
    {task : Task} (member : task ∈ Task.ofReaction site key reaction)
    (visited : task.visited? = some id) : key = id := by
  rcases List.mem_append.mp member with called | back
  · obtain ⟨callback, -, rfl⟩ := List.mem_map.mp called
    cases visited
  · rw [List.mem_singleton.mp back] at visited
    exact Option.some.inj visited

/-- Any task but a call of the connection leaves one event behind, and visits the connection under
no other identifier than its own. -/
theorem visited?_carryOut (connection : Connection) (engine : Engine) (task : Task) :
    (∃ site id callback, task = .callback site id callback) ∨
      ∃ event, (engine.carryOut connection task).engine.trace = engine.trace ++ [event] ∧
        (∀ id, event.visited? = some id → task.visited? = some id) ∧
        ∀ next ∈ (engine.carryOut connection task).agenda,
          ∀ id, next.visited? = some id → task.visited? = some id := by
  cases task with
  | callback site id callback => exact .inl ⟨site, id, callback, rfl⟩
  | deregister serial id =>
      refine .inr ⟨.deregistered serial id, rfl, nofun, ?_⟩
      exact fun next member key visited => congrArg some (visited?_ofReaction _ _ _ member visited)
  | abandon serial id =>
      refine .inr ⟨.abandoned serial id, rfl, nofun, ?_⟩
      exact fun next member key visited => congrArg some (visited?_ofReaction _ _ _ member visited)
  | comeBack site id succeeded =>
      refine .inr ⟨.returned site id succeeded, rfl, fun key visited => visited, ?_⟩
      exact fun next member => by cases member
  | publish serial response =>
      refine .inr ⟨.published serial, rfl, nofun, ?_⟩
      exact fun next member => by cases member
  | answer caller call reply =>
      refine .inr ⟨.replied caller call reply, rfl, nofun, ?_⟩
      exact fun next member => by cases member
  | accept id serial deadline =>
      rw [Moment.carryOut_accept]
      refine .inr ⟨.submitted serial, Engine.trace_accept deadline,
        nofun, ?_⟩
      exact fun next member => by cases member
  | refuse id serial reason =>
      refine .inr ⟨.refused (.transport reason), rfl, nofun, ?_⟩
      exact fun next member => by cases member

end Engine

namespace Moment

variable {moment after : Moment} {engine last : Engine} {id : MessageId} {serial : Serial}

/-- The connection cannot be visited under an identifier in the call that is under way. -/
structure Unvisited (id : MessageId) (moment : Moment) : Prop where
  absent : moment.engine.pending.get? id = none
  quiet : ∀ task ∈ moment.agenda, task.visited? ≠ some id

theorem Proceeds.unvisited (step : moment.Proceeds after) (unvisited : Unvisited id moment) :
    Unvisited id after ∧ ∃ events, after.engine.trace = moment.engine.trace ++ events ∧
      ∀ event ∈ events, event.visited? ≠ some id := by
  obtain ⟨engine, task, rest, connection, rfl, rfl⟩ := step.exists_carryOut
  have free : ∀ other, engine.pending.get? id ≠ some other := by
    intro other present
    cases unvisited.absent.symm.trans present
  have absent : (engine.carryOut connection task).engine.pending.get? id = none :=
    Option.eq_none_iff_forall_ne_some.mpr fun other present =>
      free other (Engine.get?_carryOut present)
  have quiet : ∀ later ∈ rest, later.visited? ≠ some id :=
    fun later member => unvisited.quiet later (List.mem_cons_of_mem task member)
  have own := unvisited.quiet task List.mem_cons_self
  rcases Engine.visited?_carryOut connection engine task with
    ⟨site, key, callback, rfl⟩ | ⟨event, trace, same, silent⟩
  · obtain ⟨events, trace, effects⟩ :=
      engine.effects_beginRequest (.connection site key) callback
    refine ⟨⟨absent, fun later member => ?_⟩, events, trace, fun event member => ?_⟩
    · rcases List.mem_append.mp member with new | old
      · intro visited
        obtain ⟨other, present⟩ := Engine.visited?_beginRequest new visited
        exact free other present
      · exact quiet later old
    · rw [Event.visited?_of_isEffect (effects event member)]
      exact nofun
  · refine ⟨⟨absent, fun later member => ?_⟩, [event], trace, fun other member => ?_⟩
    · rcases List.mem_append.mp member with new | old
      · exact fun visited => own (silent later new id visited)
      · exact quiet later old
    · rw [List.mem_singleton.mp member]
      exact fun visited => own (same id visited)

theorem Course.unvisited (course : moment.Course after) (unvisited : Unvisited id moment) :
    Unvisited id after ∧ ∃ events, after.engine.trace = moment.engine.trace ++ events ∧
      ∀ event ∈ events, event.visited? ≠ some id := by
  induction course with
  | refl =>
      exact ⟨unvisited, [], (List.append_nil _).symm,
        fun _ member => absurd member List.not_mem_nil⟩
  | tail _ step ih =>
      obtain ⟨before, first, trace, quiet⟩ := ih
      obtain ⟨still, second, added, silent⟩ := step.unvisited before
      refine ⟨still, first ++ second, ?_, fun event member => ?_⟩
      · rw [added, trace, List.append_assoc]
      · exact (List.mem_append.mp member).elim (quiet event) (silent event)

/-! ## One task after the other -/

theorem Course.eq_of_nil (course : Course ⟨engine, []⟩ after) : after = ⟨engine, []⟩ := by
  rcases Relation.ReflTransGen.cases_head course with same | ⟨middle, ⟨connection, next⟩, -⟩
  · exact same.symm
  · cases next

theorem Course.uncons {task : Task} {rest : List Task}
    (course : Course ⟨engine, task :: rest⟩ ⟨last, []⟩) :
    ∃ connection, ((engine.carryOut connection task).within rest).Course ⟨last, []⟩ := by
  rcases Relation.ReflTransGen.cases_head course with same | ⟨middle, ⟨connection, next⟩, later⟩
  · cases same
  · cases next
    exact ⟨connection, later⟩

/-- A course over two lists of tasks goes over the first and then over the second. -/
theorem Course.split {first second : List Task}
    (course : Course ⟨engine, first ++ second⟩ ⟨last, []⟩) :
    ∃ middle, Course ⟨engine, first⟩ ⟨middle, []⟩ ∧ Course ⟨middle, second⟩ ⟨last, []⟩ := by
  -- The induction is on the course, which shortens the first list and may lengthen it again.
  generalize whole : (⟨engine, first ++ second⟩ : Moment) = start at course
  induction course using Relation.ReflTransGen.head_induction_on generalizing engine first with
  | refl =>
      cases first with
      | nil => exact ⟨engine, .refl, whole ▸ .refl⟩
      | cons task rest => cases whole
  | head step later ih =>
      cases first with
      | nil => exact ⟨engine, .refl, whole ▸ .head step later⟩
      | cons task rest =>
          subst whole
          obtain ⟨connection, next⟩ := step
          cases next
          obtain ⟨middle, one, two⟩ := ih (by rw [List.append_assoc]; rfl)
          exact ⟨middle, .head ⟨connection, rfl⟩ one, two⟩

/-- Neither an operation nor an identifier is in the table. -/
structure Unlisted (serial : Serial) (id : MessageId) (engine : Engine) : Prop where
  operation : ∀ key, engine.pending.get? key ≠ some serial
  identifier : engine.pending.get? id = none

/-- A visit to the connection is over before anything else of its operation happens. -/
theorem Course.visit {task : Task} {rest : List Task} {site : Site} {start : Event}
    (visits : ∀ connection engine, ∃ (callbacks : List Callback) (succeeded : Bool),
      Engine.carryOut connection engine task = ⟨engine.log start,
        callbacks.map (.callback site id) ++ [.comeBack site id succeeded]⟩)
    (course : Course ⟨engine, task :: rest⟩ ⟨last, []⟩) (unlisted : Unlisted serial id engine) :
    ∃ middle events, Event.IsVisit serial site id start events ∧
      middle.trace = engine.trace ++ events ∧ Course ⟨middle, rest⟩ ⟨last, []⟩ ∧
        Unlisted serial id middle := by
  obtain ⟨connection, begun⟩ := course.uncons
  obtain ⟨callbacks, succeeded, same⟩ := visits connection engine
  rw [same, within, List.append_assoc] at begun
  obtain ⟨inner, called, left⟩ := begun.split
  obtain ⟨_, back⟩ := left.uncons
  have through : Through serial ⟨engine.log start, callbacks.map (.callback site id)⟩ :=
    ⟨unlisted.operation, by simp [Task.subject?]⟩
  have unvisited : Unvisited id ⟨engine.log start, callbacks.map (.callback site id)⟩ :=
    ⟨unlisted.identifier, by simp [Task.visited?]⟩
  obtain ⟨away, events, trace, silent⟩ := called.through through
  obtain ⟨free, others, again, quiet⟩ := called.unvisited unvisited
  cases List.append_cancel_left (trace.symm.trans again)
  refine ⟨inner.log (.returned site id succeeded), _,
    ⟨events, succeeded, rfl, fun event member => ⟨silent event member, quiet event member⟩⟩, ?_,
    back, ⟨away.absent, free.absent⟩⟩
  rw [Engine.trace_log, trace]
  simp

theorem Course.answered {caller : Caller} {call : Call} {reply : Reply}
    (course : Course ⟨engine, [.answer caller call reply]⟩ ⟨last, []⟩) :
    last = engine.log (.replied caller call reply) := by
  obtain ⟨_, left⟩ := course.uncons
  cases left.eq_of_nil
  rfl

/-- Ending an operation by a timeout or on request cleans up, writes the outcome and answers. -/
theorem Course.expiry {reason : Expiry} {caller : Caller} {call : Call} {reply : Reply}
    (course : ((engine.beginExpiry id serial reason).within
      [.answer caller call reply]).Course ⟨last, []⟩) (unlisted : Unlisted serial id engine) :
    ∃ cleanup, Event.IsCleanup engine.options.abandonOnTimeout serial id cleanup ∧
      last.trace =
        engine.trace ++ (cleanup ++ [.published serial, .replied caller call reply]) := by
  rw [Engine.beginExpiry, within, List.cons_append] at course
  obtain ⟨middle, first, deregisters, trace, course, unlisted⟩ :=
    course.visit (fun _ _ => ⟨_, _, rfl⟩) unlisted
  -- Whether there is a second visit or not, the outcome and the reply are what is left.
  obtain ⟨written, second, abandons, added, response, course⟩ : ∃ written second,
      (if engine.options.abandonOnTimeout then
        Event.IsVisit serial .abandon id (.abandoned serial id) second else second = []) ∧
      written.trace = middle.trace ++ second ∧ ∃ response, Course
        ⟨written, [.publish serial response, .answer caller call reply]⟩ ⟨last, []⟩ := by
    split at course
    · next abandoning =>
        obtain ⟨written, second, abandons, added, course, -⟩ :=
          course.visit (fun _ _ => ⟨_, _, rfl⟩) unlisted
        exact ⟨written, second, by rwa [if_pos abandoning], added, _, course⟩
    · next sparing =>
        exact ⟨middle, [], by rw [if_neg sparing], (List.append_nil _).symm, _, course⟩
  obtain ⟨_, course⟩ := course.uncons
  cases Course.answered course
  refine ⟨first ++ second, ⟨first, second, rfl, deregisters, abandons⟩, ?_⟩
  change written.trace ++ [_] ++ [_] = _
  rw [added, trace]
  simp

end Moment

end DirectoryClient
