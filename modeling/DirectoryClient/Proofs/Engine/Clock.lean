import DirectoryClient.Proofs.Engine.Course
import Mathlib.Data.List.Forall2

/-!
# The clock decides nothing

Within a call the clock is read for two things only: for how long an operation took, and for the
text of the response that says so. So a call that is under way takes the same course if the clock is
moved meanwhile. The trace comes out the same, and the outcomes are the same but for these times.
-/

namespace DirectoryClient

/-- Responses that tell the same, but for the time after which an operation was ended. -/
inductive Response.Retimed (abandons : Bool) : Response → Response → Prop where
  | same (response : Response) : Retimed abandons response response
  | expiry (reason : Expiry) (elapsed other : Duration) :
      Retimed abandons (reason.response elapsed abandons) (reason.response other abandons)

inductive Stage.Retimed (abandons : Bool) : Stage → Stage → Prop where
  | pending : Retimed abandons .pending .pending
  | claimed : Retimed abandons .claimed .claimed
  | resolved {outcome other : Outcome}
      (response : outcome.response.Retimed abandons other.response) :
      Retimed abandons (.resolved outcome) (.resolved other)

structure Operation.Retimed (abandons : Bool) (operation other : Operation) : Prop where
  messageId : other.messageId = operation.messageId
  stage : operation.stage.Retimed abandons other.stage

/-- Engines that differ in the clock, and in the operations as far as the clock goes. -/
structure Engine.Retimed (abandons : Bool) (engine other : Engine) : Prop where
  option : engine.options.abandonOnTimeout = abandons
  frame : ∃ operations now, other = { engine with operations, now }
  operations : List.Forall₂ (Operation.Retimed abandons) engine.operations other.operations

inductive Task.Retimed (abandons : Bool) : Task → Task → Prop where
  | same (task : Task) : Retimed abandons task task
  | publish (serial : Serial) {response other : Response}
      (retimed : response.Retimed abandons other) :
      Retimed abandons (.publish serial response) (.publish serial other)

structure Moment.Retimed (abandons : Bool) (moment other : Moment) : Prop where
  engine : moment.engine.Retimed abandons other.engine
  agenda : List.Forall₂ (Task.Retimed abandons) moment.agenda other.agenda

variable {abandons : Bool}

theorem Response.Retimed.exists_eq {response other : Response}
    (retimed : response.Retimed abandons other) {reason : Expiry} {elapsed : Duration}
    (stated : response = reason.response elapsed abandons) :
    ∃ later, other = reason.response later abandons := by
  cases retimed with
  | same => exact ⟨elapsed, stated⟩
  | expiry cause elapsed later =>
      -- A code stands for one reason.
      have code : cause.code = reason.code := congrArg Response.code stated
      have same : cause = reason := by cases cause <;> cases reason <;> trivial
      exact ⟨later, by rw [same]⟩

namespace Operation

variable {first second : List Operation}

theorem Retimed.refl (abandons : Bool) (operation : Operation) :
    operation.Retimed abandons operation := by
  refine ⟨rfl, ?_⟩
  cases operation.stage with
  | pending => exact .pending
  | claimed => exact .claimed
  | resolved outcome => exact .resolved (.same _)

theorem retimed_getElem? (alike : List.Forall₂ (Retimed abandons) first second) (serial : Serial) :
    Option.Rel (Retimed abandons) first[serial]? second[serial]? := by
  induction alike generalizing serial with
  | nil => exact .none
  | cons head tail ih =>
      cases serial with
      | zero => exact .some head
      | succ serial => exact ih serial

theorem retimed_modify (alike : List.Forall₂ (Retimed abandons) first second) (serial : Serial)
    {change revise : Operation → Operation}
    (kept : ∀ operation other, operation.Retimed abandons other →
      (change operation).Retimed abandons (revise other)) :
    List.Forall₂ (Retimed abandons) (first.modify serial change) (second.modify serial revise) := by
  induction alike generalizing serial with
  | nil => cases serial <;> exact .nil
  | cons head tail ih =>
      cases serial with
      | zero => exact .cons (kept _ _ head) tail
      | succ serial => exact .cons head (ih serial)

theorem retimed_set (alike : List.Forall₂ (Retimed abandons) first second) (serial : Serial)
    {operation other : Operation} (head : operation.Retimed abandons other) :
    List.Forall₂ (Retimed abandons) (first.set serial operation) (second.set serial other) := by
  induction alike generalizing serial with
  | nil => exact .nil
  | cons old tail ih =>
      cases serial with
      | zero => exact .cons head tail
      | succ serial => exact .cons old (ih serial)

end Operation

theorem Task.Retimed.refl_list (abandons : Bool) (tasks : List Task) :
    List.Forall₂ (Retimed abandons) tasks tasks :=
  List.forall₂_same.mpr fun task _ => .same task

namespace Engine

variable {engine other : Engine} {serial : Serial}

theorem Retimed.pending (retimed : engine.Retimed abandons other) :
    other.pending = engine.pending := by
  obtain ⟨operations, now, rfl⟩ := retimed.frame
  rfl

theorem Retimed.messageId? (retimed : engine.Retimed abandons other) (serial : Serial) :
    other.messageId? serial = engine.messageId? serial := by
  have alike := Operation.retimed_getElem? retimed.operations serial
  rw [Engine.messageId?, Engine.messageId?, operation?, operation?]
  generalize engine.operations[serial]? = first, other.operations[serial]? = second at alike
  cases alike with
  | none => rfl
  | some alike => exact congrArg some alike.messageId

theorem Retimed.outcome? (retimed : engine.Retimed abandons other) {outcome : Outcome}
    (ended : engine.outcome? serial = some outcome) :
    ∃ last, other.outcome? serial = some last ∧
      outcome.response.Retimed abandons last.response := by
  have alike := Operation.retimed_getElem? retimed.operations serial
  rw [Engine.outcome?, operation?] at ended ⊢
  generalize engine.operations[serial]? = first, other.operations[serial]? = second at alike ended
  cases alike with
  | none => cases ended
  | @some first second alike =>
      have stage := alike.stage
      simp only [Option.bind_some, Operation.outcome?] at ended ⊢
      generalize first.stage = before, second.stage = after at stage ended
      cases stage with
      | resolved response =>
          cases ended
          exact ⟨_, rfl, response⟩
      | _ => cases ended

/-! ## What needs no connection -/

theorem Retimed.log (retimed : engine.Retimed abandons other) (event : Event) :
    (engine.log event).Retimed abandons (other.log event) := by
  obtain ⟨option, ⟨operations, now, rfl⟩, alike⟩ := retimed
  exact ⟨option, ⟨operations, now, rfl⟩, alike⟩

theorem Retimed.modify (retimed : engine.Retimed abandons other) (serial : Serial)
    (change : Operation → Operation)
    (kept : ∀ operation other, operation.Retimed abandons other →
      (change operation).Retimed abandons (change other)) :
    Retimed abandons { engine with operations := engine.operations.modify serial change }
      { other with operations := other.operations.modify serial change } := by
  obtain ⟨option, ⟨operations, now, rfl⟩, alike⟩ := retimed
  exact ⟨option, ⟨_, now, rfl⟩, Operation.retimed_modify alike serial kept⟩

theorem Retimed.countEntry (retimed : engine.Retimed abandons other) (serial : Serial) :
    (engine.countEntry serial).Retimed abandons (other.countEntry serial) :=
  (retimed.modify serial .recordEntry fun _ _ same => ⟨same.messageId, same.stage⟩).log _

theorem Retimed.countReference (retimed : engine.Retimed abandons other) (serial : Serial) :
    (engine.countReference serial).Retimed abandons (other.countReference serial) :=
  (retimed.modify serial .recordReference fun _ _ same => ⟨same.messageId, same.stage⟩).log _

theorem Retimed.publish (retimed : engine.Retimed abandons other) (serial : Serial)
    {response last : Response} (told : response.Retimed abandons last) :
    (engine.publish serial response).Retimed abandons (other.publish serial last) := by
  obtain ⟨option, ⟨operations, now, rfl⟩, alike⟩ := retimed
  exact ⟨option, ⟨_, now, rfl⟩, Operation.retimed_modify alike serial fun _ _ same =>
    ⟨same.messageId, .resolved told⟩⟩

theorem Retimed.withdraw (retimed : engine.Retimed abandons other) (id : MessageId)
    (serial : Serial) :
    (engine.withdraw id serial).Retimed abandons (other.withdraw id serial) := by
  obtain ⟨option, ⟨operations, now, rfl⟩, alike⟩ := retimed
  exact ⟨option, ⟨operations, now, rfl⟩, alike⟩

theorem Retimed.claim (retimed : engine.Retimed abandons other) (serial : Serial) :
    Option.Rel (Retimed abandons) (engine.claim serial) (other.claim serial) := by
  have found := Operation.retimed_getElem? retimed.operations serial
  obtain ⟨option, ⟨operations, now, rfl⟩, alike⟩ := retimed
  rw [Engine.claim, Engine.claim, operation?, operation?]
  dsimp only at found ⊢
  generalize engine.operations[serial]? = first, operations[serial]? = second at found
  cases found with
  | none => exact .none
  | @some first second same =>
      have stage := same.stage
      simp only [Option.bind_some, Operation.claim]
      generalize first.stage = before, second.stage = after at stage
      cases stage with
      | pending =>
          exact .some ⟨option, ⟨_, now, rfl⟩, Operation.retimed_set alike serial
            ⟨same.messageId, .claimed⟩⟩
      | claimed => exact .none
      | resolved response => exact .none

theorem Retimed.failEach (retimed : engine.Retimed abandons other) (response : Response)
    (serials : List Serial) :
    (other.failEach response serials).1 = (engine.failEach response serials).1 ∧
      (engine.failEach response serials).2.Retimed abandons
        (other.failEach response serials).2 := by
  induction serials generalizing engine other with
  | nil => exact ⟨rfl, retimed⟩
  | cons serial rest ih =>
      have claimed := retimed.claim serial
      rw [Engine.failEach, Engine.failEach]
      generalize engine.claim serial = first, other.claim serial = second at claimed
      cases claimed with
      | none => exact ih retimed
      | some won =>
          obtain ⟨count, failed⟩ := ih (won.publish serial (.same response))
          exact ⟨congrArg (· + 1) count, failed⟩

theorem Retimed.failAll (retimed : engine.Retimed abandons other) (code : ResultCode)
    (message : String) : (other.failAll code message).1 = (engine.failAll code message).1 ∧
      (engine.failAll code message).2.Retimed abandons (other.failAll code message).2 := by
  obtain ⟨option, ⟨operations, now, rfl⟩, alike⟩ := retimed
  have emptied : Retimed abandons { engine with pending := ∅ }
      { engine with operations, now, pending := ∅ } := ⟨option, ⟨operations, now, rfl⟩, alike⟩
  exact emptied.failEach _ _

theorem Retimed.arm (retimed : engine.Retimed abandons other) (id : MessageId) (serial : Serial)
    (deadline : Duration) :
    (engine.arm id serial deadline).Retimed abandons (other.arm id serial deadline) := by
  have found := Operation.retimed_getElem? retimed.operations serial
  have pending : (other.operation? serial).any Operation.isPending =
      (engine.operation? serial).any Operation.isPending := by
    rw [operation?, operation?]
    generalize engine.operations[serial]? = first, other.operations[serial]? = second at found
    cases found with
    | none => rfl
    | @some first second same =>
        have stage := same.stage
        simp only [Option.any_some, Operation.isPending]
        generalize first.stage = before, second.stage = after at stage
        cases stage <;> rfl
  rw [Engine.arm, Engine.arm, pending]
  split
  · obtain ⟨option, ⟨operations, now, rfl⟩, alike⟩ := retimed
    exact ⟨option, ⟨operations, now, rfl⟩, alike⟩
  · exact retimed

/-! ## Calls -/

theorem Retimed.takeOut (retimed : engine.Retimed abandons other) (id : MessageId) :
    engine.takeOut id = none ∧ other.takeOut id = none ∨
      ∃ serial taken left, engine.takeOut id = some (serial, taken) ∧
        other.takeOut id = some (serial, left) ∧ taken.Retimed abandons left := by
  rw [Engine.takeOut, Engine.takeOut, retimed.pending]
  cases engine.pending.get? id with
  | none => exact .inl ⟨rfl, rfl⟩
  | some serial =>
      have claimed := retimed.claim serial
      dsimp only
      generalize engine.claim serial = first, other.claim serial = second at claimed
      cases claimed with
      | none => exact .inl ⟨rfl, rfl⟩
      | some won => exact .inr ⟨serial, _, _, rfl, rfl, won.withdraw id serial⟩

theorem Retimed.beginExpiry (retimed : engine.Retimed abandons other) (id : MessageId)
    (serial : Serial) (reason : Expiry) :
    (engine.beginExpiry id serial reason).Retimed abandons
      (other.beginExpiry id serial reason) := by
  obtain ⟨option, ⟨operations, now, rfl⟩, alike⟩ := retimed
  refine ⟨⟨option, ⟨operations, now, rfl⟩, alike⟩, ?_⟩
  simp only [Engine.beginExpiry, option]
  exact .cons (.same _) (List.rel_append (Task.Retimed.refl_list _ _)
    (.cons (.publish serial (.expiry reason _ _)) .nil))

theorem Retimed.beginCall (retimed : engine.Retimed abandons other) (call : Call) :
    (other.beginCall call).1 = (engine.beginCall call).1 ∧
      (engine.beginCall call).2.Retimed abandons (other.beginCall call).2 := by
  cases call with
  | deliver id response =>
      rcases retimed.takeOut id with
        ⟨first, second⟩ | ⟨serial, taken, left, first, second, alike⟩ <;>
        rw [Engine.beginCall, Engine.beginCall, first, second]
      · exact ⟨rfl, retimed, .nil⟩
      · exact ⟨rfl, alike.publish serial (.same response), .nil⟩
  | expire id reason =>
      rcases retimed.takeOut id with
        ⟨first, second⟩ | ⟨serial, taken, left, first, second, alike⟩ <;>
        rw [Engine.beginCall, Engine.beginCall, first, second]
      · exact ⟨rfl, retimed, .nil⟩
      · exact ⟨rfl, alike.beginExpiry id serial reason⟩
  | entryReturned id =>
      rw [Engine.beginCall, Engine.beginCall, retimed.pending]
      cases engine.pending.get? id with
      | none => exact ⟨rfl, retimed, .nil⟩
      | some serial => exact ⟨rfl, retimed.countEntry serial, .nil⟩
  | referenceReturned id =>
      rw [Engine.beginCall, Engine.beginCall, retimed.pending]
      cases engine.pending.get? id with
      | none => exact ⟨rfl, retimed, .nil⟩
      | some serial => exact ⟨rfl, retimed.countReference serial, .nil⟩
  | isPending id =>
      refine ⟨?_, retimed, .nil⟩
      rw [Engine.beginCall, Engine.beginCall, isPending, isPending, retimed.pending]
  | pendingCount =>
      refine ⟨?_, retimed, .nil⟩
      rw [Engine.beginCall, Engine.beginCall, pendingCount, pendingCount, retimed.pending]
  | describe =>
      have text : other.describe = engine.describe := by
        unfold describe pendingCount
        rw [retimed.pending]
      exact ⟨congrArg Reply.text text, retimed, .nil⟩
  | failAll code message =>
      obtain ⟨count, failed⟩ := retimed.failAll code message
      exact ⟨congrArg Reply.count count, failed, .nil⟩

theorem Retimed.beginRequest (retimed : engine.Retimed abandons other) (caller : Caller)
    (callback : Callback) : (engine.beginRequest caller callback).2.Retimed abandons
      (other.beginRequest caller callback).2 := by
  have held : other.isHeld callback.holder = engine.isHeld callback.holder := by
    obtain ⟨operations, now, rfl⟩ := retimed.frame
    rfl
  obtain ⟨reply, begun⟩ := retimed.beginCall callback.call
  simp only [Engine.beginRequest, beginCallback, held]
  split
  · rw [reply]
    exact ⟨begun.engine, List.rel_append begun.agenda (Task.Retimed.refl_list _ _)⟩
  · exact ⟨retimed, Task.Retimed.refl_list _ _⟩

theorem Retimed.carryOut (retimed : engine.Retimed abandons other) (connection : Connection)
    {task last : Task} (alike : task.Retimed abandons last) :
    (engine.carryOut connection task).Retimed abandons (other.carryOut connection last) := by
  cases alike with
  | publish serial told => exact ⟨retimed.publish serial told, .nil⟩
  | same task =>
      cases task with
      | callback site id callback =>
          rw [Moment.carryOut_callback, Moment.carryOut_callback]
          exact retimed.beginRequest _ callback
      | deregister serial id => exact ⟨retimed.log _, Task.Retimed.refl_list _ _⟩
      | abandon serial id => exact ⟨retimed.log _, Task.Retimed.refl_list _ _⟩
      | comeBack site id succeeded => exact ⟨retimed.log _, .nil⟩
      | publish serial response => exact ⟨retimed.publish serial (.same response), .nil⟩
      | answer caller call reply => exact ⟨retimed.log _, .nil⟩
      | accept id serial deadline =>
          cases deadline with
          | none => exact ⟨retimed.log _, .nil⟩
          | some due => exact ⟨(retimed.arm id serial due).log _, .nil⟩
      | refuse id serial reason => exact ⟨(retimed.withdraw id serial).log _, .nil⟩

end Engine

namespace Moment

variable {moment other after : Moment}

theorem Retimed.proceeds (retimed : moment.Retimed abandons other) (step : other.Proceeds after) :
    ∃ middle, moment.Proceeds middle ∧ middle.Retimed abandons after := by
  obtain ⟨connection, next⟩ := step
  obtain ⟨engine, agenda⟩ := moment
  obtain ⟨changed, tasks⟩ := other
  obtain ⟨alike, agendas⟩ := retimed
  cases agendas with
  | nil => cases next
  | @cons task last rest left head tail =>
      cases next
      have carried := Engine.Retimed.carryOut alike connection head
      exact ⟨_, ⟨connection, rfl⟩, carried.engine, List.rel_append carried.agenda tail⟩

/-- Whatever a call comes to once the clock has been moved, it would have come to without that. -/
theorem Retimed.course {last : Engine} (retimed : moment.Retimed abandons other)
    (course : other.Course ⟨last, []⟩) :
    ∃ first, moment.Course ⟨first, []⟩ ∧ first.Retimed abandons last := by
  induction course using Relation.ReflTransGen.head_induction_on generalizing moment with
  | refl =>
      obtain ⟨engine, agenda⟩ := moment
      obtain ⟨alike, agendas⟩ := retimed
      cases agendas
      exact ⟨engine, .refl, alike⟩
  | head step _ ih =>
      obtain ⟨middle, proceeds, still⟩ := retimed.proceeds step
      obtain ⟨first, course, alike⟩ := ih still
      exact ⟨first, .head proceeds course, alike⟩

theorem retimed_pass (moment : Moment) (time : Duration) :
    moment.Retimed moment.engine.options.abandonOnTimeout
      ⟨{ moment.engine with now := time }, moment.agenda⟩ where
  engine := ⟨rfl, ⟨moment.engine.operations, time, rfl⟩,
    List.forall₂_same.mpr fun operation _ => .refl _ operation⟩
  agenda := Task.Retimed.refl_list _ moment.agenda

end Moment

end DirectoryClient
