import DirectoryClient.Proofs.Engine.Run

namespace DirectoryClient

namespace Call

/-- Whether a call about one operation has ended it. -/
def wins : Call → Reply → Bool
  | .deliver _ _, .flag holds => holds
  | .expire _ _, .flag holds => holds
  | _, _ => false

/-- The number of operations that a call about all operations has ended. -/
def failed : Call → Reply → Nat
  | .failAll _ _, .count operations => operations
  | _, _ => 0

/-- The identifier that a call wants to end the operation of. -/
def target? : Call → Option MessageId
  | .deliver id _ => some id
  | .expire id _ => some id
  | _ => none

/-- The identifier of the operation that a call wants to end or to count for. -/
def about? : Call → Option MessageId
  | .deliver id _ => some id
  | .entryReturned id => some id
  | .referenceReturned id => some id
  | .expire id _ => some id
  | _ => none

theorem about?_of_target? {call : Call} {id : MessageId} (target : call.target? = some id) :
    call.about? = some id := by
  cases call <;> first | exact target | cases target

end Call

namespace Engine

/-- What a call comes to when it begins. -/
inductive Begins (engine : Engine) : Call → Reply → Moment → Prop where
  | idle {call reply} (lost : call.wins reply = false) (none : call.failed reply = 0) :
      Begins engine call reply ⟨engine, []⟩
  | deliver {id response serial taken} (found : engine.takeOut id = some (serial, taken)) :
      Begins engine (.deliver id response) (.flag true) ⟨taken.publish serial response, []⟩
  | expire {id reason serial taken} (found : engine.takeOut id = some (serial, taken)) :
      Begins engine (.expire id reason) (.flag true) (taken.beginExpiry id serial reason)
  | countEntry {id serial} (present : engine.pending.get? id = some serial) :
      Begins engine (.entryReturned id) (.flag true) ⟨engine.countEntry serial, []⟩
  | countReference {id serial} (present : engine.pending.get? id = some serial) :
      Begins engine (.referenceReturned id) (.flag true) ⟨engine.countReference serial, []⟩
  | failAll (code : ResultCode) (message : String) :
      Begins engine (.failAll code message) (.count (engine.failAll code message).1)
        ⟨(engine.failAll code message).2, []⟩

theorem exists_begins (engine : Engine) (call : Call) :
    ∃ reply moment, engine.beginCall call = (reply, moment) ∧ engine.Begins call reply moment := by
  cases call with
  | deliver id response =>
      cases found : engine.takeOut id with
      | none => exact ⟨_, _, by rw [beginCall, found], .idle rfl rfl⟩
      | some entry => exact ⟨_, _, by rw [beginCall, found], .deliver found⟩
  | expire id reason =>
      cases found : engine.takeOut id with
      | none => exact ⟨_, _, by rw [beginCall, found], .idle rfl rfl⟩
      | some entry => exact ⟨_, _, by rw [beginCall, found], .expire found⟩
  | entryReturned id =>
      cases found : engine.pending.get? id with
      | none => exact ⟨_, _, by rw [beginCall, found], .idle rfl rfl⟩
      | some serial => exact ⟨_, _, by rw [beginCall, found], .countEntry found⟩
  | referenceReturned id =>
      cases found : engine.pending.get? id with
      | none => exact ⟨_, _, by rw [beginCall, found], .idle rfl rfl⟩
      | some serial => exact ⟨_, _, by rw [beginCall, found], .countReference found⟩
  | isPending id => exact ⟨_, _, rfl, .idle rfl rfl⟩
  | pendingCount => exact ⟨_, _, rfl, .idle rfl rfl⟩
  | describe => exact ⟨_, _, rfl, .idle rfl rfl⟩
  | failAll code message => exact ⟨_, _, rfl, .failAll code message⟩

/-- Begins a call and what answers it. -/
def beginAnswered (engine : Engine) (caller : Caller) (call : Call) : Moment :=
  (engine.beginCall call).2.within [.answer caller call (engine.beginCall call).1]

theorem beginRequest_of_held {engine : Engine} {callback : Callback}
    (held : engine.isHeld callback.holder = true) (caller : Caller) :
    engine.beginRequest caller callback =
      ((engine.beginCall callback.call).1, engine.beginAnswered caller callback.call) := by
  simp [beginRequest, beginCallback, held, beginAnswered, Moment.within]

/-- A call through a reference reaches the engine if the reference is held. -/
theorem beginRequest_cases (engine : Engine) (caller : Caller) (callback : Callback) :
    engine.isHeld callback.holder = true ∧ engine.beginRequest caller callback =
        ((engine.beginCall callback.call).1, engine.beginAnswered caller callback.call) ∨
      engine.isHeld callback.holder = false ∧ engine.beginRequest caller callback =
        (.noEngine, ⟨engine, [.answer caller callback.call .noEngine]⟩) := by
  cases held : engine.isHeld callback.holder with
  | true => exact .inl ⟨rfl, beginRequest_of_held held caller⟩
  | false => exact .inr ⟨rfl, by simp [beginRequest, beginCallback, held]⟩

end Engine

end DirectoryClient
