import DirectoryClient.Engine.Basic
import DirectoryClient.Proofs.Engine.Table

namespace DirectoryClient

/-- The operation that somebody can wait for from this event on. -/
def Event.submitted? : Event → Option Serial
  | .submitted serial => some serial
  | _ => none

/-- The operation whose outcome can be seen from this event on. -/
def Event.published? : Event → Option Serial
  | .published serial => some serial
  | _ => none

namespace Engine

variable {engine after : Engine} {id : MessageId} {serial other : Serial}

/-- As much of an operation as the invariants of a run speak about. -/
def status? (engine : Engine) (serial : Serial) : Option (MessageId × Stage) :=
  (engine.operation? serial).map fun operation => (operation.messageId, operation.stage)

def messageId? (engine : Engine) (serial : Serial) : Option MessageId :=
  (engine.operation? serial).map Operation.messageId

/-- The operations that a successful submission has returned, in the order of their return. -/
def submitted (engine : Engine) : List Serial :=
  engine.trace.filterMap Event.submitted?

/-- The operations whose outcomes have been written, one for each time. -/
def published (engine : Engine) : List Serial :=
  engine.trace.filterMap Event.published?

def outcome? (engine : Engine) (serial : Serial) : Option Outcome :=
  (engine.operation? serial).bind Operation.outcome?

theorem status?_eq_some_iff {stage : Stage} :
    engine.status? serial = some (id, stage) ↔
      ∃ operation, engine.operation? serial = some operation ∧ operation.messageId = id ∧
        operation.stage = stage := by
  simp [status?, Option.map_eq_some_iff]

theorem outcome?_eq_some_iff {outcome : Outcome} :
    engine.outcome? serial = some outcome ↔
      ∃ id, engine.status? serial = some (id, .resolved outcome) := by
  simp only [outcome?, status?_eq_some_iff, Option.bind_eq_some_iff]
  constructor
  · rintro ⟨operation, found, ended⟩
    refine ⟨operation.messageId, operation, found, rfl, ?_⟩
    cases stage : operation.stage <;> simp_all [Operation.outcome?]
  · rintro ⟨id, operation, found, -, ended⟩
    exact ⟨operation, found, by rw [Operation.outcome?, ended]⟩

theorem messageId?_eq (engine : Engine) (serial : Serial) :
    engine.messageId? serial = (engine.status? serial).map Prod.fst := by
  rw [messageId?, status?, Option.map_map]
  rfl

theorem messageId?_of_status? {stage : Stage} (found : engine.status? serial = some (id, stage)) :
    engine.messageId? serial = some id := by
  rw [messageId?_eq, found, Option.map_some]

theorem lt_length_of_messageId? (found : engine.messageId? serial = some id) :
    serial < engine.operations.length := by
  obtain ⟨operation, present, -⟩ := Option.map_eq_some_iff.mp found
  exact (List.getElem?_eq_some_iff.mp present).1

theorem lt_length_of_status? {status : MessageId × Stage}
    (found : engine.status? serial = some status) : serial < engine.operations.length := by
  obtain ⟨operation, present, -⟩ := Option.map_eq_some_iff.mp found
  exact (List.getElem?_eq_some_iff.mp present).1

/-! ## The trace -/

@[simp] theorem operation?_log (event : Event) :
    (engine.log event).operation? serial = engine.operation? serial := rfl

@[simp] theorem status?_log (event : Event) :
    (engine.log event).status? serial = engine.status? serial := rfl

@[simp] theorem timers_log (event : Event) : (engine.log event).timers = engine.timers := rfl

@[simp] theorem holders_log (event : Event) : (engine.log event).holders = engine.holders := rfl

@[simp] theorem now_log (event : Event) : (engine.log event).now = engine.now := rfl

@[simp] theorem trace_log (event : Event) :
    (engine.log event).trace = engine.trace ++ [event] := rfl

@[simp] theorem submitted_log (event : Event) :
    (engine.log event).submitted = engine.submitted ++ event.submitted?.toList := by
  rw [submitted, submitted, trace_log, List.filterMap_append]
  cases event <;> rfl

@[simp] theorem published_log (event : Event) :
    (engine.log event).published = engine.published ++ event.published?.toList := by
  rw [published, published, trace_log, List.filterMap_append]
  cases event <;> rfl

/-! ## Counting -/

theorem operation?_countEntry (serial : Serial) :
    (engine.countEntry serial).operation? other =
      if serial = other then (engine.operation? other).map Operation.recordEntry
      else engine.operation? other := by
  change (engine.operations.modify serial Operation.recordEntry)[other]? = _
  rw [List.getElem?_modify]
  split <;> simp [operation?]

theorem operation?_countReference (serial : Serial) :
    (engine.countReference serial).operation? other =
      if serial = other then (engine.operation? other).map Operation.recordReference
      else engine.operation? other := by
  change (engine.operations.modify serial Operation.recordReference)[other]? = _
  rw [List.getElem?_modify]
  split <;> simp [operation?]

@[simp] theorem status?_countEntry (serial : Serial) :
    (engine.countEntry serial).status? other = engine.status? other := by
  rw [status?, operation?_countEntry]
  split
  · rw [Option.map_map]
    rfl
  · rfl

@[simp] theorem status?_countReference (serial : Serial) :
    (engine.countReference serial).status? other = engine.status? other := by
  rw [status?, operation?_countReference]
  split
  · rw [Option.map_map]
    rfl
  · rfl

@[simp] theorem submitted_countEntry (serial : Serial) :
    (engine.countEntry serial).submitted = engine.submitted := by
  rw [countEntry, submitted_log]
  exact List.append_nil _

@[simp] theorem submitted_countReference (serial : Serial) :
    (engine.countReference serial).submitted = engine.submitted := by
  rw [countReference, submitted_log]
  exact List.append_nil _

@[simp] theorem published_countEntry (serial : Serial) :
    (engine.countEntry serial).published = engine.published := by
  rw [countEntry, published_log]
  exact List.append_nil _

@[simp] theorem published_countReference (serial : Serial) :
    (engine.countReference serial).published = engine.published := by
  rw [countReference, published_log]
  exact List.append_nil _

/-! ## Ending operations -/

theorem claim_eq_some (claimed : engine.claim serial = some after) :
    ∃ operation, engine.operation? serial = some operation ∧ operation.stage = .pending ∧
      after = { engine with
        operations := engine.operations.set serial { operation with stage := .claimed } } := by
  rw [claim] at claimed
  split at claimed
  · next marked won =>
      obtain ⟨operation, found, first⟩ := Option.bind_eq_some_iff.mp won
      rw [Operation.claim] at first
      split at first
      · next pending =>
          cases first
          cases claimed
          exact ⟨operation, found, pending, rfl⟩
      · cases first
  · cases claimed

theorem claim_of_pending {operation : Operation} (found : engine.operation? serial = some operation)
    (pending : operation.stage = .pending) :
    engine.claim serial = some { engine with
      operations := engine.operations.set serial { operation with stage := .claimed } } := by
  simp [claim, found, Operation.claim, pending]

theorem takeOut_eq_some (found : engine.takeOut id = some (serial, after)) :
    engine.pending.get? id = some serial ∧
      ∃ claimed, engine.claim serial = some claimed ∧ after = claimed.withdraw id serial := by
  rw [takeOut] at found
  split at found
  · cases found
  · next entry present =>
      obtain ⟨claimed, won, same⟩ := Option.map_eq_some_iff.mp found
      cases same
      exact ⟨present, claimed, won, rfl⟩

theorem operation?_takeOut_self (found : engine.takeOut id = some (serial, after)) :
    ∃ operation, engine.operation? serial = some operation ∧ operation.stage = .pending ∧
      after.operation? serial = some { operation with stage := .claimed } := by
  obtain ⟨-, claimed, won, rfl⟩ := takeOut_eq_some found
  obtain ⟨operation, present, pending, rfl⟩ := claim_eq_some won
  have inside := (List.getElem?_eq_some_iff.mp present).1
  exact ⟨operation, present, pending, List.getElem?_set_self inside⟩

theorem operation?_takeOut_of_ne (found : engine.takeOut id = some (serial, after))
    (different : other ≠ serial) : after.operation? other = engine.operation? other := by
  obtain ⟨-, claimed, won, rfl⟩ := takeOut_eq_some found
  obtain ⟨operation, present, pending, rfl⟩ := claim_eq_some won
  exact List.getElem?_set_ne different.symm

theorem status?_takeOut_self (found : engine.takeOut id = some (serial, after)) :
    ∃ own, engine.status? serial = some (own, .pending) ∧
      after.status? serial = some (own, .claimed) := by
  obtain ⟨operation, present, pending, claimed⟩ := operation?_takeOut_self found
  exact ⟨operation.messageId, status?_eq_some_iff.mpr ⟨operation, present, rfl, pending⟩,
    status?_eq_some_iff.mpr ⟨_, claimed, rfl, rfl⟩⟩

theorem status?_takeOut_of_ne (found : engine.takeOut id = some (serial, after))
    (different : other ≠ serial) : after.status? other = engine.status? other := by
  rw [status?, operation?_takeOut_of_ne found different, status?]

theorem messageId?_takeOut (found : engine.takeOut id = some (serial, after)) (other : Serial) :
    after.messageId? other = engine.messageId? other := by
  by_cases same : other = serial
  · subst same
    obtain ⟨operation, present, -, claimed⟩ := operation?_takeOut_self found
    rw [messageId?, messageId?, claimed, present]
    rfl
  · rw [messageId?, operation?_takeOut_of_ne found same, messageId?]

theorem frame_takeOut (found : engine.takeOut id = some (serial, after)) :
    after = { engine with operations := after.operations, pending := after.pending } := by
  obtain ⟨-, claimed, won, rfl⟩ := takeOut_eq_some found
  obtain ⟨operation, present, pending, rfl⟩ := claim_eq_some won
  rfl

theorem timers_takeOut (found : engine.takeOut id = some (serial, after)) :
    after.timers = engine.timers := by
  rw [frame_takeOut found]

theorem trace_takeOut (found : engine.takeOut id = some (serial, after)) :
    after.trace = engine.trace := by
  rw [frame_takeOut found]

theorem submitted_takeOut (found : engine.takeOut id = some (serial, after)) :
    after.submitted = engine.submitted := by
  rw [frame_takeOut found]
  rfl

theorem published_takeOut (found : engine.takeOut id = some (serial, after)) :
    after.published = engine.published := by
  rw [frame_takeOut found]
  rfl

/-- An operation that has been claimed is changed as if it had not been. -/
theorem modify_set {operations : List Operation} {operation claimed : Operation}
    {change revised : Operation → Operation} (found : operations[serial]? = some operation)
    (same : change claimed = revised operation) :
    (operations.set serial claimed).modify serial change = operations.modify serial revised := by
  refine List.ext_getElem? fun place => ?_
  rw [List.getElem?_modify, List.getElem?_modify]
  by_cases here : serial = place
  · subst here
    rw [List.getElem?_set_self (List.getElem?_eq_some_iff.mp found).1, found]
    simp [same]
  · simp [here, List.getElem?_set_ne here]

theorem operation?_publish_self (response : Response) :
    (engine.publish serial response).operation? serial =
      (engine.operation? serial).map fun operation => operation.resolve response engine.now :=
  List.getElem?_modify_eq _ serial engine.operations

theorem operation?_publish_of_ne (response : Response) (different : other ≠ serial) :
    (engine.publish serial response).operation? other = engine.operation? other :=
  List.getElem?_modify_ne _ engine.operations different.symm

theorem status?_publish_self {stage : Stage} (response : Response)
    (found : engine.status? serial = some (id, stage)) :
    ∃ outcome, (engine.publish serial response).status? serial = some (id, .resolved outcome) := by
  obtain ⟨operation, present, own, -⟩ := status?_eq_some_iff.mp found
  have written : (engine.publish serial response).operation? serial =
      some (operation.resolve response engine.now) := by
    rw [operation?_publish_self, present, Option.map_some]
  exact ⟨operation.outcomeOf response engine.now,
    status?_eq_some_iff.mpr ⟨_, written, own, rfl⟩⟩

theorem status?_publish_of_ne (response : Response) (different : other ≠ serial) :
    (engine.publish serial response).status? other = engine.status? other := by
  rw [status?, operation?_publish_of_ne response different, status?]

@[simp] theorem messageId?_publish (response : Response) (other : Serial) :
    (engine.publish serial response).messageId? other = engine.messageId? other := by
  by_cases same : other = serial
  · subst same
    rw [messageId?, operation?_publish_self, Option.map_map, messageId?]
    rfl
  · rw [messageId?, operation?_publish_of_ne response same, messageId?]

theorem mem_timers_publish (response : Response) {timer : Timer} :
    timer ∈ (engine.publish serial response).timers ↔
      timer ∈ engine.timers ∧ timer.operation ≠ serial := by
  simp [publish]

@[simp] theorem trace_publish (response : Response) :
    (engine.publish serial response).trace = engine.trace ++ [.published serial] := rfl

@[simp] theorem submitted_publish (response : Response) :
    (engine.publish serial response).submitted = engine.submitted := by
  rw [submitted, trace_publish, List.filterMap_append]
  exact List.append_nil _

@[simp] theorem published_publish (response : Response) :
    (engine.publish serial response).published = engine.published ++ [serial] := by
  rw [published, trace_publish, List.filterMap_append]
  rfl

/-! ## Timers and registration -/

@[simp] theorem operation?_arm (id : MessageId) (serial : Serial) (deadline : Duration) :
    (engine.arm id serial deadline).operation? other = engine.operation? other := by
  rw [arm]
  split <;> rfl

@[simp] theorem trace_arm (id : MessageId) (serial : Serial) (deadline : Duration) :
    (engine.arm id serial deadline).trace = engine.trace := by
  rw [arm]
  split <;> rfl

theorem mem_timers_arm {deadline : Duration} {timer : Timer}
    (armed : timer ∈ (engine.arm id serial deadline).timers) :
    timer ∈ engine.timers ∨
      timer = ⟨serial, id, deadline⟩ ∧ ∃ own, engine.status? serial = some (own, .pending) := by
  rw [arm] at armed
  split at armed
  · next pending =>
      rcases List.mem_append.mp armed with earlier | new
      · exact .inl earlier
      · obtain ⟨operation, found, isPending⟩ := (Option.any_eq_true _ _).mp pending
        exact .inr ⟨List.mem_singleton.mp new, operation.messageId,
          status?_eq_some_iff.mpr ⟨operation, found, rfl, of_decide_eq_true isPending⟩⟩
  · exact .inl armed

theorem register_eq_some {kind : OperationKind} {probes : Nat}
    (registered : engine.register kind probes = (some id, after)) :
    ∃ ids pending, engine.pending.insertIfAbsent id engine.operations.length = some pending ∧
      after = { engine with
        ids, pending
        operations := engine.operations ++
          [{ messageId := id, kind, submittedAt := engine.now }] } := by
  induction probes generalizing engine with
  | zero => cases registered
  | succ probes ih =>
      simp only [register, IdSequence.take] at registered
      split at registered
      · next pending inserted =>
          cases registered
          exact ⟨_, pending, inserted, rfl⟩
      · next taken =>
          obtain ⟨ids, pending, inserted, same⟩ := ih registered
          exact ⟨ids, pending, inserted, same⟩

theorem register_eq_none {kind : OperationKind} {probes : Nat}
    (registered : engine.register kind probes = (none, after)) :
    ∃ ids, after = { engine with ids } := by
  induction probes generalizing engine with
  | zero =>
      cases registered
      exact ⟨_, rfl⟩
  | succ probes ih =>
      simp only [register, IdSequence.take] at registered
      split at registered
      · cases registered
      · next taken =>
          obtain ⟨ids, same⟩ := ih registered
          exact ⟨ids, same⟩

theorem frame_register {kind : OperationKind} {probes : Nat}
    (registered : engine.register kind probes = (some id, after)) :
    after = { engine with
      operations := after.operations, pending := after.pending, ids := after.ids } := by
  obtain ⟨ids, pending, -, rfl⟩ := register_eq_some registered
  rfl

theorem operation?_register {kind : OperationKind} {probes : Nat}
    (registered : engine.register kind probes = (some id, after)) (other : Serial) :
    after.operation? other = if other = engine.operations.length then
      some { messageId := id, kind, submittedAt := engine.now } else engine.operation? other := by
  obtain ⟨ids, pending, -, rfl⟩ := register_eq_some registered
  change (engine.operations ++ [_])[other]? = _
  by_cases last : other = engine.operations.length
  · rw [if_pos last, last, List.getElem?_concat_length]
  · rw [if_neg last, operation?, List.getElem?_append]
    split
    · rfl
    · next beyond =>
        have past : engine.operations.length < other :=
          Nat.lt_of_le_of_ne (Nat.le_of_not_lt beyond) (Ne.symm last)
        rw [List.getElem?_eq_none (Nat.le_sub_of_add_le' past),
          List.getElem?_eq_none (Nat.le_of_lt past)]

theorem status?_register {kind : OperationKind} {probes : Nat}
    (registered : engine.register kind probes = (some id, after)) (other : Serial) :
    after.status? other = if other = engine.operations.length then some (id, .pending)
      else engine.status? other := by
  rw [status?, operation?_register registered]
  split <;> rfl

theorem messageId?_register {kind : OperationKind} {probes : Nat}
    (registered : engine.register kind probes = (some id, after)) (other : Serial) :
    after.messageId? other = if other = engine.operations.length then some id
      else engine.messageId? other := by
  rw [messageId?, operation?_register registered]
  split <;> rfl

theorem free_of_register {kind : OperationKind} {probes : Nat}
    (registered : engine.register kind probes = (some id, after)) :
    engine.pending.get? id = none := by
  obtain ⟨ids, pending, inserted, rfl⟩ := register_eq_some registered
  exact (PendingTable.insertIfAbsent_eq_some inserted).1

theorem get?_register {kind : OperationKind} {probes : Nat}
    (registered : engine.register kind probes = (some id, after)) {key : MessageId} :
    after.pending.get? key = some other ↔ engine.pending.get? key = some other ∨
      (key = id ∧ other = engine.operations.length) := by
  obtain ⟨ids, pending, inserted, rfl⟩ := register_eq_some registered
  exact PendingTable.get?_insertIfAbsent inserted

end Engine

end DirectoryClient
