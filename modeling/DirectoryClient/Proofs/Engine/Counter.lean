import DirectoryClient.Proofs.Engine.Aftermath
import DirectoryClient.Proofs.Engine.Correlation
import DirectoryClient.Proofs.Engine.Firing

namespace DirectoryClient

inductive Counter where
  | entries
  | references
deriving DecidableEq, Repr

namespace Counter

/-- The call by which one more is counted for whatever an identifier stands for. -/
def call : Counter → MessageId → Call
  | .entries, id => .entryReturned id
  | .references, id => .referenceReturned id

end Counter

/-- What an operation has counted so far. -/
def Operation.counted (operation : Operation) : Counter → UInt32
  | .entries => operation.entries
  | .references => operation.references

def Outcome.counted (outcome : Outcome) : Counter → UInt32
  | .entries => outcome.entries
  | .references => outcome.references

/-- If the operation has ended, its outcome shows what it has counted. -/
def Operation.Reports (operation : Operation) : Prop :=
  ∀ outcome counter, operation.outcome? = some outcome → outcome.kind = operation.kind ∧
    outcome.counted counter = if operation.kind = .search then operation.counted counter else 0

theorem Operation.reports_resolve (operation : Operation) (response : Response) (now : Duration) :
    (operation.resolve response now).Reports := by
  intro outcome counter ended
  cases ended
  refine ⟨rfl, ?_⟩
  cases counter <;> simp [Outcome.counted, outcomeOf, resolve, counted, OperationKind.isStreaming]

namespace Engine

/-- Counts one more for an operation, as a note on its handle does. -/
def count (engine : Engine) (serial : Serial) : Counter → Engine
  | .entries => engine.countEntry serial
  | .references => engine.countReference serial

def counted? (engine : Engine) (counter : Counter) (serial : Serial) : Option UInt32 :=
  (engine.operation? serial).map fun operation => operation.counted counter

variable {engine after : Engine} {counter other : Counter} {serial place : Serial} {id : MessageId}

theorem counted?_of_operation? (same : after.operation? serial = engine.operation? serial)
    (counter : Counter) : after.counted? counter serial = engine.counted? counter serial := by
  rw [counted?, same, counted?]

/-- A note counts for one operation and with one counter. -/
theorem counted?_count (engine : Engine) (place serial : Serial) (other counter : Counter) :
    (engine.count place other).counted? counter serial =
      if other = counter ∧ place = serial then (engine.counted? counter serial).map (· + 1)
      else engine.counted? counter serial := by
  by_cases same : place = serial
  · subst same
    cases other <;> cases counter <;>
      simp [count, counted?, operation?_countEntry, operation?_countReference, Option.map_map,
        Function.comp_def, Operation.counted, Operation.recordEntry, Operation.recordReference]
  · cases other <;>
      simp [count, counted?, operation?_countEntry, operation?_countReference, same]

theorem counted?_count_ne (known : (engine.operation? serial).isSome) :
    ((engine.count serial counter).counted? counter serial).getD 0 ≠
      (engine.counted? counter serial).getD 0 := by
  obtain ⟨operation, found⟩ := Option.isSome_iff_exists.mp known
  rw [counted?_count, if_pos ⟨rfl, rfl⟩, counted?, found]
  simp

theorem outcome?_count (engine : Engine) (place serial : Serial) (counter : Counter) :
    (engine.count place counter).outcome? serial = engine.outcome? serial := by
  have same : (engine.count place counter).status? serial = engine.status? serial := by
    cases counter with
    | entries => exact engine.status?_countEntry place
    | references => exact engine.status?_countReference place
  refine Option.ext fun outcome => ?_
  simp only [outcome?_eq_some_iff, same]

theorem extends_count (engine : Engine) (serial : Serial) (counter : Counter) :
    engine.Extends (engine.count serial counter) := by
  cases counter with
  | entries => exact engine.extends_countEntry serial
  | references => exact engine.extends_countReference serial

theorem coherent_count {ending : List Serial} {submitting : List (MessageId × Serial)}
    (coherent : Ledger.Coherent ⟨engine, ending, submitting⟩) (serial : Serial)
    (counter : Counter) :
    Ledger.Coherent ⟨engine.count serial counter, ending, submitting⟩ := by
  cases counter with
  | entries => exact coherent.agrees ⟨by simp [count], rfl, rfl, by simp [count], by simp [count],
      rfl, rfl⟩
  | references => exact coherent.agrees ⟨by simp [count], rfl, rfl, by simp [count],
      by simp [count], rfl, rfl⟩

theorem counted?_takeOut (found : engine.takeOut id = some (place, after)) :
    after.counted? counter serial = engine.counted? counter serial := by
  by_cases same : serial = place
  · subst same
    obtain ⟨operation, present, -, claimed⟩ := operation?_takeOut_self found
    rw [counted?, claimed, counted?, present]
    cases counter <;> rfl
  · exact counted?_of_operation? (operation?_takeOut_of_ne found same) counter

theorem counted?_publish (response : Response) :
    (engine.publish place response).counted? counter serial = engine.counted? counter serial := by
  by_cases same : serial = place
  · subst same
    rw [counted?, operation?_publish_self, Option.map_map, counted?]
    cases counter <;> rfl
  · exact counted?_of_operation? (operation?_publish_of_ne response same) counter

theorem counted?_failEach (response : Response) (serials : List Serial) :
    (engine.failEach response serials).2.counted? counter serial =
      engine.counted? counter serial := by
  rw [counted?, operation?_failEach, Option.map_map, counted?]
  refine Option.map_congr fun operation _ => ?_
  dsimp only [Function.comp_apply]
  split <;> cases counter <;> rfl

theorem counted?_failAll (code : ResultCode) (message : String) :
    (engine.failAll code message).2.counted? counter serial = engine.counted? counter serial :=
  counted?_failEach _ _

theorem counted?_release : engine.release.counted? counter serial =
    engine.counted? counter serial := by
  rw [release]
  split
  · exact counted?_failAll _ _
  · rfl

theorem counted?_register {kind : OperationKind} {probes : Nat}
    (found : engine.register kind probes = (some id, after)) :
    after.counted? counter serial =
      if serial = engine.operations.length then some 0 else engine.counted? counter serial := by
  rw [counted?, operation?_register found]
  split
  · cases counter <;> rfl
  · rfl

theorem counted?_beginSubmit (engine : Engine) (connection : Connection) (kind : OperationKind)
    (request : List UInt8) (timeout : Option Duration) :
    ((engine.beginSubmit connection kind request timeout).2.engine.counted? counter serial).getD 0 =
      (engine.counted? counter serial).getD 0 := by
  rw [beginSubmit]
  split
  · next probed exhausted =>
      obtain ⟨ids, rfl⟩ := register_eq_none exhausted
      rfl
  · next id registered found =>
      change (registered.counted? counter serial).getD 0 = _
      rw [counted?_register found]
      split
      · next new =>
          have absent : engine.operation? serial = none :=
            List.getElem?_eq_none (Nat.le_of_eq new.symm)
          rw [counted?, absent]
          rfl
      · rfl

/-- A call finds an operation to count for. -/
def Credits (engine : Engine) (call : Call) (counter : Counter) (serial : Serial) : Prop :=
  ∃ id, call = counter.call id ∧ engine.pending.get? id = some serial

theorem counted?_beginCall (engine : Engine) (call : Call) (counter : Counter) (serial : Serial) :
    (engine.Credits call counter serial ∧ (engine.beginCall call).1 = .flag true ∧
        (engine.beginCall call).2.engine.counted? counter serial =
          (engine.counted? counter serial).map (· + 1)) ∨
      (engine.beginCall call).2.engine.counted? counter serial =
        engine.counted? counter serial := by
  obtain ⟨reply, moment, same, begins⟩ := engine.exists_begins call
  rw [same]
  cases begins with
  | idle lost none => exact .inr rfl
  | deliver found => exact .inr ((counted?_publish _).trans (counted?_takeOut found))
  | expire found => exact .inr (counted?_takeOut found)
  | @countEntry id place present =>
      have counted := engine.counted?_count place serial .entries counter
      split at counted
      · next own =>
          obtain ⟨rfl, rfl⟩ := own
          exact .inl ⟨⟨id, rfl, present⟩, rfl, counted⟩
      · exact .inr counted
  | @countReference id place present =>
      have counted := engine.counted?_count place serial .references counter
      split at counted
      · next own =>
          obtain ⟨rfl, rfl⟩ := own
          exact .inl ⟨⟨id, rfl, present⟩, rfl, counted⟩
      · exact .inr counted
  | failAll code message => exact .inr (counted?_failAll code message)

theorem counted?_beginRequest (engine : Engine) (caller : Caller) (callback : Callback)
    (counter : Counter) (serial : Serial) :
    (engine.Credits callback.call counter serial ∧
        (engine.beginRequest caller callback).1 = .flag true ∧
        (engine.beginRequest caller callback).2.engine.counted? counter serial =
          (engine.counted? counter serial).map (· + 1)) ∨
      (engine.beginRequest caller callback).2.engine.counted? counter serial =
        engine.counted? counter serial := by
  rcases engine.beginRequest_cases caller callback with ⟨-, same⟩ | ⟨-, same⟩ <;> rw [same]
  · exact engine.counted?_beginCall callback.call counter serial
  · exact .inr rfl

theorem present_of_counted {caller : Caller} {callback : Callback}
    (engine : Engine) (asked : callback.call = counter.call id)
    (answered : (engine.beginRequest caller callback).1 = .flag true) :
    ∃ serial, engine.pending.get? id = some serial := by
  rcases engine.beginRequest_cases caller callback with ⟨-, same⟩ | ⟨-, same⟩ <;>
    rw [same] at answered
  · rw [asked] at answered
    refine Option.ne_none_iff_exists'.mp fun free => ?_
    cases counter <;> simp [Counter.call, beginCall, free] at answered
  · cases answered

/-- No task but a call of the connection has anything to do with the counters. -/
theorem counted?_carryOut (connection : Connection) (engine : Engine) (task : Task) :
    (∃ site id callback, task = .callback site id callback) ∨
      (engine.carryOut connection task).engine.counted? counter serial =
        engine.counted? counter serial := by
  cases task with
  | callback site id callback => exact .inl ⟨site, id, callback, rfl⟩
  | publish place response => exact .inr (counted?_publish response)
  | accept id place deadline =>
      rw [Moment.carryOut_accept]
      exact .inr (counted?_of_operation? (operation?_accept deadline) counter)
  | _ => exact .inr rfl

end Engine

namespace Ledger

variable {ledger after : Ledger} {serial : Serial} {operation : Operation}

/-- Whatever ends in a change reports what it has counted at that time. -/
theorem Change.reports (change : ledger.Change after)
    (unresolved : ledger.engine.outcome? serial = none)
    (found : after.engine.operation? serial = some operation) : operation.Reports := by
  intro outcome counter ended
  have written : after.engine.outcome? serial = some outcome := by
    rw [Engine.outcome?, found]
    exact ended
  obtain ⟨id, stands⟩ := Engine.outcome?_eq_some_iff.mp written
  have still : ∀ {key}, ledger.engine.status? serial ≠ some (key, .resolved outcome) := by
    intro key resolved
    cases unresolved.symm.trans (Engine.outcome?_eq_some_iff.mpr ⟨key, resolved⟩)
  cases change with
  | note plain => exact absurd stands still
  | countEntry present => exact absurd (Engine.status?_countEntry _ ▸ stands) still
  | countReference present => exact absurd (Engine.status?_countReference _ ▸ stands) still
  | @takeOut engine ending submitting key place taken left =>
      by_cases same : serial = place
      · subst same
        obtain ⟨own, -, claimed⟩ := Engine.status?_takeOut_self left
        cases stands.symm.trans claimed
      · exact absurd (Engine.status?_takeOut_of_ne left same ▸ stands) still
  | @publish engine ending submitting place response =>
      by_cases same : serial = place
      · subst same
        rw [Engine.operation?_publish_self] at found
        obtain ⟨before, -, rfl⟩ := Option.map_eq_some_iff.mp found
        exact before.reports_resolve response engine.now outcome counter ended
      · exact absurd (Engine.status?_publish_of_ne response same ▸ stands) still
  | accept deadline => exact absurd (Engine.status?_accept deadline ▸ stands) still
  | refuse => exact absurd stands still

/-- An operation is left alone after it has ended, so its outcome agrees with its counters until the
changes are over. -/
theorem Changes.reports (changes : ledger.Changes after) (coherent : ledger.Coherent)
    (unresolved : ledger.engine.outcome? serial = none)
    (found : after.engine.operation? serial = some operation) : operation.Reports := by
  induction changes generalizing operation with
  | refl =>
      intro outcome counter ended
      rw [Engine.outcome?, found, Option.bind_some, ended] at unresolved
      cases unresolved
  | @tail middle last earlier change ih =>
      cases ended : middle.engine.outcome? serial with
      | none => exact change.reports ended found
      | some outcome =>
          have idle := (coherent.changes earlier).not_live (Option.isSome_of_eq_some ended)
          exact ih ((change.operation?_of_not_live idle).1 ▸ found)

theorem Turn.outcome?_of_none (turn : ledger.Turn after)
    (unresolved : ledger.engine.outcome? serial = none) : after.engine.outcome? serial = none := by
  rw [Option.eq_none_iff_forall_ne_some]
  intro outcome written
  obtain ⟨id, stands⟩ := Engine.outcome?_eq_some_iff.mp written
  have still : ∀ {key}, ledger.engine.status? serial ≠ some (key, .resolved outcome) := by
    intro key resolved
    cases unresolved.symm.trans (Engine.outcome?_eq_some_iff.mpr ⟨key, resolved⟩)
  cases turn with
  | register found =>
      obtain ⟨operation, present, -, resolved⟩ := Engine.status?_eq_some_iff.mp stands
      rw [Engine.operation?_register found] at present
      split at present
      · cases present
        cases resolved
      · exact still (Engine.status?_eq_some_iff.mpr ⟨operation, present, rfl, resolved⟩)
  | disarm timer => exact still stands
  | recordEntry place => exact still (Engine.status?_countEntry place ▸ stands)
  | recordReference place => exact still (Engine.status?_countReference place ▸ stands)
  | tend ids holders now => exact still stands

end Ledger

namespace Moment

variable {moment after : Moment} {serial : Serial} {operation : Operation}

theorem Moves.reports (move : moment.Moves after) (coherent : moment.ledger.Coherent)
    (unresolved : moment.engine.outcome? serial = none)
    (found : after.engine.operation? serial = some operation) : operation.Reports := by
  obtain ⟨middle, rfl | turn, changes⟩ := move.course coherent
  · exact changes.reports coherent unresolved found
  · exact changes.reports (coherent.turn turn) (turn.outcome?_of_none unresolved) found

end Moment

end DirectoryClient
