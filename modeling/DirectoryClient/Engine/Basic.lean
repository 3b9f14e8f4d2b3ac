import DirectoryClient.Engine.Call
import DirectoryClient.Engine.Table
import DirectoryClient.Operation.Basic
import DirectoryClient.Options.Basic

/-!
# Engines

An engine matches requests with responses on one connection. It keeps every operation that was ever
registered, in the order of registration, the table of those that are pending, and the timers that
will end some of them. What happens is added to a trace.

This module holds the changes that need no connection.
-/

namespace DirectoryClient

/-- The time at which an operation is ended, unless something else ends it before. -/
structure Timer where
  operation : Serial
  messageId : MessageId
  deadline : Duration
deriving DecidableEq, Repr

/-- `EngineInner`, with the operations, timers and references that are kept around it. -/
structure Engine where
  options : Options := {}
  /-- Every operation, by its serial. -/
  operations : List Operation := []
  pending : PendingTable := ∅
  ids : IdSequence := .startingAt 1
  /-- The timers that are armed: they have neither fired nor been cancelled. -/
  timers : List Timer := []
  /-- For each reference to the engine that was ever made, whether it is still held. -/
  holders : List Bool := [true]
  now : Duration := .zero
  /-- What has happened so far. -/
  trace : List Event := []

namespace Engine

instance : Inhabited Engine := ⟨{}⟩

/-- `MAX_ARMED_TIMEOUT`, thirty years. -/
def longestTimeout : Duration :=
  .ofSeconds (30 * 365 * 24 * 60 * 60) 0

/-- `timer_deadline`: when a timer for a request that is submitted at `start` is due. No timer is
armed without a timeout, for a timeout of zero, or for one that is too long. -/
def timerDeadline (start : Duration) (timeout : Option Duration) : Option Duration :=
  match timeout with
  | none => none
  | some span => if .zero < span ∧ span ≤ longestTimeout then some (start + span) else none

def operation? (engine : Engine) (serial : Serial) : Option Operation :=
  engine.operations[serial]?

/-- `pending_count`, the length of the table. -/
def pendingCount (engine : Engine) : Nat :=
  engine.pending.size

/-- `is_pending`, which asks the table and not the operation. -/
def isPending (engine : Engine) (id : MessageId) : Bool :=
  engine.pending.contains id

/-- What an engine is shown as for debugging. -/
def describe (engine : Engine) : String :=
  s!"AsyncEngine \x7b pending: {engine.pendingCount}, .. \x7d"

def isHeld (engine : Engine) (holder : Holder) : Bool :=
  engine.holders.getD holder false

/-- Whether nobody can reach the engine any more: an armed timer holds it as well as a reference. -/
def isUnreachable (engine : Engine) : Bool :=
  !engine.holders.contains true && engine.timers.isEmpty

def log (engine : Engine) (event : Event) : Engine :=
  { engine with trace := engine.trace ++ [event] }

/-- `record_entry` on an operation. -/
def countEntry (engine : Engine) (serial : Serial) : Engine :=
  ({ engine with operations := engine.operations.modify serial Operation.recordEntry }).log
    (.entryCounted serial)

/-- `record_reference` on an operation. -/
def countReference (engine : Engine) (serial : Serial) : Engine :=
  ({ engine with operations := engine.operations.modify serial Operation.recordReference }).log
    (.referenceCounted serial)

/-- `claim` on an operation; nothing if somebody else was first. -/
def claim (engine : Engine) (serial : Serial) : Option Engine :=
  match (engine.operation? serial).bind Operation.claim with
  | some claimed => some { engine with operations := engine.operations.set serial claimed }
  | none => none

/-- `remove_if_same` on the table of the engine. -/
def withdraw (engine : Engine) (id : MessageId) (serial : Serial) : Engine :=
  { engine with pending := engine.pending.removeIfSame id serial }

/-- What `deliver` and `expire` begin with: `get`, `claim` and `remove_if_same`. Nothing if the
identifier stands for no operation, or for one that somebody else has claimed. -/
def takeOut (engine : Engine) (id : MessageId) : Option (Serial × Engine) :=
  match engine.pending.get? id with
  | none => none
  | some serial => (engine.claim serial).map fun claimed => (serial, claimed.withdraw id serial)

/-- `publish` with `build_result` and `cancel_timer`: writes the outcome and disarms the timer. -/
def publish (engine : Engine) (serial : Serial) (response : Response) : Engine :=
  ({ engine with
      operations := engine.operations.modify serial fun operation =>
        operation.resolve response engine.now
      timers := engine.timers.filter fun timer => timer.operation ≠ serial }).log
    (.published serial)

/-- `arm_timer`: arms a timer unless the operation has been claimed in the meantime. -/
def arm (engine : Engine) (id : MessageId) (serial : Serial) (deadline : Duration) : Engine :=
  if (engine.operation? serial).any Operation.isPending then
    { engine with timers := engine.timers ++ [⟨serial, id, deadline⟩] }
  else
    engine

/-- `register`: enters an operation under the next identifier that stands for none, trying `probes`
of them. -/
def register (engine : Engine) (kind : OperationKind) : (probes : Nat) → Option MessageId × Engine
  | 0 => (none, engine)
  | probes + 1 =>
      let (id, ids) := engine.ids.take
      match engine.pending.insertIfAbsent id engine.operations.length with
      | some pending =>
          let operation := { messageId := id, kind, submittedAt := engine.now }
          (some id, { engine with ids, pending, operations := engine.operations ++ [operation] })
      | none => ({ engine with ids }).register kind probes

/-- The loop of `fail_all`: gives some operations the same outcome, apart from those that somebody
has claimed. The number counts those that got it. -/
def failEach (engine : Engine) (response : Response) : List Serial → Nat × Engine
  | [] => (0, engine)
  | serial :: rest =>
      match engine.claim serial with
      | none => engine.failEach response rest
      | some claimed =>
          let (count, final) := (claimed.publish serial response).failEach response rest
          (count + 1, final)

/-- `fail_all`, draining the table in the order of registration. -/
def failAll (engine : Engine) (code : ResultCode) (message : String) : Nat × Engine :=
  ({ engine with pending := ∅ }).failEach { code, diagnostic := some message }
    engine.pending.serials

/-- `fail_all`, draining the table along any walk over identifiers. -/
def failAlong (engine : Engine) (walk : List MessageId) (response : Response) : Nat × Engine :=
  let drained := engine.pending.drain walk
  ({ engine with pending := drained.2 }).failEach response drained.1

def releaseMessage : String :=
  "The asynchronous engine was dropped before the operation completed"

/-- What happens when the last reference to an engine is dropped: no response can come for what is
still pending, and all of it fails. -/
def release (engine : Engine) : Engine :=
  if engine.isUnreachable && 0 < engine.pendingCount then
    let (count, failed) := engine.failAll .localError releaseMessage
    failed.log (.released count)
  else
    engine

/-- Makes one more reference to the engine; all share its state. -/
def clone (engine : Engine) : Holder × Engine :=
  (engine.holders.length, { engine with holders := engine.holders ++ [true] })

/-- Lets go of one reference. Whether it was the last is settled by `release`. -/
def drop (engine : Engine) (holder : Holder) : Engine :=
  { engine with holders := engine.holders.set holder false }

@[simp] theorem pending_log (engine : Engine) (event : Event) :
    (engine.log event).pending = engine.pending := rfl

@[simp] theorem pending_publish (engine : Engine) (serial : Serial) (response : Response) :
    (engine.publish serial response).pending = engine.pending := rfl

theorem pending_of_claim {engine claimed : Engine} {serial : Serial}
    (found : engine.claim serial = some claimed) : claimed.pending = engine.pending := by
  rw [claim] at found
  split at found
  · cases found
    rfl
  · cases found

@[simp] theorem pending_arm (engine : Engine) (id : MessageId) (serial : Serial)
    (deadline : Duration) : (engine.arm id serial deadline).pending = engine.pending := by
  rw [arm]
  split <;> rfl

@[simp] theorem pending_failEach (engine : Engine) (response : Response) (serials : List Serial) :
    (engine.failEach response serials).2.pending = engine.pending := by
  induction serials generalizing engine with
  | nil => rfl
  | cons serial rest ih =>
      rw [failEach]
      split
      · exact ih engine
      next claimed found => rw [ih, pending_publish, pending_of_claim found]

@[simp] theorem pending_failAll (engine : Engine) (code : ResultCode) (message : String) :
    (engine.failAll code message).2.pending = ∅ := by
  rw [failAll, pending_failEach]

theorem pending_of_takeOut {engine taken : Engine} {id : MessageId} {serial : Serial}
    (found : engine.takeOut id = some (serial, taken)) :
    engine.pending.get? id = some serial ∧
      taken.pending = engine.pending.removeIfSame id serial := by
  rw [takeOut] at found
  split at found
  · cases found
  next entry present =>
    obtain ⟨claimed, isClaimed, same⟩ := Option.map_eq_some_iff.mp found
    cases same
    exact ⟨present, by rw [withdraw, pending_of_claim isClaimed]⟩

end Engine

end DirectoryClient
