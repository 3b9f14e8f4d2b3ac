import DirectoryClient.Engine.Basic

/-!
# What an engine does, task by task

A call on an engine may reach the connection, and the connection may call the engine again before it
comes back. A `Moment` is an engine in the middle of this, with the tasks that are still to be
carried out. Carrying out one task may put others in front of the rest, and the call is over when no
task is left.

This ends, whatever the connection does: each operation that is ended by a timeout or on request
brings at most two visits to the connection, and each visit brings the calls of one reaction. So the
number of tasks that a moment is away from the end of its call has the bound `Moment.distance`.
-/

namespace DirectoryClient

/-- What is left of the calls that are under way, statement by statement. -/
inductive Task where
  /-- The connection calls the engine from inside a site. -/
  | callback (site : Site) (id : MessageId) (callback : Callback)
  /-- `expire` calls `deregister_pending_response`. -/
  | deregister (serial : Serial) (id : MessageId)
  /-- `expire` calls `abandon`. -/
  | abandon (serial : Serial) (id : MessageId)
  /-- The connection comes back from a site. -/
  | comeBack (site : Site) (id : MessageId) (succeeded : Bool)
  /-- The last statement of `expire`: `publish`, for an operation that has been claimed. -/
  | publish (serial : Serial) (response : Response)
  /-- A call returns. -/
  | answer (caller : Caller) (call : Call) (reply : Reply)
  /-- `submit` after a `transmit` that succeeded: `arm_timer`, and a handle to wait with. -/
  | accept (id : MessageId) (serial : Serial) (deadline : Option Duration)
  /-- `submit` after a `transmit` that failed: `remove_if_same`, and the error of the connection. -/
  | refuse (id : MessageId) (serial : Serial) (reason : TransportError)
deriving DecidableEq, Repr

namespace Task

def ofReaction {ε : Type} (site : Site) (id : MessageId) (reaction : Reaction ε) : List Task :=
  reaction.callbacks.map (.callback site id) ++ [.comeBack site id reaction.failure.isNone]

/-- The number of tasks that a visit to the connection brings at most, as long as the calls of the
connection end no operation. -/
def effort {ε : Type} (reaction : Reaction ε) : Nat :=
  2 * reaction.callbacks.length + 1

/-- The number of tasks that a task amounts to at most, as long as it ends no operation. -/
def weight (connection : Connection) : Task → Nat
  | .callback _ _ _ => 2
  | .deregister _ id => 1 + effort (connection.deregister id)
  | .abandon _ id => 1 + effort (connection.abandon id)
  | _ => 1

def weightOf (connection : Connection) (tasks : List Task) : Nat :=
  tasks.foldr (fun task rest => weight connection task + rest) 0

@[simp] theorem weightOf_nil (connection : Connection) : weightOf connection [] = 0 := rfl

@[simp] theorem weightOf_cons (connection : Connection) (task : Task) (tasks : List Task) :
    weightOf connection (task :: tasks) = weight connection task + weightOf connection tasks :=
  rfl

@[simp] theorem weightOf_append (connection : Connection) (first second : List Task) :
    weightOf connection (first ++ second) =
      weightOf connection first + weightOf connection second := by
  induction first with
  | nil => simp
  | cons task rest ih => rw [List.cons_append, weightOf_cons, weightOf_cons, ih, Nat.add_assoc]

theorem weightOf_ofReaction {ε : Type} (connection : Connection) (site : Site) (id : MessageId)
    (reaction : Reaction ε) :
    weightOf connection (ofReaction site id reaction) = effort reaction := by
  rw [ofReaction, weightOf_append, effort]
  congr 1
  induction reaction.callbacks with
  | nil => rfl
  | cons callback rest ih =>
      rw [List.map_cons, weightOf_cons, ih, weight, List.length_cons]
      omega

end Task

structure Moment where
  engine : Engine
  agenda : List Task

namespace Engine

/-- `expire` after the operation has been taken out of the table: whether to abandon and how long it
took are settled first, then the connection is told, whose failures are ignored, and then the
outcome is published. -/
def beginExpiry (engine : Engine) (id : MessageId) (serial : Serial) (reason : Expiry) : Moment :=
  let start := ((engine.operation? serial).map Operation.submittedAt).getD engine.now
  let abandons := engine.options.abandonOnTimeout
  { engine
    agenda := .deregister serial id :: ((if abandons then [.abandon serial id] else []) ++
      [.publish serial (reason.response (engine.now - start) abandons)]) }

/-- Begins a call: the answer is settled, and what remains to be done is on the agenda. Only an
`expire` that has claimed its operation leaves anything there. A call about an identifier that
stands for no pending operation is answered with no and changes nothing. -/
def beginCall (engine : Engine) : Call → Reply × Moment
  | .deliver id response =>
      match engine.takeOut id with
      | none => (.flag false, ⟨engine, []⟩)
      | some (serial, taken) => (.flag true, ⟨taken.publish serial response, []⟩)
  | .entryReturned id =>
      match engine.pending.get? id with
      | none => (.flag false, ⟨engine, []⟩)
      | some serial => (.flag true, ⟨engine.countEntry serial, []⟩)
  | .referenceReturned id =>
      match engine.pending.get? id with
      | none => (.flag false, ⟨engine, []⟩)
      | some serial => (.flag true, ⟨engine.countReference serial, []⟩)
  | .expire id reason =>
      match engine.takeOut id with
      | none => (.flag false, ⟨engine, []⟩)
      | some (serial, taken) => (.flag true, taken.beginExpiry id serial reason)
  | .isPending id => (.flag (engine.isPending id), ⟨engine, []⟩)
  | .pendingCount => (.count engine.pendingCount, ⟨engine, []⟩)
  | .describe => (.text engine.describe, ⟨engine, []⟩)
  | .failAll code message =>
      let (count, failed) := engine.failAll code message
      (.count count, ⟨failed, []⟩)

/-- Begins a call of a connection, which must hold a reference to the engine to make it. -/
def beginCallback (engine : Engine) (callback : Callback) : Reply × Moment :=
  if engine.isHeld callback.holder then
    engine.beginCall callback.call
  else
    (.noEngine, ⟨engine, []⟩)

/-- Carries out a task. What the connection does at a site comes next, before anything else. -/
def carryOut (connection : Connection) (engine : Engine) : Task → Moment
  | .callback site id callback =>
      let (reply, moment) := engine.beginCallback callback
      { moment with
        agenda := moment.agenda ++ [.answer (.connection site id) callback.call reply] }
  | .deregister serial id =>
      ⟨engine.log (.deregistered serial id),
        Task.ofReaction .deregister id (connection.deregister id)⟩
  | .abandon serial id =>
      ⟨engine.log (.abandoned serial id), Task.ofReaction .abandon id (connection.abandon id)⟩
  | .comeBack site id succeeded => ⟨engine.log (.returned site id succeeded), []⟩
  | .publish serial response => ⟨engine.publish serial response, []⟩
  | .answer caller call reply => ⟨engine.log (.replied caller call reply), []⟩
  | .accept id serial deadline =>
      let armed := match deadline with
        | some deadline => engine.arm id serial deadline
        | none => engine
      ⟨armed.log (.submitted serial), []⟩
  | .refuse id serial reason =>
      ⟨(engine.withdraw id serial).log (.refused (.transport reason)), []⟩

/-- The number of tasks that ending an operation by a timeout or on request brings at most. -/
def expiryWeight (connection : Connection) (id : MessageId) : Nat :=
  Task.weightOf connection [.deregister 0 id, .abandon 0 id] + 1

/-- The number of tasks that ending all pending operations brings at most. -/
def reserve (connection : Connection) (engine : Engine) : Nat :=
  engine.pending.total (expiryWeight connection)

/-- Ending an operation leaves no more to do than its identifier stands for. -/
theorem weightOf_beginExpiry_le (connection : Connection) (engine : Engine) (id : MessageId)
    (serial : Serial) (reason : Expiry) :
    Task.weightOf connection (engine.beginExpiry id serial reason).agenda ≤
      expiryWeight connection id := by
  simp only [beginExpiry, expiryWeight]
  split
  · simp [Task.weight]
    omega
  · simp [Task.weight]

/-- A call leaves no more to do than the operations stand for that it takes out of the table. -/
theorem reserve_beginCall_le (connection : Connection) (engine : Engine) (call : Call) :
    (engine.beginCall call).2.engine.reserve connection +
        Task.weightOf connection (engine.beginCall call).2.agenda ≤
      engine.reserve connection := by
  cases call with
  | deliver id response =>
      rw [beginCall]
      split
      · exact Nat.le_refl _
      next serial taken found =>
        obtain ⟨present, same⟩ := pending_of_takeOut found
        have lower := PendingTable.total_removeIfSame_le engine.pending id serial
          (expiryWeight connection)
        simpa [reserve, same] using lower
  | expire id reason =>
      rw [beginCall]
      split
      · exact Nat.le_refl _
      next serial taken found =>
        obtain ⟨present, same⟩ := pending_of_takeOut found
        have lower := PendingTable.total_removeIfSame_add_le present (expiryWeight connection)
        have light := taken.weightOf_beginExpiry_le connection id serial reason
        have kept : (taken.beginExpiry id serial reason).engine = taken := rfl
        simp only [kept, reserve, same]
        omega
  | entryReturned id =>
      rw [beginCall]
      split <;> exact Nat.le_refl _
  | referenceReturned id =>
      rw [beginCall]
      split <;> exact Nat.le_refl _
  | isPending id => exact Nat.le_refl _
  | pendingCount => exact Nat.le_refl _
  | describe => exact Nat.le_refl _
  | failAll code message =>
      simp [beginCall, reserve]

theorem reserve_beginCallback_le (connection : Connection) (engine : Engine)
    (callback : Callback) :
    (engine.beginCallback callback).2.engine.reserve connection +
        Task.weightOf connection (engine.beginCallback callback).2.agenda ≤
      engine.reserve connection := by
  rw [beginCallback]
  split
  · exact engine.reserve_beginCall_le connection callback.call
  · exact Nat.le_refl _

theorem reserve_carryOut_lt (connection : Connection) (engine : Engine) (task : Task) :
    (engine.carryOut connection task).engine.reserve connection +
        Task.weightOf connection (engine.carryOut connection task).agenda <
      engine.reserve connection + task.weight connection := by
  cases task with
  | callback site id callback =>
      have bound := engine.reserve_beginCallback_le connection callback
      simp only [carryOut, Task.weightOf_append, Task.weightOf_cons, Task.weightOf_nil, Task.weight]
      omega
  | deregister serial id =>
      simp only [carryOut, Task.weightOf_ofReaction, Task.weight, reserve, pending_log]
      omega
  | abandon serial id =>
      simp only [carryOut, Task.weightOf_ofReaction, Task.weight, reserve, pending_log]
      omega
  | comeBack site id succeeded => simp [carryOut, Task.weight, reserve]
  | publish serial response => simp [carryOut, Task.weight, reserve]
  | answer caller call reply => simp [carryOut, Task.weight, reserve]
  | accept id serial deadline => cases deadline <;> simp [carryOut, Task.weight, reserve]
  | refuse id serial reason =>
      have lower := PendingTable.total_removeIfSame_le engine.pending id serial
        (expiryWeight connection)
      simp only [carryOut, Task.weight, Task.weightOf_nil, reserve, pending_log, withdraw]
      omega

end Engine

namespace Moment

/-- The number of tasks until the end of the call at most. -/
def distance (connection : Connection) (moment : Moment) : Nat :=
  moment.engine.reserve connection + Task.weightOf connection moment.agenda

/-- Carries out the first task of the agenda; nothing if the call is over. -/
def next? (connection : Connection) (moment : Moment) : Option Moment :=
  match moment.agenda with
  | [] => none
  | task :: rest =>
      let after := moment.engine.carryOut connection task
      some { after with agenda := after.agenda ++ rest }

theorem distance_lt_of_next? {connection : Connection} {moment after : Moment}
    (step : moment.next? connection = some after) :
    after.distance connection < moment.distance connection := by
  obtain ⟨engine, agenda⟩ := moment
  cases agenda with
  | nil => cases step
  | cons task rest =>
      cases step
      have used := engine.reserve_carryOut_lt connection task
      simp only [distance, Task.weightOf_append, Task.weightOf_cons]
      omega

/-- Carries out everything that is left. -/
def finish (connection : Connection) (moment : Moment) : Engine :=
  match _ : moment.next? connection with
  | none => moment.engine
  | some after => after.finish connection
termination_by moment.distance connection
decreasing_by exact distance_lt_of_next? ‹_›

end Moment

end DirectoryClient
