import DirectoryClient.Proofs.Engine.Effect
import DirectoryClient.Proofs.Engine.Run

/-!
# The ledger of a moment

Of the tasks that are still to be carried out, the invariants of a run need to know two things:
which operations have been claimed by somebody who has yet to write their outcome, and which have
been registered by a submission that has yet to return. A `Ledger` is the engine with these two
lists, and every move of a run is a sequence of the few changes of a ledger that are listed here.
-/

namespace DirectoryClient

namespace Task

/-- The operation that a task is going to write the outcome of. -/
def ending? : Task → Option Serial
  | .publish serial _ => some serial
  | _ => none

/-- The operation that a task is going to return, or to give up. -/
def submitting? : Task → Option (MessageId × Serial)
  | .accept id serial _ => some (id, serial)
  | .refuse id serial _ => some (id, serial)
  | _ => none

def ending (tasks : List Task) : List Serial :=
  tasks.filterMap ending?

def submitting (tasks : List Task) : List (MessageId × Serial) :=
  tasks.filterMap submitting?

@[simp] theorem ending_nil : ending [] = [] := rfl

@[simp] theorem submitting_nil : submitting [] = [] := rfl

theorem ending_cons (task : Task) (tasks : List Task) :
    ending (task :: tasks) = task.ending?.toList ++ ending tasks := by
  rw [ending, List.filterMap_cons]
  cases task.ending? <;> rfl

@[simp] theorem ending_append (first second : List Task) :
    ending (first ++ second) = ending first ++ ending second :=
  List.filterMap_append

@[simp] theorem submitting_append (first second : List Task) :
    submitting (first ++ second) = submitting first ++ submitting second :=
  List.filterMap_append

theorem mem_ending_iff {tasks : List Task} {serial : Serial} :
    serial ∈ ending tasks ↔ ∃ response, .publish serial response ∈ tasks := by
  rw [ending, List.mem_filterMap]
  constructor
  · rintro ⟨task, member, own⟩
    cases task with
    | publish other response =>
        cases own
        exact ⟨response, member⟩
    | _ => cases own
  · rintro ⟨response, member⟩
    exact ⟨_, member, rfl⟩

@[simp] theorem ending_ofReaction {ε : Type} (site : Site) (id : MessageId)
    (reaction : Reaction ε) : ending (ofReaction site id reaction) = [] := by
  simp [ending, ofReaction, ending?]

@[simp] theorem submitting_ofReaction {ε : Type} (site : Site) (id : MessageId)
    (reaction : Reaction ε) : submitting (ofReaction site id reaction) = [] := by
  simp [submitting, ofReaction, submitting?]

end Task

/-- An engine in the middle of a call, as far as its invariants go. -/
structure Ledger where
  engine : Engine
  /-- The operations that have been claimed and have no outcome yet. -/
  ending : List Serial
  /-- The operations that are being submitted, with their identifiers. -/
  submitting : List (MessageId × Serial)

def Moment.ledger (moment : Moment) : Ledger :=
  ⟨moment.engine, Task.ending moment.agenda, Task.submitting moment.agenda⟩

theorem Moment.ledger_append (engine : Engine) (first second : List Task) :
    ledger ⟨engine, first ++ second⟩ = ⟨engine, Task.ending first ++ Task.ending second,
      Task.submitting first ++ Task.submitting second⟩ := by
  rw [ledger, Task.ending_append, Task.submitting_append]

/-- An event of which nothing but the trace takes notice. -/
def Event.IsPlain (event : Event) : Prop :=
  event.submitted? = none ∧ event.published? = none

/-- Returns an operation to whoever submitted it, with its timer if it has a deadline. -/
def Engine.accept (engine : Engine) (id : MessageId) (serial : Serial)
    (deadline : Option Duration) : Engine :=
  ((deadline.map (engine.arm id serial)).getD engine).log (.submitted serial)

namespace Ledger

/-- What a call changes, one thing at a time. -/
inductive Change : Ledger → Ledger → Prop where
  | note {engine ending submitting} {event : Event} (plain : event.IsPlain) :
      Change ⟨engine, ending, submitting⟩ ⟨engine.log event, ending, submitting⟩
  | countEntry {engine ending submitting id serial}
      (present : engine.pending.get? id = some serial) :
      Change ⟨engine, ending, submitting⟩ ⟨engine.countEntry serial, ending, submitting⟩
  | countReference {engine ending submitting id serial}
      (present : engine.pending.get? id = some serial) :
      Change ⟨engine, ending, submitting⟩ ⟨engine.countReference serial, ending, submitting⟩
  | takeOut {engine ending submitting id serial taken}
      (found : engine.takeOut id = some (serial, taken)) :
      Change ⟨engine, ending, submitting⟩ ⟨taken, serial :: ending, submitting⟩
  | publish {engine ending submitting serial} (response : Response) :
      Change ⟨engine, serial :: ending, submitting⟩
        ⟨engine.publish serial response, ending, submitting⟩
  | accept {engine ending submitting id serial} (deadline : Option Duration) :
      Change ⟨engine, ending, (id, serial) :: submitting⟩
        ⟨engine.accept id serial deadline, ending, submitting⟩
  | refuse {engine ending submitting id serial} :
      Change ⟨engine, ending, (id, serial) :: submitting⟩
        ⟨engine.withdraw id serial, ending, submitting⟩

/-- What changes between calls and when a call begins, and as time passes. -/
inductive Turn : Ledger → Ledger → Prop where
  | register {engine kind probes id registered}
      (found : engine.register kind probes = (some id, registered)) :
      Turn ⟨engine, [], []⟩ ⟨registered, [], [(id, engine.operations.length)]⟩
  | disarm {engine} (timer : Timer) :
      Turn ⟨engine, [], []⟩ ⟨{ engine with timers := engine.timers.erase timer }, [], []⟩
  | recordEntry {engine} (serial : Serial) :
      Turn ⟨engine, [], []⟩ ⟨engine.countEntry serial, [], []⟩
  | recordReference {engine} (serial : Serial) :
      Turn ⟨engine, [], []⟩ ⟨engine.countReference serial, [], []⟩
  | tend {engine ending submitting} (ids : IdSequence) (holders : List Bool) (now : Duration) :
      Turn ⟨engine, ending, submitting⟩ ⟨{ engine with ids, holders, now }, ending, submitting⟩

def Changes : Ledger → Ledger → Prop :=
  Relation.ReflTransGen Change

end Ledger

end DirectoryClient
