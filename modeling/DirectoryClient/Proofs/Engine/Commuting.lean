import DirectoryClient.Proofs.Engine.Quiet

namespace DirectoryClient

/-- The identifier that the connection is called for. -/
def Event.contact? : Event → Option MessageId
  | .transmitted id _ => some id
  | .deregistered _ id => some id
  | .abandoned _ id => some id
  | _ => none

/-- The calls on the connection that a call about an operation brings. -/
def Call.contacts (options : Options) (serial : Serial) : Call → List Event
  | .expire id _ =>
      .deregistered serial id :: if options.abandonOnTimeout then [.abandoned serial id] else []
  | _ => []

theorem Call.filter_events {call : Call} {id : MessageId} (about : call.about? = some id)
    (options : Options) (connection : Connection) (serial : Serial) (key : MessageId) :
    (call.events options connection serial).filter (fun event => event.contact? = some key) =
      if id = key then call.contacts options serial else [] := by
  cases call with
  | expire own reason =>
      cases about
      rw [events, Connection.visits, contacts]
      by_cases same : id = key <;> cases options.abandonOnTimeout <;> simp [Event.contact?, same]
  | _ => cases about <;> simp [events, contacts, Event.contact?]

theorem PendingTable.removeIfSame_comm (table : PendingTable) (first second : MessageId)
    (serial other : Serial) :
    (table.removeIfSame first serial).removeIfSame second other =
      (table.removeIfSame second other).removeIfSame first serial :=
  ext_entries (List.filter_comm ..)

namespace Engine

/-- The calls on the connection for one identifier, in their order. -/
def contacts (engine : Engine) (id : MessageId) : List Event :=
  engine.trace.filter fun event => event.contact? = some id

/-- Two engines that nobody can tell apart who looks at one identifier at a time. -/
structure Alike (engine other : Engine) : Prop where
  state : ∃ trace, other = { engine with trace }
  contacts : ∀ id, other.contacts id = engine.contacts id

variable {engine other third : Engine}

theorem Alike.refl (engine : Engine) : engine.Alike engine :=
  ⟨⟨engine.trace, rfl⟩, fun _ => rfl⟩

theorem Alike.symm (alike : engine.Alike other) : other.Alike engine := by
  obtain ⟨⟨trace, rfl⟩, contacts⟩ := alike
  exact ⟨⟨engine.trace, rfl⟩, fun id => (contacts id).symm⟩

theorem Alike.trans (one : engine.Alike other) (two : other.Alike third) : engine.Alike third := by
  obtain ⟨⟨trace, rfl⟩, first⟩ := one
  obtain ⟨⟨later, rfl⟩, second⟩ := two
  exact ⟨⟨later, rfl⟩, fun id => (second id).trans (first id)⟩

theorem contacts_log {event : Event} (silent : event.contact? = none) (id : MessageId) :
    (engine.log event).contacts id = engine.contacts id := by
  simp [contacts, silent]

variable {connection : Connection} {callback : Callback} {id key : MessageId}

theorem fst_of_standing? (about : callback.call.about? = some id) {entry : MessageId × Serial}
    (found : engine.standing? callback = some entry) :
    entry.1 = id ∧ engine.pending.get? id = some entry.2 := by
  rw [standing?] at found
  split at found
  · rw [about, Option.bind_some, Option.map_eq_some_iff] at found
    obtain ⟨serial, present, rfl⟩ := found
    exact ⟨rfl, present⟩
  · cases found

theorem contacts_touch {call : Call} (about : call.about? = some id)
    (found : Option (MessageId × Serial)) (key : MessageId) :
    (engine.touch connection call found).contacts key = engine.contacts key ++
      if id = key then found.elim [] fun entry => call.contacts engine.options entry.2 else [] := by
  cases found with
  | none => simp [touch]
  | some entry =>
      obtain ⟨own, serial⟩ := entry
      simp only [touch, revise, contacts, List.filter_append, Call.filter_events about]
      rfl

theorem options_log (engine : Engine) (event : Event) :
    (engine.log event).options = engine.options := rfl

theorem options_touch (engine : Engine) (connection : Connection) (call : Call)
    (found : Option (MessageId × Serial)) :
    (engine.touch connection call found).options = engine.options := by
  cases found <;> rfl

/-! ## One call on two engines that are alike -/

/-- What a call makes of an engine depends on the trace and on the connection in the trace only. -/
theorem exists_touch (engine : Engine) (trace : List Event) (connection other : Connection)
    (call : Call) (found : Option (MessageId × Serial)) :
    ∃ later, ({ engine with trace }).touch other call found =
      { engine.touch connection call found with trace := later } := by
  cases found <;> exact ⟨_, rfl⟩

theorem Alike.request {agenda : List Task} (alike : engine.Alike other)
    (coherent : (Moment.mk engine agenda).ledger.Coherent)
    (otherwise : (Moment.mk other agenda).ledger.Coherent) {elsewhere : Connection}
    (quiet : connection.IsQuiet) (quietly : elsewhere.IsQuiet)
    (about : callback.call.about? = some id) (caller : Caller) :
    (other.request elsewhere caller callback).1 = (engine.request connection caller callback).1 ∧
      (engine.request connection caller callback).2.Alike
        (other.request elsewhere caller callback).2 := by
  obtain ⟨⟨trace, rfl⟩, contacts⟩ := alike
  have first := request_of_quiet coherent.staged quiet about caller
  have second := request_of_quiet otherwise.staged quietly about caller
  change engine.request connection caller callback = _ at first
  change request { engine with trace } elsewhere caller callback = _ at second
  rw [first, second]
  obtain ⟨later, same⟩ :=
    exists_touch engine trace connection elsewhere callback.call (engine.standing? callback)
  refine ⟨rfl, ⟨later ++ [_], congrArg (log · _) same⟩, fun key => ?_⟩
  rw [contacts_log rfl, contacts_log rfl, contacts_touch about, contacts_touch about, contacts key]
  rfl

/-! ## Two calls in either order -/

theorem get?_revise_of_ne (engine : Engine) (connection : Connection) (call : Call)
    (serial : Serial) (different : key ≠ id) :
    (engine.revise connection call id serial).pending.get? key = engine.pending.get? key := by
  rw [revise]
  split
  · apply Option.ext
    intro found
    rw [PendingTable.get?_removeIfSame]
    simp [different]
  · rfl

theorem standing?_touch_log {first : Callback} {event : Event} (about : first.call.about? = some id)
    (next : callback.call.about? = some key) (different : key ≠ id) :
    ((engine.touch connection first.call (engine.standing? first)).log event).standing? callback =
      engine.standing? callback := by
  cases found : engine.standing? first with
  | none => rfl
  | some entry =>
      obtain ⟨own, serial⟩ := entry
      obtain ⟨rfl, -⟩ := fst_of_standing? about found
      have same := engine.get?_revise_of_ne connection first.call serial different
      rw [standing?, standing?, next, Option.bind_some, Option.bind_some]
      simp only [touch, pending_log, same]
      rfl

theorem verdict_touch_log {first : Callback} {event : Event} (about : first.call.about? = some id)
    (next : callback.call.about? = some key) (different : key ≠ id) :
    ((engine.touch connection first.call (engine.standing? first)).log event).verdict callback =
      engine.verdict callback := by
  rw [verdict, verdict, standing?_touch_log about next different]
  cases engine.standing? first <;> rfl

theorem touch_comm (engine : Engine) (connection elsewhere : Connection) (call next : Call)
    {found left : Option (MessageId × Serial)}
    (different : ∀ entry ∈ found, ∀ later ∈ left, entry.2 ≠ later.2) (event other : Event) :
    ∃ trace, ((engine.touch elsewhere next left).log event).touch connection call found =
      { ((engine.touch connection call found).log other).touch elsewhere next left with trace } := by
  cases found with
  | none => cases left <;> exact ⟨_, rfl⟩
  | some entry =>
      cases left with
      | none => exact ⟨_, rfl⟩
      | some later =>
          have apart : later.2 ≠ entry.2 := (different entry rfl later rfl).symm
          have operations := List.modify_modify_ne (next.revise engine.options engine.now)
            (call.revise engine.options engine.now) engine.operations apart
          have pending := engine.pending.removeIfSame_comm entry.1 later.1 entry.2 later.2
          simp only [touch, revise, log, operations]
          cases call.ends <;> cases next.ends <;> simp [pending, Bool.and_comm]

variable {agenda : List Task} {elsewhere : Connection} {caller otherCaller : Caller}
variable {first second : Callback}

theorem coherent_request (coherent : (Moment.mk engine agenda).ledger.Coherent)
    (connection : Connection) (caller : Caller) (callback : Callback) :
    (Moment.mk (engine.request connection caller callback).2 agenda).ledger.Coherent := by
  have begun := changes_beginRequest agenda coherent caller callback
  have course := Moment.exists_course connection (engine.beginRequest caller callback).2
  exact (coherent.changes begun).changes (course.changes (coherent.changes begun))

/-- A call after another one about another identifier finds what it would have found before. -/
theorem request_request (coherent : (Moment.mk engine agenda).ledger.Coherent)
    (quiet : connection.IsQuiet) (quietly : elsewhere.IsQuiet)
    (about : first.call.about? = some id) (next : second.call.about? = some key)
    (different : key ≠ id) :
    (engine.request connection caller first).2.request elsewhere otherCaller second =
      (engine.verdict second,
        (((engine.touch connection first.call (engine.standing? first)).log
            (.replied caller first.call (engine.verdict first))).touch elsewhere second.call
          (engine.standing? second)).log
            (.replied otherCaller second.call (engine.verdict second))) := by
  have staged : Ledger.Staged ⟨engine, Task.ending agenda, Task.submitting agenda⟩ :=
    coherent.staged
  have begun := request_of_quiet staged quiet about caller
  have later : Ledger.Staged ⟨(engine.request connection caller first).2, Task.ending agenda,
      Task.submitting agenda⟩ := (coherent_request coherent connection caller first).staged
  rw [request_of_quiet later quietly next, begun, standing?_touch_log about next different,
    verdict_touch_log about next different]

/-- Two calls about different identifiers get the same replies in either order, and leave the engine
alike. -/
theorem request_comm (caller otherCaller : Caller)
    (coherent : (Moment.mk engine agenda).ledger.Coherent)
    (quiet : connection.IsQuiet) (quietly : elsewhere.IsQuiet)
    (about : first.call.about? = some id) (next : second.call.about? = some key)
    (different : id ≠ key) :
    let one := engine.request connection caller first
    let two := engine.request elsewhere otherCaller second
    (two.2.request connection caller first).1 = one.1 ∧
      (one.2.request elsewhere otherCaller second).1 = two.1 ∧
      (one.2.request elsewhere otherCaller second).2.Alike
        (two.2.request connection caller first).2 := by
  have staged : Ledger.Staged ⟨engine, Task.ending agenda, Task.submitting agenda⟩ :=
    coherent.staged
  have apart : ∀ entry ∈ engine.standing? first, ∀ later ∈ engine.standing? second,
      entry.2 ≠ later.2 := by
    intro entry found later left same
    have present := (fst_of_standing? about found).2
    have still := (fst_of_standing? next left).2
    exact different (staged.id_eq present (same ▸ still))
  simp only [request_request coherent quiet quietly about next different.symm,
    request_request coherent quietly quiet next about different]
  rw [request_of_quiet staged quiet about, request_of_quiet staged quietly next]
  refine ⟨rfl, rfl, ?_, fun name => ?_⟩
  · obtain ⟨trace, same⟩ := engine.touch_comm connection elsewhere first.call second.call apart
      (.replied otherCaller second.call (engine.verdict second))
      (.replied caller first.call (engine.verdict first))
    exact ⟨trace ++ [_], congrArg (log · _) same⟩
  · -- At most one of the two calls has to do with any one identifier.
    have once : id ≠ name ∨ key ≠ name := by
      by_contra both
      rw [not_or, not_not, not_not] at both
      exact different (both.1.trans both.2.symm)
    rw [contacts_log rfl, contacts_touch about, contacts_log rfl, contacts_touch next,
      contacts_log rfl, contacts_touch next, contacts_log rfl, contacts_touch about, options_log,
      options_log, options_touch, options_touch]
    rcases once with other | other <;> simp [other]

end Engine

end DirectoryClient
