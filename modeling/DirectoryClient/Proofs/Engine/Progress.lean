import DirectoryClient.Proofs.Engine.Course

namespace DirectoryClient

/-- Whether an operation can have become another in the course of a run. -/
structure Operation.Becomes (operation later : Operation) : Prop where
  messageId : later.messageId = operation.messageId
  kind : later.kind = operation.kind
  submittedAt : later.submittedAt = operation.submittedAt
  outcome : ∀ {outcome}, operation.stage = .resolved outcome → later.stage = .resolved outcome

theorem Operation.Becomes.refl (operation : Operation) : operation.Becomes operation :=
  ⟨rfl, rfl, rfl, id⟩

theorem Operation.Becomes.trans {first second third : Operation} (one : first.Becomes second)
    (two : second.Becomes third) : first.Becomes third :=
  ⟨two.messageId.trans one.messageId, two.kind.trans one.kind,
    two.submittedAt.trans one.submittedAt, fun ended => two.outcome (one.outcome ended)⟩

namespace Engine

/-- Whether an engine can have become another in the course of a run. -/
structure Extends (engine after : Engine) : Prop where
  operation : ∀ {serial operation}, engine.operation? serial = some operation →
    ∃ later, after.operation? serial = some later ∧ operation.Becomes later
  trace : engine.trace <+: after.trace

variable {engine middle after : Engine} {serial : Serial}

theorem Extends.trans (one : engine.Extends middle) (two : middle.Extends after) :
    engine.Extends after := by
  refine ⟨?_, one.trace.trans two.trace⟩
  intro serial operation found
  obtain ⟨next, present, first⟩ := one.operation found
  obtain ⟨later, last, second⟩ := two.operation present
  exact ⟨later, last, first.trans second⟩

theorem Extends.of_operation?_eq
    (same : ∀ serial, after.operation? serial = engine.operation? serial)
    (trace : engine.trace <+: after.trace) : engine.Extends after :=
  ⟨fun found => ⟨_, (same _).trans found, .refl _⟩, trace⟩

theorem Extends.refl (engine : Engine) : engine.Extends engine :=
  .of_operation?_eq (fun _ => rfl) (List.prefix_refl _)

theorem Extends.of_one {operation later : Operation}
    (found : engine.operation? serial = some operation)
    (now : after.operation? serial = some later) (becomes : operation.Becomes later)
    (others : ∀ {other}, other ≠ serial → after.operation? other = engine.operation? other)
    (trace : engine.trace <+: after.trace) : engine.Extends after := by
  refine ⟨?_, trace⟩
  intro other before present
  by_cases same : other = serial
  · subst same
    cases found.symm.trans present
    exact ⟨later, now, becomes⟩
  · exact ⟨before, (others same).trans present, .refl before⟩

theorem extends_countEntry (engine : Engine) (serial : Serial) :
    engine.Extends (engine.countEntry serial) := by
  refine ⟨?_, List.prefix_append _ _⟩
  intro other operation found
  rw [operation?_countEntry, found]
  split
  · exact ⟨_, rfl, ⟨rfl, rfl, rfl, id⟩⟩
  · exact ⟨operation, rfl, .refl operation⟩

theorem extends_countReference (engine : Engine) (serial : Serial) :
    engine.Extends (engine.countReference serial) := by
  refine ⟨?_, List.prefix_append _ _⟩
  intro other operation found
  rw [operation?_countReference, found]
  split
  · exact ⟨_, rfl, ⟨rfl, rfl, rfl, id⟩⟩
  · exact ⟨operation, rfl, .refl operation⟩

theorem extends_takeOut {id : MessageId} (found : engine.takeOut id = some (serial, after)) :
    engine.Extends after := by
  obtain ⟨operation, present, pending, claimed⟩ := operation?_takeOut_self found
  have becomes : operation.Becomes { operation with stage := .claimed } :=
    ⟨rfl, rfl, rfl, fun ended => by cases pending.symm.trans ended⟩
  exact .of_one present claimed becomes (operation?_takeOut_of_ne found)
    (trace_takeOut found ▸ List.prefix_refl _)

theorem extends_publish {id : MessageId} (claimed : engine.status? serial = some (id, .claimed))
    (response : Response) : engine.Extends (engine.publish serial response) := by
  obtain ⟨operation, present, -, stage⟩ := status?_eq_some_iff.mp claimed
  have becomes : operation.Becomes (operation.resolve response engine.now) :=
    ⟨rfl, rfl, rfl, fun ended => by cases stage.symm.trans ended⟩
  refine .of_one present ?_ becomes (operation?_publish_of_ne response) (List.prefix_append _ _)
  rw [operation?_publish_self, present, Option.map_some]

theorem extends_register {kind : OperationKind} {probes : Nat} {id : MessageId}
    (registered : engine.register kind probes = (some id, after)) : engine.Extends after := by
  refine ⟨?_, ?_⟩
  · intro other operation found
    have earlier := (List.getElem?_eq_some_iff.mp found).1
    refine ⟨operation, ?_, .refl operation⟩
    rw [operation?_register registered, if_neg (Nat.ne_of_lt earlier), found]
  · have trace : after.trace = engine.trace := by rw [frame_register registered]
    exact trace ▸ List.prefix_refl _

theorem Extends.outcome? {outcome : Outcome} (later : engine.Extends after)
    (ended : engine.outcome? serial = some outcome) : after.outcome? serial = some outcome := by
  obtain ⟨id, status⟩ := outcome?_eq_some_iff.mp ended
  obtain ⟨operation, found, -, stage⟩ := status?_eq_some_iff.mp status
  obtain ⟨next, present, becomes⟩ := later.operation found
  exact outcome?_eq_some_iff.mpr ⟨next.messageId,
    status?_eq_some_iff.mpr ⟨next, present, rfl, becomes.outcome stage⟩⟩

theorem Extends.messageId? {id : MessageId} (later : engine.Extends after)
    (own : engine.messageId? serial = some id) : after.messageId? serial = some id := by
  obtain ⟨operation, found, same⟩ := Option.map_eq_some_iff.mp own
  obtain ⟨next, present, becomes⟩ := later.operation found
  rw [Engine.messageId?, present, Option.map_some, becomes.messageId, same]

end Engine

namespace Ledger

variable {ledger after : Ledger}

theorem Change.extends (change : ledger.Change after) (staged : ledger.Staged) :
    ledger.engine.Extends after.engine := by
  cases change with
  | note plain => exact .of_operation?_eq (fun _ => rfl) (List.prefix_append _ _)
  | countEntry present => exact Engine.extends_countEntry _ _
  | countReference present => exact Engine.extends_countReference _ _
  | takeOut found => exact Engine.extends_takeOut found
  | publish response =>
      obtain ⟨⟨id, claimed⟩, -⟩ := staged.claimed_head
      exact Engine.extends_publish claimed response
  | accept deadline =>
      exact .of_operation?_eq (fun _ => Engine.operation?_accept deadline) (by simp)
  | refuse => exact .of_operation?_eq (fun _ => rfl) (List.prefix_refl _)

theorem Turn.extends (turn : ledger.Turn after) : ledger.engine.Extends after.engine := by
  cases turn with
  | register found => exact Engine.extends_register found
  | disarm timer => exact .of_operation?_eq (fun _ => rfl) (List.prefix_refl _)
  | recordEntry serial => exact Engine.extends_countEntry _ _
  | recordReference serial => exact Engine.extends_countReference _ _
  | tend ids holders now => exact .of_operation?_eq (fun _ => rfl) (List.prefix_refl _)

theorem Coherent.extends (coherent : ledger.Coherent) (changes : ledger.Changes after) :
    ledger.engine.Extends after.engine := by
  induction changes with
  | refl => exact .refl _
  | tail changes change ih => exact ih.trans (change.extends (coherent.changes changes).staged)

/-- An operation that has ended is neither in the table nor being ended. -/
theorem Coherent.not_live {serial : Serial} (coherent : ledger.Coherent)
    (ended : (ledger.engine.outcome? serial).isSome) : ¬ledger.Live serial := by
  obtain ⟨outcome, reported⟩ := Option.isSome_iff_exists.mp ended
  obtain ⟨id, resolved⟩ := Engine.outcome?_eq_some_iff.mp reported
  rintro (⟨key, present⟩ | member)
  · cases resolved.symm.trans (coherent.staged.entry present)
  · obtain ⟨key, claimed⟩ := coherent.staged.claimed.mp member
    cases resolved.symm.trans claimed

/-- A change leaves an operation alone that is not live, and does not bring it back. -/
theorem Change.operation?_of_not_live {serial : Serial} (change : ledger.Change after)
    (idle : ¬ledger.Live serial) :
    after.engine.operation? serial = ledger.engine.operation? serial ∧ ¬after.Live serial := by
  cases change with
  | note plain => exact ⟨rfl, idle⟩
  | @countEntry engine ending submitting id other present =>
      have different : other ≠ serial := fun same => idle (.inl ⟨id, same ▸ present⟩)
      exact ⟨(Engine.operation?_countEntry other).trans (if_neg different), idle⟩
  | @countReference engine ending submitting id other present =>
      have different : other ≠ serial := fun same => idle (.inl ⟨id, same ▸ present⟩)
      exact ⟨(Engine.operation?_countReference other).trans (if_neg different), idle⟩
  | @takeOut engine ending submitting id other taken found =>
      obtain ⟨present, table⟩ := Engine.pending_of_takeOut found
      have different : serial ≠ other := fun same => idle (.inl ⟨id, same ▸ present⟩)
      refine ⟨Engine.operation?_takeOut_of_ne found different, fun live => idle ?_⟩
      rcases live with ⟨key, left⟩ | member
      · exact .inl ⟨key, (PendingTable.get?_removeIfSame.mp (table ▸ left)).1⟩
      · exact .inr ((List.mem_cons.mp member).resolve_left different)
  | @publish engine ending submitting other response =>
      have different : serial ≠ other := fun same =>
        idle (.inr (List.mem_cons.mpr (.inl same)))
      exact ⟨Engine.operation?_publish_of_ne response different,
        fun live => idle (live.imp id (List.mem_cons_of_mem other))⟩
  | accept deadline =>
      refine ⟨Engine.operation?_accept deadline, fun live => idle ?_⟩
      simpa [Live] using live
  | refuse =>
      refine ⟨rfl, fun live => idle ?_⟩
      rcases live with ⟨key, left⟩ | member
      · exact .inl ⟨key, (PendingTable.get?_removeIfSame.mp left).1⟩
      · exact .inr member

theorem Changes.operation?_of_not_live {serial : Serial} (changes : ledger.Changes after)
    (idle : ¬ledger.Live serial) :
    after.engine.operation? serial = ledger.engine.operation? serial ∧ ¬after.Live serial := by
  induction changes with
  | refl => exact ⟨rfl, idle⟩
  | tail _ change ih =>
      obtain ⟨same, still⟩ := change.operation?_of_not_live ih.2
      exact ⟨same.trans ih.1, still⟩

end Ledger

namespace Moment

variable {moment after : Moment}

theorem Moves.extends (move : moment.Moves after) (coherent : moment.ledger.Coherent) :
    moment.engine.Extends after.engine := by
  obtain ⟨middle, rfl | turn, changes⟩ := move.course coherent
  · exact coherent.extends changes
  · exact turn.extends.trans ((coherent.turn turn).extends changes)

theorem Reaches.extends (later : moment.Reaches after) (coherent : moment.ledger.Coherent) :
    moment.engine.Extends after.engine := by
  induction later with
  | refl => exact .refl _
  | tail earlier move ih => exact ih.trans (move.extends (Reaches.coherent earlier coherent))

end Moment

end DirectoryClient
