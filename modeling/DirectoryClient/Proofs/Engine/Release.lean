import DirectoryClient.Proofs.Engine.Course

namespace DirectoryClient

def Response.released : Response :=
  { code := .localError, diagnostic := some Engine.releaseMessage }

namespace Engine

/-- Nothing is pending on an engine that nobody can reach. -/
def Settled (engine : Engine) : Prop :=
  engine.isUnreachable = true → engine.pendingCount = 0

variable {engine after : Engine} {serial : Serial}

theorem isUnreachable_iff : engine.isUnreachable = true ↔
    true ∉ engine.holders ∧ engine.timers = [] := by
  simp [isUnreachable]

theorem release_of_settled (settled : engine.Settled) : engine.release = engine := by
  rw [release, if_neg]
  intro left
  obtain ⟨unreachable, some⟩ := Bool.and_eq_true_iff.mp left
  exact Nat.ne_of_gt (of_decide_eq_true some) (settled unreachable)

theorem settled_release (engine : Engine) : engine.release.Settled := by
  rw [release]
  split
  · intro unreachable
    change PendingTable.size (engine.failAll _ _).2.pending = 0
    rw [pending_failAll]
    rfl
  · next kept =>
      intro unreachable
      rw [unreachable, Bool.true_and, decide_eq_true_eq] at kept
      exact Nat.eq_zero_of_not_pos kept

theorem true_mem_holders {holder : Holder} (held : engine.isHeld holder = true) :
    true ∈ engine.holders := by
  rw [isHeld, List.getD_eq_getElem?_getD] at held
  cases found : engine.holders[holder]? with
  | none => simp [found] at held
  | some flag =>
      rw [found, Option.getD_some] at held
      exact held ▸ List.mem_of_getElem? found

theorem settled_of_held (held : true ∈ engine.holders) : engine.Settled :=
  fun unreachable => absurd held (isUnreachable_iff.mp unreachable).1

theorem settled_of_mem_timers {timer : Timer} (armed : timer ∈ engine.timers) : engine.Settled :=
  fun unreachable => absurd ((isUnreachable_iff.mp unreachable).2 ▸ armed) List.not_mem_nil

theorem Settled.congr (settled : engine.Settled) (holders : after.holders = engine.holders)
    (timers : after.timers = engine.timers) (pending : after.pending = engine.pending) :
    after.Settled := by
  intro unreachable
  rw [pendingCount, pending]
  apply settled
  rw [isUnreachable_iff] at unreachable ⊢
  exact holders ▸ timers ▸ unreachable

/-- A submission that begins leaves the options, the timers, the references and the time alone. -/
theorem frame_beginSubmit (engine : Engine) (connection : Connection) (kind : OperationKind)
    (request : List UInt8) (timeout : Option Duration) :
    ∃ operations pending ids trace,
      (engine.beginSubmit connection kind request timeout).2.engine =
        { engine with operations, pending, ids, trace } := by
  rw [beginSubmit]
  split
  · next probed exhausted =>
      obtain ⟨ids, rfl⟩ := register_eq_none exhausted
      exact ⟨_, _, _, _, rfl⟩
  · next id registered found =>
      rw [frame_register found]
      exact ⟨_, _, _, _, rfl⟩

theorem holders_beginSubmit (engine : Engine) (connection : Connection) (kind : OperationKind)
    (request : List UInt8) (timeout : Option Duration) :
    (engine.beginSubmit connection kind request timeout).2.engine.holders = engine.holders := by
  obtain ⟨_, _, _, _, same⟩ := engine.frame_beginSubmit connection kind request timeout
  rw [same]

theorem beginRequest_of_unheld (unheld : true ∉ engine.holders) (caller : Caller)
    (callback : Callback) : engine.beginRequest caller callback =
      (.noEngine, ⟨engine, [.answer caller callback.call .noEngine]⟩) := by
  rcases engine.beginRequest_cases caller callback with ⟨held, -⟩ | ⟨-, same⟩
  · exact absurd (true_mem_holders held) unheld
  · exact same

/-! ## What ends with the engine -/

/-- Ending some operations at once gives the response to those that nobody has claimed, and leaves
the others as they are. -/
theorem operation?_failEach (engine : Engine) (response : Response) (serials : List Serial)
    (serial : Serial) : (engine.failEach response serials).2.operation? serial =
      (engine.operation? serial).map fun operation =>
        if serial ∈ serials ∧ operation.stage = .pending then
          operation.resolve response engine.now
        else operation := by
  induction serials generalizing engine with
  | nil => simp [failEach]
  | cons first rest ih =>
      rw [failEach]
      split
      · next lost =>
          rw [ih]
          -- Whoever cannot be claimed is not pending, so it makes no difference that it is listed.
          refine Option.map_congr fun operation found => ?_
          by_cases same : serial = first
          · subst same
            have claimed : operation.stage ≠ .pending := fun pending =>
              absurd (claim_of_pending found pending) (by simp [lost])
            simp [claimed]
          · simp [same]
      · next claimed won =>
          obtain ⟨operation, found, pending, rfl⟩ := claim_eq_some won
          change ((publish _ first response).failEach response rest).2.operation? serial = _
          rw [ih]
          by_cases same : serial = first
          · subst same
            have inside := (List.getElem?_eq_some_iff.mp found).1
            rw [operation?_publish_self, operation?, List.getElem?_set_self inside, found]
            simp [Operation.resolve, Operation.outcomeOf, pending]
          · rw [operation?_publish_of_ne response same, operation?,
              List.getElem?_set_ne (Ne.symm same)]
            simp [same, publish, log]
            rfl

/-- Ending some operations at once writes as many outcomes as it counts, and does not reach the
connection. -/
theorem trace_failEach (engine : Engine) (response : Response) (serials : List Serial) :
    ∃ written : List Serial, written ⊆ serials ∧
      written.length = (engine.failEach response serials).1 ∧
      (engine.failEach response serials).2.trace = engine.trace ++ written.map .published := by
  induction serials generalizing engine with
  | nil => exact ⟨[], List.Subset.refl _, rfl, by simp [failEach]⟩
  | cons first rest ih =>
      rw [failEach]
      split
      · obtain ⟨written, listed, count, trace⟩ := ih engine
        exact ⟨written, List.subset_cons_of_subset first listed, count, trace⟩
      · next claimed won =>
          obtain ⟨operation, found, pending, rfl⟩ := claim_eq_some won
          obtain ⟨written, listed, count, trace⟩ := ih (publish _ first response)
          refine ⟨first :: written, List.cons_subset_cons first listed,
            congrArg Nat.succ count, trace.trans ?_⟩
          rw [trace_publish, List.append_assoc]
          rfl

theorem mem_timers_failEach (engine : Engine) {response : Response} {serials : List Serial}
    {timer : Timer}
    (armed : timer ∈ (engine.failEach response serials).2.timers) : timer ∈ engine.timers := by
  induction serials generalizing engine with
  | nil => exact armed
  | cons first rest ih =>
      rw [failEach] at armed
      split at armed
      · exact ih engine armed
      · next claimed won =>
          obtain ⟨operation, found, pending, rfl⟩ := claim_eq_some won
          exact ((mem_timers_publish response).mp (ih _ armed)).1

theorem mem_timers_release {timer : Timer} (armed : timer ∈ engine.release.timers) :
    timer ∈ engine.timers := by
  rw [release] at armed
  split at armed
  · exact mem_timers_failEach { engine with pending := ∅ } armed
  · exact armed

theorem release_of_mem_timers {timer : Timer} (armed : timer ∈ engine.timers) :
    engine.release = engine :=
  release_of_settled (settled_of_mem_timers armed)

theorem response_of_release {outcome : Outcome} (unresolved : engine.outcome? serial = none)
    (ended : engine.release.outcome? serial = some outcome) : outcome.response = .released := by
  rw [release] at ended
  split at ended
  · change Engine.outcome? (failAll _ _ _).2 serial = _ at ended
    rw [outcome?, failAll, operation?_failEach] at ended
    change ((engine.operation? serial).map _).bind _ = _ at ended
    rw [Option.bind_map, Option.bind_eq_some_iff] at ended
    obtain ⟨operation, found, reported⟩ := ended
    rw [outcome?, found, Option.bind_some] at unresolved
    simp only [Function.comp_apply] at reported
    split at reported
    · cases reported
      rfl
    · exact absurd reported (by simp [unresolved])
  · exact absurd ended (by simp [unresolved])

end Engine

/-- Whether the connection is told that an operation has ended. -/
def Event.tellsConnection : Event → Bool
  | .deregistered _ _ => true
  | .abandoned _ _ => true
  | _ => false

namespace Engine

/-- An engine that is let go writes the outcomes of some operations of the table, and their
number. -/
theorem written_release (engine : Engine) : engine.release.trace = engine.trace ∨
    ∃ written, written ⊆ engine.pending.serials ∧ engine.release.trace =
      engine.trace ++ (written.map .published ++ [.released written.length]) := by
  rw [release]
  split
  · right
    obtain ⟨written, listed, count, trace⟩ := trace_failEach { engine with pending := ∅ }
      { code := .localError, diagnostic := some releaseMessage } engine.pending.serials
    refine ⟨written, listed, ?_⟩
    change (failEach _ _ _).2.trace ++ [.released (failEach _ _ _).1] = _
    rw [trace, count, List.append_assoc]
  · exact .inl rfl

theorem trace_release (engine : Engine) : ∃ events,
    engine.release.trace = engine.trace ++ events ∧
      ∀ event ∈ events, event.tellsConnection = false := by
  rcases engine.written_release with same | ⟨written, -, trace⟩
  · exact ⟨[], by rw [same, List.append_nil], by simp⟩
  · exact ⟨_, trace, by simp [or_imp, forall_and, Event.tellsConnection]⟩

end Engine

end DirectoryClient
