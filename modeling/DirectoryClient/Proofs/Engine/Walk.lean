import DirectoryClient.Proofs.Engine.Pending
import DirectoryClient.Proofs.Engine.Release

/-!
# Ending everything, in any order

An operation that fails with all others is taken out of the table and then given its outcome. The
table is emptied first, one identifier after the other, and a walk over the identifiers may come
across them in any order. As each of them stands for one operation and each operation is entered
once, none is lost or met twice, and no walk ends up with anything else than another.
-/

namespace DirectoryClient

namespace PendingTable

variable {table : PendingTable} {walk : List MessageId} {id key : MessageId} {serial : Serial}

theorem get?_removeIfSame_of_present (present : table.get? id = some serial) (key : MessageId) :
    (table.removeIfSame id serial).get? key = if key = id then none else table.get? key := by
  apply Option.ext
  intro found
  rw [get?_removeIfSame]
  split
  · next same =>
      subst same
      simp [present, eq_comm]
  · next different => simp [different]

/-- A walk takes out what its identifiers stand for and leaves the rest. -/
theorem get?_drain (key : MessageId) :
    (table.drain walk).2.get? key = if key ∈ walk then none else table.get? key := by
  induction walk generalizing table with
  | nil => simp [drain]
  | cons id rest ih =>
      rw [drain]
      split
      · next absent =>
          rw [ih]
          by_cases same : key = id
          · subst same
            simp [absent]
          · simp [same]
      · next serial present =>
          change ((table.removeIfSame id serial).drain rest).2.get? key = _
          rw [ih, get?_removeIfSame_of_present present]
          by_cases same : key = id <;> simp [same]

/-- A walk that comes across each identifier once finds each operation once. -/
theorem fst_drain (distinct : walk.Nodup) : (table.drain walk).1 = walk.filterMap table.get? := by
  induction walk generalizing table with
  | nil => rfl
  | cons id rest ih =>
      obtain ⟨once, others⟩ := List.nodup_cons.mp distinct
      rw [drain]
      split
      · next absent => rw [ih others, List.filterMap_cons_none absent]
      · next serial present =>
          change serial :: ((table.removeIfSame id serial).drain rest).1 = _
          rw [ih others, List.filterMap_cons_some present]
          refine congrArg (serial :: ·) (List.filterMap_congr fun key member => ?_)
          rw [get?_removeIfSame_of_present present, if_neg]
          rintro rfl
          exact once member

theorem filterMap_get?_ids (table : PendingTable) :
    table.ids.filterMap table.get? = table.serials := by
  rw [ids, List.filterMap_map, serials, ← List.filterMap_eq_map]
  exact List.filterMap_congr fun entry member => get?_eq_some_iff.mpr member

theorem eq_empty_of_get? (absent : ∀ key, table.get? key = none) : table = ∅ := by
  apply ext_entries
  refine List.eq_nil_iff_forall_not_mem.mpr fun entry member => ?_
  cases (absent entry.1).symm.trans (get?_eq_some_iff.mpr member)

/-- However a walk orders the identifiers, it finds every operation of the table and empties it. -/
theorem drain_of_perm (order : walk.Perm table.ids) :
    (table.drain walk).1.Perm table.serials ∧ (table.drain walk).2 = ∅ := by
  constructor
  · rw [fst_drain (order.nodup_iff.mpr table.distinct), ← table.filterMap_get?_ids]
    exact order.filterMap _
  · refine eq_empty_of_get? fun key => ?_
    rw [get?_drain]
    split
    · rfl
    · next unmet =>
        cases found : table.get? key with
        | none => rfl
        | some serial =>
            exact absurd (order.mem_iff.mpr (List.mem_map_of_mem (mem_of_get? found))) unmet

end PendingTable

namespace Engine

variable {engine : Engine} {serials others : List Serial} {response : Response}

/-- Some operations are given the same outcome, and nothing else happens to any operation. -/
def resolveEach (engine : Engine) (response : Response) (serials : List Serial) : Engine :=
  { engine with
    operations := engine.operations.mapIdx fun serial operation =>
      if serial ∈ serials then operation.resolve response engine.now else operation
    timers := engine.timers.filter fun timer => timer.operation ∉ serials
    trace := engine.trace ++ serials.map .published }

/-- Operations that are pending, each listed once. -/
structure Waiting (engine : Engine) (serials : List Serial) : Prop where
  pending : ∀ serial ∈ serials, ∃ operation,
    engine.operation? serial = some operation ∧ operation.stage = .pending
  distinct : serials.Nodup

theorem resolveEach_nil (engine : Engine) (response : Response) :
    engine.resolveEach response [] = engine := by
  have same : engine.operations.mapIdx (fun _ operation => operation) = engine.operations :=
    List.ext_getElem? fun place => by simp
  simp [resolveEach, same]

/-- Whoever is ended first of several is ended as if it were ended with the others. -/
theorem resolveEach_publish {first : Serial} {operation : Operation}
    (found : engine.operation? first = some operation) :
    (publish { engine with
        operations := engine.operations.set first { operation with stage := .claimed } }
      first response).resolveEach response serials =
    engine.resolveEach response (first :: serials) := by
  have once : (engine.operations.set first { operation with stage := .claimed }).modify first
      (fun ended => ended.resolve response engine.now) =
        engine.operations.modify first fun ended => ended.resolve response engine.now :=
    modify_set found rfl
  have operations : (engine.operations.modify first fun ended =>
        ended.resolve response engine.now).mapIdx
        (fun serial ended => if serial ∈ serials then ended.resolve response engine.now else ended) =
      engine.operations.mapIdx fun serial ended =>
        if serial ∈ first :: serials then ended.resolve response engine.now else ended := by
    refine List.ext_getElem? fun place => ?_
    rw [operation?] at found
    simp only [List.getElem?_mapIdx, List.getElem?_modify]
    by_cases same : first = place
    · subst same
      simp [found, Operation.resolve, Operation.outcomeOf]
    · simp [same, Ne.symm same]
  simp only [resolveEach, publish, log, once, operations, List.filter_filter, List.map_cons,
    List.append_assoc, List.singleton_append, List.mem_cons, not_or, Bool.decide_and, Bool.and_comm]

theorem failEach_of_waiting (waiting : engine.Waiting serials) (response : Response) :
    engine.failEach response serials = (serials.length, engine.resolveEach response serials) := by
  induction serials generalizing engine with
  | nil => rw [failEach, resolveEach_nil, List.length_nil]
  | cons first rest ih =>
      obtain ⟨once, others⟩ := List.nodup_cons.mp waiting.distinct
      obtain ⟨operation, found, pending⟩ := waiting.pending first List.mem_cons_self
      have left : (publish { engine with
          operations := engine.operations.set first { operation with stage := .claimed } }
            first response).Waiting rest := by
        refine ⟨fun serial member => ?_, others⟩
        have different : serial ≠ first := fun same => once (same ▸ member)
        rw [operation?_publish_of_ne response different, operation?,
          List.getElem?_set_ne different.symm]
        exact waiting.pending serial (List.mem_cons_of_mem first member)
      rw [failEach, claim_of_pending found pending]
      dsimp only
      rw [ih left, resolveEach_publish found, List.length_cons]

/-- Ending everything is a walk over the table from one end to the other. -/
theorem failAll_eq_failAlong (engine : Engine) (code : ResultCode) (message : String) :
    engine.failAll code message =
      engine.failAlong engine.pending.ids { code, diagnostic := some message } := by
  have emptied := (PendingTable.drain_of_perm (.refl engine.pending.ids)).2
  have met : (engine.pending.drain engine.pending.ids).1 = engine.pending.serials :=
    (PendingTable.fst_drain engine.pending.distinct).trans engine.pending.filterMap_get?_ids
  rw [failAll, failAlong, met, emptied]

theorem operation?_resolveEach (serial : Serial) :
    (engine.resolveEach response serials).operation? serial =
      (engine.operation? serial).map fun operation =>
        if serial ∈ serials then operation.resolve response engine.now else operation := by
  simp [operation?, resolveEach]

/-- In which order operations are ended at once shows in the trace only. -/
theorem resolveEach_of_perm (order : others.Perm serials) :
    engine.resolveEach response others = { engine.resolveEach response serials with
      trace := engine.trace ++ others.map .published } := by
  simp [resolveEach, order.mem_iff]

theorem waiting_of_staged {ending : List Serial} {submitting : List (MessageId × Serial)}
    (staged : Ledger.Staged ⟨engine, ending, submitting⟩)
    (order : others.Perm engine.pending.serials) (left : PendingTable) :
    Waiting { engine with pending := left } others where
  pending := by
    intro serial member
    obtain ⟨id, present⟩ := PendingTable.mem_serials_iff.mp (order.mem_iff.mp member)
    obtain ⟨operation, found, -, pending⟩ := status?_eq_some_iff.mp (staged.entry present)
    exact ⟨operation, found, pending⟩
  distinct := order.nodup_iff.mpr staged.nodup_serials

/-- However a walk orders the identifiers of the table, it ends all that is pending. -/
theorem failAlong_of_perm {ending : List Serial} {submitting : List (MessageId × Serial)}
    {walk : List MessageId} (staged : Ledger.Staged ⟨engine, ending, submitting⟩)
    (order : walk.Perm engine.pending.ids) (response : Response) :
    (walk.filterMap engine.pending.get?).Perm engine.pending.serials ∧
      engine.failAlong walk response = (engine.pendingCount,
        resolveEach { engine with pending := ∅ } response
          (walk.filterMap engine.pending.get?)) := by
  obtain ⟨met, emptied⟩ := PendingTable.drain_of_perm order
  rw [PendingTable.fst_drain (order.nodup_iff.mpr engine.pending.distinct)] at met
  have count : (walk.filterMap engine.pending.get?).length = engine.pendingCount :=
    met.length_eq.trans (List.length_map Prod.snd)
  refine ⟨met, ?_⟩
  rw [failAlong, PendingTable.fst_drain (order.nodup_iff.mpr engine.pending.distinct),
    failEach_of_waiting (waiting_of_staged staged met _), count, emptied]

theorem failAll_of_staged {ending : List Serial} {submitting : List (MessageId × Serial)}
    (staged : Ledger.Staged ⟨engine, ending, submitting⟩) (code : ResultCode) (message : String) :
    engine.failAll code message = (engine.pendingCount,
      resolveEach { engine with pending := ∅ } { code, diagnostic := some message }
        engine.pending.serials) := by
  rw [failAll_eq_failAlong, (failAlong_of_perm staged (.refl _) _).2,
    PendingTable.filterMap_get?_ids]

end Engine

end DirectoryClient
