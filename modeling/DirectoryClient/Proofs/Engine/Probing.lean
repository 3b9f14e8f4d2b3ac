import DirectoryClient.Proofs.Engine.Frame
import DirectoryClient.Proofs.Operation.MessageId

namespace DirectoryClient

namespace Engine

variable {engine : Engine} {probes place : Nat}

theorem register_of_free (inRange : engine.ids.InRange) (kind : OperationKind)
    (within : place < probes)
    (taken : ∀ earlier < place, engine.isPending (engine.ids.candidate earlier) = true)
    (free : engine.isPending (engine.ids.candidate place) = false) :
    ∃ pending, pending.entries =
        engine.pending.entries ++ [(engine.ids.candidate place, engine.operations.length)] ∧
      engine.register kind probes = (some (engine.ids.candidate place), { engine with
        ids := engine.ids.skip (place + 1)
        pending
        operations := engine.operations ++
          [{ messageId := engine.ids.candidate place, kind, submittedAt := engine.now }] }) := by
  induction probes generalizing engine place with
  | zero => omega
  | succ probes ih =>
      cases place with
      | zero =>
          obtain ⟨pending, inserted⟩ :=
            PendingTable.exists_insertIfAbsent free engine.operations.length
          refine ⟨pending, (PendingTable.insertIfAbsent_eq_some inserted).2, ?_⟩
          simp only [register, IdSequence.take_eq inRange, inserted]
      | succ place =>
          have first := PendingTable.insertIfAbsent_of_contains (taken 0 (by omega))
            engine.operations.length
          -- The rest of the search is that of an engine whose sequence stands one place further.
          have shifted : ∀ further,
              (engine.ids.skip 1).candidate further = engine.ids.candidate (further + 1) := by
            intro further
            rw [IdSequence.candidate_skip, Nat.add_comm]
          have later := @ih { engine with ids := engine.ids.skip 1 } place
            (engine.ids.inRange_skip 1) (by omega)
            (fun earlier before => (congrArg engine.isPending (shifted earlier)).trans
              (taken (earlier + 1) (by omega)))
            ((congrArg engine.isPending (shifted place)).trans free)
          simp only [shifted, IdSequence.skip_skip] at later
          simp only [register, IdSequence.take_eq inRange, first]
          rw [Nat.add_comm (place + 1) 1]
          exact later

theorem register_of_taken (inRange : engine.ids.InRange) (kind : OperationKind)
    (taken : ∀ place < probes, engine.isPending (engine.ids.candidate place) = true) :
    engine.register kind probes = (none, { engine with ids := engine.ids.skip probes }) := by
  induction probes generalizing engine with
  | zero => rw [register, IdSequence.skip_zero inRange]
  | succ probes ih =>
      have first := PendingTable.insertIfAbsent_of_contains (taken 0 (by omega))
        engine.operations.length
      have later := @ih { engine with ids := engine.ids.skip 1 } (engine.ids.inRange_skip 1) (by
        intro place before
        have next := taken (place + 1) (by omega)
        rwa [Nat.add_comm, ← IdSequence.candidate_skip] at next)
      rw [IdSequence.skip_skip, Nat.add_comm] at later
      simp only [register, IdSequence.take_eq inRange, first]
      exact later

end Engine

end DirectoryClient
