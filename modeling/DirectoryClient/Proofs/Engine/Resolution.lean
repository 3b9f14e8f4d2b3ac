import DirectoryClient.Proofs.Engine.Progress
import DirectoryClient.Proofs.Engine.Tally

namespace DirectoryClient

namespace Engine

variable {engine : Engine} {serial : Serial}

def resolvedCount (engine : Engine) : Nat :=
  engine.operations.countP Operation.isResolved

theorem count_published (engine : Engine) (serial : Serial) :
    engine.trace.count (.published serial) = engine.published.count serial := by
  rw [published, List.count, List.count, List.countP_filterMap]
  refine congrArg (List.countP · _) (funext fun event => ?_)
  cases event <;> simp [Event.published?]

theorem countP_eq_countP_range {α : Type} (items : List α) (holds : α → Bool) :
    items.countP holds =
      (List.range items.length).countP fun place => items[place]?.any holds := by
  induction items with
  | nil => rfl
  | cons item rest ih =>
      rw [List.length_cons, List.range_succ_eq_map, List.countP_cons, List.countP_cons,
        List.countP_map, ih]
      rfl

end Engine

namespace Ledger

variable {ledger : Ledger} {serial : Serial}

theorem Published.length_eq (published : ledger.Published) :
    ledger.engine.published.length = ledger.engine.resolvedCount := by
  have same : ∀ serial, ledger.engine.operations[serial]?.any Operation.isResolved =
      (ledger.engine.outcome? serial).isSome := by
    intro serial
    rw [Engine.outcome?, Engine.operation?]
    cases ledger.engine.operations[serial]? <;> rfl
  rw [Engine.resolvedCount, Engine.countP_eq_countP_range, List.countP_eq_length_filter]
  simp only [same]
  apply List.Perm.length_eq
  rw [List.perm_ext_iff_of_nodup published.distinct (List.nodup_range.filter _)]
  intro serial
  rw [published.mem_iff, List.mem_filter, List.mem_range, iff_and_self]
  intro ended
  obtain ⟨outcome, reported⟩ := Option.isSome_iff_exists.mp ended
  obtain ⟨id, status⟩ := Engine.outcome?_eq_some_iff.mp reported
  exact Engine.lt_length_of_status? status

end Ledger

namespace Moment

variable {moment after : Moment}

theorem Reachable.count_published (reachable : moment.Reachable) (serial : Serial) :
    moment.engine.trace.count (.published serial) =
      (moment.engine.outcome? serial).isSome.toNat := by
  have published := reachable.coherent.published
  have listed : serial ∈ moment.engine.published ↔ (moment.engine.outcome? serial).isSome :=
    published.mem_iff
  rw [Engine.count_published]
  cases ended : (moment.engine.outcome? serial).isSome with
  | true => exact List.count_eq_one_of_mem published.distinct (listed.mpr ended)
  | false =>
      refine List.count_eq_zero_of_not_mem fun member => ?_
      exact absurd (listed.mp member) (by simp [ended])

theorem Reachable.outcome?_of_reaches (reachable : moment.Reachable) (later : moment.Reaches after)
    {serial : Serial} {outcome : Outcome} (ended : moment.engine.outcome? serial = some outcome) :
    after.engine.outcome? serial = some outcome :=
  (later.extends reachable.coherent).outcome? ended

theorem Reachable.resolvedCount_eq (reachable : moment.Reachable) (finished : moment.agenda = []) :
    moment.engine.resolvedCount =
      moment.engine.trace.countP Event.isWonCall + moment.engine.trace.countP Event.isWonFiring +
        (moment.engine.trace.map Event.failedCount).sum +
          (moment.engine.trace.map Event.releasedCount).sum := by
  have balance := reachable.tally
  simp only [written, announced, finished, Task.ending_nil, List.length_nil, List.map_nil,
    List.sum_nil, Nat.add_zero] at balance
  have written : moment.engine.published.length = moment.engine.resolvedCount :=
    reachable.coherent.published.length_eq
  rw [← written, balance, Engine.said, Event.sum_ended]

end Moment

end DirectoryClient
