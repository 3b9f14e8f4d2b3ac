import DirectoryClient.Proofs.Engine.Expiry
import Mathlib.Data.List.Dedup

namespace DirectoryClient

namespace Ledger

open PendingTable

variable {ledger : Ledger} {serial : Serial}

theorem Staged.nodup_serials (staged : ledger.Staged) : ledger.engine.pending.serials.Nodup := by
  refine List.Nodup.map_on ?_ (List.Nodup.of_map Prod.fst ledger.engine.pending.distinct)
  rintro ⟨first, serial⟩ one ⟨second, other⟩ two same
  cases same
  rw [staged.id_eq (get?_eq_some_iff.mpr one) (get?_eq_some_iff.mpr two)]

/-- A known operation is in the table under its identifier, or it is being ended, or it has
ended. -/
theorem Coherent.place (coherent : ledger.Coherent) (known : serial ∈ ledger.known) :
    ∃ operation, ledger.engine.operation? serial = some operation ∧
      (ledger.engine.pending.get? operation.messageId = some serial ↔
        operation.stage = .pending) ∧
      (serial ∈ ledger.ending ↔ operation.stage = .claimed) := by
  obtain ⟨id, stage, stands, place⟩ := coherent.known.present known
  obtain ⟨operation, found, rfl, rfl⟩ := Engine.status?_eq_some_iff.mp stands
  refine ⟨operation, found, ⟨fun present => ?_, place⟩, ?_⟩
  · have same := stands.symm.trans (coherent.staged.entry present)
    rw [Option.some.injEq, Prod.mk.injEq] at same
    exact same.2
  · rw [coherent.staged.claimed]
    refine ⟨fun ⟨key, claimed⟩ => ?_, fun claimed => ⟨operation.messageId, claimed ▸ stands⟩⟩
    have same := stands.symm.trans claimed
    rw [Option.some.injEq, Prod.mk.injEq] at same
    exact same.2

theorem Coherent.mem_serials_iff (coherent : ledger.Coherent) (noEnding : ledger.ending = [])
    (noSubmitting : ledger.submitting = []) :
    serial ∈ ledger.engine.pending.serials ↔
      serial ∈ ledger.engine.submitted ∧ ledger.engine.outcome? serial = none := by
  have known : ledger.known = ledger.engine.submitted := by
    rw [Ledger.known, noSubmitting]
    exact List.append_nil _
  rw [PendingTable.mem_serials_iff]
  constructor
  · rintro ⟨id, present⟩
    obtain ⟨operation, found, own, pending⟩ :=
      Engine.status?_eq_some_iff.mp (coherent.staged.entry present)
    refine ⟨known ▸ coherent.known.entry present, ?_⟩
    rw [Engine.outcome?, found, Option.bind_some, Operation.outcome?, pending]
  · rintro ⟨returned, unresolved⟩
    obtain ⟨operation, found, inTable, beingEnded⟩ := coherent.place (known ▸ returned)
    rw [Engine.outcome?, found, Option.bind_some] at unresolved
    refine ⟨operation.messageId, inTable.mpr ?_⟩
    rw [noEnding] at beingEnded
    cases stage : operation.stage with
    | pending => rfl
    | claimed => cases beingEnded.mpr stage
    | resolved outcome => simp [Operation.outcome?, stage] at unresolved

theorem Coherent.pendingCount_eq (coherent : ledger.Coherent) (noEnding : ledger.ending = [])
    (noSubmitting : ledger.submitting = []) :
    ledger.engine.pendingCount =
      ledger.engine.submitted.countP fun serial => (ledger.engine.outcome? serial).isNone := by
  have distinct : ledger.engine.submitted.Nodup :=
    (List.nodup_append.mp coherent.known.distinct).1
  rw [List.countP_eq_length_filter]
  refine (List.length_map Prod.snd).symm.trans (List.Perm.length_eq ?_)
  change List.Perm ledger.engine.pending.serials _
  rw [List.perm_ext_iff_of_nodup coherent.staged.nodup_serials (distinct.filter _)]
  intro serial
  rw [coherent.mem_serials_iff noEnding noSubmitting, List.mem_filter, Option.isNone_iff_eq_none]

end Ledger

namespace Moment

variable {moment : Moment} {serial : Serial}

/-- The outcome of an operation is going to be written by an expiry that has yet to be answered. -/
def Expiring (moment : Moment) (serial : Serial) : Prop :=
  (∃ response, .publish serial response ∈ moment.agenda) ∧
    ∃ id caller reason, moment.engine.messageId? serial = some id ∧
      .answer caller (.expire id reason) (.flag true) ∈ moment.agenda

theorem Reachable.expiring_iff (reachable : moment.Reachable) :
    moment.Expiring serial ↔ serial ∈ Task.ending moment.agenda := by
  rw [Expiring, Task.mem_ending_iff]
  refine ⟨And.left, fun listed => ⟨listed, ?_⟩⟩
  exact reachable.answering.of_mem (Task.mem_ending_iff.mpr listed)

theorem Reachable.entry (reachable : moment.Reachable) {id : MessageId}
    (present : moment.engine.pending.get? id = some serial) :
    ∃ operation, moment.engine.operation? serial = some operation ∧ operation.messageId = id ∧
      operation.stage = .pending ∧ operation.outcome? = none := by
  obtain ⟨operation, found, own, pending⟩ :=
    Engine.status?_eq_some_iff.mp (reachable.coherent.staged.entry present)
  exact ⟨operation, found, own, pending, by rw [Operation.outcome?, pending]⟩

theorem Reachable.present_iff (reachable : moment.Reachable) (finished : moment.agenda = [])
    (returned : serial ∈ moment.engine.submitted) :
    ∃ operation, moment.engine.operation? serial = some operation ∧
      (moment.engine.pending.get? operation.messageId = some serial ↔
        operation.outcome? = none) := by
  obtain ⟨operation, found, inTable, beingEnded⟩ :=
    reachable.coherent.place (List.mem_append_left _ returned)
  refine ⟨operation, found, inTable.trans ?_⟩
  rw [Moment.ledger, finished] at beingEnded
  cases stage : operation.stage with
  | pending => simp [Operation.outcome?, stage]
  | claimed => cases beingEnded.mpr stage
  | resolved outcome => simp [Operation.outcome?, stage]

/-- Whatever is neither in the table nor resolved has an expiry in progress. -/
theorem Reachable.missing_iff (reachable : moment.Reachable)
    (known : serial ∈ moment.engine.submitted ∨
      ∃ id, (id, serial) ∈ Task.submitting moment.agenda) :
    ∃ operation, moment.engine.operation? serial = some operation ∧
      ((moment.engine.pending.get? operation.messageId ≠ some serial ∧
        operation.outcome? = none) ↔ moment.Expiring serial) := by
  have listed : serial ∈ moment.ledger.known := by
    refine List.mem_append.mpr (known.imp_right fun ⟨id, member⟩ => ?_)
    exact List.mem_map.mpr ⟨(id, serial), member, rfl⟩
  obtain ⟨operation, found, inTable, beingEnded⟩ := reachable.coherent.place listed
  refine ⟨operation, found, ?_⟩
  change moment.engine.pending.get? operation.messageId = some serial ↔ _ at inTable
  change serial ∈ Task.ending moment.agenda ↔ _ at beingEnded
  rw [reachable.expiring_iff, beingEnded, ne_eq, inTable]
  cases stage : operation.stage <;> simp [Operation.outcome?, stage]

end Moment

end DirectoryClient
