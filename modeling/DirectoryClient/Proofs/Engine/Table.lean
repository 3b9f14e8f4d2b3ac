import DirectoryClient.Engine.Table
import Mathlib.Data.List.Nodup

namespace DirectoryClient.PendingTable

theorem ext_entries {first second : PendingTable} (same : first.entries = second.entries) :
    first = second := by
  cases first
  cases second
  cases same
  rfl

theorem get?_eq_some_iff {table : PendingTable} {id : MessageId} {serial : Serial} :
    table.get? id = some serial ↔ (id, serial) ∈ table.entries := by
  refine ⟨mem_of_get?, fun member => ?_⟩
  obtain ⟨entries, distinct⟩ := table
  simp only [get?] at member ⊢
  induction entries with
  | nil => cases member
  | cons entry rest ih =>
      obtain ⟨first, other⟩ := entry
      simp only [List.map_cons, List.nodup_cons] at distinct
      rcases List.mem_cons.mp member with same | later
      · cases same
        simp
      · have different : id ≠ first := by
          intro same
          exact distinct.1 (same ▸ List.mem_map_of_mem later)
        have unequal : (id == first) = false := beq_false_of_ne different
        simp only [List.lookup_cons, unequal]
        exact ih distinct.2 later

theorem get?_removeIfSame {table : PendingTable} {id other : MessageId} {serial found : Serial} :
    (table.removeIfSame id serial).get? other = some found ↔
      table.get? other = some found ∧ (other = id → found ≠ serial) := by
  rw [get?_eq_some_iff, get?_eq_some_iff, removeIfSame, List.mem_filter]
  simp [Decidable.imp_iff_not_or]

theorem entries_removeIfSame_head {table : PendingTable} {id : MessageId} {serial : Serial}
    {rest : List (MessageId × Serial)} (entries : table.entries = (id, serial) :: rest) :
    (table.removeIfSame id serial).entries = rest := by
  have distinct := table.distinct
  rw [entries, List.map_cons, List.nodup_cons] at distinct
  change table.entries.filter _ = rest
  rw [entries, List.filter_cons_of_neg (by simp), List.filter_eq_self]
  intro entry member
  refine decide_eq_true fun same => distinct.1 ?_
  rw [← same]
  exact List.mem_map_of_mem member

theorem insertIfAbsent_eq_some {table after : PendingTable} {id : MessageId} {serial : Serial}
    (inserted : table.insertIfAbsent id serial = some after) :
    table.get? id = none ∧ after.entries = table.entries ++ [(id, serial)] := by
  rw [insertIfAbsent] at inserted
  split at inserted
  · cases inserted
  · next free =>
      cases inserted
      refine ⟨?_, rfl⟩
      cases found : table.get? id with
      | none => rfl
      | some other => exact absurd (List.mem_map_of_mem (mem_of_get? found)) free

theorem get?_insertIfAbsent {table after : PendingTable} {id other : MessageId}
    {serial found : Serial} (inserted : table.insertIfAbsent id serial = some after) :
    after.get? other = some found ↔
      table.get? other = some found ∨ (other = id ∧ found = serial) := by
  rw [get?_eq_some_iff, get?_eq_some_iff, (insertIfAbsent_eq_some inserted).2, List.mem_append]
  simp

/-- Taking a new entry out again gives the table as it was. -/
theorem removeIfSame_insertIfAbsent {table after : PendingTable} {id : MessageId} {serial : Serial}
    (inserted : table.insertIfAbsent id serial = some after) :
    after.removeIfSame id serial = table := by
  obtain ⟨free, entries⟩ := insertIfAbsent_eq_some inserted
  have others : ∀ entry ∈ table.entries, decide (entry ≠ (id, serial)) = true := by
    intro entry member
    refine decide_eq_true fun same => ?_
    rw [get?_eq_some_iff.mpr (same ▸ member)] at free
    cases free
  apply ext_entries
  change after.entries.filter (fun entry => decide (entry ≠ (id, serial))) = table.entries
  rw [entries, List.filter_append, List.filter_eq_self.mpr others]
  simp

theorem contains_iff {table : PendingTable} {id : MessageId} :
    table.contains id = true ↔ id ∈ table.entries.map Prod.fst := by
  rw [contains, Option.isSome_iff_exists, List.mem_map]
  constructor
  · rintro ⟨serial, found⟩
    exact ⟨(id, serial), mem_of_get? found, rfl⟩
  · rintro ⟨⟨key, serial⟩, member, rfl⟩
    exact ⟨serial, get?_eq_some_iff.mpr member⟩

theorem contains_eq_false_iff {table : PendingTable} {id : MessageId} :
    table.contains id = false ↔ table.get? id = none := by
  rw [contains, Option.isSome_eq_false_iff, Option.isNone_iff_eq_none]

theorem insertIfAbsent_of_contains {table : PendingTable} {id : MessageId}
    (taken : table.contains id = true) (serial : Serial) :
    table.insertIfAbsent id serial = none := by
  rw [insertIfAbsent, dif_pos (contains_iff.mp taken)]

theorem exists_insertIfAbsent {table : PendingTable} {id : MessageId}
    (free : table.contains id = false) (serial : Serial) :
    ∃ after, table.insertIfAbsent id serial = some after := by
  have absent : id ∉ table.entries.map Prod.fst := by
    intro member
    simp [contains_iff.mpr member] at free
  exact ⟨_, dif_neg absent⟩

theorem mem_serials_iff {table : PendingTable} {serial : Serial} :
    serial ∈ table.serials ↔ ∃ id, table.get? id = some serial := by
  simp [serials, get?_eq_some_iff]

end DirectoryClient.PendingTable
