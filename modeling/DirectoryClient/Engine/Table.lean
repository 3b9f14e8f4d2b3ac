import DirectoryClient.Operation.MessageId

namespace DirectoryClient

/-- The place of an operation in the order of registration; unlike a message identifier it is never
used again. -/
abbrev Serial := Nat

/-- `PendingOperations`: which operation an identifier stands for while that operation is pending.
The serial of an operation has the place of a pointer to it, and entries are in the order of
registration. -/
structure PendingTable where
  entries : List (MessageId × Serial) := []
  distinct : (entries.map Prod.fst).Nodup := by exact List.nodup_nil
deriving DecidableEq, Repr

namespace PendingTable

/-- The table without entries. -/
def empty : PendingTable := {}

instance : EmptyCollection PendingTable := ⟨empty⟩

/-- `len`: how many operations are pending. -/
def size (table : PendingTable) : Nat :=
  table.entries.length

def ids (table : PendingTable) : List MessageId :=
  table.entries.map Prod.fst

def serials (table : PendingTable) : List Serial :=
  table.entries.map Prod.snd

/-- `get`: the operation that an identifier stands for. -/
def get? (table : PendingTable) (id : MessageId) : Option Serial :=
  table.entries.lookup id

/-- `contains`: whether an identifier stands for an operation. -/
def contains (table : PendingTable) (id : MessageId) : Bool :=
  (table.get? id).isSome

/-- `insert_if_absent`: enters an operation under its identifier; nothing if the identifier is
taken. -/
def insertIfAbsent (table : PendingTable) (id : MessageId) (serial : Serial) :
    Option PendingTable :=
  if taken : id ∈ table.entries.map Prod.fst then
    none
  else
    some
      { entries := table.entries ++ [(id, serial)]
        distinct := by
          rw [List.map_append, List.nodup_append]
          refine ⟨table.distinct, by simp, ?_⟩
          intro other present new added same
          simp only [List.map_cons, List.map_nil, List.mem_singleton] at added
          exact taken (added ▸ same ▸ present) }

/-- `remove_if_same`: takes an entry out if the identifier still stands for that operation. -/
def removeIfSame (table : PendingTable) (id : MessageId) (serial : Serial) : PendingTable where
  entries := table.entries.filter fun entry => entry ≠ (id, serial)
  distinct := table.distinct.sublist (List.filter_sublist.map Prod.fst)

/-- `drain`: takes out what the identifiers of a walk stand for, one after the other. A walk over
the whole table may come in any order. -/
def drain (table : PendingTable) : List MessageId → List Serial × PendingTable
  | [] => ([], table)
  | id :: rest =>
      match table.get? id with
      | none => table.drain rest
      | some serial =>
          let (serials, left) := (table.removeIfSame id serial).drain rest
          (serial :: serials, left)

theorem size_removeIfSame_le (table : PendingTable) (id : MessageId) (serial : Serial) :
    (table.removeIfSame id serial).size ≤ table.size :=
  List.length_filter_le _ _

theorem mem_of_get? {table : PendingTable} {id : MessageId} {serial : Serial}
    (found : table.get? id = some serial) : (id, serial) ∈ table.entries := by
  rw [get?] at found
  generalize table.entries = entries at found ⊢
  induction entries with
  | nil => cases found
  | cons entry rest ih =>
      rw [List.lookup_cons] at found
      split at found
      · next same =>
          cases found
          rw [eq_of_beq same]
          exact List.mem_cons_self
      · exact List.mem_cons_of_mem _ (ih found)

def total (table : PendingTable) (worth : MessageId → Nat) : Nat :=
  table.entries.foldr (fun entry rest => worth entry.1 + rest) 0

@[simp] theorem total_empty (worth : MessageId → Nat) : total ∅ worth = 0 := rfl

theorem sum_filter_le (entries : List (MessageId × Serial)) (keep : MessageId × Serial → Bool)
    (worth : MessageId → Nat) :
    (entries.filter keep).foldr (fun entry rest => worth entry.1 + rest) 0 ≤
      entries.foldr (fun entry rest => worth entry.1 + rest) 0 := by
  induction entries with
  | nil => exact Nat.le_refl _
  | cons entry rest ih =>
      rw [List.filter_cons]
      split <;> simp only [List.foldr_cons] <;> omega

theorem total_removeIfSame_le (table : PendingTable) (id : MessageId) (serial : Serial)
    (worth : MessageId → Nat) : (table.removeIfSame id serial).total worth ≤ table.total worth :=
  sum_filter_le table.entries _ worth

theorem total_removeIfSame_add_le {table : PendingTable} {id : MessageId} {serial : Serial}
    (found : table.get? id = some serial) (worth : MessageId → Nat) :
    (table.removeIfSame id serial).total worth + worth id ≤ table.total worth := by
  have present := mem_of_get? found
  simp only [total, removeIfSame]
  generalize table.entries = entries at present
  induction entries with
  | nil => cases present
  | cons entry rest ih =>
      rcases List.mem_cons.mp present with rfl | later
      · have others := sum_filter_le rest (fun entry => entry ≠ (id, serial)) worth
        simp only [ne_eq, not_true_eq_false, decide_false, Bool.false_eq_true, not_false_eq_true,
          List.filter_cons_of_neg, List.foldr_cons] at others ⊢
        omega
      · have lower := ih later
        rw [List.filter_cons]
        split <;> simp only [List.foldr_cons] <;> omega

end PendingTable

end DirectoryClient
