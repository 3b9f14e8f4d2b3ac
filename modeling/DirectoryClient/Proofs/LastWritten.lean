import Mathlib.Data.List.Induction

namespace DirectoryClient

variable {α β σ : Type} {written : α → Option β} {items : List α}

/-- What the last of the items that write anything has written. -/
def lastWritten? (written : α → Option β) (items : List α) : Option β :=
  items.reverse.findSome? written

theorem lastWritten?_append_singleton (item : α) :
    lastWritten? written (items ++ [item]) = (written item).or (lastWritten? written items) := by
  rw [lastWritten?, List.reverse_append, List.findSome?_append, List.reverse_singleton,
    List.findSome?_singleton]
  rfl

theorem lastWritten?_eq_none_iff :
    lastWritten? written items = none ↔ ∀ item ∈ items, written item = none := by
  simp only [lastWritten?, List.findSome?_eq_none_iff, List.mem_reverse]

theorem lastWritten?_map {γ : Type} (read : β → γ) :
    lastWritten? (fun item => (written item).map read) items =
      (lastWritten? written items).map read :=
  (List.map_findSome? ..).symm

/-- Of steps that each write where one looks, or leave it alone, the last that writes counts. -/
theorem foldl_shows_last (shown : σ → β) {step : σ → α → σ}
    (each : ∀ state item, shown (step state item) = (written item).getD (shown state))
    (start : σ) (items : List α) :
    shown (items.foldl step start) = (lastWritten? written items).getD (shown start) := by
  induction items using List.reverseRecOn with
  | nil => rfl
  | append_singleton items item ih =>
      rw [List.foldl_append, List.foldl_cons, List.foldl_nil, each, ih,
        lastWritten?_append_singleton]
      cases written item with
      | none => rw [Option.none_or, Option.getD_none]
      | some value => rw [Option.some_or, Option.getD_some, Option.getD_some]

end DirectoryClient
