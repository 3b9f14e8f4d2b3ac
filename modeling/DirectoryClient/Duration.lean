namespace DirectoryClient

/-- A span of time in whole nanoseconds. Points in time are spans since a common start. -/
structure Duration where
  nanoseconds : Nat
deriving DecidableEq, Repr

namespace Duration

instance : Inhabited Duration := ⟨⟨0⟩⟩

instance : LE Duration where
  le first second := first.nanoseconds ≤ second.nanoseconds

instance : LT Duration where
  lt first second := first.nanoseconds < second.nanoseconds

instance (first second : Duration) : Decidable (first ≤ second) :=
  inferInstanceAs (Decidable (first.nanoseconds ≤ second.nanoseconds))

instance (first second : Duration) : Decidable (first < second) :=
  inferInstanceAs (Decidable (first.nanoseconds < second.nanoseconds))

instance : Max Duration := maxOfLe

instance : Add Duration where
  add first second := ⟨first.nanoseconds + second.nanoseconds⟩

/-- Stops at zero. -/
instance : Sub Duration where
  sub first second := ⟨first.nanoseconds - second.nanoseconds⟩

/-- No time at all. -/
def zero : Duration := ⟨0⟩

def ofSeconds (seconds : Nat) (nanoseconds : Nat) : Duration :=
  ⟨seconds * 1000000000 + nanoseconds⟩

def ofMilliseconds (milliseconds : Nat) : Duration :=
  ⟨milliseconds * 1000000⟩

def toMilliseconds (span : Duration) : Nat :=
  span.nanoseconds / 1000000

def longest : Duration :=
  ofSeconds (UInt64.size - 1) 999999999

end Duration

end DirectoryClient
