namespace DirectoryClient

structure MessageId where
  value : Int
deriving DecidableEq, Repr

namespace MessageId

/-- The largest integer of 32 bits. -/
def last : Int := 2147483647

end MessageId

/-- `MessageIdAllocator`: hands out the numbers from 1 on and starts over after the last. -/
structure IdSequence where
  /-- The number that is handed out next. -/
  next : Int
deriving DecidableEq, Repr

namespace IdSequence

/-- The sequence that starts at `first`, or at 1 if `first` is below. -/
def startingAt (first : Int) : IdSequence :=
  ⟨max first 1⟩

def successor (value : Int) : Int :=
  if value = MessageId.last then 1 else value + 1

/-- `next_id`: the next number, and the sequence behind it. -/
def take (ids : IdSequence) : MessageId × IdSequence :=
  (⟨ids.next⟩, ⟨successor ids.next⟩)

def takeMany (ids : IdSequence) : Nat → List MessageId × IdSequence
  | 0 => ([], ids)
  | count + 1 =>
      let (id, rest) := ids.take
      let (more, final) := rest.takeMany count
      (id :: more, final)

end IdSequence

end DirectoryClient
