import DirectoryClient.Tlv.Integer
import Mathlib.Algebra.Group.Nat.Defs

/-!
# The codec on a machine

`Length` and `Element` take lists apart and count without a limit. A machine works in place: it has
positions in a row of bytes, and numbers of 64 bits. Here the codec is written that way, and each
step that a machine does only within limits is checked. A breach is a fault, which is something else
than bytes that are refused. What is said about machine words is proved of these definitions, which
agree with `Length` and `Element`.
-/

namespace DirectoryClient.Tlv.InPlace

inductive Fault where
  /-- A sum has more than 64 bits. -/
  | overflow
  /-- A difference is below zero. -/
  | underflow
  /-- A shift moves bits out of the word. -/
  | lostBits
  /-- A place is not within the bytes. -/
  | outOfBounds
  /-- A loop has had all its turns and is not done. -/
  | endless
deriving DecidableEq, Repr

/-- Why there is no result. -/
inductive Stop where
  | fault (fault : Fault)
  /-- The bytes are not what they should be, as the reader has to expect. -/
  | refused (reason : DecodeError)
deriving DecidableEq, Repr

def refuse {α : Type} (reason : DecodeError) : Except Stop α :=
  .error (.refused reason)

def add (left right : Nat) : Except Stop Nat :=
  if left + right < 2 ^ 64 then .ok (left + right) else .error (.fault .overflow)

def sub (left right : Nat) : Except Stop Nat :=
  if right ≤ left then .ok (left - right) else .error (.fault .underflow)

/-- Moves a number up by a byte and puts the byte into the place that this leaves. -/
def shiftIn (high : Nat) (byte : UInt8) : Except Stop Nat :=
  if high <<< 8 < 2 ^ 64 then .ok (high <<< 8 ||| byte.toNat) else .error (.fault .lostBits)

/-- The bytes from one place up to another, if both are within the bytes. -/
def slice? (bytes : List UInt8) (start stop : Nat) : Option (List UInt8) :=
  if start ≤ stop ∧ stop ≤ bytes.length then some ((bytes.take stop).drop start) else none

def slice (bytes : List UInt8) (start stop : Nat) : Except Stop (List UInt8) :=
  match slice? bytes start stop with
  | some part => .ok part
  | none => .error (.fault .outOfBounds)

def byteAt (bytes : List UInt8) (place : Nat) : Except Stop UInt8 :=
  match bytes[place]? with
  | some byte => .ok byte
  | none => .error (.fault .outOfBounds)

/-- The lowest bytes of a number, the most significant first. -/
def lowBytes : Nat → Nat → List UInt8
  | 0, _ => []
  | size + 1, number => lowBytes size (number / 256) ++ [UInt8.ofNat number]

/-! ## Length headers -/

/-- How many bytes the bits of a word take that are behind its leading zeros. -/
def significantBytes (length : Nat) : Except Stop Nat := do
  let bits ← sub 64 (BitVec.ofNat 64 length).clz.toNat
  return (bits + 7) / 8

def encodeLength (length : Nat) : Except Stop (List UInt8) :=
  if length < 0x80 then
    return [UInt8.ofNat length]
  else do
    let count ← significantBytes length
    let digits ← slice (lowBytes 8 length) (← sub 8 count) 8
    return (0x80 ||| UInt8.ofNat count) :: digits

/-- The length in so many bytes behind the first. -/
def decodeDigits (bytes : List UInt8) (count : Nat) : Except Stop (Nat × Nat) := do
  let stop ← add 1 count
  let available ← sub bytes.length 1
  match slice? bytes 1 stop with
  | none => refuse (.truncated count available)
  | some digits => return (← digits.foldlM shiftIn 0, stop)

/-- The length that is declared at the start of the bytes, and how many bytes declare it. -/
def decodeLength : List UInt8 → Except Stop (Nat × Nat)
  | [] => refuse (.truncated 1 0)
  | first :: rest =>
      if first &&& 0x80 = 0 then
        return (first.toNat, 1)
      else
        let count := (first &&& ~~~0x80).toNat
        if count = 0 then
          refuse .indefiniteLength
        else if Length.mostBytes < count then
          refuse (.lengthTooLong count)
        else
          decodeDigits (first :: rest) count

/-! ## Elements -/

def decode : List UInt8 → Except Stop (Element × Nat)
  | [] => refuse .empty
  | tag :: rest =>
      if Tag.isMultiByte tag then
        refuse (.multiByteTag tag)
      else do
        let (length, lengthBytes) ← decodeLength rest
        let header ← add 1 lengthBytes
        let available ← sub (tag :: rest).length header
        if available < length then
          refuse (.truncated length available)
        else do
          let stop ← add header length
          let value ← slice (tag :: rest) header stop
          return (⟨tag, value⟩, stop)

def decodeExact (bytes : List UInt8) : Except Stop Element := do
  let (element, consumed) ← decode bytes
  if consumed = bytes.length then
    return element
  else
    refuse (.trailingBytes (← sub bytes.length consumed))

/-- How far the loop over siblings has come, and what it has found up to there. -/
structure Scan where
  offset : Nat
  elements : List Element
deriving DecidableEq, Repr

namespace Scan

def start : Scan :=
  ⟨0, []⟩

/-- One turn of the loop. -/
def turn (bytes : List UInt8) (scan : Scan) : Except Stop Scan := do
  let (element, consumed) ← decode (← slice bytes scan.offset bytes.length)
  return ⟨← add scan.offset consumed, scan.elements ++ [element]⟩

/-- The loop. Only so many of its turns may move on; a turn that is refused ends it in any case. -/
def run (bytes : List UInt8) (turns : Nat) (scan : Scan) : Except Stop (List Element) :=
  if scan.offset < bytes.length then do
    let next ← scan.turn bytes
    match turns with
    | 0 => .error (.fault .endless)
    | turns + 1 => run bytes turns next
  else
    .ok scan.elements
termination_by structural turns

/-- What the loop has come to after a number of turns. -/
inductive Reached (bytes : List UInt8) : Nat → Scan → Prop where
  | start : Reached bytes 0 .start
  | turn {turns : Nat} {scan next : Scan} (reached : Reached bytes turns scan)
      (more : scan.offset < bytes.length) (made : scan.turn bytes = .ok next) :
      Reached bytes (turns + 1) next

end Scan

/-- The loop over all of the bytes, in which two bytes may take one turn. -/
def decodeSiblings (bytes : List UInt8) : Except Stop (List Element) :=
  Scan.start.run bytes (bytes.length / 2)

def children (element : Element) : Except Stop (List Element) :=
  decodeSiblings element.value

/-! ## Integers -/

/-- Whether the first of two bytes only repeats the sign of the second. -/
def repeatsSign (first second : UInt8) : Bool :=
  first = 0x00 && second &&& 0x80 = 0 || first = 0xFF && second &&& 0x80 ≠ 0

/-- Drops bytes from the front as long as they repeat a sign. -/
def strip : List UInt8 → List UInt8
  | first :: second :: rest =>
      if repeatsSign first second then strip (second :: rest) else first :: second :: rest
  | bytes => bytes

def encodeInteger (tag : Tag) (number : Int64) : Element :=
  ⟨tag, strip (lowBytes 8 number.toUInt64.toNat)⟩

/-- Moves a word up by a byte, without regard to what it loses, and puts the byte in. -/
def moveIn (high : Int64) (byte : UInt8) : Int64 :=
  high <<< 8 ||| byte.toUInt64.toInt64

/-- A word whose bits are all the sign of a first byte. -/
def signWord (first : UInt8) : Int64 :=
  if first &&& 0x80 = 0 then 0 else -1

def decodeSigned (kind : NumberKind) (most : Nat) (bytes : List UInt8) : Except Stop Int64 :=
  if bytes.isEmpty || most < bytes.length then
    refuse (.numberLength kind most bytes.length)
  else do
    let first ← byteAt bytes 0
    return bytes.foldl moveIn (signWord first)

def decodeInteger64 (element : Element) : Except Stop Int64 :=
  decodeSigned .integer 8 element.value

def decodeInteger32 (element : Element) : Except Stop Int32 :=
  (decodeSigned .integer 4 element.value).map Int64.toInt32

def decodeEnumerated (element : Element) : Except Stop Int32 :=
  (decodeSigned .enumerated 4 element.value).map Int64.toInt32

end DirectoryClient.Tlv.InPlace
