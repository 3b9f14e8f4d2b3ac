import DirectoryClient.Tlv.BigEndian
import DirectoryClient.Tlv.Error

namespace DirectoryClient.Tlv.Length

def mostBytes : Nat := 4

/-- A length below 128 is one byte. A longer one is a byte that counts the length bytes, with its
top bit set, and then these bytes, as few as the length needs. -/
def encode (length : Nat) : List UInt8 :=
  if length < 128 then
    [UInt8.ofNat length]
  else
    UInt8.ofNat (128 + (bigEndian length).length) :: bigEndian length

def headerSize (length : Nat) : Nat :=
  if length < 128 then 1 else 1 + byteCount length

/-- Reads a length and gives what follows it. Length bytes may be padded, and the open length `0x80`
is refused. -/
def decode : List UInt8 → Except DecodeError (Nat × List UInt8)
  | [] => .error (.truncated 1 0)
  | first :: rest =>
      if first < 0x80 then
        .ok (first.toNat, rest)
      else
        let count := first.toNat - 128
        if count = 0 then
          .error .indefiniteLength
        else if mostBytes < count then
          .error (.lengthTooLong count)
        else
          let digits := rest.take count
          if digits.length < count then
            .error (.truncated count rest.length)
          else
            .ok (ofBigEndian digits, rest.drop count)

theorem length_lt_of_decode {bytes rest : List UInt8} {length : Nat}
    (found : decode bytes = .ok (length, rest)) : rest.length < bytes.length := by
  cases bytes with
  | nil => cases found
  | cons first tail =>
      rw [decode] at found
      split at found
      · cases found
        exact Nat.lt_succ_self _
      · dsimp only at found
        split at found
        · cases found
        · split at found
          · cases found
          · split at found
            · cases found
            · simp only [Except.ok.injEq, Prod.mk.injEq] at found
              rw [← found.2, List.length_drop, List.length_cons]
              omega

end DirectoryClient.Tlv.Length
