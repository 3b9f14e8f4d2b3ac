import DirectoryClient.Tlv.Element

namespace DirectoryClient.Tlv

def lowByte (number : Int) : UInt8 :=
  UInt8.ofNat (number % 256).toNat

/-- Two's complement, most significant byte first, in as few bytes as the number needs. -/
def twosComplement (number : Int) : List UInt8 :=
  if -128 ≤ number ∧ number < 128 then
    [lowByte number]
  else
    twosComplement (number / 256) ++ [lowByte number]
termination_by number.natAbs

def ofTwosComplement (bytes : List UInt8) : Int :=
  match bytes with
  | [] => 0
  | first :: _ =>
      if first < 0x80 then ofBigEndian bytes else ofBigEndian bytes - Int.pow 256 bytes.length

namespace Element

def ofInteger (tag : Tag) (number : Int) : Element :=
  ⟨tag, twosComplement number⟩

/-- The number in an element whose value has at least one byte and at most `most`. -/
def decodeNumber (kind : NumberKind) (most : Nat) (element : Element) : Except DecodeError Int :=
  if element.value.isEmpty || most < element.value.length then
    .error (.numberLength kind most element.value.length)
  else
    .ok (ofTwosComplement element.value)

def decodeInteger64 (element : Element) : Except DecodeError Int :=
  element.decodeNumber .integer 8

def decodeInteger32 (element : Element) : Except DecodeError Int :=
  element.decodeNumber .integer 4

def decodeEnumerated (element : Element) : Except DecodeError Int :=
  element.decodeNumber .enumerated 4

end Element

end DirectoryClient.Tlv
