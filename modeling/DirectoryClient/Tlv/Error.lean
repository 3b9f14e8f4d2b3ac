import DirectoryClient.Tlv.Tag

namespace DirectoryClient.Tlv

inductive NumberKind where
  | integer
  | enumerated
deriving DecidableEq, Repr

def NumberKind.name : NumberKind → String
  | .integer => "integer"
  | .enumerated => "enumerated"

/-- Why bytes, or an element that was read from them, cannot be decoded. -/
inductive DecodeError where
  | empty
  /-- More bytes are declared than are there. -/
  | truncated (declared available : Nat)
  /-- The tag would continue in further bytes. -/
  | multiByteTag (tag : Tag)
  | indefiniteLength
  /-- The length is written with more bytes than are accepted. -/
  | lengthTooLong (count : Nat)
  | trailingBytes (count : Nat)
  /-- An element has another tag than its place demands. -/
  | unexpectedTag (expected actual : Tag)
  /-- The payload of a number has no byte, or more than `most`. -/
  | numberLength (kind : NumberKind) (most found : Nat)
  | booleanLength (found : Nat)
deriving DecidableEq, Repr

def DecodeError.message : DecodeError → String
  | .empty => "cannot decode an element from an empty buffer"
  | .truncated declared available =>
      s!"element declares {declared} value bytes but only {available} are available"
  | .multiByteTag tag => s!"unsupported multi-byte tag form in tag byte {tag.text}"
  | .indefiniteLength => "indefinite length encoding is not allowed"
  | .lengthTooLong count => s!"length is encoded with {count} bytes, at most 4 are allowed"
  | .trailingBytes count => s!"{count} unexpected trailing bytes after element"
  | .unexpectedTag expected actual => s!"expected tag {expected.text} but found {actual.text}"
  | .numberLength kind most found =>
      s!"invalid {kind.name} value: payload must be 1 to {most} bytes, found {found}"
  | .booleanLength found => s!"invalid boolean value: expected 1 byte, found {found}"

end DirectoryClient.Tlv
