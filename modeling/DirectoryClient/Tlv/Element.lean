import DirectoryClient.Tlv.Length

/-!
# Elements

An element is a tag byte, a length header and the value bytes. A constructed element keeps its
children encoded inside its value, so a tag has no relation to the same byte at another nesting
level. `Element.read` takes one element from the front of some bytes; decoding exactly one element
and decoding siblings are both stated through it.
-/

namespace DirectoryClient.Tlv

structure Element where
  tag : Tag
  value : List UInt8
deriving DecidableEq, Repr

namespace Element

def isConstructed (element : Element) : Bool :=
  element.tag.isConstructed

def encode (element : Element) : List UInt8 :=
  element.tag :: (Length.encode element.value.length ++ element.value)

def encodedLength (element : Element) : Nat :=
  1 + Length.headerSize element.value.length + element.value.length

def encodeSiblings (elements : List Element) : List UInt8 :=
  elements.flatMap encode

/-- An element whose value holds `children` in their order. -/
def constructed (tag : Tag) (children : List Element) : Element :=
  ⟨tag, encodeSiblings children⟩

def read : List UInt8 → Except DecodeError (Element × List UInt8)
  | [] => .error .empty
  | tag :: rest =>
      if Tag.isMultiByte tag then
        .error (.multiByteTag tag)
      else
        match Length.decode rest with
        | .error reason => .error reason
        | .ok (length, body) =>
            let value := body.take length
            if value.length < length then
              .error (.truncated length body.length)
            else
              .ok (⟨tag, value⟩, body.drop length)

def decode (bytes : List UInt8) : Except DecodeError (Element × Nat) :=
  match read bytes with
  | .error reason => .error reason
  | .ok (element, rest) => .ok (element, bytes.length - rest.length)

def decodeExact (bytes : List UInt8) : Except DecodeError Element :=
  match read bytes with
  | .error reason => .error reason
  | .ok (element, rest) =>
      if rest.isEmpty then .ok element else .error (.trailingBytes rest.length)

theorem length_add_length_lt_of_read {bytes rest : List UInt8} {element : Element}
    (found : read bytes = .ok (element, rest)) :
    element.value.length + rest.length + 1 < bytes.length := by
  cases bytes with
  | nil => simp [read] at found
  | cons tag tail =>
      simp only [read] at found
      split at found
      · contradiction
      · split at found
        · contradiction
        next length body header =>
          have shorter := Length.length_lt_of_decode header
          split at found
          · contradiction
          · cases found
            simp only [List.length_take, List.length_drop, List.length_cons] at *
            omega

def decodeSiblings (bytes : List UInt8) : Except DecodeError (List Element) :=
  if bytes.isEmpty then
    .ok []
  else
    match _ : read bytes with
    | .error reason => .error reason
    | .ok (element, rest) =>
        match decodeSiblings rest with
        | .error reason => .error reason
        | .ok elements => .ok (element :: elements)
termination_by bytes.length
decreasing_by
  have := length_add_length_lt_of_read ‹read bytes = _›
  omega

def children (element : Element) : Except DecodeError (List Element) :=
  decodeSiblings element.value

/-- Fails unless the element has the tag `expected`. -/
def expectTag (element : Element) (expected : Tag) : Except DecodeError Unit :=
  if element.tag = expected then .ok () else .error (.unexpectedTag expected element.tag)

end Element

end DirectoryClient.Tlv
