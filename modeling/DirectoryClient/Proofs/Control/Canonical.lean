import DirectoryClient.Proofs.Control.Envelope
import DirectoryClient.Proofs.Tlv.Canonical

namespace DirectoryClient

open Tlv (Element Tag)

namespace Control

variable {element : Element} {control : Control} {controls : List Control}

theorem length_encodeSiblings_flags_le {flags : List Element} {critical : Option Bool}
    (flagged : Flags flags critical) :
    (Element.encodeSiblings
      (if critical.getD false then [Element.ofBool Tag.boolean true] else [])).length ≤
        (Element.encodeSiblings flags).length := by
  cases flagged with
  | absent => exact Nat.le_refl _
  | @present byte =>
      have size : (Element.encodeSiblings [⟨Tag.boolean, [byte]⟩]).length = 3 := rfl
      rw [size, Option.getD_some]
      split <;> decide

theorem Envelope.length_value_encode_le (envelope : Envelope element control) :
    control.encode.value.length ≤ element.value.length := by
  obtain ⟨tag, flagged, isCritical, children⟩ := envelope
  -- A criticality that is false has no counterpart, so the fields are compared part by part.
  have whole := Element.length_encodeSiblings_le_of_decodeSiblings children
  have flags := length_encodeSiblings_flags_le flagged
  rw [← isCritical] at flags
  change (Element.encodeSiblings control.fields).length ≤ _
  simp only [fields, Element.encodeSiblings, List.flatMap_cons, List.flatMap_append,
    List.length_append, valueFields] at whole flags ⊢
  omega

theorem length_value_encodeList_le (decoded : decodeList element = .ok controls) :
    (encodeList controls).value.length ≤ element.value.length := by
  obtain ⟨tag, children, divided, each⟩ := decodeList_eq_ok_iff.mp decoded
  have shorter : List.Forall₂ (fun written child : Element =>
      written.encodedLength ≤ child.encodedLength) (controls.map encode) children := by
    rw [List.forall₂_map_left_iff]
    exact each.flip.imp fun control child envelope =>
      Element.encodedLength_mono envelope.length_value_encode_le
  exact Nat.le_trans (Element.length_encodeSiblings_mono shorter)
    (Element.length_encodeSiblings_le_of_decodeSiblings divided)

end Control

/-- Controls that have been read from some bytes are written with no more bytes, and these are read
as the same controls and written as they are. -/
theorem control_lists_normalize {bytes : List UInt8} {element : Element} {controls : List Control}
    (read : Element.decodeExact bytes = .ok element)
    (decoded : Control.decodeList element = .ok controls) :
    let written := (Control.encodeList controls).encode
    written.length ≤ bytes.length ∧
    (∃ again, Element.decodeExact written = .ok again ∧ Control.decodeList again = .ok controls) ∧
    ∀ again others, Element.decodeExact written = .ok again →
      Control.decodeList again = .ok others → (Control.encodeList others).encode = written := by
  intro written
  have spelled := Element.decodeExact_eq_ok_iff.mp read
  have shorter := Control.length_value_encodeList_le decoded
  have short : (Control.encodeList controls).value.length < 2 ^ 32 :=
    Nat.lt_of_le_of_lt shorter spelled.isReadable.length
  have readAgain := Control.decodeExact_encodeList short
  have decodedAgain := Control.decodeList_encodeList short
  refine ⟨?_, ⟨_, readAgain, decodedAgain⟩, fun again others found same => ?_⟩
  · calc written.length
        = (Control.encodeList controls).encodedLength := Element.length_encode _
      _ ≤ element.encodedLength := Element.encodedLength_mono shorter
      _ ≤ bytes.length := spelled.encodedLength_le
  · cases readAgain.symm.trans found
    cases decodedAgain.symm.trans same
    rfl

/-- Two controls behind padded headers at every level, the one said not to be critical, the other
critical by a byte of its own. -/
def Control.paddedBytes : List UInt8 :=
  [0xA0, 0x84, 0x00, 0x00, 0x00, 0x19,
    0x30, 0x82, 0x00, 0x0B, 0x04, 0x81, 0x03, 0x31, 0x2E, 0x32, 0x01, 0x01, 0x00, 0x04, 0x00,
    0x30, 0x08, 0x04, 0x03, 0x31, 0x2E, 0x33, 0x01, 0x01, 0x07]

def Control.padded : List Control :=
  [{ oid := "1.2", isCritical := false, value := some [] },
    { oid := "1.3", isCritical := true, value := none }]

theorem control_lists_normalize_padded :
    let written := (Control.encodeList Control.padded).encode
    (∃ element, Element.decodeExact Control.paddedBytes = .ok element ∧
      Control.decodeList element = .ok Control.padded) ∧
    written.length ≤ Control.paddedBytes.length ∧
    ∃ again, Element.decodeExact written = .ok again ∧
      Control.decodeList again = .ok Control.padded := by
  have read : Element.decodeExact Control.paddedBytes =
      .ok ⟨Control.listTag, Control.paddedBytes.drop 6⟩ := by decide +kernel
  have decoded : Control.decodeList ⟨Control.listTag, Control.paddedBytes.drop 6⟩ =
      .ok Control.padded := by decide +kernel
  obtain ⟨shorter, again, -⟩ := control_lists_normalize read decoded
  exact ⟨⟨_, read, decoded⟩, shorter, again⟩

end DirectoryClient
