import DirectoryClient.Proofs.Tlv.Element
import DirectoryClient.Tlv.Scalar

namespace DirectoryClient.Tlv

/-- An element is as long as announced, and it is read back exactly if its tag is one byte and four
bytes hold its length. -/
theorem elements_read_back (element : Element) (bound : element.value.length < 2 ^ 63) :
    element.encode.length = element.encodedLength ∧
    (Element.decodeExact element.encode = .ok element ↔
      element.tag &&& 0x1F ≠ 0x1F ∧ element.value.length < 2 ^ 32) ∧
    (element.tag &&& 0x1F = 0x1F →
      Element.decodeExact element.encode = .error (.multiByteTag element.tag)) ∧
    (element.tag &&& 0x1F ≠ 0x1F → 2 ^ 32 ≤ element.value.length →
      Element.decodeExact element.encode =
        .error (.lengthTooLong (byteCount element.value.length))) := by
  have continued : element.tag &&& 0x1F = 0x1F →
      Element.decodeExact element.encode = .error (.multiByteTag element.tag) := fun continues =>
    Element.decodeExact_encode_of_isMultiByte (Tag.isMultiByte_eq_true_iff.mpr continues)
  have tooLong : element.tag &&& 0x1F ≠ 0x1F → 2 ^ 32 ≤ element.value.length →
      Element.decodeExact element.encode =
        .error (.lengthTooLong (byteCount element.value.length)) := fun tag long =>
    Element.decodeExact_encode_of_long (Tag.isMultiByte_eq_false_iff.mpr tag) long bound
  refine ⟨element.length_encode, ⟨fun found => ?_, fun ⟨tag, short⟩ => ?_⟩, continued, tooLong⟩
  · have tag : element.tag &&& 0x1F ≠ 0x1F := by
      intro continues
      cases found.symm.trans (continued continues)
    refine ⟨tag, Nat.lt_of_not_le fun long => ?_⟩
    cases found.symm.trans (tooLong tag long)
  · exact Element.decodeExact_encode ⟨Tag.isMultiByte_eq_false_iff.mpr tag, short⟩

/-- An octet string of zeros. -/
def Element.zeros (count : Nat) : Element :=
  .ofOctets Tag.octetString (List.replicate count 0)

/-- The longest octet string that is read back has one byte less than the shortest that is not. -/
theorem elements_read_back_zeros :
    Element.decodeExact (Element.zeros (2 ^ 32 - 1)).encode = .ok (Element.zeros (2 ^ 32 - 1)) ∧
      Element.decodeExact (Element.zeros (2 ^ 32)).encode = .error (.lengthTooLong 5) := by
  have length : ∀ count, (Element.zeros count).value.length = count :=
    fun count => List.length_replicate
  have tag : ∀ count, (Element.zeros count).tag &&& 0x1F ≠ 0x1F := fun count => by
    change Tag.octetString &&& 0x1F ≠ 0x1F
    decide
  obtain ⟨-, readable, -, -⟩ := elements_read_back (Element.zeros (2 ^ 32 - 1)) (by
    rw [length]
    decide)
  obtain ⟨-, -, -, refused⟩ := elements_read_back (Element.zeros (2 ^ 32)) (by
    rw [length]
    decide)
  have five : byteCount (2 ^ 32) = 5 := by decide +kernel
  rw [length, five] at refused
  refine ⟨readable.mpr ⟨tag _, ?_⟩, refused (tag _) (Nat.le_refl _)⟩
  rw [length]
  decide

end DirectoryClient.Tlv
