import DirectoryClient.Proofs.Tlv.Siblings
import Mathlib.Data.List.Induction

namespace DirectoryClient.Tlv

theorem ofBigEndian_lt (digits : List UInt8) : ofBigEndian digits < 256 ^ digits.length := by
  induction digits using List.reverseRecOn with
  | nil => exact Nat.one_pos
  | append_singleton digits byte ih =>
      have bound := byte.toNat_lt
      rw [ofBigEndian_append_singleton, List.length_append, List.length_singleton, Nat.pow_succ]
      omega

theorem eq_of_ofBigEndian_eq {digits others : List UInt8} (length : digits.length = others.length)
    (same : ofBigEndian digits = ofBigEndian others) : digits = others := by
  induction digits using List.reverseRecOn generalizing others with
  | nil => exact (List.eq_nil_of_length_eq_zero length.symm).symm
  | append_singleton digits byte ih =>
      rcases List.eq_nil_or_concat others with rfl | ⟨front, last, rfl⟩
      · simp at length
      · rw [List.concat_eq_append] at length same ⊢
        rw [ofBigEndian_append_singleton, ofBigEndian_append_singleton] at same
        have bound := byte.toNat_lt
        have lastBound := last.toNat_lt
        have byteSame : byte = last := UInt8.toNat_inj.mp (by omega)
        have frontSame : digits = front := by
          apply ih
          · simpa using length
          · omega
        rw [byteSame, frontSame]

theorem byteCount_ofBigEndian_le {digits : List UInt8} (some : digits ≠ []) :
    byteCount (ofBigEndian digits) ≤ digits.length :=
  (byteCount_le_iff (List.length_pos_iff.mpr some)).mpr (ofBigEndian_lt digits)

theorem bigEndian_ofBigEndian {digits : List UInt8}
    (few : byteCount (ofBigEndian digits) = digits.length) :
    bigEndian (ofBigEndian digits) = digits := by
  apply eq_of_ofBigEndian_eq
  · rw [length_bigEndian, few]
  · rw [ofBigEndian_bigEndian]

theorem byteCount_mono {n m : Nat} (le : n ≤ m) : byteCount n ≤ byteCount m := by
  have some : 0 < byteCount m := Nat.succ_pos _
  have enough := (byteCount_le_iff some).mp (Nat.le_refl _)
  exact (byteCount_le_iff some).mpr (Nat.lt_of_le_of_lt le enough)

namespace Length

theorem headerSize_mono {n m : Nat} (le : n ≤ m) : headerSize n ≤ headerSize m := by
  have fewer := byteCount_mono le
  rw [headerSize, headerSize]
  split <;> split <;> omega

variable {header : List UInt8} {length : Nat}

theorem Spells.lt (declared : Spells header length) : length < 2 ^ 32 := by
  cases declared with
  | @short first small =>
      have bound := first.toNat_lt
      omega
  | @long first digits marked some few =>
      have wide : 256 ^ digits.length ≤ 256 ^ mostBytes := Nat.pow_le_pow_right (by decide) few
      exact Nat.lt_of_lt_of_le (ofBigEndian_lt digits) wide

theorem Spells.headerSize_le (declared : Spells header length) :
    headerSize length ≤ header.length := by
  cases declared with
  | @short first small =>
      have bound : first.toNat < 128 := small
      rw [headerSize, if_pos bound]
      exact Nat.le_refl _
  | @long first digits marked some few =>
      have enough := byteCount_ofBigEndian_le some
      rw [headerSize, List.length_cons]
      split <;> omega

theorem Spells.eq_encode (declared : Spells header length)
    (least : header.length = headerSize length) : header = encode length := by
  cases declared with
  | @short first small =>
      have bound : first.toNat < 128 := small
      rw [encode, if_pos bound, UInt8.ofNat_toNat]
  | @long first digits marked some few =>
      have count := List.length_pos_iff.mpr some
      rw [headerSize, List.length_cons] at least
      split at least
      · -- A length below 128 has a header of one byte, and this one has more.
        omega
      · next large =>
          have fit : byteCount (ofBigEndian digits) = digits.length := by omega
          rw [encode, if_neg large, bigEndian_ofBigEndian fit, ← marked, UInt8.ofNat_toNat]

end Length

namespace Element

variable {form : List UInt8} {element : Element}

theorem Spells.isReadable (spelled : Spells form element) : element.IsReadable := by
  cases spelled with
  | intro single declared => exact ⟨single, declared.lt⟩

theorem Spells.encodedLength_le (spelled : Spells form element) :
    element.encodedLength ≤ form.length := by
  cases spelled with
  | intro single declared =>
      have least := declared.headerSize_le
      simp only [encodedLength, List.length_cons, List.length_append]
      omega

theorem Spells.eq_encode (spelled : Spells form element)
    (least : form.length = element.encodedLength) : form = element.encode := by
  cases spelled with
  | intro single declared =>
      simp only [encodedLength, List.length_cons, List.length_append] at least
      rw [encode, declared.eq_encode (by omega)]

/-- A shorter value makes a shorter element, also where its header shrinks. -/
theorem encodedLength_mono {other : Element} (le : element.value.length ≤ other.value.length) :
    element.encodedLength ≤ other.encodedLength := by
  have header := Length.headerSize_mono le
  rw [encodedLength, encodedLength]
  omega

theorem length_encodeSiblings_mono {elements others : List Element}
    (each : List.Forall₂ (fun element other => element.encodedLength ≤ other.encodedLength)
      elements others) : (encodeSiblings elements).length ≤ (encodeSiblings others).length := by
  induction each with
  | nil => exact Nat.le_refl _
  | cons first rest ih =>
      simp only [encodeSiblings, List.flatMap_cons, List.length_append, length_encode] at ih ⊢
      omega

theorem length_encodeSiblings_le_of_decodeSiblings {bytes : List UInt8} {elements : List Element}
    (found : decodeSiblings bytes = .ok elements) :
    (encodeSiblings elements).length ≤ bytes.length := by
  obtain ⟨chunks, each, rfl⟩ := decodeSiblings_eq_ok_iff.mp found
  clear found
  induction each with
  | nil => exact Nat.le_refl _
  | cons spelled rest ih =>
      have least := spelled.encodedLength_le
      simp only [encodeSiblings, List.flatMap_cons, List.flatten_cons, List.length_append,
        length_encode] at ih ⊢
      omega

theorem isReadable_of_mem_of_decodeSiblings {bytes : List UInt8} {elements : List Element}
    (found : decodeSiblings bytes = .ok elements) (member : element ∈ elements) :
    element.IsReadable := by
  obtain ⟨chunks, each, -⟩ := decodeSiblings_eq_ok_iff.mp found
  clear found
  induction each with
  | nil => cases member
  | cons spelled rest ih =>
      rcases List.mem_cons.mp member with rfl | later
      · exact spelled.isReadable
      · exact ih later

end Element

/-- An element that has been read is written with the fewest bytes that are read as it, and no other
bytes are as few. -/
theorem encode_is_shortest {bytes : List UInt8} {element : Element} {count : Nat}
    (found : Element.decode bytes = .ok (element, count)) :
    Element.decodeExact element.encode = .ok element ∧
    element.encodedLength ≤ count ∧
    (element.encodedLength = count ↔ bytes.take count = element.encode) ∧
    ∀ other, Element.decodeExact other = .ok element →
      element.encode.length ≤ other.length ∧
      (other.length = element.encode.length → other = element.encode) := by
  obtain ⟨form, rest, spelled, rfl, rfl⟩ := Element.decode_eq_ok_iff.mp found
  refine ⟨Element.decodeExact_encode spelled.isReadable, spelled.encodedLength_le, ?_,
    fun other read => ?_⟩
  · rw [List.take_left]
    constructor
    · exact fun least => spelled.eq_encode least.symm
    · intro same
      rw [same, element.length_encode]
  · have alsoSpelled := Element.decodeExact_eq_ok_iff.mp read
    rw [element.length_encode]
    exact ⟨alsoSpelled.encodedLength_le, alsoSpelled.eq_encode⟩

/-- Two bytes of a value behind a header that is padded to its full size, and a byte more. -/
theorem encode_is_shortest_padded :
    Element.decode [0x04, 0x84, 0x00, 0x00, 0x00, 0x02, 0x07, 0x08, 0x09] =
        .ok (⟨0x04, [0x07, 0x08]⟩, 8) ∧
      Element.decodeExact [0x04, 0x02, 0x07, 0x08] = .ok ⟨0x04, [0x07, 0x08]⟩ ∧
      ∀ other, Element.decodeExact other = .ok ⟨0x04, [0x07, 0x08]⟩ →
        4 ≤ other.length ∧ (other.length = 4 → other = [0x04, 0x02, 0x07, 0x08]) := by
  have found : Element.decode [0x04, 0x84, 0x00, 0x00, 0x00, 0x02, 0x07, 0x08, 0x09] =
      .ok (⟨0x04, [0x07, 0x08]⟩, 8) := by decide +kernel
  obtain ⟨read, -, -, shortest⟩ := encode_is_shortest found
  exact ⟨found, read, shortest⟩

end DirectoryClient.Tlv
