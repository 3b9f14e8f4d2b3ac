import DirectoryClient.Proofs.Tlv.Payload
import DirectoryClient.Tlv.Scalar

namespace DirectoryClient.Tlv.Element

/-- Of the forms of one element, `written` is the shortest: it is not longer than `read`, and as
long only where the two are the same. -/
structure Shortens (written read : Element) : Prop where
  le : written.value.length ≤ read.value.length
  eq : read.value.length ≤ written.value.length → read = written

theorem length_le_of_encodedLength_le {element other : Element}
    (le : element.encodedLength ≤ other.encodedLength) :
    element.value.length ≤ other.value.length := by
  by_contra longer
  have header := Length.headerSize_mono (Nat.le_of_not_le longer)
  rw [encodedLength, encodedLength] at le
  omega

variable {written read : Element} {form : List UInt8} {chunks : List (List UInt8)}
  {parts reads : List Element}

theorem Shortens.length_encode_le (shorter : Shortens written read) (spelled : Spells form read) :
    written.encode.length ≤ form.length := by
  rw [length_encode]
  exact Nat.le_trans (encodedLength_mono shorter.le) spelled.encodedLength_le

theorem Shortens.eq_encode (shorter : Shortens written read) (spelled : Spells form read)
    (few : form.length ≤ written.encode.length) : form = written.encode := by
  rw [length_encode] at few
  have least := spelled.encodedLength_le
  obtain rfl := shorter.eq (length_le_of_encodedLength_le (Nat.le_trans least few))
  exact spelled.eq_encode (Nat.le_antisymm few least)

theorem length_encodeSiblings_le_of_shortens (shorter : List.Forall₂ Shortens parts reads) :
    (encodeSiblings parts).length ≤ (encodeSiblings reads).length :=
  length_encodeSiblings_mono (shorter.imp fun _ _ part => encodedLength_mono part.le)

theorem flatten_eq_of_shortens (each : List.Forall₂ Spells chunks reads)
    (shorter : List.Forall₂ Shortens parts reads)
    (few : chunks.flatten.length ≤ (encodeSiblings parts).length) :
    chunks.flatten = encodeSiblings parts := by
  induction shorter generalizing chunks with
  | nil =>
      cases each
      rfl
  | @cons part read parts reads first rest ih =>
      cases each with
      | @cons form read forms reads spelled others =>
          -- Each of the two parts is at least as long as written, so neither is longer.
          have front := first.length_encode_le spelled
          have back := Nat.le_trans (length_encodeSiblings_le_of_shortens rest)
            (length_encodeSiblings_le_of_decodeSiblings
              (decodeSiblings_eq_ok_iff.mpr ⟨forms, others, rfl⟩))
          simp only [encodeSiblings, List.flatMap_cons, List.flatten_cons, List.length_append]
            at few back ih ⊢
          rw [first.eq_encode spelled (by omega), ih others (by omega)]

theorem shortens_constructed (divided : read.children = .ok reads)
    (shorter : List.Forall₂ Shortens parts reads) :
    Shortens (constructed read.tag parts) read := by
  obtain ⟨chunks, each, whole⟩ := decodeSiblings_eq_ok_iff.mp divided
  constructor
  · exact Nat.le_trans (length_encodeSiblings_le_of_shortens shorter)
      (length_encodeSiblings_le_of_decodeSiblings divided)
  · intro few
    rw [← whole] at few
    rw [constructed, ← flatten_eq_of_shortens each shorter few, whole]

theorem shortens_ofInteger (some : read.value ≠ []) :
    Shortens (ofInteger read.tag (ofTwosComplement read.value)) read := by
  have fewest := length_twosComplement_ofTwosComplement_le some
  constructor
  · exact fewest
  · intro few
    rw [ofInteger, twosComplement_ofTwosComplement (Nat.le_antisymm few fewest)]

end DirectoryClient.Tlv.Element
