import DirectoryClient.Proofs.Tlv.Length
import DirectoryClient.Tlv.Element
import Mathlib.Tactic.ByContra

namespace DirectoryClient.Tlv

theorem Tag.isMultiByte_eq_true_iff {tag : Tag} : tag.isMultiByte = true ↔ tag &&& 0x1F = 0x1F :=
  beq_iff_eq

theorem Tag.isMultiByte_eq_false_iff {tag : Tag} :
    tag.isMultiByte = false ↔ tag &&& 0x1F ≠ 0x1F :=
  beq_eq_false_iff_ne

namespace Element

theorem length_encode (element : Element) : element.encode.length = element.encodedLength := by
  rw [encode, List.length_cons, List.length_append, Length.length_encode, encodedLength]
  omega

/-- Whether an element can be read back: its tag is one byte and its length takes at most four. -/
structure IsReadable (element : Element) : Prop where
  tag : element.tag.isMultiByte = false
  length : element.value.length < 2 ^ 32

theorem read_encode_append {element : Element} (readable : element.IsReadable)
    (rest : List UInt8) : read (element.encode ++ rest) = .ok (element, rest) := by
  rw [encode, List.cons_append, List.append_assoc, read, readable.tag,
    Length.decode_encode readable.length]
  simp

theorem decodeExact_encode {element : Element} (readable : element.IsReadable) :
    decodeExact element.encode = .ok element := by
  have found := read_encode_append readable []
  rw [List.append_nil] at found
  rw [decodeExact, found]
  rfl

theorem decodeExact_encode_of_isMultiByte {element : Element}
    (continues : element.tag.isMultiByte = true) :
    decodeExact element.encode = .error (.multiByteTag element.tag) := by
  rw [decodeExact, encode, read, if_pos continues]

theorem decodeExact_encode_of_long {element : Element} (tag : element.tag.isMultiByte = false)
    (long : 2 ^ 32 ≤ element.value.length) (bound : element.value.length < 2 ^ 63) :
    decodeExact element.encode = .error (.lengthTooLong (byteCount element.value.length)) := by
  rw [decodeExact, encode, read, tag, Length.decode_encode_of_long long bound]
  rfl

theorem decodeSiblings_encodeSiblings {elements : List Element}
    (readable : ∀ element ∈ elements, element.IsReadable) :
    decodeSiblings (encodeSiblings elements) = .ok elements := by
  induction elements with
  | nil =>
      rw [decodeSiblings]
      rfl
  | cons element rest ih =>
      have first := read_encode_append (readable element List.mem_cons_self) (encodeSiblings rest)
      have later := ih fun other member => readable other (List.mem_cons_of_mem element member)
      have some : (encodeSiblings (element :: rest)).isEmpty = false := rfl
      rw [decodeSiblings, some]
      change read (encodeSiblings (element :: rest)) = _ at first
      split
      · next contrary => cases contrary
      · split
        · next failed => cases failed.symm.trans first
        · next found =>
            cases found.symm.trans first
            rw [later]

theorem length_value_lt_of_mem {elements : List Element} {element : Element}
    (member : element ∈ elements) : element.value.length < (encodeSiblings elements).length := by
  induction elements with
  | nil => cases member
  | cons first rest ih =>
      rw [encodeSiblings, List.flatMap_cons, List.length_append]
      rcases List.mem_cons.mp member with rfl | later
      · rw [encode, List.length_cons, List.length_append]
        omega
      · exact Nat.lt_add_left _ (ih later)

theorem length_encode_le {element : Element} (short : element.value.length < 2 ^ 32) :
    element.encode.length ≤ element.value.length + 6 := by
  have header := Length.length_encode_le_five_iff.mpr short
  rw [encode, List.length_cons, List.length_append]
  omega

theorem length_encodeSiblings_le {elements : List Element} {most : Nat}
    (each : ∀ element ∈ elements, element.encode.length ≤ most) :
    (encodeSiblings elements).length ≤ elements.length * most := by
  induction elements with
  | nil => exact Nat.zero_le _
  | cons element rest ih =>
      have first := each element List.mem_cons_self
      have later := ih fun other member => each other (List.mem_cons_of_mem element member)
      simp only [encodeSiblings, List.flatMap_cons, List.length_append, List.length_cons,
        Nat.succ_mul] at later ⊢
      omega

theorem children_constructed {tag : Tag} {below : List Element}
    (tags : ∀ element ∈ below, element.tag.isMultiByte = false)
    (short : (constructed tag below).value.length < 2 ^ 32) :
    (constructed tag below).children = .ok below := by
  apply decodeSiblings_encodeSiblings
  intro element member
  exact ⟨tags element member, Nat.lt_trans (length_value_lt_of_mem member) short⟩

/-- What has the same bytes as an element that can be read back is as short as it. -/
theorem length_lt_of_encode_eq {element other : Element}
    (short : element.value.length < 2 ^ 32) (same : other.encode = element.encode) :
    other.value.length < 2 ^ 32 := by
  have total := congrArg List.length same
  have header := Length.length_encode_le_five_iff.mpr short
  simp only [encode, List.length_cons, List.length_append] at total
  by_contra long
  have wide := mt Length.length_encode_le_five_iff.mp long
  omega

end Element

end DirectoryClient.Tlv
