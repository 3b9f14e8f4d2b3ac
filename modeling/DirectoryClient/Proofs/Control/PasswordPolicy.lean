import DirectoryClient.Control.PasswordPolicy
import DirectoryClient.Proofs.Tlv.Element
import DirectoryClient.Proofs.Tlv.Integer

namespace DirectoryClient.PasswordPolicy

open Tlv (Element Tag)

theorem length_value_ofInteger32 (tag : Tag) (number : Int32) :
    (Element.ofInteger tag number.toInt).value.length ≤ 4 :=
  Tlv.length_twosComplement_le_iff.mpr ⟨number.le_toInt, number.toInt_lt⟩

namespace Warning

theorem length_value_encode_le (warning : Warning) : warning.encode.value.length ≤ 10 := by
  have number := length_value_ofInteger32 warning.kind.tag warning.value
  have few := Element.length_encode_le (Nat.lt_of_le_of_lt number (by decide))
  change (Element.encodeSiblings [_]).length ≤ 10
  rw [Element.encodeSiblings, List.flatMap_singleton]
  omega

theorem decodeNumber_ofInteger (warning : Warning) :
    decodeNumber (.ofInteger warning.kind.tag warning.value.toInt) = .ok warning := by
  obtain ⟨kind, value⟩ := warning
  have number : (Element.ofInteger kind.tag value.toInt).decodeInteger32 = .ok value.toInt :=
    Element.decodeNumber_ofInteger value.le_toInt value.toInt_lt
  have known : WarningKind.ofTag? (Element.ofInteger kind.tag value.toInt).tag = some kind := by
    cases kind <;> rfl
  simp only [decodeNumber, known, number, Int32.ofInt_toInt]

theorem decode_encode (warning : Warning) : decode warning.encode = .ok warning := by
  have children : warning.encode.children =
      .ok [.ofInteger warning.kind.tag warning.value.toInt] := by
    apply Element.children_constructed
    · intro element member
      rw [List.mem_singleton.mp member]
      change Tag.isMultiByte warning.kind.tag = false
      cases warning.kind <;> decide
    · exact Nat.lt_of_le_of_lt warning.length_value_encode_le (by decide)
  rw [decode, children]
  exact warning.decodeNumber_ofInteger

end Warning

namespace Refusal

theorem code_bounds (refusal : Refusal) : -(128 * 256 ^ 3) ≤ refusal.code ∧
    refusal.code < 128 * 256 ^ 3 := by
  cases refusal <;> decide

theorem length_value_encode_le (refusal : Refusal) : refusal.encode.value.length ≤ 4 :=
  Tlv.length_twosComplement_le_iff.mpr refusal.code_bounds

theorem decode_encode (refusal : Refusal) : decode refusal.encode = .ok refusal := by
  obtain ⟨lower, upper⟩ := refusal.code_bounds
  have number : refusal.encode.decodeEnumerated = .ok refusal.code :=
    Element.decodeNumber_ofInteger lower upper
  have known : ofCode? refusal.code = some refusal := by cases refusal <;> rfl
  simp only [decode, number, known]

end Refusal

namespace Response

def elements (response : Response) : List Element :=
  (response.warning.map Warning.encode).toList ++ (response.refusal.map Refusal.encode).toList

theorem forall_mem_elements {response : Response} {holds : Element → Prop}
    (warned : ∀ warning : Warning, holds warning.encode)
    (refused : ∀ refusal : Refusal, holds refusal.encode) :
    ∀ element ∈ response.elements, holds element := by
  intro element member
  rw [elements, List.mem_append, Option.mem_toList, Option.mem_toList] at member
  rcases member with found | found
  · obtain ⟨warning, -, rfl⟩ := Option.map_eq_some_iff.mp found
    exact warned warning
  · obtain ⟨refusal, -, rfl⟩ := Option.map_eq_some_iff.mp found
    exact refused refusal

theorem length_elements_le (response : Response) : response.elements.length ≤ 2 := by
  obtain ⟨warning, refusal, isCritical⟩ := response
  cases warning <;> cases refusal <;> simp [elements]

theorem length_value_sequence_lt (response : Response) :
    (Element.sequence response.elements).value.length < 2 ^ 32 := by
  have each : ∀ element ∈ response.elements, element.encode.length ≤ 16 := by
    apply forall_mem_elements
    · intro warning
      have few := warning.length_value_encode_le
      have total := Element.length_encode_le (Nat.lt_of_le_of_lt few (by decide))
      omega
    · intro refusal
      have few := refusal.length_value_encode_le
      have total := Element.length_encode_le (Nat.lt_of_le_of_lt few (by decide))
      omega
  have total := Element.length_encodeSiblings_le each
  have few := response.length_elements_le
  change (Element.encodeSiblings response.elements).length < 2 ^ 32
  omega

theorem sequenceOf_encodeValue (response : Response) :
    sequenceOf response.encodeValue = .ok response.elements := by
  have short := response.length_value_sequence_lt
  have tag : Tag.isMultiByte Tag.sequence = false := by decide
  have read : Element.decodeExact response.encodeValue = .ok (.sequence response.elements) :=
    Element.decodeExact_encode ⟨tag, short⟩
  have tags : ∀ element ∈ response.elements, element.tag.isMultiByte = false := by
    apply forall_mem_elements
    · intro warning
      change Tag.isMultiByte warningTag = false
      decide
    · intro refusal
      change Tag.isMultiByte refusalTag = false
      decide
  have children := Element.children_constructed tags short
  rw [sequenceOf, read]
  exact children

theorem decodeElements_elements (response : Response) :
    decodeElements none none response.elements = .ok (response.warning, response.refusal) := by
  obtain ⟨warning, refusal, isCritical⟩ := response
  have warned : ∀ warning : Warning, warning.encode.tag = warningTag := fun _ => rfl
  have refused : ∀ refusal : Refusal, refusal.encode.tag = refusalTag := fun _ => rfl
  have different : refusalTag ≠ warningTag := by decide
  cases warning <;> cases refusal <;>
    simp [elements, decodeElements, warned, refused, different, Warning.decode_encode,
      Refusal.decode_encode, bind, Except.bind]

theorem decode_toControl (response : Response) : decode response.toControl = .ok response := by
  have few : ¬2 < response.elements.length := Nat.not_lt.mpr response.length_elements_le
  rw [decode, toControl]
  simp only [response.sequenceOf_encodeValue, if_neg few, response.decodeElements_elements]
  rfl

end Response

end DirectoryClient.PasswordPolicy
