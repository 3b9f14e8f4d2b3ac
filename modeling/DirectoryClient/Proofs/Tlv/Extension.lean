import DirectoryClient.Proofs.Tlv.Spelling
import DirectoryClient.Tlv.Scalar

namespace DirectoryClient.Tlv

/-- The bytes end before the element does. -/
inductive DecodeError.IsShort : DecodeError → Prop where
  | empty : IsShort .empty
  | truncated {declared available : Nat} : IsShort (.truncated declared available)

/-- The header is not accepted, whatever follows it. -/
inductive DecodeError.IsLasting : DecodeError → Prop where
  | multiByteTag {tag : Tag} : IsLasting (.multiByteTag tag)
  | indefiniteLength : IsLasting .indefiniteLength
  | lengthTooLong {count : Nat} : IsLasting (.lengthTooLong count)

theorem exists_length_append {bytes : List UInt8} {total : Nat} (room : bytes.length ≤ total) :
    ∃ more, (bytes ++ more).length = total := by
  refine ⟨List.replicate (total - bytes.length) 0, ?_⟩
  rw [List.length_append, List.length_replicate]
  omega

namespace Length

variable {bytes more : List UInt8} {reason : DecodeError} {declared available : Nat}

theorem Fails.isShort_or_isLasting (failed : Fails bytes reason) :
    reason.IsShort ∨ reason.IsLasting := by
  cases failed with
  | missing => exact .inl .truncated
  | indefinite => exact .inr .indefiniteLength
  | tooLong => exact .inr .lengthTooLong
  | cut => exact .inl .truncated

theorem Fails.append_of_isLasting (failed : Fails bytes reason) (lasting : reason.IsLasting)
    (more : List UInt8) : Fails (bytes ++ more) reason := by
  cases failed with
  | missing => cases lasting
  | indefinite => exact .indefinite
  | tooLong marked many => exact .tooLong marked many
  | cut => cases lasting

theorem Fails.available_lt (failed : Fails bytes (.truncated declared available)) :
    available < declared := by
  cases failed with
  | missing => exact Nat.one_pos
  | cut marked few short => exact short

theorem Fails.append_of_few (failed : Fails bytes (.truncated declared available))
    (few : more.length < declared - available) :
    Fails (bytes ++ more) (.truncated declared (available + more.length)) := by
  cases failed with
  | missing =>
      -- One byte is missed here, so that fewer are none.
      have none : more = [] := List.eq_nil_of_length_eq_zero (by omega)
      subst none
      exact .missing
  | @cut first digits count marked accepted short =>
      have still : (digits ++ more).length < declared := by
        rw [List.length_append]
        omega
      rw [← List.length_append]
      exact .cut marked accepted still

/-- A header that breaks off can be completed. -/
theorem Fails.exists_spells (failed : Fails bytes reason) (short : reason.IsShort) :
    ∃ more length, Spells (bytes ++ more) length := by
  cases failed with
  | missing => exact ⟨[0], _, .short (by decide)⟩
  | indefinite => cases short
  | tooLong => cases short
  | @cut first digits count marked few cut =>
      obtain ⟨more, all⟩ := exists_length_append (Nat.le_of_lt cut)
      have some : digits ++ more ≠ [] := by
        apply List.ne_nil_of_length_pos
        omega
      exact ⟨more, _, .long (all.symm ▸ marked) some (all.symm ▸ few)⟩

end Length

namespace Element

variable {bytes form more : List UInt8} {element : Element} {reason : DecodeError}
  {count fewer declared available : Nat}

theorem decode_append_of_ok (found : decode bytes = .ok (element, count)) (more : List UInt8) :
    decode (bytes ++ more) = .ok (element, count) := by
  obtain ⟨form, rest, spelled, rfl, taken⟩ := decode_eq_ok_iff.mp found
  exact decode_eq_ok_iff.mpr ⟨form, rest ++ more, spelled, List.append_assoc form rest more, taken⟩

theorem decode_take_of_ok (found : decode bytes = .ok (element, count)) :
    decode (bytes.take count) = .ok (element, count) := by
  obtain ⟨form, rest, spelled, rfl, rfl⟩ := decode_eq_ok_iff.mp found
  rw [List.take_left]
  exact decode_of_spells spelled

theorem count_bounds_of_ok (found : decode bytes = .ok (element, count)) :
    2 ≤ count ∧ count ≤ bytes.length := by
  obtain ⟨form, rest, spelled, rfl, rfl⟩ := decode_eq_ok_iff.mp found
  rw [List.length_append]
  exact ⟨spelled.two_le_length, Nat.le_add_right _ _⟩

/-- What is read from a part of the bytes is read from all of them. -/
theorem not_decode_take (found : decode bytes = .ok (element, count)) (before : fewer < count)
    (other : Element × Nat) : decode (bytes.take fewer) ≠ .ok other := by
  intro early
  have again := decode_append_of_ok early (bytes.drop fewer)
  rw [List.take_append_drop, found] at again
  cases again
  have bound := (count_bounds_of_ok early).2
  rw [List.length_take] at bound
  omega

theorem Fails.isShort_or_isLasting (failed : Fails bytes reason) :
    reason.IsShort ∨ reason.IsLasting := by
  cases failed with
  | empty => exact .inl .empty
  | multiByteTag => exact .inr .multiByteTag
  | header single failed => exact failed.isShort_or_isLasting
  | cut => exact .inl .truncated

theorem Fails.append_of_isLasting (failed : Fails bytes reason) (lasting : reason.IsLasting)
    (more : List UInt8) : Fails (bytes ++ more) reason := by
  cases failed with
  | empty => cases lasting
  | multiByteTag continued => exact .multiByteTag continued
  | header single failed => exact .header single (failed.append_of_isLasting lasting more)
  | cut => cases lasting

theorem Fails.available_lt (failed : Fails bytes (.truncated declared available)) :
    available < declared := by
  cases failed with
  | header single failed => exact failed.available_lt
  | cut single declared short => exact short

theorem Fails.append_of_few (failed : Fails bytes (.truncated declared available))
    (few : more.length < declared - available) :
    Fails (bytes ++ more) (.truncated declared (available + more.length)) := by
  cases failed with
  | header single failed => exact .header single (failed.append_of_few few)
  | @cut tag header value length single declares short =>
      have still : (value ++ more).length < declared := by
        rw [List.length_append]
        omega
      rw [← List.length_append, List.cons_append, List.append_assoc]
      exact .cut single declares still

theorem exists_spells_of_header {tag : Tag} {header value : List UInt8} {length : Nat}
    (single : tag.isMultiByte = false) (declares : Length.Spells header length)
    (room : value.length ≤ length) :
    ∃ more element, Spells (tag :: (header ++ value) ++ more) element := by
  obtain ⟨more, all⟩ := exists_length_append room
  refine ⟨more, ⟨tag, value ++ more⟩, ?_⟩
  rw [List.cons_append, List.append_assoc]
  exact .intro single (all.symm ▸ declares)

/-- Bytes that end too soon are the beginning of an element. -/
theorem Fails.exists_spells (failed : Fails bytes reason) (short : reason.IsShort) :
    ∃ more element, Spells (bytes ++ more) element := by
  cases failed with
  | empty =>
      have null : decodeExact [Tag.null, 0] = .ok (.ofNull Tag.null) := rfl
      exact ⟨_, _, decodeExact_eq_ok_iff.mp null⟩
  | multiByteTag => cases short
  | @header tag rest reason single failed =>
      -- The header comes first, then the value that it turns out to declare.
      obtain ⟨digits, length, declares⟩ := failed.exists_spells short
      have room : ([] : List UInt8).length ≤ length := Nat.zero_le _
      obtain ⟨more, element, spelled⟩ := exists_spells_of_header single declares room
      rw [List.append_nil, ← List.cons_append, List.append_assoc] at spelled
      exact ⟨digits ++ more, element, spelled⟩
  | cut single declares room => exact exists_spells_of_header single declares (Nat.le_of_lt room)

end Element

/-- An element that is decoded is settled by its own bytes, and a failure says whether the bytes
only end too soon or are wrong for good. -/
theorem decode_tells_short_from_wrong (bytes : List UInt8) :
    (∀ element count, Element.decode bytes = .ok (element, count) →
      2 ≤ count ∧ count ≤ bytes.length ∧
      Element.decode (bytes.take count) = .ok (element, count) ∧
      (∀ more, Element.decode (bytes ++ more) = .ok (element, count)) ∧
      ∀ fewer < count, ∀ other, Element.decode (bytes.take fewer) ≠ .ok other) ∧
    (∀ reason, Element.decode bytes = .error reason →
      (reason.IsShort ∨ reason.IsLasting) ∧
      (reason.IsShort → ∃ more found, Element.decode (bytes ++ more) = .ok found) ∧
      (reason.IsLasting → ∀ more, Element.decode (bytes ++ more) = .error reason)) ∧
    (∀ declared available, Element.decode bytes = .error (.truncated declared available) →
      available < declared ∧
      ∀ more : List UInt8, more.length < declared - available →
        Element.decode (bytes ++ more) =
          .error (.truncated declared (available + more.length))) := by
  refine ⟨fun element count found => ?_, fun reason refused => ?_,
    fun declared available refused => ?_⟩
  · obtain ⟨least, most⟩ := Element.count_bounds_of_ok found
    exact ⟨least, most, Element.decode_take_of_ok found, Element.decode_append_of_ok found,
      fun fewer before => Element.not_decode_take found before⟩
  · have failed := Element.decode_eq_error_iff.mp refused
    refine ⟨failed.isShort_or_isLasting, fun short => ?_, fun lasting more => ?_⟩
    · obtain ⟨more, element, spelled⟩ := failed.exists_spells short
      exact ⟨more, _, Element.decode_of_spells spelled⟩
    · exact Element.decode_eq_error_iff.mpr (failed.append_of_isLasting lasting more)
  · have failed := Element.decode_eq_error_iff.mp refused
    exact ⟨failed.available_lt, fun more few =>
      Element.decode_eq_error_iff.mpr (failed.append_of_few few)⟩

/-- A padded header with its value and one byte more, the same header broken off, and a tag that
would continue. -/
theorem decode_tells_short_from_wrong_padded :
    (∀ more, Element.decode ([0x04, 0x83, 0x00, 0x00, 0x02, 0x07, 0x08, 0x09] ++ more) =
      .ok (⟨0x04, [0x07, 0x08]⟩, 7)) ∧
    (∃ more found, Element.decode ([0x04, 0x83, 0x00] ++ more) = .ok found) ∧
    Element.decode ([0x04, 0x83, 0x00] ++ [0xFF]) = .error (.truncated 3 2) ∧
    ∀ more, Element.decode ([0x1F, 0x80] ++ more) = .error (.multiByteTag 0x1F) := by
  obtain ⟨whole, -, -⟩ :=
    decode_tells_short_from_wrong [0x04, 0x83, 0x00, 0x00, 0x02, 0x07, 0x08, 0x09]
  obtain ⟨-, broken, truncated⟩ := decode_tells_short_from_wrong [0x04, 0x83, 0x00]
  obtain ⟨-, continued, -⟩ := decode_tells_short_from_wrong [0x1F, 0x80]
  obtain ⟨-, -, -, kept, -⟩ := whole ⟨0x04, [0x07, 0x08]⟩ 7 (by decide +kernel)
  obtain ⟨-, completed, -⟩ := broken (.truncated 3 1) (by decide +kernel)
  obtain ⟨-, still⟩ := truncated 3 1 (by decide +kernel)
  obtain ⟨-, -, lasts⟩ := continued (.multiByteTag 0x1F) (by decide +kernel)
  exact ⟨kept, completed .truncated, still [0xFF] (by decide), lasts .multiByteTag⟩

end DirectoryClient.Tlv
