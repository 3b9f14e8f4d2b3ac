import DirectoryClient.Proofs.Tlv.Extension
import Mathlib.Data.List.Forall2

namespace DirectoryClient.Tlv

namespace Element

variable {bytes form tail : List UInt8} {chunks others : List (List UInt8)} {element : Element}
  {elements more : List Element} {reason : DecodeError}

theorem decodeSiblings_nil : decodeSiblings [] = .ok [] := by
  rw [decodeSiblings]
  rfl

theorem decodeSiblings_of_spells (spelled : Spells form element) (rest : List UInt8) :
    decodeSiblings (form ++ rest) = (decodeSiblings rest).map (element :: ·) := by
  have some : (form ++ rest).isEmpty = false := by
    cases spelled
    rfl
  have found := read_of_spells spelled rest
  rw [decodeSiblings, some]
  split
  · next contrary => cases contrary
  · split
    · next failed => cases failed.symm.trans found
    · next front =>
        cases front.symm.trans found
        cases decodeSiblings rest <;> rfl

theorem decodeSiblings_of_fails (some : bytes ≠ []) (failed : Fails bytes reason) :
    decodeSiblings bytes = .error reason := by
  have refused := read_of_fails failed
  rw [decodeSiblings, if_neg (mt List.isEmpty_iff.mp some)]
  split
  · next other => cases other.symm.trans refused; rfl
  · next front => cases front.symm.trans refused

theorem decodeSiblings_flatten_append (each : List.Forall₂ Spells chunks elements)
    (rest : List UInt8) : decodeSiblings (chunks.flatten ++ rest) =
      (decodeSiblings rest).map (elements ++ ·) := by
  induction each with
  | nil =>
      change decodeSiblings rest = _
      cases decodeSiblings rest <;> rfl
  | cons first each ih =>
      rw [List.flatten_cons, List.append_assoc, decodeSiblings_of_spells first, ih]
      cases decodeSiblings rest <;> rfl

/-- Spellings follow each other up to the end, or up to where no element begins. -/
theorem exists_spellings (bytes : List UInt8) :
    ∃ chunks elements tail, List.Forall₂ Spells chunks elements ∧ bytes = chunks.flatten ++ tail ∧
      (tail = [] ∨ tail ≠ [] ∧ ∃ reason, Fails tail reason) := by
  by_cases blank : bytes = []
  · exact ⟨[], [], bytes, .nil, rfl, .inl blank⟩
  · rcases spells_or_fails bytes with ⟨form, element, rest, spelled, rfl⟩ | failed
    · obtain ⟨chunks, elements, tail, each, rfl, last⟩ := exists_spellings rest
      refine ⟨form :: chunks, element :: elements, tail, .cons spelled each, ?_, last⟩
      rw [List.flatten_cons, List.append_assoc]
    · exact ⟨[], [], bytes, .nil, rfl, .inr ⟨blank, failed⟩⟩
termination_by bytes.length
decreasing_by
  have least := spelled.two_le_length
  have whole : bytes = form ++ rest := ‹_›
  rw [whole, List.length_append]
  omega

theorem decodeSiblings_eq_ok_iff : decodeSiblings bytes = .ok elements ↔
    ∃ chunks, List.Forall₂ Spells chunks elements ∧ chunks.flatten = bytes := by
  constructor
  · intro found
    obtain ⟨chunks, others, tail, each, rfl, blank | ⟨some, reason, failed⟩⟩ :=
      exists_spellings bytes
    · rw [decodeSiblings_flatten_append each, blank, decodeSiblings_nil] at found
      cases found
      exact ⟨chunks, by simpa using each, by rw [blank, List.append_nil]⟩
    · rw [decodeSiblings_flatten_append each, decodeSiblings_of_fails some failed] at found
      cases found
  · rintro ⟨chunks, each, rfl⟩
    have found := decodeSiblings_flatten_append each []
    rw [List.append_nil, decodeSiblings_nil] at found
    simpa [Except.map] using found

theorem exists_fails_of_decodeSiblings (refused : decodeSiblings bytes = .error reason) :
    ∃ tail, tail ≠ [] ∧ Fails tail reason := by
  obtain ⟨chunks, others, tail, each, rfl, blank | ⟨some, other, failed⟩⟩ := exists_spellings bytes
  · rw [decodeSiblings_flatten_append each, blank, decodeSiblings_nil] at refused
    cases refused
  · rw [decodeSiblings_flatten_append each, decodeSiblings_of_fails some failed] at refused
    cases refused
    exact ⟨tail, some, failed⟩

theorem Fails.eq_nil (failed : Fails bytes .empty) : bytes = [] := by
  cases failed with
  | empty => rfl
  | header single failed => cases failed

/-- The two rows are walked together: where one begins a spelling, so does the other. -/
theorem eq_of_flatten_eq (each : List.Forall₂ Spells chunks elements)
    (alsoEach : List.Forall₂ Spells others more) (same : chunks.flatten = others.flatten) :
    chunks = others ∧ elements = more := by
  induction each generalizing others more with
  | nil =>
      cases alsoEach with
      | nil => exact ⟨rfl, rfl⟩
      | cons first rest =>
          cases first
          cases same
  | cons first rest ih =>
      cases alsoEach with
      | nil =>
          cases first
          cases same
      | cons alsoFirst alsoRest =>
          rw [List.flatten_cons, List.flatten_cons] at same
          obtain ⟨rfl, rfl, later⟩ := first.eq_of_append_eq alsoFirst same
          obtain ⟨rfl, rfl⟩ := ih alsoRest later
          exact ⟨rfl, rfl⟩

/-- The `chunks` make up the bytes, and each of them is read as the element in its place. -/
structure IsSplit (bytes : List UInt8) (chunks : List (List UInt8)) (elements : List Element) :
    Prop where
  flatten : chunks.flatten = bytes
  each : List.Forall₂ (fun chunk element => decodeExact chunk = .ok element) chunks elements

theorem isSplit_iff : IsSplit bytes chunks elements ↔
    List.Forall₂ Spells chunks elements ∧ chunks.flatten = bytes := by
  constructor
  · rintro ⟨flatten, each⟩
    exact ⟨each.imp fun _ _ => decodeExact_eq_ok_iff.mp, flatten⟩
  · rintro ⟨each, flatten⟩
    exact ⟨flatten, each.imp fun _ _ => decodeExact_eq_ok_iff.mpr⟩

end Element

/-- Bytes are siblings exactly if they split into elements, in one way only, and what precedes some
bytes as siblings changes nothing about them. -/
theorem siblings_split_uniquely (bytes : List UInt8) :
    (∀ elements, Element.decodeSiblings bytes = .ok elements ↔
      ∃ chunks, Element.IsSplit bytes chunks elements) ∧
    (∀ chunks others elements more, Element.IsSplit bytes chunks elements →
      Element.IsSplit bytes others more → chunks = others ∧ elements = more) ∧
    (∀ elements, Element.decodeSiblings bytes = .ok elements → ∀ rest,
      (∀ later, Element.decodeSiblings rest = .ok later →
        Element.decodeSiblings (bytes ++ rest) = .ok (elements ++ later)) ∧
      ∀ reason, Element.decodeSiblings rest = .error reason →
        Element.decodeSiblings (bytes ++ rest) = .error reason) ∧
    ∀ reason, (Element.decodeSiblings bytes = .error reason ∨
        ∃ element : Element, element.value = bytes ∧ element.children = .error reason) →
      reason ≠ .empty ∧ ∀ count, reason ≠ .trailingBytes count := by
  refine ⟨fun elements => ?_, fun chunks others elements more split alsoSplit => ?_,
    fun elements found rest => ?_, fun reason refused => ?_⟩
  · simp only [Element.isSplit_iff]
    exact Element.decodeSiblings_eq_ok_iff
  · obtain ⟨each, flatten⟩ := Element.isSplit_iff.mp split
    obtain ⟨alsoEach, alsoFlatten⟩ := Element.isSplit_iff.mp alsoSplit
    exact Element.eq_of_flatten_eq each alsoEach (flatten.trans alsoFlatten.symm)
  · obtain ⟨chunks, each, rfl⟩ := Element.decodeSiblings_eq_ok_iff.mp found
    rw [Element.decodeSiblings_flatten_append each]
    exact ⟨fun later decoded => by rw [decoded]; rfl, fun reason failed => by rw [failed]; rfl⟩
  · have failing : Element.decodeSiblings bytes = .error reason := by
      rcases refused with siblings | ⟨element, rfl, children⟩
      · exact siblings
      · exact children
    obtain ⟨tail, some, failed⟩ := Element.exists_fails_of_decodeSiblings failing
    refine ⟨?_, ?_⟩
    · rintro rfl
      exact some failed.eq_nil
    · rintro count rfl
      rcases failed.isShort_or_isLasting with short | lasting
      · cases short
      · cases lasting

/-- Two siblings, the first with a padded header, and the same two before one that does not end. -/
theorem siblings_split_uniquely_padded :
    Element.decodeSiblings [0x04, 0x81, 0x01, 0x41, 0x05, 0x00] =
      .ok [⟨0x04, [0x41]⟩, ⟨0x05, []⟩] ∧
    Element.decodeSiblings ([0x04, 0x81, 0x01, 0x41, 0x05, 0x00] ++ [0x30, 0x80]) =
      .error .indefiniteLength := by
  obtain ⟨splits, -, joins, -⟩ :=
    siblings_split_uniquely [0x04, 0x81, 0x01, 0x41, 0x05, 0x00]
  have first : Element.decodeExact [0x04, 0x81, 0x01, 0x41] = .ok ⟨0x04, [0x41]⟩ := by
    decide +kernel
  have second : Element.decodeExact [0x05, 0x00] = .ok ⟨0x05, []⟩ := by decide +kernel
  have found := (splits _).mpr ⟨_, rfl, .cons first (.cons second .nil)⟩
  exact ⟨found, (joins _ found [0x30, 0x80]).2 .indefiniteLength (by decide +kernel)⟩

end DirectoryClient.Tlv
