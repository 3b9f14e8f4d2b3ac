import DirectoryClient.Control.PasswordPolicy
import DirectoryClient.Proofs.Control.Envelope
import DirectoryClient.Proofs.Tlv.Payload

/-!
# What is read as a password policy response

A value is one sequence of at most one warning and at most one refusal. The two have different tags,
so they may stand in either order. Inside a warning the tag of a refusal means the grace logins, and
the number that is found there may be padded up to four bytes, as the code of a refusal may.
-/

namespace DirectoryClient.PasswordPolicy

open Tlv (Element Tag)

/-- The payload is a number in two's complement of one to four bytes. -/
structure IsNumber (element : Element) (number : Int) : Prop where
  some : element.value ≠ []
  few : element.value.length ≤ 4
  payload : Tlv.ofTwosComplement element.value = number

theorem decodeNumber_eq_ok_iff {kind : Tlv.NumberKind} {element : Element} {number : Int} :
    element.decodeNumber kind 4 = .ok number ↔ IsNumber element number := by
  rw [Element.decodeNumber_eq_ok_iff]
  constructor
  · rintro ⟨some, few, payload⟩
    exact ⟨some, few, payload⟩
  · rintro ⟨some, few, payload⟩
    exact ⟨some, few, payload⟩

theorem WarningKind.ofTag?_eq_some_iff {tag : Tag} {kind : WarningKind} :
    ofTag? tag = some kind ↔ kind.tag = tag := by
  constructor
  · intro found
    rw [ofTag?] at found
    simpa using List.find?_some found
  · rintro rfl
    cases kind <;> rfl

namespace Warning

/-- The elements that are read as a warning. -/
inductive Reads : Element → Warning → Prop where
  | intro {element number : Element} {warning : Warning} (tag : element.tag = warningTag)
      (children : element.children = .ok [number]) (kind : number.tag = warning.kind.tag)
      (payload : IsNumber number warning.value.toInt) : Reads element warning

variable {element number : Element} {warning : Warning}

theorem Reads.tag_eq (read : Reads element warning) : element.tag = warningTag := by
  cases read with
  | intro tag children kind payload => exact tag

theorem decodeNumber_eq_ok_iff : decodeNumber number = .ok warning ↔
    number.tag = warning.kind.tag ∧ IsNumber number warning.value.toInt := by
  constructor
  · intro found
    rw [decodeNumber] at found
    split at found
    · cases found
    next kind known =>
      split at found
      · cases found
      next value read =>
        obtain ⟨some, few, rfl⟩ := PasswordPolicy.decodeNumber_eq_ok_iff.mp read
        obtain ⟨value, same⟩ := Tlv.exists_int32_of_length_le some few
        cases found
        rw [← same, Int32.ofInt_toInt]
        exact ⟨(WarningKind.ofTag?_eq_some_iff.mp known).symm, some, few, same.symm⟩
  · rintro ⟨kind, payload⟩
    have known := WarningKind.ofTag?_eq_some_iff.mpr kind.symm
    have read : number.decodeInteger32 = .ok warning.value.toInt :=
      PasswordPolicy.decodeNumber_eq_ok_iff.mpr payload
    simp only [decodeNumber, known, read, Int32.ofInt_toInt]

theorem decode_eq_ok_iff (tag : element.tag = warningTag) :
    decode element = .ok warning ↔ Reads element warning := by
  rw [decode, bind_eq_ok_iff]
  simp only [ControlError.lift_eq_ok_iff]
  constructor
  · rintro ⟨children, divided, found⟩
    split at found
    next number =>
      obtain ⟨kind, payload⟩ := decodeNumber_eq_ok_iff.mp found
      exact .intro tag divided kind payload
    · cases found
  · rintro ⟨-, divided, kind, payload⟩
    exact ⟨_, divided, decodeNumber_eq_ok_iff.mpr ⟨kind, payload⟩⟩

end Warning

namespace Refusal

/-- The elements that are read as a refusal. -/
structure Reads (element : Element) (refusal : Refusal) : Prop where
  tag : element.tag = refusalTag
  payload : IsNumber element refusal.code

theorem ofCode?_eq_some_iff {code : Int} {refusal : Refusal} :
    ofCode? code = some refusal ↔ refusal.code = code := by
  constructor
  · intro found
    rw [ofCode?] at found
    simpa using List.find?_some found
  · rintro rfl
    cases refusal <;> rfl

theorem exists_code_eq_iff {code : Int} :
    (∃ refusal : Refusal, refusal.code = code) ↔ 0 ≤ code ∧ code ≤ 8 := by
  constructor
  · rintro ⟨refusal, rfl⟩
    cases refusal <;> decide
  · rintro ⟨lower, upper⟩
    have each : ∀ number : Fin 9, ∃ refusal : Refusal,
        refusal ∈ all ∧ refusal.code = number.val := by
      decide
    obtain ⟨refusal, -, same⟩ := each ⟨code.toNat, by omega⟩
    exact ⟨refusal, same.trans (Int.toNat_of_nonneg lower)⟩

variable {element : Element} {refusal : Refusal}

theorem decode_eq_ok_iff (tag : element.tag = refusalTag) :
    decode element = .ok refusal ↔ Reads element refusal := by
  constructor
  · intro found
    rw [decode] at found
    split at found
    · cases found
    next code read =>
      split at found
      · cases found
      next other known =>
        cases found
        obtain rfl := ofCode?_eq_some_iff.mp known
        exact ⟨tag, decodeNumber_eq_ok_iff.mp read⟩
  · rintro ⟨-, payload⟩
    have read : element.decodeEnumerated = .ok refusal.code := decodeNumber_eq_ok_iff.mpr payload
    have known := ofCode?_eq_some_iff.mpr (rfl : refusal.code = refusal.code)
    simp only [decode, read, known]

end Refusal

namespace Response

/-- The bytes are one sequence of the elements, and nothing follows it. -/
def IsSequence (bytes : List UInt8) (elements : List Element) : Prop :=
  ∃ element, Element.decodeExact bytes = .ok element ∧ element.tag = Tag.sequence ∧
    element.children = .ok elements

theorem sequenceOf_eq_ok_iff {bytes : List UInt8} {elements : List Element} :
    sequenceOf bytes = .ok elements ↔ IsSequence bytes elements := by
  rw [sequenceOf, bind_eq_ok_iff]
  simp only [bind_eq_ok_iff, Element.expectTag_eq_ok_iff, exists_and_left, exists_const, IsSequence]

/-- How a field of the response is filled: it stays as it is, or an element is read into it. -/
inductive Fills {α : Type} (reads : Element → α → Prop) :
    Option α → Option Element → Option α → Prop where
  | kept {field : Option α} : Fills reads field none field
  | filled {element : Element} {value : α} (read : reads element value) :
      Fills reads none (some element) (some value)

theorem fills_none_iff {α : Type} {reads : Element → α → Prop} {element : Option Element}
    {field : Option α} : Fills reads none element field ↔ Option.Rel reads element field := by
  constructor
  · rintro (_ | read)
    · exact .none
    · exact .some read
  · rintro (read | _)
    · exact .filled read
    · exact .kept

theorem cons_perm_toList_iff {α : Type} {first : α} {rest : List α} {left right : Option α} :
    (first :: rest).Perm (left.toList ++ right.toList) ↔
      left = some first ∧ rest.Perm right.toList ∨ right = some first ∧ rest.Perm left.toList := by
  constructor
  · intro order
    have member := order.subset List.mem_cons_self
    rw [List.mem_append, Option.mem_toList, Option.mem_toList] at member
    rcases member with found | found
    · cases found
      exact .inl ⟨rfl, order.cons_inv⟩
    · cases found
      exact .inr ⟨rfl, (order.trans List.perm_append_comm).cons_inv⟩
  · rintro (⟨rfl, order⟩ | ⟨rfl, order⟩)
    · exact order.cons first
    · exact (order.cons first).trans (@List.perm_append_comm _ [first] _)

variable {elements : List Element} {warning : Option Warning} {refusal : Option Refusal}
  {result : Option Warning × Option Refusal}

/-- The first of the elements is a warning where none has been read, or so a refusal. -/
theorem decodeElements_cons_eq_ok_iff {element : Element} {rest : List Element} :
    decodeElements warning refusal (element :: rest) = .ok result ↔
      (warning = none ∧ ∃ found, Warning.Reads element found ∧
        decodeElements (some found) refusal rest = .ok result) ∨
      (refusal = none ∧ ∃ found, Refusal.Reads element found ∧
        decodeElements warning (some found) rest = .ok result) := by
  have different : refusalTag ≠ warningTag := by decide
  rw [decodeElements]
  split
  next tag =>
    have notRefusal : ∀ found, ¬Refusal.Reads element found :=
      fun found read => different (read.tag.symm.trans tag)
    cases warning with
    | some found => simp [malformed, notRefusal]
    | none =>
        simp only [Option.isSome_none, Bool.false_eq_true, if_false, bind_eq_ok_iff,
          Warning.decode_eq_ok_iff tag, notRefusal]
        simp
  next other =>
    have notWarning : ∀ found, ¬Warning.Reads element found :=
      fun found read => other read.tag_eq
    split
    next tag =>
      cases refusal with
      | some found => simp [malformed, notWarning]
      | none =>
          simp only [Option.isSome_none, Bool.false_eq_true, if_false, bind_eq_ok_iff,
            Refusal.decode_eq_ok_iff tag, notWarning]
          simp
    next unknown =>
      have notRefusal : ∀ found, ¬Refusal.Reads element found := fun found read => unknown read.tag
      simp [malformed, notWarning, notRefusal]

theorem decodeElements_eq_ok_iff : decodeElements warning refusal elements = .ok result ↔
    ∃ warned refused : Option Element, elements.Perm (warned.toList ++ refused.toList) ∧
      Fills Warning.Reads warning warned result.1 ∧
      Fills Refusal.Reads refusal refused result.2 := by
  obtain ⟨lastWarning, lastRefusal⟩ := result
  -- From any two fields: behind the first element one of them is filled.
  induction elements generalizing warning refusal with
  | nil =>
      constructor
      · intro found
        cases found
        exact ⟨none, none, .refl _, .kept, .kept⟩
      · rintro ⟨warned, refused, order, warns, refuses⟩
        have blank := List.append_eq_nil_iff.mp order.nil_eq.symm
        rw [Option.toList_eq_nil_iff, Option.toList_eq_nil_iff] at blank
        obtain ⟨rfl, rfl⟩ := blank
        cases warns
        cases refuses
        rfl
  | cons element rest ih =>
      simp only [decodeElements_cons_eq_ok_iff, ih]
      constructor
      · rintro (⟨rfl, found, read, warned, refused, order, warns, refuses⟩ |
          ⟨rfl, found, read, warned, refused, order, warns, refuses⟩)
        · obtain _ | _ := warns
          exact ⟨some element, refused, cons_perm_toList_iff.mpr (.inl ⟨rfl, order⟩),
            .filled read, refuses⟩
        · obtain _ | _ := refuses
          rw [Option.toList_none, List.append_nil] at order
          exact ⟨warned, some element, cons_perm_toList_iff.mpr (.inr ⟨rfl, order⟩), warns,
            .filled read⟩
      · rintro ⟨warned, refused, order, warns, refuses⟩
        rcases cons_perm_toList_iff.mp order with ⟨rfl, later⟩ | ⟨rfl, later⟩
        · obtain _ | read := warns
          exact .inl ⟨rfl, _, read, none, refused, later, .kept, refuses⟩
        · obtain _ | read := refuses
          exact .inr ⟨rfl, _, read, warned, none, by simpa using later, warns, .kept⟩

/-- The bytes that are read as what a response says: one sequence of at most one warning and at most
one refusal, in either order. -/
def Spells (bytes : List UInt8) (warning : Option Warning) (refusal : Option Refusal) : Prop :=
  ∃ (elements : List Element) (warned refused : Option Element), IsSequence bytes elements ∧
    elements.Perm (warned.toList ++ refused.toList) ∧
    Option.Rel Warning.Reads warned warning ∧ Option.Rel Refusal.Reads refused refusal

theorem decode_eq_ok_iff {control : Control} {response : Response} :
    decode control = .ok response ↔ response.isCritical = control.isCritical ∧
      ∃ bytes, control.value = some bytes ∧ Spells bytes response.warning response.refusal := by
  constructor
  · intro found
    rw [decode] at found
    split at found
    · cases found
    next bytes present =>
      split at found
      · cases found
      next elements sequence =>
        split at found
        · cases found
        · obtain ⟨⟨warning, refusal⟩, read, found⟩ := bind_eq_ok_iff.mp found
          obtain ⟨warned, refused, order, warns, refuses⟩ := decodeElements_eq_ok_iff.mp read
          cases found
          exact ⟨rfl, bytes, present, elements, warned, refused, sequenceOf_eq_ok_iff.mp sequence,
            order, fills_none_iff.mp warns, fills_none_iff.mp refuses⟩
  · rintro ⟨isCritical, bytes, present, elements, warned, refused, sequence, order, warns, refuses⟩
    have few : ¬2 < elements.length := by
      rw [order.length_eq]
      cases warned <;> cases refused <;> simp
    have read : decodeElements none none elements = .ok (response.warning, response.refusal) :=
      decodeElements_eq_ok_iff.mpr
        ⟨warned, refused, order, fills_none_iff.mpr warns, fills_none_iff.mpr refuses⟩
    simp only [decode, present, sequenceOf_eq_ok_iff.mpr sequence, if_neg few, read, ← isCritical]
    rfl

theorem IsSequence.unique {bytes : List UInt8} {others : List Element}
    (sequence : IsSequence bytes elements) (also : IsSequence bytes others) :
    elements = others := by
  rw [← sequenceOf_eq_ok_iff] at sequence also
  exact Except.ok.inj (sequence.symm.trans also)

theorem IsSequence.of_elements (tags : ∀ element ∈ elements, element.tag.isMultiByte = false)
    (short : (Element.sequence elements).value.length < 2 ^ 32) :
    IsSequence (Element.sequence elements).encode elements := by
  have tag : Tag.isMultiByte Tag.sequence = false := by decide
  exact ⟨_, Element.decodeExact_encode ⟨tag, short⟩, rfl, Element.children_constructed tags short⟩

/-- Elements that have been read can be written in any order. -/
theorem IsSequence.write {bytes : List UInt8} {others : List Element}
    (sequence : IsSequence bytes elements) (order : elements.Perm others) :
    IsSequence (Element.sequence others).encode others := by
  obtain ⟨element, read, -, divided⟩ := sequence
  have spelled := Element.decodeExact_eq_ok_iff.mp read
  have size : (Element.encodeSiblings others).length = (Element.encodeSiblings elements).length :=
    (order.flatMap_right Element.encode).length_eq.symm
  have fewer := Element.length_encodeSiblings_le_of_decodeSiblings divided
  have short : (Element.sequence others).value.length < 2 ^ 32 := by
    change (Element.encodeSiblings others).length < 2 ^ 32
    rw [size]
    exact Nat.lt_of_le_of_lt fewer spelled.isReadable.length
  have tags : ∀ other ∈ others, other.tag.isMultiByte = false := fun other member =>
    (Element.isReadable_of_mem_of_decodeSiblings divided (order.mem_iff.mpr member)).tag
  exact .of_elements tags short

theorem Spells.of_perm {bytes swapped : List UInt8} {others : List Element}
    (spelled : Spells bytes warning refusal) (sequence : IsSequence bytes elements)
    (order : elements.Perm others) (also : IsSequence swapped others) :
    Spells swapped warning refusal := by
  obtain ⟨found, warned, refused, again, arranged, warns, refuses⟩ := spelled
  obtain rfl := sequence.unique again
  exact ⟨others, warned, refused, also, order.symm.trans arranged, warns, refuses⟩

end Response

/-- A control is read as a password policy response exactly if its value is one sequence of at most
one warning and at most one refusal, and it is the response that these say. The codes of a refusal
are the numbers up to eight. The order of the two says nothing: in another order they can be
written as well, and are read as the same response. -/
theorem values_read_by_grammar (control : Control) :
    (∀ response, Response.decode control = .ok response ↔
      response.isCritical = control.isCritical ∧ ∃ bytes, control.value = some bytes ∧
        Response.Spells bytes response.warning response.refusal) ∧
    (∀ code, (∃ refusal : Refusal, refusal.code = code) ↔ 0 ≤ code ∧ code ≤ 8) ∧
    ∀ response bytes elements others, Response.decode control = .ok response →
      control.value = some bytes → Response.IsSequence bytes elements → elements.Perm others →
      Response.IsSequence (Tlv.Element.sequence others).encode others ∧
      ∀ other swapped, other.isCritical = control.isCritical → other.value = some swapped →
        Response.IsSequence swapped others → Response.decode other = .ok response := by
  refine ⟨fun response => Response.decode_eq_ok_iff, fun code => Refusal.exists_code_eq_iff,
    fun response bytes elements others found present sequence order => ⟨sequence.write order, ?_⟩⟩
  intro other swapped same value also
  obtain ⟨isCritical, again, presentAgain, spelled⟩ := Response.decode_eq_ok_iff.mp found
  cases present.symm.trans presentAgain
  exact Response.decode_eq_ok_iff.mpr
    ⟨isCritical.trans same.symm, swapped, value, spelled.of_perm sequence order also⟩

/-- A refusal before a warning, both numbers padded, under an identifier of another kind. -/
def paddedControl : Control :=
  { oid := "1.2.4", isCritical := true,
    value := some [0x30, 0x0B, 0x81, 0x02, 0x00, 0x08, 0xA0, 0x05, 0x81, 0x03, 0x00, 0x00, 0x02] }

theorem values_read_by_grammar_padded :
    let response : Response := ⟨some ⟨.graceLoginsRemaining, 2⟩, some .passwordInHistory, true⟩
    Response.decode paddedControl = .ok response ∧
    Response.decode { paddedControl with
        value := some [0x30, 0x0B, 0xA0, 0x05, 0x81, 0x03, 0x00, 0x00, 0x02, 0x81, 0x02, 0x00,
          0x08] } =
      .ok response := by
  intro response
  obtain ⟨accepts, -, swaps⟩ := values_read_by_grammar paddedControl
  let refused : Tlv.Element := ⟨0x81, [0x00, 0x08]⟩
  let warned : Tlv.Element := ⟨0xA0, [0x81, 0x03, 0x00, 0x00, 0x02]⟩
  have sequence : Response.IsSequence [0x30, 0x0B, 0x81, 0x02, 0x00, 0x08, 0xA0, 0x05, 0x81, 0x03,
      0x00, 0x00, 0x02] [refused, warned] :=
    ⟨⟨0x30, [0x81, 0x02, 0x00, 0x08, 0xA0, 0x05, 0x81, 0x03, 0x00, 0x00, 0x02]⟩,
      by decide +kernel, rfl, by decide +kernel⟩
  have swapped : Response.IsSequence [0x30, 0x0B, 0xA0, 0x05, 0x81, 0x03, 0x00, 0x00, 0x02, 0x81,
      0x02, 0x00, 0x08] [warned, refused] :=
    ⟨⟨0x30, [0xA0, 0x05, 0x81, 0x03, 0x00, 0x00, 0x02, 0x81, 0x02, 0x00, 0x08]⟩,
      by decide +kernel, rfl, by decide +kernel⟩
  have order : [refused, warned].Perm [warned, refused] := .swap warned refused []
  have inside : warned.children = .ok [⟨0x81, [0x00, 0x00, 0x02]⟩] := by decide +kernel
  have warns : Warning.Reads warned ⟨.graceLoginsRemaining, 2⟩ :=
    .intro rfl inside rfl ⟨by decide, by decide, by decide +kernel⟩
  have refuses : Refusal.Reads refused .passwordInHistory :=
    ⟨rfl, by decide, by decide, by decide +kernel⟩
  have found : Response.decode paddedControl = .ok response :=
    (accepts response).mpr ⟨rfl, _, rfl, _, some warned, some refused, sequence, order,
      .some warns, .some refuses⟩
  exact ⟨found, (swaps response _ _ _ found rfl sequence order).2 _ _ rfl rfl swapped⟩

end DirectoryClient.PasswordPolicy
