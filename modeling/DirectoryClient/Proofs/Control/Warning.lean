import DirectoryClient.Proofs.Control.Fault

namespace DirectoryClient.PasswordPolicy

open Tlv (Element)

/-- The value of the control is a response with a warning that holds the number, and with the given
refusal. Nothing is said of the payload of the number. -/
def Warns (control : Control) (kind : WarningKind) (number : Element) (refusal : Option Refusal) :
    Prop :=
  ∃ bytes elements warned refused, control.value = some bytes ∧ Response.IsSequence bytes elements ∧
    elements.Perm (warned :: refused.toList) ∧ warned.tag = warningTag ∧
    warned.children = .ok [number] ∧ number.tag = kind.tag ∧
    Option.Rel Refusal.Reads refused refusal

variable {control : Control} {response : Response} {warning : Warning} {kind : WarningKind}
  {number : Element} {refusal : Option Refusal}

theorem exists_warns_of_decode (decoded : Response.decode control = .ok response)
    (present : response.warning = some warning) :
    ∃ number, Warns control warning.kind number response.refusal := by
  obtain ⟨-, bytes, valued, elements, warned, refused, sequence, order, reads, refuses⟩ :=
    Response.decode_eq_ok_iff.mp decoded
  rw [present] at reads
  cases reads with
  | @some warned _ read =>
      obtain ⟨tag, children, known, -⟩ := read
      exact ⟨_, bytes, elements, warned, refused, valued, sequence, order, tag, children, known,
        refuses⟩

theorem Warns.decode_eq_ok (warns : Warns control kind number refusal) (some : number.value ≠ [])
    (few : number.value.length ≤ 4) :
    ∃ value : Int32,
      Response.decode control = .ok ⟨.some ⟨kind, value⟩, refusal, control.isCritical⟩ ∧
      value.toInt = Tlv.ofTwosComplement number.value := by
  obtain ⟨bytes, elements, warned, refused, valued, sequence, order, tag, children, known,
    refuses⟩ := warns
  obtain ⟨value, same⟩ := Tlv.exists_int32_of_length_le some few
  have read : Warning.Reads warned ⟨kind, value⟩ :=
    .intro tag children known ⟨some, few, same.symm⟩
  exact ⟨value, Response.decode_eq_ok_iff.mpr ⟨rfl, bytes, valued, elements, .some warned, refused,
    sequence, order, .some read, refuses⟩, same⟩

theorem Warning.decode_of_length {warned : Element} (children : warned.children = .ok [number])
    (known : number.tag = kind.tag) (wrong : number.value = [] ∨ 4 < number.value.length) :
    decode warned =
      malformed (.warningNumber (.numberLength .integer 4 number.value.length)) := by
  have refused : number.decodeInteger32 =
      .error (.numberLength .integer 4 number.value.length) := by
    rw [Element.decodeInteger32, Element.decodeNumber, if_pos]
    rw [Bool.or_eq_true, List.isEmpty_iff, decide_eq_true_iff]
    exact wrong
  have found := WarningKind.ofTag?_eq_some_iff.mpr known.symm
  rw [decode, children]
  change decodeNumber number = _
  simp only [decodeNumber, found, refused]

theorem Warns.decode_eq_error (warns : Warns control kind number refusal)
    (wrong : number.value = [] ∨ 4 < number.value.length) :
    Response.decode control =
      malformed (.warningNumber (.numberLength .integer 4 number.value.length)) := by
  obtain ⟨bytes, elements, warned, refused, valued, sequence, order, tag, children, known,
    refuses⟩ := warns
  have failed := Warning.decode_of_length children known wrong
  have few : ¬2 < elements.length := by
    rw [order.length_eq]
    cases refused <;> simp
  have stopped : Response.decodeElements none none elements =
      malformed (.warningNumber (.numberLength .integer 4 number.value.length)) := by
    have start : Response.decodeElements none none [] = .ok (none, none) := rfl
    cases refuses with
    | none =>
        rw [List.perm_singleton.mp order]
        exact Response.decodeElements_of_warning start tag failed
    | @some refused refusal read =>
        rcases List.perm_pair.mp order with rfl | rfl
        · exact Response.decodeElements_of_warning start tag failed
        · have front : Response.decodeElements none none [refused] = .ok (none, .some refusal) :=
            Response.decodeElements_eq_ok_iff.mpr
              ⟨none, .some refused, .refl _, .kept, .filled read⟩
          exact Response.decodeElements_of_warning front tag failed
  simp only [Response.decode, valued, Response.sequenceOf_eq_ok_iff.mpr sequence, if_neg few,
    stopped]
  rfl

/-- The sign of a number is the highest bit of its payload. -/
theorem IsNumber.nonneg_iff {value : Int} (payload : IsNumber number value) :
    0 ≤ value ↔ ∃ first rest, number.value = first :: rest ∧ first < 0x80 := by
  obtain ⟨some, -, rfl⟩ := payload
  cases bytes : number.value with
  | nil => exact absurd bytes some
  | cons first rest =>
      rw [Tlv.ofTwosComplement_nonneg_iff]
      constructor
      · exact fun clear => ⟨first, rest, rfl, clear⟩
      · rintro ⟨_, _, same, clear⟩
        cases same
        exact clear

/-- Each warning that is read is the number of a warning in the value of the control. A number of
one to four bytes is read as what it is in two's complement, so the warning is below zero exactly if
the highest bit is set. A control with a number of any other length is turned down for it. -/
theorem warnings_of_either_sign (control : Control) :
    (∀ response warning, Response.decode control = .ok response → response.warning = some warning →
      ∃ number, Warns control warning.kind number response.refusal) ∧
    ∀ kind number refusal, Warns control kind number refusal →
      (number.value ≠ [] → number.value.length ≤ 4 → ∃ value : Int32,
        Response.decode control = .ok ⟨some ⟨kind, value⟩, refusal, control.isCritical⟩ ∧
        value.toInt = Tlv.ofTwosComplement number.value ∧
        (0 ≤ value.toInt ↔ ∃ first rest, number.value = first :: rest ∧ first < 0x80)) ∧
      (number.value = [] ∨ 4 < number.value.length → Response.decode control =
        .error
          (.malformed name (.warningNumber (.numberLength .integer 4 number.value.length)))) := by
  refine ⟨fun response warning => exists_warns_of_decode, fun kind number refusal warns => ⟨?_, ?_⟩⟩
  · intro some few
    obtain ⟨value, decoded, same⟩ := warns.decode_eq_ok some few
    have payload : IsNumber number value.toInt := ⟨some, few, same.symm⟩
    exact ⟨value, decoded, same, payload.nonneg_iff⟩
  · exact warns.decode_eq_error

/-- Grace logins below zero, with a byte of padding and behind a refusal. With three bytes more the
number is too long. -/
theorem warnings_of_either_sign_padded :
    let control : Control :=
      { oid := oid, isCritical := true,
        value := some [0x30, 0x09, 0x81, 0x01, 0x08, 0xA0, 0x04, 0x81, 0x02, 0xFF, 0x80] }
    let longer : Control :=
      { control with
        value := some [0x30, 0x09, 0xA0, 0x07, 0x81, 0x05, 0xFF, 0xFF, 0xFF, 0xFF, 0x80] }
    (∃ value : Int32, value.toInt = -128 ∧
      Response.decode control =
        .ok ⟨some ⟨.graceLoginsRemaining, value⟩, some .passwordInHistory, true⟩) ∧
      Response.decode longer =
        .error (.malformed name (.warningNumber (.numberLength .integer 4 5))) := by
  intro control longer
  constructor
  · let refused : Element := ⟨0x81, [0x08]⟩
    let warned : Element := ⟨0xA0, [0x81, 0x02, 0xFF, 0x80]⟩
    have reads : Refusal.Reads refused .passwordInHistory :=
      ⟨rfl, by decide, by decide, by decide +kernel⟩
    have warns : Warns control .graceLoginsRemaining ⟨0x81, [0xFF, 0x80]⟩
        (some .passwordInHistory) :=
      ⟨_, [refused, warned], warned, some refused, rfl,
        ⟨⟨0x30, [0x81, 0x01, 0x08, 0xA0, 0x04, 0x81, 0x02, 0xFF, 0x80]⟩, by decide +kernel, rfl,
          by decide +kernel⟩,
        .swap warned refused [], rfl, by decide +kernel, rfl, .some reads⟩
    obtain ⟨value, decoded, same, -⟩ :=
      ((warnings_of_either_sign control).2 _ _ _ warns).1 (by decide) (by decide)
    exact ⟨value, same.trans (by decide +kernel), decoded⟩
  · let warned : Element := ⟨0xA0, [0x81, 0x05, 0xFF, 0xFF, 0xFF, 0xFF, 0x80]⟩
    have warns : Warns longer .graceLoginsRemaining ⟨0x81, [0xFF, 0xFF, 0xFF, 0xFF, 0x80]⟩ none :=
      ⟨_, [warned], warned, none, rfl,
        ⟨⟨0x30, [0xA0, 0x07, 0x81, 0x05, 0xFF, 0xFF, 0xFF, 0xFF, 0x80]⟩, by decide +kernel, rfl,
          by decide +kernel⟩,
        .refl _, rfl, by decide +kernel, rfl, .none⟩
    exact ((warnings_of_either_sign longer).2 _ _ _ warns).2 (.inr (by decide))

/-- One second less than none until the password expires. -/
def belowZeroControl : Control :=
  { Response.toControl ⟨none, none, false⟩ with
    value := some [0x30, 0x05, 0xA0, 0x03, 0x80, 0x01, 0xFF] }

theorem warning_below_zero :
    Response.decode belowZeroControl = .ok ⟨some ⟨.timeBeforeExpiration, -1⟩, none, false⟩ ∧
      ¬∀ (control : Control) (response : Response) (warning : Warning),
        Response.decode control = .ok response → response.warning = some warning →
          0 ≤ warning.value.toInt ∧ warning.value.toInt ≤ Int32.maxValue.toInt := by
  have decoded : Response.decode belowZeroControl =
      .ok ⟨some ⟨.timeBeforeExpiration, -1⟩, none, false⟩ := by
    decide +kernel
  refine ⟨decoded, fun kept => ?_⟩
  have nonnegative := (kept _ _ _ decoded rfl).1
  exact absurd nonnegative (by decide)

end DirectoryClient.PasswordPolicy
