import DirectoryClient.Proofs.Control.Upgrade

namespace DirectoryClient

open Tlv (DecodeError Element)

/-- The error blames the control of this name. -/
def ControlError.Blames (error : ControlError) (control : String) : Prop :=
  ∃ fault, error = .malformed control fault

theorem ControlError.lift_eq_error_iff {α : Type} {result : Except DecodeError α}
    {error : ControlError} :
    ControlError.lift result = .error error ↔
      ∃ reason, result = .error reason ∧ error = .codec reason := by
  cases result <;> simp [ControlError.lift, Except.mapError, eq_comm]

namespace PasswordPolicy

variable {element : Element} {error : ControlError}

theorem Warning.decodeNumber_eq_error {number : Element}
    (failed : decodeNumber number = .error error) : error.Blames name := by
  rw [decodeNumber] at failed
  split at failed
  · cases failed
    exact ⟨_, rfl⟩
  · split at failed
    · cases failed
      exact ⟨_, rfl⟩
    · cases failed

theorem Warning.decode_eq_error (failed : decode element = .error error) :
    error.Blames name ∨ ∃ reason, element.children = .error reason ∧ error = .codec reason := by
  rw [decode] at failed
  rcases bind_eq_error_iff.mp failed with undivided | ⟨children, divided, failed⟩
  · exact .inr (ControlError.lift_eq_error_iff.mp undivided)
  · split at failed
    · exact .inl (decodeNumber_eq_error failed)
    · cases failed
      exact .inl ⟨_, rfl⟩

theorem Warning.decode_of_children_eq_error {reason : DecodeError}
    (undivided : element.children = .error reason) : decode element = .error (.codec reason) := by
  rw [decode, undivided]
  rfl

theorem Refusal.decode_eq_error (failed : decode element = .error error) :
    error.Blames PasswordPolicy.name := by
  rw [decode] at failed
  split at failed
  · cases failed
    exact ⟨_, rfl⟩
  · split at failed
    · cases failed
      exact ⟨_, rfl⟩
    · cases failed

namespace Response

variable {elements : List Element} {warning : Option Warning} {refusal : Option Refusal}
  {reason : DecodeError}

/-- Reading the elements stops at a warning that does not divide: those before it have been read,
and no warning was among them. -/
inductive StopsAtWarning (warning : Option Warning) (refusal : Option Refusal) :
    List Element → DecodeError → Prop where
  | intro {front rest : List Element} {warned : Element} {reason : DecodeError}
      {before : Option Refusal} (read : decodeElements warning refusal front = .ok (none, before))
      (tag : warned.tag = warningTag) (undivided : warned.children = .error reason) :
      StopsAtWarning warning refusal (front ++ warned :: rest) reason

theorem decodeElements_append (front back : List Element) :
    decodeElements warning refusal (front ++ back) =
      decodeElements warning refusal front >>= fun fields =>
        decodeElements fields.1 fields.2 back := by
  induction front generalizing warning refusal with
  | nil => rfl
  | cons element rest ih =>
      simp only [List.cons_append, decodeElements, ih]
      split
      · split
        · rfl
        · exact (bind_assoc _ _ _).symm
      · split
        · split
          · rfl
          · exact (bind_assoc _ _ _).symm
        · rfl

/-- A warning that does not decode fails the whole, behind elements without a warning. -/
theorem decodeElements_of_warning {front rest : List Element} {warned : Element}
    {before : Option Refusal} (read : decodeElements warning refusal front = .ok (none, before))
    (tag : warned.tag = warningTag) (failed : Warning.decode warned = .error error) :
    decodeElements warning refusal (front ++ warned :: rest) = .error error := by
  rw [decodeElements_append, read]
  change decodeElements none _ _ = _
  rw [decodeElements, if_pos tag, failed]
  rfl

theorem StopsAtWarning.cons {fields : Option Warning × Option Refusal}
    (read : decodeElements warning refusal [element] = .ok fields)
    (stops : StopsAtWarning fields.1 fields.2 elements reason) :
    StopsAtWarning warning refusal (element :: elements) reason := by
  cases stops with
  | @intro front rest warned reason before later tag undivided =>
      have front_read : decodeElements warning refusal (element :: front) = .ok (none, before) := by
        rw [← List.singleton_append, decodeElements_append, read]
        exact later
      exact .intro front_read tag undivided

theorem StopsAtWarning.decodeElements_eq (stops : StopsAtWarning warning refusal elements reason) :
    decodeElements warning refusal elements = .error (.codec reason) := by
  cases stops with
  | intro read tag undivided =>
      exact decodeElements_of_warning read tag (Warning.decode_of_children_eq_error undivided)

theorem decodeElements_singleton_eq_error
    (failed : decodeElements warning refusal [element] = .error error) :
    error.Blames name ∨ warning = none ∧ element.tag = warningTag ∧
      ∃ reason, element.children = .error reason ∧ error = .codec reason := by
  rw [decodeElements] at failed
  split at failed
  next tag =>
    cases warning with
    | some found =>
        cases failed
        exact .inl ⟨_, rfl⟩
    | none =>
        rcases bind_eq_error_iff.mp failed with undecoded | ⟨found, decoded, done⟩
        · exact (Warning.decode_eq_error undecoded).imp_right fun undivided =>
            ⟨rfl, tag, undivided⟩
        · cases done
  next other =>
    split at failed
    next tag =>
      cases refusal with
      | some found =>
          cases failed
          exact .inl ⟨_, rfl⟩
      | none =>
          rcases bind_eq_error_iff.mp failed with undecoded | ⟨found, decoded, done⟩
          · exact .inl (Refusal.decode_eq_error undecoded)
          · cases done
    next unknown =>
      cases failed
      exact .inl ⟨_, rfl⟩

theorem decodeElements_eq_error (failed : decodeElements warning refusal elements = .error error) :
    error.Blames name ∨
      ∃ reason, StopsAtWarning warning refusal elements reason ∧ error = .codec reason := by
  induction elements generalizing warning refusal with
  | nil => cases failed
  | cons element rest ih =>
      -- The first element alone, then the rest from the fields that it leaves.
      rw [← List.singleton_append, decodeElements_append] at failed
      rcases bind_eq_error_iff.mp failed with stopped | ⟨fields, read, failed⟩
      · rcases decodeElements_singleton_eq_error stopped with
          blames | ⟨rfl, tag, reason, undivided, rfl⟩
        · exact .inl blames
        · have start : decodeElements none refusal [] = .ok (none, refusal) := rfl
          exact .inr ⟨reason, .intro start tag undivided, rfl⟩
      · rcases ih failed with blames | ⟨reason, stops, rfl⟩
        · exact .inl blames
        · exact .inr ⟨reason, .cons read stops, rfl⟩

/-- The elements begin with a warning that does not divide, or with a refusal and such a warning. -/
inductive IsUndivided : List Element → DecodeError → Prop where
  | intro {refused : Option Element} {refusal : Option Refusal} {warned : Element}
      {rest : List Element} {reason : DecodeError}
      (refuses : Option.Rel Refusal.Reads refused refusal) (tag : warned.tag = warningTag)
      (undivided : warned.children = .error reason) :
      IsUndivided (refused.toList ++ warned :: rest) reason

theorem stopsAtWarning_none_iff :
    StopsAtWarning none none elements reason ↔ IsUndivided elements reason := by
  constructor
  · rintro (@⟨front, rest, warned, reason, refusal, read, tag, undivided⟩)
    obtain ⟨_, refused, order, warns, refuses⟩ := decodeElements_eq_ok_iff.mp read
    cases warns
    have same : front = refused.toList := by
      cases refused with
      | none => exact List.perm_nil.mp order
      | some element => exact List.perm_singleton.mp order
    rw [same]
    exact .intro (fills_none_iff.mp refuses) tag undivided
  · rintro (@⟨refused, refusal, warned, rest, reason, refuses, tag, undivided⟩)
    have read : decodeElements none none refused.toList = .ok (none, refusal) :=
      decodeElements_eq_ok_iff.mpr ⟨none, refused, .refl _, .kept, fills_none_iff.mpr refuses⟩
    exact .intro read tag undivided

/-- The bytes are a sequence of at most two elements and hold a warning that does not divide. -/
def HasUndividedWarning (bytes : List UInt8) (reason : DecodeError) : Prop :=
  ∃ elements, IsSequence bytes elements ∧ elements.length ≤ 2 ∧ IsUndivided elements reason

theorem decode_eq_error {control : Control} (failed : decode control = .error error) :
    error.Blames name ∨ ∃ bytes reason, control.value = some bytes ∧
      HasUndividedWarning bytes reason ∧ error = .codec reason := by
  rw [decode] at failed
  split at failed
  · cases failed
    exact .inl ⟨_, rfl⟩
  next bytes present =>
    split at failed
    · cases failed
      exact .inl ⟨_, rfl⟩
    next elements sequence =>
      split at failed
      · cases failed
        exact .inl ⟨_, rfl⟩
      next few =>
        rcases bind_eq_error_iff.mp failed with failed | ⟨fields, read, done⟩
        · rcases decodeElements_eq_error failed with blames | ⟨reason, stops, rfl⟩
          · exact .inl blames
          · exact .inr ⟨bytes, reason, present, ⟨elements, sequenceOf_eq_ok_iff.mp sequence,
              Nat.not_lt.mp few, stopsAtWarning_none_iff.mp stops⟩, rfl⟩
        · cases done

theorem decode_eq_codec_iff {control : Control} : decode control = .error (.codec reason) ↔
    ∃ bytes, control.value = some bytes ∧ HasUndividedWarning bytes reason := by
  constructor
  · intro failed
    rcases decode_eq_error failed with ⟨fault, same⟩ | ⟨bytes, _, present, undivided, same⟩
    · cases same
    · cases same
      exact ⟨bytes, present, undivided⟩
  · rintro ⟨bytes, present, elements, sequence, few, undivided⟩
    have stops := stopsAtWarning_none_iff.mpr undivided
    simp only [decode, present, sequenceOf_eq_ok_iff.mpr sequence, if_neg (Nat.not_lt.mpr few),
      stops.decodeElements_eq]
    rfl

end Response

end PasswordPolicy

/-- An upgrade that fails blames the control by the name of its kind, with one exception: for a
password policy response with a warning that does not divide into elements, what is wrong with the
payload of the warning is all that is said. -/
theorem upgrade_failures_blame (control : Control) :
    (∀ error, ControlRegistry.builtin.decodeControl control = .error error →
      (∃ kind : PresenceKind, control.oid = kind.oid ∧
        error = .malformed kind.name .valuePresent) ∨
      control.oid = PasswordPolicy.oid ∧
        (error.Blames PasswordPolicy.name ∨ ∃ reason, error = .codec reason)) ∧
    ∀ reason, ControlRegistry.builtin.decodeControl control = .error (.codec reason) ↔
      control.oid = PasswordPolicy.oid ∧ ∃ bytes, control.value = some bytes ∧
        PasswordPolicy.Response.HasUndividedWarning bytes reason := by
  constructor
  · intro error failed
    rcases ControlRegistry.decodeControl_eq_error_iff.mp failed with
      ⟨kind, known, -, same⟩ | ⟨known, failed⟩
    · exact .inl ⟨kind, known, same⟩
    · rcases PasswordPolicy.Response.decode_eq_error failed with blames | ⟨_, reason, -, -, same⟩
      · exact .inr ⟨known, .inl blames⟩
      · exact .inr ⟨known, .inr ⟨reason, same⟩⟩
  · intro reason
    rw [ControlRegistry.decodeControl_eq_error_iff, PasswordPolicy.Response.decode_eq_codec_iff]
    simp only [reduceCtorEq, and_false, exists_false, false_or]

/-- A warning that ends after the tag of its number. -/
def PasswordPolicy.brokenControl : Control :=
  { PasswordPolicy.Response.toControl ⟨none, none, false⟩ with
    value := some [0x30, 0x03, 0xA0, 0x01, 0x80] }

/-- The broken warning behind a refusal, and an empty value where there must be none. -/
theorem upgrade_failures_blame_broken :
    ControlRegistry.builtin.decodeControl { PasswordPolicy.brokenControl with
        value := some [0x30, 0x06, 0x81, 0x01, 0x00, 0xA0, 0x01, 0x80] } =
      .error (.codec (.truncated 1 0)) ∧
    let valued : Control := { PresenceControl.toControl ⟨.subentries, true⟩ with value := some [] }
    ∃ error, ControlRegistry.builtin.decodeControl valued = .error error ∧
      ∃ kind : PresenceKind, valued.oid = kind.oid ∧ error = .malformed kind.name .valuePresent := by
  constructor
  · have sequence : PasswordPolicy.Response.IsSequence
        [0x30, 0x06, 0x81, 0x01, 0x00, 0xA0, 0x01, 0x80] [⟨0x81, [0x00]⟩, ⟨0xA0, [0x80]⟩] :=
      ⟨⟨0x30, [0x81, 0x01, 0x00, 0xA0, 0x01, 0x80]⟩, by decide +kernel, rfl, by decide +kernel⟩
    have refuses : PasswordPolicy.Refusal.Reads ⟨0x81, [0x00]⟩ .passwordExpired :=
      ⟨rfl, by decide, by decide, by decide +kernel⟩
    have undivided : Element.children ⟨0xA0, [0x80]⟩ = .error (.truncated 1 0) := by
      decide +kernel
    have behind : PasswordPolicy.Response.IsUndivided [⟨0x81, [0x00]⟩, ⟨0xA0, [0x80]⟩]
        (.truncated 1 0) :=
      .intro (.some refuses) rfl undivided
    exact ((upgrade_failures_blame _).2 _).mpr ⟨rfl, _, rfl, _, sequence, by decide, behind⟩
  · intro valued
    have known : valued.oid = PresenceKind.subentries.oid := rfl
    have failed : ControlRegistry.builtin.decodeControl valued =
        .error (.malformed PresenceKind.subentries.name .valuePresent) := by
      rw [ControlRegistry.decodeControl_presence known]
      rfl
    have other : valued.oid ≠ PasswordPolicy.oid :=
      ControlRegistry.oid_ne_passwordPolicy .subentries
    exact ⟨_, failed, ((upgrade_failures_blame valued).1 _ failed).resolve_right
      fun policy => other policy.1⟩

/-- Where the payload of the warning ends early, that is all that is said, and no control is
named. -/
theorem upgrade_failure_nameless :
    ControlRegistry.builtin.decodeControl PasswordPolicy.brokenControl =
        .error (.codec (.truncated 1 0)) ∧
      ¬∀ control : Control, control.oid ∈ ControlRegistry.builtinOids →
        ∀ error, ControlRegistry.builtin.decodeControl control = .error error →
          ∃ named, error.Blames named := by
  have undecoded : PasswordPolicy.Response.decode PasswordPolicy.brokenControl =
      .error (.codec (.truncated 1 0)) := by
    decide +kernel
  have failed : ControlRegistry.builtin.decodeControl PasswordPolicy.brokenControl =
      .error (.codec (.truncated 1 0)) := by
    rw [ControlRegistry.decodeControl_passwordPolicy rfl, undecoded]
    rfl
  refine ⟨failed, fun blamed => ?_⟩
  obtain ⟨named, fault, same⟩ :=
    blamed _ ControlRegistry.mem_builtinOids_passwordPolicy _ failed
  cases same

end DirectoryClient
