import DirectoryClient.Proofs.Control.Language
import DirectoryClient.Proofs.Control.Typed
import DirectoryClient.Proofs.Tlv.Shortest
import Mathlib.Data.List.Permutation

namespace DirectoryClient

open Tlv (Element)

namespace PasswordPolicy

theorem Warning.Reads.shortens {element : Element} {warning : Warning}
    (read : Reads element warning) : Element.Shortens warning.encode element := by
  cases read with
  | intro tag children kind payload =>
      have shorter := Element.shortens_ofInteger payload.some
      rw [kind, payload.payload] at shorter
      rw [Warning.encode, ← tag]
      exact Element.shortens_constructed children (.cons shorter .nil)

theorem Refusal.Reads.shortens {element : Element} {refusal : Refusal}
    (read : Reads element refusal) : Element.Shortens refusal.encode element := by
  have shorter := Element.shortens_ofInteger read.payload.some
  rw [read.tag, read.payload.payload] at shorter
  exact shorter

namespace Response

variable {bytes : List UInt8} {elements : List Element} {warned refused : Option Element}
  {warning : Option Warning} {refusal : Option Refusal} {response : Response}

theorem shortens_elements (warns : Option.Rel Warning.Reads warned response.warning)
    (refuses : Option.Rel Refusal.Reads refused response.refusal) :
    List.Forall₂ Element.Shortens response.elements (warned.toList ++ refused.toList) := by
  obtain ⟨warning, refusal, isCritical⟩ := response
  cases warns with
  | none =>
      cases refuses with
      | none => exact .nil
      | some refuse => exact .cons refuse.shortens .nil
  | some warn =>
      cases refuses with
      | none => exact .cons warn.shortens .nil
      | some refuse => exact .cons warn.shortens (.cons refuse.shortens .nil)

theorem Spells.length_encodeValue_le (spelled : Spells bytes response.warning response.refusal) :
    response.encodeValue.length ≤ bytes.length := by
  obtain ⟨elements, warned, refused, ⟨element, read, tag, divided⟩, order, warns, refuses⟩ := spelled
  have shorter : (Element.sequence response.elements).value.length ≤ element.value.length :=
    calc (Element.encodeSiblings response.elements).length
      _ ≤ (Element.encodeSiblings (warned.toList ++ refused.toList)).length :=
          Element.length_encodeSiblings_le_of_shortens (shortens_elements warns refuses)
      _ = (Element.encodeSiblings elements).length :=
          (order.flatMap_right Element.encode).length_eq.symm
      _ ≤ element.value.length := Element.length_encodeSiblings_le_of_decodeSiblings divided
  calc response.encodeValue.length
      = (Element.sequence response.elements).encodedLength := Element.length_encode _
    _ ≤ element.encodedLength := Element.encodedLength_mono shorter
    _ ≤ bytes.length := (Element.decodeExact_eq_ok_iff.mp read).encodedLength_le

/-- The warning stands first, if there is one. -/
def WarningFirst (bytes : List UInt8) : Prop :=
  ∃ elements, IsSequence bytes elements ∧
    (elements.map Element.tag).Sublist [warningTag, refusalTag]

theorem eq_of_sublist_tags (order : elements.Perm (warned.toList ++ refused.toList))
    (warns : Option.Rel Warning.Reads warned warning)
    (refuses : Option.Rel Refusal.Reads refused refusal)
    (sorted : (elements.map Element.tag).Sublist [warningTag, refusalTag]) :
    elements = warned.toList ++ refused.toList := by
  cases warns with
  | none =>
      cases refuses with
      | none => exact List.perm_nil.mp order
      | some refuse => exact List.perm_singleton.mp order
  | some warn =>
      cases refuses with
      | none => exact List.perm_singleton.mp order
      | some refuse =>
          rcases List.perm_pair.mp order with same | swapped
          · exact same
          · -- Two elements take up both tags, and then the first is that of a warning.
            have tags := sorted.eq_of_length (by rw [swapped]; rfl)
            rw [swapped, List.map_cons, refuse.tag] at tags
            cases tags

theorem Spells.eq_encodeValue (spelled : Spells bytes response.warning response.refusal)
    (first : WarningFirst bytes) (few : bytes.length ≤ response.encodeValue.length) :
    bytes = response.encodeValue := by
  obtain ⟨elements, warned, refused, sequence, order, warns, refuses⟩ := spelled
  obtain ⟨others, also, sorted⟩ := first
  obtain rfl := sequence.unique also
  obtain rfl := eq_of_sublist_tags order warns refuses sorted
  obtain ⟨element, read, tag, divided⟩ := sequence
  have shorter := Element.shortens_constructed divided (shortens_elements warns refuses)
  rw [tag] at shorter
  exact shorter.eq_encode (Element.decodeExact_eq_ok_iff.mp read) few

/-- The canonical value of what a response says: the shortest, and the only one of its length that
has the warning first. -/
structure IsCanonical (bytes : List UInt8) (warning : Option Warning) (refusal : Option Refusal) :
    Prop where
  spells : Spells bytes warning refusal
  first : WarningFirst bytes
  least : ∀ other, Spells other warning refusal → bytes.length ≤ other.length
  only : ∀ other, Spells other warning refusal → WarningFirst other →
    other.length = bytes.length → other = bytes

theorem spells_encodeValue (response : Response) :
    Spells response.encodeValue response.warning response.refusal := by
  obtain ⟨-, bytes, present, spelled⟩ := decode_eq_ok_iff.mp response.decode_toControl
  cases present
  exact spelled

theorem warningFirst_encodeValue (response : Response) : WarningFirst response.encodeValue := by
  refine ⟨_, sequenceOf_eq_ok_iff.mp response.sequenceOf_encodeValue, ?_⟩
  obtain ⟨warning, refusal, isCritical⟩ := response
  cases warning <;> cases refusal
  · exact List.nil_sublist _
  · exact (List.Sublist.refl [refusalTag]).cons warningTag
  · exact List.singleton_sublist.mpr List.mem_cons_self
  · exact List.Sublist.refl _

theorem isCanonical_encodeValue (response : Response) :
    IsCanonical response.encodeValue response.warning response.refusal where
  spells := response.spells_encodeValue
  first := response.warningFirst_encodeValue
  least := fun _ spelled => spelled.length_encodeValue_le
  only := fun _ spelled first same => spelled.eq_encodeValue first (Nat.le_of_eq same)

theorem exists_decode_eq_error_iff {control : Control} :
    (∃ error, decode control = .error error) ↔
      ¬∃ bytes warning refusal, control.value = some bytes ∧ Spells bytes warning refusal := by
  constructor
  · rintro ⟨error, failed⟩ ⟨bytes, warning, refusal, present, spelled⟩
    have read : decode control = .ok ⟨warning, refusal, control.isCritical⟩ :=
      decode_eq_ok_iff.mpr ⟨rfl, bytes, present, spelled⟩
    cases failed.symm.trans read
  · intro unread
    cases found : decode control with
    | error reason => exact ⟨reason, rfl⟩
    | ok response =>
        obtain ⟨-, bytes, present, spelled⟩ := decode_eq_ok_iff.mp found
        exact absurd ⟨bytes, _, _, present, spelled⟩ unread

end Response

end PasswordPolicy

namespace PresenceControl

variable {kind : PresenceKind} {control : Control}

theorem decode_eq_ok_iff {presence : PresenceControl} : decode kind control = .ok presence ↔
    control.value = none ∧ presence = ⟨kind, control.isCritical⟩ := by
  cases absent : control.value <;> simp [decode, absent, eq_comm]

theorem decode_eq_error_iff {error : ControlError} : decode kind control = .error error ↔
    control.value ≠ none ∧ error = .malformed kind.name .valuePresent := by
  cases absent : control.value <;> simp [decode, absent, eq_comm]

end PresenceControl

namespace ControlRegistry

/-- What a control becomes in the registry of the known kinds. -/
inductive Upgrades : Control → TypedControl → Prop where
  | generic {control : Control} (foreign : control.oid ∉ builtinOids) :
      Upgrades control (.generic control)
  | presence {control : Control} {kind : PresenceKind} (known : control.oid = kind.oid)
      (absent : control.value = none) : Upgrades control (.presence ⟨kind, control.isCritical⟩)
  | passwordPolicy {control : Control} {response : PasswordPolicy.Response}
      (known : control.oid = PasswordPolicy.oid)
      (decoded : PasswordPolicy.Response.decode control = .ok response) :
      Upgrades control (.passwordPolicy response)

variable {control : Control} {typed : TypedControl}

theorem oid_cases (oid : String) :
    (∃ kind : PresenceKind, oid = kind.oid) ∨ oid = PasswordPolicy.oid ∨ oid ∉ builtinOids := by
  by_cases known : oid ∈ builtinOids
  · rcases List.mem_cons.mp known with policy | presence
    · exact .inr (.inl policy)
    · obtain ⟨kind, -, same⟩ := List.mem_map.mp presence
      exact .inl ⟨kind, same.symm⟩
  · exact .inr (.inr known)

theorem decodeControl_eq_ok_iff :
    builtin.decodeControl control = .ok typed ↔ Upgrades control typed := by
  constructor
  · intro found
    rcases oid_cases control.oid with ⟨kind, known⟩ | known | foreign
    · rw [decodeControl_presence known, map_eq_ok_iff] at found
      obtain ⟨presence, decoded, rfl⟩ := found
      obtain ⟨absent, rfl⟩ := PresenceControl.decode_eq_ok_iff.mp decoded
      exact .presence known absent
    · rw [decodeControl_passwordPolicy known, map_eq_ok_iff] at found
      obtain ⟨response, decoded, rfl⟩ := found
      exact .passwordPolicy known decoded
    · rw [decodeControl_foreign foreign] at found
      cases found
      exact .generic foreign
  · rintro (foreign | ⟨known, absent⟩ | ⟨known, decoded⟩)
    · exact decodeControl_foreign foreign
    · rw [decodeControl_presence known, PresenceControl.decode_eq_ok_iff.mpr ⟨absent, rfl⟩]
      rfl
    · rw [decodeControl_passwordPolicy known, decoded]
      rfl

theorem decodeControl_eq_error_iff {error : ControlError} :
    builtin.decodeControl control = .error error ↔
      (∃ kind : PresenceKind, control.oid = kind.oid ∧ control.value ≠ none ∧
        error = .malformed kind.name .valuePresent) ∨
      control.oid = PasswordPolicy.oid ∧ PasswordPolicy.Response.decode control = .error error := by
  constructor
  · intro failed
    rcases oid_cases control.oid with ⟨kind, known⟩ | known | foreign
    · rw [decodeControl_presence known, map_eq_error_iff] at failed
      exact .inl ⟨kind, known, PresenceControl.decode_eq_error_iff.mp failed⟩
    · rw [decodeControl_passwordPolicy known, map_eq_error_iff] at failed
      exact .inr ⟨known, failed⟩
    · rw [decodeControl_foreign foreign] at failed
      cases failed
  · rintro (⟨kind, known, failed⟩ | ⟨known, failed⟩)
    · rw [decodeControl_presence known, map_eq_error_iff]
      exact PresenceControl.decode_eq_error_iff.mpr failed
    · rw [decodeControl_passwordPolicy known, map_eq_error_iff]
      exact failed

theorem oid_ne_passwordPolicy (kind : PresenceKind) : kind.oid ≠ PasswordPolicy.oid := by
  cases kind <;> decide

theorem mem_builtinOids_passwordPolicy : PasswordPolicy.oid ∈ builtinOids :=
  List.mem_cons_self

theorem Upgrades.oid_eq (upgraded : Upgrades control typed) : typed.oid = control.oid := by
  cases upgraded with
  | generic foreign => rfl
  | presence known absent => exact known.symm
  | passwordPolicy known decoded => exact known.symm

theorem Upgrades.isCritical_eq (upgraded : Upgrades control typed) :
    typed.isCritical = control.isCritical := by
  cases upgraded with
  | generic foreign => rfl
  | presence known absent => rfl
  | passwordPolicy known decoded => exact (PasswordPolicy.Response.decode_eq_ok_iff.mp decoded).1

/-- A plain control is known from what it becomes, unless it is a password policy response. -/
theorem Upgrades.toControl_eq (upgraded : Upgrades control typed)
    (other : ∀ response, typed ≠ .passwordPolicy response) : typed.toControl = control := by
  cases upgraded with
  | generic foreign => rfl
  | presence known absent =>
      obtain ⟨oid, isCritical, value, named⟩ := control
      cases known
      cases absent
      rfl
  | passwordPolicy known decoded => exact absurd rfl (other _)

theorem exists_decodeControl_eq_error_iff :
    (∃ error, builtin.decodeControl control = .error error) ↔
      (∃ kind : PresenceKind, control.oid = kind.oid) ∧ control.value ≠ none ∨
      control.oid = PasswordPolicy.oid ∧ ¬∃ bytes warning refusal, control.value = some bytes ∧
        PasswordPolicy.Response.Spells bytes warning refusal := by
  rw [← PasswordPolicy.Response.exists_decode_eq_error_iff]
  simp only [decodeControl_eq_error_iff]
  constructor
  · rintro ⟨error, ⟨kind, known, present, rfl⟩ | ⟨known, failed⟩⟩
    · exact .inl ⟨⟨kind, known⟩, present⟩
    · exact .inr ⟨known, error, failed⟩
  · rintro (⟨⟨kind, known⟩, present⟩ | ⟨known, error, failed⟩)
    · exact ⟨_, .inl ⟨kind, known, present, rfl⟩⟩
    · exact ⟨error, .inr ⟨known, failed⟩⟩

theorem Upgrades.toControl (upgraded : Upgrades control typed) :
    builtin.decodeControl typed.toControl = .ok typed := by
  apply decodeControl_toControl
  rintro plain rfl
  cases upgraded with
  | generic foreign => exact foreign

end ControlRegistry

/-- An upgrade keeps the identifier and the criticality of a control, and what it yields is yielded
again by its own plain control. That is the control itself, except for a password policy response,
whose value is brought into its canonical form. An upgrade fails exactly for a value where there
must be none, and for a password policy response whose value is missing or not one. -/
theorem upgrades_lose_nothing (control : Control) :
    (∀ typed, ControlRegistry.builtin.decodeControl control = .ok typed →
      typed.oid = control.oid ∧ typed.isCritical = control.isCritical ∧
      ControlRegistry.builtin.decodeControl typed.toControl = .ok typed ∧
      ((∀ response, typed ≠ .passwordPolicy response) → typed.toControl = control) ∧
      ∀ response, typed = .passwordPolicy response →
        ∃ bytes written, control.value = some bytes ∧ typed.toControl.value = some written ∧
          written.length ≤ bytes.length ∧
          PasswordPolicy.Response.IsCanonical written response.warning response.refusal) ∧
    ((∃ error, ControlRegistry.builtin.decodeControl control = .error error) ↔
      (∃ kind : PresenceKind, control.oid = kind.oid) ∧ control.value ≠ none ∨
      control.oid = PasswordPolicy.oid ∧ ¬∃ bytes warning refusal, control.value = some bytes ∧
        PasswordPolicy.Response.Spells bytes warning refusal) := by
  constructor
  · intro typed found
    have upgraded := ControlRegistry.decodeControl_eq_ok_iff.mp found
    refine ⟨upgraded.oid_eq, upgraded.isCritical_eq, upgraded.toControl, upgraded.toControl_eq, ?_⟩
    rintro response rfl
    cases upgraded with
    | passwordPolicy known decoded =>
        obtain ⟨-, bytes, present, spelled⟩ := PasswordPolicy.Response.decode_eq_ok_iff.mp decoded
        exact ⟨bytes, _, present, rfl, spelled.length_encodeValue_le,
          response.isCanonical_encodeValue⟩
  · exact ControlRegistry.exists_decodeControl_eq_error_iff

/-- A response whose elements stand in the other order and whose numbers are padded loses three
bytes. Without its value it is no response. -/
theorem upgrades_lose_nothing_padded :
    let control : Control :=
      { oid := PasswordPolicy.oid, isCritical := true, value := PasswordPolicy.paddedControl.value }
    let response : PasswordPolicy.Response :=
      ⟨some ⟨.graceLoginsRemaining, 2⟩, some .passwordInHistory, true⟩
    ControlRegistry.builtin.decodeControl control = .ok (.passwordPolicy response) ∧
    ControlRegistry.builtin.decodeControl response.toControl = .ok (.passwordPolicy response) ∧
    response.toControl.value =
      some [0x30, 0x08, 0xA0, 0x03, 0x81, 0x01, 0x02, 0x81, 0x01, 0x08] ∧
    PasswordPolicy.Response.IsCanonical response.encodeValue response.warning response.refusal ∧
    ∃ error, ControlRegistry.builtin.decodeControl { control with value := none } =
      .error error := by
  intro control response
  have read : PasswordPolicy.Response.decode control = .ok response := by decide +kernel
  have found : ControlRegistry.builtin.decodeControl control = .ok (.passwordPolicy response) := by
    rw [ControlRegistry.decodeControl_passwordPolicy rfl, read]
    rfl
  obtain ⟨-, -, again, -, canonical⟩ := (upgrades_lose_nothing control).1 _ found
  obtain ⟨bytes, written, -, shown, -, least⟩ := canonical response rfl
  cases shown
  refine ⟨found, again, by decide +kernel, least, ?_⟩
  refine (upgrades_lose_nothing { control with value := none }).2.mpr (.inr ⟨rfl, ?_⟩)
  rintro ⟨bytes, warning, refusal, present, -⟩
  cases present

end DirectoryClient
