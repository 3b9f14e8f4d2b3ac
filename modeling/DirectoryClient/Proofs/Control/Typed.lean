import DirectoryClient.Control.Registry
import DirectoryClient.Proofs.Control.List
import DirectoryClient.Proofs.Control.PasswordPolicy

namespace DirectoryClient

open Tlv (Element)

theorem PresenceKind.eq_of_oid_eq {kind other : PresenceKind} (same : kind.oid = other.oid) :
    kind = other := by
  cases kind <;> cases other <;> first | rfl | exact absurd same (by decide)

theorem PresenceKind.mem_all (kind : PresenceKind) : kind ∈ all := by
  cases kind <;> decide

theorem PresenceControl.decode_toControl (presence : PresenceControl) :
    decode presence.kind presence.toControl = .ok presence :=
  rfl

theorem ControlDecoder.boxed_self (decoder : ControlDecoder) : decoder.boxed = decoder := by
  funext control
  rw [boxed]
  cases decoder control <;> rfl

/-- The identifiers of the known kinds. -/
def ControlRegistry.builtinOids : List String :=
  PasswordPolicy.oid :: PresenceKind.all.map PresenceKind.oid

namespace Registry

variable {ε α : Type} {registry : Registry ε α} {oid : String} {kinds : List PresenceKind}

theorem getElem?_register (registry : Registry ε α) (oid other : String)
    (decoder : Control.Decoder ε α) : (registry.register oid decoder).decoders[other]? =
      if oid = other then some decoder else registry.decoders[other]? := by
  rw [register, Std.TreeMap.getElem?_insert]
  simp only [Std.LawfulEqCmp.compare_eq_iff_eq]

variable [DecodedControl α] [DecodingFailure ε]

theorem getElem?_foldl_registerPresence_of_not_mem
    (unknown : oid ∉ kinds.map PresenceKind.oid) :
    (kinds.foldl registerPresence registry).decoders[oid]? = registry.decoders[oid]? := by
  induction kinds generalizing registry with
  | nil => rfl
  | cons first rest ih =>
      rw [List.map_cons, List.mem_cons, not_or] at unknown
      rw [List.foldl_cons, ih unknown.2, registerPresence, getElem?_register,
        if_neg (Ne.symm unknown.1)]

theorem getElem?_foldl_registerPresence_of_mem {kind : PresenceKind} (member : kind ∈ kinds) :
    (kinds.foldl registerPresence registry).decoders[kind.oid]? =
      some (ControlDecoder.presence kind).boxed := by
  induction kinds generalizing registry with
  | nil => cases member
  | cons first rest ih =>
      rw [List.foldl_cons]
      by_cases later : kind ∈ rest
      · exact ih later
      · have same : kind = first := (List.mem_cons.mp member).resolve_right later
        have unknown : kind.oid ∉ rest.map PresenceKind.oid := by
          intro listed
          obtain ⟨other, present, shared⟩ := List.mem_map.mp listed
          exact later (PresenceKind.eq_of_oid_eq shared ▸ present)
        rw [getElem?_foldl_registerPresence_of_not_mem unknown, registerPresence,
          getElem?_register, if_pos (congrArg _ same.symm), same]

theorem getElem?_builtin_presence (kind : PresenceKind) :
    (builtin : Registry ε α).decoders[kind.oid]? = some (ControlDecoder.presence kind).boxed :=
  getElem?_foldl_registerPresence_of_mem kind.mem_all

theorem getElem?_builtin_passwordPolicy :
    (builtin : Registry ε α).decoders[PasswordPolicy.oid]? =
      some ControlDecoder.passwordPolicy.boxed := by
  have alone : PasswordPolicy.oid ∉ PresenceKind.all.map PresenceKind.oid := by decide
  rw [builtin, getElem?_foldl_registerPresence_of_not_mem alone, registerPasswordPolicy,
    getElem?_register, if_pos rfl]

theorem getElem?_builtin_of_not_mem (unknown : oid ∉ ControlRegistry.builtinOids) :
    (builtin : Registry ε α).decoders[oid]? = none := by
  rw [ControlRegistry.builtinOids, List.mem_cons, not_or] at unknown
  rw [builtin, getElem?_foldl_registerPresence_of_not_mem unknown.2, registerPasswordPolicy,
    getElem?_register, if_neg (Ne.symm unknown.1)]
  exact Std.TreeMap.getElem?_emptyc

end Registry

namespace ControlRegistry

variable {control : Control}

theorem decodeControl_presence {kind : PresenceKind} (known : control.oid = kind.oid) :
    builtin.decodeControl control = (PresenceControl.decode kind control).map .presence := by
  rw [Registry.decodeControl, known, Registry.getElem?_builtin_presence, ControlDecoder.boxed_self]
  rfl

theorem decodeControl_passwordPolicy (known : control.oid = PasswordPolicy.oid) :
    builtin.decodeControl control =
      (PasswordPolicy.Response.decode control).map .passwordPolicy := by
  rw [Registry.decodeControl, known, Registry.getElem?_builtin_passwordPolicy,
    ControlDecoder.boxed_self]
  rfl

theorem decodeControl_foreign (foreign : control.oid ∉ builtinOids) :
    builtin.decodeControl control = .ok (.generic control) := by
  rw [Registry.decodeControl, Registry.getElem?_builtin_of_not_mem foreign]
  rfl

/-- The known kinds are recognised by their identifiers, and nothing else is. -/
theorem decodeControl_toControl {typed : TypedControl}
    (foreign : ∀ control, typed = .generic control → control.oid ∉ builtinOids) :
    builtin.decodeControl typed.toControl = .ok typed := by
  cases typed with
  | generic control => exact decodeControl_foreign (foreign control rfl)
  | passwordPolicy response =>
      rw [TypedControl.toControl, decodeControl_passwordPolicy rfl, response.decode_toControl]
      rfl
  | presence request =>
      rw [TypedControl.toControl, decodeControl_presence rfl, request.decode_toControl]
      rfl

end ControlRegistry

/-- A list of typed controls is read back from its bytes as it was. -/
theorem typed_controls_read_back (typed : List TypedControl)
    (foreign : ∀ control, .generic control ∈ typed →
      control.oid ∉ ControlRegistry.builtinOids)
    (short : (Control.encodeList (typed.map TypedControl.toControl)).value.length < 2 ^ 32) :
    ∃ element controls,
      Element.decodeExact (Control.encodeList (typed.map TypedControl.toControl)).encode =
        .ok element ∧
      Control.decodeList element = .ok controls ∧
      controls.map (fun control => (control.oid, control.isCritical)) =
        typed.map (fun control => (control.oid, control.isCritical)) ∧
      controls.mapM ControlRegistry.builtin.decodeControl = .ok typed := by
  refine ⟨_, _, Control.decodeExact_encodeList short, Control.decodeList_encodeList short, ?_, ?_⟩
  · rw [List.map_map]
    apply List.map_congr_left
    intro control _
    cases control <;> rfl
  · apply mapM_map_eq_ok
    intro control member
    apply ControlRegistry.decodeControl_toControl
    rintro plain rfl
    exact foreign plain member

/-- The extremes of a warning, a response that says nothing, requests against their defaults and a
plain control. -/
def TypedControl.assorted : List TypedControl :=
  [.passwordPolicy ⟨some ⟨.graceLoginsRemaining, .minValue⟩, some .passwordInHistory, true⟩,
    .presence ⟨.retainIdentity, false⟩,
    .passwordPolicy ⟨some ⟨.timeBeforeExpiration, .maxValue⟩, none, false⟩,
    .generic { oid := "1.3.6.1.4.1.30221.2.5.4", isCritical := true, value := some [] },
    .passwordPolicy ⟨none, none, false⟩,
    .presence ⟨.subentries, true⟩]

theorem typed_controls_read_back_assorted :
    let encoded := Control.encodeList (TypedControl.assorted.map TypedControl.toControl)
    encoded.value.length < 2 ^ 32 ∧
      ∃ element controls, Element.decodeExact encoded.encode = .ok element ∧
        Control.decodeList element = .ok controls ∧
        controls.mapM ControlRegistry.builtin.decodeControl = .ok TypedControl.assorted := by
  intro encoded
  have short : encoded.value.length < 2 ^ 32 := by decide +kernel
  have foreign : ∀ control, .generic control ∈ TypedControl.assorted →
      control.oid ∉ ControlRegistry.builtinOids := by
    intro control member
    simp only [TypedControl.assorted, List.mem_cons, TypedControl.generic.injEq, reduceCtorEq,
      List.not_mem_nil, false_or, or_false] at member
    rw [member]
    decide
  obtain ⟨element, controls, read, decoded, -, upgraded⟩ :=
    typed_controls_read_back TypedControl.assorted foreign short
  exact ⟨short, element, controls, read, decoded, upgraded⟩

end DirectoryClient
