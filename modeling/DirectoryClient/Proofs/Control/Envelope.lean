import DirectoryClient.Proofs.Control.List
import DirectoryClient.Proofs.Tlv.Siblings

namespace DirectoryClient

open Tlv (DecodeError Element Tag)

theorem bind_eq_ok_iff {ε α β : Type} {first : Except ε α} {next : α → Except ε β} {result : β} :
    first >>= next = .ok result ↔ ∃ middle, first = .ok middle ∧ next middle = .ok result := by
  cases first with
  | error reason => simp [bind, Except.bind]
  | ok middle => simp [bind, Except.bind]

theorem bind_eq_error_iff {ε α β : Type} {first : Except ε α} {next : α → Except ε β} {error : ε} :
    first >>= next = .error error ↔
      first = .error error ∨ ∃ middle, first = .ok middle ∧ next middle = .error error := by
  cases first with
  | error reason => simp [bind, Except.bind]
  | ok middle => simp [bind, Except.bind]

theorem map_eq_ok_iff {ε α β : Type} {first : Except ε α} {change : α → β} {result : β} :
    first.map change = .ok result ↔ ∃ middle, first = .ok middle ∧ change middle = result := by
  cases first with
  | error reason => simp [Except.map]
  | ok middle => simp [Except.map]

theorem map_eq_error_iff {ε α β : Type} {first : Except ε α} {change : α → β} {error : ε} :
    first.map change = .error error ↔ first = .error error := by
  cases first with
  | error reason => simp [Except.map]
  | ok middle => simp [Except.map]

theorem mapError_eq_ok_iff {ε δ α : Type} {result : Except ε α} {change : ε → δ} {value : α} :
    result.mapError change = .ok value ↔ result = .ok value := by
  cases result with
  | error reason => simp [Except.mapError]
  | ok other => simp [Except.mapError]

theorem mapM_eq_ok_iff {ε α β : Type} {read : α → Except ε β} {items : List α} {results : List β} :
    items.mapM read = .ok results ↔
      List.Forall₂ (fun item result => read item = .ok result) items results := by
  induction items generalizing results with
  | nil =>
      constructor
      · intro found
        cases found
        exact .nil
      · intro each
        cases each
        rfl
  | cons item rest ih =>
      rw [List.mapM_cons, bind_eq_ok_iff]
      constructor
      · rintro ⟨result, first, found⟩
        obtain ⟨later, others, found⟩ := bind_eq_ok_iff.mp found
        cases found
        exact .cons first (ih.mp others)
      · rintro (_ | ⟨first, others⟩)
        exact ⟨_, first, bind_eq_ok_iff.mpr ⟨_, ih.mpr others, rfl⟩⟩

theorem Tlv.Element.expectTag_eq_ok_iff {element : Element} {expected : Tag} {result : Unit} :
    element.expectTag expected = .ok result ↔ element.tag = expected := by
  rw [Element.expectTag]
  split <;> simp_all

theorem Tlv.Element.decodeBool_eq_ok_iff {element : Element} {truth : Bool} :
    element.decodeBool = .ok truth ↔ ∃ byte, element.value = [byte] ∧ truth = (byte != 0) := by
  rw [Element.decodeBool]
  split
  · next byte single => simp [single, eq_comm]
  · next several =>
      constructor
      · intro found
        cases found
      · rintro ⟨byte, single, -⟩
        exact absurd single (several byte)

theorem ControlError.lift_eq_ok_iff {α : Type} {result : Except DecodeError α} {value : α} :
    ControlError.lift result = .ok value ↔ result = .ok value :=
  mapError_eq_ok_iff

namespace Control

variable {element : Element} {fields : List Element} {control : Control} {oid : String}
  {isCritical : Bool} {critical : Option Bool} {value : Option (List UInt8)}

theorem ofParts_eq_ok_iff : ofParts oid isCritical value = .ok control ↔
    control.oid = oid ∧ control.isCritical = isCritical ∧ control.value = value := by
  constructor
  · intro built
    rw [ofParts] at built
    split at built
    · cases built
      exact ⟨rfl, rfl, rfl⟩
    · cases built
  · rintro ⟨rfl, rfl, rfl⟩
    exact control.ofParts_self

/-- The elements of a criticality: none, or one byte that is not zero if it is true. -/
inductive Flags : List Element → Option Bool → Prop where
  | absent : Flags [] none
  | present {byte : UInt8} : Flags [⟨Tag.boolean, [byte]⟩] (some (byte != 0))

/-- The elements of a value: none if it is absent. -/
def valueFields (value : Option (List UInt8)) : List Element :=
  (value.map (Element.ofOctets Tag.octetString)).toList

theorem decodeFields_of_boolean {field : Element} (tag : field.tag = Tag.boolean)
    (rest : List Element) : decodeFields oid none none (field :: rest) =
      ControlError.lift field.decodeBool >>= fun truth =>
        decodeFields oid (some truth) none rest := by
  rw [decodeFields, if_pos ⟨tag, rfl, rfl⟩]

/-- Nothing may follow the value. -/
theorem eq_nil_of_decodeFields {bytes : List UInt8} {result : Option Bool × Option (List UInt8)}
    (found : decodeFields oid critical (some bytes) fields = .ok result) :
    fields = [] ∧ result = (critical, some bytes) := by
  cases fields with
  | nil =>
      cases found
      exact ⟨rfl, rfl⟩
  | cons field rest => simp [decodeFields] at found

/-- Where no criticality is to be read, only a value may follow. -/
theorem eq_valueFields_of_decodeFields {result : Option Bool × Option (List UInt8)}
    (past : ∀ field ∈ fields.head?, critical = none → field.tag ≠ Tag.boolean)
    (found : decodeFields oid critical none fields = .ok result) :
    ∃ value, fields = valueFields value ∧ result = (critical, value) := by
  cases fields with
  | nil =>
      cases found
      exact ⟨none, rfl, rfl⟩
  | cons field rest =>
      rw [decodeFields, if_neg fun flag => past field rfl flag.2.1 flag.1] at found
      split at found
      · next octets =>
          obtain ⟨rfl, rfl⟩ := eq_nil_of_decodeFields found
          obtain ⟨tag, bytes⟩ := field
          cases octets.1
          exact ⟨some bytes, rfl, rfl⟩
      · cases found

theorem decodeFields_eq_ok_iff : decodeFields oid none none fields = .ok (critical, value) ↔
    ∃ flags, Flags flags critical ∧ fields = flags ++ valueFields value := by
  constructor
  · intro found
    by_cases flag : ∃ field rest, fields = field :: rest ∧ field.tag = Tag.boolean
    · obtain ⟨field, rest, rfl, tag⟩ := flag
      rw [decodeFields_of_boolean tag, bind_eq_ok_iff] at found
      obtain ⟨truth, read, found⟩ := found
      obtain ⟨byte, single, rfl⟩ :=
        Element.decodeBool_eq_ok_iff.mp (ControlError.lift_eq_ok_iff.mp read)
      have past : ∀ other ∈ rest.head?, some (byte != 0) = none → other.tag ≠ Tag.boolean :=
        fun _ _ unread => absurd unread (Option.some_ne_none _)
      obtain ⟨later, rfl, same⟩ := eq_valueFields_of_decodeFields past found
      cases same
      exact ⟨[⟨Tag.boolean, [byte]⟩], .present, by rw [← tag, ← single]; rfl⟩
    · have past : ∀ field ∈ fields.head?, (none : Option Bool) = none →
          field.tag ≠ Tag.boolean := by
        intro field first _ tag
        obtain ⟨rest, rfl⟩ := List.head?_eq_some_iff.mp first
        exact flag ⟨field, rest, rfl, tag⟩
      obtain ⟨later, rfl, same⟩ := eq_valueFields_of_decodeFields past found
      cases same
      exact ⟨[], .absent, rfl⟩
  · rintro ⟨flags, flagged, rfl⟩
    cases flagged with
    | absent => exact decodeFields_value oid none value
    | @present byte =>
        have single : ControlError.lift (Element.mk Tag.boolean [byte]).decodeBool =
            .ok (byte != 0) := rfl
        rw [List.singleton_append, decodeFields_of_boolean rfl, single]
        exact decodeFields_value oid (some (byte != 0)) value

/-- The elements that are read as a control, in every way in which they may be written. -/
inductive Envelope : Element → Control → Prop where
  | intro {element : Element} {control : Control} {flags : List Element} {critical : Option Bool}
      (tag : element.tag = Tag.sequence) (flagged : Flags flags critical)
      (isCritical : control.isCritical = critical.getD false)
      (children : element.children = .ok (.ofOctets Tag.octetString (Text.utf8 control.oid) ::
        (flags ++ valueFields control.value))) : Envelope element control

theorem decode_eq_ok_iff : decode element = .ok control ↔ Envelope element control := by
  constructor
  · intro found
    obtain ⟨_, tagged, found⟩ := bind_eq_ok_iff.mp found
    obtain ⟨children, divided, found⟩ := bind_eq_ok_iff.mp found
    have tag := Element.expectTag_eq_ok_iff.mp (mapError_eq_ok_iff.mp tagged)
    rw [ControlError.lift_eq_ok_iff] at divided
    cases children with
    | nil => cases found
    | cons name optional =>
        obtain ⟨_, named, found⟩ := bind_eq_ok_iff.mp found
        have octets := Element.expectTag_eq_ok_iff.mp (ControlError.lift_eq_ok_iff.mp named)
        split at found
        · cases found
        · next oid text =>
            obtain ⟨⟨critical, value⟩, optionals, built⟩ := bind_eq_ok_iff.mp found
            obtain ⟨flags, flagged, rfl⟩ := decodeFields_eq_ok_iff.mp optionals
            obtain ⟨rfl, isCritical, rfl⟩ := ofParts_eq_ok_iff.mp built
            refine .intro tag flagged isCritical ?_
            rw [divided, ← Text.eq_utf8_of_ofUtf8? text, ← octets]
            rfl
  · rintro ⟨tag, flagged, isCritical, children⟩
    refine bind_eq_ok_iff.mpr
      ⟨(), mapError_eq_ok_iff.mpr (Element.expectTag_eq_ok_iff.mpr tag), ?_⟩
    refine bind_eq_ok_iff.mpr ⟨_, ControlError.lift_eq_ok_iff.mpr children, ?_⟩
    refine bind_eq_ok_iff.mpr
      ⟨(), ControlError.lift_eq_ok_iff.mpr (Element.expectTag_eq_ok_iff.mpr rfl), ?_⟩
    have named : Text.ofUtf8? (Text.utf8 control.oid) = some control.oid := Text.ofUtf8?_utf8 _
    split
    · next none => cases none.symm.trans named
    · next oid text =>
        cases text.symm.trans named
        exact bind_eq_ok_iff.mpr ⟨_, decodeFields_eq_ok_iff.mpr ⟨_, flagged, rfl⟩,
          ofParts_eq_ok_iff.mpr ⟨rfl, isCritical, rfl⟩⟩

theorem decodeList_eq_ok_iff {controls : List Control} : decodeList element = .ok controls ↔
    element.tag = listTag ∧ ∃ children, element.children = .ok children ∧
      List.Forall₂ Envelope children controls := by
  have each : ∀ children : List Element, children.mapM decode = .ok controls ↔
      List.Forall₂ Envelope children controls := by
    intro children
    rw [mapM_eq_ok_iff]
    simp only [decode_eq_ok_iff]
  rw [decodeList, bind_eq_ok_iff]
  simp only [bind_eq_ok_iff, ControlError.lift_eq_ok_iff, Element.expectTag_eq_ok_iff, each,
    exists_and_left, exists_const]

variable {flags values : List Element}

theorem exists_flags_iff :
    (∃ critical, Flags flags critical ∧ isCritical = critical.getD false) ↔
      flags = [] ∧ isCritical = false ∨
        ∃ byte, flags = [⟨Tag.boolean, [byte]⟩] ∧ isCritical = (byte != 0) := by
  constructor
  · rintro ⟨critical, flagged, rfl⟩
    cases flagged with
    | absent => exact .inl ⟨rfl, rfl⟩
    | present => exact .inr ⟨_, rfl, rfl⟩
  · rintro (⟨rfl, rfl⟩ | ⟨byte, rfl, rfl⟩)
    · exact ⟨none, .absent, rfl⟩
    · exact ⟨some (byte != 0), .present, rfl⟩

theorem eq_valueFields_iff : values = valueFields value ↔
    values = [] ∧ value = none ∨
      ∃ bytes, values = [⟨Tag.octetString, bytes⟩] ∧ value = some bytes := by
  cases value <;> simp [valueFields, Element.ofOctets]

/-- The tags of the fields after the identifier, none twice and a criticality before a value. -/
theorem sublist_tags (flagged : Flags flags critical) (value : Option (List UInt8)) :
    ((flags ++ valueFields value).map Element.tag).Sublist [Tag.boolean, Tag.octetString] := by
  have valued : ((valueFields value).map Element.tag).Sublist [Tag.octetString] := by
    cases value with
    | none => exact List.nil_sublist _
    | some bytes => exact List.Sublist.refl _
  rw [List.map_append]
  cases flagged with
  | absent => exact valued.cons Tag.boolean
  | present => exact valued.cons_cons Tag.boolean

/-- What is known of the elements of a control: the identifier comes first, and each further field
is in its place. -/
theorem ordered_of_decode {name : Element} (found : decode element = .ok control)
    (divided : element.children = .ok (name :: fields)) :
    name.tag = Tag.octetString ∧ name.value ≠ [] ∧
      (fields.map Element.tag).Sublist [Tag.boolean, Tag.octetString] := by
  obtain ⟨-, flagged, -, children⟩ := decode_eq_ok_iff.mp found
  cases divided.symm.trans children
  exact ⟨rfl, Text.utf8_ne_nil control.oid_ne_empty, sublist_tags flagged control.value⟩

end Control

/-- An element is read as a control exactly if it is a sequence of an identifier, at most one
criticality and at most one value, in this order; an element out of its place, a second one of its
kind and one of another kind are refused. An element is read as a list of controls exactly if each
of its children is read as one. -/
theorem controls_read_by_grammar (element : Element) :
    (∀ control, Control.decode element = .ok control ↔
      element.tag = Tag.sequence ∧ ∃ name flags values,
        element.children = .ok (name :: (flags ++ values)) ∧
        name.tag = Tag.octetString ∧ name.value ≠ [] ∧
        Text.ofUtf8? name.value = some control.oid ∧
        (flags = [] ∧ control.isCritical = false ∨
          ∃ byte, flags = [⟨Tag.boolean, [byte]⟩] ∧ control.isCritical = (byte != 0)) ∧
        (values = [] ∧ control.value = none ∨
          ∃ bytes, values = [⟨Tag.octetString, bytes⟩] ∧ control.value = some bytes)) ∧
    (∀ name fields, element.children = .ok (name :: fields) →
      (name.tag ≠ Tag.octetString ∨ name.value = [] ∨
        (∃ field ∈ fields, field.tag ≠ Tag.boolean ∧ field.tag ≠ Tag.octetString) ∨
        ∃ first second, [first, second].Sublist fields ∧
          ¬(first.tag = Tag.boolean ∧ second.tag = Tag.octetString)) →
      ∃ reason, Control.decode element = .error reason) ∧
    ∀ controls, Control.decodeList element = .ok controls ↔
      element.tag = Control.listTag ∧ ∃ children, element.children = .ok children ∧
        List.Forall₂ (fun child control => Control.decode child = .ok control) children
          controls := by
  refine ⟨fun control => ?_, fun name fields divided wrong => ?_, fun controls => ?_⟩
  · rw [Control.decode_eq_ok_iff]
    constructor
    · rintro ⟨tag, flagged, isCritical, children⟩
      exact ⟨tag, _, _, _, children, rfl, Text.utf8_ne_nil control.oid_ne_empty,
        Text.ofUtf8?_utf8 _, Control.exists_flags_iff.mp ⟨_, flagged, isCritical⟩,
        Control.eq_valueFields_iff.mp rfl⟩
    · rintro ⟨tag, ⟨octets, name⟩, flags, values, children, rfl, -, text, flagged, valued⟩
      obtain ⟨critical, flagged, isCritical⟩ := Control.exists_flags_iff.mpr flagged
      obtain rfl := Control.eq_valueFields_iff.mpr valued
      obtain rfl := Text.eq_utf8_of_ofUtf8? text
      exact .intro tag flagged isCritical children
  · cases found : Control.decode element with
    | error reason => exact ⟨reason, rfl⟩
    | ok control =>
        obtain ⟨octets, some, tags⟩ := Control.ordered_of_decode found divided
        exfalso
        rcases wrong with other | blank | ⟨field, member, neither⟩ | ⟨first, second, pair, order⟩
        · exact other octets
        · exact some blank
        · have known := tags.subset (List.mem_map_of_mem member)
          simp only [List.mem_cons, List.not_mem_nil, or_false] at known
          exact known.elim neither.1 neither.2
        · have same := ((pair.map Element.tag).trans tags).eq_of_length rfl
          simp only [List.map_cons, List.map_nil, List.cons.injEq, and_true] at same
          exact order same
  · rw [Control.decodeList_eq_ok_iff]
    simp only [Control.decode_eq_ok_iff]

/-- A control that is critical by a byte of its own, and the same fields with the criticality
last. -/
theorem controls_read_by_grammar_misplaced :
    Control.decode ⟨Tag.sequence,
        [0x04, 0x03, 0x31, 0x2E, 0x32, 0x01, 0x01, 0x07, 0x04, 0x00]⟩ =
      .ok { oid := "1.2", isCritical := true, value := some [] } ∧
    ∃ reason, Control.decode ⟨Tag.sequence,
        [0x04, 0x03, 0x31, 0x2E, 0x32, 0x04, 0x00, 0x01, 0x01, 0x07]⟩ = .error reason := by
  constructor
  · obtain ⟨accepts, -⟩ := controls_read_by_grammar ⟨Tag.sequence,
      [0x04, 0x03, 0x31, 0x2E, 0x32, 0x01, 0x01, 0x07, 0x04, 0x00]⟩
    exact (accepts _).mpr ⟨rfl, ⟨Tag.octetString, [0x31, 0x2E, 0x32]⟩, [⟨Tag.boolean, [0x07]⟩],
      [⟨Tag.octetString, []⟩], by decide +kernel, rfl, by decide, by decide +kernel,
      .inr ⟨0x07, rfl, rfl⟩, .inr ⟨[], rfl, rfl⟩⟩
  · obtain ⟨-, refuses, -⟩ := controls_read_by_grammar ⟨Tag.sequence,
      [0x04, 0x03, 0x31, 0x2E, 0x32, 0x04, 0x00, 0x01, 0x01, 0x07]⟩
    have divided : Element.children ⟨Tag.sequence,
        [0x04, 0x03, 0x31, 0x2E, 0x32, 0x04, 0x00, 0x01, 0x01, 0x07]⟩ =
          .ok [⟨Tag.octetString, [0x31, 0x2E, 0x32]⟩, ⟨Tag.octetString, []⟩,
            ⟨Tag.boolean, [0x07]⟩] := by decide +kernel
    exact refuses _ _ divided (.inr (.inr (.inr ⟨_, _, List.Sublist.refl _, by decide⟩)))

end DirectoryClient
