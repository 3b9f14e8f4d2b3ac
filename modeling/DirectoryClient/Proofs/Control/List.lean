import DirectoryClient.Control.Basic
import DirectoryClient.Proofs.Tlv.Element

namespace DirectoryClient

open Tlv (Element Tag)

theorem isMultiByte_sequence : Tag.isMultiByte Tag.sequence = false := by
  decide

theorem mapM_map_eq_ok {α β ε : Type} {write : α → β} {read : β → Except ε α} {items : List α}
    (each : ∀ item ∈ items, read (write item) = .ok item) :
    (items.map write).mapM read = .ok items := by
  induction items with
  | nil => rfl
  | cons item rest ih =>
      have later := ih fun other member => each other (List.mem_cons_of_mem item member)
      rw [List.map_cons, List.mapM_cons, each item List.mem_cons_self, later]
      rfl

namespace Control

theorem tag_of_mem_fields {control : Control} {field : Element} (member : field ∈ control.fields) :
    field.tag.isMultiByte = false := by
  rw [fields, List.mem_cons, List.mem_append, Option.mem_toList] at member
  have octetString : Tag.isMultiByte Tag.octetString = false := by decide
  have boolean : Tag.isMultiByte Tag.boolean = false := by decide
  rcases member with rfl | critical | value
  · exact octetString
  · split at critical
    · rw [List.mem_singleton.mp critical]
      exact boolean
    · cases critical
  · obtain ⟨bytes, -, rfl⟩ := Option.map_eq_some_iff.mp value
    exact octetString

theorem decodeFields_value (oid : String) (critical : Option Bool) (value : Option (List UInt8)) :
    decodeFields oid critical none (value.map (Element.ofOctets Tag.octetString)).toList =
      .ok (critical, value) := by
  cases value with
  | none => rfl
  | some bytes =>
      have notBoolean : Tag.octetString ≠ Tag.boolean := by decide
      simp [decodeFields, Element.ofOctets, notBoolean]

theorem decodeFields_fields (control : Control) :
    decodeFields control.oid none none control.fields.tail =
      .ok (if control.isCritical then some true else none, control.value) := by
  rw [fields, List.tail_cons]
  split
  · rw [List.singleton_append, decodeFields, if_pos ⟨rfl, rfl, rfl⟩]
    exact decodeFields_value control.oid (some true) control.value
  · exact decodeFields_value control.oid none control.value

@[simp] theorem ofParts_self (control : Control) :
    ofParts control.oid control.isCritical control.value = .ok control := by
  rw [ofParts, dif_pos control.oid_ne_empty]

theorem decode_encode {control : Control} (short : control.encode.value.length < 2 ^ 32) :
    decode control.encode = .ok control := by
  have children : control.encode.children = .ok control.fields :=
    Element.children_constructed (fun _ member => tag_of_mem_fields member) short
  have optional := decodeFields_fields control
  rw [fields, List.tail_cons] at optional
  have critical : (if control.isCritical then some true else none).getD false =
      control.isCritical := by
    cases control.isCritical <;> rfl
  have tagged : control.encode.expectTag Tag.sequence = .ok () := rfl
  have octets : (Element.ofOctets Tag.octetString (Text.utf8 control.oid)).expectTag
      Tag.octetString = .ok () := rfl
  have named : Text.ofUtf8? (Element.ofOctets Tag.octetString (Text.utf8 control.oid)).value =
      some control.oid := Text.ofUtf8?_utf8 _
  rw [decode, tagged, children, fields]
  simp only [bind, Except.bind, Except.mapError, ControlError.lift, octets, named, optional,
    critical, ofParts_self]

theorem length_lt_of_mem_encodeList {controls : List Control}
    (short : (encodeList controls).value.length < 2 ^ 32) {control : Control}
    (member : control ∈ controls) : control.encode.value.length < 2 ^ 32 :=
  Nat.lt_trans (Element.length_value_lt_of_mem (List.mem_map_of_mem member)) short

theorem decodeList_encodeList {controls : List Control}
    (short : (encodeList controls).value.length < 2 ^ 32) :
    decodeList (encodeList controls) = .ok controls := by
  have children : (encodeList controls).children = .ok (controls.map encode) := by
    apply Element.children_constructed _ short
    intro element member
    obtain ⟨control, -, rfl⟩ := List.mem_map.mp member
    exact isMultiByte_sequence
  rw [decodeList, children]
  apply mapM_map_eq_ok
  intro control member
  exact decode_encode (length_lt_of_mem_encodeList short member)

theorem decodeExact_encodeList {controls : List Control}
    (short : (encodeList controls).value.length < 2 ^ 32) :
    Element.decodeExact (encodeList controls).encode = .ok (encodeList controls) := by
  have tag : Tag.isMultiByte listTag = false := by decide
  exact Element.decodeExact_encode ⟨tag, short⟩

end Control

/-- A list of controls is read back from its bytes as it was, and no other list has these bytes. -/
theorem controls_read_back (controls : List Control)
    (short : (Control.encodeList controls).value.length < 2 ^ 32) :
    (∃ element, Element.decodeExact (Control.encodeList controls).encode = .ok element ∧
      Control.decodeList element = .ok controls) ∧
    ∀ others : List Control,
      (Control.encodeList others).encode = (Control.encodeList controls).encode →
        others = controls := by
  have read := Control.decodeExact_encodeList short
  have decoded := Control.decodeList_encodeList short
  refine ⟨⟨_, read, decoded⟩, ?_⟩
  intro others same
  have alsoShort := Element.length_lt_of_encode_eq short same
  have alsoRead := Control.decodeExact_encodeList alsoShort
  have element : Control.encodeList others = Control.encodeList controls := by
    rw [same, read] at alsoRead
    exact (Except.ok.inj alsoRead).symm
  have alsoDecoded := Control.decodeList_encodeList alsoShort
  rw [element, decoded] at alsoDecoded
  exact (Except.ok.inj alsoDecoded).symm

/-- One identifier three times, with a value that is absent, empty or looks like further fields. -/
def Control.lookalikes : List Control :=
  [{ oid := "1.2.3", isCritical := true, value := none },
    { oid := "1.2.3", isCritical := true, value := some [] },
    { oid := "1.2.3", isCritical := false, value := some [0x01, 0x01, 0xFF] },
    { oid := "2.5.é", isCritical := false, value := some (List.replicate 200 0x30) }]

theorem controls_read_back_lookalikes :
    (Control.encodeList Control.lookalikes).value.length < 2 ^ 32 ∧
      ∃ element, Element.decodeExact (Control.encodeList Control.lookalikes).encode = .ok element ∧
        Control.decodeList element = .ok Control.lookalikes := by
  have short : (Control.encodeList Control.lookalikes).value.length < 2 ^ 32 := by decide +kernel
  exact ⟨short, (controls_read_back Control.lookalikes short).1⟩

end DirectoryClient
