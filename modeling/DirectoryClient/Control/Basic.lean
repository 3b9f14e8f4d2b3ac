import DirectoryClient.Control.Error
import DirectoryClient.Text.Utf8
import DirectoryClient.Tlv.Scalar

namespace DirectoryClient

open Tlv (Element Tag)

/-- A control of any kind, its value not interpreted. -/
structure Control where
  /-- The object identifier that names the kind of control. -/
  oid : String
  /-- Whether a receiver that does not know the control must refuse the message. -/
  isCritical : Bool
  /-- The bytes of the value; an empty value differs from an absent one. -/
  value : Option (List UInt8)
  oid_ne_empty : oid ≠ "" := by decide
deriving DecidableEq, Repr

namespace Control

def listTag : Tag := 0xA0

/-- What a control of no known kind is called. -/
def genericName : String := "Generic Control"

/-- A control with the given parts; the identifier must not be empty. -/
def ofParts (oid : String) (isCritical : Bool) (value : Option (List UInt8)) :
    Except ControlError Control :=
  if named : oid ≠ "" then
    .ok { oid, isCritical, value, oid_ne_empty := named }
  else
    .error (.malformed "control" .oidEmpty)

/-- The identifier, the criticality if it is true, and the value if there is one. -/
def fields (control : Control) : List Element :=
  .ofOctets Tag.octetString (Text.utf8 control.oid) ::
    ((if control.isCritical then [.ofBool Tag.boolean true] else []) ++
      (control.value.map (.ofOctets Tag.octetString)).toList)

def encode (control : Control) : Element :=
  .sequence control.fields

/-- Reads the optional fields that follow the identifier `oid`: a criticality, unless it or the
value has been read before, then a value, unless it has been read before. -/
def decodeFields (oid : String) (critical : Option Bool) (value : Option (List UInt8)) :
    List Element → Except ControlError (Option Bool × Option (List UInt8))
  | [] => .ok (critical, value)
  | field :: rest =>
      if field.tag = Tag.boolean ∧ critical = none ∧ value = none then do
        let truth ← ControlError.lift field.decodeBool
        decodeFields oid (some truth) value rest
      else if field.tag = Tag.octetString ∧ value = none then
        decodeFields oid critical (some field.value) rest
      else
        .error (.malformed oid (.unexpectedElement field.tag))

/-- Reads a control. A criticality may be there although it is false. -/
def decode (element : Element) : Except ControlError Control := do
  (element.expectTag Tag.sequence).mapError fun reason => .malformed "control" (.notSequence reason)
  match ← ControlError.lift element.children with
  | [] => .error (.malformed "control" .emptySequence)
  | name :: optional => do
      ControlError.lift (name.expectTag Tag.octetString)
      match Text.ofUtf8? name.value with
      | none => .error (.malformed "control" .oidNotUtf8)
      | some oid => do
          let (critical, value) ← decodeFields oid none none optional
          ofParts oid (critical.getD false) value

/-- The controls of one message, side by side. -/
def encodeList (controls : List Control) : Element :=
  .constructed listTag (controls.map encode)

def decodeList (element : Element) : Except ControlError (List Control) := do
  ControlError.lift (element.expectTag listTag)
  (← ControlError.lift element.children).mapM decode

end Control

end DirectoryClient
