import DirectoryClient.Control.Typed
import DirectoryClient.Text.Quoted
import Std.Data.TreeMap

/-!
# The control registry

A registry knows, for some object identifiers, how a plain control becomes a typed one. The decoder
registered last for an identifier counts, and a control of an unknown identifier stays plain. No
decoder looks at the identifier, so each can be registered under any.

Decoders may come from elsewhere, with control types and failures of their own. So what they give is
a parameter of a registry, and the known kinds of controls are one instance of it.
-/

namespace DirectoryClient

/-- A type of decoded controls. The known kinds are among them. -/
class DecodedControl (α : Type) where
  ofTyped : TypedControl → α

/-- A type of failures of decoders. Those of the known kinds are among them. -/
class DecodingFailure (ε : Type) where
  ofError : ControlError → ε

instance : DecodedControl TypedControl := ⟨id⟩

instance : DecodingFailure ControlError := ⟨id⟩

variable {ε α : Type}

/-- What upgrades a plain control. -/
abbrev Control.Decoder (ε α : Type) := Control → Except ε α

abbrev ControlDecoder := Control.Decoder ControlError TypedControl

namespace ControlDecoder

def generic : ControlDecoder := fun control => .ok (.generic control)

def passwordPolicy : ControlDecoder := fun control =>
  (PasswordPolicy.Response.decode control).map .passwordPolicy

def presence (kind : PresenceKind) : ControlDecoder := fun control =>
  (PresenceControl.decode kind control).map .presence

def refusing (reason : String) : ControlDecoder := fun control =>
  .error (.malformed control.oid (.refused reason))

/-- A decoder of a known kind beside others; what it decodes is boxed like what they decode. -/
def boxed [DecodedControl α] [DecodingFailure ε] (decoder : ControlDecoder) : Control.Decoder ε α :=
  fun control =>
    match decoder control with
    | .ok typed => .ok (DecodedControl.ofTyped typed)
    | .error reason => .error (DecodingFailure.ofError reason)

end ControlDecoder

structure Registry (ε α : Type) where
  decoders : Std.TreeMap String (Control.Decoder ε α)

abbrev ControlRegistry := Registry ControlError TypedControl

namespace Registry

/-- The registry that knows no identifier. -/
def empty : Registry ε α := ⟨∅⟩

instance : EmptyCollection (Registry ε α) := ⟨empty⟩

/-- Registers any decoder under any identifier, in the place of an earlier one
(`register_control_type`). -/
def register (registry : Registry ε α) (oid : String) (decoder : Control.Decoder ε α) :
    Registry ε α :=
  ⟨registry.decoders.insert oid decoder⟩

def isRegistered (registry : Registry ε α) (oid : String) : Bool :=
  registry.decoders.contains oid

/-- The identifiers that have a decoder, in ascending order. -/
def oids (registry : Registry ε α) : List String :=
  registry.decoders.keys

/-- The registry in words: its identifiers, quoted, in ascending order. -/
def describe (registry : Registry ε α) : String :=
  let listed := ", ".intercalate (registry.oids.map Text.quoted)
  s!"ControlRegistry \x7b oids: [{listed}] \x7d"

variable [DecodedControl α] [DecodingFailure ε]

/-- Registers the decoder of a known kind under the identifier of the kind (`register`). -/
def registerPasswordPolicy (registry : Registry ε α) : Registry ε α :=
  registry.register PasswordPolicy.oid (ControlDecoder.passwordPolicy.boxed)

def registerPresence (registry : Registry ε α) (kind : PresenceKind) : Registry ε α :=
  registry.register kind.oid (ControlDecoder.presence kind).boxed

/-- The registry of the known kinds (`with_builtin_controls`). -/
def builtin : Registry ε α :=
  PresenceKind.all.foldl registerPresence (registerPasswordPolicy ∅)

/-- Upgrades a control if its identifier is known (`decode_control`). -/
def decodeControl (registry : Registry ε α) (control : Control) : Except ε α :=
  match registry.decoders[control.oid]? with
  | some decoder => decoder control
  | none => .ok (DecodedControl.ofTyped (.generic control))

/-- Makes a control of its parts and upgrades it (`decode`). -/
def decode (registry : Registry ε α) (oid : String) (isCritical : Bool)
    (value : Option (List UInt8)) : Except ε α := do
  let control ← (Control.ofParts oid isCritical value).mapError DecodingFailure.ofError
  registry.decodeControl control

end Registry

abbrev ControlRegistry.builtin : ControlRegistry := Registry.builtin

end DirectoryClient
