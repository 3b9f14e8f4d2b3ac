import DirectoryClient.Proofs.Control.Typed
import DirectoryClient.Proofs.LastWritten
import DirectoryClient.Proofs.Text.Order

namespace DirectoryClient

variable {ε α : Type}

/-- A decoder that is registered: that of a known kind under the identifier of the kind, or any
decoder under any identifier. -/
inductive Registration (ε α : Type) where
  | passwordPolicy
  | presence (kind : PresenceKind)
  | custom (oid : String) (decoder : Control.Decoder ε α)

/-- What is asked of a registry. -/
inductive RegistryCall (ε α : Type) where
  | register (registration : Registration ε α)
  | decode (oid : String) (isCritical : Bool) (value : Option (List UInt8))
  | decodeControl (control : Control)

/-- The registries to start from. -/
inductive RegistryOrigin where
  | empty
  | builtin

def Registration.oid : Registration ε α → String
  | .passwordPolicy => PasswordPolicy.oid
  | .presence kind => kind.oid
  | .custom oid _ => oid

variable [DecodedControl α] [DecodingFailure ε]

namespace Registration

def decoder : Registration ε α → Control.Decoder ε α
  | .passwordPolicy => ControlDecoder.passwordPolicy.boxed
  | .presence kind => (ControlDecoder.presence kind).boxed
  | .custom _ decoder => decoder

/-- What is registered in the registry of the known kinds. -/
def known : List (Registration ε α) :=
  .passwordPolicy :: PresenceKind.all.map .presence

end Registration

namespace Registry

def enter (registry : Registry ε α) : Registration ε α → Registry ε α
  | .passwordPolicy => registry.registerPasswordPolicy
  | .presence kind => registry.registerPresence kind
  | .custom oid decoder => registry.register oid decoder

/-- What a call answers, unless it registers something, and the registry after it. -/
def serve (registry : Registry ε α) : RegistryCall ε α → Option (Except ε α) × Registry ε α
  | .register registration => (none, registry.enter registration)
  | .decode oid isCritical value => (some (registry.decode oid isCritical value), registry)
  | .decodeControl control => (some (registry.decodeControl control), registry)

/-- The registry after some calls. -/
def after (registry : Registry ε α) (calls : List (RegistryCall ε α)) : Registry ε α :=
  calls.foldl (fun registry call => (registry.serve call).2) registry

end Registry

namespace RegistryOrigin

def registry : RegistryOrigin → Registry ε α
  | .empty => ∅
  | .builtin => .builtin

end RegistryOrigin

namespace Registry

variable {registry : Registry ε α} {oid : String} {entered : List (Registration ε α)}

end Registry

/-- Control types from elsewhere stand beside the known kinds, and so do the reasons for which their
decoders turn a control down. -/
instance (β : Type) : DecodedControl (TypedControl ⊕ β) := ⟨.inl⟩

instance (β : Type) : DecodingFailure (ControlError ⊕ β) := ⟨.inl⟩

end DirectoryClient
