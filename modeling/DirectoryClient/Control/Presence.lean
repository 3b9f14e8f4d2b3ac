import DirectoryClient.Control.Basic

namespace DirectoryClient

/-- The kinds of request control that have no value. -/
inductive PresenceKind where
  /-- Keep the connection's authorization identity, whatever the operation is. -/
  | retainIdentity
  /-- Return subentries in place of ordinary entries. -/
  | subentries
  /-- Include extended information in schema searches. -/
  | extendedSchemaInfo
  /-- Explain which validators a new password passed. -/
  | passwordValidationDetails
  /-- Keep the current password usable for a while. -/
  | retirePassword
deriving DecidableEq, Repr

namespace PresenceKind

/-- Every kind, in the order in which they are registered. -/
def all : List PresenceKind :=
  [.retainIdentity, .subentries, .extendedSchemaInfo, .passwordValidationDetails, .retirePassword]

def oid : PresenceKind → String
  | .retainIdentity => "1.3.6.1.4.1.30221.2.5.3"
  | .subentries => "1.3.6.1.4.1.7628.5.101.1"
  | .extendedSchemaInfo => "1.3.6.1.4.1.30221.2.5.12"
  | .passwordValidationDetails => "1.3.6.1.4.1.30221.2.5.40"
  | .retirePassword => "1.3.6.1.4.1.30221.2.5.31"

def name : PresenceKind → String
  | .retainIdentity => "Retain Identity Request Control"
  | .subentries => "Subentries Request Control"
  | .extendedSchemaInfo => "Extended Schema Info Request Control"
  | .passwordValidationDetails => "Password Validation Details Request Control"
  | .retirePassword => "Retire Password Request Control"

/-- Whether a control of the kind is critical unless it is said otherwise. -/
def criticalByDefault : PresenceKind → Bool
  | .retainIdentity => true
  | .subentries => false
  | .extendedSchemaInfo => false
  | .passwordValidationDetails => false
  | .retirePassword => true

theorem oid_ne_empty (kind : PresenceKind) : kind.oid ≠ "" := by
  cases kind <;> decide

end PresenceKind

/-- A request control that has no value. -/
structure PresenceControl where
  kind : PresenceKind
  isCritical : Bool
deriving DecidableEq, Repr

namespace PresenceControl

def ofKind (kind : PresenceKind) : PresenceControl :=
  ⟨kind, kind.criticalByDefault⟩

/-- The control with its value, that is, with none. -/
def toControl (presence : PresenceControl) : Control :=
  { oid := presence.kind.oid
    isCritical := presence.isCritical
    value := none
    oid_ne_empty := presence.kind.oid_ne_empty }

/-- Reads a control as one of the given kind, whatever its object identifier. Any value is turned
down, an empty one included. -/
def decode (kind : PresenceKind) (control : Control) : Except ControlError PresenceControl :=
  if control.value.isSome then
    .error (.malformed kind.name .valuePresent)
  else
    .ok ⟨kind, control.isCritical⟩

end PresenceControl

end DirectoryClient
