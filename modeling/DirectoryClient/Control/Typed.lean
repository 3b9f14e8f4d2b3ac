import DirectoryClient.Control.PasswordPolicy
import DirectoryClient.Control.Presence

namespace DirectoryClient

/-- A control of one of the known kinds, or one that stays as it came. -/
inductive TypedControl where
  | generic (control : Control)
  | passwordPolicy (response : PasswordPolicy.Response)
  | presence (request : PresenceControl)
deriving DecidableEq, Repr

namespace TypedControl

def name : TypedControl → String
  | .generic _ => Control.genericName
  | .passwordPolicy _ => PasswordPolicy.name
  | .presence request => request.kind.name

def oid : TypedControl → String
  | .generic control => control.oid
  | .passwordPolicy _ => PasswordPolicy.oid
  | .presence request => request.kind.oid

def isCritical : TypedControl → Bool
  | .generic control => control.isCritical
  | .passwordPolicy response => response.isCritical
  | .presence request => request.isCritical

def toControl : TypedControl → Control
  | .generic control => control
  | .passwordPolicy response => response.toControl
  | .presence request => request.toControl

end TypedControl

end DirectoryClient
