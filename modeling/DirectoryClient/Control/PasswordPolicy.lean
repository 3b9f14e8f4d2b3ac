import DirectoryClient.Control.Basic

/-!
# The password policy response control

A server tells the state of the bound account in a value of the form

    SEQUENCE {
      warning [0] CHOICE {
        timeBeforeExpiration [0] INTEGER,
        graceLoginsRemaining [1] INTEGER } OPTIONAL,
      error   [1] ENUMERATED OPTIONAL }

Writing puts the warning first. Reading accepts both orders, and numbers of one to four bytes of
either sign.
-/

namespace DirectoryClient.PasswordPolicy

open Tlv (Element Tag)

inductive WarningKind where
  /-- Seconds until the password expires. -/
  | timeBeforeExpiration
  /-- Logins that are left after the password has expired. -/
  | graceLoginsRemaining
deriving DecidableEq, Repr

namespace WarningKind

def tag : WarningKind → Tag
  | .timeBeforeExpiration => 0x80
  | .graceLoginsRemaining => 0x81

def ofTag? (tag : Tag) : Option WarningKind :=
  [timeBeforeExpiration, graceLoginsRemaining].find? fun kind => kind.tag = tag

def name : WarningKind → String
  | .timeBeforeExpiration => "time before expiration"
  | .graceLoginsRemaining => "grace logins remaining"

end WarningKind

structure Warning where
  kind : WarningKind
  value : Int32
deriving DecidableEq, Repr

inductive Refusal where
  | passwordExpired
  | accountLocked
  | changeAfterReset
  | passwordModNotAllowed
  | mustSupplyOldPassword
  | insufficientPasswordQuality
  | passwordTooShort
  | passwordTooYoung
  | passwordInHistory
deriving DecidableEq, Repr

namespace Refusal

def all : List Refusal :=
  [.passwordExpired, .accountLocked, .changeAfterReset, .passwordModNotAllowed,
    .mustSupplyOldPassword, .insufficientPasswordQuality, .passwordTooShort, .passwordTooYoung,
    .passwordInHistory]

def code : Refusal → Int
  | .passwordExpired => 0
  | .accountLocked => 1
  | .changeAfterReset => 2
  | .passwordModNotAllowed => 3
  | .mustSupplyOldPassword => 4
  | .insufficientPasswordQuality => 5
  | .passwordTooShort => 6
  | .passwordTooYoung => 7
  | .passwordInHistory => 8

def ofCode? (code : Int) : Option Refusal :=
  all.find? fun refusal => refusal.code = code

def name : Refusal → String
  | .passwordExpired => "password expired"
  | .accountLocked => "account locked"
  | .changeAfterReset => "change after reset"
  | .passwordModNotAllowed => "password mod not allowed"
  | .mustSupplyOldPassword => "must supply old password"
  | .insufficientPasswordQuality => "insufficient password quality"
  | .passwordTooShort => "password too short"
  | .passwordTooYoung => "password too young"
  | .passwordInHistory => "password in history"

end Refusal

structure Response where
  warning : Option Warning
  refusal : Option Refusal
  isCritical : Bool
deriving DecidableEq, Repr

def oid : String := "1.3.6.1.4.1.42.2.27.8.5.1"

def name : String := "Password Policy Response Control"

def warningTag : Tag := 0xA0

def refusalTag : Tag := 0x81

def malformed {α : Type} (fault : ControlFault) : Except ControlError α :=
  .error (.malformed name fault)

namespace Warning

def encode (warning : Warning) : Element :=
  .constructed warningTag [.ofInteger warning.kind.tag warning.value.toInt]

def decodeNumber (number : Element) : Except ControlError Warning :=
  match WarningKind.ofTag? number.tag with
  | none => malformed (.unknownWarning number.tag)
  | some kind =>
      match number.decodeInteger32 with
      | .error reason => malformed (.warningNumber reason)
      | .ok value => .ok ⟨kind, .ofInt value⟩

def decode (element : Element) : Except ControlError Warning := do
  match ← ControlError.lift element.children with
  | [number] => decodeNumber number
  | other => malformed (.warningSize other.length)

end Warning

namespace Refusal

def encode (refusal : Refusal) : Element :=
  .ofEnumerated refusalTag refusal.code

def decode (element : Element) : Except ControlError Refusal :=
  match element.decodeEnumerated with
  | .error reason => malformed (.errorNumber reason)
  | .ok code =>
      match ofCode? code with
      | none => malformed (.unknownError code)
      | some refusal => .ok refusal

end Refusal

namespace Response

def encodeValue (response : Response) : List UInt8 :=
  (Element.sequence ((response.warning.map Warning.encode).toList ++
    (response.refusal.map Refusal.encode).toList)).encode

def toControl (response : Response) : Control :=
  { oid := oid, isCritical := response.isCritical, value := some response.encodeValue }

def sequenceOf (bytes : List UInt8) : Except Tlv.DecodeError (List Element) := do
  let element ← Element.decodeExact bytes
  element.expectTag Tag.sequence
  element.children

def decodeElements (warning : Option Warning) (refusal : Option Refusal) :
    List Element → Except ControlError (Option Warning × Option Refusal)
  | [] => .ok (warning, refusal)
  | element :: rest =>
      if element.tag = warningTag then
        if warning.isSome then
          malformed .repeatedWarning
        else do
          let found ← Warning.decode element
          decodeElements (some found) refusal rest
      else if element.tag = refusalTag then
        if refusal.isSome then
          malformed .repeatedError
        else do
          let found ← Refusal.decode element
          decodeElements warning (some found) rest
      else
        malformed (.unknownElement element.tag)

/-- Reads a control as a password policy response, whatever its object identifier. -/
def decode (control : Control) : Except ControlError Response :=
  match control.value with
  | none => malformed .valueMissing
  | some bytes =>
      match sequenceOf bytes with
      | .error reason => malformed (.valueNotSequence reason)
      | .ok elements =>
          if 2 < elements.length then
            malformed (.tooManyElements elements.length)
          else do
            let (warning, refusal) ← decodeElements none none elements
            return ⟨warning, refusal, control.isCritical⟩

/-- The first password policy response among the controls of a message, if there is one. -/
def find (controls : List Control) : Except ControlError (Option Response) :=
  match controls.find? fun control => control.oid == oid with
  | none => .ok none
  | some control => (decode control).map some

def describe (response : Response) : String :=
  let warning := match response.warning with
    | none => ""
    | some warning =>
        s!"warningType='{warning.kind.name}', warningValue={warning.value.toInt}, "
  let refusal := match response.refusal with
    | none => ""
    | some refusal => s!"errorType='{refusal.name}', "
  s!"PasswordPolicyResponseControl({warning}{refusal}isCritical={response.isCritical})"

end Response

end DirectoryClient.PasswordPolicy
