import DirectoryClient.Tlv.Error

namespace DirectoryClient

open Tlv (DecodeError Tag)

inductive ControlFault where
  | notSequence (reason : DecodeError)
  | emptySequence
  | oidNotUtf8
  /-- The object identifier has no character. -/
  | oidEmpty
  /-- The envelope holds an element that has no place there. -/
  | unexpectedElement (tag : Tag)
  | valueMissing
  | valuePresent
  /-- The value is not a single sequence of elements. -/
  | valueNotSequence (reason : DecodeError)
  /-- The value's sequence holds more than two elements. -/
  | tooManyElements (count : Nat)
  | unknownElement (tag : Tag)
  | repeatedWarning
  /-- A warning does not hold exactly one element. -/
  | warningSize (count : Nat)
  | unknownWarning (tag : Tag)
  /-- The number of a warning does not decode. -/
  | warningNumber (reason : DecodeError)
  | repeatedError
  /-- The code of an error does not decode. -/
  | errorNumber (reason : DecodeError)
  /-- The code of an error has no meaning. -/
  | unknownError (code : Int)
  /-- A decoder from outside turns the control down. -/
  | refused (reason : String)
deriving DecidableEq, Repr

def ControlFault.message : ControlFault → String
  | .notSequence reason => reason.message
  | .emptySequence => "sequence is empty"
  | .oidNotUtf8 => "oid is not valid UTF-8"
  | .oidEmpty => "oid is empty"
  | .unexpectedElement tag => s!"unexpected element with tag {tag.text}"
  | .valueMissing => "control has no value"
  | .valuePresent => "control must not have a value"
  | .valueNotSequence reason => s!"value is not a sequence: {reason.message}"
  | .tooManyElements count => s!"value sequence has {count} elements, at most 2 are allowed"
  | .unknownElement tag => s!"unknown element tag {tag.text}"
  | .repeatedWarning => "multiple warning elements"
  | .warningSize count => s!"warning must hold exactly one element, found {count}"
  | .unknownWarning tag => s!"unknown warning tag {tag.text}"
  | .warningNumber reason => s!"cannot decode warning: {reason.message}"
  | .repeatedError => "multiple error elements"
  | .errorNumber reason => s!"cannot decode error: {reason.message}"
  | .unknownError code => s!"unknown error value {code}"
  | .refused reason => reason

/-- Why a control, or a list of controls, cannot be decoded. -/
inductive ControlError where
  /-- The bytes or an element are at fault; the failure of the codec is passed on as it is. -/
  | codec (reason : DecodeError)
  /-- The control called `control` is at fault. It is called by the name of its kind, or by its
  object identifier where no kind is known. -/
  | malformed (control : String) (fault : ControlFault)
deriving DecidableEq, Repr

def ControlError.message : ControlError → String
  | .codec reason => reason.message
  | .malformed control fault => s!"cannot decode {control}: {fault.message}"

def ControlError.lift {α : Type} (result : Except DecodeError α) : Except ControlError α :=
  result.mapError .codec

end DirectoryClient
