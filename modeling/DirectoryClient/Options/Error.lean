namespace DirectoryClient

/-- Why settings that were read cannot be used. -/
inductive InvalidSetting where
  /-- No identifier would ever be tried for a request. -/
  | noProbes
  /-- A timeout is given for something that is no kind of operation. -/
  | unknownKind (name : String)
  /-- Every connection would be too old. -/
  | zeroMaximumAge
deriving DecidableEq, Repr

def InvalidSetting.message : InvalidSetting → String
  | .noProbes => "max_message_id_probes must be greater than 0"
  | .unknownKind name => s!"unknown operation kind in response_timeouts_ms: {name}"
  | .zeroMaximumAge => "maximum connection age must be greater than 0"

/-- Why there are no options. -/
inductive OptionsError where
  /-- The file does not hold text, or is not there. -/
  | unreadable
  /-- The text is not a document of options. -/
  | malformed
  | invalid (reason : InvalidSetting)
deriving DecidableEq, Repr

def OptionsError.message : OptionsError → String
  | .unreadable => "cannot read options file"
  | .malformed => "cannot parse options"
  | .invalid reason => s!"invalid options: {reason.message}"

end DirectoryClient
