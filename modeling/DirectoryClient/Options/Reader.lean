import DirectoryClient.Options.Basic
import DirectoryClient.Options.Document
import DirectoryClient.Text.Utf8

namespace DirectoryClient.Options

def timeoutsKey : String := "response_timeouts_ms"

/-- How the timeouts of single kinds are written: dotted, between braces or under a header. -/
inductive TableState where
  | absent
  /-- Dotted keys may add to it. -/
  | dotted
  /-- It is complete. -/
  | closed
  /-- Its header was the last one, and every entry belongs to it. -/
  | underHeader
deriving DecidableEq, Repr

/-- What has been read of a document. Each setting stands in it once at most. -/
structure Draft where
  abandonOnTimeout : Option Bool := none
  responseTimeout : Option Nat := none
  maxMessageIdProbes : Option Nat := none
  responseTimeouts : Std.TreeMap String Nat := ∅
  table : TableState := .absent

namespace Draft

def milliseconds? : Scalar → Option Nat
  | .integer number =>
      if 0 ≤ number ∧ number ≤ mostMilliseconds then some number.toNat else none
  | .boolean _ => none

def probes? : Scalar → Option Nat
  | .integer number => if 0 ≤ number ∧ number < UInt32.size then some number.toNat else none
  | .boolean _ => none

/-- Adds the timeout of one kind, unless it is there. -/
def addTimeout (draft : Draft) (kind : String) (value : Scalar) : Option Draft := do
  let timeout ← milliseconds? value
  if draft.responseTimeouts.contains kind then
    none
  else
    return { draft with responseTimeouts := draft.responseTimeouts.insert kind timeout }

/-- Adds a setting that is no table, unless it is there. -/
def addSetting (draft : Draft) (key : String) (value : Scalar) : Option Draft :=
  match key, value with
  | "abandon_on_timeout", .boolean abandon =>
      if draft.abandonOnTimeout = none then some { draft with abandonOnTimeout := some abandon }
      else none
  | "response_timeout_ms", value => do
      let timeout ← milliseconds? value
      if draft.responseTimeout = none then some { draft with responseTimeout := some timeout }
      else none
  | "max_message_id_probes", value => do
      let probes ← probes? value
      if draft.maxMessageIdProbes = none then some { draft with maxMessageIdProbes := some probes }
      else none
  | _, _ => none

def addInline (draft : Draft) : List String × Scalar → Option Draft
  | ([kind], value) => draft.addTimeout kind value
  | _ => none

def add (draft : Draft) : Statement → Option Draft
  | .header [key] =>
      if key = timeoutsKey ∧ draft.table = .absent then some { draft with table := .underHeader }
      else none
  | .entry [key] (.scalar value) =>
      if draft.table = .underHeader then draft.addTimeout key value else draft.addSetting key value
  | .entry [key] (.table entries) =>
      if key = timeoutsKey ∧ draft.table = .absent then
        entries.foldlM addInline { draft with table := .closed }
      else
        none
  | .entry [table, kind] (.scalar value) =>
      if table = timeoutsKey ∧ (draft.table = .absent ∨ draft.table = .dotted) then
        ({ draft with table := .dotted }).addTimeout kind value
      else
        none
  | _ => none

/-- The options, with defaults for what is not there. -/
def toOptions (draft : Draft) : Options :=
  let default : Options := {}
  { abandonOnTimeout := draft.abandonOnTimeout.getD default.abandonOnTimeout
    responseTimeout := draft.responseTimeout.getD default.responseTimeout
    responseTimeouts := draft.responseTimeouts
    maxMessageIdProbes := draft.maxMessageIdProbes.getD default.maxMessageIdProbes }

end Draft

def ofText (text : String) : Except OptionsError Options :=
  match Document.statements? text >>= fun statements => statements.foldlM Draft.add {} with
  | none => .error .malformed
  | some draft =>
      match draft.toOptions.validate with
      | .error reason => .error (.invalid reason)
      | .ok () => .ok draft.toOptions

end DirectoryClient.Options
