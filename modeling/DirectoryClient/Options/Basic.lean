import DirectoryClient.Duration
import DirectoryClient.Operation.Kind
import DirectoryClient.Options.Error
import Std.Data.TreeMap

namespace DirectoryClient

/-- The settings that all operations on a connection share. A timeout is a number of milliseconds,
and zero stands for none. -/
structure Options where
  /-- Whether the server is told to stop work on an operation that the client gives up. -/
  abandonOnTimeout : Bool := false
  /-- The timeout of kinds that have none of their own. -/
  responseTimeout : Nat := 300000
  /-- The timeouts of single kinds, by the name of the kind. -/
  responseTimeouts : Std.TreeMap String Nat := ∅
  /-- How many identifiers are tried for a request before it is refused. -/
  maxMessageIdProbes : Nat := 1024

namespace Options

instance : Inhabited Options := ⟨{}⟩

def mostMilliseconds : Nat := UInt64.size - 1

def validate (options : Options) : Except InvalidSetting Unit :=
  if options.maxMessageIdProbes = 0 then .error .noProbes
  else
    match options.responseTimeouts.keys.find? fun name => (OperationKind.ofName? name).isNone with
    | some name => .error (.unknownKind name)
    | none => .ok ()

def withAbandonOnTimeout (options : Options) (abandon : Bool) : Options :=
  { options with abandonOnTimeout := abandon }

def withResponseTimeout (options : Options) (kind : OperationKind) (timeout : Option Duration) :
    Options :=
  let milliseconds :=
    match timeout with
    | some span => min span.toMilliseconds mostMilliseconds
    | none => 0
  { options with responseTimeouts := options.responseTimeouts.insert kind.name milliseconds }

/-- `response_timeout_for`: the timeout of one kind, if it has one. -/
def responseTimeoutFor (options : Options) (kind : OperationKind) : Option Duration :=
  let milliseconds := options.responseTimeouts.getD kind.name options.responseTimeout
  if milliseconds = 0 then none else some (.ofMilliseconds milliseconds)

end Options

end DirectoryClient
