namespace DirectoryClient

/-- Codes are an open set: a server may send any number, and some numbers have a name. Those from 81
on are given by the client itself. -/
structure ResultCode where
  value : Int
deriving DecidableEq, Repr

namespace ResultCode

def success : ResultCode := ⟨0⟩
def operationsError : ResultCode := ⟨1⟩
def protocolError : ResultCode := ⟨2⟩
def timeLimitExceeded : ResultCode := ⟨3⟩
def sizeLimitExceeded : ResultCode := ⟨4⟩
def compareFalse : ResultCode := ⟨5⟩
def compareTrue : ResultCode := ⟨6⟩
def invalidCredentials : ResultCode := ⟨49⟩
def busy : ResultCode := ⟨51⟩
def unavailable : ResultCode := ⟨52⟩
def unwillingToPerform : ResultCode := ⟨53⟩
def other : ResultCode := ⟨80⟩
def serverDown : ResultCode := ⟨81⟩
def localError : ResultCode := ⟨82⟩
def encodingError : ResultCode := ⟨83⟩
def decodingError : ResultCode := ⟨84⟩
def timeout : ResultCode := ⟨85⟩
def userCanceled : ResultCode := ⟨88⟩
def noMemory : ResultCode := ⟨90⟩
def connectError : ResultCode := ⟨91⟩

def named : List (ResultCode × String) :=
  [(success, "success"), (operationsError, "operations error"), (protocolError, "protocol error"),
    (timeLimitExceeded, "time limit exceeded"), (sizeLimitExceeded, "size limit exceeded"),
    (compareFalse, "compare false"), (compareTrue, "compare true"),
    (invalidCredentials, "invalid credentials"), (busy, "busy"), (unavailable, "unavailable"),
    (unwillingToPerform, "unwilling to perform"), (other, "other"), (serverDown, "server down"),
    (localError, "local error"), (encodingError, "encoding error"),
    (decodingError, "decoding error"), (timeout, "timeout"), (userCanceled, "user canceled"),
    (noMemory, "no memory"), (connectError, "connect error")]

/-- The name of a code, if it has one. -/
def name? (code : ResultCode) : Option String :=
  named.lookup code

/-- The codes after which a connection cannot be trusted: its stream is out of step, or the peer is
gone. -/
def fatal : List ResultCode :=
  [operationsError, protocolError, busy, unavailable, other, serverDown, localError, encodingError,
    decodingError, noMemory, connectError]

def isConnectionUsable (code : ResultCode) : Bool :=
  !fatal.contains code

/-- The number, with the name after it if there is one. -/
def text (code : ResultCode) : String :=
  match code.name? with
  | some name => s!"{code.value} ({name})"
  | none => toString code.value

end ResultCode

end DirectoryClient
