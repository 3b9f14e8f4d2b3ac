import DirectoryClient.Health.Basic
import DirectoryClient.Options.Error

namespace DirectoryClient.Health

/-- The checks that keep no state. -/
inductive BuiltinCheck where
  /-- Rejects a connection that is not connected, at every transition. -/
  | connected
  /-- Rejects a connection that is older than `limit`, whenever it is about to be used. -/
  | maximumAge (limit : Duration) (positive : .zero < limit)
  /-- Rejects a connection after a failure whose code leaves no connection usable. -/
  | resultCode
deriving DecidableEq, Repr

namespace BuiltinCheck

/-- The check of a maximum age, which must not be zero. -/
def ofMaximumAge (limit : Duration) : Except InvalidSetting BuiltinCheck :=
  if positive : .zero < limit then .ok (.maximumAge limit positive) else .error .zeroMaximumAge

def maximumAgeName : String := "MaxConnectionAgeCheck"

def name : BuiltinCheck → String
  | .connected => "ConnectedCheck"
  | .maximumAge _ _ => maximumAgeName
  | .resultCode => "ResultCodeCheck"

def examineAge (limit : Duration) (connection : PooledConnection) : Except Rejection Unit :=
  if connection.age ≤ limit then
    .ok ()
  else
    .error
      { check := maximumAgeName
        message := s!"{connection.name} was established {connection.age.toMilliseconds} ms ago, " ++
          s!"maximum age is {limit.toMilliseconds} ms" }

def examine (check : BuiltinCheck) (transition : Transition) (connection : PooledConnection) :
    Except Rejection Unit :=
  match check, transition with
  | .connected, transition =>
      if connection.isConnected then
        .ok ()
      else
        .error
          { check := connected.name
            message := s!"{connection.name} is not connected"
            cause := transition.cause? }
  | .maximumAge limit _, .checkout => examineAge limit connection
  | .maximumAge limit _, .continued => examineAge limit connection
  | .maximumAge _ _, _ => .ok ()
  | .resultCode, .failed error =>
      if error.code.isConnectionUsable then
        .ok ()
      else
        .error
          { check := resultCode.name
            message := s!"operation on {connection.name} failed with result code " ++
              error.code.text
            cause := some error }
  | .resultCode, _ => .ok ()

def toCheck {m : Type → Type} [Monad m] (check : BuiltinCheck) : Check m where
  name := check.name
  examine transition connection := pure (check.examine transition connection)

end BuiltinCheck

end DirectoryClient.Health
