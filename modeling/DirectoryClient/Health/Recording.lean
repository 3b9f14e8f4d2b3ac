import DirectoryClient.Health.Basic

namespace DirectoryClient.Health

def Transition.label : Transition → String
  | .established => "new"
  | .authenticated _ => "auth"
  | .checkout => "checkout"
  | .release => "release"
  | .continued => "continued"
  | .failed _ => "exception"

def recordText (name : String) (connection : PooledConnection) (transition : Transition) : String :=
  let asked := s!"{name}:{transition.label}"
  match transition with
  | .established => s!"{asked}({connection.name})"
  | .authenticated response => s!"{asked}({response.code.text})"
  | .failed error => s!"{asked}({error.text})"
  | _ => asked

/-- The check that rejects with the message that `refusals` has for the transition's short name, and
writes down every time it is asked. -/
def Check.recording (name : String) (refusals : List (String × String)) :
    Check (StateM (List String)) where
  name := name
  examine transition connection := do
    modify (· ++ [recordText name connection transition])
    match refusals.lookup transition.label with
    | none => pure (.ok ())
    | some message => pure (.error { check := name, message, cause := transition.cause? })

end DirectoryClient.Health
