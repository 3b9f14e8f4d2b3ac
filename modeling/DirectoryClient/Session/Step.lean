import DirectoryClient.Session.Basic

namespace DirectoryClient

/-- What users do with an engine and with handles, and what happens around them: the clock moves,
calls are planned and the connection changes. -/
inductive Step where
  | submit (holder : Holder) (kind : OperationKind) (request : List UInt8)
      (timeout : Option Duration)
  /-- `submit_with_default_timeout`: with what `response_timeout_for` gives for the kind. -/
  | submitDefault (holder : Holder) (kind : OperationKind) (request : List UInt8)
  | request (callback : Callback)
  /-- Looks at the operation of a handle. -/
  | inspect (handle : Handle)
  | cloneHandle (handle : Handle)
  | recordEntry (handle : Handle)
  | recordReference (handle : Handle)
  /-- `await_result`, with the limit of the caller. -/
  | await (handle : Handle) (limit : Option Duration)
  /-- `result`: looks for the outcome and does not wait. -/
  | poll (handle : Handle)
  | sleep (span : Duration)
  /-- Plans a call for a later time. -/
  | plan (after : Duration) (callback : Callback)
  /-- Gives the connection another behaviour. -/
  | reconnect (connection : Connection)
  | cloneEngine (holder : Holder)
  | dropEngine (holder : Holder)
  /-- Makes `id` the next identifier that is tried. -/
  | renumber (id : MessageId)

inductive Answer where
  | done
  | submitted (handle : Handle) (id : MessageId)
  | refused (reason : SubmitError)
  | replied (reply : Reply)
  | operation (operation : Operation)
  | handle (handle : Handle)
  | holder (holder : Holder)
  | count (recorded : UInt32)
  | outcome (outcome : Outcome)
  | failed (reason : AwaitError)
  /-- There is no outcome so far. -/
  | unresolved
  /-- The wait has no end. -/
  | endless
  | noEngine
  | noHandle
deriving DecidableEq, Repr

namespace Session

def submit (session : Session) (kind : OperationKind) (request : List UInt8)
    (timeout : Option Duration) : Answer × Session :=
  match session.engine.submit session.connection kind request timeout with
  | (.error reason, engine) => (.refused reason, { session with engine })
  | (.ok serial, engine) =>
      let (handle, handled) := { session with engine }.addHandle serial
      let id := ((engine.operation? serial).map Operation.messageId).getD ⟨0⟩
      (.submitted handle id, handled)

def countOf (engine : Engine) (serial : Serial) (count : Operation → UInt32) : UInt32 :=
  ((engine.operation? serial).map count).getD 0

/-- Does something with the operation of a handle, if there is such a handle. -/
def withHandle (session : Session) (handle : Handle) (action : Serial → Answer × Session) :
    Answer × Session :=
  match session.handles[handle]? with
  | some serial => action serial
  | none => (.noHandle, session)

/-- Does something with the engine, if the reference to it is held. -/
def withEngine (session : Session) (holder : Holder) (action : Answer × Session) :
    Answer × Session :=
  if session.engine.isHeld holder then action else (.noEngine, session)

def take (session : Session) : Step → Answer × Session
  | .submit holder kind request timeout =>
      session.withEngine holder (session.submit kind request timeout)
  | .submitDefault holder kind request =>
      session.withEngine holder
        (session.submit kind request (session.engine.options.responseTimeoutFor kind))
  | .request callback =>
      let (reply, engine) := session.engine.request session.connection .client callback
      (.replied reply, { session with engine })
  | .inspect handle =>
      session.withHandle handle fun serial =>
        match session.engine.operation? serial with
        | some operation => (.operation operation, session)
        | none => (.noHandle, session)
  | .cloneHandle handle =>
      session.withHandle handle fun serial =>
        let (made, handled) := session.addHandle serial
        (.handle made, handled)
  | .recordEntry handle =>
      session.withHandle handle fun serial =>
        let engine := session.engine.countEntry serial
        (.count (countOf engine serial Operation.entries), { session with engine })
  | .recordReference handle =>
      session.withHandle handle fun serial =>
        let engine := session.engine.countReference serial
        (.count (countOf engine serial Operation.references), { session with engine })
  | .await handle limit =>
      session.withHandle handle fun serial =>
        match session.await serial limit with
        | (some (.ok outcome), after) => (.outcome outcome, after)
        | (some (.error reason), after) => (.failed reason, after)
        | (none, after) => (.endless, after)
  | .poll handle =>
      session.withHandle handle fun serial =>
        match session.outcome? serial with
        | some outcome => (.outcome outcome, session)
        | none => (.unresolved, session)
  | .sleep span => (.done, session.sleep span)
  | .plan after callback =>
      (.done, { session with
        plans := session.plans ++ [⟨session.engine.now + after, callback⟩] })
  | .reconnect connection => (.done, { session with connection })
  | .cloneEngine holder =>
      session.withEngine holder <|
        let (made, engine) := session.engine.clone
        (.holder made, { session with engine })
  | .dropEngine holder =>
      session.withEngine holder (.done, { session with engine := session.engine.drop holder })
  | .renumber id =>
      (.done, { session with engine := { session.engine with ids := ⟨id.value⟩ } })

/-- Takes a step, and lets the engine go if nobody can reach it any more. -/
def perform (session : Session) (step : Step) : Answer × Session :=
  let (answer, after) := session.take step
  (answer, after.settle)

/-- Takes steps one after the other, each to its end with all that it makes ready. -/
def run (session : Session) : List Step → List Answer × Session
  | [] => ([], session)
  | step :: rest =>
      let (answer, after) := session.perform step
      let (answers, final) := after.run rest
      (answer :: answers, final)

end Session

end DirectoryClient
