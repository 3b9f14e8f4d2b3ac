import DirectoryClient.Engine.Moment

namespace DirectoryClient.Engine

/-- Begins a call from outside. Its answer is settled at once, since nothing that happens later
changes it. -/
def beginRequest (engine : Engine) (caller : Caller) (callback : Callback) : Reply × Moment :=
  let (reply, moment) := engine.beginCallback callback
  (reply, { moment with agenda := moment.agenda ++ [.answer caller callback.call reply] })

/-- Makes a call from outside and carries it to its end. -/
def request (engine : Engine) (connection : Connection) (caller : Caller) (callback : Callback) :
    Reply × Engine :=
  let (reply, moment) := engine.beginRequest caller callback
  (reply, moment.finish connection)

/-- Begins `submit`: the deadline and the identifier are settled, the operation is registered and
the request is written. What the connection does meanwhile is on the agenda, and behind it the rest
of `submit`. -/
def beginSubmit (engine : Engine) (connection : Connection) (kind : OperationKind)
    (request : List UInt8) (timeout : Option Duration) : Except SubmitError Serial × Moment :=
  let probes := max engine.options.maxMessageIdProbes 1
  let serial := engine.operations.length
  match engine.register kind probes with
  | (none, probed) =>
      let reason := .messageIdsExhausted probes
      (.error reason, ⟨probed.log (.refused reason), []⟩)
  | (some id, registered) =>
      let reaction := connection.transmit id
      let (answer, last) : Except SubmitError Serial × Task := match reaction.failure with
        | some reason => (.error (.transport reason), .refuse id serial reason)
        | none => (.ok serial, .accept id serial (timerDeadline engine.now timeout))
      (answer,
        { engine := registered.log (.transmitted id request)
          agenda := Task.ofReaction .transmit id reaction ++ [last] })

/-- `submit`, with the serial of the operation in the place of a handle. -/
def submit (engine : Engine) (connection : Connection) (kind : OperationKind)
    (request : List UInt8) (timeout : Option Duration) : Except SubmitError Serial × Engine :=
  let (answer, moment) := engine.beginSubmit connection kind request timeout
  (answer, moment.finish connection)

/-- Begins what the task of `arm_timer` does when it is due, which is `expire`. It fires once. -/
def beginFiring (engine : Engine) (timer : Timer) : Reply × Moment :=
  let fired := { engine with timers := engine.timers.erase timer }
  let call := .expire timer.messageId .timeout
  let (reply, moment) := fired.beginCall call
  (reply, { moment with agenda := moment.agenda ++ [.answer (.timer timer.operation) call reply] })

/-- Does what a timer does when it is due; a timer that is no longer armed does nothing. -/
def fire (engine : Engine) (connection : Connection) (timer : Timer) : Engine :=
  if timer ∈ engine.timers then
    (engine.beginFiring timer).2.finish connection
  else
    engine

end DirectoryClient.Engine
