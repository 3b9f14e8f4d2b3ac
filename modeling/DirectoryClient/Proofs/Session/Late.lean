import DirectoryClient.Proofs.Engine.History
import DirectoryClient.Proofs.Engine.Telling
import DirectoryClient.Proofs.Session.Run

namespace DirectoryClient

/-- The connection is inside a site that was reached for an identifier. -/
def Moment.Visits (moment : Moment) (site : Site) (id : MessageId) : Prop :=
  (∃ callback, .callback site id callback ∈ moment.agenda) ∨
    ∃ succeeded, .comeBack site id succeeded ∈ moment.agenda

namespace Moment

variable {moment : Moment} {caller : Caller} {callback : Callback} {id : MessageId} {site : Site}

/-- Whoever calls about an identifier is answered with whether it is pending. -/
theorem Reachable.reply_of_about? (reachable : moment.Reachable)
    (held : moment.engine.isHeld callback.holder = true) (about : callback.call.about? = some id)
    (caller : Caller) :
    (moment.engine.beginRequest caller callback).1 = .flag (moment.engine.isPending id) := by
  rw [Engine.beginRequest_of_held held]
  exact Engine.reply_of_about? reachable.coherent.staged about

theorem Visits.exists_tells (visits : moment.Visits site id) (told : site ≠ .transmit) :
    ∃ task ∈ moment.agenda, task.tells? = some id := by
  rcases visits with ⟨callback, member⟩ | ⟨succeeded, member⟩ <;>
    exact ⟨_, member, if_neg told⟩

end Moment

namespace Session

variable {session : Session} {callback : Callback} {id : MessageId}

theorem perform_request_of_free (held : session.engine.isHeld callback.holder = true)
    (about : callback.call.about? = some id) (free : session.engine.pending.get? id = none) :
    session.perform (.request callback) = (.replied (.flag false), { session with
      engine := session.engine.log (.replied .client callback.call (.flag false)) }) := by
  have settled : (session.engine.log (.replied .client callback.call (.flag false))).Settled :=
    Engine.settled_of_held (Engine.true_mem_holders held)
  simp [perform, take, Engine.request, Engine.beginRequest_of_free held about free, Moment.finish,
    Moment.next?, Engine.carryOut, settle, Engine.release_of_settled settled]

end Session

/-- A call about an identifier has an effect exactly if the identifier is pending, and without an
effect it changes nothing. This is so between calls as well as inside one that has yet to do
`rest`. -/
theorem late_calls_change_nothing {moment : Moment} (reachable : moment.Reachable) :
    (∀ caller callback id rest, moment.engine.isHeld callback.holder = true →
      callback.call.about? = some id →
        let begun := moment.engine.beginRequest caller callback
        begun.1 = .flag (moment.engine.isPending id) ∧
        begun.1 = (moment.engine.beginRequest caller ⟨callback.holder, .isPending id⟩).1 ∧
        (begun.1 = .flag false →
          begun.2 = ⟨moment.engine, [.answer caller callback.call (.flag false)]⟩ ∧
          ∀ next, (begun.2.within rest).Proceeds next →
            next = ⟨moment.engine.log (.replied caller callback.call (.flag false)), rest⟩)) ∧
    (∀ (session : Session) (callback : Callback) (id : MessageId),
      moment = ⟨session.engine, []⟩ → session.engine.isHeld callback.holder = true →
      callback.call.about? = some id →
        (session.perform (.request callback)).1 =
          .replied (.flag (session.engine.isPending id)) ∧
        (session.engine.isPending id = false → (session.perform (.request callback)).2 =
          { session with
            engine := session.engine.log (.replied .client callback.call (.flag false)) })) ∧
    ∀ site id, site ≠ .transmit → moment.Visits site id →
      ∃ serial operation response,
        moment.engine.operation? serial = some operation ∧ operation.messageId = id ∧
        operation.stage = .claimed ∧ .publish serial response ∈ moment.agenda ∧
        (∀ last, moment.Course ⟨last, []⟩ →
          last.outcome? serial = some (operation.outcomeOf response moment.engine.now)) ∧
        ∀ caller callback, moment.engine.isHeld callback.holder = true →
          callback.call.about? = some id →
            (moment.engine.beginRequest caller callback).1 = .flag false := by
  refine ⟨fun caller callback id rest held about => ?_,
    fun session callback id same held about => ?_, fun site id told visits => ?_⟩
  · have reply := reachable.reply_of_about? held about caller
    refine ⟨reply, ?_, fun lost => ?_⟩
    · have asked : moment.engine.isHeld (Callback.mk callback.holder (.isPending id)).holder = true :=
        held
      rw [reply, Engine.beginRequest_of_held asked]
      rfl
    · rw [reply, Reply.flag.injEq] at lost
      have free := PendingTable.contains_eq_false_iff.mp lost
      have begun := Engine.beginRequest_of_free held about free caller
      refine ⟨congrArg Prod.snd begun, fun next step => ?_⟩
      obtain ⟨connection, step⟩ := step
      rw [begun] at step
      cases step
      rfl
  · subst same
    have reply : (session.engine.beginRequest .client callback).1 =
        .flag (session.engine.isPending id) := reachable.reply_of_about? held about .client
    refine ⟨congrArg Answer.replied reply, fun lost => ?_⟩
    have free := PendingTable.contains_eq_false_iff.mp lost
    exact congrArg Prod.snd (Session.perform_request_of_free held about free)
  · obtain ⟨task, member, tells⟩ := visits.exists_tells told
    obtain ⟨serial, waiting, own⟩ := reachable.outcomesFollow.of_mem member tells
    obtain ⟨response, listed⟩ := Task.mem_ending_iff.mp waiting
    obtain ⟨operation, found, claimed⟩ := Moment.claimed_of_ending reachable.coherent waiting
    have free := Moment.free_of_ending reachable.coherent waiting own
    rw [Engine.messageId?, found, Option.map_some, Option.some.injEq] at own
    refine ⟨serial, operation, response, found, own, claimed, listed, fun last course => ?_,
      fun caller callback held about => ?_⟩
    · exact Moment.outcome?_of_publish reachable.coherent found claimed listed course
    · rw [Engine.beginRequest_of_free held about free]

/-- A connection that tries to end an operation again while it is told to abandon it. -/
def Connection.stubborn : Connection :=
  { abandon := fun id =>
      { callbacks := [⟨0, .deliver id .success⟩, ⟨0, .failAll .localError "gone"⟩] } }

/-- The first of two requests has been canceled, and the connection is being told to abandon it. -/
def Moment.abandoning : Moment :=
  (((Session.start { abandonOnTimeout := true } (.startingAt 1)).run
    [.submit 0 .search [] none, .submit 0 .add [] none]).2.engine.beginRequest .client
      ⟨0, .expire ⟨1⟩ .canceled⟩).2.advance .stubborn 3

theorem late_calls_change_nothing_abandoning :
    let moment := Moment.abandoning
    let reply (call : Call) := (moment.engine.beginRequest (.connection .abandon ⟨1⟩) ⟨0, call⟩).1
    (∀ id ∈ [⟨1⟩, ⟨0⟩, ⟨-7⟩, ⟨3⟩], reply (.deliver id .success) = .flag false) ∧
      reply (.entryReturned ⟨2⟩) = .flag true ∧
      ∃ (serial : Serial) (operation : Operation) (response : Response),
        .publish serial response ∈ moment.agenda ∧ operation.messageId = ⟨1⟩ ∧
        (moment.finish .stubborn).outcome? serial =
          some (operation.outcomeOf response moment.engine.now) := by
  intro moment reply
  have reachable : moment.Reachable :=
    ((Session.reachable_run _ _ _).reaches (.single (.request _ _ (.inl rfl)))).reaches
      (Moment.reaches_advance _ _ _)
  obtain ⟨calls, -, told⟩ := late_calls_change_nothing reachable
  have held : moment.engine.isHeld 0 = true := by decide +kernel
  have replies : ∀ call id, call.about? = some id → reply call = .flag (moment.engine.isPending id) :=
    fun call id about => (calls _ ⟨0, call⟩ id [] held about).1
  refine ⟨fun id member => ?_, ?_, ?_⟩
  · rw [replies _ id rfl]
    revert id
    decide +kernel
  · rw [replies _ ⟨2⟩ rfl]
    decide +kernel
  · have visits : moment.Visits .abandon ⟨1⟩ := .inr ⟨true, by decide +kernel⟩
    obtain ⟨serial, operation, response, -, own, -, listed, ended, -⟩ :=
      told .abandon ⟨1⟩ (by decide) visits
    exact ⟨serial, operation, response, listed, own,
      ended _ (Moment.exists_course .stubborn moment)⟩

end DirectoryClient
