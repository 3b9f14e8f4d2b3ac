import DirectoryClient.Proofs.Engine.Probing
import DirectoryClient.Proofs.Session.Submission

namespace DirectoryClient

namespace Engine

variable {engine : Engine} {kind : OperationKind} {id : MessageId} {place : Nat}

/-- A request has been registered under an identifier and given to the connection. -/
structure Registers (engine started : Engine) (kind : OperationKind) (request : List UInt8)
    (id : MessageId) : Prop where
  entries : started.pending.entries = engine.pending.entries ++ [(id, engine.operations.length)]
  operations : started.operations =
    engine.operations ++ [{ messageId := id, kind, submittedAt := engine.now }]
  trace : started.trace = engine.trace ++ [.transmitted id request]
  ids : started.ids = ⟨IdSequence.successor id.value⟩

theorem registers_of_free (inRange : engine.ids.InRange) (connection : Connection)
    (kind : OperationKind) (request : List UInt8) (timeout : Option Duration)
    (within : place < max engine.options.maxMessageIdProbes 1)
    (taken : ∀ earlier < place, engine.isPending (engine.ids.candidate earlier) = true)
    (free : engine.isPending (engine.ids.candidate place) = false) :
    engine.Registers (engine.beginSubmit connection kind request timeout).2.engine kind request
      (engine.ids.candidate place) := by
  obtain ⟨pending, entries, found⟩ := register_of_free inRange kind within taken free
  rw [engine_beginSubmit_of_registered found]
  exact ⟨entries, rfl, rfl, engine.ids.skip_succ place⟩

theorem Registers.messageId? {started : Engine} {request : List UInt8}
    (registers : engine.Registers started kind request id) :
    started.messageId? engine.operations.length = some id := by
  rw [Engine.messageId?, operation?, registers.operations, List.getElem?_concat_length]
  rfl

end Engine

/-- A request gets the first free identifier from where the sequence stands, or none if the first
ones are all taken. -/
theorem takes_first_free {session : Session} (reachable : Moment.Reachable ⟨session.engine, []⟩)
    {holder : Holder} (held : session.engine.isHeld holder = true)
    (inRange : session.engine.ids.InRange) (kind : OperationKind) (request : List UInt8)
    (timeout : Option Duration) :
    let engine := session.engine
    let probes := max engine.options.maxMessageIdProbes 1
    let started := (engine.beginSubmit session.connection kind request timeout).2
    let step := session.perform (.submit holder kind request timeout)
    (engine.ids.candidate 0 = ⟨engine.ids.next⟩ ∧
      ∀ place, engine.ids.candidate (place + 1) =
        ⟨IdSequence.successor (engine.ids.candidate place).value⟩) ∧
    (∀ place < probes,
      (∀ earlier < place, engine.isPending (engine.ids.candidate earlier) = true) →
      engine.isPending (engine.ids.candidate place) = false →
        let id := engine.ids.candidate place
        engine.Registers started.engine kind request id ∧
        1 ≤ id.value ∧ id.value ≤ MessageId.last ∧
        (∀ later, started.Course later → later.engine.ids = ⟨IdSequence.successor id.value⟩) ∧
        step.2.engine.ids = ⟨IdSequence.successor id.value⟩ ∧
        ∀ handle own, step.1 = .submitted handle own → own = id) ∧
    ((∀ place < probes, engine.isPending (engine.ids.candidate place) = true) →
      step = (.refused (.messageIdsExhausted probes), { session with
        engine := { engine with
          ids := engine.ids.skip probes
          trace := engine.trace ++ [.refused (.messageIdsExhausted probes)] } })) ∧
    ∀ id serial, engine.pending.get? id = some serial →
      started.engine.pending.get? id = some serial := by
  intro engine probes started step
  have coherent : started.ledger.Coherent := (reachable.beginSubmit held rfl).coherent
  refine ⟨⟨IdSequence.candidate_zero inRange, fun place => ?_⟩, fun place within taken free => ?_,
    fun taken => ?_, fun id serial present => Engine.get?_beginSubmit.mpr (.inl present)⟩
  · exact congrArg (fun ids => MessageId.mk ids.next) (engine.ids.skip_succ place)
  · have registers : engine.Registers started.engine kind request _ :=
      Engine.registers_of_free inRange _ kind request timeout within taken free
    have ids : ∀ later, started.Course later →
        later.engine.ids = ⟨IdSequence.successor (engine.ids.candidate place).value⟩ := by
      intro later course
      have changes : Ledger.Changes _ _ := course.changes_alone coherent
      exact changes.ids.trans registers.ids
    obtain ⟨least, most⟩ := engine.ids.candidate_bounds place
    refine ⟨registers, least, most, ids, ?_⟩
    -- What the session answers is what the engine does, since the engine is still held.
    cases answered : engine.submit session.connection kind request timeout with
    | mk answer final =>
        obtain ⟨_, begun, course⟩ := Engine.begun_of_submit answered
        cases (congrArg Prod.snd begun : started = _)
        have last : final.ids = _ := ids _ course
        cases answer with
        | error reason =>
            have same : step = _ := Session.perform_submit_of_error reachable held answered
            rw [same]
            exact ⟨last, nofun⟩
        | ok serial =>
            have same : step = _ := Session.perform_submit_of_ok reachable held answered
            obtain ⟨_, _, _, rfl, _⟩ := Engine.beginSubmit_eq_ok begun
            have later : final.messageId? _ = _ :=
              (coherent.extends (course.changes_alone coherent)).messageId? registers.messageId?
            rw [same, later]
            exact ⟨last, fun handle own submitted => by cases submitted; rfl⟩
  · have exhausted := Engine.register_of_taken inRange kind taken
    exact Session.perform_submit_of_error reachable held (Engine.submit_of_exhausted exhausted)

/-- Three operations are pending around the end of the cycle, and the sequence stands at the first
of them again. -/
def Session.wrapped (probes : Nat) : Session :=
  ((Session.start { maxMessageIdProbes := probes } (.startingAt 2147483646)).run
    [.submit 0 .search [] none, .submit 0 .add [] none, .submit 0 .delete [] none,
      .renumber ⟨2147483646⟩]).2

theorem takes_first_free_wrapped :
    let step (probes : Nat) := (Session.wrapped probes).perform (.submit 0 .compare [1, 2] none)
    let session := Session.wrapped 4
    let started := (session.engine.beginSubmit session.connection .compare [1, 2] none).2
    (session.engine.Registers started.engine .compare [1, 2] ⟨2⟩ ∧ (step 4).2.engine.ids = ⟨3⟩) ∧
      ((step 3).1 = .refused (.messageIdsExhausted 3) ∧ (step 3).2.engine.ids = ⟨2⟩) ∧
      (step 0).1 = .refused (.messageIdsExhausted 1) ∧
        (step 0).2.engine.ids = ⟨MessageId.last⟩ := by
  intro step session started
  have reachable : ∀ probes, Moment.Reachable ⟨(Session.wrapped probes).engine, []⟩ := by
    intro probes
    rw [Session.wrapped]
    exact Session.reachable_run _ _ _
  have held : (Session.wrapped 4).engine.isHeld 0 = true ∧
      (Session.wrapped 3).engine.isHeld 0 = true ∧ (Session.wrapped 0).engine.isHeld 0 = true := by
    decide +kernel
  obtain ⟨-, free, -, -⟩ := takes_first_free (reachable 4) held.1
    ⟨by decide +kernel, by decide +kernel⟩ .compare [1, 2] none
  obtain ⟨-, -, three, -⟩ := takes_first_free (reachable 3) held.2.1
    ⟨by decide +kernel, by decide +kernel⟩ .compare [1, 2] none
  obtain ⟨-, -, one, -⟩ := takes_first_free (reachable 0) held.2.2
    ⟨by decide +kernel, by decide +kernel⟩ .compare [1, 2] none
  obtain ⟨registers, -, -, -, moved, -⟩ := free 3 (by decide +kernel) (by decide +kernel)
    (by decide +kernel)
  have second : (Session.wrapped 4).engine.ids.candidate 3 = ⟨2⟩ := by decide +kernel
  rw [second] at registers moved
  have refused := three (by decide +kernel)
  have refusedAtOnce := one (by decide +kernel)
  refine ⟨⟨registers, moved⟩, ?_, ?_⟩
  · simp only [step, refused]
    exact ⟨by decide +kernel, by decide +kernel⟩
  · simp only [step, refusedAtOnce]
    exact ⟨by decide +kernel, by decide +kernel⟩

end DirectoryClient
