import DirectoryClient.Proofs.Engine.Commuting
import DirectoryClient.Proofs.Session.Run

namespace DirectoryClient

/-- A call from outside. -/
structure Inquiry where
  caller : Caller
  callback : Callback
deriving DecidableEq, Repr

/-- The identifier of the operation that a call from outside is about. -/
def Inquiry.about? (inquiry : Inquiry) : Option MessageId :=
  inquiry.callback.call.about?

namespace Engine

/-- Carries out several calls, each with the connection as it is at that time. -/
def requestAll (engine : Engine) : List (Connection × Inquiry) → List Reply × Engine
  | [] => ([], engine)
  | (connection, inquiry) :: rest =>
      let first := engine.request connection inquiry.caller inquiry.callback
      let others := first.2.requestAll rest
      (first.1 :: others.1, others.2)

/-- The connections make no calls themselves, and the calls are about different identifiers. -/
structure Independent (calls : List (Connection × Inquiry)) : Prop where
  quiet : ∀ call ∈ calls, call.1.IsQuiet
  about : ∀ call ∈ calls, call.2.about?.isSome
  distinct : (calls.map fun call => call.2.about?).Nodup

variable {engine other : Engine} {agenda : List Task} {calls others : List (Connection × Inquiry)}

theorem Alike.requestAll (alike : engine.Alike other)
    (coherent : (Moment.mk engine agenda).ledger.Coherent)
    (otherwise : (Moment.mk other agenda).ledger.Coherent)
    (same : others.map Prod.snd = calls.map Prod.snd) (quiet : ∀ call ∈ calls, call.1.IsQuiet)
    (quietly : ∀ call ∈ others, call.1.IsQuiet) (about : ∀ call ∈ calls, call.2.about?.isSome) :
    (other.requestAll others).1 = (engine.requestAll calls).1 ∧
      (engine.requestAll calls).2.Alike (other.requestAll others).2 := by
  induction calls generalizing engine other others with
  | nil =>
      cases List.map_eq_nil_iff.mp same
      exact ⟨rfl, alike⟩
  | cons first rest ih =>
      cases others with
      | nil => cases same
      | cons again later =>
          rw [List.map_cons, List.map_cons, List.cons.injEq] at same
          obtain ⟨inquired, same⟩ := same
          obtain ⟨id, asked⟩ := Option.isSome_iff_exists.mp (about _ List.mem_cons_self)
          obtain ⟨reply, after⟩ := alike.request coherent otherwise (quiet _ List.mem_cons_self)
            (quietly _ List.mem_cons_self) asked first.2.caller
          obtain ⟨replies, last⟩ := ih after (coherent_request coherent _ _ _)
            (coherent_request otherwise _ _ _) same
            (fun call member => quiet call (List.mem_cons_of_mem _ member))
            (fun call member => quietly call (List.mem_cons_of_mem _ member))
            (fun call member => about call (List.mem_cons_of_mem _ member))
          rw [requestAll, requestAll, inquired]
          exact ⟨List.cons_eq_cons.mpr ⟨reply, replies⟩, last⟩

theorem Independent.tail {first : Connection × Inquiry}
    (independent : Independent (first :: calls)) :
    Independent calls where
  quiet := fun call member => independent.quiet call (List.mem_cons_of_mem _ member)
  about := fun call member => independent.about call (List.mem_cons_of_mem _ member)
  distinct := (List.nodup_cons.mp independent.distinct).2

theorem Independent.perm (independent : Independent calls) (order : calls.Perm others) :
    Independent others where
  quiet := fun call member => independent.quiet call (order.mem_iff.mpr member)
  about := fun call member => independent.about call (order.mem_iff.mpr member)
  distinct := (order.map _).nodup_iff.mp independent.distinct

/-- The calls of a list with their replies. -/
def answers (engine : Engine) (calls : List (Connection × Inquiry)) : List (Inquiry × Reply) :=
  (calls.map Prod.snd).zip (engine.requestAll calls).1

theorem requestAll_perm (order : calls.Perm others) (independent : Independent calls)
    (coherent : (Moment.mk engine agenda).ledger.Coherent) :
    (engine.answers calls).Perm (engine.answers others) ∧
      (engine.requestAll calls).2.Alike (engine.requestAll others).2 := by
  induction order generalizing engine with
  | nil => exact ⟨.refl _, .refl _⟩
  | cons first _ ih =>
      obtain ⟨answers, last⟩ := ih independent.tail
        (coherent_request coherent first.1 first.2.caller first.2.callback)
      exact ⟨answers.cons _, last⟩
  | swap first second rest =>
      obtain ⟨x, one⟩ := Option.isSome_iff_exists.mp (independent.about second List.mem_cons_self)
      obtain ⟨y, two⟩ := Option.isSome_iff_exists.mp
        (independent.about first (List.mem_cons_of_mem _ List.mem_cons_self))
      have different : x ≠ y := by
        rintro rfl
        refine (List.nodup_cons.mp independent.distinct).1 ?_
        change second.2.about? ∈ first.2.about? :: _
        rw [one, two]
        exact List.mem_cons_self
      obtain ⟨again, same, alike⟩ := request_comm second.2.caller first.2.caller coherent
        (independent.quiet second List.mem_cons_self)
        (independent.quiet first (List.mem_cons_of_mem _ List.mem_cons_self)) one two different
      have coherentOne := coherent_request (coherent_request coherent second.1 second.2.caller
        second.2.callback) first.1 first.2.caller first.2.callback
      have coherentTwo := coherent_request (coherent_request coherent first.1 first.2.caller
        first.2.callback) second.1 second.2.caller second.2.callback
      have left := independent.tail.tail
      obtain ⟨replies, last⟩ :=
        alike.requestAll coherentOne coherentTwo rfl left.quiet left.quiet left.about
      refine ⟨?_, last⟩
      simp only [answers, requestAll, List.map_cons, List.zip_cons_cons, again, same, replies]
      exact .swap _ _ _
  | trans one _ ih later =>
      obtain ⟨answers, last⟩ := ih independent coherent
      obtain ⟨others, final⟩ := later (independent.perm one) coherent
      exact ⟨answers.trans others, last.trans final⟩

/-- The same calls with a connection that does nothing at all. -/
def plainly (calls : List (Connection × Inquiry)) : List (Connection × Inquiry) :=
  (calls.map Prod.snd).map fun inquiry => ({}, inquiry)

theorem map_snd_plainly (calls : List (Connection × Inquiry)) :
    (plainly calls).map Prod.snd = calls.map Prod.snd := by
  simp [plainly, Function.comp_def]

theorem quiet_of_plainly : ∀ call ∈ plainly calls, call.1.IsQuiet := by
  intro call member
  obtain ⟨inquiry, -, rfl⟩ := List.mem_map.mp member
  exact ⟨fun _ => rfl, fun _ => rfl, fun _ => rfl⟩

theorem about?_plainly (calls : List (Connection × Inquiry)) :
    (plainly calls).map (fun call => call.2.about?) = calls.map fun call => call.2.about? := by
  simp [plainly, Function.comp_def]

/-- A connection that makes no calls itself has no say in what becomes of the engine. -/
theorem requestAll_plainly (coherent : (Moment.mk engine agenda).ledger.Coherent)
    (quiet : ∀ call ∈ calls, call.1.IsQuiet) (about : ∀ call ∈ calls, call.2.about?.isSome) :
    engine.answers (plainly calls) = engine.answers calls ∧
      (engine.requestAll calls).2.Alike (engine.requestAll (plainly calls)).2 := by
  obtain ⟨replies, alike⟩ := (Alike.refl engine).requestAll coherent coherent
    (map_snd_plainly calls) quiet quiet_of_plainly about
  exact ⟨by rw [answers, answers, map_snd_plainly, replies], alike⟩

/-- Which connections the calls find makes no difference either. -/
theorem requestAll_perm_inquiries (coherent : (Moment.mk engine agenda).ledger.Coherent)
    (independent : Independent calls) (quietly : ∀ call ∈ others, call.1.IsQuiet)
    (order : (calls.map Prod.snd).Perm (others.map Prod.snd)) :
    (engine.answers calls).Perm (engine.answers others) ∧
      (engine.requestAll calls).2.Alike (engine.requestAll others).2 := by
  have about : ∀ call ∈ others, call.2.about?.isSome := by
    intro call member
    obtain ⟨same, listed, asked⟩ := List.mem_map.mp (order.mem_iff.mpr (List.mem_map_of_mem member))
    exact asked ▸ independent.about same listed
  have plain : Independent (plainly calls) := by
    refine ⟨quiet_of_plainly, fun call member => ?_, about?_plainly calls ▸ independent.distinct⟩
    obtain ⟨inquiry, listed, rfl⟩ := List.mem_map.mp member
    obtain ⟨same, first, rfl⟩ := List.mem_map.mp listed
    exact independent.about same first
  obtain ⟨answers, alike⟩ := requestAll_perm (order.map _) plain coherent
  obtain ⟨before, first⟩ := requestAll_plainly coherent independent.quiet independent.about
  obtain ⟨after, last⟩ := requestAll_plainly coherent quietly about
  exact ⟨before ▸ after ▸ answers, first.trans (alike.trans last.symm)⟩

end Engine

/-- Two calls about different identifiers get the same replies in either order, and so do any number
of them. The table, the operations, the timers and what the connection is called for each identifier
are the same afterwards. The connection makes no calls itself; it may fail, each time in another
way. -/
theorem distinct_calls_commute {moment : Moment} (reachable : moment.Reachable) :
    (∀ (connection elsewhere : Connection) (first second : Inquiry) (x y : MessageId),
      connection.IsQuiet → elsewhere.IsQuiet → first.about? = some x → second.about? = some y →
      x ≠ y →
        let one := moment.engine.requestAll [(connection, first), (elsewhere, second)]
        let two := moment.engine.requestAll [(elsewhere, second), (connection, first)]
        two.1 = one.1.reverse ∧ one.2.Alike two.2) ∧
    ∀ calls others : List (Connection × Inquiry), Engine.Independent calls →
      (∀ call ∈ others, call.1.IsQuiet) → (calls.map Prod.snd).Perm (others.map Prod.snd) →
        (moment.engine.answers calls).Perm (moment.engine.answers others) ∧
          (moment.engine.requestAll calls).2.Alike (moment.engine.requestAll others).2 := by
  refine ⟨fun connection elsewhere first second x y quiet quietly one two different => ?_,
    fun calls others independent quietly order =>
      Engine.requestAll_perm_inquiries reachable.coherent independent quietly order⟩
  obtain ⟨again, same, alike⟩ := Engine.request_comm first.caller second.caller
    reachable.coherent quiet quietly one two different
  exact ⟨List.cons_eq_cons.mpr ⟨same.symm, List.cons_eq_cons.mpr ⟨again, rfl⟩⟩, alike⟩

/-- A connection that is told in vain. -/
def Connection.deaf : Connection :=
  { deregister := fun _ => { failure := some .closed }
    abandon := fun _ => { failure := some ⟨.unavailable, "gone"⟩ } }

/-- Three requests are under way, two of them with a timer. -/
def Session.busy : Session :=
  ((Session.start { abandonOnTimeout := true } (.startingAt 1)).run
    [.submit 0 .search [] (some (.ofSeconds 9 0)), .submit 0 .add [] (some (.ofSeconds 9 0)),
      .submit 0 .search [] none]).2

theorem distinct_calls_commute_busy :
    let engine := Session.busy.engine
    let cancel : Inquiry := ⟨.client, ⟨0, .expire ⟨1⟩ .canceled⟩⟩
    let finish : Inquiry := ⟨.client, ⟨0, .deliver ⟨2⟩ .success⟩⟩
    let count : Inquiry := ⟨.schedule, ⟨0, .entryReturned ⟨3⟩⟩⟩
    let one := engine.requestAll [(.deaf, cancel), ({}, finish)]
    let two := engine.requestAll [({}, finish), (.deaf, cancel)]
    one.1 = [.flag true, .flag true] ∧ two.1 = one.1.reverse ∧ one.2.Alike two.2 ∧
      one.2.trace ≠ two.2.trace ∧
      (engine.requestAll [(.deaf, cancel), ({}, finish), ({}, count)]).2.Alike
        (engine.requestAll [(.deaf, count), ({}, cancel), (.deaf, finish)]).2 := by
  intro engine cancel finish count one two
  have reachable : Moment.Reachable ⟨engine, []⟩ := Session.reachable_run _ _ _
  have deaf : Connection.deaf.IsQuiet := ⟨fun _ => rfl, fun _ => rfl, fun _ => rfl⟩
  have silent : Connection.IsQuiet {} := ⟨fun _ => rfl, fun _ => rfl, fun _ => rfl⟩
  obtain ⟨pair, all⟩ := distinct_calls_commute reachable
  obtain ⟨replies, alike⟩ := pair .deaf {} cancel finish ⟨1⟩ ⟨2⟩ deaf silent rfl rfl (by decide)
  have independent : Engine.Independent [(.deaf, cancel), ({}, finish), ({}, count)] :=
    ⟨by simp [deaf, silent], by simp [Inquiry.about?, cancel, finish, count, Call.about?],
      by decide⟩
  refine ⟨by decide +kernel, replies, alike, by decide +kernel, ?_⟩
  exact (all _ [(.deaf, count), ({}, cancel), (.deaf, finish)] independent (by simp [deaf, silent])
    (by decide)).2

end DirectoryClient
