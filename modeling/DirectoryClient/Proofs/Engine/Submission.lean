import DirectoryClient.Proofs.Engine.Coherence

namespace DirectoryClient

namespace Engine

variable {engine : Engine} {id : MessageId} {serial other : Serial}

@[simp] theorem operation?_accept (deadline : Option Duration) :
    (engine.accept id serial deadline).operation? other = engine.operation? other := by
  cases deadline <;> simp [accept]

@[simp] theorem status?_accept (deadline : Option Duration) :
    (engine.accept id serial deadline).status? other = engine.status? other := by
  rw [status?, operation?_accept, status?]

@[simp] theorem messageId?_accept (deadline : Option Duration) :
    (engine.accept id serial deadline).messageId? other = engine.messageId? other := by
  rw [messageId?, operation?_accept, messageId?]

@[simp] theorem pending_accept (deadline : Option Duration) :
    (engine.accept id serial deadline).pending = engine.pending := by
  cases deadline <;> simp [accept]

@[simp] theorem trace_accept (deadline : Option Duration) :
    (engine.accept id serial deadline).trace = engine.trace ++ [.submitted serial] := by
  cases deadline <;> simp [accept]

@[simp] theorem submitted_accept (deadline : Option Duration) :
    (engine.accept id serial deadline).submitted = engine.submitted ++ [serial] := by
  rw [submitted, trace_accept, List.filterMap_append]
  rfl

@[simp] theorem published_accept (deadline : Option Duration) :
    (engine.accept id serial deadline).published = engine.published := by
  rw [published, trace_accept, List.filterMap_append]
  exact List.append_nil _

theorem mem_timers_accept {deadline : Option Duration} {timer : Timer}
    (armed : timer ∈ (engine.accept id serial deadline).timers) :
    timer ∈ engine.timers ∨ timer.operation = serial ∧ timer.messageId = id ∧
      ∃ own, engine.status? serial = some (own, .pending) := by
  cases deadline with
  | none => exact .inl armed
  | some deadline =>
      refine (mem_timers_arm armed).imp_right fun ⟨same, pending⟩ => ?_
      cases same
      exact ⟨rfl, rfl, pending⟩

end Engine

namespace Ledger

open PendingTable Engine

variable {engine registered : Engine} {ending : List Serial}
variable {submitting : List (MessageId × Serial)} {id : MessageId} {serial : Serial}

/-! ## Returning an operation -/

theorem known_accept (deadline : Option Duration) :
    known ⟨engine.accept id serial deadline, ending, submitting⟩ =
      known ⟨engine, ending, (id, serial) :: submitting⟩ := by
  simp [known]

theorem Coherent.timed_accept (coherent : Coherent ⟨engine, ending, (id, serial) :: submitting⟩)
    (deadline : Option Duration) :
    Timed ⟨engine.accept id serial deadline, ending, submitting⟩ := by
  intro timer armed
  change timer.operation ∈ (engine.accept id serial deadline).submitted ∧ _
  simp only [submitted_accept, messageId?_accept, pending_accept, List.mem_append]
  rcases mem_timers_accept armed with earlier | ⟨rfl, rfl, own, pending⟩
  · obtain ⟨returned, same, place⟩ := coherent.timed timer earlier
    exact ⟨.inl returned, same, place⟩
  · have same := coherent.known.own List.mem_cons_self
    have listed : timer.operation ∈ Ledger.known ⟨engine, ending,
        (timer.messageId, timer.operation) :: submitting⟩ := by
      simp [Ledger.known]
    obtain ⟨key, stage, stands, place⟩ := coherent.known.present listed
    cases pending.symm.trans stands
    cases same.symm.trans (messageId?_of_status? stands)
    exact ⟨.inr (List.mem_singleton.mpr rfl), same, .inl (place rfl)⟩

theorem Coherent.accept (coherent : Coherent ⟨engine, ending, (id, serial) :: submitting⟩)
    (deadline : Option Duration) :
    Coherent ⟨engine.accept id serial deadline, ending, submitting⟩ := by
  refine ⟨⟨?_, ?_, coherent.staged.distinct⟩, ?_, coherent.timed_accept deadline, ⟨?_, ?_, ?_, ?_⟩,
    ⟨?_, ?_⟩⟩
  · intro key other
    simpa using coherent.staged.entry
  · intro other
    simpa using coherent.staged.claimed
  · intro first second key live
    simp only [messageId?_accept]
    rw [Live, pending_accept] at live
    exact coherent.latest live
  · intro key other member
    simpa using coherent.known.own (List.mem_cons_of_mem _ member)
  · intro other member
    rw [known_accept] at member
    simpa using coherent.known.present member
  · intro key other present
    rw [known_accept]
    simp only [pending_accept] at present
    exact coherent.known.entry present
  · rw [known_accept]
    exact coherent.known.distinct
  · intro other
    simpa using coherent.published.resolved
  · simpa using coherent.published.distinct

/-! ## Giving an operation up -/

theorem Coherent.get?_withdraw (coherent : Coherent ⟨engine, ending, (id, serial) :: submitting⟩)
    {key : MessageId} {other : Serial} :
    (engine.withdraw id serial).pending.get? key = some other ↔
      engine.pending.get? key = some other ∧ other ≠ serial := by
  rw [withdraw, get?_removeIfSame]
  refine and_congr_right fun present => ⟨fun different same => ?_, fun different _ => different⟩
  subst same
  have own := coherent.known.own List.mem_cons_self
  cases own.symm.trans (messageId?_of_status? (coherent.staged.entry present))
  exact different rfl rfl

theorem Coherent.refuse (coherent : Coherent ⟨engine, ending, (id, serial) :: submitting⟩) :
    Coherent ⟨engine.withdraw id serial, ending, submitting⟩ := by
  have distinct : (engine.submitted ++ serial :: submitting.map Prod.snd).Nodup :=
    coherent.known.distinct
  have fewer : (engine.submitted ++ submitting.map Prod.snd).Sublist
      (engine.submitted ++ serial :: submitting.map Prod.snd) :=
    (List.Sublist.refl _).append (List.sublist_cons_self _ _)
  -- The operation that is given up was on no other account among the known ones.
  have away : ∀ {other}, other ∈ engine.submitted ++ submitting.map Prod.snd → other ≠ serial := by
    intro other member same
    subst same
    rw [List.nodup_append, List.nodup_cons] at distinct
    rcases List.mem_append.mp member with returned | listed
    · exact distinct.2.2 other returned other List.mem_cons_self rfl
    · exact distinct.2.1.1 listed
  refine ⟨⟨?_, coherent.staged.claimed, coherent.staged.distinct⟩, ?_, ?_,
    ⟨?_, ?_, ?_, distinct.sublist fewer⟩,
    ⟨coherent.published.resolved, coherent.published.distinct⟩⟩
  · intro key other left
    exact coherent.staged.entry (coherent.get?_withdraw.mp left).1
  · intro first second key live
    refine coherent.latest (live.imp_left fun ⟨key, left⟩ => ?_)
    exact ⟨key, (coherent.get?_withdraw.mp left).1⟩
  · intro timer armed
    obtain ⟨returned, own, place⟩ := coherent.timed timer armed
    refine ⟨returned, own, place.imp_left fun present => ?_⟩
    exact coherent.get?_withdraw.mpr ⟨present, away (List.mem_append_left _ returned)⟩
  · intro key other member
    exact coherent.known.own (List.mem_cons_of_mem _ member)
  · intro other member
    obtain ⟨key, stage, stands, place⟩ := coherent.known.present (fewer.subset member)
    exact ⟨key, stage, stands,
      fun pending => coherent.get?_withdraw.mpr ⟨place pending, away member⟩⟩
  · intro key other left
    obtain ⟨present, different⟩ := coherent.get?_withdraw.mp left
    have member := coherent.known.entry present
    simp only [Ledger.known, List.map_cons, List.mem_append, List.mem_cons] at member ⊢
    tauto

/-! ## Registering an operation -/

variable {kind : OperationKind} {probes : Nat}

theorem Staged.register (staged : Staged ⟨engine, [], []⟩)
    (found : engine.register kind probes = (some id, registered)) :
    Staged ⟨registered, [], [(id, engine.operations.length)]⟩ where
  entry := by
    intro key other present
    change registered.status? other = _
    rw [status?_register found]
    rcases (get?_register found).mp present with earlier | ⟨rfl, rfl⟩
    · have stands := staged.entry earlier
      rw [if_neg (Nat.ne_of_lt (lt_length_of_status? stands)), stands]
    · rw [if_pos rfl]
  claimed := by
    intro other
    refine ⟨fun member => absurd member List.not_mem_nil, fun ⟨key, claimed⟩ => ?_⟩
    change registered.status? other = _ at claimed
    rw [status?_register found] at claimed
    split at claimed
    · cases claimed
    · exact staged.claimed.mpr ⟨key, claimed⟩
  distinct := List.nodup_nil

theorem Coherent.latest_register (coherent : Coherent ⟨engine, [], []⟩)
    (found : engine.register kind probes = (some id, registered)) :
    Latest ⟨registered, [], [(id, engine.operations.length)]⟩ := by
  intro first second key live one two
  change registered.messageId? first = _ at one
  change registered.messageId? second = _ at two
  rw [messageId?_register found] at one two
  rcases live with ⟨place, present⟩ | member
  · rcases (get?_register found).mp present with earlier | ⟨-, rfl⟩
    · have stands := messageId?_of_status? (coherent.staged.entry earlier)
      rw [if_neg (Nat.ne_of_lt (lt_length_of_messageId? stands))] at one
      split at two
      · cases one.symm.trans stands
        cases two
        cases (free_of_register found).symm.trans earlier
      · exact coherent.latest (.inl ⟨place, earlier⟩) one two
    · split at two
      · next same => exact Nat.le_of_eq same
      · exact Nat.le_of_lt (lt_length_of_messageId? two)
  · exact absurd member List.not_mem_nil

theorem Coherent.timed_register (coherent : Coherent ⟨engine, [], []⟩)
    (found : engine.register kind probes = (some id, registered)) :
    Timed ⟨registered, [], [(id, engine.operations.length)]⟩ := by
  intro timer armed
  have frame := frame_register found
  have timers : registered.timers = engine.timers := by rw [frame]
  have submitted : registered.submitted = engine.submitted := by rw [frame]; rfl
  obtain ⟨returned, own, place⟩ := coherent.timed timer (timers ▸ armed)
  refine ⟨submitted ▸ returned, ?_, ?_⟩
  · change registered.messageId? timer.operation = _
    rw [messageId?_register found, if_neg (Nat.ne_of_lt (lt_length_of_messageId? own))]
    exact own
  · exact place.imp_left fun present => (get?_register found).mpr (.inl present)

theorem Coherent.known_register (coherent : Coherent ⟨engine, [], []⟩)
    (found : engine.register kind probes = (some id, registered)) :
    Known ⟨registered, [], [(id, engine.operations.length)]⟩ := by
  have known : Ledger.known ⟨registered, [], [(id, engine.operations.length)]⟩ =
      Ledger.known ⟨engine, [], []⟩ ++ [engine.operations.length] := by
    rw [Ledger.known, Ledger.known, frame_register found]
    simp [submitted]
  have earlier : ∀ {other}, other ∈ Ledger.known ⟨engine, [], []⟩ →
      other < engine.operations.length := by
    intro other member
    obtain ⟨key, stage, stands, -⟩ := coherent.known.present member
    exact lt_length_of_status? stands
  refine ⟨?_, ?_, ?_, ?_⟩
  · intro key other member
    cases List.mem_singleton.mp member
    change registered.messageId? _ = _
    rw [messageId?_register found, if_pos rfl]
  · intro other member
    change ∃ key stage, registered.status? other = _ ∧ _
    rw [known, List.mem_append, List.mem_singleton] at member
    rw [status?_register found]
    rcases member with old | rfl
    · obtain ⟨key, stage, stands, place⟩ := coherent.known.present old
      rw [if_neg (Nat.ne_of_lt (earlier old))]
      exact ⟨key, stage, stands, fun pending => (get?_register found).mpr (.inl (place pending))⟩
    · rw [if_pos rfl]
      exact ⟨id, .pending, rfl, fun _ => (get?_register found).mpr (.inr ⟨rfl, rfl⟩)⟩
  · intro key other present
    rw [known, List.mem_append, List.mem_singleton]
    exact ((get?_register found).mp present).imp (fun old => coherent.known.entry old) And.right
  · rw [known]
    exact List.nodup_append.mpr ⟨coherent.known.distinct, List.nodup_singleton _,
      fun first member second last same =>
        Nat.ne_of_lt (earlier member) (same.trans (List.mem_singleton.mp last))⟩

theorem Coherent.published_register (coherent : Coherent ⟨engine, [], []⟩)
    (found : engine.register kind probes = (some id, registered)) :
    Published ⟨registered, [], [(id, engine.operations.length)]⟩ := by
  have same : registered.published = engine.published := by rw [frame_register found]; rfl
  refine ⟨?_, same ▸ coherent.published.distinct⟩
  intro other
  change other ∈ registered.published ↔ ∃ key outcome, registered.status? other = _
  rw [same, status?_register found]
  split
  · next last =>
      refine ⟨fun member => ?_, fun ⟨key, outcome, ended⟩ => by cases ended⟩
      obtain ⟨key, outcome, ended⟩ := coherent.published.resolved.mp member
      exact absurd last (Nat.ne_of_lt (lt_length_of_status? ended))
  · exact coherent.published.resolved

theorem Coherent.register (coherent : Coherent ⟨engine, [], []⟩)
    (found : engine.register kind probes = (some id, registered)) :
    Coherent ⟨registered, [], [(id, engine.operations.length)]⟩ :=
  ⟨coherent.staged.register found, coherent.latest_register found,
    coherent.timed_register found, coherent.known_register found,
    coherent.published_register found⟩

/-! ## Every change -/

theorem Coherent.disarm (coherent : Coherent ⟨engine, ending, submitting⟩) (timer : Timer) :
    Coherent ⟨{ engine with timers := engine.timers.erase timer }, ending, submitting⟩ where
  staged := ⟨coherent.staged.entry, coherent.staged.claimed, coherent.staged.distinct⟩
  latest := coherent.latest
  timed := fun other armed => coherent.timed other (List.mem_of_mem_erase armed)
  known := ⟨coherent.known.own, coherent.known.present, coherent.known.entry,
    coherent.known.distinct⟩
  published := ⟨coherent.published.resolved, coherent.published.distinct⟩

theorem Coherent.change {ledger after : Ledger} (coherent : ledger.Coherent)
    (change : ledger.Change after) : after.Coherent := by
  cases change with
  | note plain =>
      obtain ⟨notSubmitted, notPublished⟩ := plain
      exact coherent.agrees
        ⟨fun _ => rfl, rfl, rfl, by simp [notSubmitted], by simp [notPublished], rfl, rfl⟩
  | countEntry present =>
      exact coherent.agrees ⟨by simp, rfl, rfl, by simp, by simp, rfl, rfl⟩
  | countReference present =>
      exact coherent.agrees ⟨by simp, rfl, rfl, by simp, by simp, rfl, rfl⟩
  | takeOut found => exact coherent.takeOut found
  | publish response => exact coherent.publish response
  | accept deadline => exact coherent.accept deadline
  | refuse => exact coherent.refuse

theorem Change.frame {ledger after : Ledger} (change : ledger.Change after) :
    after.engine = { ledger.engine with
      operations := after.engine.operations, pending := after.engine.pending
      timers := after.engine.timers, trace := after.engine.trace } := by
  cases change with
  | takeOut found =>
      simp only [timers_takeOut found, trace_takeOut found]
      exact frame_takeOut found
  | accept deadline =>
      cases deadline with
      | none => rfl
      | some deadline =>
          simp only [Engine.accept, Option.map_some, Option.getD_some, arm]
          split <;> rfl
  | _ => rfl

/-- Of an engine, a call changes the operations, the table, the timers and the trace only. -/
theorem Changes.frame {ledger after : Ledger} (changes : ledger.Changes after) :
    after.engine = { ledger.engine with
      operations := after.engine.operations, pending := after.engine.pending
      timers := after.engine.timers, trace := after.engine.trace } := by
  induction changes with
  | refl => rfl
  | tail _ change ih =>
      rw [change.frame, ih]

theorem Coherent.turn {ledger after : Ledger} (coherent : ledger.Coherent)
    (turn : ledger.Turn after) : after.Coherent := by
  cases turn with
  | register found => exact coherent.register found
  | disarm timer => exact coherent.disarm timer
  | recordEntry serial =>
      exact coherent.agrees ⟨by simp, rfl, rfl, by simp, by simp, rfl, rfl⟩
  | recordReference serial =>
      exact coherent.agrees ⟨by simp, rfl, rfl, by simp, by simp, rfl, rfl⟩
  | tend ids holders now =>
      exact coherent.agrees ⟨fun _ => rfl, rfl, rfl, rfl, rfl, rfl, rfl⟩

theorem Coherent.changes {ledger after : Ledger} (coherent : ledger.Coherent)
    (changes : ledger.Changes after) : after.Coherent := by
  induction changes with
  | refl => exact coherent
  | tail _ change ih => exact ih.change change

end Ledger

end DirectoryClient
