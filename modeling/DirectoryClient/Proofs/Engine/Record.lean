import DirectoryClient.Proofs.Engine.Cause

/-!
# How the end of an operation shows in the trace

The trace of a run is about many operations at once. What it says about one of them is its record,
and the first thing after its outcome that is not an outcome itself says who has ended it.
-/

namespace DirectoryClient.Event

/-- The identifier of a visit to the connection that is over. -/
def visited? : Event → Option MessageId
  | .returned _ id _ => some id
  | _ => none

/-- What a trace says about the end of one operation. -/
def record (serial : Serial) (trace : List Event) : List Event :=
  trace.filter fun event => event.subject? = some serial

/-- Who has ended an operation: the call whose reply follows its outcome, or the end of the
engine. -/
def endedBy? (serial : Serial) (trace : List Event) : Option Event :=
  ((trace.dropWhile (· ≠ .published serial)).dropWhile fun event => event.published?.isSome).head?

/-- Whether an event tells that operations have ended of which the connection was not told. -/
def endsQuietly : Event → Bool
  | .replied _ (.deliver _ _) (.flag true) => true
  | .replied _ (.failAll _ _) (.count _) => true
  | .released _ => true
  | _ => false

/-- The events of one visit to the connection, from its beginning to its return. -/
def IsVisit (serial : Serial) (site : Site) (id : MessageId) (start : Event)
    (events : List Event) : Prop :=
  ∃ inside succeeded, events = start :: (inside ++ [.returned site id succeeded]) ∧
    ∀ event ∈ inside, event.subject? ≠ some serial ∧ event.visited? ≠ some id

/-- What is done about an operation that is ended by a timeout or on request, before its outcome is
written. -/
def IsCleanup (abandons : Bool) (serial : Serial) (id : MessageId) (events : List Event) : Prop :=
  ∃ first second, events = first ++ second ∧
    IsVisit serial .deregister id (.deregistered serial id) first ∧
    if abandons then IsVisit serial .abandon id (.abandoned serial id) second else second = []

/-- Whether some events are those of the end of an operation, apart from what they say of
others. -/
inductive Ending (abandons : Bool) (serial : Serial) : Event → List Event → Prop where
  | expired {caller : Caller} {id : MessageId} {reason : Expiry} {before cleanup rest : List Event}
      (earlier : ∀ event ∈ before, event.subject? ≠ some serial)
      (cleaned : IsCleanup abandons serial id cleanup)
      (later : ∀ event ∈ rest, event.subject? ≠ some serial) :
      Ending abandons serial (.replied caller (.expire id reason) (.flag true))
        (before ++ (cleanup ++ .published serial ::
          .replied caller (.expire id reason) (.flag true) :: rest))
  | quiet {last : Event} {before : List Event} {others : List Serial} {rest : List Event}
      (quietly : last.endsQuietly = true)
      (earlier : ∀ event ∈ before, event.subject? ≠ some serial) (apart : serial ∉ others)
      (later : ∀ event ∈ rest, event.subject? ≠ some serial) :
      Ending abandons serial last
        (before ++ .published serial :: (others.map .published ++ last :: rest))

variable {abandons : Bool} {serial : Serial} {id : MessageId} {last : Event}
variable {events first second : List Event}

theorem record_append (serial : Serial) (first second : List Event) :
    record serial (first ++ second) = record serial first ++ record serial second :=
  List.filter_append ..

theorem record_eq_nil (silent : ∀ event ∈ events, event.subject? ≠ some serial) :
    record serial events = [] :=
  List.filter_eq_nil_iff.mpr fun event member => by simpa using silent event member

theorem IsVisit.record_eq {site : Site} {start : Event}
    (visit : IsVisit serial site id start events) (own : start.subject? = some serial) :
    record serial events = [start] := by
  obtain ⟨inside, succeeded, rfl, silent⟩ := visit
  rw [record, List.filter_cons_of_pos (by simpa using own)]
  refine congrArg (start :: ·) ((record_append serial inside _).trans ?_)
  rw [record_eq_nil fun event member => (silent event member).1]
  rfl

theorem IsCleanup.record_eq (cleanup : IsCleanup abandons serial id events) :
    record serial events =
      .deregistered serial id :: (if abandons then [.abandoned serial id] else []) := by
  obtain ⟨first, second, rfl, deregisters, abandoned⟩ := cleanup
  rw [record_append, deregisters.record_eq rfl]
  cases abandons with
  | true => rw [IsVisit.record_eq abandoned rfl]; rfl
  | false => cases abandoned; rfl

theorem Ending.prepend (ending : Ending abandons serial last events)
    (silent : ∀ event ∈ first, event.subject? ≠ some serial) :
    Ending abandons serial last (first ++ events) := by
  cases ending with
  | expired earlier cleaned later =>
      rw [← List.append_assoc]
      exact .expired (fun event member => (List.mem_append.mp member).elim (silent event)
        (earlier event)) cleaned later
  | quiet quietly earlier apart later =>
      rw [← List.append_assoc]
      exact .quiet quietly (fun event member => (List.mem_append.mp member).elim (silent event)
        (earlier event)) apart later

theorem Ending.append (ending : Ending abandons serial last events)
    (silent : ∀ event ∈ second, event.subject? ≠ some serial) :
    Ending abandons serial last (events ++ second) := by
  cases ending with
  | @expired caller id reason before cleanup rest earlier cleaned later =>
      simp only [List.append_assoc, List.cons_append]
      exact .expired earlier cleaned fun event member => (List.mem_append.mp member).elim
        (later event) (silent event)
  | @quiet _ before others rest quietly earlier apart later =>
      simp only [List.append_assoc, List.cons_append]
      exact .quiet quietly earlier apart fun event member => (List.mem_append.mp member).elim
        (later event) (silent event)

theorem record_published (silent : ∀ event ∈ events, event.subject? ≠ some serial) :
    record serial (.published serial :: events) = [.published serial] := by
  rw [record, List.filter_cons_of_pos (by simp [subject?])]
  exact congrArg _ (record_eq_nil silent)

theorem isPlain_of_endsQuietly (quietly : last.endsQuietly = true) : last.IsPlain := by
  cases last with
  | submitted other => cases quietly
  | published other => cases quietly
  | _ => exact ⟨rfl, rfl⟩

theorem subject?_of_endsQuietly (quietly : last.endsQuietly = true) : last.subject? = none := by
  cases last with
  | deregistered other id => cases quietly
  | abandoned other id => cases quietly
  | published other => cases quietly
  | _ => rfl

/-- An operation that was ended by a timeout or on request is deregistered once, and abandoned once
or never, before its outcome is written. -/
theorem record_expired {before cleanup rest : List Event} {caller : Caller} {call : Call}
    {reply : Reply} (earlier : ∀ event ∈ before, event.subject? ≠ some serial)
    (cleaned : IsCleanup abandons serial id cleanup)
    (later : ∀ event ∈ rest, event.subject? ≠ some serial) :
    record serial (before ++ (cleanup ++ .published serial :: .replied caller call reply :: rest)) =
      .deregistered serial id ::
        ((if abandons then [.abandoned serial id] else []) ++ [.published serial]) := by
  have silent : ∀ event ∈ .replied caller call reply :: rest, event.subject? ≠ some serial := by
    rintro event (_ | ⟨_, after⟩)
    · exact nofun
    · exact later event after
  rw [record_append, record_eq_nil earlier, record_append, cleaned.record_eq,
    record_published silent]
  rfl

/-- Of an operation that was ended otherwise, only the outcome is told. -/
theorem record_quiet {before : List Event} {others : List Serial} {rest : List Event}
    (quietly : last.endsQuietly = true) (earlier : ∀ event ∈ before, event.subject? ≠ some serial)
    (apart : serial ∉ others) (later : ∀ event ∈ rest, event.subject? ≠ some serial) :
    record serial (before ++ .published serial :: (others.map .published ++ last :: rest)) =
      [.published serial] := by
  have silent : ∀ event ∈ others.map .published ++ last :: rest,
      event.subject? ≠ some serial := by
    intro event member
    rcases List.mem_append.mp member with published | ending
    · obtain ⟨other, listed, rfl⟩ := List.mem_map.mp published
      exact fun same => apart (Option.some.inj same ▸ listed)
    · rcases List.mem_cons.mp ending with rfl | after
      · rw [subject?_of_endsQuietly quietly]
        exact nofun
      · exact later event after
  rw [record_append, record_eq_nil earlier, record_published silent]
  rfl

theorem endedBy?_append (absent : .published serial ∉ first) :
    endedBy? serial (first ++ second) = endedBy? serial second := by
  rw [endedBy?, List.dropWhile_append_of_pos, endedBy?]
  intro event member
  exact decide_eq_true fun same => absent (same ▸ member)

theorem endedBy?_published (others : List Serial) (last : Event) (rest : List Event)
    (apart : last.published? = none) :
    endedBy? serial (.published serial :: (others.map .published ++ last :: rest)) = some last := by
  rw [endedBy?, List.dropWhile_cons_of_neg (by simp), List.dropWhile_cons_of_pos rfl,
    List.dropWhile_append_of_pos (by simp [published?]),
    List.dropWhile_cons_of_neg (by simp [apart])]
  rfl

theorem not_published_of_silent (silent : ∀ event ∈ events, event.subject? ≠ some serial) :
    .published serial ∉ events :=
  fun member => silent _ member rfl

theorem IsCleanup.not_published (cleanup : IsCleanup abandons serial id events) :
    .published serial ∉ events := by
  intro member
  have recorded : .published serial ∈ record serial events :=
    List.mem_filter.mpr ⟨member, decide_eq_true rfl⟩
  rw [cleanup.record_eq] at recorded
  cases abandons <;> simp at recorded

theorem Ending.endedBy?_eq (ending : Ending abandons serial last events) :
    endedBy? serial events = some last := by
  cases ending with
  | @expired caller id reason before cleanup rest earlier cleaned later =>
      rw [endedBy?_append (not_published_of_silent earlier), endedBy?_append cleaned.not_published]
      exact endedBy?_published [] _ rest rfl
  | quiet quietly earlier apart later =>
      rw [endedBy?_append (not_published_of_silent earlier)]
      exact endedBy?_published _ _ _ (isPlain_of_endsQuietly quietly).2

theorem Ending.mem_published (ending : Ending abandons serial last events) :
    .published serial ∈ events := by
  cases ending with
  | expired earlier cleaned later => simp
  | quiet quietly earlier apart later => simp

/-- Of several operations that end at once, each has ended. -/
theorem ending_of_written (written : List Serial) (member : serial ∈ written)
    (distinct : written.Nodup) (quietly : last.endsQuietly = true) :
    Ending abandons serial last (written.map .published ++ [last]) := by
  obtain ⟨before, others, rfl⟩ := List.append_of_mem member
  rw [List.nodup_append, List.nodup_cons] at distinct
  obtain ⟨-, ⟨apart, -⟩, different⟩ := distinct
  rw [List.map_append, List.map_cons, List.append_assoc, List.cons_append]
  refine .quiet quietly (fun event published => ?_) apart fun _ none => by cases none
  obtain ⟨other, listed, rfl⟩ := List.mem_map.mp published
  exact fun same => different other listed serial List.mem_cons_self (Option.some.inj same)

end DirectoryClient.Event
