import DirectoryClient.Options.Basic
import DirectoryClient.Proofs.LastWritten

namespace DirectoryClient

theorem OperationKind.name_inj {kind other : OperationKind} :
    kind.name = other.name ↔ kind = other := by
  constructor
  · intro same
    cases kind <;> cases other <;> first | rfl | exact absurd same (by decide)
  · exact congrArg name

@[simp] theorem OperationKind.ofName?_name (kind : OperationKind) :
    ofName? kind.name = some kind := by
  cases kind <;> decide

namespace Options

/-- One thing that is set. -/
inductive Setting where
  | abandonOnTimeout (abandon : Bool)
  | responseTimeout (kind : OperationKind) (timeout : Option Duration)
deriving DecidableEq, Repr

namespace Setting

def abandon? : Setting → Option Bool
  | .abandonOnTimeout abandon => some abandon
  | .responseTimeout _ _ => none

/-- The timeout that is set for the given kind, or that it is to have none. -/
def timeoutOf? (kind : OperationKind) : Setting → Option (Option Duration)
  | .abandonOnTimeout _ => none
  | .responseTimeout other timeout => if other = kind then some timeout else none

end Setting

def set (options : Options) : Setting → Options
  | .abandonOnTimeout abandon => options.withAbandonOnTimeout abandon
  | .responseTimeout kind timeout => options.withResponseTimeout kind timeout

def setAll (options : Options) (settings : List Setting) : Options :=
  settings.foldl set options

/-- A timeout in whole milliseconds, if there are any. -/
def wholeMilliseconds? (span : Duration) : Option Duration :=
  if span.toMilliseconds = 0 then none
  else some (.ofMilliseconds (min span.toMilliseconds mostMilliseconds))

theorem wholeMilliseconds?_eq_none_iff {span : Duration} :
    wholeMilliseconds? span = none ↔ span < .ofMilliseconds 1 := by
  have shorter : span.toMilliseconds = 0 ↔ span < .ofMilliseconds 1 := by
    change span.nanoseconds / 1000000 = 0 ↔ span.nanoseconds < 1 * 1000000
    omega
  rw [wholeMilliseconds?, ← shorter]
  split <;> simp_all

theorem wholeMilliseconds?_of_le {span : Duration} (long : .ofMilliseconds 1 ≤ span) :
    wholeMilliseconds? span =
      some (.ofMilliseconds (min span.toMilliseconds mostMilliseconds)) := by
  have some : span.toMilliseconds ≠ 0 := by
    change 1 * 1000000 ≤ span.nanoseconds at long
    change span.nanoseconds / 1000000 ≠ 0
    omega
  rw [wholeMilliseconds?, if_neg some]

variable {options : Options}

theorem responseTimeoutFor_withResponseTimeout (kind other : OperationKind)
    (timeout : Option Duration) :
    (options.withResponseTimeout other timeout).responseTimeoutFor kind =
      if other = kind then timeout.bind wholeMilliseconds?
      else options.responseTimeoutFor kind := by
  simp only [responseTimeoutFor, withResponseTimeout, Std.TreeMap.getD_insert,
    Std.LawfulEqCmp.compare_eq_iff_eq, OperationKind.name_inj]
  split
  · cases timeout with
    | none => rfl
    | some span =>
        have zero : min span.toMilliseconds mostMilliseconds = 0 ↔ span.toMilliseconds = 0 := by
          have positive : 0 < mostMilliseconds := by decide
          omega
        simp only [zero]
        rfl
  · rfl

theorem responseTimeoutFor_set (kind : OperationKind) (setting : Setting) :
    (options.set setting).responseTimeoutFor kind =
      ((setting.timeoutOf? kind).map (·.bind wholeMilliseconds?)).getD
        (options.responseTimeoutFor kind) := by
  cases setting with
  | abandonOnTimeout abandon => rfl
  | responseTimeout other timeout =>
      rw [set, responseTimeoutFor_withResponseTimeout, Setting.timeoutOf?]
      split <;> rfl

theorem responseTimeoutFor_setAll (kind : OperationKind) (settings : List Setting) :
    (options.setAll settings).responseTimeoutFor kind =
      ((lastWritten? (Setting.timeoutOf? kind) settings).map (·.bind wholeMilliseconds?)).getD
        (options.responseTimeoutFor kind) := by
  rw [← lastWritten?_map]
  apply foldl_shows_last (responseTimeoutFor · kind)
  intro options setting
  exact responseTimeoutFor_set kind setting

theorem abandonOnTimeout_setAll (settings : List Setting) :
    (options.setAll settings).abandonOnTimeout =
      (lastWritten? Setting.abandon? settings).getD options.abandonOnTimeout := by
  apply foldl_shows_last abandonOnTimeout
  intro options setting
  cases setting <;> rfl

theorem validate_eq_ok_iff : options.validate = .ok () ↔ options.maxMessageIdProbes ≠ 0 ∧
    ∀ name ∈ options.responseTimeouts, OperationKind.ofName? name ≠ none := by
  rw [validate]
  split
  next refused => simp [refused]
  next tried =>
    split
    next name found =>
      have listed := Std.TreeMap.mem_keys.mp (List.mem_of_find?_eq_some found)
      have unknown := List.find?_some found
      constructor
      · intro accepted
        cases accepted
      · rintro ⟨-, known⟩
        exact absurd (Option.isNone_iff_eq_none.mp unknown) (known name listed)
    next unfound =>
      rw [List.find?_eq_none] at unfound
      refine ⟨fun _ => ⟨tried, fun name member unknown => ?_⟩, fun _ => rfl⟩
      exact unfound name (Std.TreeMap.mem_keys.mpr member) (Option.isNone_iff_eq_none.mpr unknown)

theorem validate_set (valid : options.validate = .ok ()) (setting : Setting) :
    (options.set setting).validate = .ok () := by
  rw [validate_eq_ok_iff] at valid ⊢
  obtain ⟨tried, known⟩ := valid
  cases setting with
  | abandonOnTimeout abandon => exact ⟨tried, known⟩
  | responseTimeout kind timeout =>
      refine ⟨tried, fun name member => ?_⟩
      rcases Std.TreeMap.mem_insert.mp member with same | earlier
      · obtain rfl := Std.LawfulEqCmp.compare_eq_iff_eq.mp same
        rw [OperationKind.ofName?_name]
        exact Option.some_ne_none kind
      · exact known name earlier

theorem validate_setAll (valid : options.validate = .ok ()) (settings : List Setting) :
    (options.setAll settings).validate = .ok () := by
  induction settings generalizing options with
  | nil => exact valid
  | cons setting rest ih => exact ih (validate_set valid setting)

/-- Of the settings that are made one after the other, the last for a kind gives its timeout: none
if it was switched off or is shorter than one millisecond, otherwise the whole milliseconds in it,
as far as they can be held. A kind that is not set keeps its timeout. The last word on giving up
counts, and settings never make options invalid. -/
theorem last_setting_counts (options : Options) (settings : List Setting) :
    (∀ kind timeout, lastWritten? (Setting.timeoutOf? kind) settings = some timeout →
      ((options.setAll settings).responseTimeoutFor kind = none ↔
        ∀ span, timeout = some span → span < .ofMilliseconds 1) ∧
      ∀ span, timeout = some span → .ofMilliseconds 1 ≤ span →
        (options.setAll settings).responseTimeoutFor kind =
          some (.ofMilliseconds (min span.toMilliseconds mostMilliseconds))) ∧
    (∀ kind, (∀ timeout, .responseTimeout kind timeout ∉ settings) →
      (options.setAll settings).responseTimeoutFor kind = options.responseTimeoutFor kind) ∧
    (options.setAll settings).abandonOnTimeout =
      (lastWritten? Setting.abandon? settings).getD options.abandonOnTimeout ∧
    (options.validate = .ok () → (options.setAll settings).validate = .ok ()) := by
  refine ⟨fun kind timeout last => ?_, fun kind unset => ?_, abandonOnTimeout_setAll settings,
    fun valid => validate_setAll valid settings⟩
  · have shown : (options.setAll settings).responseTimeoutFor kind =
        timeout.bind wholeMilliseconds? := by
      rw [responseTimeoutFor_setAll, last]
      rfl
    rw [shown]
    constructor
    · simp only [Option.bind_eq_none_iff, wholeMilliseconds?_eq_none_iff]
    · rintro span rfl long
      exact wholeMilliseconds?_of_le long
  · have unwritten : lastWritten? (Setting.timeoutOf? kind) settings = none := by
      rw [lastWritten?_eq_none_iff]
      intro setting member
      cases setting with
      | abandonOnTimeout abandon => rfl
      | responseTimeout other timeout =>
          rw [Setting.timeoutOf?, if_neg]
          rintro rfl
          exact unset timeout member
    rw [responseTimeoutFor_setAll, unwritten]
    rfl

/-- A timeout is switched off and set again, and set again to a longer one than can be held; another
is set to a little more than two milliseconds. -/
theorem last_setting_counts_repeated :
    let settings : List Setting :=
      [.responseTimeout .search (some .zero), .abandonOnTimeout true,
        .responseTimeout .compare (some ⟨2999999⟩), .responseTimeout .search none,
        .responseTimeout .add none, .responseTimeout .search (some .longest)]
    let made := setAll {} settings
    made.responseTimeoutFor .search = some (.ofMilliseconds mostMilliseconds) ∧
      made.responseTimeoutFor .compare = some (.ofMilliseconds 2) ∧
      made.responseTimeoutFor .add = none ∧
      made.responseTimeoutFor .modify = some (.ofMilliseconds 300000) ∧
      made.abandonOnTimeout = true ∧ made.validate = .ok () := by
  intro settings made
  obtain ⟨last, unset, abandon, valid⟩ := last_setting_counts {} settings
  have capped := (last .search _ rfl).2 .longest rfl (by decide +kernel)
  have whole := (last .compare _ rfl).2 ⟨2999999⟩ rfl (by decide)
  refine ⟨capped.trans (by decide +kernel), whole.trans (by decide +kernel),
    (last .add _ rfl).1.mpr nofun, unset .modify ?_, abandon, valid rfl⟩
  intro timeout member
  simp [settings] at member

/-- Half a millisecond is a timeout, and set for a kind it switches the timeout of the kind off. -/
theorem short_timeout_disables :
    (setAll {} [.responseTimeout .search (some ⟨500000⟩)]).responseTimeoutFor .search = none ∧
      ¬∀ (options : Options) (settings : List Setting) (kind : OperationKind) (span : Duration),
        lastWritten? (Setting.timeoutOf? kind) settings = some (some span) → span ≠ .zero →
          (options.setAll settings).responseTimeoutFor kind ≠ none := by
  have disabled :
      (setAll {} [.responseTimeout .search (some ⟨500000⟩)]).responseTimeoutFor .search = none := by
    rw [responseTimeoutFor_setAll]
    rfl
  exact ⟨disabled, fun kept => kept {} _ .search ⟨500000⟩ rfl (by decide) disabled⟩

end Options

end DirectoryClient
