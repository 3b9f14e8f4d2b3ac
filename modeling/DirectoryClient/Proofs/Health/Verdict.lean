import DirectoryClient.Health.Builtin
import DirectoryClient.Proofs.Health.Leaves

namespace DirectoryClient.Health

section

variable {ε α : Type} {check : α → Except ε Unit} {items : List α}

/-- Items pass one after the other if each of them passes. -/
theorem forM_eq_ok_iff : items.forM check = .ok () ↔ ∀ item ∈ items, check item = .ok () := by
  induction items with
  | nil => simp [List.forM, pure, Except.pure]
  | cons first rest ih =>
      rw [List.forM, List.forall_mem_cons, ← ih]
      cases check first <;> simp [bind, Except.bind]

theorem exists_of_forM_eq_error {failure : ε} (failed : items.forM check = .error failure) :
    ∃ item ∈ items, check item = .error failure := by
  induction items with
  | nil => cases failed
  | cons first rest ih =>
      rw [List.forM] at failed
      cases answered : check first with
      | error other =>
          rw [answered] at failed
          cases failed
          exact ⟨first, List.mem_cons_self, answered⟩
      | ok passed =>
          rw [answered] at failed
          obtain ⟨item, member, found⟩ := ih failed
          exact ⟨item, List.mem_cons_of_mem first member, found⟩

end

/-- The connection is about to be used. -/
def Transition.IsUse (transition : Transition) : Prop :=
  transition = .checkout ∨ transition = .continued

namespace BuiltinCheck

variable {transition : Transition} {connection : PooledConnection}

theorem examine_connected_eq_ok_iff :
    connected.examine transition connection = .ok () ↔ connection.isConnected = true := by
  rw [examine]
  split <;> simp_all

theorem examineAge_eq_ok_iff {limit : Duration} :
    examineAge limit connection = .ok () ↔ connection.age ≤ limit := by
  rw [examineAge]
  split <;> simp_all

theorem examine_maximumAge_eq_ok_iff {limit : Duration} {positive : .zero < limit} :
    (maximumAge limit positive).examine transition connection = .ok () ↔
      (transition.IsUse → connection.age ≤ limit) := by
  cases transition <;> simp [examine, Transition.IsUse, examineAge_eq_ok_iff]

theorem examine_resultCode_eq_ok_iff :
    resultCode.examine transition connection = .ok () ↔
      ∀ error, transition = .failed error → error.code.isConnectionUsable = true := by
  cases transition with
  | failed error =>
      rw [examine]
      split <;> simp_all
  | _ => simp [examine]

/-- A rejection carries the failure that the transition is about, whichever check it comes from. -/
theorem cause_of_examine {check : BuiltinCheck} {rejection : Rejection}
    (rejected : check.examine transition connection = .error rejection) :
    rejection.cause = transition.cause? := by
  have aged : ∀ limit, examineAge limit connection = .error rejection → rejection.cause = none := by
    intro limit old
    rw [examineAge] at old
    split at old <;> cases old
    rfl
  cases check with
  | connected =>
      rw [examine] at rejected
      split at rejected <;> cases rejected
      rfl
  | maximumAge limit positive =>
      cases transition with
      | checkout => exact aged limit rejected
      | continued => exact aged limit rejected
      | _ => cases rejected
  | resultCode =>
      cases transition with
      | failed error =>
          rw [examine] at rejected
          split at rejected <;> cases rejected
          rfl
      | _ => cases rejected

/-- What holds of all checks of a list, kind by kind. -/
theorem forall_mem_iff {checks : List BuiltinCheck} {holds : BuiltinCheck → Prop} :
    (∀ check ∈ checks, holds check) ↔
      (.connected ∈ checks → holds .connected) ∧
      (∀ limit positive, .maximumAge limit positive ∈ checks → holds (.maximumAge limit positive)) ∧
      (.resultCode ∈ checks → holds .resultCode) := by
  constructor
  · intro all
    exact ⟨all _, fun limit positive => all _, all _⟩
  · rintro ⟨connected, aged, usable⟩ check member
    cases check with
    | connected => exact connected member
    | maximumAge limit positive => exact aged limit positive member
    | resultCode => exact usable member

end BuiltinCheck

namespace CheckTree

/-- What a tree of built-in checks says about a connection. -/
def verdict (tree : CheckTree BuiltinCheck) (transition : Transition)
    (connection : PooledConnection) : Except Rejection Unit :=
  Id.run ((tree.map BuiltinCheck.toCheck).examine transition connection)

section

variable {m : Type → Type} [Monad m] [LawfulMonad m]
variable {transition : Transition} {connection : PooledConnection}

/-- Checks without a state are asked up to the first that rejects the connection. -/
theorem askAll_toCheck (checks : List BuiltinCheck) :
    askAll (fun check : Check m => check.examine transition connection)
        ((checks.map BuiltinCheck.toCheck).map .leaf) =
      pure (checks.forM fun check => check.examine transition connection) := by
  induction checks with
  | nil => rfl
  | cons check rest ih =>
      rw [List.map_cons, List.map_cons, askAll, ask, BuiltinCheck.toCheck, pure_bind, List.forM]
      cases check.examine transition connection with
      | error rejection => rfl
      | ok passed => exact ih

theorem examine_map_toCheck (tree : CheckTree BuiltinCheck) :
    (tree.map BuiltinCheck.toCheck).examine transition connection =
      (pure (tree.leaves.forM fun check => check.examine transition connection) :
        m (Except Rejection Unit)) := by
  rw [examine, ask_eq_askAll, leaves_map]
  exact askAll_toCheck tree.leaves

end

variable {tree : CheckTree BuiltinCheck} {transition : Transition} {connection : PooledConnection}

theorem verdict_eq_forM : tree.verdict transition connection =
    tree.leaves.forM fun check => check.examine transition connection :=
  congrArg Id.run (examine_map_toCheck (m := Id) tree)

theorem verdict_eq_ok_iff : tree.verdict transition connection = .ok () ↔
    ∀ check ∈ tree.leaves, check.examine transition connection = .ok () := by
  rw [verdict_eq_forM, forM_eq_ok_iff]

theorem cause_of_verdict {rejection : Rejection}
    (rejected : tree.verdict transition connection = .error rejection) :
    rejection.cause = transition.cause? := by
  rw [verdict_eq_forM] at rejected
  obtain ⟨check, -, found⟩ := exists_of_forM_eq_error rejected
  exact BuiltinCheck.cause_of_examine found

/-- What passes all checks passes each selection of them, whatever their order and nesting. -/
theorem verdict_mono {larger : CheckTree BuiltinCheck} (fewer : tree.leaves ⊆ larger.leaves)
    (passed : larger.verdict transition connection = .ok ()) :
    tree.verdict transition connection = .ok () := by
  rw [verdict_eq_ok_iff] at passed ⊢
  exact fun check member => passed check (fewer member)

theorem verdict_eq_ok_iff_kinds : tree.verdict transition connection = .ok () ↔
    (.connected ∈ tree.leaves → connection.isConnected = true) ∧
    (∀ limit positive, .maximumAge limit positive ∈ tree.leaves → transition.IsUse →
      connection.age ≤ limit) ∧
    (.resultCode ∈ tree.leaves → ∀ error, transition = .failed error →
      error.code.isConnectionUsable = true) := by
  simp only [verdict_eq_ok_iff, BuiltinCheck.forall_mem_iff,
    BuiltinCheck.examine_connected_eq_ok_iff, BuiltinCheck.examine_maximumAge_eq_ok_iff,
    BuiltinCheck.examine_resultCode_eq_ok_iff]

end CheckTree

/-- A tree of built-in checks passes or rejects a connection by the checks that are in it, at each
transition by those that are about the transition. Their order and nesting do not matter, and more
checks never make a rejected connection pass. A rejection carries the failure of the operation that
the checks were asked about, and no other. -/
theorem verdicts_by_leaves (tree : CheckTree BuiltinCheck) (connection : PooledConnection) :
    (∀ (m : Type → Type) [Monad m] [LawfulMonad m] (transition : Transition),
      (tree.map BuiltinCheck.toCheck).examine transition connection =
        (pure (tree.verdict transition connection) : m (Except Rejection Unit))) ∧
    (∀ transition (other : CheckTree BuiltinCheck), tree.leaves.Perm other.leaves →
      (tree.verdict transition connection = .ok () ↔
        other.verdict transition connection = .ok ())) ∧
    (∀ transition, transition = .checkout ∨ transition = .continued →
      (tree.verdict transition connection = .ok () ↔
        (.connected ∈ tree.leaves → connection.isConnected = true) ∧
        ∀ limit positive, .maximumAge limit positive ∈ tree.leaves → connection.age ≤ limit)) ∧
    (∀ error, (tree.verdict (.failed error) connection = .ok () ↔
        (.connected ∈ tree.leaves → connection.isConnected = true) ∧
        (.resultCode ∈ tree.leaves → error.code.isConnectionUsable = true)) ∧
      ∀ rejection, tree.verdict (.failed error) connection = .error rejection →
        rejection.cause = some error) ∧
    (∀ transition, transition = .established ∨ (∃ response, transition = .authenticated response) ∨
        transition = .release →
      (tree.verdict transition connection = .ok () ↔
        (.connected ∈ tree.leaves → connection.isConnected = true))) ∧
    (∀ transition, (∀ error, transition ≠ .failed error) → ∀ rejection,
      tree.verdict transition connection = .error rejection → rejection.cause = none) ∧
    ∀ transition (larger : CheckTree BuiltinCheck), tree.leaves ⊆ larger.leaves →
      larger.verdict transition connection = .ok () →
      tree.verdict transition connection = .ok () := by
  refine ⟨fun m _ _ transition => ?_, fun transition other order => ?_, fun transition use => ?_,
    fun error => ⟨?_, fun rejection => CheckTree.cause_of_verdict⟩, fun transition idle => ?_,
    fun transition unfailed rejection rejected => ?_,
    fun transition larger => CheckTree.verdict_mono⟩
  · rw [CheckTree.examine_map_toCheck, CheckTree.verdict_eq_forM]
  · exact ⟨CheckTree.verdict_mono order.symm.subset, CheckTree.verdict_mono order.subset⟩
  · rw [CheckTree.verdict_eq_ok_iff_kinds]
    rcases use with rfl | rfl <;> simp [Transition.IsUse]
  · rw [CheckTree.verdict_eq_ok_iff_kinds]
    simp [Transition.IsUse]
  · rw [CheckTree.verdict_eq_ok_iff_kinds]
    rcases idle with rfl | ⟨response, rfl⟩ | rfl <;> simp [Transition.IsUse]
  · rw [CheckTree.cause_of_verdict rejected]
    cases transition with
    | failed error => exact absurd rfl (unfailed error)
    | _ => rfl

/-- Two maximum ages, one of them in a chain of its own, and the code of a failure. -/
def CheckTree.guarded : CheckTree BuiltinCheck :=
  .chain [.leaf (.maximumAge ⟨2⟩ (by decide)), .chain [.leaf .resultCode, .chain []],
    .chain [.chain [.leaf (.maximumAge ⟨1⟩ (by decide)), .leaf .connected]]]

/-- A connection that has reached one age and not the other is not handed out, in whatever order the
checks are asked. It goes back into the pool, and it is rejected for the failure that it had. -/
theorem verdicts_by_leaves_guarded :
    let connection : PooledConnection := ⟨true, ⟨2⟩, "directory"⟩
    let reversed : CheckTree BuiltinCheck := .chain (CheckTree.guarded.leaves.reverse.map .leaf)
    let error : ProtocolError := ⟨.serverDown, "gone"⟩
    reversed.verdict .checkout connection ≠ .ok () ∧
      CheckTree.guarded.verdict .release connection = .ok () ∧
      CheckTree.guarded.verdict (.failed error) connection ≠ .ok () ∧
      ∀ rejection, CheckTree.guarded.verdict (.failed error) connection = .error rejection →
        rejection.cause = some error := by
  intro connection reversed error
  obtain ⟨-, same, use, failed, idle, -, -⟩ := verdicts_by_leaves CheckTree.guarded connection
  have order : CheckTree.guarded.leaves.Perm reversed.leaves := by
    rw [CheckTree.leaves, CheckTree.leavesOf_map_leaf]
    exact (List.reverse_perm _).symm
  have aged : BuiltinCheck.maximumAge ⟨1⟩ (by decide) ∈ CheckTree.guarded.leaves := by decide
  have coded : BuiltinCheck.resultCode ∈ CheckTree.guarded.leaves := by decide
  refine ⟨fun passed => ?_, (idle .release (.inr (.inr rfl))).mpr fun _ => rfl, fun passed => ?_,
    (failed error).2⟩
  · have young := ((use .checkout (.inl rfl)).mp ((same .checkout reversed order).mpr passed)).2
    exact absurd (young _ _ aged) (by decide)
  · exact absurd (((failed error).1.mp passed).2 coded) (by decide)

end DirectoryClient.Health
