import DirectoryClient.Proofs.Health.Leaves

namespace DirectoryClient.Health

/-- One time that a check is asked. -/
structure Asking (σ : Type) where
  check : Check (StateM σ)
  transition : Transition
  connection : PooledConnection

/-- The check that does what `check` does, and notes each time it is asked. -/
def Check.noting {σ : Type} (check : Check (StateM σ)) :
    Check (StateM (σ × List (Asking σ))) where
  name := check.name
  examine transition connection := fun (state, notes) =>
    let (verdict, after) := (check.examine transition connection).run state
    (verdict, after, notes ++ [⟨check, transition, connection⟩])

section

variable {σ : Type} (transition : Transition) (connection : PooledConnection)

/-- Some checks that share a state pass one after the other. -/
inductive Passes : List (Check (StateM σ)) → σ → σ → Prop where
  | none (state : σ) : Passes [] state state
  | next {check : Check (StateM σ)} {rest : List (Check (StateM σ))} {state middle after : σ}
      (passed : (check.examine transition connection).run state = (.ok (), middle))
      (later : Passes rest middle after) : Passes (check :: rest) state after

/-- Asks some checks in order and notes who is asked. -/
def watch (checks : List (Check (StateM σ))) :
    StateM (σ × List (Asking σ)) (Except Rejection Unit) :=
  CheckTree.askAll (fun check => check.examine transition connection)
    ((checks.map Check.noting).map .leaf)

variable {transition : Transition} {connection : PooledConnection}
variable {check : Check (StateM σ)} {rest checks : List (Check (StateM σ))}
variable {state middle after : σ} {notes asked : List (Asking σ)} {rejection : Rejection}

theorem run_noting {verdict : Except Rejection Unit}
    (answered : (check.examine transition connection).run state = (verdict, after)) :
    (check.noting.examine transition connection).run (state, notes) =
      (verdict, after, notes ++ [⟨check, transition, connection⟩]) := by
  rw [StateT.run] at answered
  simp only [Check.noting, StateT.run, answered]

theorem watch_cons_of_ok
    (passed : (check.examine transition connection).run state = (.ok (), middle)) :
    (watch transition connection (check :: rest)).run (state, notes) =
      (watch transition connection rest).run
        (middle, notes ++ [⟨check, transition, connection⟩]) := by
  rw [watch, List.map_cons, List.map_cons, CheckTree.askAll, CheckTree.ask, StateT.run_bind,
    run_noting passed]
  rfl

theorem watch_cons_of_error
    (rejected : (check.examine transition connection).run state = (.error rejection, after)) :
    (watch transition connection (check :: rest)).run (state, notes) =
      (.error rejection, after, notes ++ [⟨check, transition, connection⟩]) := by
  rw [watch, List.map_cons, List.map_cons, CheckTree.askAll, CheckTree.ask, StateT.run_bind,
    run_noting rejected]
  rfl

/-- Watching checks does not change what they say and do. -/
theorem run_askAll_eq :
    (CheckTree.askAll (fun check : Check (StateM σ) => check.examine transition connection)
        (checks.map .leaf)).run state =
      (((watch transition connection checks).run (state, notes)).1,
        ((watch transition connection checks).run (state, notes)).2.1) := by
  induction checks generalizing state notes with
  | nil => rfl
  | cons check rest ih =>
      rw [List.map_cons, CheckTree.askAll, CheckTree.ask, StateT.run_bind]
      cases answered : (check.examine transition connection).run state with
      | mk verdict middle =>
          cases verdict with
          | error rejection =>
              rw [watch_cons_of_error answered]
              rfl
          | ok passed =>
              rw [watch_cons_of_ok answered]
              exact ih

theorem watch_eq_ok_iff :
    (watch transition connection checks).run (state, notes) = (.ok (), after, asked) ↔
      Passes transition connection checks state after ∧
        asked = notes ++ checks.map (⟨·, transition, connection⟩) := by
  induction checks generalizing state notes with
  | nil =>
      constructor
      · intro same
        cases same
        exact ⟨.none _, (List.append_nil _).symm⟩
      · rintro ⟨passes, rfl⟩
        cases passes
        rw [List.map_nil, List.append_nil]
        rfl
  | cons check rest ih =>
      cases answered : (check.examine transition connection).run state with
      | mk verdict middle =>
          cases verdict with
          | error rejection =>
              rw [watch_cons_of_error answered]
              constructor
              · nofun
              · rintro ⟨passes, -⟩
                cases passes with
                | next passed later => cases answered.symm.trans passed
          | ok passed =>
              rw [watch_cons_of_ok answered, ih, List.append_assoc, List.singleton_append,
                List.map_cons]
              refine and_congr_left fun _ => ⟨fun later => .next answered later, fun passes => ?_⟩
              cases passes with
              | next passed later =>
                  cases answered.symm.trans passed
                  exact later

theorem watch_eq_error_iff :
    (watch transition connection checks).run (state, notes) = (.error rejection, after, asked) ↔
      ∃ earlier check later middle, checks = earlier ++ check :: later ∧
        Passes transition connection earlier state middle ∧
        (check.examine transition connection).run middle = (.error rejection, after) ∧
        asked = notes ++ (earlier ++ [check]).map (⟨·, transition, connection⟩) := by
  induction checks generalizing state notes with
  | nil =>
      constructor
      · nofun
      · rintro ⟨earlier, check, later, middle, split, -⟩
        cases earlier <;> cases split
  | cons first rest ih =>
      cases answered : (first.examine transition connection).run state with
      | mk verdict next =>
          cases verdict with
          | error other =>
              rw [watch_cons_of_error answered]
              constructor
              · intro same
                cases same
                exact ⟨[], first, rest, state, rfl, .none state, answered, rfl⟩
              · rintro ⟨earlier, check, later, middle, split, passes, rejected, rfl⟩
                cases passes with
                | none =>
                    cases split
                    cases answered.symm.trans rejected
                    rfl
                | next passed _ =>
                    cases split
                    cases answered.symm.trans passed
          | ok passed =>
              rw [watch_cons_of_ok answered, ih]
              constructor
              · rintro ⟨earlier, check, later, middle, rfl, passes, rejected, rfl⟩
                refine ⟨first :: earlier, check, later, middle, rfl, .next answered passes, rejected,
                  ?_⟩
                rw [List.append_assoc]
                rfl
              · rintro ⟨earlier, check, later, middle, split, passes, rejected, rfl⟩
                cases passes with
                | none =>
                    cases split
                    cases answered.symm.trans rejected
                | @next _ others _ _ _ passed remaining =>
                    cases split
                    cases answered.symm.trans passed
                    refine ⟨others, check, later, middle, rfl, remaining, rejected, ?_⟩
                    rw [List.append_assoc]
                    rfl

end

/-- A tree of checks asks as the list of its checks does: each check up to the first that rejects
the connection, with what the tree is asked with, and no other. -/
theorem chains_flatten {σ : Type} (tree : CheckTree (Check (StateM σ))) (transition : Transition)
    (connection : PooledConnection) :
    tree.examine transition connection = tree.flat.examine transition connection ∧
    ∀ state,
      let watched := ((tree.map Check.noting).examine transition connection).run (state, [])
      ((tree.flat.map Check.noting).examine transition connection).run (state, []) = watched ∧
      (tree.examine transition connection).run state = (watched.1, watched.2.1) ∧
      (∀ after asked, watched = (.ok (), after, asked) ↔
        Passes transition connection tree.leaves state after ∧
          asked = tree.leaves.map (⟨·, transition, connection⟩)) ∧
      ∀ rejection after asked, watched = (.error rejection, after, asked) ↔
        ∃ earlier check later middle, tree.leaves = earlier ++ check :: later ∧
          Passes transition connection earlier state middle ∧
          (check.examine transition connection).run middle = (.error rejection, after) ∧
          asked = (earlier ++ [check]).map (⟨·, transition, connection⟩) := by
  have flat : ∀ other : CheckTree (Check (StateM σ)), other.examine transition connection =
      CheckTree.askAll (fun check => check.examine transition connection)
        (other.leaves.map .leaf) := fun other => CheckTree.ask_eq_askAll _ other
  have watched : ∀ other : CheckTree (Check (StateM σ)),
      (other.map Check.noting).examine transition connection =
        watch transition connection other.leaves := by
    intro other
    rw [watch, ← CheckTree.leaves_map]
    exact CheckTree.ask_eq_askAll _ (other.map Check.noting)
  refine ⟨?_, fun state => ⟨?_, ?_, ?_, ?_⟩⟩
  · rw [flat, flat, CheckTree.leaves_flat]
  · rw [watched, watched, CheckTree.leaves_flat]
  · rw [flat, watched]
    exact run_askAll_eq
  · intro after asked
    rw [watched]
    exact watch_eq_ok_iff
  · intro rejection after asked
    rw [watched]
    exact watch_eq_error_iff

end DirectoryClient.Health
