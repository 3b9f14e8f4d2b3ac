import DirectoryClient.Health.Basic

/-!
# Chains in chains

However chains are put into chains, their checks are asked from left to right up to the first that
rejects the connection. So a tree of checks does what the list of its checks does, whatever the
checks do to the state that they share.
-/

namespace DirectoryClient.Health

namespace CheckTree

variable {α β : Type} {m : Type → Type}

mutual

/-- The checks of a tree, from left to right. -/
def leaves : CheckTree α → List α
  | .leaf check => [check]
  | .chain members => leavesOf members

/-- The checks of some trees, from left to right. -/
def leavesOf : List (CheckTree α) → List α
  | [] => []
  | member :: rest => member.leaves ++ leavesOf rest

end

/-- The chain of the checks of a tree, without chains in it. -/
def flat (tree : CheckTree α) : CheckTree α :=
  .chain (tree.leaves.map .leaf)

mutual

/-- The tree with another check in the place of each. -/
def map (change : α → β) : CheckTree α → CheckTree β
  | .leaf check => .leaf (change check)
  | .chain members => .chain (mapAll change members)

/-- The trees with another check in the place of each. -/
def mapAll (change : α → β) : List (CheckTree α) → List (CheckTree β)
  | [] => []
  | member :: rest => member.map change :: mapAll change rest

end

@[simp] theorem leavesOf_map_leaf (checks : List α) : leavesOf (checks.map .leaf) = checks := by
  induction checks with
  | nil => rfl
  | cons check rest ih => rw [List.map_cons, leavesOf, leaves, ih, List.singleton_append]

@[simp] theorem leaves_flat (tree : CheckTree α) : tree.flat.leaves = tree.leaves := by
  rw [flat, leaves, leavesOf_map_leaf]

mutual

@[simp] theorem leaves_map (change : α → β) (tree : CheckTree α) :
    (tree.map change).leaves = tree.leaves.map change := by
  cases tree with
  | leaf check => rfl
  | chain members => rw [map, leaves, leaves, leavesOf_mapAll]

theorem leavesOf_mapAll (change : α → β) (members : List (CheckTree α)) :
    leavesOf (mapAll change members) = (leavesOf members).map change := by
  cases members with
  | nil => rfl
  | cons member rest =>
      rw [mapAll, leavesOf, leavesOf, List.map_append, leaves_map change member,
        leavesOf_mapAll change rest]

end

section Lawful

variable [Monad m] [LawfulMonad m] (examine : α → m (Except Rejection Unit))

theorem askAll_append (first second : List (CheckTree α)) :
    askAll examine (first ++ second) =
      (do
        match ← askAll examine first with
        | .error rejection => pure (.error rejection)
        | .ok () => askAll examine second) := by
  induction first with
  | nil => simp [askAll]
  | cons member rest ih =>
      rw [List.cons_append, askAll, askAll, bind_assoc]
      congr 1
      funext verdict
      cases verdict with
      | error rejection => simp
      | ok passed => exact ih

mutual

/-- Asking a tree is asking its checks one after the other. -/
theorem ask_eq_askAll (tree : CheckTree α) :
    ask examine tree = askAll examine (tree.leaves.map .leaf) := by
  cases tree with
  | leaf check =>
      have last : ∀ verdict : Except Rejection Unit, (match verdict with
          | .error rejection => pure (.error rejection)
          | .ok () => askAll examine []) = (pure verdict : m (Except Rejection Unit)) := by
        intro verdict
        cases verdict with
        | error rejection => rfl
        | ok passed => rfl
      rw [leaves, List.map_singleton, askAll, ask]
      exact ((congrArg (examine check >>= ·) (funext last)).trans (bind_pure _)).symm
  | chain members => rw [ask, leaves, askAll_eq_askAll]

theorem askAll_eq_askAll (members : List (CheckTree α)) :
    askAll examine members = askAll examine ((leavesOf members).map .leaf) := by
  cases members with
  | nil => rfl
  | cons member rest =>
      have appended := askAll_append examine (member.leaves.map .leaf)
        ((leavesOf rest).map .leaf)
      rw [← ask_eq_askAll member, ← askAll_eq_askAll rest, ← List.map_append] at appended
      exact appended.symm

end

end Lawful

end CheckTree

end DirectoryClient.Health
