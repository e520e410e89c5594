import Mathlib.Algebra.BigOperators.Group.List.Basic
import Mathlib.Data.List.Perm.Basic
import Mathlib.Logic.Relation
import Mathlib.Tactic.Basic

/-!
# Threads Over a Shared State

Several threads act on one state. A thread is the list of the actions it has
left, and a scheduler picks any thread and lets it perform its first action.
An action is what runs without interruption, a critical section or an access
to a single cell. Performing it changes the shared state, puts further
actions in front of the rest of the thread and may start threads. An action
that is not enabled, such as taking a lock that is held, is performed by
nobody until another thread has changed the state.

What the outside decides (an answer, a failure, a value that arrived) is a
parameter of the step, so a statement about every run is a statement about
every schedule and every environment.

Invariants of such a system relate the shared state to the actions that are
still pending somewhere, in any order. A step takes one of them away and adds
what performing it left (`pending_perm`, `pending_put_perm`), and the others
stay. That is all an invariant needs to know about the scheduler.

## Main definitions

* `Outcome`: What performing an action leaves.
* `Pool`: A shared state and the threads on it.
* `Pool.pending`: The actions that some thread has left.
* `Pool.Step`, `Pool.Reaches`: One step, and reachability by steps that all
  meet a condition.
* `Pool.step`, `Pool.run`: The same, computed from a schedule.

## Theorems

* `reaches_of_run`: A schedule reaches what it ends in.
* `Step.exists_performed`: What a step performs, and what is pending then.
* `Step.first_or_other`: Whether the first thread makes the step.
* `pending_perm`, `pending_put_perm`: The pending actions before and after a
  step.
-/

/-- What performing an action leaves: the state, what the thread does next
    before it goes on with the rest, and the threads that were started. -/
structure Outcome (σ α : Type) where
  shared : σ
  more : List α := []
  spawned : List (List α) := []

/-- A shared state and, for every thread, the actions it has left. -/
structure Pool (σ α : Type) where
  shared : σ
  threads : List (List α)

namespace Pool

variable {σ α ι : Type}

/-- The actions that some thread has left. -/
def pending (p : Pool σ α) : List α := p.threads.flatten

/-- The pool once a thread has performed its first action: what the action
    left stands in front of the rest of the thread, and the threads it
    started come last. -/
def put (o : Outcome σ α) (before : List (List α)) (rest : List α) (after : List (List α)) :
    Pool σ α :=
  ⟨o.shared, before ++ (o.more ++ rest) :: after ++ o.spawned⟩

/-- One thread performs its first action, under a condition on the state
    before it and on what the outside decides. -/
def Step (perform : σ → α → ι → Option (Outcome σ α)) (C : σ → α → ι → Prop) (p q : Pool σ α) :
    Prop :=
  ∃ before a rest after x o, p.threads = before ++ (a :: rest) :: after ∧
    perform p.shared a x = some o ∧ C p.shared a x ∧ q = put o before rest after

/-- Reachability by steps that all meet the condition. -/
def Reaches (perform : σ → α → ι → Option (Outcome σ α)) (C : σ → α → ι → Prop) :
    Pool σ α → Pool σ α → Prop :=
  Relation.ReflTransGen (Step perform C)

/-- Thread `i` performs its first action, with `x` for what the outside
    decides. There is no such step when the thread has ended, the condition
    fails or the action is not enabled. -/
def step (perform : σ → α → ι → Option (Outcome σ α)) (C : σ → α → ι → Prop)
    [∀ s a x, Decidable (C s a x)] (p : Pool σ α) (i : Nat) (x : ι) : Option (Pool σ α) :=
  match p.threads[i]? with
  | some (a :: rest) =>
    match perform p.shared a x with
    | some o =>
      if C p.shared a x then some (put o (p.threads.take i) rest (p.threads.drop (i + 1)))
      else none
    | none => none
  | _ => none

/-- A schedule: which thread is next, and what the outside decides. -/
def run (perform : σ → α → ι → Option (Outcome σ α)) (C : σ → α → ι → Prop)
    [∀ s a x, Decidable (C s a x)] (p : Pool σ α) : List (Nat × ι) → Option (Pool σ α)
  | [] => some p
  | (i, x) :: schedule =>
    match p.step perform C i x with
    | some q => q.run perform C schedule
    | none => none

variable {perform : σ → α → ι → Option (Outcome σ α)} {C : σ → α → ι → Prop}

/-- A computed step is a step. -/
theorem step_of_eq_some [∀ s a x, Decidable (C s a x)] {p q : Pool σ α} {i : Nat} {x : ι}
    (h : p.step perform C i x = some q) : Step perform C p q := by
  unfold step at h
  split at h
  · next a rest hthread =>
    split at h
    · next o hperform =>
      split at h
      · next hcondition =>
        obtain ⟨hlt, hget⟩ := List.getElem?_eq_some_iff.mp hthread
        refine ⟨p.threads.take i, a, rest, p.threads.drop (i + 1), x, o, ?_, hperform,
          hcondition, (Option.some.inj h).symm⟩
        rw [← hget, List.getElem_cons_drop, List.take_append_drop]
      · cases h
    · cases h
  · cases h

/-- A schedule reaches what it ends in. -/
theorem reaches_of_run [∀ s a x, Decidable (C s a x)] {schedule : List (Nat × ι)}
    {p q : Pool σ α} (h : p.run perform C schedule = some q) : Reaches perform C p q := by
  induction schedule generalizing p with
  | nil =>
    cases h
    exact .refl
  | cons move schedule ih =>
    rw [run] at h
    split at h
    · next q' hstep => exact .head (step_of_eq_some hstep) (ih h)
    · cases h

/-- A step performs a pending action, and what is pending afterwards was
    pending before or was left by the action. -/
theorem Step.exists_performed {p q : Pool σ α} (h : Step perform C p q) :
    ∃ a x o, a ∈ p.pending ∧ perform p.shared a x = some o ∧ C p.shared a x ∧
      q.shared = o.shared ∧
      ∀ b ∈ q.pending, b ∈ p.pending ∨ b ∈ o.more ∨ b ∈ o.spawned.flatten := by
  obtain ⟨before, a, rest, after, x, o, hthreads, hperform, hC, rfl⟩ := h
  refine ⟨a, x, o, ?_, hperform, hC, rfl, fun b hb => ?_⟩
  · rw [pending, hthreads]
    simp
  · rw [pending, hthreads]
    simp only [pending, put, List.flatten_append, List.flatten_cons, List.mem_append,
      List.mem_cons] at hb ⊢
    tauto

/-- A step is one of the first thread, or one of another. -/
theorem Step.first_or_other {p q : Pool σ α} {first : List α} {others : List (List α)}
    (h : Step perform C p q) (hp : p.threads = first :: others) :
    (∃ a tail x o, first = a :: tail ∧ perform p.shared a x = some o ∧ C p.shared a x ∧
      q = ⟨o.shared, (o.more ++ tail) :: (others ++ o.spawned)⟩) ∨
      ∃ before a tail after x o, others = before ++ (a :: tail) :: after ∧
        perform p.shared a x = some o ∧ C p.shared a x ∧
        q = ⟨o.shared, first :: (before ++ (o.more ++ tail) :: after ++ o.spawned)⟩ := by
  obtain ⟨before, a, tail, after, x, o, hthreads, hperform, hC, rfl⟩ := h
  rw [hp] at hthreads
  cases before with
  | nil =>
    obtain ⟨rfl, rfl⟩ := List.cons.inj hthreads
    exact .inl ⟨a, tail, x, o, rfl, hperform, hC, rfl⟩
  | cons thread before =>
    obtain ⟨rfl, rfl⟩ := List.cons.inj hthreads
    exact .inr ⟨before, a, tail, after, x, o, rfl, hperform, hC, rfl⟩

section Pending

variable {p : Pool σ α} {before after : List (List α)} {a : α} {rest : List α}

/-- The pending actions are the first one of a thread and the others. -/
theorem pending_perm (h : p.threads = before ++ (a :: rest) :: after) :
    p.pending.Perm (a :: (before.flatten ++ rest ++ after.flatten)) := by
  rw [pending, h]
  simp only [List.flatten_append, List.flatten_cons, List.cons_append, List.append_assoc]
  exact List.perm_middle

/-- After a step the others are still pending, together with what the
    performed action added. -/
theorem pending_put_perm (o : Outcome σ α) :
    (put o before rest after).pending.Perm
      ((o.more ++ o.spawned.flatten) ++ (before.flatten ++ rest ++ after.flatten)) := by
  have hmore : (put o before rest after).pending =
      before.flatten ++ (o.more ++ (rest ++ after.flatten ++ o.spawned.flatten)) := by
    simp only [pending, put, List.flatten_append, List.flatten_cons, List.append_assoc]
  have hothers : before.flatten ++ (rest ++ after.flatten ++ o.spawned.flatten) =
      (before.flatten ++ rest ++ after.flatten) ++ o.spawned.flatten := by
    simp only [List.append_assoc]
  rw [hmore, List.append_assoc o.more]
  refine (List.perm_append_comm_assoc _ _ _).trans (List.Perm.append_left _ ?_)
  rw [hothers]
  exact List.perm_append_comm

end Pending

end Pool
