import Mathlib.Logic.Relation
import Mathlib.Tactic.Basic

/-!
# Labelled Machines

A machine is a function that takes a state and a label to the next state, or
to nothing when the label is not enabled. The label says who moves and what
the outside decides. A run meets a condition when every label does, in the
state it is taken in.

## Main definitions

* `Labelled.Step`, `Labelled.Reaches`: One step, and reachability by steps
  that all meet a condition.
* `Labelled.run`: The same, computed from a list of labels.

## Theorems

* `Labelled.reaches_of_run`: A list of labels reaches what it ends in.
* `Labelled.Reaches.invariant`: What holds at first and is kept by every step
  holds throughout.
-/

namespace Labelled

variable {σ ι : Type}

/-- One step, under a condition on the state before it and its label. -/
def Step (step : σ → ι → Option σ) (C : σ → ι → Prop) (s t : σ) : Prop :=
  ∃ x, C s x ∧ step s x = some t

/-- Reachability by steps that all meet the condition. -/
def Reaches (step : σ → ι → Option σ) (C : σ → ι → Prop) : σ → σ → Prop :=
  Relation.ReflTransGen (Step step C)

/-- The labels are taken one after the other, as long as they are enabled and
    meet the condition. -/
def run (step : σ → ι → Option σ) (C : σ → ι → Prop) [∀ s x, Decidable (C s x)] (s : σ) :
    List ι → Option σ
  | [] => some s
  | x :: labels =>
    if C s x then
      match step s x with
      | some t => run step C t labels
      | none => none
    else none

variable {step : σ → ι → Option σ} {C : σ → ι → Prop}

/-- A list of labels reaches what it ends in. -/
theorem reaches_of_run [∀ s x, Decidable (C s x)] {labels : List ι} {s t : σ}
    (h : run step C s labels = some t) : Reaches step C s t := by
  induction labels generalizing s with
  | nil =>
    cases h
    exact .refl
  | cons x labels ih =>
    rw [run] at h
    split at h
    · next hC =>
      split at h
      · next u hstep => exact .head ⟨x, hC, hstep⟩ (ih h)
      · cases h
    · cases h

/-- What holds at first and is kept by every step holds throughout. -/
theorem Reaches.invariant {P : σ → Prop} {s t : σ} (h : Reaches step C s t) (hs : P s)
    (hstep : ∀ s x t, P s → C s x → step s x = some t → P t) : P t := by
  induction h with
  | refl => exact hs
  | tail _ hlast ih =>
    obtain ⟨x, hC, hx⟩ := hlast
    exact hstep _ x _ ih hC hx

end Labelled
