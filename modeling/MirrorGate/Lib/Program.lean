import Mathlib.Data.List.Forall2
import Mathlib.Order.Defs.Unbundled
import Mathlib.Tactic.Basic

/-!
# Programs With State and Exceptions

A small language of effects: a program reads and writes a state and either
returns a value or raises. The state is returned on both exits, which is what
distinguishes this from an option-valued step function. A program interrupted
half way has still done what it did before the interruption, and a statement
about crash behaviour is a statement about the state carried by the error.

Two ways of reasoning are provided. `Moves` is a relation between the state
before and the state after, whichever exit was taken. A preorder is closed
under sequencing, so `Moves` composes without naming any intermediate state.
`Guarantees` adds a precondition and a postcondition on what is returned. Its
rules ask that the precondition survive the relation, which is how a fact
about the start of a program is still there at its end.

The rules `leaves_bind` and `leaves_handle` are for a property of the state
alone that some piece keeps only from where the pieces before it have led.

The inversion lemmas (`bind_eq_ok_iff` and its companions) serve the results
that concern completed runs only: they peel a run apart into the runs of its
pieces.

## Main definitions

* `Prog`: A state transformer that returns or raises.
* `Prog.raise`, `Prog.ofExcept`, `Prog.handle`: Raising and catching.
* `Prog.mapList`: Running a program on each element of a list in turn.
* `Prog.Moves`: The state before and after are related on every exit.
* `Prog.Guarantees`: The same from a precondition, with a postcondition for a
  normal exit.

## Theorems

* `bind_eq_ok_iff`: A completed sequence is two completed pieces.
* `moves_bind`, `moves_handle`, `moves_mapList`: A preorder is closed under
  sequencing, catching and iteration.
* `guarantees_bind`, `guarantees_handle`, `guarantees_mapList`: The same for
  guarantees.
* `mapList_cons_eq_ok`: A completed iteration is a chain of completed runs.
-/

/-- A program over the state `σ` that returns an `α` or raises an `ε`. -/
structure Prog (ε σ α : Type) where
  run : σ → Except ε α × σ

namespace Prog

variable {ε σ α β : Type}

instance : Monad (Prog ε σ) where
  pure a := ⟨fun s => (.ok a, s)⟩
  bind m f := ⟨fun s =>
    match m.run s with
    | (.ok a, t) => (f a).run t
    | (.error e, t) => (.error e, t)⟩

/-- Stop with an exception. -/
def raise (e : ε) : Prog ε σ α := ⟨fun s => (.error e, s)⟩

/-- Read the state through a projection. -/
def gets (f : σ → α) : Prog ε σ α := ⟨fun s => (.ok (f s), s)⟩

/-- Replace the state. -/
def update (f : σ → σ) : Prog ε σ Unit := ⟨fun s => (.ok (), f s)⟩

/-- A pure computation that may fail, run without touching the state. -/
def ofExcept (x : Except ε α) : Prog ε σ α := ⟨fun s => (x, s)⟩

/-- Run `m`; an exception for which `h` has a clause continues with that
    clause, from the state the exception left behind. -/
def handle (m : Prog ε σ α) (h : ε → Option (Prog ε σ α)) : Prog ε σ α := ⟨fun s =>
  match m.run s with
  | (.ok a, t) => (.ok a, t)
  | (.error e, t) =>
    match h e with
    | some k => k.run t
    | none => (.error e, t)⟩

/-- Run `f` on every element in order and collect what it returns. -/
def mapList (f : α → Prog ε σ β) : List α → Prog ε σ (List β)
  | [] => pure []
  | a :: as => do
    let b ← f a
    let bs ← mapList f as
    pure (b :: bs)

/-! ### Running programs -/

@[simp] theorem pure_run (a : α) (s : σ) : (pure a : Prog ε σ α).run s = (.ok a, s) := rfl

@[simp] theorem raise_run (e : ε) (s : σ) :
    (raise e : Prog ε σ α).run s = (.error e, s) := rfl

@[simp] theorem gets_run (f : σ → α) (s : σ) :
    (gets f : Prog ε σ α).run s = (.ok (f s), s) := rfl

@[simp] theorem update_run (f : σ → σ) (s : σ) :
    (update f : Prog ε σ Unit).run s = (.ok (), f s) := rfl

@[simp] theorem ofExcept_run (x : Except ε α) (s : σ) :
    (ofExcept x : Prog ε σ α).run s = (x, s) := rfl

theorem bind_run (m : Prog ε σ α) (f : α → Prog ε σ β) (s : σ) :
    (m >>= f).run s = match m.run s with
      | (.ok a, t) => (f a).run t
      | (.error e, t) => (.error e, t) := rfl

variable {m : Prog ε σ α} {f : α → Prog ε σ β} {s t : σ}

theorem bind_run_ok {a : α}
    (h : m.run s = (.ok a, t)) : (m >>= f).run s = (f a).run t := by
  rw [bind_run, h]

theorem bind_run_error {e : ε}
    (h : m.run s = (.error e, t)) : (m >>= f).run s = (.error e, t) := by
  rw [bind_run, h]

variable {h : ε → Option (Prog ε σ α)}

theorem handle_run_ok {a : α}
    (hm : m.run s = (.ok a, t)) : (handle m h).run s = (.ok a, t) := by
  unfold handle
  simp only [hm]

/-- A completed sequence is two completed pieces. -/
theorem bind_eq_ok_iff {u : σ} {b : β} :
    (m >>= f).run s = (.ok b, u) ↔
      ∃ a t, m.run s = (.ok a, t) ∧ (f a).run t = (.ok b, u) := by
  constructor
  · intro h
    rcases hm : m.run s with ⟨e | a, t⟩
    · rw [bind_run_error hm] at h
      simp at h
    · rw [bind_run_ok hm] at h
      exact ⟨a, t, rfl, h⟩
  · rintro ⟨a, t, hm, hf⟩
    rw [bind_run_ok hm, hf]

theorem pure_eq_ok_iff {a b : α} :
    (pure a : Prog ε σ α).run s = (.ok b, t) ↔ a = b ∧ s = t := by
  simp

theorem gets_eq_ok_iff {f : σ → α} {b : α} :
    (gets f : Prog ε σ α).run s = (.ok b, t) ↔ f s = b ∧ s = t := by
  simp

theorem ofExcept_eq_ok_iff {x : Except ε α} {b : α} :
    (ofExcept x : Prog ε σ α).run s = (.ok b, t) ↔ x = .ok b ∧ s = t := by
  simp

/-- A completed `handle` either completed outright or went through a clause. -/
theorem handle_eq_ok_iff {u : σ} {b : α} :
    (handle m h).run s = (.ok b, u) ↔
      m.run s = (.ok b, u) ∨
        ∃ e t k, m.run s = (.error e, t) ∧ h e = some k ∧ k.run t = (.ok b, u) := by
  unfold handle
  rcases hm : m.run s with ⟨e | a, t⟩
  · rcases hh : h e with _ | k
    · simp [hm, hh]
    · simp only [hm, hh, Prod.mk.injEq, reduceCtorEq, false_and, false_or, Except.error.injEq]
      constructor
      · intro hk
        exact ⟨e, t, k, ⟨rfl, rfl⟩, hh, hk⟩
      · rintro ⟨e', t', k', ⟨rfl, rfl⟩, hh', hk⟩
        rw [hh, Option.some.injEq] at hh'
        rw [hh']
        exact hk
  · simp [hm]

/-- A run whose result is known in part has completed. -/
theorem exists_of_toOption_map {f : α → β} {b : β}
    (h : (m.run s).1.toOption.map f = some b) : ∃ a t, m.run s = (.ok a, t) ∧ f a = b := by
  rcases hm : m.run s with ⟨e | a, t⟩
  · rw [hm] at h
    cases h
  · rw [hm] at h
    cases h
    exact ⟨a, t, rfl, rfl⟩

/-- The exception of an exit, if it is one. -/
def errorOf : Except ε α → Option ε
  | .ok _ => none
  | .error e => some e

theorem eq_error_of_errorOf {x : Except ε α} {e : ε} (h : errorOf x = some e) : x = .error e := by
  rcases x with e' | a
  · rw [errorOf, Option.some.injEq] at h
    rw [h]
  · cases h

/-! ### Two-state reasoning -/

/-- Whatever exit the program takes, the final state is related to the
    initial one. -/
def Moves (R : σ → σ → Prop) (m : Prog ε σ α) : Prop := ∀ s, R s (m.run s).2

section Preorder

variable {R : σ → σ → Prop}
variable {m : Prog ε σ α}

/-- The relation holds along a run, whatever its exit. -/
theorem Moves.of_run (h : Moves R m) {out : Except ε α}
    (hm : m.run s = (out, t)) : R s t := by
  have := h s
  rw [hm] at this
  exact this

theorem moves_pure [Std.Refl R] (a : α) : Moves R (pure a : Prog ε σ α) :=
  fun s => Std.Refl.refl s

theorem moves_raise [Std.Refl R] (e : ε) : Moves R (raise e : Prog ε σ α) :=
  fun s => Std.Refl.refl s

theorem moves_gets [Std.Refl R] (f : σ → α) : Moves R (gets f : Prog ε σ α) :=
  fun s => Std.Refl.refl s

theorem moves_ofExcept [Std.Refl R] (x : Except ε α) : Moves R (ofExcept x : Prog ε σ α) :=
  fun s => Std.Refl.refl s

/-- A preorder is closed under sequencing. Something may be known about what
    the first piece returns. -/
theorem moves_bind_known [IsTrans σ R] {K : α → Prop}
    (hm : Moves R m) (hknown : ∀ s a t, m.run s = (.ok a, t) → K a)
    (hf : ∀ a, K a → Moves R (f a)) : Moves R (m >>= f) := by
  intro s
  have h1 := hm s
  rw [bind_run]
  rcases hrun : m.run s with ⟨e | a, t⟩
  · rw [hrun] at h1
    exact h1
  · rw [hrun] at h1
    exact IsTrans.trans _ _ _ h1 (hf a (hknown s a t hrun) t)

theorem moves_bind [IsTrans σ R] (hm : Moves R m)
    (hf : ∀ a, Moves R (f a)) : Moves R (m >>= f) :=
  moves_bind_known (K := fun _ => True) hm (fun _ _ _ _ => trivial) (fun a _ => hf a)

/-- A preorder is closed under catching. -/
theorem moves_handle [IsTrans σ R]
    (hm : Moves R m) (hh : ∀ e k, h e = some k → Moves R k) : Moves R (handle m h) := by
  intro s
  have h1 := hm s
  unfold handle
  rcases hrun : m.run s with ⟨e | a, t⟩
  · rw [hrun] at h1
    rcases hc : h e with _ | k
    · simpa [hrun, hc] using h1
    · simpa [hrun, hc] using IsTrans.trans _ _ _ h1 (hh e k hc t)
  · rw [hrun] at h1
    simpa [hrun] using h1

/-- A preorder is closed under iteration over a list. -/
theorem moves_mapList [Std.Refl R] [IsTrans σ R] (as : List α)
    (hf : ∀ a ∈ as, Moves R (f a)) : Moves R (mapList f as) := by
  induction as with
  | nil => exact moves_pure _
  | cons a as ih =>
    refine moves_bind (hf a (by simp)) (fun b => ?_)
    refine moves_bind (ih (fun x hx => hf x (by simp [hx]))) (fun bs => ?_)
    exact moves_pure _

end Preorder

/-- A completed iteration peels into a completed first run and a completed
    iteration over the rest. -/
theorem mapList_cons_eq_ok {a : α} {as : List α} {u : σ} {cs : List β}
    (h : (mapList f (a :: as)).run s = (.ok cs, u)) :
    ∃ b bs t, (f a).run s = (.ok b, t) ∧ (mapList f as).run t = (.ok bs, u) ∧ cs = b :: bs := by
  unfold mapList at h
  rcases bind_eq_ok_iff.mp h with ⟨b, t, hb, h⟩
  rcases bind_eq_ok_iff.mp h with ⟨bs, v, hbs, h⟩
  rcases pure_eq_ok_iff.mp h with ⟨rfl, rfl⟩
  exact ⟨b, bs, t, hb, hbs, rfl⟩

/-- Each element of a completed iteration was run in a state that the runs
    before it have led to. -/
theorem mapList_runs {R : σ → σ → Prop} [Std.Refl R] [IsTrans σ R]
    (hf : ∀ a, Moves R (f a)) {as : List α} {bs : List β}
    (h : (mapList f as).run s = (.ok bs, t)) :
    List.Forall₂ (fun a b => ∃ u v, R s u ∧ (f a).run u = (.ok b, v)) as bs := by
  induction as generalizing bs s with
  | nil =>
    rcases pure_eq_ok_iff.mp h with ⟨rfl, -⟩
    exact .nil
  | cons a as ih =>
    rcases mapList_cons_eq_ok h with ⟨b, bs', u, hb, hrest, rfl⟩
    have hu : R s u := (hf a).of_run hb
    refine .cons ⟨s, u, Std.Refl.refl s, hb⟩ ((ih hrest).imp (fun a' b' hrun => ?_))
    rcases hrun with ⟨v, w, hv, hrun⟩
    exact ⟨v, w, IsTrans.trans _ _ _ hu hv, hrun⟩

/-! ### The state a program leaves -/

section Leaves

variable {I : σ → Prop}

/-- What every exit of a sequence leaves, from what its pieces leave. -/
theorem leaves_bind (hm : I (m.run s).2)
    (hf : ∀ a t, m.run s = (.ok a, t) → I t → I ((f a).run t).2) : I ((m >>= f).run s).2 := by
  rcases hrun : m.run s with ⟨e | a, t⟩
  · rw [bind_run_error hrun]
    rw [hrun] at hm
    exact hm
  · rw [bind_run_ok hrun]
    rw [hrun] at hm
    exact hf a t hrun hm

/-- The same for catching. -/
theorem leaves_handle
    (hm : I (m.run s).2)
    (hh : ∀ e k t, m.run s = (.error e, t) → h e = some k → I t → I (k.run t).2) :
    I ((handle m h).run s).2 := by
  unfold handle
  rcases hrun : m.run s with ⟨e | a, t⟩
  · rw [hrun] at hm
    rcases hc : h e with _ | k
    · simpa [hrun, hc] using hm
    · simpa [hrun, hc] using hh e k t hrun hc hm
  · rw [hrun] at hm
    simpa [hrun] using hm

end Leaves

/-! ### Guarantees -/

/-- From a state satisfying `P`, the program moves along `R` on every exit,
    and what it returns satisfies `Q` in the state it returns in. -/
def Guarantees (P : σ → Prop) (R : σ → σ → Prop) (m : Prog ε σ α) (Q : α → σ → Prop) : Prop :=
  ∀ s, P s → R s (m.run s).2 ∧ ∀ a t, m.run s = (.ok a, t) → Q a t

section Guarantees

variable {P : σ → Prop} {R : σ → σ → Prop} {Q : α → σ → Prop} {Q' : β → σ → Prop}
variable {m : Prog ε σ α}

theorem Guarantees.moves (h : Guarantees P R m Q)
    {out : Except ε α} (hs : P s) (hm : m.run s = (out, t)) : R s t := by
  have := (h s hs).1
  rw [hm] at this
  exact this

theorem Guarantees.returns (h : Guarantees P R m Q) {a : α}
    (hs : P s) (hm : m.run s = (.ok a, t)) : Q a t :=
  (h s hs).2 a t hm

/-- Weaken what is assumed. -/
theorem Guarantees.pre {P' : σ → Prop} (h : Guarantees P R m Q)
    (hP : ∀ s, P' s → P s) : Guarantees P' R m Q :=
  fun s hs => h s (hP s hs)

/-- Weaken what is concluded. -/
theorem Guarantees.post {S : α → σ → Prop} (h : Guarantees P R m Q)
    (hQ : ∀ a t, Q a t → S a t) : Guarantees P R m S :=
  fun s hs => ⟨(h s hs).1, fun a t hm => hQ a t ((h s hs).2 a t hm)⟩

theorem guarantees_pure [Std.Refl R] (a : α) (h : ∀ s, P s → Q a s) :
    Guarantees P R (pure a : Prog ε σ α) Q := by
  intro s hs
  refine ⟨Std.Refl.refl s, fun b t hm => ?_⟩
  rcases pure_eq_ok_iff.mp hm with ⟨rfl, rfl⟩
  exact h s hs

theorem guarantees_raise [Std.Refl R] (e : ε) : Guarantees P R (raise e : Prog ε σ α) Q := by
  intro s _
  refine ⟨Std.Refl.refl s, fun b t hm => ?_⟩
  simp at hm

variable {f : α → Prog ε σ β}

/-- The sequencing rule. What the first piece guarantees is available to the
    second, and so is what the relation leaves of the precondition. -/
theorem guarantees_bind_of [IsTrans σ R] {T : σ → Prop}
    (hafter : ∀ s t, P s → R s t → T t) (hm : Guarantees P R m Q)
    (hf : ∀ a, Guarantees (fun t => T t ∧ Q a t) R (f a) Q') : Guarantees P R (m >>= f) Q' := by
  intro s hs
  rcases hrun : m.run s with ⟨e | a, t⟩
  · refine ⟨?_, fun b u hb => ?_⟩
    · rw [bind_run_error hrun]
      exact hm.moves hs hrun
    · rw [bind_run_error hrun] at hb
      simp at hb
  · have ht : R s t := hm.moves hs hrun
    have hnext := hf a t ⟨hafter s t hs ht, hm.returns hs hrun⟩
    rw [bind_run_ok hrun]
    exact ⟨IsTrans.trans _ _ _ ht hnext.1, hnext.2⟩

/-- The sequencing rule for a precondition that the relation preserves. -/
theorem guarantees_bind [IsTrans σ R]
    (hstable : ∀ s t, P s → R s t → P t) (hm : Guarantees P R m Q)
    (hf : ∀ a, Guarantees (fun t => P t ∧ Q a t) R (f a) Q') : Guarantees P R (m >>= f) Q' :=
  guarantees_bind_of hstable hm hf

/-- The sequencing rule for a first piece of which only the move matters. -/
theorem guarantees_then [IsTrans σ R]
    (hstable : ∀ s t, P s → R s t → P t) (hm : Moves R m)
    (hf : ∀ a, Guarantees P R (f a) Q') : Guarantees P R (m >>= f) Q' :=
  guarantees_bind (Q := fun _ _ => True) hstable (fun s _ => ⟨hm s, fun _ _ _ => trivial⟩)
    (fun a => (hf a).pre (fun _ hs => hs.1))

/-- The catching rule: a clause starts from a state the program has moved to. -/
theorem guarantees_handle [IsTrans σ R]
    (hstable : ∀ s t, P s → R s t → P t) (hm : Guarantees P R m Q)
    (hh : ∀ e k, h e = some k → Guarantees P R k Q) : Guarantees P R (handle m h) Q := by
  intro s hs
  unfold handle
  rcases hrun : m.run s with ⟨e | a, t⟩
  · have ht : R s t := hm.moves hs hrun
    rcases hc : h e with _ | k
    · simpa [hrun, hc] using ht
    · have hnext := hh e k hc t (hstable s t hs ht)
      simp only [hrun, hc]
      exact ⟨IsTrans.trans _ _ _ ht hnext.1, hnext.2⟩
  · simp only [hrun]
    refine ⟨hm.moves hs hrun, fun b u hb => ?_⟩
    cases hb
    exact hm.returns hs hrun

/-- Iteration over a list: what is guaranteed about one element must survive
    what happens to the others. -/
theorem guarantees_mapList [Std.Refl R] [IsTrans σ R]
    {S : α → β → σ → Prop} (as : List α) (hstable : ∀ s t, P s → R s t → P t)
    (hS : ∀ a b s t, S a b s → R s t → S a b t)
    (hf : ∀ a ∈ as, Guarantees P R (f a) (S a)) :
    Guarantees P R (mapList f as) (fun bs t => List.Forall₂ (fun a b => S a b t) as bs) := by
  induction as with
  | nil => exact guarantees_pure _ (fun s _ => List.Forall₂.nil)
  | cons a as ih =>
    intro s hs
    have htail := ih (fun x hx => hf x (by simp [hx]))
    rcases hrun : (f a).run s with ⟨e | b, t⟩
    · refine ⟨?_, fun bs u hbs => ?_⟩
      · unfold mapList
        rw [bind_run_error hrun]
        exact (hf a (by simp)).moves hs hrun
      · unfold mapList at hbs
        rw [bind_run_error hrun] at hbs
        simp at hbs
    · have ht : R s t := (hf a (by simp)).moves hs hrun
      have hb : S a b t := (hf a (by simp)).returns hs hrun
      have hpt : P t := hstable s t hs ht
      refine ⟨?_, fun cs u hcs => ?_⟩
      · unfold mapList
        rw [bind_run_ok hrun]
        rcases hrest : (mapList f as).run t with ⟨e | bs, u⟩
        · rw [bind_run_error hrest]
          exact IsTrans.trans _ _ _ ht (htail.moves hpt hrest)
        · rw [bind_run_ok hrest]
          exact IsTrans.trans _ _ _ ht (htail.moves hpt hrest)
      · rcases mapList_cons_eq_ok hcs with ⟨b', bs, t', hb', hbs, rfl⟩
        rw [hrun] at hb'
        cases hb'
        exact .cons (hS a b t u hb (htail.moves hpt hbs)) (htail.returns hpt hbs)

end Guarantees

end Prog
