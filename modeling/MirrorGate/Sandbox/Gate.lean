import Mathlib.Data.List.Basic
import Mathlib.Tactic.Basic

/-!
# Sandboxes

A sandbox owns a directory, some descriptors and the processes that were
started in it. It is closed under its own lock, so the calls of `close` come
one after the other. A call waits for the processes, closes the descriptors
and removes the directory, in that order, and the first of these that fails
ends it.

The sandbox is marked as closed before any of that. A call that failed is
therefore the last one that does anything, and the next one returns as if all
were done. `close_truthful_iff` says so: a call that returns normally has
released everything exactly if the sandbox was not one that an earlier call
has marked and failed to release.

## Main definitions

* `ProcessState`, `Gate`: A process, and a sandbox with what it owns.
* `CloseInput`: What the operating system answers to one call of `close`.
* `Gate.start`, `Gate.close`: As in the source.
* `Gate.Released`: All processes have ended, and nothing is left.

## Theorems

* `Gate.close_marks`: Every call leaves the sandbox marked as closed.
* `Gate.close_released`: A first call that returns has released everything.
* `Gate.close_truthful_iff`: When a call that returns is to be believed.
* `Gate.Released.mapProcesses`: What was released stays so.
* `Gate.close_obliging`: Nothing fails when the operating system does not.
* `Gate.close_raised`: A call that raises was the first one.
* `Gate.Sound.close`, `Gate.Sound.start`: What holds of a sandbox that is used.
-/

namespace MirrorGate

/-- A process runs, its exit code is known, or its end has been noted by all
    that have to note it. -/
inductive ProcessState where
  | running
  | exited
  | done
deriving DecidableEq, Repr

namespace ProcessState

/-- A running process ends. -/
def exit : ProcessState → ProcessState
  | .running => .exited
  | process => process

/-- The end of a process is noted. -/
def note : ProcessState → ProcessState
  | .exited => .done
  | process => process

theorem exit_eq_running (process : ProcessState) (h : process.exit = .running) :
    process = .running := by
  cases process <;> first | rfl | cases h

theorem note_eq_running (process : ProcessState) (h : process.note = .running) :
    process = .running := by
  cases process <;> first | rfl | cases h

end ProcessState

/-- A sandbox, as `GateSession` keeps it. -/
structure Gate where
  processes : List ProcessState := []
  /-- For every descriptor, whether it is open. -/
  descriptors : List Bool := []
  /-- The owned directory exists. -/
  directory : Bool := true
  closed : Bool := false
  /-- The processes that a later start took off the list, for reasoning only. -/
  earlier : List ProcessState := []
deriving DecidableEq, Repr

/-- For each wait and for each descriptor what was raised, if anything, and the
    same for the removal of the directory. -/
structure CloseInput where
  waits : List (Option String) := []
  releases : List (Option String) := []
  removal : Option String := none
deriving DecidableEq, Repr

/-- Nothing is raised. -/
def CloseInput.Obliging (x : CloseInput) : Prop :=
  (∀ w ∈ x.waits, w = none) ∧ (∀ r ∈ x.releases, r = none) ∧ x.removal = none

instance (x : CloseInput) : Decidable x.Obliging := inferInstanceAs (Decidable (_ ∧ _ ∧ _))

variable {g : Gate} {x : CloseInput}

namespace Gate

/-- A sandbox as it is made, with the processes that were started in it. -/
def fresh (descriptors : Nat) (processes : List ProcessState) : Gate :=
  { processes := processes, descriptors := List.replicate descriptors true }

/-- The processes are waited for, one after the other. A process whose end is
    noted lets the wait return at once, and any other that returns has noted
    it. -/
def waitAll : List ProcessState → List (Option String) → List ProcessState × Option String
  | [], _ => ([], none)
  | process :: processes, waits =>
    match if process = .done then none else waits.headD none with
    | some message => (process :: processes, some message)
    | none =>
      (.done :: (waitAll processes waits.tail).1, (waitAll processes waits.tail).2)

/-- The descriptors are closed, one after the other. -/
def releaseAll : List Bool → List (Option String) → List Bool × Option String
  | [], _ => ([], none)
  | descriptor :: descriptors, releases =>
    match releases.headD none with
    | some message => (descriptor :: descriptors, some message)
    | none =>
      (false :: (releaseAll descriptors releases.tail).1,
        (releaseAll descriptors releases.tail).2)

/-- `remove_snapshot` of the owned directory. -/
def remove (g : Gate) (removal : Option String) : Gate × Option String :=
  if g.directory then
    match removal with
    | some message => (g, some message)
    | none => ({ g with directory := false }, none)
  else (g, none)

/-- The descriptors and the directory, once the processes have ended. -/
def dispose (g : Gate) (x : CloseInput) : Gate × Option String :=
  match releaseAll g.descriptors x.releases with
  | (descriptors, some message) => ({ g with descriptors := descriptors }, some message)
  | (_, none) => { g with descriptors := [] }.remove x.removal

/-- `close`, and what it raised. -/
def close (g : Gate) (x : CloseInput) : Gate × Option String :=
  if g.closed then (g, none)
  else
    match waitAll g.processes x.waits with
    | (processes, some message) => ({ g with closed := true, processes := processes }, some message)
    | (processes, none) => { g with closed := true, processes := processes }.dispose x

/-- `start`, when it raises nothing. -/
def start (g : Gate) : Option Gate :=
  if g.closed ∨ .running ∈ g.processes then none
  else some { g with processes := [.running], earlier := g.earlier ++ g.processes }

/-- The processes of the sandbox have all ended. -/
def Ended (g : Gate) : Prop := .running ∉ g.processes ∧ .running ∉ g.earlier

instance (g : Gate) : Decidable g.Ended := inferInstanceAs (Decidable (_ ∧ _))

/-- All processes have ended, all descriptors are closed and the directory is
    gone. -/
structure Released (g : Gate) : Prop where
  ended : g.Ended
  descriptors : true ∉ g.descriptors
  directory : g.directory = false

instance (g : Gate) : Decidable g.Released :=
  decidable_of_iff (g.Ended ∧ true ∉ g.descriptors ∧ g.directory = false)
    ⟨fun h => ⟨h.1, h.2.1, h.2.2⟩, fun h => ⟨h.ended, h.descriptors, h.directory⟩⟩

/-! ### Closing -/

theorem waitAll_done {processes done : List ProcessState} {waits : List (Option String)}
    (h : waitAll processes waits = (done, none)) : ∀ p ∈ done, p = .done := by
  induction processes generalizing done waits with
  | nil =>
    cases h
    exact fun _ hp => absurd hp List.not_mem_nil
  | cons process processes ih =>
    rw [waitAll] at h
    split at h
    · cases h
    · cases hrest : waitAll processes waits.tail with
      | mk rest message =>
        rw [hrest] at h
        obtain ⟨rfl, rfl⟩ := Prod.mk.inj h
        exact List.forall_mem_cons.mpr ⟨rfl, ih hrest⟩

theorem remove_eq_none {t : Gate} {removal : Option String} (h : g.remove removal = (t, none)) :
    t = { g with directory := false } := by
  unfold remove at h
  split at h
  · split at h
    · cases h
    · exact (Prod.mk.inj h).1.symm
  · next hgone =>
    rw [Bool.not_eq_true] at hgone
    rw [← hgone]
    exact (Prod.mk.inj h).1.symm

theorem close_of_closed (hclosed : g.closed = true) :
    g.close x = (g, none) := by
  rw [close, if_pos hclosed]

/-- A sandbox that was closed is marked, whatever that raised. -/
theorem close_marks (g : Gate) (x : CloseInput) :
    (g.close x).1.closed = true ∧ (g.close x).1.earlier = g.earlier := by
  unfold close
  split
  · next hclosed => exact ⟨hclosed, rfl⟩
  · split
    · exact ⟨rfl, rfl⟩
    · unfold dispose
      split
      · exact ⟨rfl, rfl⟩
      · unfold remove
        split
        · split <;> exact ⟨rfl, rfl⟩
        · exact ⟨rfl, rfl⟩

/-- A call that does something and returns normally has released everything. -/
theorem close_released {t : Gate} (hopen : g.closed = false)
    (hearlier : .running ∉ g.earlier) (h : g.close x = (t, none)) : t.Released := by
  rw [close, if_neg (by simp [hopen])] at h
  split at h
  · cases h
  · next processes hwait =>
    have hended : .running ∉ processes := fun hrunning => by
      cases waitAll_done hwait _ hrunning
    unfold dispose at h
    split at h
    · cases h
    · rw [remove_eq_none h]
      exact ⟨⟨hended, hearlier⟩, List.not_mem_nil, rfl⟩

/-- A call that returns normally is to be believed exactly if no earlier call
    has marked the sandbox and failed to release it. -/
theorem close_truthful_iff (hearlier : .running ∉ g.earlier) :
    ((g.close x).2 = none → (g.close x).1.Released) ↔ ¬ (g.closed = true ∧ ¬ g.Released) := by
  rcases hclosed : g.closed with _ | _
  · refine ⟨fun _ h => Bool.false_ne_true h.1, fun _ h => ?_⟩
    exact close_released hclosed hearlier (Prod.ext rfl h)
  · rw [close_of_closed hclosed]
    simp

/-! ### What the outside does -/

/-- Something happens to the processes. -/
def mapProcesses (g : Gate) (f : ProcessState → ProcessState) : Gate :=
  { g with processes := g.processes.map f }

theorem Released.mapProcesses {f : ProcessState → ProcessState} (h : g.Released)
    (hf : ∀ p, f p = .running → p = .running) : (g.mapProcesses f).Released where
  ended := by
    refine ⟨fun hrunning => ?_, h.ended.2⟩
    obtain ⟨p, hp, hrun⟩ := List.mem_map.mp hrunning
    exact h.ended.1 (hf p hrun ▸ hp)
  descriptors := h.descriptors
  directory := h.directory

theorem headD_none {raised : List (Option String)} (h : ∀ x ∈ raised, x = none) :
    raised.headD none = none := by
  cases raised with
  | nil => rfl
  | cons x raised => exact h x List.mem_cons_self

theorem waitAll_obliging (processes : List ProcessState) {waits : List (Option String)}
    (h : ∀ w ∈ waits, w = none) : (waitAll processes waits).2 = none := by
  induction processes generalizing waits with
  | nil => rfl
  | cons process processes ih =>
    rw [waitAll, headD_none h, ite_self]
    exact ih fun w hw => h w (List.mem_of_mem_tail hw)

theorem releaseAll_obliging (descriptors : List Bool) {releases : List (Option String)}
    (h : ∀ r ∈ releases, r = none) : (releaseAll descriptors releases).2 = none := by
  induction descriptors generalizing releases with
  | nil => rfl
  | cons descriptor descriptors ih =>
    rw [releaseAll, headD_none h]
    exact ih fun r hr => h r (List.mem_of_mem_tail hr)

/-- When the operating system raises nothing, neither does `close`. -/
theorem close_obliging (h : x.Obliging) : (g.close x).2 = none := by
  obtain ⟨hwaits, hreleases, hremoval⟩ := h
  have hwait := waitAll_obliging g.processes hwaits
  have hrelease := releaseAll_obliging g.descriptors hreleases
  unfold close
  split
  · rfl
  · split
    · next heq => cases hwait.symm.trans (congrArg Prod.snd heq)
    · unfold dispose
      split
      · next heq => cases hrelease.symm.trans (congrArg Prod.snd heq)
      · unfold remove
        rw [hremoval]
        split <;> rfl

/-- A call that raises was the first one, and the directory is still there. -/
theorem close_raised {message : String}
    (h : (g.close x).2 = some message) :
    g.closed = false ∧ (g.close x).1.directory = g.directory := by
  by_cases hclosed : g.closed = true
  · rw [close_of_closed hclosed] at h
    cases h
  · refine ⟨by simpa using hclosed, ?_⟩
    rw [close, if_neg hclosed] at h ⊢
    split at h
    · rfl
    · unfold dispose at h ⊢
      split at h
      · rfl
      · unfold remove at h ⊢
        split at h
        · next hdirectory =>
          rw [if_pos hdirectory]
          split at h
          · rfl
          · cases h
        · cases h

/-! ### Sandboxes that are used -/

/-- The processes that are gone from the list have ended, and the directory is
    there until the sandbox is closed. -/
structure Sound (g : Gate) : Prop where
  earlier : .running ∉ g.earlier
  directory : g.closed = false → g.directory = true

theorem fresh_sound (n : Nat) : (fresh n []).Sound := ⟨List.not_mem_nil, fun _ => rfl⟩

theorem Sound.close (h : g.Sound) (x : CloseInput) : (g.close x).1.Sound where
  earlier := (g.close_marks x).2 ▸ h.earlier
  directory hopen := by cases hopen.symm.trans (g.close_marks x).1

theorem Sound.start {t : Gate} (h : g.Sound) (hstart : g.start = some t) : t.Sound := by
  unfold Gate.start at hstart
  split at hstart
  · cases hstart
  · next hguard =>
    cases hstart
    obtain ⟨_, hended⟩ := not_or.mp hguard
    refine ⟨fun hrunning => ?_, h.directory⟩
    rcases List.mem_append.mp hrunning with hrunning | hrunning
    · exact h.earlier hrunning
    · exact hended hrunning

theorem Sound.mapProcesses (h : g.Sound) (f : ProcessState → ProcessState) :
    (g.mapProcesses f).Sound := ⟨h.earlier, h.directory⟩

end Gate

end MirrorGate
