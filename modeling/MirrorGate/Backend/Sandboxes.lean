import MirrorGate.Backend.Machine
import MirrorGate.Backend.Stages

/-!
# The Sandboxes of a Session

Every sandbox is made by a thread that is going to close it. What a cleanup
may conclude from the absence of these threads is what this module is about.
As long as nobody closes a sandbox on which that has failed, and a thread does
not fail to close the sandbox it has made, every sandbox without a thread is
released, and a cleanup that has waited for the threads knows it.

## Main definitions

* `Sandboxes.Kept`: Every sandbox but the current one is closed and released.
* `Unfailed`: The condition on the steps.
* `Stopped`, `Settled`: What a cleanup knows once it has waited.
* `Vouches`: What a result is good for.
* `BuildMove`, `Turn`: All that `submit_source` and `prepare` do in a step.
* `Guarded`: What holds between the steps.

## Theorems

* `Sandboxes.Kept.close`, `Sandboxes.Kept.close_current`: Closing a sandbox.
* `turn_of_prepareStep`: What a step of `submit_source` or `prepare` can do.
* `Guarded.author`, `Guarded.prepare`, `Guarded.stageStep`, `Guarded.step`:
  Every step keeps it.
* `guarded_of_opened`: It holds at first.
-/

namespace MirrorGate.Backend

open Option

/-! ### Who still has a sandbox -/

/-- The sandbox that the thread is going to close. -/
def Author.gate : Author → Option Nat
  | .made i | .registered i | .started i | .streaming i | .closing i => some i
  | .constructing | .ending => none

def Preparer.gate : Preparer → Option Nat
  | .made i | .cancelled i | .registered i | .streaming i | .closing i => some i
  | _ => none

/-- The thread has not come to where it builds, or has left it. -/
def Preparer.Harmless : Preparer → Prop
  | .stopping _ | .stopWait _ _ | .stopClose _ _ | .stopAwait _ | .checking _ | .ending => True
  | _ => False

/-- The thread has registered its sandbox. -/
def Preparer.Registered : Preparer → Prop
  | .registered _ | .streaming _ | .closing _ => True
  | _ => False

theorem Preparer.Harmless.gate {p : Preparer} (h : p.Harmless) : p.gate = none := by
  cases p <;> first | rfl | cases h

namespace Sandboxes

/-- A sandbox that was closed was released then. -/
def Unfailed (y : Sandboxes) (i : Nat) : Prop := ∀ g ∈ y.gates[i]?, g.closed = true → g.Released

instance (y : Sandboxes) (i : Nat) : Decidable (y.Unfailed i) :=
  match h : y.gates[i]? with
  | none => .isTrue fun g hg => by rw [h] at hg; cases hg
  | some g => decidable_of_iff (g.closed = true → g.Released)
      ⟨fun hg _ h' => by rw [h] at h'; cases h'; exact hg, fun hg => hg g h⟩

/-- Every sandbox but the current one is closed and released. -/
def Kept (y : Sandboxes) (current : Option Nat) : Prop :=
  ∀ i g, y.gates[i]? = some g → g.Sound ∧ (current ≠ some i → g.Released ∧ g.closed = true)

variable {y : Sandboxes}

theorem Kept.weaken (h : y.Kept none) (current : Option Nat) : y.Kept current :=
  fun i g hg => ⟨(h i g hg).1, fun _ => (h i g hg).2 nofun⟩

variable {current : Option Nat}

theorem Kept.of_gates {y z : Sandboxes} (h : y.Kept current)
    (hgates : z.gates = y.gates) : z.Kept current := by
  intro i g hg
  rw [hgates] at hg
  exact h i g hg

theorem Kept.released (h : y.Kept none) : ∀ g ∈ y.gates, g.Released := by
  intro g hg
  obtain ⟨i, hi⟩ := List.mem_iff_getElem?.mp hg
  exact ((h i g hi).2 nofun).1

theorem add_gates {g g' : Gate} {i : Nat}
    (hg : (y.add g).gates[i]? = some g') :
    y.gates[i]? = some g' ∨ i = y.gates.length ∧ g' = g := by
  rcases Nat.lt_trichotomy i y.gates.length with hlt | rfl | hgt
  · rw [add, List.getElem?_append_left hlt] at hg
    exact .inl hg
  · rw [add, List.getElem?_concat_length] at hg
    exact .inr ⟨rfl, (some.inj hg).symm⟩
  · rw [add, List.getElem?_eq_none (by simp; omega)] at hg
    cases hg

/-- A new sandbox is the current one. -/
theorem Kept.add_fresh (h : y.Kept none) (n : Nat) :
    (y.add (.fresh n [])).Kept (some y.gates.length) := by
  intro i g hg
  rcases add_gates hg with hg | ⟨rfl, rfl⟩
  · exact h.weaken _ i g hg
  · exact ⟨Gate.fresh_sound n, fun hne => absurd rfl hne⟩

/-- A sandbox that could not be made, but was closed. -/
theorem Kept.add_closed (h : y.Kept none) (n : Nat) {x : CloseInput}
    (hx : x.Obliging) : (y.add ((Gate.fresh n []).close x).1).Kept none := by
  have hmarks := (Gate.fresh n []).close_marks x
  have hreleased : ((Gate.fresh n []).close x).1.Released :=
    Gate.close_released rfl List.not_mem_nil (Prod.ext rfl (Gate.close_obliging hx))
  intro i g hg
  rcases add_gates hg with hg | ⟨rfl, rfl⟩
  · exact h i g hg
  · exact ⟨(Gate.fresh_sound n).close x, fun _ => ⟨hreleased, hmarks.1⟩⟩

/-- What a call of `close` leaves. -/
theorem close_gates {i j : Nat} {x : CloseInput} {g : Gate}
    (hg : (y.close i x).1.gates[j]? = some g) :
    y.gates[j]? = some g ∧ j ≠ i ∨ j = i ∧ ∃ g', y.gates[i]? = some g' ∧ g = (g'.close x).1 := by
  unfold close at hg
  split at hg
  · next hnone =>
    refine .inl ⟨hg, ?_⟩
    rintro rfl
    rw [hnone] at hg
    cases hg
  · next g' hg' =>
    by_cases hji : j = i
    · subst hji
      have hlt := (List.getElem?_eq_some_iff.mp hg').1
      rw [List.getElem?_set_self hlt] at hg
      cases hg
      exact .inr ⟨rfl, g', hg', rfl⟩
    · rw [List.getElem?_set_ne (fun h => hji h.symm)] at hg
      exact .inl ⟨hg, hji⟩

/-- Closing a sandbox does no harm to the others, nor to one that was released. -/
theorem Kept.close (h : y.Kept current) (i : Nat)
    (x : CloseInput) : (y.close i x).1.Kept current := by
  intro j g hg
  rcases close_gates hg with ⟨hg, _⟩ | ⟨rfl, g', hg', rfl⟩
  · exact h j g hg
  · obtain ⟨hsound, hreleased⟩ := h j g' hg'
    refine ⟨hsound.close x, fun hne => ?_⟩
    rw [Gate.close_of_closed (hreleased hne).2]
    exact hreleased hne

/-- The thread closes its own sandbox. -/
theorem Kept.close_current {i : Nat} (h : y.Kept (some i)) (hunfailed : y.Unfailed i)
    {x : CloseInput} (hx : x.Obliging) : (y.close i x).1.Kept none := by
  intro j g hg
  rcases close_gates hg with ⟨hg, hne⟩ | ⟨rfl, g', hg', rfl⟩
  · exact ⟨(h j g hg).1, fun _ => (h j g hg).2 fun heq => hne (some.inj heq).symm⟩
  · have hmarks := g'.close_marks x
    refine ⟨(h j g' hg').1.close x, fun _ => ⟨?_, hmarks.1⟩⟩
    by_cases hclosed : g'.closed = true
    · rw [Gate.close_of_closed hclosed]
      exact hunfailed g' hg' hclosed
    · exact Gate.close_released (by simpa using hclosed) (h j g' hg').1.earlier
        (Prod.ext rfl (Gate.close_obliging hx))

theorem start_gates {y z : Sandboxes} {i j : Nat} {g : Gate} (h : y.start i = some z)
    (hg : z.gates[j]? = some g) :
    y.gates[j]? = some g ∧ j ≠ i ∨
      j = i ∧ ∃ g', y.gates[i]? = some g' ∧ g'.start = some g := by
  unfold start at h
  obtain ⟨u, hu, rfl⟩ := map_eq_some_iff.mp h
  obtain ⟨g', hg', hstart⟩ := bind_eq_some_iff.mp hu
  by_cases hji : j = i
  · subst hji
    have hlt := (List.getElem?_eq_some_iff.mp hg').1
    rw [List.getElem?_set_self hlt] at hg
    cases hg
    exact .inr ⟨rfl, g', hg', hstart⟩
  · rw [List.getElem?_set_ne (fun h => hji h.symm)] at hg
    exact .inl ⟨hg, hji⟩

/-- A process is started in the current sandbox. -/
theorem Kept.start {y z : Sandboxes} {i : Nat} (h : y.Kept (some i)) (hz : y.start i = some z) :
    z.Kept (some i) := by
  intro j g hg
  rcases start_gates hz hg with ⟨hg, _⟩ | ⟨rfl, g', hg', hstart⟩
  · exact h j g hg
  · exact ⟨(h j g' hg').1.start hstart, fun hne => absurd rfl hne⟩

/-- Processes end. -/
theorem Kept.modify (h : y.Kept current) (i : Nat)
    {f : ProcessState → ProcessState} (hf : ∀ p, f p = .running → p = .running) :
    (y.modify i (·.mapProcesses f)).Kept current := by
  intro j g hg
  simp only [Sandboxes.modify, List.getElem?_modify] at hg
  obtain ⟨g', hg', hgg⟩ := map_eq_some_iff.mp hg
  obtain ⟨hsound, hreleased⟩ := h j g' hg'
  split at hgg
  · cases hgg
    exact ⟨hsound.mapProcesses f, fun hne => ⟨(hreleased hne).1.mapProcesses hf, (hreleased hne).2⟩⟩
  · cases hgg
    exact ⟨hsound, hreleased⟩

end Sandboxes

/-! ### What holds between the steps -/

/-- No authoring command runs any more, and none will. -/
structure Stopped (s : Session) : Prop where
  sealed : s.sealed = true
  author : s.author = none

/-- Nothing is built any more either. -/
structure Settled (s : Session) : Prop extends Stopped s where
  event : s.cleanupEvent = true
  preparer : ∀ p ∈ s.preparer, p.Harmless

/-- The stages after the first section. -/
def Stage.Begun : Stage → Prop
  | .recheck | .begin => False
  | _ => True

/-- The stages after the wait for the authoring command. -/
def Stage.AfterAuthoring : Stage → Prop
  | .recheck | .begin | .authoring | .build | .awaitAuthoring => False
  | _ => True

/-- The stages after both waits. -/
def Stage.AfterPreparation : Stage → Prop
  | .recheck | .begin | .authoring | .build | .awaitAuthoring | .awaitPreparation => False
  | _ => True

/-- What a result is good for, unless the call was not admitted. -/
def Vouches (s : Session) (r : CleanupResult) : Prop :=
  .cleanup ∉ r.remaining → .authoring ∉ r.remaining →
    Stopped s ∧ (.preparation ∉ r.remaining → Settled s)

theorem Settled.built {s : Session} (h : Settled s) : s.preparer.bind Preparer.gate = none := by
  cases hp : s.preparer with
  | none => rfl
  | some p => exact (h.preparer p hp).gate

theorem Settled.vouches {s : Session} (h : Settled s) (r : CleanupResult) : Vouches s r :=
  fun _ _ => ⟨h.toStopped, fun _ => h⟩

/-- What is known of the threads is not lost in a step. -/
structure Steady (s t : Session) : Prop where
  sealed : s.sealed = true → t.sealed = true
  event : s.cleanupEvent = true → t.cleanupEvent = true
  stopped : Stopped s → Stopped t
  settled : Settled s → Settled t

variable {s t : Session}

theorem Steady.vouches (h : Steady s t) {r : CleanupResult} (hr : Vouches s r) :
    Vouches t r :=
  fun hcleanup hauthoring =>
    ⟨h.stopped (hr hcleanup hauthoring).1, fun hp => h.settled ((hr hcleanup hauthoring).2 hp)⟩

/-- What a call of `cleanup_session` has to know where it is. -/
structure Knows (s : Session) (stage : Stage) : Prop where
  begun : stage.Begun → s.sealed = true ∧ s.cleanupEvent = true
  stopped : stage.AfterAuthoring → Stopped s
  settled : stage.AfterPreparation → Settled s

theorem Steady.knows (h : Steady s t) {stage : Stage} (hs : Knows s stage) :
    Knows t stage where
  begun hstage := ⟨h.sealed (hs.begun hstage).1, h.event (hs.begun hstage).2⟩
  stopped hstage := h.stopped (hs.stopped hstage)
  settled hstage := h.settled (hs.settled hstage)

structure Guarded (s : Session) : Prop where
  authored : s.authoring.Kept (s.author.bind Author.gate)
  built : s.building.Kept (s.preparer.bind Preparer.gate)
  attempt : ∀ stage a, s.attempt = some (stage, a) → Knows s stage
  closed : s.closed = true → Settled s
  cached : s.cleanupResult ≠ none → Settled s
  results : ∀ r ∈ s.returned, Vouches s r

/-- Where a step leaves the calls of `cleanup_session` alone. -/
structure Aside (s t : Session) : Prop where
  attempt : t.attempt = s.attempt
  closed : t.closed = s.closed
  cleanupResult : t.cleanupResult = s.cleanupResult
  returned : t.returned = s.returned

theorem Guarded.aside (hs : Guarded s) (haside : Aside s t) (hsteady : Steady s t)
    (hauthored : t.authoring.Kept (t.author.bind Author.gate))
    (hbuilt : t.building.Kept (t.preparer.bind Preparer.gate)) : Guarded t where
  authored := hauthored
  built := hbuilt
  attempt stage a h := hsteady.knows (hs.attempt stage a (haside.attempt.symm.trans h))
  closed hclosed := hsteady.settled (hs.closed (haside.closed.symm.trans hclosed))
  cached hcached := hsteady.settled (hs.cached (haside.cleanupResult ▸ hcached))
  results r hr := hsteady.vouches (hs.results r (haside.returned ▸ hr))

/-- A step that leaves all this alone. -/
structure Same (s t : Session) : Prop extends Aside s t where
  authoring : t.authoring = s.authoring
  building : t.building = s.building
  author : t.author = s.author
  preparer : t.preparer = s.preparer
  sealed : t.sealed = s.sealed
  event : t.cleanupEvent = s.cleanupEvent

theorem Same.steady (h : Same s t) : Steady s t where
  sealed hsealed := h.sealed.trans hsealed
  event hevent := h.event.trans hevent
  stopped hs := ⟨h.sealed.trans hs.sealed, h.author.trans hs.author⟩
  settled hs := ⟨⟨h.sealed.trans hs.sealed, h.author.trans hs.author⟩, h.event.trans hs.event,
    h.preparer ▸ hs.preparer⟩

theorem Same.guarded (h : Same s t) (hs : Guarded s) : Guarded t :=
  hs.aside h.toAside h.steady (by rw [h.authoring, h.author]; exact hs.authored)
    (by rw [h.building, h.preparer]; exact hs.built)

theorem Frame.same (h : Frame s t) : Same s t := by
  obtain ⟨_, _, _, _, _, _, rfl⟩ := h
  exact ⟨⟨rfl, rfl, rfl, rfl⟩, rfl, rfl, rfl, rfl, rfl, rfl⟩

theorem addProcess_same (s : Session) : Same s s.addProcess := by
  unfold Session.addProcess
  split <;> exact ⟨⟨rfl, rfl, rfl, rfl⟩, rfl, rfl, rfl, rfl, rfl, rfl⟩

theorem addResource_same (s : Session) : Same s s.addResource := by
  unfold Session.addResource
  split <;> exact ⟨⟨rfl, rfl, rfl, rfl⟩, rfl, rfl, rfl, rfl, rfl, rfl⟩

/-- No sandbox is closed once more after that has failed, and a thread that has
    made a sandbox does not fail to close it. -/
def Unfailed (s : Session) : Label → Prop
  | .stage _ =>
    match s.attempt with
    | some (.authoring, a) => ∀ i ∈ a.authoring, s.authoring.Unfailed i
    | some (.build, a) => ∀ i ∈ a.build, s.building.Unfailed i
    | _ => True
  | .author x =>
    match s.author, x with
    | some .constructing, .unmade _ input => input.Obliging
    | some (.closing i), .close input => s.authoring.Unfailed i ∧ input.Obliging
    | _, _ => True
  | .prepare x =>
    match s.preparer, x with
    | some (.stopClose _ i), .close _ => s.authoring.Unfailed i
    | some (.working _), .unmade _ input => input.Obliging
    | some (.cancelled i), .close input | some (.closing i), .close input =>
      s.building.Unfailed i ∧ input.Obliging
    | _, _ => True
  | _ => True

instance (s : Session) (label : Label) : Decidable (Unfailed s label) := by
  cases label <;> simp only [Unfailed] <;> (try infer_instance) <;> split <;> infer_instance

/-- What a step of `submit_source` or `prepare` does to the sandboxes for
    builds. -/
inductive BuildMove (y : Sandboxes) : Preparer → ThreadInput → Sandboxes → Option Preparer → Prop
  | keep {p q x} (hgate : q.gate = p.gate) (hregistered : q.Registered ↔ p.Registered) :
      BuildMove y p x y (some q)
  | add (n : Nat) :
      BuildMove y (.working .prepare) (.made n) (y.add (.fresh n [])) (some (.made y.gates.length))
  | fail (n : Nat) (input : CloseInput) :
      BuildMove y (.working .prepare) (.unmade n input) (y.add ((Gate.fresh n []).close input).1)
        (some .ending)
  | register (i : Nat) {x} :
      BuildMove y (.made i) x { y with active := some i } (some (.registered i))
  | start {z} (i : Nat) {x} (h : y.start i = some z) :
      BuildMove y (.registered i) x z (some (.streaming i))
  | close {p q} (i : Nat) (input : CloseInput) (hp : p = .cancelled i ∨ p = .closing i)
      (hq : q.gate = none) (hfree : ¬ q.Registered) :
      BuildMove y p (.close input) (y.close i input).1 (some q)
  | clear {x} : BuildMove y .clearing x { y with active := none } (some .finishing)
  | leave {x} : BuildMove y .ending x y none

/-- What else such a step does. -/
structure Turn (s : Session) (p : Preparer) (x : ThreadInput) (t : Session) : Prop
    extends Aside s t where
  author : t.author = s.author
  authoring : t.authoring = s.authoring ∨
    ∃ i input, t.authoring = (s.authoring.close i input).1
  sealed : s.sealed = true → t.sealed = true
  event : t.cleanupEvent = s.cleanupEvent
  harmless : p.Harmless → s.cleanupEvent = true → ∀ q ∈ t.preparer, q.Harmless
  build : BuildMove s.building p x t.building t.preparer

section Threads

variable {s t : Session} {x : ThreadInput}

/-- While an authoring command runs, nothing is vouched for. -/
theorem steady_of_author {p : Author} (hp : s.author = some p) (hsealed : t.sealed = s.sealed)
    (hevent : t.cleanupEvent = s.cleanupEvent) : Steady s t where
  sealed h := hsealed.trans h
  event h := hevent.trans h
  stopped h := by cases hp.symm.trans h.author
  settled h := by cases hp.symm.trans h.author

/-- A step of `authoring_exec` that concerns only its sandboxes. -/
theorem Guarded.authored_next {p : Author} {y : Sandboxes} {q : Option Author} (hs : Guarded s)
    (hp : s.author = some p) (hkept : y.Kept (q.bind Author.gate)) :
    Guarded { s with authoring := y, author := q } :=
  hs.aside ⟨rfl, rfl, rfl, rfl⟩ (steady_of_author hp rfl rfl) hkept hs.built

/-- What `authoring_exec` does. -/
theorem Guarded.author {p : Author} (hs : Guarded s) (hp : s.author = some p)
    (hC : Unfailed s (.author x)) (h : s.authorStep p x = some t) : Guarded t := by
  have hauthored := hs.authored
  rw [hp] at hauthored
  simp only [Unfailed, hp] at hC
  unfold Session.authorStep at h
  split at h
  · cases h
    exact hs.authored_next hp (Sandboxes.Kept.add_fresh hauthored _)
  · cases h
    exact hs.authored_next hp (Sandboxes.Kept.add_closed hauthored _ hC)
  · cases h
    exact hs.authored_next hp hauthored
  · split at h
    · cases h
      exact hs.authored_next hp hauthored
    · cases h
      exact hs.authored_next hp (hauthored.of_gates rfl)
  · split at h
    · cases h
      exact hs.authored_next hp hauthored
    · next y hy =>
      cases h
      have hsame := addProcess_same s
      exact (hsame.guarded hs).authored_next (hsame.author.trans hp)
        (Sandboxes.Kept.start hauthored hy)
  · cases h
    exact hs.authored_next hp hauthored
  · split at h
    all_goals
      cases h
      exact hs.authored_next hp hauthored
  · split at h
    · cases h
      exact hs.authored_next hp hauthored
    · cases h
  · cases h
    exact hs.authored_next hp hauthored
  · cases h
    exact hs.authored_next hp (Sandboxes.Kept.close_current hauthored hC.1 hC.2)
  · cases h
    exact hs.authored_next hp (hauthored.of_gates rfl)
  · cases h

theorem forall_mem_some {α : Type} {P : α → Prop} {a : α} (h : P a) : ∀ b ∈ some a, P b :=
  fun _ hb => some.inj hb ▸ h

/-- A thread that only moves on. -/
theorem turn_keep {p q : Preparer} (hgate : q.gate = p.gate)
    (hregistered : q.Registered ↔ p.Registered) (hharmless : p.Harmless → q.Harmless) :
    Turn s p x { s with preparer := some q } :=
  ⟨⟨rfl, rfl, rfl, rfl⟩, rfl, .inl rfl, id, rfl, fun h _ => forall_mem_some (hharmless h),
    .keep hgate hregistered⟩

variable {p : Preparer}

/-- A step of `prepare` that concerns only its sandboxes. -/
theorem turn_build {y : Sandboxes} {q : Preparer} (hp : ¬ p.Harmless)
    (h : BuildMove s.building p x y (some q)) :
    Turn s p x { s with building := y, preparer := some q } :=
  ⟨⟨rfl, rfl, rfl, rfl⟩, rfl, .inl rfl, id, rfl, fun hharmless => absurd hharmless hp, h⟩

/-- `_stop_authoring`. -/
theorem turn_of_stopStep (h : s.stopStep p x = some t) : Turn s p x t := by
  unfold Session.stopStep at h
  split at h
  · cases h
    exact ⟨⟨rfl, rfl, rfl, rfl⟩, rfl, .inl rfl, fun _ => rfl, rfl,
      fun _ _ => forall_mem_some trivial, .keep rfl .rfl⟩
  · cases h
    exact turn_keep rfl .rfl id
  · cases h
    exact turn_keep rfl .rfl id
  · cases h
    exact turn_keep rfl .rfl id
  · cases h
    refine ⟨⟨rfl, rfl, rfl, rfl⟩, rfl, .inr ⟨_, _, rfl⟩, id, rfl,
      fun _ _ => forall_mem_some ?_, ?_⟩
    · split <;> trivial
    · dsimp only
      split <;> exact .keep rfl .rfl
  · split at h
    · cases h
      exact turn_keep rfl .rfl id
    · cases h
  · cases h
    exact turn_keep rfl .rfl id
  · cases h
    refine ⟨⟨rfl, rfl, rfl, rfl⟩, rfl, .inl rfl, id, rfl,
      fun _ hevent => forall_mem_some ?_, ?_⟩
    · rw [if_pos hevent]
      trivial
    · dsimp only
      split <;> exact .keep rfl .rfl
  · cases h
    exact turn_keep rfl .rfl id
  · cases h

/-- `submit_source` and `prepare`. -/
theorem turn_of_prepareStep (hp : s.preparer = some p)
    (h : s.prepareStep p x = some t) : Turn s p x t := by
  have hresource := addResource_same s
  have hprocess := addProcess_same s
  unfold Session.prepareStep at h
  split at h
  · cases h
    exact turn_keep rfl .rfl nofun
  · split at h
    · cases h
      exact turn_keep rfl .rfl nofun
    · cases h
      exact ⟨⟨rfl, rfl, rfl, rfl⟩, rfl, .inl rfl, id, rfl, nofun, .keep rfl .rfl⟩
  · split at h
    · cases h
      exact turn_keep rfl .rfl nofun
    · split at h
      · cases h
        exact ⟨⟨rfl, rfl, rfl, rfl⟩, rfl, .inl rfl, id, rfl, nofun, hp ▸ .keep rfl .rfl⟩
      · cases h
  · cases h
    exact ⟨⟨hresource.attempt, hresource.closed, hresource.cleanupResult, hresource.returned⟩,
      hresource.author, .inl hresource.authoring, (hresource.sealed.trans ·), hresource.event,
      nofun, .add _⟩
  · cases h
    exact ⟨⟨hresource.attempt, hresource.closed, hresource.cleanupResult, hresource.returned⟩,
      hresource.author, .inl hresource.authoring, (hresource.sealed.trans ·), hresource.event,
      nofun, .fail _ _⟩
  · cases h
    exact turn_keep rfl .rfl nofun
  · split at h
    · cases h
      exact turn_keep rfl .rfl nofun
    · cases h
      exact turn_build nofun (.register _)
  · cases h
    exact turn_build nofun (.close _ _ (.inl rfl) rfl nofun)
  · split at h
    · cases h
      exact turn_keep rfl .rfl nofun
    · next hy =>
      cases h
      exact ⟨⟨hprocess.attempt, hprocess.closed, hprocess.cleanupResult, hprocess.returned⟩,
        hprocess.author, .inl hprocess.authoring, (hprocess.sealed.trans ·), hprocess.event,
        nofun, .start _ hy⟩
  · cases h
    exact turn_keep rfl .rfl nofun
  · split at h
    · cases h
      exact turn_keep rfl .rfl nofun
    · cases h
  · cases h
    exact turn_keep rfl .rfl nofun
  · cases h
    refine turn_build nofun ?_
    split <;> exact .close _ _ (.inr rfl) rfl nofun
  · cases h
    exact turn_build nofun .clear
  · split at h
    · cases h
      exact turn_keep rfl .rfl nofun
    · cases h
      exact ⟨⟨rfl, rfl, rfl, rfl⟩, rfl, .inl rfl, id, rfl, nofun, hp ▸ .keep rfl .rfl⟩
  · split at h
    · cases h
      exact turn_keep rfl .rfl nofun
    · cases h
      exact ⟨⟨rfl, rfl, rfl, rfl⟩, rfl, .inl rfl, id, rfl, nofun, .keep rfl .rfl⟩
  · cases h
    exact turn_keep rfl .rfl nofun
  · cases h
    exact ⟨⟨rfl, rfl, rfl, rfl⟩, rfl, .inl rfl, id, rfl, fun _ _ => nofun, .leave⟩
  · exact turn_of_stopStep h

theorem Turn.steady (h : Turn s p x t) (hp : s.preparer = some p) : Steady s t where
  sealed := h.sealed
  event hevent := h.event.trans hevent
  stopped hs := ⟨h.sealed hs.sealed, h.author.trans hs.author⟩
  settled hs := ⟨⟨h.sealed hs.sealed, h.author.trans hs.author⟩, h.event.trans hs.event,
    h.harmless (hs.preparer p hp) hs.event⟩

/-- What the steps for builds keep. -/
theorem BuildMove.kept {y z : Sandboxes} {q : Option Preparer}
    (h : BuildMove y p x z q) (hy : y.Kept p.gate)
    (hclose : ∀ i input, p = .cancelled i ∨ p = .closing i → x = .close input →
      y.Unfailed i ∧ input.Obliging)
    (hfail : ∀ n input, p = .working .prepare → x = .unmade n input → input.Obliging) :
    z.Kept (q.bind Preparer.gate) := by
  cases h with
  | keep hgate =>
    rw [bind_some, hgate]
    exact hy
  | add n => exact hy.add_fresh n
  | fail n input => exact hy.add_closed n (hfail n input rfl rfl)
  | register => exact hy.of_gates rfl
  | start i h => exact hy.start h
  | close i input hp hq =>
    obtain ⟨hunfailed, hobliging⟩ := hclose i input hp rfl
    have hkept := Sandboxes.Kept.close_current (i := i) (y := y) (x := input)
      (by rcases hp with rfl | rfl <;> exact hy) hunfailed hobliging
    rw [bind_some, hq]
    exact hkept
  | clear => exact hy.of_gates rfl
  | leave => exact hy

theorem Guarded.prepare (hs : Guarded s) (hp : s.preparer = some p)
    (hC : Unfailed s (.prepare x)) (h : s.prepareStep p x = some t) : Guarded t := by
  have hturn := turn_of_prepareStep hp h
  have hbuilt := hs.built
  rw [hp] at hbuilt
  refine hs.aside hturn.toAside (hturn.steady hp) ?_ (hturn.build.kept hbuilt ?_ ?_)
  · rw [hturn.author]
    rcases hturn.authoring with hsame | ⟨i, input, hclose⟩
    · rw [hsame]
      exact hs.authored
    · rw [hclose]
      exact hs.authored.close i input
  · rintro i input (rfl | rfl) rfl <;> simpa only [Unfailed, hp] using hC
  · rintro n input rfl rfl
    simpa only [Unfailed, hp] using hC

end Threads

/-! ### The cleanup -/

section Cleanup

variable {s t : Session} {a : Attempt} {x : StageInput} {stage : Stage}

/-- The threads are where they were. -/
theorem steady_of_eq (hsealed : s.sealed = true → t.sealed = true)
    (hevent : s.cleanupEvent = true → t.cleanupEvent = true) (hauthor : t.author = s.author)
    (hpreparer : t.preparer = s.preparer) : Steady s t where
  sealed := hsealed
  event := hevent
  stopped h := ⟨hsealed h.sealed, hauthor.trans h.author⟩
  settled h := ⟨⟨hsealed h.sealed, hauthor.trans h.author⟩, hevent h.event,
    hpreparer ▸ h.preparer⟩

/-- The call that holds the lock goes on. -/
theorem Guarded.next (hs : Guarded s) (hstage : Knows s stage) :
    Guarded { s with attempt := some (stage, a) } := by
  have hsteady : Steady s { s with attempt := some (stage, a) } := steady_of_eq id id rfl rfl
  refine ⟨hs.authored, hs.built, fun _ _ h => ?_, fun h => hsteady.settled (hs.closed h),
    fun h => hsteady.settled (hs.cached h), fun r hr => hsteady.vouches (hs.results r hr)⟩
  cases h
  exact hsteady.knows hstage

/-- The call that holds the lock raises. -/
theorem Guarded.raises (hs : Guarded s) : Guarded { s with attempt := none } := by
  have hsteady : Steady s { s with attempt := none } := steady_of_eq id id rfl rfl
  exact ⟨hs.authored, hs.built, nofun, fun h => hsteady.settled (hs.closed h),
    fun h => hsteady.settled (hs.cached h), fun r hr => hsteady.vouches (hs.results r hr)⟩

/-- Another result is returned. -/
theorem Guarded.result {r : CleanupResult} (hs : Guarded s) (hr : Vouches s r) :
    Guarded { s with returned := s.returned ++ [r] } := by
  have hsteady : Steady s { s with returned := s.returned ++ [r] } := steady_of_eq id id rfl rfl
  refine ⟨hs.authored, hs.built, fun stage a h => hsteady.knows (hs.attempt stage a h),
    fun h => hsteady.settled (hs.closed h), fun h => hsteady.settled (hs.cached h), fun q hq => ?_⟩
  rcases List.mem_append.mp hq with hq | hq
  · exact hsteady.vouches (hs.results q hq)
  · exact hsteady.vouches (List.mem_singleton.mp hq ▸ hr)

theorem Guarded.returns {r : CleanupResult} (hs : Guarded s) (hr : Vouches s r) :
    Guarded { s with attempt := none, returned := s.returned ++ [r] } :=
  (hs.result hr).raises

theorem mem_incomplete (a : Attempt) (resource : Resource) (failure : String) :
    resource ∈ (a.incomplete resource failure).remaining := by
  simp [Attempt.incomplete, Attempt.note, CleanupResult.incomplete, List.mem_eraseDups]

/-- A stage after both waits. -/
theorem Guarded.late {u : Session} {progress : Progress} (hs : Guarded s) (hlate : stage.Late)
    (hsettled : Settled s) (h : s.advance a x stage = some (u, progress)) :
    Guarded (u.follow progress) := by
  obtain ⟨hframe, hahead⟩ := advance_late hlate h
  have hsame := hframe.same
  have hu := hsame.guarded hs
  have hsettled := hsame.steady.settled hsettled
  cases progress with
  | next stage a => exact hu.next ⟨fun _ => ⟨hsettled.sealed, hsettled.event⟩,
      fun _ => hsettled.toStopped, fun _ => hsettled⟩
  | returns result => exact hu.returns (hsettled.vouches _)
  | raises message => exact hu.raises

/-- The result is published. -/
theorem Guarded.publish (hs : Guarded s) (hsettled : Settled s) :
    Guarded { s.published a with attempt := some (.pop a.result, a) } := by
  have hsteady : Steady s { s.published a with attempt := some (.pop a.result, a) } :=
    steady_of_eq id id rfl rfl
  have hpublished := hsteady.settled hsettled
  refine ⟨hs.authored.of_gates rfl, hs.built.of_gates rfl, fun stage b h => ?_,
    fun _ => hpublished, fun _ => hpublished, fun r hr => hsteady.vouches (hs.results r hr)⟩
  exact ⟨fun _ => ⟨hpublished.sealed, hpublished.event⟩, fun _ => hpublished.toStopped,
    fun _ => hpublished⟩

/-- What the call that holds the lock does. -/
theorem Guarded.stageStep (hs : Guarded s) (hattempt : s.attempt = some (stage, a))
    (hstep : s.stageStep stage a x = some t) : Guarded t := by
  have hknows := hs.attempt stage a hattempt
  obtain ⟨u, progress, h, rfl⟩ := Session.stageStep_eq_some hstep
  have hlate (hstage : stage.Late) (hafter : stage.AfterPreparation) :
      Guarded (u.follow progress) := hs.late hstage (hknows.settled hafter) h
  cases stage with
  | worker | cgroup | processes | leases | view | intents | directory =>
    exact hlate trivial trivial
  | recheck =>
    simp only [Session.advance] at h
    split at h
    · next hcached =>
      cases h
      exact hs.returns ((hs.cached (by simp [hcached])).vouches _)
    · cases h
      exact hs.next ⟨False.elim, False.elim, False.elim⟩
  | begin =>
    simp only [Session.advance] at h
    split at h
    · next hclosed =>
      cases h
      exact hs.returns ((hs.closed hclosed).vouches _)
    · cases h
      have hsteady : Steady s { s with closing := true, sealed := true, cleanupEvent := true } :=
        steady_of_eq (fun _ => rfl) (fun _ => rfl) rfl rfl
      have hbegun : Guarded { s with closing := true, sealed := true, cleanupEvent := true } :=
        hs.aside ⟨rfl, rfl, rfl, rfl⟩ hsteady hs.authored hs.built
      exact hbegun.next ⟨fun _ => ⟨rfl, rfl⟩, False.elim, False.elim⟩
  | authoring =>
    simp only [Session.advance] at h
    split at h
    · cases h
      exact hs.raises
    · cases h
      exact hs.next ⟨fun _ => hknows.begun trivial, False.elim, False.elim⟩
    · next i _ _ =>
      cases h
      have hclosed : Guarded { s with authoring := (s.authoring.close i x.gate).1 } :=
        hs.aside ⟨rfl, rfl, rfl, rfl⟩ (steady_of_eq id id rfl rfl)
          (hs.authored.close i x.gate) hs.built
      exact hclosed.next ⟨fun _ => hknows.begun trivial, False.elim, False.elim⟩
  | build =>
    simp only [Session.advance] at h
    split at h
    · cases h
      exact hs.next ⟨fun _ => hknows.begun trivial, False.elim, False.elim⟩
    · next i _ =>
      cases h
      have hclosed : Guarded { s with building := (s.building.close i x.gate).1 } :=
        hs.aside ⟨rfl, rfl, rfl, rfl⟩ (steady_of_eq id id rfl rfl) hs.authored
          (hs.built.close i x.gate)
      exact hclosed.next ⟨fun _ => hknows.begun trivial, False.elim, False.elim⟩
  | awaitAuthoring =>
    have hbegun := hknows.begun trivial
    simp only [Session.advance] at h
    split at h
    · next hauthor =>
      cases h
      exact hs.next ⟨fun _ => hbegun, fun _ => ⟨hbegun.1, hauthor⟩, False.elim⟩
    · split at h
      · cases h
        exact hs.returns fun _ hnot => absurd (mem_incomplete a .authoring _) hnot
      · cases h
  | awaitPreparation =>
    have hbegun := hknows.begun trivial
    have hstopped := hknows.stopped trivial
    simp only [Session.advance] at h
    split at h
    · next hpreparer =>
      cases h
      exact hs.next ⟨fun _ => hbegun, fun _ => hstopped,
        fun _ => ⟨hstopped, hbegun.2, by rw [hpreparer]; nofun⟩⟩
    · split at h
      · cases h
        refine hs.returns fun _ _ => ⟨hstopped, fun hnot => ?_⟩
        exact absurd (mem_incomplete a .preparation _) hnot
      · cases h
  | publish =>
    cases h
    exact hs.publish (hknows.settled trivial)
  | pop r =>
    cases h
    have hsteady : Steady s { s with popped := s.popped || r.complete } :=
      steady_of_eq id id rfl rfl
    have hpopped : Guarded { s with popped := s.popped || r.complete } :=
      hs.aside ⟨rfl, rfl, rfl, rfl⟩ hsteady hs.authored hs.built
    exact hpopped.returns (hsteady.vouches ((hknows.settled trivial).vouches r))

/-- The first section of `cleanup_session`. -/
theorem Guarded.call (hs : Guarded s) : Guarded s.call := by
  have hsteady {t : Session} (hsealed : t.sealed = s.sealed) (hevent : t.cleanupEvent = s.cleanupEvent)
      (hauthor : t.author = s.author) (hpreparer : t.preparer = s.preparer) : Steady s t :=
    steady_of_eq (hsealed.trans ·) (hevent.trans ·) hauthor hpreparer
  unfold Session.call
  dsimp only
  split
  · next hcached => exact hs.result ((hs.cached (by simp [hcached])).vouches _)
  · split
    · exact hs.aside ⟨rfl, rfl, rfl, rfl⟩ (hsteady rfl rfl rfl rfl) hs.authored hs.built
    · have hkept := hsteady (t := { s with
        cleanupResult := none
        cleanupDeadline := some (s.clock + s.teardownTimeout)
        waiting := s.waiting ++ [s.clock + s.teardownTimeout] }) rfl rfl rfl rfl
      exact ⟨hs.authored, hs.built, fun stage a h => hkept.knows (hs.attempt stage a h),
        fun h => hkept.settled (hs.closed h), fun h => absurd rfl h,
        fun r hr => hkept.vouches (hs.results r hr)⟩

/-- Something that concerns no sandbox and no thread. -/
theorem same_of_fields {workers : List Worker} {reservation : Option Nat} {clock : Nat}
    {deadline : Option Nat} : Same s { s with
      workers := workers, reservation := reservation, clock := clock
      cleanupDeadline := deadline } :=
  ⟨⟨rfl, rfl, rfl, rfl⟩, rfl, rfl, rfl, rfl, rfl, rfl⟩

/-- Processes of a sandbox end, or their end is noted. -/
theorem Guarded.modify {f : ProcessState → ProcessState} (hs : Guarded s) (build : Bool) (i : Nat)
    (hf : ∀ p, f p = .running → p = .running) : Guarded (s.modifyGate build i f) := by
  unfold Session.modifyGate
  split
  · exact hs.aside ⟨rfl, rfl, rfl, rfl⟩ (steady_of_eq id id rfl rfl) hs.authored
      (hs.built.modify i hf)
  · exact hs.aside ⟨rfl, rfl, rfl, rfl⟩ (steady_of_eq id id rfl rfl) (hs.authored.modify i hf)
      hs.built

/-- Whoever moves. -/
theorem Guarded.step {label : Label} (hs : Guarded s) (hC : Unfailed s label)
    (h : s.step label = some t) : Guarded t := by
  cases label with
  | call =>
    cases h
    exact hs.call
  | acquire i =>
    simp only [Session.step] at h
    split at h
    · cases h
      have hwaiting : Guarded { s with waiting := s.waiting.eraseIdx i } :=
        hs.aside ⟨rfl, rfl, rfl, rfl⟩ (steady_of_eq id id rfl rfl) hs.authored hs.built
      exact hwaiting.next ⟨False.elim, False.elim, False.elim⟩
    · cases h
  | giveUp i =>
    simp only [Session.step] at h
    split at h
    · split at h
      · cases h
        have hwaiting : Guarded { s with waiting := s.waiting.eraseIdx i } :=
          hs.aside ⟨rfl, rfl, rfl, rfl⟩ (steady_of_eq id id rfl rfl) hs.authored hs.built
        exact hwaiting.result fun hnot => absurd (List.mem_singleton.mpr rfl) hnot
      · cases h
    · cases h
  | stage x =>
    obtain ⟨⟨stage, a⟩, hattempt, h⟩ := bind_eq_some_iff.mp h
    exact hs.stageStep hattempt h
  | admitAuthoring =>
    simp only [Session.step] at h
    split at h
    · next hfree =>
      cases h
      -- Nobody has been told that authoring has stopped.
      have hopen (hstopped : Stopped s) : False := by
        cases hfree.2.1.symm.trans hstopped.sealed
      have hsteady : Steady s { s with author := some .constructing } :=
        ⟨id, id, fun h => (hopen h).elim, fun h => (hopen h.toStopped).elim⟩
      refine hs.aside ⟨rfl, rfl, rfl, rfl⟩ hsteady ?_ hs.built
      have hkept := hs.authored
      rw [hfree.1] at hkept
      exact hkept
    · cases h
  | author x =>
    obtain ⟨p, hp, h⟩ := bind_eq_some_iff.mp h
    exact hs.author hp hC h
  | admitPreparing role =>
    cases role with
    | submit =>
      simp only [Session.step, Session.admitPreparing] at h
      split at h
      · next hfree =>
        cases h
        refine hs.aside ⟨rfl, rfl, rfl, rfl⟩ ⟨fun _ => rfl, id, fun h => ⟨rfl, h.author⟩,
          fun h => ⟨⟨rfl, h.author⟩, h.event, forall_mem_some trivial⟩⟩ hs.authored ?_
        have hkept := hs.built
        rw [hfree.1] at hkept
        exact hkept
      · cases h
    | prepare =>
      simp only [Session.step, Session.admitPreparing] at h
      split at h
      · next hfree =>
        cases h
        refine hs.aside ⟨rfl, rfl, rfl, rfl⟩ ⟨fun _ => rfl, id, fun h => ⟨rfl, h.author⟩,
          fun h => ⟨⟨rfl, h.author⟩, h.event, forall_mem_some trivial⟩⟩ hs.authored ?_
        have hkept := hs.built
        rw [hfree.1] at hkept
        exact hkept
      · cases h
  | prepare x =>
    obtain ⟨p, hp, h⟩ := bind_eq_some_iff.mp h
    exact hs.prepare hp hC h
  | reserve =>
    simp only [Session.step] at h
    split at h
    · cases h
      exact same_of_fields.guarded ((addResource_same s).guarded hs)
    · cases h
  | armRelease =>
    simp only [Session.step] at h
    split at h
    · cases h
    · cases h
      exact same_of_fields.guarded hs
  | finishRelease input answers =>
    obtain ⟨i, _, rfl⟩ := map_eq_some_iff.mp h
    exact (moves_cleanupWorker i input ⟨s, answers⟩).same.guarded hs
  | exits build i =>
    cases h
    exact hs.modify build i ProcessState.exit_eq_running
  | notes build i =>
    cases h
    exact hs.modify build i ProcessState.note_eq_running
  | terminal id answers =>
    cases h
    have hmoves : Prog.Moves Framed (dropped (beginCleanup (.process id) >>= fun _ =>
        finishCleanup (.process id) true)) :=
      moves_dropped (Prog.moves_bind (moves_commit _ _) fun _ => moves_commit _ _)
    exact (hmoves ⟨s, answers⟩).same.guarded hs
  | expire =>
    cases h
    exact hs.aside ⟨rfl, rfl, rfl, rfl⟩ (steady_of_eq id (fun _ => rfl) rfl rfl) hs.authored
      hs.built
  | tick time =>
    cases h
    exact same_of_fields.guarded hs

theorem guarded_of_opened (hs : s.Opened) : Guarded s := by
  obtain ⟨hauthoring, hbuilding⟩ := hs.sandboxes
  obtain ⟨hauthor, hpreparer, hattempt⟩ := hs.threads
  refine ⟨?_, ?_, ?_, ?_, ?_, ?_⟩
  · rw [hauthoring]
    exact fun i g hg => by cases hg
  · rw [hbuilding]
    exact fun i g hg => by cases hg
  · rw [hattempt]
    exact nofun
  · rw [hs.flags.2.2.1]
    exact nofun
  · exact fun hne => absurd hs.cleanup.2 hne
  · rw [hs.calls.2]
    exact fun r hr => absurd hr List.not_mem_nil

end Cleanup

end MirrorGate.Backend
