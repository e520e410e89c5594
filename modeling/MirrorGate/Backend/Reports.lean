import MirrorGate.Backend.Sandboxes

/-!
# What a Cleanup Reports of the Sandboxes

A cleanup names `authoring` or `build` when closing the sandbox of that kind
has failed or its thread has not ended in time. This module is about later
calls that no longer name it.

A build sandbox that was named stays registered, and its thread is still
going to close it. Whoever closes it again is told that all is done. As long
as nobody does, no later call gets past it.

## Main definitions

* `Blocked`: A build sandbox was closed without being released.
* `Placed`: Where the build sandboxes are known.
* `Reported`: What the results say of them.
* `Elsewhere`: What has to do with neither the calls nor the builds.
* `GateLabel`, `stepGate`: A sandbox by itself.
* `Truthful`: What the results of a session are to mean.

## Theorems

* `Placed.step`, `Reported.step`: Every step keeps them.
* `truthful_close`: When a call of `close`, and then a cleanup, is to be believed.
* `forgetful_close`: A cleanup that forgets a running process.
-/

namespace MirrorGate.Backend

open List Option

/-! ### Build sandboxes that were closed in vain -/

/-- A build sandbox was closed without being released. It is registered, and
    its thread is going to close it. -/
def Blocked (s : Session) : Prop :=
  ∃ i g, s.building.gates[i]? = some g ∧ g.closed = true ∧ g.directory = true ∧
    s.building.active = some i ∧ s.preparer.bind Preparer.gate = some i

theorem Blocked.not_settled {s : Session} (h : Blocked s) : ¬ Settled s := by
  intro hsettled
  obtain ⟨i, _, _, _, _, _, hgate⟩ := h
  cases hsettled.built.symm.trans hgate

/-- The stages in which no build sandbox has been closed yet. -/
def Stage.Early : Stage → Prop
  | .recheck | .begin | .authoring | .build => True
  | _ => False

/-- Where the build sandboxes are known. -/
structure Placed (s : Session) : Prop where
  active : ∀ i, s.building.active = some i → i < s.building.gates.length
  noted : ∀ stage a i, s.attempt = some (stage, a) → a.build = some i →
    i < s.building.gates.length
  current : ∀ p i, s.preparer = some p → p.gate = some i → i < s.building.gates.length
  made : ∀ p i, s.preparer = some p → p.gate = some i → ¬ p.Registered →
    s.building.active ≠ some i ∧ ∀ stage a, s.attempt = some (stage, a) → a.build ≠ some i
  registered : ∀ p, s.preparer = some p → p.Registered → s.building.active = p.gate

/-- What the results say of the build sandboxes. -/
structure Reported (s : Session) : Prop where
  attempt : ∀ stage a, s.attempt = some (stage, a) → .build ∈ a.remaining →
    Blocked s ∧ ¬ stage.Early
  pop : ∀ r a, s.attempt = some (.pop r, a) → r = a.result
  cached : ∀ r, s.cleanupResult = some r → .build ∉ r.remaining
  returned : ∀ e ∈ s.returned, .build ∈ e.remaining → Blocked s ∧
    ∀ stage a, s.attempt = some (stage, a) →
      stage.Early ∧ (stage.Begun → a.build = s.building.active)
  order : ∀ e l, [e, l].Sublist s.returned → .build ∈ e.remaining → .cleanup ∈ l.remaining

variable {a : Attempt}

section Moves

variable {s t : Session} {x : ThreadInput}

/-! ### Where the build sandboxes are known -/

/-- A step that leaves the build sandboxes and the calls alone. -/
theorem Placed.aside (hs : Placed s) (hattempt : t.attempt = s.attempt)
    (hactive : t.building.active = s.building.active)
    (hlength : s.building.gates.length ≤ t.building.gates.length)
    (hpreparer : t.preparer = s.preparer) : Placed t where
  active i h := (hs.active i (hactive.symm.trans h)).trans_le hlength
  noted stage a i h hi := (hs.noted stage a i (hattempt.symm.trans h) hi).trans_le hlength
  current p i hp hgate := (hs.current p i (hpreparer.symm.trans hp) hgate).trans_le hlength
  made p i hp hgate hfree := by
    rw [hactive, hattempt]
    exact hs.made p i (hpreparer.symm.trans hp) hgate hfree
  registered p hp hregistered :=
    hactive.trans (hs.registered p (hpreparer.symm.trans hp) hregistered)

theorem Sandboxes.length_close (y : Sandboxes) (i : Nat) (x : CloseInput) :
    (y.close i x).1.gates.length = y.gates.length ∧ (y.close i x).1.active = y.active := by
  unfold Sandboxes.close
  split
  · exact ⟨rfl, rfl⟩
  · exact ⟨length_set, rfl⟩

theorem Sandboxes.length_start {y z : Sandboxes} {i : Nat} (h : y.start i = some z) :
    z.gates.length = y.gates.length ∧ z.active = y.active := by
  obtain ⟨g, _, rfl⟩ := map_eq_some_iff.mp h
  exact ⟨length_set, rfl⟩

/-- What one step of the thread that builds has to show. -/
theorem Placed.turn (hs : Placed s) (hattempt : t.attempt = s.attempt)
    (hlength : s.building.gates.length ≤ t.building.gates.length)
    (hactive : ∀ i, t.building.active = some i → i < t.building.gates.length)
    (hcurrent : ∀ q i, t.preparer = some q → q.gate = some i → i < t.building.gates.length ∧
      (¬ q.Registered → t.building.active ≠ some i ∧
        ∀ stage a, s.attempt = some (stage, a) → a.build ≠ some i))
    (hregistered : ∀ q, t.preparer = some q → q.Registered → t.building.active = q.gate) :
    Placed t where
  active := hactive
  noted stage a i h hi := (hs.noted stage a i (hattempt.symm.trans h) hi).trans_le hlength
  current q i hq hgate := (hcurrent q i hq hgate).1
  made q i hq hgate hfree := by
    rw [hattempt]
    exact (hcurrent q i hq hgate).2 hfree
  registered := hregistered

/-- A thread without a sandbox. -/
theorem Placed.turn_free {q : Option Preparer} (hs : Placed s) (hattempt : t.attempt = s.attempt)
    (hlength : s.building.gates.length ≤ t.building.gates.length)
    (hactive : ∀ i, t.building.active = some i → s.building.active = some i)
    (hq : t.preparer = q) (hgate : ∀ p ∈ q, p.gate = none ∧ ¬ p.Registered) : Placed t := by
  refine hs.turn hattempt hlength (fun i hi => (hs.active i (hactive i hi)).trans_le hlength)
    (fun p i hp hi => ?_) fun p hp hreg => ?_
  · cases (hgate p (hq.symm.trans hp)).1.symm.trans hi
  · exact absurd hreg (hgate p (hq.symm.trans hp)).2

/-- The thread that makes sandboxes for builds goes on. -/
theorem Placed.prepare {p : Preparer} (hs : Placed s) (hp : s.preparer = some p)
    (h : Turn s p x t) : Placed t := by
  have hattempt := h.attempt
  have hbuild := h.build
  generalize hz : t.building = z at hbuild
  generalize hq : t.preparer = q at hbuild
  cases hbuild with
  | keep hgate hregistered =>
    refine hs.turn hattempt (by rw [hz]) (by rw [hz]; exact hs.active) (fun q i hq' hi => ?_)
      fun q hq' hreg => ?_
    · cases hq.symm.trans hq'
      rw [hz]
      exact ⟨hs.current p i hp (hgate.symm.trans hi), fun hfree =>
        hs.made p i hp (hgate.symm.trans hi) fun h => hfree (hregistered.mpr h)⟩
    · cases hq.symm.trans hq'
      rw [hz]
      exact (hs.registered p hp (hregistered.mp hreg)).trans hgate.symm
  | add n =>
    have hlength : t.building.gates.length = s.building.gates.length + 1 := by
      rw [hz]
      exact length_append
    have hactive : t.building.active = s.building.active := by rw [hz]; rfl
    refine hs.turn hattempt (by omega) (fun i hi => ?_) (fun q i hq' hi => ?_)
      fun q hq' hreg => ?_
    · have := hs.active i (hactive.symm.trans hi)
      omega
    · -- Nobody knows the number of the new sandbox.
      cases hq.symm.trans hq'
      cases hi
      refine ⟨by omega, fun _ => ⟨fun hi => ?_, fun stage a ha hi => ?_⟩⟩
      · exact absurd (hs.active _ (hactive.symm.trans hi)) (Nat.lt_irrefl _)
      · exact absurd (hs.noted stage a _ ha hi) (Nat.lt_irrefl _)
    · cases hq.symm.trans hq'
      cases hreg
  | fail n input =>
    refine hs.turn_free hattempt ?_ (fun i hi => ?_) hq (forall_mem_some ⟨rfl, id⟩)
    · rw [hz]
      exact length_append ▸ Nat.le_add_right _ _
    · rw [hz] at hi
      exact hi
  | register i =>
    have hcurrent := hs.current _ i hp rfl
    refine hs.turn hattempt (by rw [hz]) (fun j hj => ?_) (fun q j hq' hj => ?_) fun q hq' _ => ?_
    · rw [hz] at hj ⊢
      cases hj
      exact hcurrent
    · cases hq.symm.trans hq'
      cases hj
      rw [hz]
      exact ⟨hcurrent, fun hfree => absurd trivial hfree⟩
    · cases hq.symm.trans hq'
      rw [hz]
      rfl
  | start i hstart =>
    obtain ⟨hlength, hactive⟩ := Sandboxes.length_start hstart
    have hcurrent := hs.current _ i hp rfl
    have hknown := hs.registered _ hp trivial
    refine hs.turn hattempt (by rw [hz, hlength]) (fun j hj => ?_) (fun q j hq' hj => ?_)
      fun q hq' _ => ?_
    · rw [hz, hactive] at hj
      rw [hz, hlength]
      exact hs.active j hj
    · cases hq.symm.trans hq'
      cases hj
      rw [hz, hlength]
      exact ⟨hcurrent, fun hfree => absurd trivial hfree⟩
    · cases hq.symm.trans hq'
      rw [hz, hactive]
      exact hknown
  | close i input _ hgate hfree =>
    obtain ⟨hlength, hactive⟩ := s.building.length_close i input
    refine hs.turn_free hattempt (by rw [hz, hlength]) (fun j hj => ?_) hq
      (forall_mem_some ⟨hgate, hfree⟩)
    rw [hz, hactive] at hj
    exact hj
  | clear =>
    refine hs.turn_free hattempt (by rw [hz]) (fun j hj => ?_) hq (forall_mem_some ⟨rfl, id⟩)
    rw [hz] at hj
    cases hj
  | leave =>
    exact hs.turn_free hattempt (by rw [hz]) (by rw [hz]; exact fun _ => id) hq nofun

/-- The call that holds the lock goes on. -/
theorem Placed.next {stage : Stage} (hs : Placed s)
    (ha : ∀ i, a.build = some i → i < s.building.gates.length)
    (hmade : ∀ p i, s.preparer = some p → p.gate = some i → ¬ p.Registered → a.build ≠ some i) :
    Placed { s with attempt := some (stage, a) } where
  active := hs.active
  noted _ _ i h hi := by
    cases h
    exact ha i hi
  current := hs.current
  made p i hp hgate hfree := by
    refine ⟨(hs.made p i hp hgate hfree).1, fun _ _ h => ?_⟩
    cases h
    exact hmade p i hp hgate hfree
  registered := hs.registered

/-- The call that holds the lock goes on, returns or raises. -/
theorem Placed.follow {progress : Progress} (hs : Placed s)
    (hnext : ∀ stage a, progress = .next stage a → a.build = s.building.active ∨
      ∃ stage' b, s.attempt = some (stage', b) ∧ a.build = b.build) :
    Placed (s.follow progress) := by
  have hfree (returned : List CleanupResult) :
      Placed { s with attempt := none, returned := returned } :=
    ⟨hs.active, fun _ _ _ h => (nomatch h), hs.current,
      fun p i hp hgate hfree => ⟨(hs.made p i hp hgate hfree).1, fun _ _ h => (nomatch h)⟩,
      hs.registered⟩
  cases progress with
  | next stage a =>
    rcases hnext stage a rfl with hbuild | ⟨stage', b, hattempt, hbuild⟩
    · exact hs.next (fun i hi => hs.active i (hbuild.symm.trans hi))
        fun p i hp hgate hfree hi => (hs.made p i hp hgate hfree).1 (hbuild.symm.trans hi)
    · exact hs.next (fun i hi => hs.noted stage' b i hattempt (hbuild.symm.trans hi))
        fun p i hp hgate hfree hi =>
          (hs.made p i hp hgate hfree).2 stage' b hattempt (hbuild.symm.trans hi)
  | returns result => exact hfree _
  | raises message => exact hfree _

theorem noteIf_build (a : Attempt) (resource : Resource) (label : String)
    (failure : Option String) : (a.noteIf resource label failure).build = a.build := by
  cases failure <;> rfl

theorem Preparer.Harmless.not_registered {p : Preparer} (h : p.Harmless) : ¬ p.Registered := by
  cases p <;> first | exact id | cases h

theorem Placed.stageStep {stage : Stage} {x : StageInput} (hs : Placed s)
    (hguarded : Guarded s) (hattempt : s.attempt = some (stage, a))
    (hstep : s.stageStep stage a x = some t) : Placed t := by
  obtain ⟨u, progress, h, rfl⟩ := Session.stageStep_eq_some hstep
  have hlate (hstage : stage.Late) : Placed (u.follow progress) := by
    obtain ⟨hframe, hahead⟩ := advance_late hstage h
    have hsame := hframe.same
    have hu : Placed u := hs.aside hsame.attempt (by rw [hsame.building]) (by rw [hsame.building])
      hsame.preparer
    refine hu.follow fun stage' b hb => .inr ⟨stage, a, hsame.attempt.trans hattempt, ?_⟩
    subst hb
    exact hahead.2.2.2.1
  cases stage with
  | worker | cgroup | processes | leases | view | intents | directory => exact hlate trivial
  | recheck =>
    simp only [Session.advance] at h
    split at h
    · cases h
      exact hs.follow nofun
    · cases h
      exact hs.follow fun _ _ hb => by cases hb; exact .inr ⟨_, _, hattempt, rfl⟩
  | begin =>
    simp only [Session.advance] at h
    split at h
    · cases h
      exact hs.follow nofun
    · cases h
      have hu : Placed { s with closing := true, sealed := true, cleanupEvent := true } :=
        hs.aside rfl rfl le_rfl rfl
      exact hu.follow fun _ _ hb => by cases hb; exact .inl rfl
  | authoring =>
    simp only [Session.advance] at h
    split at h
    · cases h
      exact hs.follow nofun
    · cases h
      exact hs.follow fun _ _ hb => by cases hb; exact .inr ⟨_, _, hattempt, rfl⟩
    · next i _ _ =>
      cases h
      have hu : Placed { s with authoring := (s.authoring.close i x.gate).1 } :=
        hs.aside rfl rfl le_rfl rfl
      refine hu.follow fun _ _ hb => ?_
      cases hb
      exact .inr ⟨_, _, hattempt, noteIf_build _ _ _ _⟩
  | build =>
    simp only [Session.advance] at h
    split at h
    · cases h
      exact hs.follow fun _ _ hb => by cases hb; exact .inr ⟨_, _, hattempt, rfl⟩
    · next i _ =>
      cases h
      obtain ⟨hlength, hactive⟩ := s.building.length_close i x.gate
      have hu : Placed { s with building := (s.building.close i x.gate).1 } :=
        hs.aside rfl hactive hlength.ge rfl
      refine hu.follow fun _ _ hb => ?_
      cases hb
      exact .inr ⟨_, _, hattempt, noteIf_build _ _ _ _⟩
  | awaitAuthoring | awaitPreparation =>
    simp only [Session.advance] at h
    split at h
    · cases h
      exact hs.follow fun _ _ hb => by cases hb; exact .inr ⟨_, _, hattempt, rfl⟩
    · split at h
      · cases h
        exact hs.follow nofun
      · cases h
  | publish =>
    cases h
    have hsettled := (hguarded.attempt _ a hattempt).settled trivial
    have hu : Placed (s.published a) :=
      ⟨fun _ hi => (nomatch hi), hs.noted, hs.current,
        fun p i hp hgate hfree => ⟨nofun, (hs.made p i hp hgate hfree).2⟩,
        fun p hp hregistered => absurd hregistered (hsettled.preparer p hp).not_registered⟩
    exact hu.follow fun _ _ hb => by cases hb; exact .inr ⟨_, _, hattempt, rfl⟩
  | pop r =>
    cases h
    have hu : Placed { s with popped := s.popped || r.complete } :=
      hs.aside rfl rfl le_rfl rfl
    exact hu.follow nofun

/-! ### What becomes of a sandbox that was closed in vain -/

/-- The sandboxes for builds and their thread are what they were. -/
theorem Blocked.of_eq (h : Blocked s) (hbuilding : t.building = s.building)
    (hpreparer : t.preparer = s.preparer) : Blocked t := by
  unfold Blocked
  rw [hbuilding, hpreparer]
  exact h

/-- Nobody closes it, and nothing is started in it. -/
theorem Blocked.prepare {p : Preparer} (hs : Placed s) (hblocked : Blocked s)
    (hp : s.preparer = some p) (hC : Unfailed s (.prepare x)) (h : Turn s p x t) :
    Blocked t ∧ t.building.active = s.building.active := by
  obtain ⟨i, g, hg, hclosed, hdirectory, hactive, hgate⟩ := hblocked
  rw [hp, bind_some] at hgate
  have hfailed : ¬ s.building.Unfailed i := fun hunfailed => by
    cases hdirectory.symm.trans (hunfailed g hg hclosed).directory
  have hbuild := h.build
  generalize hz : t.building = z at hbuild
  generalize hq : t.preparer = q at hbuild
  cases hbuild with
  | keep hsame =>
    unfold Blocked
    rw [hz, hq]
    exact ⟨⟨i, g, hg, hclosed, hdirectory, hactive, hsame.trans hgate⟩, rfl⟩
  | add | fail | clear | leave => cases hgate
  | register j =>
    cases hgate
    exact absurd hactive (hs.made _ i hp rfl id).1
  | start j hstart =>
    cases hgate
    obtain ⟨u, hu, _⟩ := map_eq_some_iff.mp hstart
    rw [hg, bind_some, Gate.start, if_pos (.inl hclosed)] at hu
    cases hu
  | close j input hwhere =>
    rcases hwhere with rfl | rfl
    · cases hgate
      simp only [Unfailed, hp] at hC
      exact absurd hC.1 hfailed
    · cases hgate
      simp only [Unfailed, hp] at hC
      exact absurd hC.1 hfailed

/-- Processes end. -/
theorem Blocked.modify (hblocked : Blocked s) (build : Bool) (i : Nat)
    (f : ProcessState → ProcessState) : Blocked (s.modifyGate build i f) := by
  unfold Session.modifyGate
  split
  · obtain ⟨j, g, hg, hclosed, hdirectory, hactive, hgate⟩ := hblocked
    by_cases hij : i = j
    · refine ⟨j, g.mapProcesses f, ?_, hclosed, hdirectory, hactive, hgate⟩
      simp [Sandboxes.modify, hg, hij]
    · refine ⟨j, g, ?_, hclosed, hdirectory, hactive, hgate⟩
      simp [Sandboxes.modify, hg, hij]
  · exact hblocked

/-- A cleanup closes a sandbox in vain. It was the one of the thread, which has
    registered it. -/
theorem blocked_of_close {stage : Stage} {i : Nat} {input : CloseInput}
    {message : String} (hs : Guarded s) (hplaced : Placed s)
    (hattempt : s.attempt = some (stage, a)) (hi : a.build = some i)
    (hraised : (s.building.close i input).2 = some message) :
    Blocked { s with building := (s.building.close i input).1 } := by
  have hlt := hplaced.noted stage a i hattempt hi
  have hg : s.building.gates[i]? = some s.building.gates[i] := getElem?_eq_getElem hlt
  have hclose : s.building.close i input = ({ s.building with
      gates := s.building.gates.set i (s.building.gates[i].close input).1 },
      (s.building.gates[i].close input).2) := by
    rw [Sandboxes.close, hg]
  rw [hclose] at hraised ⊢
  obtain ⟨hopen, hdirectory⟩ := Gate.close_raised hraised
  obtain ⟨hsound, hreleased⟩ := hs.built i _ hg
  -- Only the sandbox of the thread is not closed yet.
  have hcurrent : s.preparer.bind Preparer.gate = some i := by
    by_contra hne
    cases hopen.symm.trans (hreleased hne).2
  obtain ⟨p, hp, hgate⟩ := bind_eq_some_iff.mp hcurrent
  have hactive : s.building.active = some i := by
    by_cases hregistered : p.Registered
    · exact (hplaced.registered p hp hregistered).trans hgate
    · exact absurd hi ((hplaced.made p i hp hgate hregistered).2 stage a hattempt)
  refine ⟨i, _, getElem?_set_self hlt, (Gate.close_marks _ input).1, ?_, hactive, hcurrent⟩
  exact hdirectory.trans (hsound.directory hopen)

/-! ### What the results say -/

theorem pair_sublist_concat {α : Type} {e l r : α} {xs : List α}
    (h : [e, l].Sublist (xs ++ [r])) : [e, l].Sublist xs ∨ e ∈ xs ∧ l = r := by
  obtain ⟨us, vs, heq, hus, hvs⟩ := sublist_append_iff.mp h
  rcases sublist_singleton.mp hvs with rfl | rfl
  · rw [append_nil] at heq
    exact .inl (heq ▸ hus)
  · obtain ⟨rfl, hlast⟩ := append_inj' (show [e] ++ [l] = us ++ [r] from heq) rfl
    cases hlast
    exact .inr ⟨singleton_sublist.mp hus, rfl⟩

/-- A step that has nothing to do with the calls. -/
theorem Reported.aside (hs : Reported s) (haside : Aside s t)
    (hblocked : Blocked s → Blocked t ∧ t.building.active = s.building.active) : Reported t where
  attempt stage a h hmem :=
    have hold := hs.attempt stage a (haside.attempt.symm.trans h) hmem
    ⟨(hblocked hold.1).1, hold.2⟩
  pop r a h := hs.pop r a (haside.attempt.symm.trans h)
  cached r h := hs.cached r (haside.cleanupResult.symm.trans h)
  returned e he hmem := by
    rw [haside.returned] at he
    obtain ⟨hold, hattempt⟩ := hs.returned e he hmem
    refine ⟨(hblocked hold).1, fun stage a h => ?_⟩
    rw [(hblocked hold).2]
    exact hattempt stage a (haside.attempt.symm.trans h)
  order e l h := hs.order e l (haside.returned ▸ h)

/-- A result that does not name a build sandbox is returned by a call that does
    not hold the lock. -/
theorem Reported.result {r : CleanupResult} (hs : Reported s) (hr : .build ∉ r.remaining)
    (hlater : Blocked s → .cleanup ∈ r.remaining) :
    Reported { s with returned := s.returned ++ [r] } where
  attempt := hs.attempt
  pop := hs.pop
  cached := hs.cached
  returned e he hmem := by
    rcases mem_append.mp he with he | he
    · exact hs.returned e he hmem
    · exact absurd (mem_singleton.mp he ▸ hmem) hr
  order e l h hmem := by
    rcases pair_sublist_concat h with h | ⟨he, rfl⟩
    · exact hs.order e l h hmem
    · exact hlater (hs.returned e he hmem).1

/-- The call that holds the lock raises. -/
theorem Reported.raises (hs : Reported s) : Reported { s with attempt := none } where
  attempt _ _ h := nomatch h
  pop _ _ h := nomatch h
  cached := hs.cached
  returned e he hmem := ⟨(hs.returned e he hmem).1, fun _ _ h => nomatch h⟩
  order := hs.order

/-- The call that holds the lock returns. No call has named a build sandbox
    before, or it would not have come here. -/
theorem Reported.returns {r : CleanupResult} {stage : Stage} (hs : Reported s)
    (hattempt : s.attempt = some (stage, a)) (hstage : ¬ stage.Early)
    (hr : .build ∈ r.remaining → .build ∈ a.remaining) :
    Reported { s with attempt := none, returned := s.returned ++ [r] } where
  attempt _ _ h := nomatch h
  pop _ _ h := nomatch h
  cached := hs.cached
  returned e he hmem := by
    rcases mem_append.mp he with he | he
    · exact absurd ((hs.returned e he hmem).2 stage a hattempt).1 hstage
    · rw [mem_singleton.mp he] at hmem
      exact ⟨(hs.attempt stage a hattempt (hr hmem)).1, fun _ _ h => nomatch h⟩
  order e l h hmem := by
    rcases pair_sublist_concat h with h | ⟨he, rfl⟩
    · exact hs.order e l h hmem
    · exact absurd ((hs.returned e he hmem).2 stage a hattempt).1 hstage

/-- The call that holds the lock goes on, with nothing to say of the builds. -/
theorem Reported.next {stage : Stage} (hs : Reported s)
    (hpop : ∀ r, stage ≠ .pop r)
    (ha : .build ∈ a.remaining → Blocked s ∧ ¬ stage.Early)
    (hreturned : ∀ e ∈ s.returned, .build ∈ e.remaining →
      stage.Early ∧ (stage.Begun → a.build = s.building.active)) :
    Reported { s with attempt := some (stage, a) } where
  attempt _ _ h hmem := by
    cases h
    exact ha hmem
  pop r _ h := by
    cases h
    exact absurd rfl (hpop r)
  cached := hs.cached
  returned e he hmem := by
    refine ⟨(hs.returned e he hmem).1, fun _ _ h => ?_⟩
    cases h
    exact hreturned e he hmem
  order := hs.order

theorem mem_noteIf {resource r : Resource} {label : String}
    {failure : Option String} (h : r ∈ (a.noteIf resource label failure).remaining) :
    r ∈ a.remaining ∨ r = resource ∧ failure ≠ none := by
  cases failure with
  | none => exact .inl h
  | some message =>
    rcases mem_append.mp h with h | h
    · exact .inl h
    · exact .inr ⟨mem_singleton.mp h, nofun⟩

theorem mem_of_incomplete {resource r : Resource} {failure : String}
    (h : r ∈ (a.incomplete resource failure).remaining) (hne : r ≠ resource) :
    r ∈ a.remaining := by
  rcases mem_append.mp (mem_eraseDups.mp h) with h | h
  · exact h
  · exact absurd (mem_singleton.mp h) hne

/-- A stage after both waits. -/
theorem Reported.late {u : Session} {progress : Progress} {stage : Stage}
    {x : StageInput} (hs : Reported s) (hsettled : Settled s)
    (hattempt : s.attempt = some (stage, a)) (hlate : stage.Late)
    (h : s.advance a x stage = some (u, progress)) : Reported (u.follow progress) := by
  obtain ⟨hframe, hahead⟩ := advance_late hlate h
  have hsame := hframe.same
  have hblocked (hblocked : Blocked s) : False := hblocked.not_settled hsettled
  have hu : Reported u := hs.aside hsame.toAside fun h => (hblocked h).elim
  have hu' : u.attempt = some (stage, a) := hsame.attempt.trans hattempt
  have hnot : .build ∉ a.remaining := fun hmem => hblocked (hs.attempt stage a hattempt hmem).1
  cases progress with
  | next next a' =>
    obtain ⟨hnext, _, _, _, _, ⟨_, rs, _, hrs, hrs', _⟩⟩ := hahead
    refine hu.next ?_ (fun hmem => ?_) fun e he hmem => ?_
    · rw [hnext]
      cases stage <;> first | exact False.elim hlate | exact nofun
    · rw [hrs] at hmem
      rcases mem_append.mp hmem with hmem | hmem
      · exact absurd hmem hnot
      · cases hrs' _ hmem
    · exact (hblocked (hs.returned e (hsame.returned ▸ he) hmem).1).elim
  | returns result =>
    obtain ⟨resource, failure, hresource, rfl⟩ := hahead
    refine hu.returns hu' (fun hearly => ?_) fun hmem => mem_of_incomplete hmem ?_
    · cases stage <;> first | exact hearly | cases hlate
    · rintro rfl
      cases hresource
  | raises message => exact hu.raises

/-- The result is published. -/
theorem Reported.publish (hs : Reported s) (hsettled : Settled s)
    (hnot : .build ∉ a.remaining) :
    Reported { s.published a with attempt := some (.pop a.result, a) } where
  attempt _ _ h hmem := by
    cases h
    exact absurd hmem hnot
  pop _ _ h := by
    cases h
    rfl
  cached _ h := by
    cases h
    exact fun hmem => hnot (mem_eraseDups.mp hmem)
  returned e he hmem := absurd hsettled (hs.returned e he hmem).1.not_settled
  order := hs.order

/-- What the call that holds the lock does. -/
theorem Reported.stageStep {stage : Stage} {x : StageInput} (hs : Reported s)
    (hplaced : Placed s) (hguarded : Guarded s) (hattempt : s.attempt = some (stage, a))
    (hC : Unfailed s (.stage x)) (hstep : s.stageStep stage a x = some t) : Reported t := by
  have hknows := hguarded.attempt stage a hattempt
  have hnot (hearly : stage.Early) : .build ∉ a.remaining :=
    fun hmem => (hs.attempt stage a hattempt hmem).2 hearly
  have hreturned (e : CleanupResult) (he : e ∈ s.returned) (hmem : .build ∈ e.remaining) :=
    (hs.returned e he hmem).2 stage a hattempt
  obtain ⟨u, progress, h, rfl⟩ := Session.stageStep_eq_some hstep
  cases stage with
  | worker | cgroup | processes | leases | view | intents | directory =>
    exact hs.late (hknows.settled trivial) hattempt trivial h
  | recheck =>
    simp only [Session.advance] at h
    split at h
    · next r hcached =>
      cases h
      have hsettled := hguarded.cached (by simp [hcached])
      exact (hs.result (hs.cached r hcached) fun h => absurd hsettled h.not_settled).raises
    · cases h
      exact hs.next nofun (fun hmem => absurd hmem (hnot trivial))
        fun e he hmem => ⟨trivial, False.elim⟩
  | begin =>
    simp only [Session.advance] at h
    split at h
    · next hclosed =>
      cases h
      have hsettled := hguarded.closed hclosed
      exact (hs.result (r := ⟨true, [], []⟩) not_mem_nil
        fun h => absurd hsettled h.not_settled).raises
    · cases h
      have hu : Reported { s with closing := true, sealed := true, cleanupEvent := true } :=
        hs.aside ⟨rfl, rfl, rfl, rfl⟩ fun h => ⟨h, rfl⟩
      exact hu.next nofun (fun hmem => absurd hmem (hnot trivial))
        fun e he hmem => ⟨trivial, fun _ => rfl⟩
  | authoring =>
    simp only [Session.advance] at h
    split at h
    · cases h
      exact hs.raises
    · cases h
      exact hs.next nofun (fun hmem => absurd hmem (hnot trivial))
        fun e he hmem => ⟨trivial, fun _ => (hreturned e he hmem).2 trivial⟩
    · next i _ _ =>
      cases h
      have hu : Reported { s with authoring := (s.authoring.close i x.gate).1 } :=
        hs.aside ⟨rfl, rfl, rfl, rfl⟩ fun h => ⟨h, rfl⟩
      refine hu.next nofun (fun hmem => ?_) fun e he hmem => ⟨trivial, fun _ => ?_⟩
      · rcases mem_noteIf hmem with hmem | ⟨hne, _⟩
        · exact absurd hmem (hnot trivial)
        · cases hne
      · exact (noteIf_build _ _ _ _).trans ((hreturned e he hmem).2 trivial)
  | build =>
    simp only [Unfailed, hattempt] at hC
    -- No call has named a build sandbox, or this one would close it again.
    have hfirst (e : CleanupResult) (he : e ∈ s.returned) : .build ∉ e.remaining := by
      intro hmem
      obtain ⟨i, g, hg, hclosed, hdirectory, hactive, _⟩ := (hs.returned e he hmem).1
      have hunfailed := hC i (((hreturned e he hmem).2 trivial).trans hactive)
      cases hdirectory.symm.trans (hunfailed g hg hclosed).directory
    simp only [Session.advance] at h
    split at h
    · cases h
      exact hs.next nofun (fun hmem => absurd hmem (hnot trivial))
        fun e he hmem => absurd hmem (hfirst e he)
    · next i hi =>
      cases h
      refine ⟨fun _ _ h hmem => ?_, fun _ _ h => ?_, hs.cached,
        fun e he hmem => absurd hmem (hfirst e he), hs.order⟩
      · cases h
        rcases mem_noteIf hmem with hmem | ⟨_, hraised⟩
        · exact absurd hmem (hnot trivial)
        · obtain ⟨message, hraised⟩ := ne_none_iff_exists'.mp hraised
          exact ⟨blocked_of_close hguarded hplaced hattempt hi hraised, id⟩
      · cases h
  | awaitAuthoring =>
    simp only [Session.advance] at h
    split at h
    · cases h
      exact hs.next nofun (fun hmem => ⟨(hs.attempt _ a hattempt hmem).1, id⟩)
        fun e he hmem => (hreturned e he hmem).1.elim
    · split at h
      · cases h
        exact hs.returns hattempt id fun hmem => mem_of_incomplete hmem nofun
      · cases h
  | awaitPreparation =>
    simp only [Session.advance] at h
    split at h
    · next hpreparer =>
      cases h
      refine hs.next nofun (fun hmem => ?_) fun e he hmem => (hreturned e he hmem).1.elim
      obtain ⟨⟨_, _, _, _, _, _, hgate⟩, _⟩ := hs.attempt _ a hattempt hmem
      rw [hpreparer] at hgate
      cases hgate
    · split at h
      · cases h
        exact hs.returns hattempt id fun hmem => mem_of_incomplete hmem nofun
      · cases h
  | publish =>
    cases h
    have hsettled := hknows.settled trivial
    exact hs.publish hsettled fun hmem =>
      (hs.attempt _ a hattempt hmem).1.not_settled hsettled
  | pop r =>
    cases h
    have hu : Reported { s with popped := s.popped || r.complete } :=
      hs.aside ⟨rfl, rfl, rfl, rfl⟩ fun h => ⟨h, rfl⟩
    refine hu.returns hattempt id fun hmem => ?_
    rw [hs.pop r a hattempt] at hmem
    exact mem_eraseDups.mp hmem

/-! ### Every step -/

/-- What has to do with neither the calls nor the builds. -/
structure Elsewhere (s t : Session) : Prop extends Aside s t where
  building : t.building = s.building
  preparer : t.preparer = s.preparer ∨
    s.preparer = none ∧ ∃ role, t.preparer = some (.stopping role)

def Label.Elsewhere : Label → Prop
  | .call | .acquire _ | .giveUp _ | .stage _ | .prepare _ | .exits _ _ | .notes _ _ => False
  | _ => True

theorem Same.elsewhere (h : Same s t) : Elsewhere s t := ⟨h.toAside, h.building, .inl h.preparer⟩

theorem elsewhere_of_authorStep {p : Author} (h : s.authorStep p x = some t) : Elsewhere s t := by
  have hkeep {y : Sandboxes} {q : Option Author} :
      Elsewhere s { s with authoring := y, author := q } :=
    ⟨⟨rfl, rfl, rfl, rfl⟩, rfl, .inl rfl⟩
  unfold Session.authorStep at h
  split at h <;> (try split at h) <;> cases h <;> try exact hkeep
  have hsame := addProcess_same s
  exact ⟨⟨hsame.attempt, hsame.closed, hsame.cleanupResult, hsame.returned⟩, hsame.building,
    .inl hsame.preparer⟩

theorem elsewhere_of_step {label : Label} (h : s.step label = some t)
    (hlabel : label.Elsewhere) : Elsewhere s t := by
  cases label with
  | call | acquire | giveUp | stage | prepare | exits | notes => cases hlabel
  | admitAuthoring =>
    simp only [Session.step] at h
    split at h <;> cases h
    exact ⟨⟨rfl, rfl, rfl, rfl⟩, rfl, .inl rfl⟩
  | author x =>
    obtain ⟨p, _, h⟩ := bind_eq_some_iff.mp h
    exact elsewhere_of_authorStep h
  | admitPreparing role =>
    cases role with
    | submit | prepare =>
      simp only [Session.step, Session.admitPreparing] at h
      split at h
      · next hfree =>
        cases h
        exact ⟨⟨rfl, rfl, rfl, rfl⟩, rfl, .inr ⟨hfree.1, _, rfl⟩⟩
      · cases h
  | reserve =>
    simp only [Session.step] at h
    split at h <;> cases h
    have hsame := addResource_same s
    exact ⟨⟨hsame.attempt, hsame.closed, hsame.cleanupResult, hsame.returned⟩, hsame.building,
      .inl hsame.preparer⟩
  | armRelease =>
    simp only [Session.step] at h
    split at h <;> cases h
    exact same_of_fields.elsewhere
  | finishRelease input answers =>
    obtain ⟨i, _, rfl⟩ := map_eq_some_iff.mp h
    exact (moves_cleanupWorker i input ⟨s, answers⟩).same.elsewhere
  | terminal id answers =>
    cases h
    have hmoves : Prog.Moves Framed (dropped (beginCleanup (.process id) >>= fun _ =>
        finishCleanup (.process id) true)) :=
      moves_dropped (Prog.moves_bind (moves_commit _ _) fun _ => moves_commit _ _)
    exact (hmoves ⟨s, answers⟩).same.elsewhere
  | expire =>
    cases h
    exact ⟨⟨rfl, rfl, rfl, rfl⟩, rfl, .inl rfl⟩
  | tick time =>
    cases h
    exact same_of_fields.elsewhere

theorem Elsewhere.placed (h : Elsewhere s t) (hs : Placed s) : Placed t := by
  rcases h.preparer with hpreparer | ⟨_, role, hpreparer⟩
  · exact hs.aside h.attempt (by rw [h.building]) (by rw [h.building]) hpreparer
  · exact hs.turn_free h.attempt (by rw [h.building]) (by rw [h.building]; exact fun _ => id)
      hpreparer (forall_mem_some ⟨rfl, id⟩)

theorem Elsewhere.blocked (h : Elsewhere s t) (hs : Blocked s) :
    Blocked t ∧ t.building.active = s.building.active := by
  rcases h.preparer with hpreparer | ⟨hnone, _⟩
  · exact ⟨hs.of_eq h.building hpreparer, by rw [h.building]⟩
  · obtain ⟨_, _, _, _, _, _, hgate⟩ := hs
    rw [hnone] at hgate
    cases hgate

theorem modifyGate_aside (build : Bool) (i : Nat) (f : ProcessState → ProcessState) :
    Aside s (s.modifyGate build i f) ∧ (s.modifyGate build i f).preparer = s.preparer ∧
      (s.modifyGate build i f).building.active = s.building.active ∧
      (s.modifyGate build i f).building.gates.length = s.building.gates.length := by
  unfold Session.modifyGate
  split
  · exact ⟨⟨rfl, rfl, rfl, rfl⟩, rfl, rfl, length_modify _ _ _⟩
  · exact ⟨⟨rfl, rfl, rfl, rfl⟩, rfl, rfl, rfl⟩

theorem Placed.modify (hs : Placed s) (build : Bool) (i : Nat) (f : ProcessState → ProcessState) :
    Placed (s.modifyGate build i f) := by
  obtain ⟨haside, hpreparer, hactive, hlength⟩ := modifyGate_aside (s := s) build i f
  exact hs.aside haside.attempt hactive hlength.ge hpreparer

theorem Reported.modify (hs : Reported s) (build : Bool) (i : Nat)
    (f : ProcessState → ProcessState) : Reported (s.modifyGate build i f) := by
  obtain ⟨haside, _, hactive, _⟩ := modifyGate_aside (s := s) build i f
  exact hs.aside haside fun h => ⟨h.modify build i f, hactive⟩

theorem Placed.step {label : Label} (hs : Placed s) (hguarded : Guarded s)
    (h : s.step label = some t) : Placed t := by
  cases label with
  | call =>
    cases h
    unfold Session.call
    dsimp only
    split
    · exact hs.aside rfl rfl le_rfl rfl
    · split <;> exact hs.aside rfl rfl le_rfl rfl
  | acquire i =>
    simp only [Session.step] at h
    split at h <;> cases h
    have hu : Placed { s with waiting := s.waiting.eraseIdx i } := hs.aside rfl rfl le_rfl rfl
    refine hu.next ?_ ?_
    · intro i h
      cases h
    · intro p i hp hi hregistered h
      cases h
  | giveUp i =>
    simp only [Session.step] at h
    split at h
    · split at h <;> cases h
      exact hs.aside rfl rfl le_rfl rfl
    · cases h
  | stage x =>
    obtain ⟨⟨stage, a⟩, hattempt, h⟩ := bind_eq_some_iff.mp h
    exact hs.stageStep hguarded hattempt h
  | prepare x =>
    obtain ⟨p, hp, h⟩ := bind_eq_some_iff.mp h
    exact hs.prepare hp (turn_of_prepareStep hp h)
  | exits build i =>
    cases h
    exact hs.modify build i .exit
  | notes build i =>
    cases h
    exact hs.modify build i .note
  | _ => exact (elsewhere_of_step h trivial).placed hs

theorem Reported.step {label : Label} (hs : Reported s) (hplaced : Placed s)
    (hguarded : Guarded s) (hC : Unfailed s label) (h : s.step label = some t) : Reported t := by
  cases label with
  | call =>
    cases h
    unfold Session.call
    dsimp only
    split
    · next hcached =>
      have hsettled := hguarded.cached (by simp [hcached])
      exact hs.result (hs.cached _ hcached) fun h => absurd hsettled h.not_settled
    · split
      · exact hs.aside ⟨rfl, rfl, rfl, rfl⟩ fun h => ⟨h, rfl⟩
      · refine ⟨hs.attempt, hs.pop, ?_, hs.returned, hs.order⟩
        intro r hr
        cases hr
  | acquire i =>
    simp only [Session.step] at h
    split at h <;> cases h
    have hu : Reported { s with waiting := s.waiting.eraseIdx i } :=
      hs.aside ⟨rfl, rfl, rfl, rfl⟩ fun h => ⟨h, rfl⟩
    refine hu.next ?_ ?_ fun _ _ _ => ⟨trivial, False.elim⟩
    · intro r h
      cases h
    · intro h
      cases h
  | giveUp i =>
    simp only [Session.step] at h
    split at h
    · split at h <;> cases h
      have hu : Reported { s with waiting := s.waiting.eraseIdx i } :=
        hs.aside ⟨rfl, rfl, rfl, rfl⟩ fun h => ⟨h, rfl⟩
      exact hu.result (by decide) fun _ => by decide
    · cases h
  | stage x =>
    obtain ⟨⟨stage, a⟩, hattempt, h⟩ := bind_eq_some_iff.mp h
    exact hs.stageStep hplaced hguarded hattempt hC h
  | prepare x =>
    obtain ⟨p, hp, h⟩ := bind_eq_some_iff.mp h
    have hturn := turn_of_prepareStep hp h
    exact hs.aside hturn.toAside fun hblocked => hblocked.prepare hplaced hp hC hturn
  | exits build i =>
    cases h
    exact hs.modify build i .exit
  | notes build i =>
    cases h
    exact hs.modify build i .note
  | _ =>
    have helsewhere := elsewhere_of_step h trivial
    exact hs.aside helsewhere.toAside helsewhere.blocked

/-- It all holds at first. -/
theorem reported_of_opened (hs : s.Opened) : Placed s ∧ Reported s := by
  obtain ⟨_, hbuilding⟩ := hs.sandboxes
  obtain ⟨_, hpreparer, hattempt⟩ := hs.threads
  have hreturned := hs.calls.2
  refine ⟨⟨?_, ?_, ?_, ?_, ?_⟩, ⟨?_, ?_, ?_, ?_, ?_⟩⟩
  · rw [hbuilding]
    exact nofun
  · rw [hattempt]
    exact nofun
  · rw [hpreparer]
    exact nofun
  · rw [hpreparer]
    exact nofun
  · rw [hpreparer]
    exact nofun
  · rw [hattempt]
    exact nofun
  · rw [hattempt]
    exact nofun
  · rw [hs.cleanup.2]
    exact nofun
  · rw [hreturned]
    exact fun _ h => absurd h not_mem_nil
  · rw [hreturned]
    exact fun _ _ h => nomatch h

end Moves

/-! ### A sandbox by itself -/

inductive GateLabel where
  | start
  | close (input : CloseInput)
  | exits
  | notes

/-- Whatever happens to a sandbox. -/
def stepGate (g : Gate) : GateLabel → Option Gate
  | .start => g.start
  | .close x => some (g.close x).1
  | .exits => some (g.mapProcesses .exit)
  | .notes => some (g.mapProcesses .note)

theorem Sound.stepGate {g h : Gate} {label : GateLabel} (hg : g.Sound)
    (hstep : stepGate g label = some h) : h.Sound := by
  cases label with
  | start => exact hg.start hstep
  | close x =>
    cases hstep
    exact hg.close x
  | exits =>
    cases hstep
    exact hg.mapProcesses .exit
  | notes =>
    cases hstep
    exact hg.mapProcesses .note

/-! ### When the results are to be believed -/

/-- What the results of a session are to mean. A call that was not admitted
    names `cleanup` and says nothing else. -/
structure Truthful (s : Session) : Prop where
  authored : ∀ r ∈ s.returned, .cleanup ∉ r.remaining → .authoring ∉ r.remaining →
    ∀ g ∈ s.authoring.gates, g.Released
  built : ∀ r ∈ s.returned, .cleanup ∉ r.remaining → .authoring ∉ r.remaining →
    .preparation ∉ r.remaining → ∀ g ∈ s.building.gates, g.Released
  /-- A later result does not drop what an earlier one named. -/
  dropped : ∀ earlier later, [earlier, later].Sublist s.returned → .cleanup ∉ later.remaining →
    (.authoring ∈ earlier.remaining → .authoring ∉ later.remaining →
      ∀ g ∈ s.authoring.gates, g.Released) ∧
    (.build ∈ earlier.remaining → .build ∉ later.remaining → ∀ g ∈ s.building.gates, g.Released)

theorem truthful_of_reported {s : Session} (hs : Guarded s) (hreported : Reported s) :
    Truthful s := by
  have hauthored (r : CleanupResult) (hr : r ∈ s.returned) (hcleanup : .cleanup ∉ r.remaining)
      (hauthoring : .authoring ∉ r.remaining) : ∀ g ∈ s.authoring.gates, g.Released := by
    have hstopped := (hs.results r hr hcleanup hauthoring).1
    have hkept := hs.authored
    rw [hstopped.author] at hkept
    exact hkept.released
  refine ⟨hauthored, fun r hr hcleanup hauthoring hpreparation => ?_, fun e l hel hcleanup => ?_⟩
  · have hsettled := (hs.results r hr hcleanup hauthoring).2 hpreparation
    have hkept := hs.built
    rw [hsettled.built] at hkept
    exact hkept.released
  · refine ⟨fun _ hdropped => hauthored l (hel.subset (by simp)) hcleanup hdropped, fun he _ => ?_⟩
    exact absurd (hreported.order e l hel he) hcleanup

/-- A session without a journal or a cgroup. -/
def plainSession : Session where
  teardownTimeout := 5
  journaled := false
  records _ := .durableOwned
  leases _ := none

theorem plainSession_opened : plainSession.Opened :=
  ⟨⟨rfl, rfl, rfl, rfl⟩, ⟨rfl, rfl⟩, ⟨rfl, rfl, rfl⟩, ⟨rfl, rfl⟩, ⟨rfl, rfl⟩, ⟨rfl, rfl, rfl⟩,
    ⟨rfl, rfl⟩, rfl⟩

/-- A call of `cleanup_session` that gets the lock at once, closes what runs
    with this outcome and then lets the others move. -/
def attemptLabels (input : CloseInput) (others : List Label) : List Label :=
  [.call, .acquire 0, .stage {}, .stage {}, .stage { gate := input }, .stage {}] ++ others ++
    List.replicate 11 (.stage {})

/-- An authoring command starts a process. -/
def authoringLabels : List Label :=
  .admitAuthoring :: (.author (.made 2) :: List.replicate 3 (.author .done))

/-- The authoring command comes to its end. -/
def endingLabels : List Label := [.author .raised, .author (.close {}), .author .done]

/-- What the results name, and what the processes for authoring do. -/
def Session.outline (s : Session) : List (List Resource) × List (List ProcessState) :=
  (s.returned.map (·.remaining), s.authoring.gates.map (·.processes))

end MirrorGate.Backend
