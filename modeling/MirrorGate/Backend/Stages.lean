import MirrorGate.Backend.Session

/-!
# What a Stage Can Do

The stages that come after the waits run programs that call the operating
system and the journal. All that these programs touch are the records, the
workers, the control group, the leases and the directory of the session. What
they note is added to what was noted before, and a resource is named whenever
a failure is, unless the worker has failed to dispose of itself.

## Main definitions

* `Frame`: What the programs leave alone.
* `Stage.succ`, `Resource.Late`: The order of the stages, and what the stages
  after the waits name.
* `Ahead`: How such a stage goes on.

## Theorems

* `moves_commit`, `moves_collect` and their companions: The programs keep the
  frame.
* `advance_late`: What a stage after the waits can do.
-/

namespace MirrorGate.Backend

open Prog

/-! ### What the programs leave alone -/

/-- Only the records, the workers, the control group, the leases and the
    directory change. -/
def Frame (s t : Session) : Prop :=
  ∃ records workers reservation cgroup leases directory,
    t = { s with
      records := records, workers := workers, reservation := reservation
      cgroup := cgroup, leases := leases, directory := directory }

theorem Frame.refl (s : Session) : Frame s s := ⟨_, _, _, _, _, _, rfl⟩

theorem Frame.trans {s t u : Session} (h : Frame s t) (h' : Frame t u) : Frame s u := by
  obtain ⟨_, _, _, _, _, _, rfl⟩ := h
  obtain ⟨_, _, _, _, _, _, rfl⟩ := h'
  exact ⟨_, _, _, _, _, _, rfl⟩

/-- The same for a session with its answers. -/
def Framed (d e : Desk) : Prop := Frame d.session e.session

instance : Std.Refl Framed := ⟨fun d => Frame.refl d.session⟩

instance : IsTrans Desk Framed := ⟨fun _ _ _ => Frame.trans⟩

section Programs

variable {α : Type}

theorem moves_os : Moves Framed os := by
  intro d
  unfold os
  dsimp only
  split <;> exact Frame.refl _

theorem moves_commit (id : RecordId) (change : Phase → Except String (Option Phase)) :
    Moves Framed (commit id change) := by
  intro d
  unfold commit
  dsimp only
  split <;> exact ⟨_, _, _, _, _, _, rfl⟩

theorem moves_alter {f : Session → Session} (hf : ∀ s, Frame s (f s)) :
    Moves Framed (alter f) := fun d => hf d.session

theorem moves_provided {c : Prop} [Decidable c] {m : Prog String Desk Unit}
    (hm : Moves Framed m) : Moves Framed (provided c m) := by
  unfold provided
  split
  · exact hm
  · exact moves_pure _

theorem moves_ifJournaled {m : Prog String Desk Unit} (hm : Moves Framed m) :
    Moves Framed (ifJournaled m) :=
  moves_bind (moves_gets _) fun _ => moves_provided hm

theorem moves_dropped {m : Prog String Desk Unit} (hm : Moves Framed m) :
    Moves Framed (dropped m) := by
  refine moves_handle hm fun _ k hk => ?_
  cases hk
  exact moves_pure _

theorem moves_collect {f : α → Prog String Desk Unit} (hf : ∀ a, Moves Framed (f a)) :
    ∀ as, Moves Framed (collect f as)
  | [] => moves_pure _
  | a :: as => by
    refine moves_bind ?_ fun _ => moves_bind (moves_collect hf as) fun _ =>
      moves_pure _
    refine moves_handle (moves_bind (hf a) fun _ => moves_pure _) fun _ k hk => ?_
    cases hk
    exact moves_pure _

theorem moves_closeWorker (i : Nat) (input : WorkerClose) :
    Moves Framed (closeWorker i input) := by
  intro d
  unfold closeWorker
  dsimp only
  split
  · exact Frame.refl _
  · split <;> exact ⟨_, _, _, _, _, _, rfl⟩

theorem moves_cleanupWorker (i : Nat) (input : WorkerClose) :
    Moves Framed (cleanupWorker i input) := by
  refine moves_bind (moves_gets _) fun _ =>
    moves_bind (moves_ifJournaled (moves_commit _ _)) fun _ =>
      moves_bind (moves_closeWorker i input) fun closed =>
        moves_bind (moves_ifJournaled (moves_commit _ _)) fun _ =>
          moves_bind (moves_provided ?_) fun _ => moves_pure _
  exact moves_alter fun _ => ⟨_, _, _, _, _, _, rfl⟩

theorem moves_cleanupGroup (group : Group) (deadline : Nat) :
    Moves Framed (cleanupGroup group deadline) := by
  refine moves_bind (moves_ifJournaled (moves_commit _ _)) fun _ =>
    moves_bind (moves_provided (moves_raise _)) fun _ => moves_bind moves_os fun _ =>
      moves_bind (moves_gets _) fun _ =>
        moves_bind (moves_provided (moves_raise _)) fun _ =>
        moves_bind moves_os fun _ =>
          moves_bind (moves_ifJournaled (moves_commit _ _)) fun _ =>
            moves_bind moves_os fun _ =>
              moves_bind (moves_alter fun _ => ⟨_, _, _, _, _, _, rfl⟩) fun _ =>
                moves_bind (moves_ifJournaled (moves_commit _ _)) fun _ =>
                  moves_alter fun _ => ⟨_, _, _, _, _, _, rfl⟩

theorem moves_reclaimGroupProcess (id : Nat) : Moves Framed (reclaimGroupProcess id) := by
  refine moves_bind ?_ fun group => ?_
  · refine moves_handle (moves_bind moves_os fun _ => moves_gets _) fun _ k hk => ?_
    cases hk
    exact moves_pure _
  · split
    · exact moves_commit _ _
    · exact moves_commit _ _
    · exact moves_bind (moves_commit _ _) fun _ => moves_commit _ _
    · exact moves_bind (moves_commit _ _) fun _ => moves_commit _ _

theorem moves_confirmProcess (process : ProcessRecord) :
    Moves Framed (confirmProcess process) := by
  exact moves_bind moves_os fun _ => moves_bind (moves_gets _) fun _ =>
    moves_bind (moves_provided (moves_reclaimGroupProcess _)) fun _ =>
      moves_bind moves_os fun _ => moves_bind (moves_gets _) fun _ =>
        moves_provided (moves_raise _)

theorem moves_setLease (name : LeaseName) (lease : Option Lease) :
    Moves Framed (setLease name lease) :=
  moves_alter fun _ => ⟨_, _, _, _, _, _, rfl⟩

theorem moves_removeLease (name : LeaseName) (tracked : Bool) :
    Moves Framed (removeLease name tracked) := by
  refine moves_bind (moves_handle moves_os fun _ k hk => ?_) fun _ =>
    moves_bind (moves_provided (moves_commit _ _)) fun _ => moves_setLease _ _
  cases hk
  exact moves_bind (moves_provided (moves_dropped (moves_commit _ _))) fun _ =>
    moves_raise _

theorem moves_noteLease (name : LeaseName) : Moves Framed (noteLease name) :=
  moves_bind moves_os fun _ => moves_bind (moves_gets _) fun _ =>
    moves_provided (moves_commit _ _)

theorem moves_releaseLease (name : LeaseName) (lease : Lease) :
    Moves Framed (releaseLease name lease) := by
  refine moves_bind (moves_gets _) fun _ =>
    moves_bind (moves_provided (moves_noteLease _)) fun _ => ?_
  split
  · exact moves_bind moves_os fun _ => moves_bind (moves_setLease _ _) fun _ =>
      moves_bind moves_os fun _ => moves_bind (moves_setLease _ _) fun _ =>
        moves_removeLease _ _
  · split
    · exact moves_removeLease _ _
    · exact moves_pure _

theorem moves_closeLease (name : LeaseName) : Moves Framed (closeLease name) := by
  refine moves_bind (moves_gets _) fun lease => ?_
  split
  · exact moves_pure _
  · exact moves_bind (moves_releaseLease _ _) fun _ => moves_setLease _ _

end Programs

/-! ### How the stages go on -/

/-- The stage that follows. -/
def Stage.succ : Stage → Stage
  | .recheck => .begin
  | .begin => .authoring
  | .authoring => .build
  | .build => .awaitAuthoring
  | .awaitAuthoring => .awaitPreparation
  | .awaitPreparation => .worker
  | .worker => .cgroup
  | .cgroup => .processes
  | .processes => .leases
  | .leases => .view
  | .view => .intents
  | .intents => .directory
  | .directory => .publish
  | .publish => .publish
  | .pop result => .pop result

/-- The stages after the waits that run programs. -/
def Stage.Late : Stage → Prop
  | .worker | .cgroup | .processes | .leases | .view | .intents | .directory => True
  | _ => False

/-- What these stages name. -/
def Resource.Late : Resource → Prop
  | .cleanup | .authoring | .build | .preparation => False
  | _ => True

/-- More was noted. Nothing but the worker fails without being named. -/
structure Noted (stage : Stage) (a : Attempt) (failures : List String)
    (remaining : List Resource) : Prop where
  exists_notes : ∃ fs rs, failures = a.failures ++ fs ∧ remaining = a.remaining ++ rs ∧
    (∀ r ∈ rs, r.Late) ∧ (stage ≠ .worker → rs = [] → fs = [])

/-- How a stage after the waits goes on: with the next stage, with a result
    that names what is left, or with an exception. -/
def Ahead (stage : Stage) (a : Attempt) : Progress → Prop
  | .next next a' => next = stage.succ ∧ a'.deadline = a.deadline ∧ a'.authoring = a.authoring ∧
      a'.build = a.build ∧ a'.worker = a.worker ∧ Noted stage a a'.failures a'.remaining
  | .returns result => ∃ resource failure, resource.Late ∧ result = a.incomplete resource failure
  | .raises _ => True

theorem noted_same (stage : Stage) (a : Attempt) : Noted stage a a.failures a.remaining :=
  ⟨[], [], (List.append_nil _).symm, (List.append_nil _).symm,
    fun _ h => absurd h List.not_mem_nil, fun _ _ => rfl⟩

theorem ahead_same {stage : Stage} (a : Attempt) : Ahead stage a (.next stage.succ a) :=
  ⟨rfl, rfl, rfl, rfl, rfl, noted_same stage a⟩

theorem ahead_note {stage : Stage} (a : Attempt) {resource : Resource} (failure : String)
    (h : resource.Late) : Ahead stage a (.next stage.succ (a.note resource failure)) := by
  refine ⟨rfl, rfl, rfl, rfl, rfl, [failure], [resource], rfl, rfl, fun r hr => ?_, ?_⟩
  · exact List.mem_singleton.mp hr ▸ h
  · exact fun _ hnil => absurd hnil (List.cons_ne_nil _ _)

theorem noteAll_eq {α : Type} (a : Attempt) (resource : α → Resource) (label : α → String)
    (failures : List (α × String)) :
    a.noteAll resource label failures = { a with
      failures := a.failures ++ failures.map fun failure => label failure.1 ++ failure.2
      remaining := a.remaining ++ failures.map fun failure => resource failure.1 } := by
  unfold Attempt.noteAll
  induction failures generalizing a with
  | nil => simp
  | cons failure failures ih =>
    rw [List.foldl_cons, ih]
    simp [Attempt.note]

theorem ahead_noteAll {α : Type} {stage : Stage} (a : Attempt) {resource : α → Resource}
    (label : α → String) (failures : List (α × String)) (h : ∀ x, (resource x).Late) :
    Ahead stage a (.next stage.succ (a.noteAll resource label failures)) := by
  rw [noteAll_eq]
  refine ⟨rfl, rfl, rfl, rfl, rfl, _, _, rfl, rfl, fun r hr => ?_, fun _ hnil => ?_⟩
  · obtain ⟨failure, _, rfl⟩ := List.mem_map.mp hr
    exact h failure.1
  · rw [List.map_eq_nil_iff] at hnil
    rw [hnil]
    rfl

section Advance

variable {s t : Session} {a : Attempt} {x : StageInput} {progress : Progress}

attribute [local simp] Session.advance

/-- What a program has led to keeps the frame. -/
theorem frame_of_run {α : Type} {m : Prog String Desk α} (hm : Moves Framed m) {s : Session}
    {answers : List Answer} {out : Except String α} {d : Desk}
    (h : m.run ⟨s, answers⟩ = (out, d)) : Frame s d.session :=
  hm.of_run h

theorem advance_worker (h : s.advance a x .worker = some (t, progress)) :
    Frame s t ∧ Ahead .worker a progress := by
  simp only [Session.advance] at h
  split at h
  · cases h
    exact ⟨Frame.refl s, ahead_same a⟩
  · split at h
    · next hrun =>
      cases h
      exact ⟨frame_of_run (moves_cleanupWorker _ _) hrun, trivial⟩
    · next complete failures _ hrun =>
      cases h
      refine ⟨frame_of_run (moves_cleanupWorker _ _) hrun, rfl, rfl, rfl, rfl, rfl, _, _, rfl, rfl,
        fun r hr => ?_, fun h => absurd rfl h⟩
      cases complete
      · cases List.mem_singleton.mp hr
        trivial
      · cases hr

theorem advance_cgroup (h : s.advance a x .cgroup = some (t, progress)) :
    Frame s t ∧ Ahead .cgroup a progress := by
  simp only [Session.advance] at h
  split at h
  · cases h
    exact ⟨Frame.refl s, ahead_same a⟩
  · split at h
    · next hrun =>
      cases h
      exact ⟨frame_of_run (moves_cleanupGroup _ _) hrun, ahead_same a⟩
    · next d hrun =>
      cases h
      refine ⟨(frame_of_run (moves_cleanupGroup _ _) hrun).trans ?_, .cgroup, _, trivial, rfl⟩
      exact moves_dropped (moves_ifJournaled (moves_commit _ _)) d

theorem advance_processes (h : s.advance a x .processes = some (t, progress)) :
    Frame s t ∧ Ahead .processes a progress := by
  simp only [Session.advance] at h
  split at h
  · split at h
    · next hrun =>
      cases h
      exact ⟨frame_of_run (moves_collect moves_confirmProcess _) hrun, .processJournal, _, trivial,
        rfl⟩
    · next hrun =>
      cases h
      exact ⟨frame_of_run (moves_collect moves_confirmProcess _) hrun, ahead_same a⟩
  · cases h
    exact ⟨Frame.refl s, ahead_same a⟩

theorem advance_leases (h : s.advance a x .leases = some (t, progress)) :
    Frame s t ∧ Ahead .leases a progress := by
  simp only [Session.advance] at h
  split at h
  · next hrun =>
    cases h
    exact ⟨frame_of_run (moves_collect moves_closeLease _) hrun,
      ahead_noteAll a _ _ fun _ => trivial⟩
  · next hrun =>
    cases h
    exact ⟨frame_of_run (moves_collect moves_closeLease _) hrun, trivial⟩

theorem advance_view (h : s.advance a x .view = some (t, progress)) :
    Frame s t ∧ Ahead .view a progress := by
  simp only [Session.advance] at h
  split at h
  · split at h
    · next hrun =>
      cases h
      exact ⟨frame_of_run moves_os hrun, ahead_same a⟩
    · next hrun =>
      cases h
      exact ⟨frame_of_run moves_os hrun, ahead_note a _ trivial⟩
  · cases h
    exact ⟨Frame.refl s, ahead_same a⟩

theorem advance_intents (h : s.advance a x .intents = some (t, progress)) :
    Frame s t ∧ Ahead .intents a progress := by
  simp only [Session.advance] at h
  split at h
  · split at h
    · next hrun =>
      cases h
      exact ⟨frame_of_run (moves_collect (fun _ => moves_commit _ _) _) hrun,
        ahead_noteAll a _ _ fun _ => trivial⟩
    · next hrun =>
      cases h
      exact ⟨frame_of_run (moves_collect (fun _ => moves_commit _ _) _) hrun, trivial⟩
  · cases h
    exact ⟨Frame.refl s, ahead_same a⟩

theorem advance_directory (h : s.advance a x .directory = some (t, progress)) :
    Frame s t ∧ Ahead .directory a progress := by
  have hfinish (complete : Bool) (ids : List RecordId) :
      Moves Framed (collect (finishCleanup · complete) ids) :=
    moves_collect (fun _ => moves_commit _ _) _
  simp only [Session.advance] at h
  split at h
  · next d hrun =>
    have hframe := frame_of_run moves_os hrun
    have hremoved : Frame s (d.map fun s => { s with directory := false }).session :=
      hframe.trans ⟨_, _, _, _, _, _, rfl⟩
    split at h
    · split at h
      · next hrun' =>
        cases h
        exact ⟨hremoved.trans ((hfinish _ _).of_run hrun'), ahead_noteAll a _ _ fun _ => trivial⟩
      · next hrun' =>
        cases h
        exact ⟨hremoved.trans ((hfinish _ _).of_run hrun'), trivial⟩
    · cases h
      exact ⟨hremoved, ahead_same a⟩
  · next d hrun =>
    have hframe := frame_of_run moves_os hrun
    split at h
    · cases h
      exact ⟨hframe.trans (hfinish _ _ d), ahead_note a _ trivial⟩
    · cases h
      exact ⟨hframe, ahead_note a _ trivial⟩

/-- What a stage after the waits can do. -/
theorem advance_late {stage : Stage} (hlate : stage.Late)
    (h : s.advance a x stage = some (t, progress)) : Frame s t ∧ Ahead stage a progress := by
  cases stage with
  | worker => exact advance_worker h
  | cgroup => exact advance_cgroup h
  | processes => exact advance_processes h
  | leases => exact advance_leases h
  | view => exact advance_view h
  | intents => exact advance_intents h
  | directory => exact advance_directory h
  | _ => cases hlate

end Advance

end MirrorGate.Backend
