import MirrorGate.Backend.Session
import MirrorGate.Lib.Labelled

/-!
# The Threads of a Session

`cleanup_session` may be called at any time and by any number of threads, and
meanwhile an authoring command runs, the source is submitted or the artifact
prepared, a worker is reserved and released, processes end and time passes.
Every critical section and every call that may block is one step, and the
label says which thread moves and what the outside answers.

At most one thread runs an authoring command, at most one submits or prepares
and at most one holds `cleanup_lock`, so the position of each of them is part
of the session. Steps that the source guards with more than is modelled here
may be taken more often than there, never less.

## Main definitions

* `ThreadInput`, `Label`: What the outside decides, and who moves.
* `Session.authorStep`, `Session.prepareStep`, `Session.stageStep`: The threads.
* `Session.step`: The session.
* `Session.Opened`: A session as `open_session` leaves it.

## Theorems

* `Session.stageStep_eq_some`: A step of the cleanup is a stage.
-/

namespace MirrorGate.Backend

inductive ThreadInput where
  | done
  | raised
  /-- A sandbox was made. -/
  | made (descriptors : Nat)
  /-- A sandbox could not be made, and its directory was closed again. -/
  | unmade (descriptors : Nat) (input : CloseInput)
  | close (input : CloseInput)
  /-- A snapshot was frozen. -/
  | frozen (tracked : Bool)

inductive Label where
  -- `cleanup_session`
  | call
  | acquire (caller : Nat)
  | giveUp (caller : Nat)
  | stage (input : StageInput)
  -- `authoring_exec`
  | admitAuthoring
  | author (input : ThreadInput)
  -- `submit_source` and `prepare`
  | admitPreparing (role : Role)
  | prepare (input : ThreadInput)
  -- `reserve_worker`, `arm_worker_release` and `finish_worker_release`
  | reserve
  | armRelease
  | finishRelease (input : WorkerClose) (answers : List Answer)
  -- the world
  | exits (build : Bool) (gate : Nat)
  | notes (build : Bool) (gate : Nat)
  | terminal (process : Nat) (answers : List Answer)
  /-- `_deadline_watchdog` finds that the session has had its time. -/
  | expire
  | tick (time : Nat)

namespace Sandboxes

def add (y : Sandboxes) (g : Gate) : Sandboxes := { y with gates := y.gates ++ [g] }

def modify (y : Sandboxes) (i : Nat) (f : Gate → Gate) : Sandboxes :=
  { y with gates := y.gates.modify i f }

/-- The sandbox, once a process was started in it. -/
def start (y : Sandboxes) (i : Nat) : Option Sandboxes :=
  (y.gates[i]?.bind Gate.start).map fun g => { y with gates := y.gates.set i g }

/-- No process of the sandbox is left. -/
def Ended (y : Sandboxes) (i : Nat) : Prop := ∀ g ∈ y.gates[i]?, g.Ended

instance (y : Sandboxes) (i : Nat) : Decidable (y.Ended i) :=
  match h : y.gates[i]? with
  | none => .isTrue fun g hg => by rw [h] at hg; cases hg
  | some g => decidable_of_iff g.Ended ⟨fun hg _ h' => by rw [h] at h'; cases h'; exact hg,
      fun hg => hg g h⟩

end Sandboxes

namespace Session

/-- The record of a process that was started. -/
def addProcess (s : Session) : Session :=
  if s.journaled then
    { s with
      processes := s.processes ++ [⟨s.processes.length, s.cgroup.isSome⟩]
      records := Function.update s.records (.process s.processes.length) .active }
  else s

/-- The record of a directory that was made. -/
def addResource (s : Session) : Session :=
  if s.journaled then
    { s with
      resources := s.resources ++ [s.resources.length]
      records := Function.update s.records (.resource s.resources.length) .durableOwned }
  else s

/-- A snapshot that was frozen. -/
def addLease (s : Session) (name : LeaseName) (tracked : Bool) : Session :=
  { s with
    leases := Function.update s.leases name (some { tracked := tracked })
    records := Function.update s.records (.snapshot name) .durableOwned }

/-- `authoring_exec`, once it is admitted. -/
def authorStep (s : Session) : Author → ThreadInput → Option Session
  | .constructing, .made n =>
    some { s with
      authoring := s.authoring.add (.fresh n [])
      author := some (.made s.authoring.gates.length) }
  | .constructing, .unmade n x =>
    some { s with
      authoring := s.authoring.add ((Gate.fresh n []).close x).1, author := some .ending }
  | .constructing, .raised => some { s with author := some .ending }
  | .made i, .done =>
    if s.sealed ∨ s.closing ∨ s.cleanupEvent then some { s with author := some (.closing i) }
    else
      some { s with
        authoring := { s.authoring with active := some i }, author := some (.registered i) }
  | .registered i, .done =>
    match s.authoring.start i with
    | none => some { s with author := some (.closing i) }
    | some y => some { s.addProcess with authoring := y, author := some (.started i) }
  | .registered i, .raised => some { s with author := some (.closing i) }
  | .started i, .done =>
    if s.sealed ∨ s.closing ∨ s.cleanupEvent then some { s with author := some (.closing i) }
    else some { s with author := some (.streaming i) }
  | .streaming i, .done =>
    if s.authoring.Ended i then some { s with author := some (.closing i) } else none
  | .streaming i, .raised => some { s with author := some (.closing i) }
  | .closing i, .close x =>
    -- The exception of a failed close is raised only after the last section.
    some { s with authoring := (s.authoring.close i x).1, author := some .ending }
  | .ending, .done => some { s with authoring := { s.authoring with active := none }, author := none }
  | _, _ => none

/-- `_stop_authoring`, and the check after it. -/
def stopStep (s : Session) : Preparer → ThreadInput → Option Session
  | .stopping role, .done =>
    some { s with sealed := true, preparer := some (.stopWait role s.authoring.active) }
  | .stopWait role (some i), .done => some { s with preparer := some (.stopClose role i) }
  | .stopWait role none, .done => some { s with preparer := some (.stopAwait role) }
  | .stopWait _ _, .raised => some { s with preparer := some .ending }
  | .stopClose role i, .close x =>
    some { s with
      authoring := (s.authoring.close i x).1
      preparer := some (if (s.authoring.close i x).2 = none then .stopAwait role else .ending) }
  | .stopAwait role, .done =>
    if s.author = none then some { s with preparer := some (.checking role) } else none
  | .stopAwait _, .raised => some { s with preparer := some .ending }
  | .checking role, .done =>
    some { s with preparer := some (if s.cleanupEvent then .ending else .working role) }
  | .checking _, .raised => some { s with preparer := some .ending }
  | _, _ => none

/-- `submit_source` and `prepare`, once they are admitted. -/
def prepareStep (s : Session) : Preparer → ThreadInput → Option Session
  | .working _, .raised => some { s with preparer := some .ending }
  | .working .submit, .frozen tracked =>
    if s.closing ∨ s.cleanupEvent then some { s with preparer := some .ending }
    else
      some { s.addLease .sourceLease tracked with submitted := true, preparer := some .ending }
  | .working .prepare, .frozen tracked =>
    if s.closing ∨ s.cleanupEvent then some { s with preparer := some .ending }
    else if s.leases .sourceLease = none then some (s.addLease .sourceLease tracked)
    else none
  | .working .prepare, .made n =>
    some { s.addResource with
      building := s.building.add (.fresh n [])
      preparer := some (.made s.building.gates.length) }
  | .working .prepare, .unmade n x =>
    some { s.addResource with
      building := s.building.add ((Gate.fresh n []).close x).1, preparer := some .ending }
  | .working .prepare, .done => some { s with preparer := some .finishing }
  | .made i, .done =>
    if s.closing ∨ s.cleanupEvent then some { s with preparer := some (.cancelled i) }
    else
      some { s with
        building := { s.building with active := some i }, preparer := some (.registered i) }
  | .cancelled i, .close x =>
    some { s with building := (s.building.close i x).1, preparer := some .ending }
  | .registered i, .done =>
    match s.building.start i with
    | none => some { s with preparer := some (.closing i) }
    | some y => some { s.addProcess with building := y, preparer := some (.streaming i) }
  | .registered i, .raised => some { s with preparer := some (.closing i) }
  | .streaming i, .done =>
    if s.building.Ended i then some { s with preparer := some (.closing i) } else none
  | .streaming i, .raised => some { s with preparer := some (.closing i) }
  | .closing i, .close x =>
    some { s with
      building := (s.building.close i x).1
      preparer := some (if (s.building.close i x).2 = none then .clearing else .ending) }
  | .clearing, .done =>
    some { s with building := { s.building with active := none }, preparer := some .finishing }
  | .finishing, .frozen tracked =>
    if s.closing ∨ s.cleanupEvent then some { s with preparer := some .ending }
    else some (s.addLease .artifactLease tracked)
  | .finishing, .done =>
    if s.closing ∨ s.cleanupEvent then some { s with preparer := some .ending }
    else some { s with prepared := true, preparer := some .ending }
  | .finishing, .raised => some { s with preparer := some .ending }
  | .ending, .done => some { s with preparer := none }
  | preparer, x => s.stopStep preparer x

/-- Where the thread that holds `cleanup_lock` is after a stage. It gives up
    the lock when it returns or raises. -/
def follow (s : Session) : Progress → Session
  | .next stage a => { s with attempt := some (stage, a) }
  | .returns result => { s with attempt := none, returned := s.returned ++ [result] }
  | .raises _ => { s with attempt := none }

/-- The thread that holds `cleanup_lock` goes on. -/
def stageStep (s : Session) (stage : Stage) (a : Attempt) (x : StageInput) : Option Session :=
  (s.advance a x stage).map fun next => next.1.follow next.2

theorem stageStep_eq_some {s t : Session} {stage : Stage} {a : Attempt} {x : StageInput}
    (h : s.stageStep stage a x = some t) :
    ∃ u progress, s.advance a x stage = some (u, progress) ∧ t = u.follow progress := by
  obtain ⟨⟨u, progress⟩, hadvance, rfl⟩ := Option.map_eq_some_iff.mp h
  exact ⟨u, progress, hadvance, rfl⟩

/-- The first section of `cleanup_session`. -/
def call (s : Session) : Session :=
  let fresh : Session :=
    if s.cleanupResult = none then s else { s with cleanupResult := none, cleanupDeadline := none }
  let deadline := fresh.cleanupDeadline.getD (s.clock + s.teardownTimeout)
  match s.cleanupResult with
  | some ⟨complete, [], failures⟩ => { s with returned := s.returned ++ [⟨complete, [], failures⟩] }
  | _ => { fresh with cleanupDeadline := some deadline, waiting := s.waiting ++ [deadline] }

/-- What another call returns that does not get `cleanup_lock` in time. -/
def busy : CleanupResult :=
  ⟨false, [.cleanup], ["another cleanup attempt did not finish before deadline"]⟩

def admitPreparing (s : Session) : Role → Option Session
  | .submit =>
    if s.preparer = none ∧ s.submitted = false ∧ s.sealed = false ∧ s.authoringEnabled then
      some { s with sealed := true, preparer := some (.stopping .submit) }
    else none
  | .prepare =>
    if s.preparer = none ∧ s.prepared = false ∧ s.prepareAttempted = false ∧
        (s.sealed = false ∨ s.submitted) then
      some { s with
        sealed := true, prepareAttempted := true, preparer := some (.stopping .prepare) }
    else none

def modifyGate (s : Session) (build : Bool) (i : Nat) (f : ProcessState → ProcessState) : Session :=
  if build then { s with building := s.building.modify i (·.mapProcesses f) }
  else { s with authoring := s.authoring.modify i (·.mapProcesses f) }

def step (s : Session) : Label → Option Session
  | .call => some s.call
  | .acquire i =>
    match s.attempt, s.waiting[i]? with
    | none, some deadline =>
      some { s with
        waiting := s.waiting.eraseIdx i, attempt := some (.recheck, { deadline := deadline }) }
    | _, _ => none
  | .giveUp i =>
    match s.attempt, s.waiting[i]? with
    | some _, some deadline =>
      if deadline ≤ s.clock then
        some { s with waiting := s.waiting.eraseIdx i, returned := s.returned ++ [busy] }
      else none
    | _, _ => none
  | .stage x => s.attempt.bind fun (stage, a) => s.stageStep stage a x
  | .admitAuthoring =>
    if s.author = none ∧ s.sealed = false ∧ s.authoringEnabled then
      some { s with author := some .constructing }
    else none
  | .author x => s.author.bind (s.authorStep · x)
  | .admitPreparing role => s.admitPreparing role
  | .prepare x => s.preparer.bind (s.prepareStep · x)
  | .reserve =>
    if s.reservation = none ∧ s.prepared then
      some { s.addResource with
        workers := s.workers ++ [{ record := s.resources.length }]
        reservation := some s.workers.length }
    else none
  | .armRelease =>
    if s.reservation = none then none
    else
      some { s with cleanupDeadline := some (s.cleanupDeadline.getD (s.clock + s.teardownTimeout)) }
  | .finishRelease x answers =>
    s.reservation.map fun i => ((cleanupWorker i x).run ⟨s, answers⟩).2.session
  | .exits build i => some (s.modifyGate build i .exit)
  | .notes build i => some (s.modifyGate build i .note)
  | .terminal id answers =>
    some ((dropped (beginCleanup (.process id) >>= fun _ =>
      finishCleanup (.process id) true)).run ⟨s, answers⟩).2.session
  | .expire => some { s with cleanupEvent := true }
  | .tick time => some { s with clock := s.clock + time }

/-- A session as `open_session` leaves it. -/
structure Opened (s : Session) : Prop where
  flags : s.sealed = false ∧ s.closing = false ∧ s.closed = false ∧ s.cleanupEvent = false
  cleanup : s.cleanupDeadline = none ∧ s.cleanupResult = none
  prepared : s.submitted = false ∧ s.prepared = false ∧ s.prepareAttempted = false
  sandboxes : s.authoring = {} ∧ s.building = {}
  worker : s.workers = [] ∧ s.reservation = none
  threads : s.author = none ∧ s.preparer = none ∧ s.attempt = none
  calls : s.waiting = [] ∧ s.returned = []
  popped : s.popped = false

end Session

end MirrorGate.Backend
