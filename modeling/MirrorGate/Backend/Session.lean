import MirrorGate.Journal.Record
import MirrorGate.Lib.Program
import MirrorGate.Sandbox.Gate

/-!
# Cleaning Up a Session

A session of the backend owns sandboxes, workers, a control group, leases, a
view of the source, a directory and the journal records of all these.
`_cleanup_session_locked` takes them apart in a fixed order. This module has
the session, and each stage of the cleanup as the source runs it: what it
does to the session, and whether it goes on, returns a result or raises.

The answers of the operating system and of the journal are a list from which
every call takes the next one. The list that is used up answers that all went
well, so a stage in which nothing fails is one with the empty list.

Threads other than the one that cleans up are in the session as well, as far
as the cleanup waits for them: one that runs an authoring command, and one
that submits the source or prepares the artifact.

## Main definitions

* `Session`: A session, with the threads that work on it.
* `Answer`, `Desk`, `os`, `commit`: A call of the operating system and of the
  journal.
* `Stage`, `Attempt`, `Progress`, `Session.advance`: The stages of a cleanup.
-/

namespace MirrorGate.Backend

/-! ### Results -/

inductive LeaseName where
  | artifactLease
  | sourceLease
  | nodeShimLease
  | manifestLease
  | nodeRuntimeLease
  | nodeDependencyLease
deriving DecidableEq, Repr

/-- The leases in the order in which they are released. -/
def LeaseName.all : List LeaseName :=
  [.artifactLease, .sourceLease, .nodeShimLease, .manifestLease, .nodeRuntimeLease,
    .nodeDependencyLease]

def LeaseName.text : LeaseName → String
  | .artifactLease => "artifact_lease"
  | .sourceLease => "source_lease"
  | .nodeShimLease => "node_shim_lease"
  | .manifestLease => "manifest_lease"
  | .nodeRuntimeLease => "node_runtime_lease"
  | .nodeDependencyLease => "node_dependency_lease"

/-- What a cleanup may leave behind, by the names it reports. -/
inductive Resource where
  | cleanup
  | authoring
  | build
  | preparation
  | worker
  | cgroup
  | processJournal
  | lease (name : LeaseName)
  | sourceView
  | journal
  | sessionDirectory
deriving DecidableEq, Repr

structure CleanupResult where
  complete : Bool
  remaining : List Resource := []
  failures : List String := []
deriving DecidableEq, Repr

/-- An incomplete result. Every resource is named once. -/
def CleanupResult.incomplete (remaining : List Resource) (failures : List String) :
    CleanupResult :=
  ⟨false, remaining.eraseDups, failures⟩

/-! ### The session -/

/-- The journal records of a session. -/
inductive RecordId where
  | session
  /-- `journal_resources`: the build output and the workers. -/
  | resource (n : Nat)
  | cgroup
  | process (n : Nat)
  | snapshot (name : LeaseName)
deriving DecidableEq, Repr

/-- The sandboxes of one kind that were made, and the one that is registered. -/
structure Sandboxes where
  gates : List Gate := []
  active : Option Nat := none
deriving Repr

/-- A worker reservation, with the result that closing it has kept. -/
structure Worker where
  record : Nat
  closeResult : Option (Bool × List String) := none
deriving Repr

/-- A control group. Its descriptor is closed once it was removed. -/
structure Group where
  removed : Bool := false
deriving Repr

/-- A journalled process, and whether its record names the control group. -/
structure ProcessRecord where
  id : Nat
  grouped : Bool
deriving Repr

/-- A lease: whether the store has a record for its snapshot, and whether the
    snapshot is among those that the store has to remove. -/
structure Lease where
  tracked : Bool
  closed : Bool := false
  pending : Bool := false
deriving Repr

/-- Where `authoring_exec` is. -/
inductive Author where
  | constructing
  | made (gate : Nat)
  | registered (gate : Nat)
  | started (gate : Nat)
  | streaming (gate : Nat)
  | closing (gate : Nat)
  | ending
deriving DecidableEq, Repr

/-- `submit_source` and `prepare`. -/
inductive Role where
  | submit
  | prepare
deriving DecidableEq, Repr

/-- Where `submit_source` or `prepare` is. The first five are
    `_stop_authoring` and the check that follows it. -/
inductive Preparer where
  | stopping (role : Role)
  | stopWait (role : Role) (gate : Option Nat)
  | stopClose (role : Role) (gate : Nat)
  | stopAwait (role : Role)
  | checking (role : Role)
  | working (role : Role)
  | made (gate : Nat)
  | cancelled (gate : Nat)
  | registered (gate : Nat)
  | streaming (gate : Nat)
  | closing (gate : Nat)
  | clearing
  | finishing
  | ending
deriving DecidableEq, Repr

/-- What a call of `cleanup_session` has read and noted. -/
structure Attempt where
  deadline : Nat
  authoring : Option Nat := none
  build : Option Nat := none
  worker : Option Nat := none
  failures : List String := []
  remaining : List Resource := []
deriving Repr

inductive Stage where
  | recheck
  | begin
  | authoring
  | build
  | awaitAuthoring
  | awaitPreparation
  | worker
  | cgroup
  | processes
  | leases
  | view
  | intents
  | directory
  | publish
  | pop (result : CleanupResult)
deriving DecidableEq, Repr

structure Session where
  clock : Nat := 0
  teardownTimeout : Nat
  journaled : Bool
  records : RecordId → Phase
  authoringEnabled : Bool := true
  sealed : Bool := false
  closing : Bool := false
  closed : Bool := false
  cleanupEvent : Bool := false
  cleanupDeadline : Option Nat := none
  cleanupResult : Option CleanupResult := none
  submitted : Bool := false
  prepared : Bool := false
  prepareAttempted : Bool := false
  authoring : Sandboxes := {}
  building : Sandboxes := {}
  workers : List Worker := []
  reservation : Option Nat := none
  cgroup : Option Group := none
  processes : List ProcessRecord := []
  leases : LeaseName → Option Lease
  /-- There is a view of the source. -/
  view : Bool := false
  resources : List Nat := []
  /-- The session's directory exists. -/
  directory : Bool := true
  /-- `authoring_done` is set when there is no such thread. -/
  author : Option Author := none
  /-- `prepare_done` is set when there is no such thread. -/
  preparer : Option Preparer := none
  /-- The call that holds `cleanup_lock`. -/
  attempt : Option (Stage × Attempt) := none
  /-- The deadlines of the calls that wait for `cleanup_lock`. -/
  waiting : List Nat := []
  /-- What calls of `cleanup_session` have returned. -/
  returned : List CleanupResult := []
  /-- The owner was taken out of `_sessions`. -/
  popped : Bool := false

/-- The records that the session's directory stands for. -/
def Session.journalIds (s : Session) : List RecordId :=
  s.resources.map .resource ++ (if s.journaled then [.session] else [])

/-! ### Calls that may fail -/

/-- How a call ends. -/
inductive Answer where
  | done
  /-- It raised and changed nothing. -/
  | refused (message : String)
  /-- It raised after the journal had published the record. -/
  | torn (message : String)
deriving DecidableEq, Repr

def Answer.raised : Answer → Option String
  | .done => none
  | .refused message | .torn message => some message

/-- The session, and the answers that the calls on its behalf will get. -/
structure Desk where
  session : Session
  answers : List Answer

def Desk.map (d : Desk) (f : Session → Session) : Desk := { d with session := f d.session }

/-- Change the session. -/
def alter (f : Session → Session) : Prog String Desk Unit := Prog.update (·.map f)

def Session.setPhase (s : Session) (id : RecordId) (phase : Phase) : Session :=
  { s with records := Function.update s.records id phase }

/-- A call of the operating system. -/
def os : Prog String Desk Unit := ⟨fun d =>
  match (d.answers.headD .done).raised with
  | none => (.ok (), { d with answers := d.answers.tail })
  | some message => (.error message, { d with answers := d.answers.tail })⟩

/-- A call of the journal on one record. It reads the record and decides what
    to publish: nothing, another phase, or that the call is invalid. -/
def commit (id : RecordId) (change : Phase → Except String (Option Phase)) :
    Prog String Desk Unit := ⟨fun d =>
  let rest := { d with answers := d.answers.tail }
  match d.answers.headD .done, change (d.session.records id) with
  | .refused message, _ => (.error message, rest)
  | _, .error message => (.error message, rest)
  | .done, .ok none => (.ok (), rest)
  | .torn message, .ok none => (.error message, rest)
  | .done, .ok (some phase) => (.ok (), rest.map (·.setPhase id phase))
  | .torn message, .ok (some phase) => (.error message, rest.map (·.setPhase id phase))⟩

/-- Which phase `transition` publishes. -/
def transitionPhase (target : Phase) (phase : Phase) : Except String (Option Phase) :=
  if target ∈ transitions phase then .ok (some target) else .error "invalid journal transition"

/-- The same with evidence of a cleanup, which may be given once more. -/
def evidencePhase (phase : Phase) : Except String (Option Phase) :=
  if .cleanupIntent ∈ transitions phase ∨ phase = .cleanupIntent then .ok (some .cleanupIntent)
  else .error "invalid journal transition"

/-- Which phase `begin_cleanup` publishes. -/
def beginPhase (phase : Phase) : Except String (Option Phase) :=
  if phase = .cleanupIntent ∨ phase.Terminal then .ok none
  else if .cleanupIntent ∈ transitions phase then .ok (some .cleanupIntent)
  else .error "resource cannot enter cleanup"

/-- Which phase `finish_cleanup` publishes. -/
def finishPhase (complete : Bool) (phase : Phase) : Except String (Option Phase) :=
  let target : Phase := if complete then .reclaimed else .cleanupFailed
  if phase.Terminal ∨ phase = target then .ok none
  else if phase = .cleanupIntent then .ok (some target)
  else .error "cleanup result lacks durable intent"

def transition (id : RecordId) (target : Phase) : Prog String Desk Unit :=
  commit id (transitionPhase target)

def beginCleanup (id : RecordId) : Prog String Desk Unit := commit id beginPhase

def finishCleanup (id : RecordId) (complete : Bool) : Prog String Desk Unit :=
  commit id (finishPhase complete)

/-- Something that is done under a condition. -/
def provided (c : Prop) [Decidable c] (m : Prog String Desk Unit) : Prog String Desk Unit :=
  if c then m else pure ()

/-- Something that is done only if there is a journal. -/
def ifJournaled (m : Prog String Desk Unit) : Prog String Desk Unit := do
  let journaled ← Prog.gets (·.session.journaled)
  provided journaled m

/-- An exception is dropped. -/
def dropped (m : Prog String Desk Unit) : Prog String Desk Unit :=
  m.handle fun _ => some (pure ())

/-- `f` is run for every element, and what it raises is collected. -/
def collect {α : Type} (f : α → Prog String Desk Unit) :
    List α → Prog String Desk (List (α × String))
  | [] => pure []
  | a :: as => do
    let failure ← (f a >>= fun _ => pure none).handle fun message => some (pure (some message))
    let failures ← collect f as
    pure ((failure.map fun message => (a, message)).toList ++ failures)

/-! ### Sandboxes and workers -/

/-- One of the sandboxes is closed. -/
def Sandboxes.close (y : Sandboxes) (i : Nat) (x : CloseInput) : Sandboxes × Option String :=
  match y.gates[i]? with
  | none => (y, none)
  | some g => ({ y with gates := y.gates.set i (g.close x).1 }, (g.close x).2)

/-- How closing a reservation ends when there is no result yet. -/
inductive WorkerClose where
  | torn (complete : Bool) (failures : List String)
  /-- Another call did not give up the reservation in time. -/
  | busy
  | raised (message : String)
deriving DecidableEq, Repr

/-- `WorkerReservation.close`. A result is kept. -/
def closeWorker (i : Nat) (input : WorkerClose) : Prog String Desk (Bool × List String) := ⟨fun d =>
  match d.session.workers[i]? with
  | none => (.ok (true, []), d)
  | some w =>
    match input, w.closeResult with
    | .busy, _ => (.ok (false, ["worker cleanup did not serialize before deadline"]), d)
    | _, some result => (.ok result, d)
    | .raised message, none => (.error message, d)
    | .torn complete failures, none =>
      let kept : Worker := { w with closeResult := some (complete, failures) }
      (.ok (complete, failures), d.map fun s => { s with workers := s.workers.set i kept })⟩

/-- Closing a reservation with its record, as `cleanup_session` and
    `finish_worker_release` do. -/
def cleanupWorker (i : Nat) (input : WorkerClose) : Prog String Desk (Bool × List String) := do
  let record ← Prog.gets fun d => (d.session.workers[i]?.map Worker.record).getD 0
  ifJournaled (beginCleanup (.resource record))
  let (complete, failures) ← closeWorker i input
  ifJournaled (finishCleanup (.resource record) (complete && failures.isEmpty))
  provided complete (alter fun s => { s with reservation := none })
  return (complete, failures)

/-! ### The control group -/

/-- What is inside the `try` for the control group. -/
def cleanupGroup (group : Group) (deadline : Nat) : Prog String Desk Unit := do
  ifJournaled (beginCleanup .cgroup)
  -- `settings` looks at the descriptor, which is closed after the removal.
  provided group.removed (Prog.raise "[Errno 9] Bad file descriptor")
  os
  let now ← Prog.gets (·.session.clock)
  provided (deadline ≤ now)
    (Prog.raise "cgroup population did not become empty before deadline")
  os
  ifJournaled (commit .cgroup evidencePhase)
  os
  alter fun s => { s with cgroup := some { group with removed := true } }
  ifJournaled (transition .cgroup .reclaimed)
  alter fun s => { s with cgroup := none }

/-! ### The processes -/

/-- `_reclaim_group_process`. -/
def reclaimGroupProcess (id : Nat) : Prog String Desk Unit := do
  let group ← (os >>= fun _ => Prog.gets fun d => some (d.session.records .cgroup)).handle
    fun _ => some (pure none)
  match group with
  | none | some .ambiguous => transition (.process id) .ambiguous
  | some .reclaimed => do
    beginCleanup (.process id)
    transition (.process id) .reclaimed
  | some _ => do
    beginCleanup (.process id)
    finishCleanup (.process id) false

/-- The record of a process has to be reclaimed. -/
def confirmProcess (process : ProcessRecord) : Prog String Desk Unit := do
  os
  let phase ← Prog.gets (·.session.records (.process process.id))
  provided (¬ phase.Terminal ∧ process.grouped) (reclaimGroupProcess process.id)
  os
  let phase ← Prog.gets (·.session.records (.process process.id))
  provided (phase ≠ .reclaimed) (Prog.raise "unconfirmed")

/-! ### The leases -/

def setLease (name : LeaseName) (lease : Option Lease) : Prog String Desk Unit :=
  alter fun s => { s with leases := Function.update s.leases name lease }

/-- The phases in which `release` notes that it is going to clean up. -/
def noted (phase : Phase) : Prop :=
  phase = .durableOwned ∨ phase = .active ∨ phase = .cleanupFailed

instance (phase : Phase) : Decidable (noted phase) := inferInstanceAs (Decidable (_ ∨ _ ∨ _))

/-- The removal of a snapshot, with its record. -/
def removeLease (name : LeaseName) (tracked : Bool) : Prog String Desk Unit := do
  os.handle fun _ => some do
    provided tracked (dropped (transition (.snapshot name) .cleanupFailed))
    Prog.raise "frozen artifact snapshot removal failed"
  provided tracked (transition (.snapshot name) .reclaimed)
  setLease name (some { tracked := false, closed := true })

/-- The record of a snapshot that is going to be removed. -/
def noteLease (name : LeaseName) : Prog String Desk Unit := do
  os
  let phase ← Prog.gets (·.session.records (.snapshot name))
  provided (noted phase) (transition (.snapshot name) .cleanupIntent)

/-- `FrozenStore.release`. -/
def releaseLease (name : LeaseName) (lease : Lease) : Prog String Desk Unit := do
  let tracked ← Prog.gets fun d => d.session.journaled && lease.tracked
  provided tracked (noteLease name)
  if ¬ lease.closed then do
    os
    setLease name (some { lease with closed := true })
    os
    setLease name (some { lease with closed := true, pending := true })
    removeLease name tracked
  else if lease.pending then removeLease name tracked
  else pure ()

/-- One of the leases, if the session has it. -/
def closeLease (name : LeaseName) : Prog String Desk Unit := do
  match ← Prog.gets (·.session.leases name) with
  | none => pure ()
  | some lease => do
    releaseLease name lease
    setLease name none

/-! ### The stages -/

/-- How a stage ends. -/
inductive Progress where
  | next (stage : Stage) (attempt : Attempt)
  | returns (result : CleanupResult)
  | raises (message : String)

/-- What the outside decides in a stage. -/
structure StageInput where
  /-- Cancelling a process raised. -/
  cancel : Option String := none
  gate : CloseInput := {}
  worker : WorkerClose := .torn true []
  answers : List Answer := []

namespace Attempt

def note (a : Attempt) (resource : Resource) (failure : String) : Attempt :=
  { a with failures := a.failures ++ [failure], remaining := a.remaining ++ [resource] }

def noteIf (a : Attempt) (resource : Resource) (label : String) : Option String → Attempt
  | none => a
  | some message => a.note resource (label ++ message)

def noteAll {α : Type} (a : Attempt) (resource : α → Resource) (label : α → String)
    (failures : List (α × String)) : Attempt :=
  failures.foldl (fun a failure => a.note (resource failure.1) (label failure.1 ++ failure.2)) a

/-- The result at which the stages before the leases end early. -/
def incomplete (a : Attempt) (resource : Resource) (failure : String) : CleanupResult :=
  let noted := a.note resource failure
  .incomplete noted.remaining noted.failures

/-- The result of all stages. -/
def result (a : Attempt) : CleanupResult :=
  ⟨a.failures.isEmpty && a.remaining.isEmpty, a.remaining.eraseDups, a.failures⟩

end Attempt

/-- The view of the source is kept when something was made of it. -/
def Session.retained (s : Session) : Bool := s.authoringEnabled && (s.submitted || s.prepared)

/-- The session once the result of all stages is known. -/
def Session.published (s : Session) (a : Attempt) : Session :=
  { s with
    closed := a.result.complete
    closing := !a.result.complete
    authoring := { s.authoring with active := none }
    building := { s.building with active := none }
    reservation := if .worker ∈ a.remaining then a.worker else none
    cleanupResult := some a.result }

/-- One stage of the cleanup. There is none while the call waits. -/
def Session.advance (s : Session) (a : Attempt) (x : StageInput) :
    Stage → Option (Session × Progress)
  | .recheck =>
    match s.cleanupResult with
    | some result => some (s, .returns result)
    | none => some (s, .next .begin a)
  | .begin =>
    if s.closed then some (s, .returns ⟨true, [], []⟩)
    else
      some ({ s with closing := true, sealed := true, cleanupEvent := true },
        .next .authoring { a with
          authoring := s.authoring.active, build := s.building.active, worker := s.reservation })
  | .authoring =>
    match x.cancel, a.authoring with
    | some message, _ => some (s, .raises message)
    | none, none => some (s, .next .build a)
    | none, some i =>
      some ({ s with authoring := (s.authoring.close i x.gate).1 },
        .next .build (a.noteIf .authoring "authoring cleanup failed: "
          (s.authoring.close i x.gate).2))
  | .build =>
    match a.build with
    | none => some (s, .next .awaitAuthoring a)
    | some i =>
      some ({ s with building := (s.building.close i x.gate).1 },
        .next .awaitAuthoring (a.noteIf .build "build cleanup failed: "
          (s.building.close i x.gate).2))
  | .awaitAuthoring =>
    if s.author = none then some (s, .next .awaitPreparation a)
    else if a.deadline ≤ s.clock then
      some (s, .returns (a.incomplete .authoring
        "authoring admission did not quiesce before cleanup deadline"))
    else none
  | .awaitPreparation =>
    if s.preparer = none then some (s, .next .worker a)
    else if a.deadline ≤ s.clock then
      some (s, .returns (a.incomplete .preparation
        "preparation did not quiesce before cleanup deadline"))
    else none
  | .worker =>
    match a.worker with
    | none => some (s, .next .cgroup a)
    | some i =>
      match (cleanupWorker i x.worker).run ⟨s, x.answers⟩ with
      | (.error message, d) => some (d.session, .raises message)
      | (.ok (complete, failures), d) =>
        some (d.session, .next .cgroup { a with
          failures := a.failures ++ failures
          remaining := a.remaining ++ (if complete then [] else [.worker]) })
  | .cgroup =>
    match s.cgroup with
    | none => some (s, .next .processes a)
    | some group =>
      match (cleanupGroup group a.deadline).run ⟨s, x.answers⟩ with
      | (.ok _, d) => some (d.session, .next .processes a)
      | (.error message, d) =>
        some (((dropped (ifJournaled (finishCleanup .cgroup false))).run d).2.session,
          .returns (a.incomplete .cgroup ("cgroup cleanup failed: " ++ message)))
  | .processes =>
    if s.journaled then
      match (collect confirmProcess s.processes).run ⟨s, x.answers⟩ with
      | (.ok (_ :: _), d) =>
        some (d.session, .returns (a.incomplete .processJournal
          "process cleanup observation is unconfirmed"))
      | (_, d) => some (d.session, .next .leases a)
    else some (s, .next .leases a)
  | .leases =>
    match (collect closeLease LeaseName.all).run ⟨s, x.answers⟩ with
    | (.ok failures, d) =>
      some (d.session, .next .view
        (a.noteAll .lease (fun name => name.text ++ " cleanup failed: ") failures))
    | (.error message, d) => some (d.session, .raises message)
  | .view =>
    if s.view ∧ ¬ s.retained then
      match os.run ⟨s, x.answers⟩ with
      | (.ok _, d) => some (d.session, .next .intents a)
      | (.error _, d) =>
        some (d.session, .next .intents (a.note .sourceView "source view cleanup failed"))
    else some (s, .next .intents a)
  | .intents =>
    if s.journaled then
      match (collect beginCleanup s.journalIds).run ⟨s, x.answers⟩ with
      | (.ok failures, d) =>
        some (d.session, .next .directory
          (a.noteAll (fun _ => .journal) (fun _ => "journal cleanup intent failed: ") failures))
      | (.error message, d) => some (d.session, .raises message)
    else some (s, .next .directory a)
  | .directory =>
    match os.run ⟨s, x.answers⟩ with
    | (.ok _, d) =>
      let removed := d.map fun s => { s with directory := false }
      if s.journaled then
        match (collect (finishCleanup · true) s.journalIds).run removed with
        | (.ok failures, d) =>
          some (d.session, .next .publish
            (a.noteAll (fun _ => .journal) (fun _ => "journal cleanup result failed: ") failures))
        | (.error message, d) => some (d.session, .raises message)
      else some (removed.session, .next .publish a)
    | (.error message, d) =>
      let noted := a.note .sessionDirectory ("session directory cleanup failed: " ++ message)
      if s.journaled then
        some (((collect (finishCleanup · false) s.journalIds).run d).2.session,
          .next .publish noted)
      else some (d.session, .next .publish noted)
  | .publish => some (s.published a, .next (.pop a.result) a)
  | .pop result => some ({ s with popped := s.popped || result.complete }, .returns result)

end MirrorGate.Backend
