import MirrorGate.Control.Hosting

/-!
# Sessions

What the controller keeps for a session, with the part of the backend's
session that gates what the controller does, and the critical sections that
touch only one session. Threads that work for an operation hold its record
even when it was evicted from the table, so the records stay where they are
and `listed` says whether the table still has them.

The counts of resources are left out. The controller reports those of the
backend, and its own serve a backend that has none.

## Main definitions

* `Operation`, `Session`, `BackendSession`.
* `Session.newOperation`, `Session.finishOperation`, `Session.evict`: The
  table of operations.
* `Session.finishEvent`, `Session.closedEvent`: Which events are due.
* `Session.cleanupOperation`, `Session.cleanupCommit`: The beginning and the
  end of the cleanup.
* `Session.prepareBegin`, `Session.prepareCommit`, `Session.authorizeCheck`,
  `Session.authorizeCommit`, `Session.acquire`, `Session.launchGuard`: The way
  to a worker.
-/

namespace MirrorGate.Control

structure Operation where
  operationId : Nat
  status : OperationStatus := .pending
  cancel : Bool := false
  advertised : Bool := true
  notified : Bool := false
  /-- The table of operations has the record. -/
  listed : Bool := true
  /-- The threads that still drain the output of its process. -/
  drains : Nat := 0
  stdoutBytes : Nat := 0
  stderrBytes : Nat := 0
deriving DecidableEq, Repr

/-- What `active_ordinary` names: an operation, or the tool of a hosted run. -/
inductive Slot where
  | operation (operationId : Nat)
  | tool
deriving DecidableEq, Repr

/-- The backend's side of a session, as far as the controller depends on it. -/
structure BackendSession where
  sealed : Bool := false
  submitting : Bool := false
  /-- The cleanup of the session has begun. -/
  closing : Bool := false
  /-- The admission lease, by number. -/
  authorization : Option Nat := none
deriving DecidableEq, Repr

/-- What has happened on the way to a worker. No function of the source looks
    at it. -/
inductive Milestone where
  | authorized (preparedRevision : Nat) (challenge : String)
  | acquired (authorizationId workerId : String)
  | attached (candidate : Candidate)
  | guarded
  | launched

structure Session where
  sessionId : String
  /-- The digest of the interface in the manifest. -/
  interfaceDigest : String
  manifestHash : String
  phase : SessionPhase
  operations : List Operation := []
  nextOperationId : Nat := 1
  activeOrdinary : Option Slot := none
  cleanupOperation : Option Nat := none
  prepared : Option Prepared := none
  admission : Option Nat := none
  authorizationId : Option String := none
  authorizationUsed : Bool := false
  workerId : Option String := none
  reservation : Option Reservation := none
  outputChunks : List ((Nat × Stream) × Nat) := []
  cleanup : CleanupState := {}
  cleanupMode : Option CleanupMode := none
  closingReason : Option Reason := none
  closedEventSent : Bool := false
  hosting : Hosting := {}
  backend : BackendSession := {}
  /-- The lock of the session is held between two actions. -/
  locked : Bool := false
  /-- What has happened on the way to a worker, for reasoning only. -/
  trail : List Milestone := []

namespace Session

/-! ### Operations -/

def operation (s : Session) (id : Nat) : Option Operation :=
  s.operations.find? fun op => op.operationId = id

def updateOperation (s : Session) (id : Nat) (f : Operation → Operation) : Session :=
  { s with operations := s.operations.map fun op => if op.operationId = id then f op else op }

/-- `_new_operation`, for an ordinary operation. -/
def newOperation (s : Session) : Except ControlError (Session × Nat) :=
  if s.phase.Ending then .error ⟨.stateInvalid, .cleanup, "session is closing or closed"⟩
  else if s.activeOrdinary ≠ none then
    .error ⟨.stateInvalid, .authoring, "ordinary operation already active"⟩
  else
    .ok ({ s with
      operations := s.operations ++ [{ operationId := s.nextOperationId }]
      nextOperationId := s.nextOperationId + 1
      activeOrdinary := some (.operation s.nextOperationId) }, s.nextOperationId)

/-- The section in which an operation comes to its end. -/
def finishOperation (s : Session) (id : Nat) (status : OperationStatus) : Session :=
  { s.updateOperation id fun op => { op with status := status } with
    activeOrdinary :=
      if s.activeOrdinary = some (.operation id) then none else s.activeOrdinary }

/-- `_finish_event`: the event that is due, at most once. -/
def finishEvent (s : Session) (id : Nat) : Session × Option EventBody :=
  match s.operation id with
  | some op =>
    if op.advertised ∧ op.notified = false then
      (s.updateOperation id fun op => { op with notified := true },
        some (.operationFinished id op.status))
    else (s, none)
  | none => (s, none)

/-- The first `k` finished operations leave the table. -/
def unlist : Nat → List Operation → List Operation
  | 0, ops => ops
  | _, [] => []
  | k + 1, op :: ops =>
    if op.listed ∧ op.status ≠ .pending then { op with listed := false } :: unlist k ops
    else op :: unlist (k + 1) ops

/-- `_evict`: the oldest finished operations leave the table. -/
def evict (s : Session) (maxCompleted : Nat) : Session :=
  let complete := s.operations.countP fun op => op.listed && op.status ≠ .pending
  { s with operations := unlist (complete - maxCompleted) s.operations }

/-- The number of the next chunk of a stream. -/
def nextChunk (s : Session) (id : Nat) (stream : Stream) : Nat :=
  (s.outputChunks.lookup (id, stream)).getD 0 + 1

/-- The section of `_output`. -/
def countChunk (s : Session) (id : Nat) (stream : Stream) : Session :=
  { s with outputChunks := ((id, stream), s.nextChunk id stream) :: s.outputChunks }

/-! ### Hosting in a session -/

/-- Adoption also moves the session on, unless it is being closed. -/
def adopting (s : Session) (hosting : Hosting) : Session :=
  { s with
    hosting := hosting
    phase := if s.hosting.Adopts ∧ ¬ s.phase.Ending then .submitted else s.phase }

/-! ### Cleanup -/

/-- What `_cleanup_operation` finds. -/
inductive CleanupStart where
  /-- The cleanup began before. The flag says that its end is to be
      announced. -/
  | existing (operationId : Nat) (announce : Bool)
  | begun (operationId : Nat)
  /-- The record is no longer in the table. -/
  | missing (operationId : Nat)
deriving DecidableEq, Repr

/-- The new cleanup operation. Everything else that is pending is told to
    stop. -/
def beginCleanup (s : Session) (reason : Reason) (advertise : Bool) : Session :=
  { s with
    operations :=
      (s.operations.map fun op => if op.status = .pending then { op with cancel := true } else op)
        ++ [{ operationId := s.nextOperationId, advertised := advertise }]
    nextOperationId := s.nextOperationId + 1
    cleanupOperation := some s.nextOperationId
    phase := .closing
    cleanup := { status := .pending }
    closingReason := some reason
    hosting := s.hosting.cancel reason }

/-- The section of `_cleanup_operation`. -/
def cleanupOperationSection (s : Session) (reason : Reason) (advertise : Bool) :
    Session × CleanupStart :=
  match s.cleanupOperation with
  | none => (s.beginCleanup reason advertise, .begun s.nextOperationId)
  | some id =>
    match s.operation id with
    | some op =>
      if op.listed then
        if advertise ∧ op.advertised = false then
          (s.updateOperation id fun op => { op with advertised := true },
            .existing id (op.status ≠ .pending))
        else (s, .existing id false)
      else (s, .missing id)
    | none => (s, .missing id)

/-- The cleanup raised. -/
def cleanupAbort (s : Session) (remaining : List String) : Session :=
  { s with phase := .cleanupFailed, cleanup := ⟨.failed, remaining⟩ }

/-- The cleanup came to its end. -/
def cleanupCommit (s : Session) (complete : Bool) (remaining : List String) : Session :=
  { s with
    phase := if complete then .closed else .cleanupFailed
    cleanup := ⟨if complete then .succeeded else .failed, remaining.eraseDups⟩ }

/-- `_session_closed_event`: the event that is due, at most once. -/
def closedEvent (s : Session) : Session × Option EventBody :=
  if s.closedEventSent then (s, none)
  else ({ s with closedEventSent := true }, some (.sessionClosed s.phase s.cleanup))

/-! ### The way to a worker -/

/-- A hosted run lets the session go on to preparation. -/
def HostSettled (s : Session) : Prop :=
  s.hosting.run.all (fun run => run.outcome = some .submitted ∧ run.phase = .finished ∧
    run.cleanup.status = .succeeded) = true

instance (s : Session) : Decidable s.HostSettled := inferInstanceAs (Decidable (_ = _))

/-- The first section of `session.prepare`. -/
def prepareBegin (s : Session) : Except ControlError Session :=
  if (s.phase ≠ .opened ∧ s.phase ≠ .authoring ∧ s.phase ≠ .submitted) ∨
      s.activeOrdinary ≠ none ∨ ¬ s.HostSettled then
    .error ⟨.stateInvalid, .prepare, "session cannot prepare in this phase"⟩
  else .ok { s with phase := .preparing }

/-- The section that records what the backend has prepared. -/
def prepareCommit (s : Session) (prepared : Prepared) : Except ControlError Session :=
  if s.hosting.run.any (fun run => prepared.sourceHash ≠ run.submission.map (·.sourceHash.val)) then
    .error ⟨.preparationFailed, .prepare, "prepared source does not match committed submission"⟩
  else if s.phase ≠ .preparing then
    .error ⟨.cancelled, .prepare, "preparation cancelled"⟩
  else .ok { s with phase := .prepared, prepared := some prepared }

/-- The first section of `session.authorize`. -/
def authorizeCheck (s : Session) (revision : Nat) (challenge digest : String) :
    Except ControlError Unit :=
  match s.phase, s.prepared with
  | .prepared, some prepared =>
    if revision ≠ 1 ∨ challenge ≠ prepared.challenge ∨ digest ≠ s.interfaceDigest then
      .error ⟨.negotiationAttestationInvalid, .authorize,
        "attestation does not match prepared session"⟩
    else .ok ()
  | _, _ => .error ⟨.stateInvalid, .authorize, "session is not prepared"⟩

/-- The last section of `session.authorize`. -/
def authorizeCommit (s : Session) (lease : Nat) (authorizationId : String) :
    Except ControlError Session :=
  if s.phase ≠ .prepared then
    .error ⟨.cancelled, .authorize, "session changed during authorization"⟩
  else
    .ok { s with
      phase := .authorized
      admission := some lease
      authorizationId := some authorizationId }

/-- The first section of `worker.acquire`. -/
def acquire (s : Session) (authorizationId workerId : String) : Except ControlError Session :=
  if s.phase ≠ .authorized ∨ s.authorizationId ≠ some authorizationId ∨ s.authorizationUsed then
    .error ⟨.handleInvalid, .attach, "invalid authorization handle"⟩
  else
    .ok { s with authorizationUsed := true, workerId := some workerId, phase := .reserved }

/-- `_launch_guard`. -/
def launchGuard (s : Session) (workerId : String) (admission : Nat) : Session × Bool :=
  if s.phase ≠ .reserved ∨ s.workerId ≠ some workerId ∨ s.admission ≠ some admission then
    (s, false)
  else ({ s with phase := .starting }, true)

/-- The section of `_worker_event`. The flag says that a worker was lost. -/
def workerEvent (s : Session) : WorkerEvent → Session × Bool
  | .ready => ({ s with phase := if s.phase = .starting then .running else s.phase }, false)
  | .exited _ _ => (s, decide (¬ s.phase.Ending))
  | _ => (s, false)

/-- The event as the client gets it. The reason of an exit is the one the
    session was closed for. -/
def workerNotice (recorded : Option Reason) : WorkerEvent → WorkerNotice
  | .started => .started
  | .ready => .ready
  | .closing reason _ => .closing reason
  | .exited raw returncode =>
    .exited (recorded.getD
      (if raw.text = "wall_timeout" then .deadline
        else if raw.text = "client-disconnected" then .clientFailure
        else .workerFailure)) returncode

end Session

end MirrorGate.Control
