import MirrorGate.Lib.Json
import MirrorGate.Lib.Threads
import MirrorGate.Journal.Record
import MirrorGate.Worker.Flow

/-!
# A Worker Reservation and Its Threads

One reservation owns an endpoint at which the client may attach once. An
accept thread waits for an authentic attachment and launches the worker, two
relay threads carry frames, a third drains the error stream, and anybody may
arm the closing of the reservation or close it. They share the fields of the
reservation under `_lock`, and the flow under a lock of its own.

Every thread is at one action at a time, and the actions are the pieces of
the source between two points at which another thread may run: a critical
section, a call that blocks, or the delivery of an event. Events are
delivered outside of `_lock`, with two exceptions. The closing event is
delivered inside it, so the lock stays taken until `releaseLock`, and the
ready event is delivered inside the lock of the flow, which stays taken until
`releaseFlow`.

The outside decides what a blocking call returns or raises, which frames
arrive and what the process has come to. The sandbox itself is not modelled.
Of tearing it down there remain the failures it reports and whether the
endpoint directory could be removed.

## Main definitions

* `WorkerEvent`: What is reported to the owner of the reservation.
* `WorkerTerms`, `WorkerTerms.check`: What an attachment has to present.
* `Reservation`: The fields the threads share, and the delivered events.
* `WorkerAct`, `WorkerInput`: The actions of the threads, and what the
  outside decides for them.
* `Reservation.perform`: What each action does.
* `Reservation.start`: The accept thread, and calls from outside.

## Theorems

* `perform_cases`: The actions by the threads they belong to.
-/

namespace MirrorGate

/-- What a reservation reports to its owner. -/
inductive WorkerEvent where
  | started
  | ready
  | closing (reason : Reason) (mode : CleanupMode)
  | exited (reason : Reason) (returncode : Option Int)
deriving DecidableEq, Repr

/-! ### Attachment -/

structure Attach where
  sessionId : String
  workerId : String
  attachmentToken : String
deriving DecidableEq, Repr

/-- Lower-case hexadecimal digits of a given number. -/
def IsHexText (length : Nat) (text : String) : Prop :=
  text.toList.length = length ∧ text.toList.all isHexDigit = true

instance (length : Nat) (text : String) : Decidable (IsHexText length text) :=
  inferInstanceAs (Decidable (_ ∧ _))

def attachFields : List String := ["v", "kind", "sessionId", "workerId", "attachmentToken"]

/-- The handles of an attachment, once its fields and its contract version
    are as expected. -/
def attachHandles (members : List (String × Json)) : Except String Attach :=
  match members.lookup "sessionId", members.lookup "workerId",
    members.lookup "attachmentToken" with
  | some (.str sessionId), some (.str workerId), some (.str attachmentToken) =>
    if IsHexText 32 sessionId ∧ IsHexText 32 workerId ∧ IsHexText 64 attachmentToken then
      .ok ⟨sessionId, workerId, attachmentToken⟩
    else .error "attachment handles have invalid encoding"
  | _, _, _ => .error "attachment handles must be strings"

/-- `_strict_attach`, from the decoded document on. -/
def strictAttach : Json → Except String Attach
  | .obj members =>
    let keys := members.map Prod.fst
    if ¬ keys.Nodup then .error "duplicate attachment field"
    else if ¬ (keys.all (attachFields.contains ·) ∧ attachFields.all (keys.contains ·)) then
      .error "attachment fields do not match contract"
    else
      match members.lookup "v", members.lookup "kind" with
      | some (.int 1), some (.str "attach") => attachHandles members
      | _, _ => .error "unsupported attachment contract"
  | _ => .error "attachment fields do not match contract"

/-- What the reservation was made for. -/
structure WorkerTerms where
  principalUid : Nat
  serverUid : Nat
  sessionId : String
  workerId : String
  attachmentToken : String
  /-- The admission lease, by number. -/
  admission : Nat
deriving DecidableEq, Repr

/-- A connection to the endpoint: its peer, the document it sent or the error
    of receiving one, and whether the reservation had expired by then. -/
structure Candidate where
  uid : Nat
  frame : Except String Json
  expired : Bool

/-- The checks on a connection, in the order in which they are made. -/
def WorkerTerms.check (terms : WorkerTerms) (candidate : Candidate) : Except String Unit :=
  if candidate.uid ≠ terms.principalUid ∨ candidate.uid ≠ terms.serverUid then
    .error "worker attachment principal mismatch"
  else
    match candidate.frame.bind strictAttach with
    | .error message => .error message
    | .ok attach =>
      if attach.sessionId ≠ terms.sessionId ∨ attach.workerId ≠ terms.workerId ∨
          attach.attachmentToken ≠ terms.attachmentToken then
        .error "worker attachment authority is invalid"
      else if candidate.expired then .error "worker attachment expired"
      else .ok ()

/-! ### The reservation -/

structure Reservation where
  terms : WorkerTerms
  closing : Bool := false
  cleanupMode : Option CleanupMode := none
  closingReason : Option Reason := none
  failure : Option String := none
  exitEventSent : Bool := false
  /-- `_process` is set. -/
  process : Bool := false
  flow : WorkerFlow := {}
  /-- `_closed` is set. -/
  closed : Bool := false
  closeResult : Option (Bool × List String) := none
  /-- The endpoint directory exists. -/
  directory : Bool := true
  /-- `_lock` is held between two actions. -/
  locked : Bool := false
  /-- The lock of the flow is held between two actions. -/
  flowLocked : Bool := false
  /-- `_teardown_lock` is held. -/
  tearing : Bool := false
  /-- The events delivered so far. -/
  events : List WorkerEvent := []

/-- What has become of a process. -/
inductive ProcessReason where
  | exited
  | wallTimeout
  | other
deriving DecidableEq, Repr

structure ProcessStatus where
  reason : ProcessReason
  returncode : Option Int
deriving DecidableEq, Repr

inductive WorkerAct where
  -- `_accept`
  | accept
  | candidate
  | launchGuard
  | recheck
  | launch
  | store
  | announceStarted
  | acknowledge
  -- `_client_to_worker`
  | clientToWorker
  | writeRequest
  -- `_worker_to_client`
  | workerToClient
  | announceReady
  | releaseFlow
  | sendResponse
  | claimExit
  | reportExit
  -- `_drain_stderr`
  | drainStderr
  -- `_fail`
  | fail (message : String) (reason : Reason)
  | reportFailure (reason : Reason) (emitExit process : Bool)
  | setClosed
  -- `arm_closing`, called from outside or by `close`
  | armClosing (reason : Reason) (inClose : Bool)
  | announceClosing (reason : Reason) (mode : CleanupMode) (inClose : Bool)
  | releaseLock (mode : CleanupMode) (inClose : Bool)
  -- `close`
  | close (reason : Reason) (mode : Option CleanupMode)
  | chooseMode (reason : Reason) (mode : Option CleanupMode)
  | teardown (mode : CleanupMode)
deriving DecidableEq, Repr

inductive WorkerInput where
  /-- The call returned. -/
  | done
  /-- The call raised. -/
  | raised (message : String)
  | timedOut
  | expired
  | connected (candidate : Candidate)
  | guarded (allowed : Bool)
  | request (frame : Except ProtocolError WorkerRequest)
  | response (frame : Except ProtocolError WorkerResponse)
  /-- The stream ended, with nothing left in the buffer. -/
  | ended
  | status (status : ProcessStatus)
  | torn (failures : List String) (endpoint : Option String)

namespace Reservation

def truncate (message : String) : String := String.ofList (message.toList.take 1024)

/-- The mode that arming decides on. -/
def armMode (r : Reservation) : CleanupMode :=
  if r.process then r.flow.cleanupMode else .terminateOnly

/-- The critical section of `arm_closing` when nothing was armed before. -/
def arm (r : Reservation) (reason : Reason) : Reservation :=
  { r with
    closing := true
    closingReason := some reason
    flow := if r.process then r.flow.beginClosing else r.flow
    cleanupMode := some r.armMode }

/-- The critical section of `_fail`. -/
def failSection (r : Reservation) (message : String) : Reservation :=
  { r with
    failure := some (r.failure.getD (truncate message))
    closing := true
    flow := r.flow.beginClosing
    exitEventSent := true }

/-- The reason reported when the output of the worker has ended. -/
def exitReason (r : Reservation) (status : ProcessStatus) : Reason :=
  r.closingReason.getD <|
    match status.reason with
    | .exited => .normal
    | .wallTimeout => .deadline
    | .other => .workerFailure

def emit (r : Reservation) (event : WorkerEvent) : Reservation :=
  { r with events := r.events ++ [event] }

/-- What tearing down reports, and the directory it leaves. -/
def torn (r : Reservation) (failures : List String) (endpoint : Option String) : Reservation :=
  let physical := failures ++ (endpoint.map ("endpoint cleanup failed: " ++ ·)).toList
  let cooperative := (r.flow.cooperativeFailure.map ("cooperative dispose failed: " ++ ·)).toList
  { r with
    directory := r.directory && endpoint.isSome
    closed := true
    closeResult := some (physical.isEmpty, physical ++ cooperative)
    tearing := false }

def performAccept (r : Reservation) :
    WorkerAct → WorkerInput → Option (Outcome Reservation WorkerAct)
  | .accept, .done =>
    if r.locked then none
    else if r.closing then some { shared := r }
    else some { shared := r, more := [.candidate] }
  | .candidate, .expired =>
    some { shared := r, more := [.fail "worker attachment expired" .workerFailure] }
  | .candidate, .connected candidate =>
    match r.terms.check candidate with
    | .ok () => some { shared := r, more := [.launchGuard] }
    | .error _ => some { shared := r, more := [.accept] }
  | .launchGuard, .guarded true => some { shared := r, more := [.recheck] }
  | .launchGuard, .guarded false =>
    some { shared := r, more := [.fail "worker launch is no longer authorized" .workerFailure] }
  | .recheck, .done =>
    if r.locked then none
    else if r.closing then some { shared := r }
    else some { shared := r, more := [.launch] }
  | .launch, .done => some { shared := r, more := [.store] }
  | .store, .done =>
    if r.locked then none
    else if r.closing then some { shared := r }
    else some { shared := { r with process := true }, more := [.announceStarted] }
  | .store, .raised message =>
    -- The worker is stopped again, and that may fail.
    if r.locked ∨ r.closing = false then none
    else some { shared := r, more := [.fail message .workerFailure] }
  | .announceStarted, .done => some { shared := r.emit .started, more := [.acknowledge] }
  | .acknowledge, .done =>
    some { shared := r, spawned := [[.clientToWorker], [.workerToClient], [.drainStderr]] }
  | .candidate, .timedOut | .acknowledge, .timedOut =>
    some { shared := r, more := [.fail "worker attachment deadline exceeded" .workerFailure] }
  | .candidate, .raised message | .launchGuard, .raised message | .launch, .raised message
  | .acknowledge, .raised message =>
    some { shared := r, more := [.fail message .workerFailure] }
  | _, _ => none

def performRelay (r : Reservation) :
    WorkerAct → WorkerInput → Option (Outcome Reservation WorkerAct)
  | .clientToWorker, .request (.ok request) =>
    if r.flowLocked then none
    else
      match r.flow.clientFrame request with
      | (.ok (), flow) => some { shared := { r with flow := flow }, more := [.writeRequest] }
      | (.error e, flow) =>
        some { shared := { r with flow := flow }, more := [.fail e.message .workerFailure] }
  | .clientToWorker, .request (.error e) =>
    some { shared := r, more := [.fail e.message .workerFailure] }
  | .clientToWorker, .ended =>
    some { shared := r, more := [.fail "worker client disconnected" .clientFailure] }
  | .writeRequest, .done => some { shared := r, more := [.clientToWorker] }
  | .workerToClient, .response (.ok response) =>
    if r.flowLocked then none
    else
      match r.flow.workerFrame response with
      | (.ok true, flow) =>
        some { shared := { r with flow := flow, flowLocked := true }, more := [.announceReady] }
      | (.ok false, flow) => some { shared := { r with flow := flow }, more := [.sendResponse] }
      | (.error e, flow) =>
        some { shared := { r with flow := flow }, more := [.fail e.message .workerFailure] }
  | .workerToClient, .response (.error e) =>
    some { shared := r, more := [.fail e.message .workerFailure] }
  | .announceReady, .done => some { shared := r.emit .ready, more := [.releaseFlow] }
  | .releaseFlow, .done =>
    some { shared := { r with flowLocked := false }, more := [.sendResponse] }
  | .sendResponse, .done => some { shared := r, more := [.workerToClient] }
  | .workerToClient, .ended => some { shared := r, more := [.claimExit] }
  | .claimExit, .done =>
    if r.locked then none
    else some { shared := { r with exitEventSent := true }, more := [.reportExit] }
  | .reportExit, .status status =>
    some { shared := r.emit (.exited (r.exitReason status) status.returncode)
           more := [.setClosed] }
  | .drainStderr, .ended => some { shared := r }
  | .clientToWorker, .raised message | .writeRequest, .raised message
  | .workerToClient, .raised message | .sendResponse, .raised message
  | .drainStderr, .raised message =>
    some { shared := r, more := [.fail message .workerFailure] }
  | _, _ => none

def performClose (r : Reservation) :
    WorkerAct → WorkerInput → Option (Outcome Reservation WorkerAct)
  | .fail message reason, .done =>
    if r.locked ∨ r.flowLocked then none
    else
      some { shared := r.failSection message
             more := [.reportFailure reason (!r.exitEventSent) r.process] }
  | .reportFailure reason emitExit process, .status status =>
    let event := .exited reason (if process then status.returncode else none)
    some { shared := if emitExit then r.emit event else r, more := [.setClosed] }
  | .setClosed, .done => some { shared := { r with closed := true } }
  | .armClosing reason inClose, .done =>
    if r.locked ∨ (r.process ∧ r.flowLocked) then none
    else
      match r.cleanupMode with
      | none =>
        some { shared := { r.arm reason with locked := true }
               more := [.announceClosing reason r.armMode inClose] }
      | some mode => some { shared := r, more := if inClose then [.teardown mode] else [] }
  | .announceClosing reason mode inClose, .done =>
    some { shared := r.emit (.closing reason mode), more := [.releaseLock mode inClose] }
  | .releaseLock mode inClose, .done =>
    some { shared := { r with locked := false }, more := if inClose then [.teardown mode] else [] }
  | .close reason mode, .done =>
    if r.tearing then none
    else
      match r.closeResult with
      | some _ => some { shared := r }
      | none => some { shared := { r with tearing := true }, more := [.chooseMode reason mode] }
  | .close _ _, .timedOut => some { shared := r }
  | .chooseMode reason mode, .done =>
    if r.locked then none
    else
      match mode.or r.cleanupMode with
      | some mode => some { shared := r, more := [.teardown mode] }
      | none => some { shared := r, more := [.armClosing reason true] }
  | .teardown _, .torn failures endpoint => some { shared := r.torn failures endpoint }
  | .teardown _, .raised _ =>
    -- Stopping the process raised, and there is no result to keep.
    some { shared := { r with tearing := false } }
  | _, _ => none

/-- What an action does. -/
def perform (r : Reservation) (act : WorkerAct) (input : WorkerInput) :
    Option (Outcome Reservation WorkerAct) :=
  match act with
  | .accept | .candidate | .launchGuard | .recheck | .launch | .store | .announceStarted
  | .acknowledge => r.performAccept act input
  | .clientToWorker | .writeRequest | .workerToClient | .announceReady | .releaseFlow
  | .sendResponse | .claimExit | .reportExit | .drainStderr => r.performRelay act input
  | _ => r.performClose act input

/-- Every action belongs to the accept thread, to a relay, or to failing and
    closing. -/
theorem perform_cases {r : Reservation} {act : WorkerAct} {input : WorkerInput}
    {o : Outcome Reservation WorkerAct} (h : r.perform act input = some o) :
    r.performAccept act input = some o ∨ r.performRelay act input = some o ∨
      r.performClose act input = some o := by
  unfold perform at h
  split at h
  all_goals simp only [h, true_or, or_true]

/-- A call that may be made on a reservation from outside. -/
inductive Call where
  | armClosing (reason : Reason)
  | close (reason : Reason) (mode : Option CleanupMode)
deriving DecidableEq, Repr

def Call.act : Call → WorkerAct
  | .armClosing reason => .armClosing reason false
  | .close reason mode => .close reason mode

/-- A new reservation: its accept thread runs, and any number of calls will be
    made on it. -/
def start (terms : WorkerTerms) (calls : List Call) : Pool Reservation WorkerAct :=
  ⟨{ terms := terms }, [.accept] :: calls.map fun call => [call.act]⟩

end Reservation

end MirrorGate
