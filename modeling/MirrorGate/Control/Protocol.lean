import MirrorGate.Worker.Reservation

/-!
# The Control Protocol

What a client and the controller of its connection say to each other, as far
as the controller looks at it: requests that have passed validation, replies,
errors and events. Values the controller only passes on (command arguments,
attestations beyond the digest it compares, limits of a session) are left out
of the requests.

A response is kept together with the request it answers. On the wire it has
the identifier of the request only.

## Main definitions

* `ErrorCode`, `Stage`, `ControlError`, `Failure`: Errors, and what an
  exception of the backend carries.
* `SessionPhase`, `RunPhase`, `RunOutcome`, `CleanupStatus`.
* `RunRecord`: A snapshot of a hosted run.
* `OperationStatus`: What is public of an operation.
* `ControlOp`, `Request`, `Reply`, `EventBody`, `Event`, `Message`.
-/

namespace MirrorGate.Control

inductive ErrorCode where
  | versionUnsupported
  | capabilityUnavailable
  | argumentInvalid
  | policyDenied
  | handleInvalid
  | stateInvalid
  | limitExceeded
  | preparationFailed
  | buildFailed
  | negotiationAttestationInvalid
  | backendAdmissionFailed
  | attachmentFailed
  | workerProtocolFailed
  | workerExited
  | cancelled
  | deadlineExceeded
  | cleanupFailed
  | operationUnknown
  | agentStartFailed
  | agentExited
  | auditUnavailable
deriving DecidableEq, Repr

inductive Stage where
  | bootstrap
  | policy
  | authoring
  | prepare
  | build
  | authorize
  | attach
  | worker
  | cleanup
  | hosting
deriving DecidableEq, Repr

structure ControlError where
  code : ErrorCode
  stage : Stage
  message : String
deriving DecidableEq, Repr

/-- What an exception raised by the backend carries. -/
structure Failure where
  code : Option ErrorCode
  stage : Option Stage
  message : String
deriving DecidableEq, Repr

/-- The longest start of a text that takes at most `n` bytes. -/
def clipChars : Nat → List Char → List Char
  | _, [] => []
  | n, c :: cs => if c.utf8Size ≤ n then c :: clipChars (n - c.utf8Size) cs else []

/-- Messages are cut to 1024 bytes. -/
def clip (message : String) : String := String.ofList (clipChars 1024 message.toList)

inductive SessionPhase where
  | opened
  | authoring
  | submitted
  | preparing
  | prepared
  | authorized
  | reserved
  | starting
  | running
  | closing
  | closed
  | cleanupFailed
deriving DecidableEq, Repr

/-- The session is being closed or is closed. -/
def SessionPhase.Ending (phase : SessionPhase) : Prop :=
  phase = .closing ∨ phase = .closed ∨ phase = .cleanupFailed

instance (phase : SessionPhase) : Decidable phase.Ending :=
  inferInstanceAs (Decidable (_ ∨ _ ∨ _))

/-- The session has come to its end. -/
def SessionPhase.Ended (phase : SessionPhase) : Prop :=
  phase = .closed ∨ phase = .cleanupFailed

instance (phase : SessionPhase) : Decidable phase.Ended := inferInstanceAs (Decidable (_ ∨ _))

inductive CleanupStatus where
  | notStarted
  | pending
  | succeeded
  | failed
deriving DecidableEq, Repr

structure CleanupState where
  status : CleanupStatus := .notStarted
  remainingResources : List String := []
deriving DecidableEq, Repr

/-! ### Hosted runs -/

inductive RunPhase where
  | starting
  | running
  | submitting
  | cleaning
  | finished
deriving DecidableEq, Repr

inductive RunOutcome where
  | submitted
  | failed
  | cancelled
  | timedOut
deriving DecidableEq, Repr

/-- What `secrets.token_hex(16)` returns. -/
abbrev Handle := { text : String // IsHexText 32 text }

/-- The hexadecimal text of a hash. -/
abbrev Digest := { text : String // IsHexText 64 text }

/-- A submission. Its revision is always 1. -/
structure Submission where
  submissionId : Handle
  sourceHash : Digest
deriving DecidableEq, Repr

structure ProgressRecord where
  seq : Nat
  message : String
deriving DecidableEq, Repr

structure Progress where
  firstSeq : Nat := 1
  nextSeq : Nat := 1
  truncated : Bool := false
  records : List ProgressRecord := []
deriving DecidableEq, Repr

/-- A positive number up to a ceiling. -/
abbrev Within (ceiling : Nat) := { n : Nat // 1 ≤ n ∧ n ≤ ceiling }

/-- The limits of a hosted run, each within the ceiling for its kind. -/
structure HostLimits where
  wallMs : Within 300000
  stdoutBytes : Within 1048576
  stderrBytes : Within 1048576
  progressRecords : Within 256
  progressBytes : Within 262144
  progressRecordBytes : Within 16384
deriving DecidableEq, Repr

/-- What `HostedRun.public` returns: a snapshot of a run. -/
structure RunRecord where
  runId : Handle
  phase : RunPhase
  cleanup : CleanupState
  progress : Progress
  limits : HostLimits
  outcome : Option RunOutcome
  submission : Option Submission
  error : Option ControlError
deriving DecidableEq, Repr

/-! ### Operations -/

/-- What the preparation of a session has made. -/
structure Prepared where
  artifactId : String
  artifactHash : String
  manifestHash : String
  runtime : String
  policyId : String
  challenge : String
  sourceHash : Option String
deriving DecidableEq, Repr

inductive OperationValue where
  | command (exitCode : Int) (stdoutBytes stderrBytes : Nat)
  | prepared (prepared : Prepared)
  /-- The session is closed, its cleanup has succeeded and nothing remains. -/
  | closed
deriving DecidableEq, Repr

/-- The status of an operation with what belongs to it. -/
inductive OperationStatus where
  | pending
  | succeeded (value : OperationValue)
  | failed (error : ControlError)
deriving DecidableEq, Repr

def OperationStatus.isFailed : OperationStatus → Bool
  | .failed _ => true
  | _ => false

inductive Stream where
  | stdout
  | stderr
deriving DecidableEq, Repr

/-- Which operation an output event belongs to. -/
inductive OutputStage where
  | authoring
  | build
deriving DecidableEq, Repr

/-! ### Messages -/

inductive ControlOp where
  | hello (versions : List Nat) (required : List String)
  /-- `authoring`: the submission is a source with authoring enabled. -/
  | sessionOpen (authoring : Bool)
  | authoringExec (sessionId : String)
  | sessionPrepare (sessionId : String)
  | sessionAuthorize (sessionId : String) (preparedRevision : Nat) (challenge : String)
      (semanticDigest : String)
  | workerAcquire (sessionId authorizationId : String)
  | workerRelease (sessionId workerId : String) (reason : Reason)
  | sessionCancel (sessionId : String) (reason : Reason)
  | sessionClose (sessionId : String)
  | sessionStatus (sessionId : String)
  | operationStatus (sessionId : String) (operationId : Nat)
  | agentStart (sessionId : String)
  | agentStatus (sessionId : String) (runId : Option String)
  | agentCancel (sessionId runId : String) (reason : Reason)
  /-- A request whose arguments did not pass validation. -/
  | invalid (hello : Bool)
deriving DecidableEq, Repr

def ControlOp.isHello : ControlOp → Bool
  | .hello _ _ => true
  | .invalid first => first
  | _ => false

/-- A request for the hosting of an agent. -/
def ControlOp.isAgent : ControlOp → Bool
  | .agentStart _ | .agentStatus _ _ | .agentCancel _ _ _ => true
  | _ => false

structure Request where
  id : Nat
  op : ControlOp
deriving DecidableEq, Repr

inductive Reply where
  | hello (version : Nat)
  | opened (sessionId : String)
  | accepted (operationId : Nat)
  | released (operationId : Nat) (mode : CleanupMode)
  | authorized (authorizationId : String)
  | acquired (workerId attachmentToken : String)
  | status (phase : SessionPhase) (cleanup : CleanupState)
  | operation (operationId : Nat) (status : OperationStatus)
  | started (runId : Handle)
  | run (run : Option RunRecord)
  | error (error : ControlError)
deriving DecidableEq, Repr

def Reply.isError : Reply → Bool
  | .error _ => true
  | _ => false

/-- The worker events as the client gets them. -/
inductive WorkerNotice where
  | started
  | ready
  | closing (reason : Reason)
  | exited (reason : Reason) (exitCode : Option Int)
deriving DecidableEq, Repr

inductive EventBody where
  | operationFinished (operationId : Nat) (status : OperationStatus)
  | output (stage : OutputStage) (operationId : Nat) (stream : Stream) (chunk : Nat)
      (bytes : List UInt8)
  | worker (workerId : Option String) (notice : WorkerNotice)
  | sessionClosed (phase : SessionPhase) (cleanup : CleanupState)
  | agentUpdated (run : RunRecord)
  | agentFinished (run : RunRecord)
deriving DecidableEq, Repr

def EventBody.isSessionClosed : EventBody → Bool
  | .sessionClosed _ _ => true
  | _ => false

structure Event where
  seq : Nat
  sessionId : String
  body : EventBody
deriving DecidableEq, Repr

inductive Message where
  | response (request : Request) (reply : Reply)
  | event (event : Event)
deriving DecidableEq, Repr

end MirrorGate.Control
