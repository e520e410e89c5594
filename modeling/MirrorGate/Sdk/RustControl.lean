import MirrorGate.Control.Protocol
import MirrorGate.Lib.Threads
import MirrorGate.Worker.Port

/-!
# The Control Client in Rust

One connection to a controller, shared by the threads of an application. What
they share stands behind a lock: the number of the next event, and the sessions,
operations and workers that events may name. A request holds the lock from the
moment it is written until its response was read, and takes in the events that
arrive before the response.

A session, an operation or a worker that a response names is not registered
under the same lock. The thread lets go of it and takes it again to register,
and another request may come between the two.

The frames are taken as decoded. What a rejected event has already changed is
left out, since the connection is closed then.

## Main definitions

* `Terminal`, `TerminalResult`, `validateTerminal`, `validateOperationRecord`:
  What an operation may end with.
* `Event`, `Core`, `Core.acceptEvent`: What is behind the lock, and an event.
* `Call`, `Answer`, `Registration`: A request, its response, and what the thread
  registers after it.
* `Ledger`, `Ledger.Emits`: What the controller has said, and what it may say
  next if it keeps to the protocol.
* `Connection`, `Section`, `perform`: The threads of an application.
-/

namespace MirrorGate.Sdk

open Control (ErrorCode Stage SessionPhase Stream OutputStage)

/-- The largest integer that floating point represents exactly, with all below. -/
def safeInteger : Nat := 9007199254740991

def IsSafeId (n : Nat) : Prop := 0 < n ∧ n ≤ safeInteger

instance (n : Nat) : Decidable (IsSafeId n) := inferInstanceAs (Decidable (_ ∧ _))

/-! ### What an operation may end with -/

/-- The contract of an operation: the form of its result. -/
inductive Terminal where
  | commandResult
  | prepared
  | cleanupResult
deriving DecidableEq, Repr

structure CommandResult where
  exitCode : Int
  stdoutBytes : Nat
  stderrBytes : Nat
deriving DecidableEq, Repr

structure Prepared where
  preparedRevision : Nat
  artifactId : String
  artifactHash : String
  sourceHash : Option String
  manifestHash : String
  runtime : String
  policyId : String
  challenge : String
deriving DecidableEq, Repr

structure CleanupResult where
  phase : SessionPhase
  cleanupStatus : Control.CleanupStatus
  remainingResources : List String
deriving DecidableEq, Repr

inductive TerminalResult where
  | command (result : CommandResult)
  | prepared (result : Prepared)
  | cleanup (result : CleanupResult)
deriving DecidableEq, Repr

structure ServerError where
  code : ErrorCode
  stage : Stage
  message : String
  operationId : Option Nat
deriving DecidableEq, Repr

inductive RecordStatus where
  | pending
  | succeeded (result : TerminalResult)
  | failed (error : ServerError)
deriving DecidableEq, Repr

structure OperationRecord where
  operationId : Nat
  status : RecordStatus
deriving DecidableEq, Repr

/-- A check: what is wrong, if anything. -/
abbrev Check := Option String

def require (p : Prop) [Decidable p] (message : String) : Check := if p then none else some message

def validateHandle (text : String) : Check := require (IsHexText 32 text) "invalid opaque handle"

def validateHex (text : String) (length : Nat) : Check :=
  require (IsHexText length text) "invalid lowercase hexadecimal value"

def safeId (n : Nat) : Check := require (IsSafeId n) "invalid positive safe integer"

def validateCommand (result : CommandResult) : Check :=
  require (result.exitCode.natAbs ≤ safeInteger ∧ result.stdoutBytes ≤ safeInteger ∧
    result.stderrBytes ≤ safeInteger) "invalid command result"

def validatePrepared (result : Prepared) : Check :=
  (require (result.preparedRevision = 1) "unsupported prepared revision")
    |>.or (validateHandle result.artifactId)
    |>.or (validateHex result.artifactHash 64)
    |>.or (result.sourceHash.bind fun source => validateHex source 64)
    |>.or (validateHex result.manifestHash 64)
    |>.or (validateHandle result.challenge)
    |>.or (require (1 ≤ result.runtime.utf8ByteSize ∧ result.runtime.utf8ByteSize ≤ 128 ∧
      1 ≤ result.policyId.utf8ByteSize ∧ result.policyId.utf8ByteSize ≤ 128)
      "invalid prepared identity")

def validateCleanup (result : CleanupResult) : Check :=
  (require (result.remainingResources.length ≤ 64 ∧
    result.remainingResources.all isIdentifier = true ∧ result.remainingResources.Nodup)
    "invalid remaining resources")
    |>.or (require (result.phase = .closed ∧ result.cleanupStatus = .succeeded ∧
        result.remainingResources = [] ∨
      result.phase = .cleanupFailed ∧ result.cleanupStatus = .failed)
      "incoherent terminal cleanup result")

def validateTerminal : TerminalResult → Terminal → Check
  | .prepared result, .prepared => validatePrepared result
  | .command result, .commandResult => validateCommand result
  | .cleanup result, .cleanupResult => validateCleanup result
  | _, _ => some "invalid type"

/-- The codes and stages of the first version of the protocol. -/
def parseServerError (error : ServerError) : Check :=
  (require (error.code ≠ .agentStartFailed ∧ error.code ≠ .agentExited ∧
    error.code ≠ .auditUnavailable ∧ error.stage ≠ .hosting)
    "unknown control error family or stage")
    |>.or (require (error.message.utf8ByteSize ≤ 1024) "invalid bounded string")
    |>.or (error.operationId.bind safeId)

def validateOperationRecord (record : OperationRecord) (expected : Nat) (terminal : Terminal)
    (mustTerminal : Bool) : Check :=
  (safeId record.operationId)
    |>.or (require (record.operationId = expected) "operation status correlation mismatch")
    |>.or (match record.status with
      | .pending => require (mustTerminal = false) "invalid operation status record"
      | .succeeded result => validateTerminal result terminal
      | .failed error => (parseServerError error).or
        (error.operationId.bind fun id =>
          require (id = expected) "nested operation error correlation mismatch"))

/-! ### Events -/

inductive EventBody where
  | operationFinished (record : OperationRecord)
  | output (stage : OutputStage) (operationId : Nat) (stream : Stream) (chunk : Nat)
      (bytes : List UInt8)
  | workerStarted (workerId : String)
  | workerReady (workerId : String)
  | workerClosing (workerId : String) (reason : Reason)
  | workerExited (workerId : String) (reason : Reason) (exitCode : Option Int)
  | sessionClosed (result : CleanupResult)
deriving DecidableEq, Repr

/-- The operation that an event belongs to. -/
def EventBody.operationId : EventBody → Option Nat
  | .operationFinished record => some record.operationId
  | .output _ operationId _ _ _ => some operationId
  | _ => none

structure Event where
  seq : Nat
  sessionId : String
  body : EventBody
  /-- The length of its text. -/
  size : Nat
deriving DecidableEq, Repr

/-- The chunks of one stream of an operation are counted together. -/
abbrev ChunkKey := String × Nat × Stream

/-- The chunks with one that is output counted. -/
def countChunk (chunks : List (ChunkKey × Nat)) (sessionId : String) : EventBody →
    List (ChunkKey × Nat)
  | .output _ operationId stream chunk _ => ((sessionId, operationId, stream), chunk + 1) :: chunks
  | _ => chunks

/-- The number of the next chunk. -/
def nextChunk (chunks : List (ChunkKey × Nat)) (key : ChunkKey) : Nat :=
  (chunks.lookup key).getD 1

structure Core where
  nextRequest : Nat := 2
  nextEvent : Nat := 1
  sessions : List String := []
  operations : List ((String × Nat) × Terminal) := []
  workers : List (String × String) := []
  outputChunks : List (ChunkKey × Nat) := []
  events : List Event := []
  eventBytes : Nat := 0
  closed : Bool := false

namespace Core

def poison (core : Core) : Core := { core with closed := true }

/-- A worker that an event names is one of the session. -/
def ownsWorker (core : Core) (sessionId workerId : String) : Check :=
  (validateHandle workerId).or
    (require ((sessionId, workerId) ∈ core.workers) "worker event names unowned worker")

/-- What an event says is checked, and counted if it is output. -/
def readBody (core : Core) (sessionId : String) : EventBody → Except String Core
  | .operationFinished record =>
    match core.operations.lookup (sessionId, record.operationId) with
    | none => .error "missing operation context"
    | some terminal =>
      match validateOperationRecord record record.operationId terminal true with
      | some message => .error message
      | none => .ok core
  | .output _ operationId stream chunk bytes =>
    match (safeId operationId).or ((safeId chunk).or
        (require (bytes.length ≤ 16384) "invalid base64")) with
    | some message => .error message
    | none =>
      if core.operations.lookup (sessionId, operationId) = none then
        .error "output names unaccepted operation"
      else if chunk ≠ nextChunk core.outputChunks (sessionId, operationId, stream) then
        .error "output chunk sequence gap"
      else
        .ok { core with
          outputChunks := ((sessionId, operationId, stream), chunk + 1) :: core.outputChunks }
  | .workerStarted workerId | .workerReady workerId | .workerClosing workerId _
  | .workerExited workerId _ _ =>
    match core.ownsWorker sessionId workerId with
    | some message => .error message
    | none => .ok core
  | .sessionClosed result =>
    match validateCleanup result with
    | some message => .error message
    | none => .ok core

/-- `accept_event`. -/
def acceptEvent (core : Core) (event : Event) : Except String Core :=
  match (safeId event.seq).or
      ((require (event.seq = core.nextEvent) "control event sequence gap").or
        ((require (event.sessionId ∈ core.sessions) "event belongs to unknown session").or
          (validateHandle event.sessionId))) with
  | some message => .error message
  | none =>
    match core.readBody event.sessionId event.body with
    | .error message => .error message
    | .ok core =>
      if core.eventBytes + event.size > 4194304 then .error "control event queue exceeded limit"
      else
        .ok { core with
          nextEvent := core.nextEvent + 1
          eventBytes := core.eventBytes + event.size
          events := core.events ++ [event] }

/-- The events before a response. The first that is rejected is named. -/
def acceptEvents (core : Core) : List Event → Except (Event × String) Core
  | [] => .ok core
  | event :: rest =>
    match core.acceptEvent event with
    | .error message => .error (event, message)
    | .ok core => core.acceptEvents rest

end Core

/-! ### Requests -/

inductive Call where
  | openSession
  | authoringExec (sessionId : String)
  | prepare (sessionId : String)
  | authorize (sessionId : String)
  | acquireWorker (sessionId : String)
  | releaseWorker (sessionId : String)
  | status (sessionId : String)
  | cancel (sessionId : String)
  | close (sessionId : String)
  | operationStatus (sessionId : String) (operationId : Nat) (terminal : Terminal)
deriving DecidableEq, Repr

/-- The contract of the operation that a call asks for. -/
def Call.terminal : Call → Option Terminal
  | .authoringExec _ => some .commandResult
  | .prepare _ => some .prepared
  | .releaseWorker _ | .cancel _ | .close _ => some .cleanupResult
  | _ => none

def Call.sessionId : Call → Option String
  | .openSession => none
  | .authoringExec sessionId | .prepare sessionId | .authorize sessionId
  | .acquireWorker sessionId | .releaseWorker sessionId | .status sessionId | .cancel sessionId
  | .close sessionId | .operationStatus sessionId _ _ => some sessionId

/-- The handles of a call are of this connection. -/
def Call.Owned (core : Core) : Call → Prop
  | .operationStatus sessionId operationId terminal =>
    core.operations.lookup (sessionId, operationId) = some terminal
  | call => ∀ sessionId ∈ call.sessionId, sessionId ∈ core.sessions

instance (core : Core) (call : Call) : Decidable (call.Owned core) :=
  match call with
  | .operationStatus _ _ _ => inferInstanceAs (Decidable (_ = _))
  | .openSession | .authoringExec _ | .prepare _ | .authorize _ | .acquireWorker _
  | .releaseWorker _ | .status _ | .cancel _ | .close _ =>
    inferInstanceAs (Decidable (∀ sessionId ∈ Call.sessionId _, sessionId ∈ core.sessions))

/-- What a response says. -/
inductive Answer where
  | session (sessionId : String)
  | operation (operationId : Nat)
  | worker (workerId : String)
  | record (record : OperationRecord)
  /-- An authorization or the status of a session, of which nothing is
      registered. -/
  | plain
  | failed (error : ServerError)
  /-- No response came in time, or none that could be read. -/
  | broken
deriving DecidableEq, Repr

/-- What the thread registers once it has let go of the lock. -/
inductive Registration where
  | session (sessionId : String)
  | operation (sessionId : String) (operationId : Nat) (terminal : Terminal)
  | worker (sessionId workerId : String)
deriving DecidableEq, Repr

/-- What a response to a call has the thread register. There is an error if it
    is none to the call, which poisons the connection. -/
def Call.read : Call → Answer → Except Unit (Option Registration)
  | _, .failed error => if parseServerError error = none then .ok none else .error ()
  | .openSession, .session sessionId =>
    if validateHandle sessionId = none then .ok (some (.session sessionId)) else .error ()
  | .acquireWorker sessionId, .worker workerId =>
    if validateHandle workerId = none then .ok (some (.worker sessionId workerId)) else .error ()
  | .authorize _, .plain | .status _, .plain => .ok none
  | .operationStatus _ operationId terminal, .record record =>
    if validateOperationRecord record operationId terminal false = none then .ok none
    else .error ()
  | call, .operation operationId =>
    match call.sessionId, call.terminal with
    | some sessionId, some terminal =>
      if IsSafeId operationId then .ok (some (.operation sessionId operationId terminal))
      else .error ()
    | _, _ => .error ()
  | _, _ => .error ()

namespace Core

/-- What a thread registers. A handle that is named twice, or an operation
    with two contracts, poisons the connection. -/
def register (core : Core) : Registration → Core
  | .session sessionId =>
    if sessionId ∈ core.sessions then core.poison
    else { core with sessions := sessionId :: core.sessions }
  | .operation sessionId operationId terminal =>
    match core.operations.lookup (sessionId, operationId) with
    | some existing => if existing = terminal then core else core.poison
    | none =>
      { core with operations := ((sessionId, operationId), terminal) :: core.operations }
  | .worker sessionId workerId => { core with workers := (sessionId, workerId) :: core.workers }

end Core

/-! ### The controller -/

/-- What the controller has said so far. -/
structure Ledger where
  nextEvent : Nat := 1
  sessions : List String := []
  operations : List ((String × Nat) × Terminal) := []
  workers : List (String × String) := []
  outputChunks : List (ChunkKey × Nat) := []

namespace Ledger

/-- The operation of the session was accepted on the connection. -/
def Accepted (ledger : Ledger) (sessionId : String) (operationId : Nat) : Prop :=
  (ledger.operations.lookup (sessionId, operationId)).isSome = true

/-- A body that a controller which keeps to the protocol may send: it names only
    what a response has named before, and is as the contract says. -/
def MaySay (ledger : Ledger) (sessionId : String) : EventBody → Prop
  | .operationFinished record =>
    ∃ terminal ∈ ledger.operations.lookup (sessionId, record.operationId),
      validateOperationRecord record record.operationId terminal true = none
  | .output _ operationId stream chunk bytes =>
    ledger.Accepted sessionId operationId ∧ IsSafeId operationId ∧ IsSafeId chunk ∧
      chunk = nextChunk ledger.outputChunks (sessionId, operationId, stream) ∧
      bytes.length ≤ 16384
  | .workerStarted workerId | .workerReady workerId | .workerClosing workerId _
  | .workerExited workerId _ _ =>
    (sessionId, workerId) ∈ ledger.workers ∧ validateHandle workerId = none
  | .sessionClosed result => validateCleanup result = none

/-- The event is the next one of a controller that keeps to the protocol. -/
def MayEmit (ledger : Ledger) (event : Event) : Prop :=
  event.seq = ledger.nextEvent ∧ IsSafeId event.seq ∧ event.sessionId ∈ ledger.sessions ∧
    ledger.MaySay event.sessionId event.body

/-- The controller has emitted an event. -/
def emit (ledger : Ledger) (event : Event) : Ledger :=
  { ledger with
    nextEvent := ledger.nextEvent + 1
    outputChunks := countChunk ledger.outputChunks event.sessionId event.body }

/-- The controller has named something in a response. -/
def name (ledger : Ledger) : Registration → Ledger
  | .session sessionId => { ledger with sessions := sessionId :: ledger.sessions }
  | .operation sessionId operationId terminal =>
    { ledger with operations := ((sessionId, operationId), terminal) :: ledger.operations }
  | .worker sessionId workerId => { ledger with workers := (sessionId, workerId) :: ledger.workers }

/-- A controller that keeps to the protocol gives a session a new handle, and
    an operation one contract. -/
def MayName (ledger : Ledger) : Registration → Prop
  | .session sessionId => sessionId ∉ ledger.sessions
  | .operation sessionId operationId terminal =>
    ∀ existing ∈ ledger.operations.lookup (sessionId, operationId), existing = terminal
  | .worker _ _ => True

/-- A sequence of events. -/
def Emits (ledger : Ledger) : List Event → Prop
  | [] => True
  | event :: rest => ledger.MayEmit event ∧ (ledger.emit event).Emits rest

end Ledger

/-! ### The threads -/

/-- What arrives while a request waits: events, and then the response. -/
structure Frames where
  events : List Event := []
  answer : Answer := .broken

/-- The connection with what the controller has said on it, and the events
    that poisoned it. -/
structure Connection where
  core : Core := {}
  ledger : Ledger := {}
  rejected : List (Event × String) := []

/-- What an application does with the connection. -/
inductive Use where
  | call (call : Call)
  | drainEvents
  | close
deriving DecidableEq, Repr

/-- What a thread does under the lock. -/
inductive Section where
  | use (use : Use)
  | register (registration : Registration)
deriving DecidableEq, Repr

/-- The frames that arrive during a request are read. -/
def Connection.read (c : Connection) (call : Call) (frames : Frames) : Outcome Connection Section :=
  let ledger := frames.events.foldl Ledger.emit c.ledger
  match c.core.acceptEvents frames.events with
  | .error rejected =>
    ⟨{ core := c.core.poison, ledger := ledger, rejected := c.rejected ++ [rejected] }, [], []⟩
  | .ok core =>
    match call.read frames.answer with
    | .error () => ⟨{ c with core := core.poison, ledger := ledger }, [], []⟩
    | .ok none => ⟨{ c with core := core, ledger := ledger }, [], []⟩
    | .ok (some registration) =>
      ⟨{ c with core := core, ledger := ledger.name registration }, [.register registration], []⟩

/-- One section. -/
def perform (c : Connection) (s : Section) (frames : Frames) :
    Option (Outcome Connection Section) :=
  match s with
  | .use (.call call) =>
    if c.core.closed ∨ ¬ call.Owned c.core then some ⟨c, [], []⟩
    else if c.core.nextRequest > safeInteger then some ⟨{ c with core := c.core.poison }, [], []⟩
    else
      some ({ c with core := { c.core with nextRequest := c.core.nextRequest + 1 } }.read call
        frames)
  | .use .drainEvents =>
    some ⟨{ c with core := { c.core with events := [], eventBytes := 0 } }, [], []⟩
  | .use .close => some ⟨{ c with core := c.core.poison }, [], []⟩
  | .register registration => some ⟨{ c with core := c.core.register registration }, [], []⟩

/-- The threads of an application, after the hello. -/
def connected (threads : List (List Use)) : Pool Connection Section :=
  ⟨{}, threads.map fun thread => thread.map .use⟩

end MirrorGate.Sdk
