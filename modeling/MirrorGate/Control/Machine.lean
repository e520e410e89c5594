import MirrorGate.Lib.Keyed
import MirrorGate.Control.Session

/-!
# The Controller of a Connection and Its Threads

One controller serves one connection. The thread that serves it reads
requests and dispatches them; operations, the cleanup of a session, a hosted
agent, the timer of a session and the threads of a worker reservation all run
beside it and report through events.

An action is what runs without another thread coming between: a section under
the lock of the controller or of a session, a single access to a field, a call
that blocks. The lock of a session stays taken over several actions in one
place, between the snapshot of a hosted run and the event that carries it.
The lock of the events stays taken from the numbering of an event to its
emission; `emitting` is what its holder still has to emit.

A call into the backend, or of the operating system, is decided outside: it
may raise at any time. It succeeds only where the part of the backend that is
modelled allows it. Handles come from a source of randomness and never repeat.

Where the source holds the lock of a session while an event of a worker is
delivered, the model lets go of it, which only adds interleavings.

## Main definitions

* `Controller`: The fields of the controller, and what it has written.
* `Job`, `Work`: Threads that are to be started.
* `Act`, `Input`: The actions, and what the outside decides for them.
* `Controller.perform`: What each action does.
* `Controller.connect`: A new connection.
-/

namespace MirrorGate.Control

/-- What the thread of an operation does. -/
inductive Work where
  | authoring
  | prepare
  | cleanup (reason : Reason) (workerId : Option String)
deriving DecidableEq, Repr

/-- A thread that is to be started. -/
inductive Job where
  | operation (sessionId : String) (operationId : Nat) (work : Work)
  | host (sessionId : String)
deriving DecidableEq, Repr

/-- What becomes of the operation that `_cleanup_operation` returns. -/
inductive After where
  | nothing
  | reply (request : Request) (mode : Option CleanupMode)
deriving DecidableEq, Repr

inductive Act where
  -- `serve_stream`, `dispatch`, `after_response` and `close`
  | serve
  | reject (request : Request) (error : ControlError)
  | receive (request : Request)
  | enter (request : Request)
  | handle (request : Request)
  | respond (request : Request) (reply : Reply)
  | flush
  | drainEvents (jobs : List Job)
  | close
  -- `session.open`
  | openBackend (request : Request) (authoring : Bool)
  | register (request : Request) (sessionId interfaceDigest manifestHash : String)
      (authoring : Bool)
  | checkExpired (request : Request) (sessionId : String)
  -- `authoring.exec` and `session.prepare`
  | newOperation (request : Request) (sessionId : String) (work : Work)
  | spawn (job : Job) (server : Bool)
  -- `session.authorize`
  | authorizeBackend (request : Request) (sessionId : String)
  | authorizeCommit (request : Request) (sessionId : String) (lease : Nat)
  -- `worker.acquire`
  | reserve (request : Request) (sessionId workerId : String)
  | acquireCommit (request : Request) (sessionId : String)
  -- `worker.release`
  | armRelease (request : Request) (sessionId workerId : String) (reason : Reason)
  | releaseArmed (request : Request) (sessionId workerId : String) (reason : Reason)
  -- `operation.status`
  | readOperation (request : Request) (sessionId : String) (operationId : Nat)
  -- `agent.start` and `agent.cancel`
  | admitAgent (request : Request) (sessionId : String)
  | startAgent (request : Request) (sessionId : String) (limits : HostLimits)
  | spawnHost (request : Request) (sessionId : String) (runId : Handle)
  | cancelReply (request : Request) (sessionId : String)
  -- `_cleanup_operation`
  | cleanup (sessionId : String) (reason : Reason) (workerId : Option String) (advertise : Bool)
      (after : After) (server : Bool)
  -- `_event` and what reports through it
  | event (sessionId : String) (body : EventBody)
  | emit
  | unlock (sessionId : String)
  | finishEvent (sessionId : String) (operationId : Nat)
  | closedCheck (sessionId : String) (operationId : Nat)
  | closedEvent (sessionId : String)
  | evict (sessionId : String)
  -- the threads of operations
  | run (sessionId : String) (operationId : Nat) (work : Work)
  | authoring (sessionId : String) (operationId : Nat)
  | prepare (sessionId : String) (operationId : Nat)
  | streaming (sessionId : String) (operationId : Nat) (stage : OutputStage)
  | drain (sessionId : String) (operationId : Nat) (stage : OutputStage) (stream : Stream)
  | output (sessionId : String) (operationId : Nat) (stage : OutputStage) (stream : Stream)
      (data : List UInt8)
  | prepareCommit (sessionId : String) (operationId : Nat) (prepared : Prepared)
  | finish (sessionId : String) (operationId : Nat) (status : OperationStatus)
      (cleanupOnFailure : Bool)
  | cleanupWork (sessionId : String) (operationId : Nat) (reason : Reason)
      (workerId : Option String)
  | cleanupHosted (sessionId : String) (operationId : Nat) (reason : Reason)
      (workerId : Option String)
  | cleanupRelease (sessionId : String) (operationId : Nat) (reason : Reason)
      (workerId : Option String) (remaining failures : List String)
  | cleanupReleased (sessionId : String) (operationId : Nat) (reason : Reason)
      (remaining failures : List String)
  | cleanupBackend (sessionId : String) (operationId : Nat) (reason : Reason)
      (remaining failures : List String)
  | cleanupEnd (sessionId : String) (operationId : Nat) (remaining failures : List String)
  -- hosted runs
  | joinHost (sessionId : String)
  | joinCancel (sessionId : String)
  | hostBegin (sessionId : String)
  | hostLaunch (sessionId : String)
  | hostRun (sessionId : String)
  | terminal (sessionId : String) (result : HostResult)
  | hostEvent (sessionId : String)
  | hostDone (sessionId : String)
  | hostCheck (sessionId : String)
  | hostExecute (sessionId : String)
  | hostTool (sessionId : String)
  | hostSubmit (sessionId : String)
  | submitSource (sessionId : String)
  | stopAuthoring (sessionId : String)
  | freeze (sessionId : String)
  | install (sessionId : String) (submission : Submission)
  | submitFinally (sessionId : String) (failed : Option Bool)
  | submitCommit (sessionId : String)
  | submitFailed (sessionId : String) (timedOut : Bool)
  -- the timer of a session
  | deadline (sessionId : String)
  | deadlineCleanup (sessionId : String)
  -- the threads of a worker reservation, and `_worker_event`
  | worker (sessionId : String) (act : WorkerAct)
  | workerEvent (sessionId : String) (event : WorkerEvent)
  | workerNotify (sessionId : String) (event : WorkerEvent) (recorded : Option Reason)
deriving DecidableEq

/-- What the outside decides. -/
inductive Input where
  /-- The call returned, or nothing is decided. -/
  | done
  /-- The call raised. -/
  | raised (failure : Failure)
  | timedOut
  /-- What arrives on the connection. -/
  | request (request : Request)
  /-- The arguments of a request did not pass validation. -/
  | refused (id : Nat) (hello : Bool) (error : ControlError)
  | hangup
  /-- The output takes the message, or not. -/
  | sent (ok : Bool)
  | capabilities (available : List String)
  | opened (sessionId interfaceDigest manifestHash : String)
  | token (text : String)
  | leased (lease : Nat)
  | reserved (terms : WorkerTerms)
  /-- The limits of the profile, and those that the client asked for. -/
  | admitted (profile : HostLimits) (requested : LimitRequest)
  /-- A new run, and whether the deadline of the session has passed. -/
  | newRun (runId : Handle) (late : Bool)
  /-- A process runs, and its output is drained. -/
  | streaming
  | chunk (data : List UInt8)
  | ended
  | exited (code : Int)
  | prepared (prepared : Prepared)
  | cleaned (complete : Bool) (remaining failures : List String)
  /-- The agent calls the broker. -/
  | callsExecute
  | callsSubmit
  /-- The host revokes what the agent has open. -/
  | revoked
  | hosted (result : HostResult)
  | frozen (submission : Submission)
  | late
  | worker (input : WorkerInput)

def ControlError.failure (e : ControlError) : Failure := ⟨some e.code, some e.stage, e.message⟩

/-- A handler raised: the error that is answered. -/
def refusal (request : Request) (error : ControlError) : Act :=
  .respond request (.error { error with
    message := if request.op.isAgent then hostingErrorMessage error.code else clip error.message })

/-- A call into the backend raised inside a handler. -/
def failure (request : Request) (f : Failure) : Act :=
  .respond request (.error
    (if request.op.isAgent then ⟨.policyDenied, .hosting, "hosting admission failed"⟩
      else ⟨f.code.getD .policyDenied, f.stage.getD .policy, clip f.message⟩))

def After.acts (after : After) (operationId : Nat) : List Act :=
  match after with
  | .nothing => []
  | .reply request none => [.respond request (.accepted operationId)]
  | .reply request (some mode) => [.respond request (.released operationId mode)]

/-- A failed lookup of the cleanup operation, when somebody waits for it. -/
def After.missing (after : After) (operationId : Nat) : List Act :=
  match after with
  | .nothing => []
  | .reply request _ => [failure request ⟨none, none, toString operationId⟩]

structure Controller where
  maxCompleted : Nat
  sessions : List Session := []
  lastRequestId : Nat := 0
  hello : Bool := false
  controlVersion : Nat := 1
  closed : Bool := false
  seq : Nat := 0
  pendingStarts : List Job := []
  pendingEvents : List Event := []
  /-- `_dispatch_thread` is set, which it only ever is to the serving thread. -/
  dispatching : Bool := false
  /-- `_event_lock` is held, and its holder still has to emit these. -/
  emitting : Option (List Event) := none
  /-- The output takes no more messages. -/
  stopped : Bool := false
  /-- The sessions whose deadline has passed. -/
  expired : List String := []
  /-- The messages written to the connection, in order. -/
  stream : List Message := []

namespace Controller

abbrev Effect := Option (Outcome Controller Act)

def session (c : Controller) (sessionId : String) : Option Session :=
  Keyed.get Session.sessionId c.sessions sessionId

/-- The session takes the place of the one with its handle. -/
def put (c : Controller) (s : Session) : Controller :=
  { c with sessions := Keyed.set Session.sessionId s c.sessions }

/-- A new session is registered. -/
def enroll (c : Controller) (sessionId interfaceDigest manifestHash : String) (authoring : Bool) :
    Controller :=
  { c with
    sessions := c.sessions ++
      [{ sessionId := sessionId
         interfaceDigest := interfaceDigest
         manifestHash := manifestHash
         phase := if authoring then .authoring else .opened }] }

/-- A section under the lock of a session. It waits while the lock is held. -/
def locking (c : Controller) (sessionId : String) (f : Session → Session × List Act) : Effect :=
  match c.session sessionId with
  | some s => if s.locked then none else some { shared := c.put (f s).1, more := (f s).2 }
  | none => none

/-- An access to a session without its lock. -/
def touching (c : Controller) (sessionId : String) (f : Session → Session × List Act) : Effect :=
  match c.session sessionId with
  | some s => some { shared := c.put (f s).1, more := (f s).2 }
  | none => none

/-- The output takes a message, unless it has stopped. -/
def write (c : Controller) (message : Message) (ok : Bool) : Controller :=
  if ok ∧ c.stopped = false then { c with stream := c.stream ++ [message] }
  else { c with stopped := true }

def continues (c : Controller) (more : List Act) : Effect := some { shared := c, more := more }

/-- A handler that looks up its session first. -/
def handling (c : Controller) (request : Request) (sessionId : String)
    (f : Session → Session × List Act) : Effect :=
  match c.session sessionId with
  | none => c.continues [refusal request ⟨.handleInvalid, .policy, "invalid handle"⟩]
  | some _ => c.locking sessionId f

/-- A section that may raise. -/
def attempt (s : Session) (request : Request) (result : Except ControlError Session)
    (next : List Act) : Session × List Act :=
  match result with
  | .ok t => (t, next)
  | .error e => (s, [refusal request e])

/-- The internal cleanup of a session. -/
def internalCleanup (sessionId : String) (reason : Reason) (server : Bool) : Act :=
  .cleanup sessionId reason none false .nothing server

/-- The codes an operation may fail with. -/
def operationCodes : List ErrorCode :=
  [.policyDenied, .limitExceeded, .preparationFailed, .buildFailed, .backendAdmissionFailed,
    .attachmentFailed, .workerProtocolFailed, .workerExited, .cancelled, .deadlineExceeded,
    .cleanupFailed]

/-- `_exception_error`. -/
def exceptionError (f : Failure) : ControlError :=
  let code := f.code.getD .preparationFailed
  ⟨if code ∈ operationCodes then code else .preparationFailed, f.stage.getD .prepare,
    clip f.message⟩

/-! ### Serving -/

/-- The thread of a job. -/
def thread : Job → List Act
  | .operation sessionId operationId work => [.run sessionId operationId work]
  | .host sessionId => [.hostBegin sessionId]

/-- The checks of `dispatch` under the lock of the controller. -/
def admission (c : Controller) (request : Request) : Controller × List Act :=
  if c.closed then
    (c, [.respond request (.error ⟨.cancelled, .cleanup, "connection is closing"⟩)])
  else if request.id ≤ c.lastRequestId then (c, [.close])
  else
    let c := { c with lastRequestId := request.id }
    if c.hello = false ∧ ¬ (request.id = 1 ∧ request.op.isHello) then (c, [.close])
    else if c.hello ∧ request.op.isHello then (c, [.close])
    else (c, [.enter request])

/-- `reject_arguments`. -/
def rejection (c : Controller) (request : Request) (error : ControlError) : Controller × List Act :=
  if request.id ≤ c.lastRequestId then (c, [.close])
  else if c.hello = false ∧ ¬ (request.id = 1 ∧ request.op.isHello) then (c, [.close])
  else
    ({ c with lastRequestId := request.id },
      [.respond request (.error { error with message := clip error.message })])

def performServe (c : Controller) : Act → Input → Effect
  | .serve, .request request => c.continues [.receive request]
  | .serve, .refused id hello error => c.continues [.reject ⟨id, .invalid hello⟩ error]
  | .serve, .hangup => c.continues [.close]
  | .receive request, .done =>
    some { shared := (c.admission request).1, more := (c.admission request).2 }
  | .reject request error, .done =>
    some { shared := (c.rejection request error).1, more := (c.rejection request error).2 }
  | .enter request, .done => Controller.continues { c with dispatching := true } [.handle request]
  | .respond request reply, .sent ok =>
    -- A connection whose hello was refused is given up after the response.
    let next := if request.op.isHello ∧ reply.isError then Act.close else .serve
    (c.write (.response request reply) ok).continues
      (if ok ∧ c.stopped = false then [.flush, next] else [.close])
  | .flush, .done =>
    if c.emitting.isSome then none
    else
      ({ c with
        pendingStarts := []
        pendingEvents := []
        dispatching := false
        emitting := some c.pendingEvents }).continues [.drainEvents c.pendingStarts]
  | .drainEvents jobs, .sent ok =>
    match c.emitting with
    | some (event :: events) =>
      ({ c.write (.event event) ok with emitting := some events }).continues [.drainEvents jobs]
    | some [] =>
      some { shared := { c with emitting := none }, spawned := jobs.map thread }
    | none => none
  | .close, .done =>
    if c.closed then c.continues []
    else
      Controller.continues { c with closed := true }
        (c.sessions.map (fun s => internalCleanup s.sessionId .clientFailure true) ++ [.flush])
  | _, _ => none

/-! ### Requests -/

/-- The highest version that both sides have. -/
def selectVersion (versions : List Nat) : Option Nat :=
  if 2 ∈ versions then some 2 else if 1 ∈ versions then some 1 else none

def helloReply (c : Controller) (request : Request) (versions : List Nat)
    (required available : List String) : Effect :=
  match selectVersion versions with
  | none =>
    c.continues [refusal request ⟨.versionUnsupported, .bootstrap, "no supported control version"⟩]
  | some version =>
    match required.find? fun name => ¬ available.contains name with
    | some name =>
      c.continues [refusal request ⟨.capabilityUnavailable, .bootstrap,
        "required capability unavailable: " ++ name⟩]
    | none =>
      Controller.continues { c with hello := true, controlVersion := version }
        [.respond request (.hello version)]

/-- The first section of `agent.start`, and its repetition. -/
def CanHost (s : Session) : Prop :=
  s.phase = .authoring ∧ s.hosting.run = none ∧ s.activeOrdinary = none

instance (s : Session) : Decidable (CanHost s) := inferInstanceAs (Decidable (_ ∧ _ ∧ _))

def hostingUnavailable : ControlError :=
  ⟨.stateInvalid, .hosting, "managed run cannot start"⟩

def invalidRun : ControlError := ⟨.handleInvalid, .hosting, "invalid run handle"⟩

/-- The first action of a handler. -/
def performHandle (c : Controller) (request : Request) : Input → Effect
  | .capabilities available =>
    match request.op with
    | .hello versions required => c.helloReply request versions required available
    | _ => none
  | .token workerId =>
    match request.op with
    | .workerAcquire sessionId authorizationId =>
      c.handling request sessionId fun s =>
        attempt s request
          ((s.acquire authorizationId workerId).map fun t =>
            { t with trail := t.trail ++ [.acquired authorizationId workerId] })
          [.reserve request sessionId workerId]
    | _ => none
  | .raised f =>
    match request.op with
    | .sessionStatus sessionId =>
      -- The backend is asked to count its resources first.
      c.handling request sessionId fun s => (s, [failure request f])
    | _ => none
  | .done =>
    match request.op with
    | .sessionOpen authoring =>
      if 4 ≤ c.sessions.countP (fun s => ¬ s.phase.Ended) then
        c.continues [refusal request ⟨.limitExceeded, .policy, "session limit exceeded"⟩]
      else c.continues [.openBackend request authoring]
    | .authoringExec sessionId =>
      c.handling request sessionId fun s =>
        if s.phase ≠ .authoring ∨ s.hosting.run.isSome then
          (s, [refusal request ⟨.stateInvalid, .authoring,
            "authoring is unavailable in this phase"⟩])
        else (s, [.newOperation request sessionId .authoring])
    | .sessionPrepare sessionId =>
      c.handling request sessionId fun s =>
        attempt s request s.prepareBegin [.newOperation request sessionId .prepare]
    | .sessionAuthorize sessionId revision challenge digest =>
      c.handling request sessionId fun s =>
        attempt s request ((s.authorizeCheck revision challenge digest).map fun _ => s)
          [.authorizeBackend request sessionId]
    | .workerRelease sessionId workerId reason =>
      c.handling request sessionId fun s =>
        if s.workerId ≠ some workerId then
          (s, [refusal request ⟨.handleInvalid, .cleanup, "invalid worker handle"⟩])
        else if s.cleanupOperation.isSome then
          (s, [.cleanup sessionId reason none true
            (.reply request (some (s.cleanupMode.getD .terminateOnly))) true])
        else ({ s with phase := .closing }, [.armRelease request sessionId workerId reason])
    | .sessionCancel sessionId reason =>
      c.handling request sessionId fun s =>
        (s, [.cleanup sessionId reason none true (.reply request none) true])
    | .sessionClose sessionId =>
      c.handling request sessionId fun s =>
        (s, [.cleanup sessionId .normal none true (.reply request none) true])
    | .sessionStatus sessionId =>
      c.handling request sessionId fun s => (s, [.respond request (.status s.phase s.cleanup)])
    | .operationStatus sessionId operationId =>
      c.handling request sessionId fun s =>
        if (s.operation operationId).any (·.listed) then
          (s, [.readOperation request sessionId operationId])
        else
          (s, [refusal request ⟨.operationUnknown, .cleanup,
            "operation is unknown or evicted"⟩])
    | .agentStart sessionId =>
      c.handling request sessionId fun s =>
        (s, [if CanHost s then .admitAgent request sessionId
          else refusal request hostingUnavailable])
    | .agentStatus sessionId runId =>
      c.handling request sessionId fun s =>
        if runId.isSome ∧ s.hosting.run.map (·.runId.val) ≠ runId then
          (s, [refusal request invalidRun])
        else (s, [.respond request (.run (s.hosting.run.map HostedRun.public))])
    | .agentCancel sessionId runId reason =>
      c.handling request sessionId fun s =>
        if s.hosting.run.map (·.runId.val) ≠ some runId then (s, [refusal request invalidRun])
        else
          (s.adopting (s.hosting.cancel reason),
            [.joinHost sessionId, .cancelReply request sessionId])
    | _ => none
  | _ => none

/-- The later actions of the handlers. -/
def performRequest (c : Controller) : Act → Input → Effect
  | .openBackend request _, .raised f => c.continues [failure request f]
  | .openBackend request authoring, .opened sessionId digest hash =>
    if (c.session sessionId).isSome then none
    else
      some { shared := c
             more := [.register request sessionId digest hash authoring]
             spawned := [[.deadline sessionId]] }
  | .register request sessionId digest hash authoring, .done =>
    if c.closed then
      c.continues [refusal request ⟨.cancelled, .cleanup,
        "connection closed during session allocation"⟩]
    else if (c.session sessionId).isSome then none
    else
      (c.enroll sessionId digest hash authoring).continues [.checkExpired request sessionId]
  | .checkExpired request sessionId, .done =>
    c.continues
      ((if sessionId ∈ c.expired then [internalCleanup sessionId .deadline true] else []) ++
        [.respond request (.opened sessionId)])
  | .newOperation request sessionId work, .done =>
    c.locking sessionId fun s =>
      match s.newOperation with
      | .ok (t, operationId) =>
        (t, [.spawn (.operation sessionId operationId work) true,
          .respond request (.accepted operationId)])
      | .error e => (s, [refusal request e])
  | .spawn job server, .done =>
    if c.dispatching ∧ server then
      Controller.continues { c with pendingStarts := c.pendingStarts ++ [job] } []
    else some { shared := c, spawned := [thread job] }
  | .authorizeBackend request sessionId, .raised f =>
    c.continues [internalCleanup sessionId .clientFailure true,
      .respond request (.error ⟨f.code.getD .backendAdmissionFailed, .authorize, clip f.message⟩)]
  | .authorizeBackend request sessionId, .leased lease =>
    if (c.session sessionId).any (·.backend.authorization.isSome) then none
    else
      c.locking sessionId fun s =>
        ({ s with backend := { s.backend with authorization := some lease } },
          [.authorizeCommit request sessionId lease])
  | .authorizeCommit request sessionId lease, .token authorizationId =>
    match request.op with
    | .sessionAuthorize _ revision challenge _ =>
      c.locking sessionId fun s =>
        attempt s request
          ((s.authorizeCommit lease authorizationId).map fun t =>
            { t with trail := t.trail ++ [.authorized revision challenge] })
          [.respond request (.authorized authorizationId)]
    | _ => none
  | .reserve request sessionId _, .raised f =>
    c.continues [internalCleanup sessionId .workerFailure true,
      .respond request (.error ⟨f.code.getD .backendAdmissionFailed, .attach, clip f.message⟩)]
  | .reserve request sessionId workerId, .reserved terms =>
    match c.session sessionId with
    | none => none
    | some s =>
      if s.locked ∨ s.backend.authorization ≠ s.admission ∨ s.reservation.isSome ∨
          terms.sessionId ≠ sessionId ∨ terms.workerId ≠ workerId ∨
          s.admission ≠ some terms.admission then none
      else
        some { shared := c.put { s with reservation := some { terms := terms } }
               more := [.acquireCommit request sessionId]
               spawned := [[.worker sessionId .accept]] }
  | .acquireCommit request sessionId, .done =>
    c.locking sessionId fun s =>
      match s.phase, s.reservation with
      | .reserved, some r =>
        (s, [.respond request (.acquired r.terms.workerId r.terms.attachmentToken)])
      | _, _ =>
        (s, [refusal request ⟨.cancelled, .attach, "session changed during reservation"⟩])
  | .armRelease request _ _ _, .raised f => c.continues [failure request f]
  | .armRelease request sessionId workerId reason, .done =>
    match (c.session sessionId).bind (·.reservation) with
    | none => none
    | some r =>
      if r.terms.workerId ≠ workerId then none
      else
        c.continues [.worker sessionId (.armClosing reason false),
          .releaseArmed request sessionId workerId reason]
  | .releaseArmed request sessionId workerId reason, .done =>
    c.touching sessionId fun s =>
      let mode := (s.reservation.bind (·.cleanupMode)).getD .terminateOnly
      ({ s with cleanupMode := some mode },
        [.cleanup sessionId reason (some workerId) true (.reply request (some mode)) true])
  | .readOperation request sessionId operationId, .done =>
    c.touching sessionId fun s =>
      (s, [.respond request (.operation operationId
        ((s.operation operationId).elim .pending (·.status)))])
  | .admitAgent request _, .raised f =>
    let code := f.code.getD .auditUnavailable
    let known := [.policyDenied, .limitExceeded, .auditUnavailable, .capabilityUnavailable,
      .stateInvalid, .argumentInvalid, ErrorCode.deadlineExceeded]
    let code := if code ∈ known then code else .auditUnavailable
    c.continues [refusal request ⟨code, .hosting, hostingErrorMessage code⟩]
  | .admitAgent request sessionId, .admitted profile requested =>
    c.continues [match agentLimits requested profile with
      | some limits => .startAgent request sessionId limits
      | none => refusal request ⟨.limitExceeded, .hosting, hostingErrorMessage .limitExceeded⟩]
  | .startAgent request sessionId limits, .newRun runId late =>
    c.locking sessionId fun s =>
      if ¬ CanHost s ∨ c.closed ∨ late then (s, [refusal request hostingUnavailable])
      else
        ({ s with hosting := { s.hosting with
            run := some (hostProgress { runId := runId, limits := limits }
              "Managed authoring accepted") } },
          [.spawnHost request sessionId runId])
  | .spawnHost request sessionId runId, .done =>
    Controller.continues { c with pendingStarts := c.pendingStarts ++ [.host sessionId] }
      [.respond request (.started runId)]
  | .cancelReply request sessionId, .done =>
    c.locking sessionId fun s =>
      match s.hosting.run with
      | some run =>
        (s, (if run.cleanup.status ≠ .succeeded then
            [internalCleanup sessionId .clientFailure true] else []) ++
          [.respond request (.run (some run.public))])
      | none => (s, [refusal request invalidRun])
  | .cleanup sessionId reason workerId advertise after server, .done =>
    c.locking sessionId fun s =>
      match s.cleanupOperationSection reason advertise with
      | (t, .begun operationId) =>
        (t, .spawn (.operation sessionId operationId (.cleanup reason workerId)) server ::
          after.acts operationId)
      | (t, .existing operationId announce) =>
        (t, (if announce then [.finishEvent sessionId operationId] else []) ++
          after.acts operationId)
      | (t, .missing operationId) => (t, after.missing operationId)
  | _, _ => none

/-! ### Events -/

/-- `_event`, up to the emission. -/
def number (c : Controller) (sessionId : String) (body : EventBody) : Controller × List Act :=
  if c.closed ∧ body.isSessionClosed = false then (c, [])
  else
    let event : Event := ⟨c.seq + 1, sessionId, body⟩
    let c := { c with seq := c.seq + 1 }
    if c.dispatching then ({ c with pendingEvents := c.pendingEvents ++ [event] }, [])
    else ({ c with emitting := some [event] }, [.emit])

/-- The event of a section, when one is due. -/
def report (sessionId : String) : Option EventBody → List Act
  | some body => [.event sessionId body]
  | none => []

def performEvent (c : Controller) : Act → Input → Effect
  | .event sessionId body, .done =>
    if c.emitting.isSome then none
    else some { shared := (c.number sessionId body).1, more := (c.number sessionId body).2 }
  | .emit, .sent ok =>
    match c.emitting with
    | some (event :: _) => ({ c.write (.event event) ok with emitting := none }).continues []
    | _ => none
  | .unlock sessionId, .done => c.touching sessionId fun s => ({ s with locked := false }, [])
  | .finishEvent sessionId operationId, .done =>
    c.locking sessionId fun s =>
      ((s.finishEvent operationId).1, report sessionId (s.finishEvent operationId).2)
  | .closedCheck sessionId operationId, .done =>
    c.touching sessionId fun s =>
      (s, if s.cleanupOperation = some operationId ∧ s.phase.Ended then [.closedEvent sessionId]
        else [])
  | .closedEvent sessionId, .done =>
    c.locking sessionId fun s => (s.closedEvent.1, report sessionId s.closedEvent.2)
  | .evict sessionId, .done =>
    c.locking sessionId fun s => (s.evict c.maxCompleted, [])
  | _, _ => none

/-! ### The threads of operations -/

/-- The process of an operation runs and two threads drain its output. -/
def beginStream (c : Controller) (sessionId : String) (operationId : Nat) (stage : OutputStage) :
    Effect :=
  match c.session sessionId with
  | none => none
  | some s =>
    some { shared := c.put (s.updateOperation operationId fun op => { op with drains := 2 })
           more := [.streaming sessionId operationId stage]
           spawned := [[.drain sessionId operationId stage .stdout],
             [.drain sessionId operationId stage .stderr]] }

/-- The bytes of a chunk are counted for the result of a command. -/
def countBytes (stage : OutputStage) (stream : Stream) (data : List UInt8) (op : Operation) :
    Operation :=
  match stage, stream with
  | .authoring, .stdout => { op with stdoutBytes := op.stdoutBytes + data.length }
  | .authoring, .stderr => { op with stderrBytes := op.stderrBytes + data.length }
  | .build, _ => op

/-- An operation fails with an exception. -/
def failed (sessionId : String) (operationId : Nat) (f : Failure) : Act :=
  .finish sessionId operationId (.failed (exceptionError f)) true

def performOperation (c : Controller) : Act → Input → Effect
  | .run sessionId operationId work, .done =>
    c.continues [match work with
      | .authoring => .authoring sessionId operationId
      | .prepare => .prepare sessionId operationId
      | .cleanup reason workerId => .cleanupWork sessionId operationId reason workerId]
  | .authoring sessionId operationId, .streaming => c.beginStream sessionId operationId .authoring
  | .prepare sessionId operationId, .streaming => c.beginStream sessionId operationId .build
  | .authoring sessionId operationId, .raised f | .prepare sessionId operationId, .raised f
  | .streaming sessionId operationId _, .raised f =>
    c.continues [failed sessionId operationId f]
  | .streaming sessionId operationId .authoring, .exited code =>
    c.touching sessionId fun s =>
      let op := (s.operation operationId).getD { operationId := operationId }
      (s, [.finish sessionId operationId
        (.succeeded (.command code op.stdoutBytes op.stderrBytes)) true])
  | .prepare sessionId operationId, .prepared prepared
  | .streaming sessionId operationId .build, .prepared prepared =>
    c.continues [.prepareCommit sessionId operationId prepared]
  | .prepareCommit sessionId operationId prepared, .done =>
    c.locking sessionId fun s =>
      match s.prepareCommit { prepared with manifestHash := s.manifestHash } with
      | .ok t =>
        (t, [.finish sessionId operationId
          (.succeeded (.prepared { prepared with manifestHash := s.manifestHash })) true])
      | .error e => (s, [failed sessionId operationId e.failure])
  | .drain sessionId operationId stage stream, .chunk data =>
    c.touching sessionId fun s =>
      (s.updateOperation operationId (countBytes stage stream data),
        [.output sessionId operationId stage stream data,
          .drain sessionId operationId stage stream])
  | .drain sessionId operationId _ _, .ended =>
    c.touching sessionId fun s =>
      (s.updateOperation operationId fun op => { op with drains := op.drains - 1 }, [])
  | .output sessionId operationId stage stream data, .done =>
    if data.isEmpty then c.continues []
    else
      c.locking sessionId fun s =>
        (s.countChunk operationId stream,
          [.event sessionId (.output stage operationId stream (s.nextChunk operationId stream)
            (data.take 16384)),
            .output sessionId operationId stage stream (data.drop 16384)])
  | .finish sessionId operationId status cleanupOnFailure, .done =>
    c.locking sessionId fun s =>
      (s.finishOperation operationId status,
        [.finishEvent sessionId operationId, .closedCheck sessionId operationId] ++
          (if cleanupOnFailure ∧ status.isFailed then
            [internalCleanup sessionId .clientFailure false] else []) ++
          [.evict sessionId])
  | _, _ => none

/-- What a cleanup that did not complete reports. -/
def cleanupError (failures : List String) : ControlError :=
  ⟨.cleanupFailed, .cleanup,
    if failures.isEmpty then "cleanup did not complete" else "; ".intercalate failures⟩

def performCleanup (c : Controller) : Act → Input → Effect
  | .cleanupWork sessionId operationId reason workerId, .done =>
    c.touching sessionId fun s =>
      (s, if s.hosting.run.isSome then
          [.joinHost sessionId, .cleanupHosted sessionId operationId reason workerId]
        else [.cleanupRelease sessionId operationId reason workerId [] []])
  | .cleanupHosted sessionId operationId reason workerId, .done =>
    c.locking sessionId fun s =>
      let left := s.hosting.run.filter fun run => run.cleanup.status ≠ .succeeded
      (s, [.cleanupRelease sessionId operationId reason workerId
        (left.elim [] (·.cleanup.remainingResources))
        (left.elim [] fun _ => ["managed host cleanup did not complete"])])
  | .cleanupRelease sessionId operationId reason workerId remaining failures, .done =>
    match workerId, (c.session sessionId).bind (·.reservation) with
    | some _, some _ =>
      c.continues [.worker sessionId (.armClosing reason false),
        .worker sessionId (.close reason none),
        .cleanupReleased sessionId operationId reason remaining failures]
    | _, _ => c.continues [.cleanupBackend sessionId operationId reason remaining failures]
  | .cleanupReleased sessionId operationId reason remaining failures, .cleaned _ more failed =>
    c.continues [.cleanupBackend sessionId operationId reason (remaining ++ more)
      (failures ++ failed)]
  | .cleanupBackend sessionId operationId reason remaining failures, .done =>
    c.locking sessionId fun s =>
      ({ s with backend := { s.backend with closing := true } },
        (if s.reservation.isSome then [.worker sessionId (.close reason none)] else []) ++
          [.cleanupEnd sessionId operationId remaining failures])
  | .cleanupEnd sessionId operationId remaining failures, .cleaned complete more failed =>
    c.locking sessionId fun s =>
      let remaining := remaining ++ more
      let failures := failures ++ failed
      let complete := complete ∧ failures = [] ∧ remaining = []
      (s.cleanupCommit complete remaining,
        [.finish sessionId operationId
          (if complete then .succeeded .closed
            else .failed (exceptionError (cleanupError failures).failure)) false])
  | .cleanupRelease sessionId operationId _ _ remaining _, .raised f
  | .cleanupReleased sessionId operationId _ remaining _, .raised f
  | .cleanupBackend sessionId operationId _ remaining _, .raised f
  | .cleanupEnd sessionId operationId remaining _, .raised f =>
    c.locking sessionId fun s =>
      (s.cleanupAbort remaining,
        [.finish sessionId operationId
          (.failed (exceptionError ⟨some .cleanupFailed, some .cleanup, f.message⟩)) false])
  | _, _ => none

/-! ### Hosted runs -/

def performHost (c : Controller) : Act → Input → Effect
  | .joinHost sessionId, .done =>
    if (c.session sessionId).any (fun s => s.hosting.run.all (·.done)) then c.continues []
    else none
  | .joinHost sessionId, .timedOut =>
    if (c.session sessionId).any (fun s => s.hosting.run.any (¬ ·.done)) then
      c.continues [.joinCancel sessionId]
    else none
  | .joinCancel sessionId, .done =>
    c.locking sessionId fun s =>
      (s.adopting (s.hosting.cancel .clientFailure), [.terminal sessionId .unjoined])
  | .hostBegin sessionId, .done =>
    c.locking sessionId fun s =>
      ({ s with hosting := s.hosting.begin.1 },
        if s.hosting.begin.2 then [.hostEvent sessionId, .hostLaunch sessionId]
        else [.terminal sessionId .unstarted, .hostDone sessionId])
  | .hostLaunch sessionId, .raised _ =>
    c.continues [.terminal sessionId .broken, .hostDone sessionId]
  | .hostLaunch sessionId, .done =>
    c.touching sessionId fun s =>
      ({ s with hosting := s.hosting.mapRun fun run => { run with host := true } },
        [.hostRun sessionId])
  | .hostRun sessionId, .callsExecute =>
    some { shared := c, more := [.hostRun sessionId], spawned := [[.hostExecute sessionId]] }
  | .hostRun sessionId, .callsSubmit =>
    some { shared := c, more := [.hostRun sessionId], spawned := [[.hostSubmit sessionId]] }
  | .hostRun sessionId, .revoked =>
    c.touching sessionId fun s =>
      ({ s with hosting := s.hosting.mapRun fun run => { run with cancel := true } },
        [.hostRun sessionId])
  | .hostRun sessionId, .hosted result =>
    -- The host revokes everything before it tears down.
    if (c.session sessionId).any (fun s => s.hosting.run.any (·.cancel)) then
      c.continues [.terminal sessionId result, .hostDone sessionId]
    else none
  | .terminal sessionId result, .done =>
    c.locking sessionId fun s =>
      (s.adopting (s.hosting.terminal result).1,
        if (s.hosting.terminal result).2 then [.hostEvent sessionId] else [])
  | .hostEvent sessionId, .done =>
    c.locking sessionId fun s =>
      match s.hosting.run with
      | none => (s, [])
      | some run =>
        if run.phase = .finished then
          if run.finishedNotified then (s, [])
          else
            ({ s with
              hosting := { s.hosting with run := some { run with finishedNotified := true } }
              locked := true },
              [.event sessionId (.agentFinished run.public), .unlock sessionId])
        else
          ({ s with locked := true },
            [.event sessionId (.agentUpdated run.public), .unlock sessionId])
  | .hostDone sessionId, .done =>
    c.touching sessionId fun s =>
      ({ s with hosting := s.hosting.mapRun fun run => { run with done := true } },
        [.hostCheck sessionId])
  | .hostCheck sessionId, .done =>
    c.locking sessionId fun s =>
      (s, if s.hosting.run.any (fun run => run.outcome ≠ some .submitted ∨
          run.cleanup.status ≠ .succeeded) then [internalCleanup sessionId .clientFailure false]
        else [])
  | .hostExecute sessionId, .done =>
    c.locking sessionId fun s =>
      if s.hosting.run.any (fun run => (run.phase = .starting ∨ run.phase = .running) ∧
            run.cancel = false) ∧ s.phase = .authoring ∧ s.activeOrdinary = none then
        ({ s with activeOrdinary := some .tool }, [.hostTool sessionId])
      else (s, [])
  | .hostTool sessionId, .done =>
    c.locking sessionId fun s => ({ s with activeOrdinary := none }, [])
  | _, _ => none

def performSubmit (c : Controller) : Act → Input → Effect
  | .hostSubmit sessionId, .done =>
    c.locking sessionId fun s =>
      (s.adopting (s.hosting.submitBegin s.phase).1,
        match (s.hosting.submitBegin s.phase).2 with
        | .begun => [.hostEvent sessionId, .submitSource sessionId]
        | _ => [])
  | .submitSource sessionId, .done =>
    c.locking sessionId fun s =>
      if s.hosting.installed.isSome then (s, [.submitCommit sessionId])
      else if s.backend.sealed ∨ s.backend.submitting then (s, [.submitFailed sessionId false])
      else
        ({ s with backend := { s.backend with submitting := true, sealed := true } },
          [.stopAuthoring sessionId])
  | .submitSource sessionId, .raised f =>
    c.continues [.submitFailed sessionId (f.code = some .deadlineExceeded)]
  | .stopAuthoring sessionId, .done =>
    c.touching sessionId fun s =>
      (s, if s.hosting.run.any (·.cancel) ∨ s.backend.closing then
          [.submitFinally sessionId (some false)]
        else [.freeze sessionId])
  | .freeze sessionId, .frozen submission => c.continues [.install sessionId submission]
  | .stopAuthoring sessionId, .raised f | .freeze sessionId, .raised f =>
    c.continues [.submitFinally sessionId (some (f.code = some .deadlineExceeded))]
  | .install sessionId _, .late => c.continues [.submitFinally sessionId (some true)]
  | .install sessionId submission, .done =>
    c.locking sessionId fun s =>
      match s.backend.closing, s.hosting.install submission with
      | false, some hosting =>
        ({ s with hosting := hosting }, [.submitFinally sessionId none])
      | _, _ => (s, [.submitFinally sessionId (some false)])
  | .submitFinally sessionId failed, .done =>
    c.locking sessionId fun s =>
      ({ s with backend := { s.backend with submitting := false } },
        match failed with
        | none => [.submitCommit sessionId]
        | some timedOut => [.submitFailed sessionId timedOut])
  | .submitCommit sessionId, .done =>
    c.locking sessionId fun s =>
      (s.adopting s.hosting.submitCommit.1,
        if s.hosting.submitCommit.2 then [.hostEvent sessionId]
        else [.submitFailed sessionId false])
  | .submitFailed sessionId timedOut, .done =>
    c.locking sessionId fun s => (s.adopting (s.hosting.submitFailed timedOut), [])
  | _, _ => none

/-! ### Timers and workers -/

/-- The milestone that an action of a reservation reaches. -/
def milestone (r : Reservation) : WorkerAct → WorkerInput → List Milestone
  | .candidate, .connected candidate =>
    match r.terms.check candidate with
    | .ok () => [.attached candidate]
    | .error _ => []
  | .launch, _ => [.launched]
  | _, _ => []

/-- An action of a reservation. Its events go to `_worker_event` before the
    thread goes on. -/
def performReservation (c : Controller) (s : Session) (r : Reservation) (act : WorkerAct)
    (input : WorkerInput) : Effect :=
  match r.perform act input with
  | none => none
  | some o =>
    some
      { shared := c.put { s with
          reservation := some o.shared
          trail := s.trail ++ milestone r act input }
        more := (o.shared.events.drop r.events.length).map (.workerEvent s.sessionId) ++
          o.more.map (.worker s.sessionId)
        spawned := o.spawned.map fun acts => acts.map (.worker s.sessionId) }

/-- `_launch_guard` is called by the accept thread and takes the lock of the
    session. -/
def performGuard (c : Controller) (s : Session) (r : Reservation) : Effect :=
  if s.locked then none
  else
    let (t, allowed) := s.launchGuard r.terms.workerId r.terms.admission
    c.performReservation { t with trail := t.trail ++ if allowed then [.guarded] else [] } r
      .launchGuard (.guarded allowed)

def performWorker (c : Controller) : Act → Input → Effect
  | .deadline sessionId, .done =>
    Controller.continues { c with expired := sessionId :: c.expired } [.deadlineCleanup sessionId]
  | .deadlineCleanup sessionId, .done =>
    c.continues (if (c.session sessionId).isSome then [internalCleanup sessionId .deadline false]
      else [])
  | .worker sessionId act, .worker input =>
    match c.session sessionId with
    | none => none
    | some s =>
      match s.reservation with
      | none => none
      | some r =>
        if act = .launchGuard then c.performGuard s r
        else c.performReservation s r act input
  | .workerEvent sessionId event, .done =>
    c.locking sessionId fun s => (s, [.workerNotify sessionId event s.closingReason])
  | .workerNotify sessionId event recorded, .done =>
    c.locking sessionId fun s =>
      ((s.workerEvent event).1,
        .event sessionId (.worker s.workerId (Session.workerNotice recorded event)) ::
          if (s.workerEvent event).2 then [internalCleanup sessionId .workerFailure false] else [])
  | _, _ => none

/-- What an action does. -/
def perform (c : Controller) (act : Act) (input : Input) : Effect :=
  match act with
  | .handle request => c.performHandle request input
  | .serve | .reject _ _ | .receive _ | .enter _ | .respond _ _ | .flush | .drainEvents _
  | .close => c.performServe act input
  | .event _ _ | .emit | .unlock _ | .finishEvent _ _ | .closedCheck _ _ | .closedEvent _
  | .evict _ => c.performEvent act input
  | .run _ _ _ | .authoring _ _ | .prepare _ _ | .streaming _ _ _ | .drain _ _ _ _
  | .output _ _ _ _ _ | .prepareCommit _ _ _ | .finish _ _ _ _ => c.performOperation act input
  | .cleanupWork _ _ _ _ | .cleanupHosted _ _ _ _ | .cleanupRelease _ _ _ _ _ _
  | .cleanupReleased _ _ _ _ _ | .cleanupBackend _ _ _ _ _ | .cleanupEnd _ _ _ _ =>
    c.performCleanup act input
  | .joinHost _ | .joinCancel _ | .hostBegin _ | .hostLaunch _ | .hostRun _ | .terminal _ _
  | .hostEvent _ | .hostDone _ | .hostCheck _ | .hostExecute _ | .hostTool _ =>
    c.performHost act input
  | .hostSubmit _ | .submitSource _ | .stopAuthoring _ | .freeze _ | .install _ _
  | .submitFinally _ _ | .submitCommit _ | .submitFailed _ _ => c.performSubmit act input
  | .deadline _ | .deadlineCleanup _ | .worker _ _ | .workerEvent _ _ | .workerNotify _ _ _ =>
    c.performWorker act input
  | _ => c.performRequest act input

/-- A new connection: the serving thread, and a controller that knows
    nothing. -/
def connect (maxCompleted : Nat) : Pool Controller Act :=
  ⟨{ maxCompleted := maxCompleted }, [[.serve]]⟩

end Controller

end MirrorGate.Control
