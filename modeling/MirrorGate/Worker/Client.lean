import MirrorGate.Worker.Correlation
import MirrorGate.Worker.Runtimes

/-!
# A Client and a Worker Connected

The Node client of a worker, and the line between the two. The client has one
call open at a time. When the deadline of a call passes or its caller aborts
it, the client sends a cancellation after it and waits, for a grace period, for
the worker to answer both. What the client is told in the meantime has to fit:
a cancelled call is answered as cancelled, and the cancellation after it.

The frames pass a `WorkerFlow` on their way. A frame is in flight on either
side of it, so the client, the flow and the worker see requests and
responses in different orders. `Relay` is the whole line, and an `Action` is
whatever happens next on it.

The transport is the managed one. When a call is cancelled the client also asks
over the control connection for the worker to be released, which lets the
reservation begin to close while the frames are in flight. When the client is
closed it has the reservation begin to close first, and disposes of the worker
only if the flow is quiescent.

## Main definitions

* `NodeClient`: The client, with the calls it has settled.
* `NodeClient.send`, `NodeClient.stop`, `NodeClient.receive`,
  `NodeClient.fatal`: What moves it.
* `Relay`, `Action`, `Relay.step`: The line, and one step on it.
* `Fault`: A party was blamed.
-/

namespace MirrorGate

/-! ### The client -/

/-- Why a call is stopped: its deadline passed, or it was aborted. -/
inductive Stop where
  | timeout
  | cancelled
deriving DecidableEq, Repr

/-- The code of a violation that the client finds. -/
inductive ViolationCode where
  | schema
  | handshake
  | value
deriving DecidableEq, Repr

/-- How a call is rejected. -/
inductive ClientError where
  | stopped (stop : Stop)
  | closed
  | violation (code : ViolationCode) (message : String)
  | remote (code : PortCode)
deriving DecidableEq, Repr

/-- The open call. -/
structure Entry where
  request : PortRequest
  stop : Option Stop := none

/-- A call that was settled, with the reason it had been stopped for. -/
structure Settled where
  id : RequestId
  stop : Option Stop
  outcome : Except ClientError Json

structure NodeClient where
  state : NodeState := .awaitHello
  nextId : Nat := 1
  pending : Option Entry := none
  /-- The cancellation that was sent, and why. -/
  cancelPending : Option (Nat × Stop) := none
  terminalError : Option ClientError := none
  skipDispose : Bool := false
  closing : Bool := false
  /-- The release of the worker was asked for over the control connection. -/
  cancellationRequested : Bool := false
  settled : List Settled := []

namespace NodeClient

/-- An identifier for the next request, if it is a safe integer. -/
def freshId (client : NodeClient) : Option RequestId :=
  if h : 1 ≤ client.nextId ∧ client.nextId ≤ 9007199254740991 then some ⟨client.nextId, h⟩
  else none

/-- The open call, if any, is settled. -/
def settle (client : NodeClient) (outcome : Except ClientError Json) : NodeClient :=
  match client.pending with
  | none => client
  | some entry =>
    { client with
      pending := none
      settled := client.settled ++ [⟨entry.request.id, entry.stop, outcome⟩] }

/-- What `_fatal` rejects the open call with. A call that was stopped keeps its
    reason when the channel closes. -/
def rejection (client : NodeClient) (error : ClientError) : ClientError :=
  match client.pending.bind Entry.stop with
  | some stop => if error = .closed then .stopped stop else error
  | none => error

/-- `_fatal`. -/
def fatal (client : NodeClient) (error : ClientError) : NodeClient :=
  if client.terminalError.isSome then client
  else
    { client.settle (.error (client.rejection error)) with
      terminalError := some error
      state := .poisoned
      skipDispose := true
      cancelPending := none }

/-- `_call`: the request that is sent, unless the call is rejected at once. -/
def send (client : NodeClient) (op : PortOp) : Option (NodeClient × PortRequest) :=
  if client.terminalError.isSome ∨ client.pending.isSome ∨ client.cancelPending.isSome then none
  else
    match client.freshId with
    | none => none
    | some id =>
      some ({ client with nextId := client.nextId + 1, pending := some { request := ⟨id, op⟩ } },
        ⟨id, op⟩)

/-- The calls that `start`, `invoke` and `observe` make. The client is started
    before it is handed out, so it is not closed before. -/
def permits (manifest : Manifest) (runtime : String) (client : NodeClient) : PortOp → Prop
  | .hello digest requested =>
    client.state = .awaitHello ∧ digest = some manifest.interfaceDigest ∧ requested = runtime
  | .create => client.state = .awaitCreate
  | .invoke action inputs =>
    (client.state = .needInitializer ∨ client.state = .readyAction) ∧
      (client.state = .needInitializer → manifest.isInitializer action = true) ∧
      ((manifest.operation action).any fun operation => fieldsConform operation.inputs inputs) =
        true
  | .observe => client.state = .needObserve
  | .dispose | .cancel _ => False

instance (manifest : Manifest) (runtime : String) (client : NodeClient) (op : PortOp) :
    Decidable (client.permits manifest runtime op) :=
  match op with
  | .hello _ _ => inferInstanceAs (Decidable (_ ∧ _ ∧ _))
  | .create => inferInstanceAs (Decidable (_ = _))
  | .invoke _ _ => inferInstanceAs (Decidable (_ ∧ _ ∧ _))
  | .observe => inferInstanceAs (Decidable (_ = _))
  | .dispose => inferInstanceAs (Decidable False)
  | .cancel _ => inferInstanceAs (Decidable False)

/-- `_cancel`: the open call is stopped. The frame is `none` when there is no
    identifier left for the cancellation, and no frame is sent for a
    disposal. -/
def stop (client : NodeClient) (reason : Stop) : NodeClient × List (Option PortRequest) :=
  match client.pending with
  | none => (client, [])
  | some entry =>
    if entry.stop.isSome ∨ client.terminalError.isSome then (client, [])
    else
      let stopped : NodeClient :=
        { client with
          pending := some { entry with stop := some reason }
          state := .poisoned
          skipDispose := true
          cancellationRequested := true }
      if entry.request.op.isDispose then (stopped.fatal (.stopped reason), [])
      else
        ({ stopped with
            cancelPending := some (client.nextId, reason)
            nextId := client.nextId + 1 },
          [client.freshId.map fun id => ⟨id, .cancel entry.request.id⟩])

/-- The grace period of a cancellation is over. -/
def graceExpires (client : NodeClient) : NodeClient :=
  match client.cancelPending with
  | none => client
  | some (_, reason) => client.fatal (.stopped reason)

/-- The state after a successful call. -/
def nextState : PortOp → NodeState
  | .hello _ _ => .awaitCreate
  | .create => .needInitializer
  | .invoke _ _ => .needObserve
  | .observe => .readyAction
  | .dispose | .cancel _ => .disposed

/-- The result of a call is of the form the client expects. -/
def checkResult (manifest : Manifest) (runtime : String) (result : Json) :
    PortOp → Except (ViolationCode × String) Unit
  | .hello _ _ =>
    if result.exact ["interfaceDigest", "runtime"] = false then
      .error (.schema, "Unexpected object fields")
    else
      match result.member? "interfaceDigest", result.member? "runtime" with
      | some (.str digest), some (.str named) =>
        if digest ≠ manifest.interfaceDigest ∨ named ≠ runtime then
          .error (.handshake, "Worker identity does not match the trusted public port")
        else .ok ()
      | _, _ => .error (.handshake, "Worker identity does not match the trusted public port")
  | .observe =>
    if fieldsConform manifest.observations result then .ok ()
    else .error (.value, "Unexpected object fields")
  | _ =>
    match result with
    | .null => .ok ()
    | _ => .error (.schema, "Operation result must be null")

def isNullSuccess : PortReply → Bool
  | .ok .null => true
  | _ => false

/-- `_receive`, up to what it throws. -/
def receive (manifest : Manifest) (runtime : String) (client : NodeClient)
    (response : PortResponse) : Except (ViolationCode × String) NodeClient :=
  if client.terminalError.isSome then .ok client
  else if client.cancelPending.map (·.1) = some response.id.val then
    if client.pending.isSome then
      .error (.schema, "Cancellation reply preceded original operation reply")
    else if isNullSuccess response.reply = false then
      .error (.schema, "Invalid cancellation acknowledgment")
    else .ok { client with cancelPending := none }
  else
    match client.pending with
    | none => .error (.schema, "Unsolicited or incorrectly correlated response")
    | some entry =>
      if response.id ≠ entry.request.id then
        .error (.schema, "Unsolicited or incorrectly correlated response")
      else
        match response.reply with
        | .failed code =>
          match entry.stop with
          | some reason =>
            if code ≠ .cancelled then
              .error (.schema, "Cancelled operation returned another outcome")
            else .ok ({ client with state := .poisoned }.settle (.error (.stopped reason)))
          | none => .ok ({ client with state := .poisoned }.settle (.error (.remote code)))
        | .ok result =>
          if entry.stop.isSome then .error (.schema, "Cancelled operation returned success")
          else
            match checkResult manifest runtime result entry.request.op with
            | .error e => .error e
            | .ok () =>
              .ok ({ client with state := nextState entry.request.op }.settle (.ok result))

end NodeClient

/-! ### What the flow sees -/

def PortOp.seen : PortOp → WorkerOp
  | .hello digest runtime => .hello (digest.getD "") runtime
  | .create => .create
  | .invoke _ _ => .invoke
  | .observe => .observe
  | .dispose => .dispose
  | .cancel target => .cancel target

def PortRequest.seen (request : PortRequest) : WorkerRequest := ⟨request.id.val, request.op.seen⟩

def resultSeen (result : Json) : WorkerResult :=
  match result with
  | .null => .null
  | .obj [("interfaceDigest", .str digest), ("runtime", .str runtime)] => .identity digest runtime
  | _ => .other

def PortReply.seen : PortReply → WorkerReply
  | .ok result => .ok (resultSeen result)
  | .failed code => .failed code.text

def PortResponse.seen (response : PortResponse) : WorkerResponse :=
  ⟨response.id.val, response.reply.seen⟩

/-! ### The line -/

/-- A party is blamed. -/
inductive Fault where
  | flow (error : ProtocolError)
  | worker
  | client (code : ViolationCode) (message : String)
deriving DecidableEq, Repr

/-- The client, the flow and the worker, with what is in flight between them,
    the oldest frame first. A request is `none` when no check accepts it. -/
structure Relay (σ : Type) where
  client : NodeClient := {}
  toFlow : List (Option PortRequest) := []
  flow : WorkerFlow := {}
  toWorker : List PortRequest := []
  worker : NodeWorker σ := {}
  fromWorker : List PortResponse := []
  toClient : List PortResponse := []
  faults : List Fault := []

inductive Action where
  /-- The application makes a call. -/
  | call (op : PortOp)
  /-- The deadline of the open call passes, or it is aborted. -/
  | stop (reason : Stop)
  | graceExpires
  /-- The application closes the client. -/
  | close
  /-- The closed client, with no call open, has the worker released. -/
  | release
  /-- The reservation begins to close, as the client asked for. -/
  | armClosing
  | relayRequest
  | deliverRequest
  /-- The worker has run the pending operation. -/
  | settle
  | relayResponse
  | deliverResponse
  /-- The transport closes. -/
  | hangUp

namespace Relay

variable {σ : Type}

/-- A violation that the client finds is its terminal error. -/
def clientReceives (manifest : Manifest) (runtime : String) (relay : Relay σ)
    (response : PortResponse) : Relay σ :=
  match relay.client.receive manifest runtime response with
  | .ok client => { relay with client := client }
  | .error (code, message) =>
    { relay with
      client := relay.client.fatal (.violation code message)
      faults := relay.faults ++ [.client code message] }

/-- The open call is stopped, and its cancellation sent. -/
def stopCall (relay : Relay σ) (reason : Stop) : Relay σ :=
  { relay with
    client := (relay.client.stop reason).1
    toFlow := relay.toFlow ++ (relay.client.stop reason).2 }

/-- A call is sent, unless it is rejected at once. -/
def sendCall (relay : Relay σ) (op : PortOp) : Relay σ :=
  match relay.client.send op with
  | none => relay
  | some (client, request) =>
    { relay with client := client, toFlow := relay.toFlow ++ [some request] }

/-- The worker is told to dispose of itself if the flow is quiescent and
    nothing speaks against it. -/
def disposes (relay : Relay σ) : Prop :=
  relay.flow.cleanupMode = .disposeThenTerminate ∧ relay.client.skipDispose = false ∧
    relay.client.terminalError = none ∧ relay.client.state ≠ .awaitHello ∧
    relay.client.state ≠ .disposed

instance (relay : Relay σ) : Decidable relay.disposes := inferInstanceAs (Decidable (_ ∧ _))

/-- One step on the line, `none` if there is nothing to do. -/
def step (manifest : Manifest) (runtime : String) (adapter : Adapter σ) (relay : Relay σ) :
    Action → Option (Relay σ)
  | .call op =>
    if relay.client.closing = false ∧ relay.client.permits manifest runtime op then
      some (relay.sendCall op)
    else none
  | .stop reason => some (relay.stopCall reason)
  | .graceExpires => some { relay with client := relay.client.graceExpires }
  | .close =>
    if relay.client.closing then none
    else some { relay.stopCall .cancelled with
      client := { (relay.stopCall .cancelled).client with closing := true } }
  | .release =>
    if relay.client.closing ∧ relay.client.pending.isNone ∧ relay.client.cancelPending.isNone then
      if relay.disposes then
        some ({ relay with flow := relay.flow.beginClosing }.sendCall .dispose)
      else some { relay with flow := relay.flow.beginClosing }
    else none
  | .armClosing =>
    if relay.client.cancellationRequested then
      some { relay with flow := relay.flow.beginClosing }
    else none
  | .relayRequest =>
    match relay.toFlow with
    | [] => none
    | none :: rest =>
      some { relay with
        toFlow := rest
        faults := relay.faults ++ [.flow ⟨.schema, "invalid request ID"⟩] }
    | some request :: rest =>
      match relay.flow.clientFrame request.seen with
      | (.ok (), flow) =>
        some { relay with toFlow := rest, flow := flow, toWorker := relay.toWorker ++ [request] }
      | (.error e, flow) =>
        some { relay with toFlow := rest, flow := flow, faults := relay.faults ++ [.flow e] }
  | .deliverRequest =>
    match relay.toWorker with
    | [] => none
    | request :: rest =>
      let received := relay.worker.receive (some request)
      some { relay with
        toWorker := rest
        worker := received.1
        fromWorker := relay.fromWorker ++ received.2
        faults := relay.faults ++
          if relay.worker.terminating = false ∧ received.1.terminating then [.worker] else [] }
  | .settle =>
    if relay.worker.pending.isSome ∧ relay.worker.terminating = false then
      let settled := relay.worker.settle manifest adapter
      some { relay with worker := settled.1, fromWorker := relay.fromWorker ++ settled.2 }
    else none
  | .relayResponse =>
    match relay.fromWorker with
    | [] => none
    | response :: rest =>
      match relay.flow.workerFrame response.seen with
      | (.ok _, flow) =>
        some { relay with fromWorker := rest, flow := flow, toClient := relay.toClient ++ [response] }
      | (.error e, flow) =>
        some { relay with fromWorker := rest, flow := flow, faults := relay.faults ++ [.flow e] }
  | .deliverResponse =>
    match relay.toClient with
    | [] => none
    | response :: rest =>
      some (clientReceives manifest runtime { relay with toClient := rest } response)
  | .hangUp => some { relay with client := relay.client.fatal .closed }

/-- A sequence of steps. -/
def run (manifest : Manifest) (runtime : String) (adapter : Adapter σ) (relay : Relay σ)
    (actions : List Action) : Option (Relay σ) :=
  actions.foldlM (step manifest runtime adapter) relay

end Relay

end MirrorGate
