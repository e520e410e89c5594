import MirrorGate.Worker.Port

/-!
# The Node Runtime and the Rust Runtime

Both runtimes serve one port over a pair of streams. A request is received,
an operation is run by the adapter of the application, and its result is
answered. While an operation runs the only request that is taken is its
cancellation. Anything that cannot be correlated ends the runtime.

The Node runtime runs every operation the same way: `receive` makes the
request the pending one, and `settle` runs it and answers. Lifecycle, identity
and value checks are part of running it. The Rust runtime makes those checks
in `receive`, answers what needs no callback at once, and hands the rest to
a thread, whose result `complete` answers.

An adapter is any machine with a state. What it returns is all that a runtime
sees of it.

## Main definitions

* `Adapter`: The application behind a port.
* `NodeWorker`, `NodeWorker.receive`, `NodeWorker.settle`: The Node runtime.
* `RustWorker`, `RustWorker.receive`, `RustWorker.complete`: The Rust runtime.
-/

namespace MirrorGate

/-- An application behind a port. `none` and `false` are failures. -/
structure Adapter (σ : Type) where
  create : Option σ
  invoke : σ → String → Json → Bool × σ
  observe : σ → Option Json × σ
  dispose : σ → Bool

/-! ### The Node runtime -/

inductive NodeState where
  | awaitHello
  | awaitCreate
  | needInitializer
  | needObserve
  | readyAction
  | poisoned
  | disposed
deriving DecidableEq, Repr

structure NodeWorker (σ : Type) where
  state : NodeState := .awaitHello
  lastId : Nat := 0
  pending : Option PortRequest := none
  /-- The callback of a cancelled request has not returned yet. -/
  abandoned : Bool := false
  adapter : Option σ := none
  terminating : Bool := false

/-- The runtime that every Node worker names itself. -/
def nodeRuntime : String := "node-v1"

def PortOp.isDispose : PortOp → Bool
  | .dispose => true
  | _ => false

/-- The request cancels the request with this identifier. -/
def PortOp.cancels (op : PortOp) (id : RequestId) : Bool :=
  match op with
  | .cancel target => target = id.val
  | _ => false

namespace NodeWorker

variable {σ : Type}

/-- `fatal`. -/
def fatal (worker : NodeWorker σ) : NodeWorker σ :=
  { worker with state := .poisoned, terminating := true }

/-- `receive`, with the request as the checks read it. -/
def receive (worker : NodeWorker σ) (request : Option PortRequest) :
    NodeWorker σ × List PortResponse :=
  if worker.terminating then (worker, [])
  else
    match request with
    | none => (worker.fatal, [])
    | some request =>
      if request.id.val ≤ worker.lastId then (worker.fatal, [])
      else
        match worker.pending with
        | some pending =>
          if request.op.cancels pending.id ∧ pending.op.isDispose = false then
            ({ worker with
                lastId := request.id.val
                pending := none
                abandoned := true
                state := .poisoned },
              [⟨pending.id, .failed .cancelled⟩, ⟨request.id, .ok .null⟩])
          else ({ worker with lastId := request.id.val }.fatal, [])
        | none => ({ worker with lastId := request.id.val, pending := some request }, [])

/-- `disposeAdapter`. -/
def disposeAdapter (adapter : Adapter σ) (worker : NodeWorker σ) : Bool :=
  match worker.adapter with
  | some a => adapter.dispose a
  | none => true

/-- `execute`: the result of an operation, or the code of its error. -/
def execute (manifest : Manifest) (adapter : Adapter σ) (worker : NodeWorker σ) :
    PortOp → Except PortCode Json × NodeWorker σ
  | .hello digest runtime =>
    if worker.state ≠ .awaitHello then (.error .lifecycle, worker)
    else if digest ≠ some manifest.interfaceDigest ∨ runtime ≠ nodeRuntime then
      (.error .handshake, worker)
    else
      (.ok (identityJson manifest.interfaceDigest nodeRuntime),
        { worker with state := .awaitCreate })
  | .create =>
    if worker.state ≠ .awaitCreate then (.error .lifecycle, worker)
    else
      match adapter.create with
      | none => (.error .application, worker)
      | some a => (.ok .null, { worker with adapter := some a, state := .needInitializer })
  | .invoke action inputs =>
    if worker.state ≠ .needInitializer ∧ worker.state ≠ .readyAction then
      (.error .lifecycle, worker)
    else
      match manifest.operation action with
      | none => (.error .value, worker)
      | some operation =>
        if worker.state = .needInitializer ∧ manifest.isInitializer action = false then
          (.error .lifecycle, worker)
        else if fieldsConform operation.inputs inputs = false then (.error .value, worker)
        else
          match worker.adapter with
          | none => (.error .application, worker)
          | some a =>
            match adapter.invoke a action inputs with
            | (false, a) => (.error .application, { worker with adapter := some a })
            | (true, a) => (.ok .null, { worker with adapter := some a, state := .needObserve })
  | .observe =>
    if worker.state ≠ .needObserve then (.error .lifecycle, worker)
    else
      match worker.adapter with
      | none => (.error .application, worker)
      | some a =>
        match adapter.observe a with
        | (none, a) => (.error .application, { worker with adapter := some a })
        | (some value, a) =>
          if fieldsConform manifest.observations value then
            (.ok value, { worker with adapter := some a, state := .readyAction })
          else (.error .value, { worker with adapter := some a })
  | .dispose =>
    if worker.state = .disposed ∨ worker.state = .awaitHello then (.error .lifecycle, worker)
    else
      (if worker.disposeAdapter adapter then .ok .null else .error .application,
        { worker with state := .disposed })
  | .cancel _ => (.error .lifecycle, worker)

/-- An operation is run, unless the worker is poisoned. -/
def run (manifest : Manifest) (adapter : Adapter σ) (worker : NodeWorker σ) (op : PortOp) :
    Except PortCode Json × NodeWorker σ :=
  if worker.state = .poisoned ∧ op.isDispose = false then (.error .lifecycle, worker)
  else worker.execute manifest adapter op

/-- The pending operation is run and answered. A disposal waits for a callback
    that was abandoned, and ends the worker. -/
def settle (manifest : Manifest) (adapter : Adapter σ) (worker : NodeWorker σ) :
    NodeWorker σ × List PortResponse :=
  if worker.terminating then (worker, [])
  else
    match worker.pending with
    | none => (worker, [])
    | some request =>
      let dispose := request.op.isDispose
      match worker.run manifest adapter request.op with
      | (.ok result, worker) =>
        if fitsFrame (successJson request.id result) then
          ({ worker with pending := none, terminating := dispose },
            [⟨request.id, .ok result⟩])
        else
          ({ worker with pending := none, state := .poisoned, terminating := dispose },
            [⟨request.id, .failed .limit⟩])
      | (.error code, worker) =>
        ({ worker with
            pending := none
            state := if dispose then .disposed else .poisoned
            terminating := dispose },
          [⟨request.id, .failed code⟩])

end NodeWorker

/-! ### The Rust runtime -/

inductive RustState where
  | hello
  | create
  | initialization
  | observe
  | ready
  | poisoned
deriving DecidableEq, Repr

inductive CommandKind where
  | create
  | invoke (action : String) (inputs : Json)
  | observe
  | dispose

structure RustPending where
  id : RequestId
  command : CommandKind
  nextState : RustState
  dispose : Bool
  observation : Bool

structure RustWorker (σ : Type) where
  state : RustState := .hello
  lastId : Nat := 0
  pending : Option RustPending := none
  /-- The factory was called. -/
  constructed : Bool := false
  adapter : Option σ := none
  /-- `run_worker` has returned. -/
  stopped : Bool := false

namespace RustWorker

variable {σ : Type}

/-- What is to be done about an operation. -/
inductive Plan where
  | answer (result : Json) (state : RustState)
  | refuse (code : PortCode)
  | run (command : CommandKind) (nextState : RustState) (dispose observation : Bool)

/-- The checks of an operation when none is pending. -/
def plan (manifest : Manifest) (runtime : String) (state : RustState) : PortOp → Plan
  | .hello digest requested =>
    if state = .hello then
      if digest ≠ some manifest.interfaceDigest ∨ requested ≠ runtime then .refuse .handshake
      else .answer (identityJson manifest.interfaceDigest runtime) .create
    else .refuse .lifecycle
  | .create => if state = .create then .run .create .initialization false false else .refuse .lifecycle
  | .invoke action inputs =>
    if state = .initialization ∨ state = .ready then
      if state = .initialization ∧ manifest.isInitializer action = false then .refuse .lifecycle
      else
        match manifest.operation action with
        | some operation =>
          if fieldsConform operation.inputs inputs then
            .run (.invoke action inputs) .observe false false
          else .refuse .value
        | none => .refuse .value
    else .refuse .lifecycle
  | .observe => if state = .observe then .run .observe .ready false true else .refuse .lifecycle
  | .dispose => if state ≠ .hello then .run .dispose .poisoned true false else .refuse .lifecycle
  | .cancel _ => .refuse .lifecycle

/-- A request arrives, as the checks read it. -/
def receive (manifest : Manifest) (runtime : String) (worker : RustWorker σ)
    (request : Option PortRequest) : RustWorker σ × List PortResponse :=
  if worker.stopped then (worker, [])
  else
    match request with
    | none => ({ worker with stopped := true }, [])
    | some request =>
      if request.id.val ≤ worker.lastId then ({ worker with stopped := true }, [])
      else
        match worker.pending with
        | some pending =>
          if request.op.cancels pending.id ∧ pending.dispose = false then
            ({ worker with lastId := request.id.val, pending := none, state := .poisoned },
              [⟨pending.id, .failed .cancelled⟩, ⟨request.id, .ok .null⟩])
          else ({ worker with lastId := request.id.val, pending := none, stopped := true }, [])
        | none =>
          match plan manifest runtime worker.state request.op with
          | .answer result state =>
            ({ worker with lastId := request.id.val, state := state }, [⟨request.id, .ok result⟩])
          | .refuse code =>
            ({ worker with lastId := request.id.val, state := .poisoned },
              [⟨request.id, .failed code⟩])
          | .run command nextState dispose observation =>
            ({ worker with
                lastId := request.id.val
                pending := some ⟨request.id, command, nextState, dispose, observation⟩ }, [])

/-- The thread of the callbacks carries out a command. -/
def carryOut (adapter : Adapter σ) (worker : RustWorker σ) :
    CommandKind → Option Json × RustWorker σ
  | .create =>
    if worker.constructed then (none, worker)
    else
      match adapter.create with
      | none => (none, { worker with constructed := true })
      | some a => (some .null, { worker with constructed := true, adapter := some a })
  | .invoke action inputs =>
    match worker.adapter with
    | none => (none, worker)
    | some a =>
      match adapter.invoke a action inputs with
      | (done, a) => (if done then some .null else none, { worker with adapter := some a })
  | .observe =>
    match worker.adapter with
    | none => (none, worker)
    | some a =>
      match adapter.observe a with
      | (value, a) => (value, { worker with adapter := some a })
  | .dispose =>
    match worker.adapter with
    | none => (some .null, worker)
    | some a => (if adapter.dispose a then some .null else none, { worker with adapter := none })

/-- The result of the pending command is answered. -/
def complete (manifest : Manifest) (adapter : Adapter σ) (worker : RustWorker σ) :
    RustWorker σ × List PortResponse :=
  if worker.stopped then (worker, [])
  else
    match worker.pending with
    | none => (worker, [])
    | some pending =>
      match worker.carryOut adapter pending.command with
      | (some value, worker) =>
        if pending.observation ∧ fieldsConform manifest.observations value = false then
          ({ worker with pending := none, state := .poisoned, stopped := pending.dispose },
            [⟨pending.id, .failed .value⟩])
        else if fitsFrame (successJson pending.id value) = false then
          ({ worker with pending := none, state := .poisoned, stopped := pending.dispose },
            [⟨pending.id, .failed .value⟩])
        else
          ({ worker with pending := none, state := pending.nextState, stopped := pending.dispose },
            [⟨pending.id, .ok value⟩])
      | (none, worker) =>
        ({ worker with pending := none, state := .poisoned, stopped := pending.dispose },
          [⟨pending.id, .failed .application⟩])

end RustWorker

end MirrorGate
