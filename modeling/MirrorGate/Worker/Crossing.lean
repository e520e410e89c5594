import MirrorGate.Worker.Client
import MirrorGate.Worker.Interchange
import MirrorGate.Worker.Poisoning

/-!
# Frames That Cross

A cancellation and the answer to the call it cancels can be in flight at the
same time, in opposite directions. The flow then sees the answer first and
takes the cancellation for one of nothing, and the client sees a success
where it is waiting for the call to be cancelled. Either blames a party that
has done nothing wrong.

The same happens when the handshake is stopped or fails, since the flow takes
a failed hello or create for a violation, and when the reservation begins to
close while a call is still on its way to the flow.

`Careful` is a step at which none of this happens. On a line where every step
is careful nobody is blamed, and a call that was stopped is rejected with the
reason it was stopped for.

The proof follows the one request that can be open. `Traffic` lists the
places it can be in, alone or with its cancellation behind it, and what the
flow has on its books in each.

## Main definitions

* `Careful`: Nothing crosses in the step.
* `Traffic`: Where the open request and its cancellation are.
* `Sound`: The invariant of the line.

## Theorems

* `Sound.step`: A careful step keeps the invariant.
* `nobody_blamed`: Every careful run.
* `quiescent`: A careful run at rest.
* `crossedCall_blames`: A cancellation that crosses the answer of its call.
-/

namespace MirrorGate

open Option NodeWorker

variable {σ : Type}

/-! ### Steps at which nothing crosses -/

def PortOp.isCancellable : PortOp → Bool
  | .invoke _ _ | .observe => true
  | _ => false

namespace Relay

/-- The open call may be stopped: it is a disposal, or a call to the adapter
    whose answer is not on its way, and there is an identifier left for the
    cancellation. -/
def MayStop (relay : Relay σ) : Prop :=
  ∀ entry, relay.client.pending = some entry → entry.stop = none →
    entry.request.op.isDispose = true ∨
      (entry.request.op.isCancellable = true ∧ relay.client.nextId ≤ 9007199254740991 ∧
        ∀ response ∈ relay.fromWorker ++ relay.toClient, response.id ≠ entry.request.id)

/-- An operation of the handshake succeeds. -/
def Greets (runtime : String) (adapter : Adapter σ) : PortOp → Prop
  | .hello _ _ => runtime = nodeRuntime
  | .create => adapter.create.isSome = true
  | _ => True

instance (runtime : String) (adapter : Adapter σ) (op : PortOp) :
    Decidable (Greets runtime adapter op) :=
  match op with
  | .hello _ _ => inferInstanceAs (Decidable (_ = _))
  | .create => inferInstanceAs (Decidable (_ = _))
  | .invoke _ _ | .observe | .dispose | .cancel _ => inferInstanceAs (Decidable True)

/-- The worker may answer the pending operation: no cancellation of it is on
    its way, and the handshake succeeds. -/
def MaySettle (runtime : String) (adapter : Adapter σ) (relay : Relay σ) : Prop :=
  ∀ request, relay.worker.pending = some request →
    (∀ other, some other ∈ relay.toFlow ++ relay.toWorker.map some →
      other.op.cancels request.id = false) ∧ Greets runtime adapter request.op

/-- Nothing crosses in the step. -/
def Careful (runtime : String) (adapter : Adapter σ) (relay : Relay σ) : Action → Prop
  | .stop _ | .close => relay.MayStop
  | .settle => relay.MaySettle runtime adapter
  | .release | .armClosing => ∀ request, some request ∈ relay.toFlow →
      request.op.seen.isCancel = true
  | _ => True

instance (relay : Relay σ) : Decidable relay.MayStop :=
  inferInstanceAs (Decidable (∀ entry ∈ relay.client.pending, entry.stop = none → _ ∨ _ ∧ _ ∧ _))

instance (frames : List (Option PortRequest)) (p : PortRequest → Prop) [DecidablePred p] :
    Decidable (∀ request, some request ∈ frames → p request) :=
  decidable_of_iff (∀ frame ∈ frames, ∀ request ∈ frame, p request)
    ⟨fun h request hmem => h _ hmem request rfl, fun h _ hmem request hframe =>
      h request (Option.mem_def.mp hframe ▸ hmem)⟩

instance (runtime : String) (adapter : Adapter σ) (relay : Relay σ) :
    Decidable (relay.MaySettle runtime adapter) :=
  inferInstanceAs (Decidable (∀ request ∈ relay.worker.pending, _ ∧ _))

instance (runtime : String) (adapter : Adapter σ) (relay : Relay σ) (action : Action) :
    Decidable (relay.Careful runtime adapter action) :=
  match action with
  | .stop _ | .close => inferInstanceAs (Decidable relay.MayStop)
  | .settle => inferInstanceAs (Decidable (relay.MaySettle runtime adapter))
  | .release | .armClosing => inferInstanceAs (Decidable (∀ request, some request ∈ relay.toFlow →
      request.op.seen.isCancel = true))
  | .call _ | .graceExpires | .relayRequest | .deliverRequest | .relayResponse
  | .deliverResponse | .hangUp => inferInstanceAs (Decidable True)

/-- What is reached by careful steps. -/
inductive Reaches (manifest : Manifest) (runtime : String) (adapter : Adapter σ) :
    Relay σ → Prop
  | start : Reaches manifest runtime adapter {}
  | step {relay relay' : Relay σ} (action : Action) (h : Reaches manifest runtime adapter relay)
      (hcareful : relay.Careful runtime adapter action)
      (hstep : relay.step manifest runtime adapter action = some relay') :
      Reaches manifest runtime adapter relay'

end Relay

/-! ### The flow, frame by frame -/

namespace WorkerFlow

variable {flow : WorkerFlow}

/-- An ordinary request enters a flow with nothing on its books. -/
theorem clientFrame_ordinary {request : WorkerRequest}
    (hid : flow.lastId < request.id) (hop : request.op.isCancel = false)
    (hrequests : flow.requests = []) (hopen : flow.ordinaryPending = none)
    (hpermits : flow.lifecyclePermits request.op = .ok ())
    (hdispose : request.op = .dispose → flow.disposeSent = false)
    (hclosing : flow.closing = true →
      request.op = .dispose ∧ flow.cleanupMode = .disposeThenTerminate) :
    flow.clientFrame request = (.ok (), { flow with
      lastId := request.id
      disposeSent := flow.disposeSent || request.op = .dispose
      ordinaryPending := some request.id
      requests := [request] }) := by
  have henter : { flow with lastId := request.id }.enter request = .ok { flow with
      lastId := request.id
      disposeSent := flow.disposeSent || request.op = .dispose
      ordinaryPending := some request.id
      requests := [request] } := by
    unfold enter
    split
    · next target htarget =>
      rw [htarget] at hop
      cases hop
    · rw [if_neg (not_not.mpr hopen)]
      have hperm : { flow with lastId := request.id }.lifecyclePermits request.op = .ok () :=
        hpermits
      split
      · next hrefused => cases hperm.symm.trans hrefused
      · rw [if_neg]
        · rw [hrequests, List.nil_append]
        · rintro ⟨hop, hsent⟩
          cases (hdispose hop).symm.trans hsent
  have hadmit : { flow with lastId := request.id }.admitFrame request =
      { flow with lastId := request.id }.enter request := by
    unfold admitFrame
    by_cases hflag : flow.closing = true
    · obtain ⟨hop, hmode⟩ := hclosing hflag
      have hok : { flow with lastId := request.id }.closingPermits request.op = .ok () := by
        rw [hop, closingPermits, if_neg]
        exact not_not.mpr hmode
      rw [if_pos hflag, hok]
    · rw [if_neg hflag]
  rw [clientFrame, if_neg (Nat.not_le.mpr hid), hadmit, henter]

/-- A cancellation of the open request enters the flow. -/
theorem clientFrame_cancel {id target : Nat} (hid : flow.lastId < id)
    (hopen : flow.ordinaryPending = some target) (hfree : flow.cancelPending = none) :
    flow.clientFrame ⟨id, .cancel target⟩ = (.ok (), { flow with
      lastId := id
      cancelPending := some id
      cancelledEver := true
      requests := flow.requests ++ [⟨id, .cancel target⟩] }) := by
  have hadmit : { flow with lastId := id }.admitFrame ⟨id, .cancel target⟩ = .ok { flow with
      lastId := id
      cancelPending := some id
      cancelledEver := true
      requests := flow.requests ++ [⟨id, .cancel target⟩] } := by
    unfold admitFrame closingPermits enter
    cases flow.closing <;> simp [hopen, hfree]
  rw [clientFrame, if_neg (Nat.not_le.mpr hid), hadmit]

/-- The answer to the open request leaves the flow. -/
theorem workerFrame_ordinary {request : WorkerRequest}
    {rest : List WorkerRequest} {reply : WorkerReply}
    (hrequests : flow.requests = request :: rest) (hopen : flow.ordinaryPending = some request.id)
    (hcancel : flow.cancelPending ≠ some request.id) (hrest : ∀ r ∈ rest, r.id ≠ request.id) :
    flow.workerFrame ⟨request.id, reply⟩ =
      { flow with ordinaryPending := none, requests := rest }.answer request.op reply := by
  have hslot : flow.correlate request.id = .ok { flow with ordinaryPending := none } := by
    rw [correlate, if_neg hcancel, if_pos hopen]
  have hkept : rest.filter (fun r => decide (r.id ≠ request.id)) = rest :=
    List.filter_eq_self.mpr fun r hr => by simpa using hrest r hr
  unfold workerFrame
  simp only [hrequests, List.find?_cons_of_pos, decide_true, hslot]
  rw [List.filter_cons_of_neg (by simp), hkept]

/-- The answer to the cancellation leaves the flow, when the open request has
    been answered. -/
theorem workerFrame_cancel {request : WorkerRequest} {reply : WorkerReply}
    (hrequests : flow.requests = [request]) (hopen : flow.ordinaryPending = none)
    (hcancel : flow.cancelPending = some request.id) :
    flow.workerFrame ⟨request.id, reply⟩ =
      { flow with cancelPending := none, requests := [] }.answer request.op reply := by
  have hslot : flow.correlate request.id = .ok { flow with cancelPending := none } := by
    rw [correlate, if_pos hcancel, if_neg (not_not.mpr hopen)]
  unfold workerFrame
  simp only [hrequests, List.find?_cons_of_pos, decide_true, hslot]
  rw [List.filter_cons_of_neg (by simp), List.filter_nil]

end WorkerFlow

/-! ### Replies -/

/-- The reply is one that the operation can have. -/
def Suits (manifest : Manifest) : PortOp → PortReply → Prop
  | .hello digest runtime, reply =>
    ∃ text, digest = some text ∧ reply = .ok (identityJson text runtime)
  | .create, reply => reply = .ok .null
  | .invoke _ _, .ok result => result = .null
  | .observe, .ok result => fieldsConform manifest.observations result = true
  | .dispose, .ok result => result = .null
  | .invoke _ _, .failed _ => True
  | .observe, .failed _ => True
  | .dispose, .failed _ => True
  | .cancel _, _ => False

/-- Where the parties are between two calls, by the state of the client. -/
def Agree (lifecycle : Lifecycle) (worker : NodeState) : NodeState → Prop
  | .awaitHello => lifecycle = .awaitHello ∧ worker = .awaitHello
  | .awaitCreate => lifecycle = .awaitCreate ∧ worker = .awaitCreate
  | .needInitializer | .needObserve | .readyAction => lifecycle.Live
  | .poisoned | .disposed => True

/-- Where the worker is once it has run an operation. -/
def AfterRun (worker : NodeState) : PortOp → Prop
  | .hello _ _ => worker = .awaitCreate
  | _ => True

variable {manifest : Manifest} {flow : WorkerFlow} {op : PortOp}

/-- The flow takes a reply that suits the operation, and is then where the
    client will be. -/
theorem answer_of_suits
    {reply : PortReply} (hsuits : Suits manifest op reply) :
    ∃ b lifecycle failure,
      flow.answer op.seen reply.seen =
        (.ok b, { flow with lifecycle := lifecycle, cooperativeFailure := failure }) ∧
      (op.isDispose = true → lifecycle.Ended) ∧
      ∀ result, reply = .ok result → ∀ worker, AfterRun worker op →
        Agree lifecycle worker (NodeClient.nextState op) := by
  cases op with
  | hello digest runtime =>
    obtain ⟨text, rfl, rfl⟩ := hsuits
    refine ⟨false, .awaitCreate, flow.cooperativeFailure, ?_, nofun,
      fun _ _ worker hworker => ⟨rfl, hworker⟩⟩
    simp [PortOp.seen, PortReply.seen, identityJson, resultSeen, WorkerFlow.answer]
  | create =>
    cases hsuits
    exact ⟨true, .created, flow.cooperativeFailure, rfl, nofun, fun _ _ _ _ => .inl rfl⟩
  | invoke action inputs =>
    cases reply with
    | ok result =>
      exact ⟨false, .ready, flow.cooperativeFailure, rfl, nofun, fun _ _ _ _ => .inr rfl⟩
    | failed code => exact ⟨false, .poisoned, flow.cooperativeFailure, rfl, nofun, nofun⟩
  | observe =>
    cases reply with
    | ok result =>
      exact ⟨false, .ready, flow.cooperativeFailure, rfl, nofun, fun _ _ _ _ => .inr rfl⟩
    | failed code => exact ⟨false, .poisoned, flow.cooperativeFailure, rfl, nofun, nofun⟩
  | dispose =>
    cases reply with
    | ok result =>
      cases hsuits
      exact ⟨false, .disposed, flow.cooperativeFailure, rfl, fun _ => .inr rfl,
        fun _ _ _ _ => trivial⟩
    | failed code => exact ⟨false, .poisoned, _, rfl, fun _ => .inl rfl, nofun⟩
  | cancel target => cases hsuits

variable {runtime : String}

/-- The client takes a reply that suits the call. -/
theorem checkResult_of_suits {result : Json}
    (hsuits : Suits manifest op (.ok result))
    (hhello : ∀ digest requested, op = .hello digest requested →
      digest = some manifest.interfaceDigest ∧ requested = runtime) :
    NodeClient.checkResult manifest runtime result op = .ok () := by
  cases op with
  | hello digest requested =>
    obtain ⟨hdigest, rfl⟩ := hhello digest requested rfl
    obtain ⟨text, htext, hreply⟩ := hsuits
    cases htext.symm.trans hdigest
    cases hreply
    simp [NodeClient.checkResult, identityJson, Json.exact, Json.member?]
  | create | invoke | dispose =>
    cases hsuits
    rfl
  | observe => exact if_pos hsuits
  | cancel target => cases hsuits

/-- An operation that is no part of the handshake fails, or has a result that
    suits it. -/
theorem run_suits (manifest : Manifest) (adapter : Adapter σ) (worker : NodeWorker σ)
    (hstage : op.seen.stage = none) (hcancel : op.seen.isCancel = false) :
    (worker.run manifest adapter op).2.lastId = worker.lastId ∧
      ∀ result, (worker.run manifest adapter op).1 = .ok result →
        Suits manifest op (.ok result) := by
  unfold run
  split
  · exact ⟨rfl, nofun⟩
  · cases op with
    | hello | create => cases hstage
    | cancel => cases hcancel
    | invoke action inputs =>
      simp only [execute]
      repeat' split
      all_goals refine ⟨rfl, fun _ h => ?_⟩
      all_goals cases h
      all_goals rfl
    | observe =>
      simp only [execute]
      repeat' split
      all_goals refine ⟨rfl, fun _ h => ?_⟩
      all_goals cases h
      all_goals assumption
    | dispose =>
      simp only [execute]
      repeat' split
      all_goals refine ⟨rfl, fun _ h => ?_⟩
      all_goals cases h
      all_goals rfl

variable {worker : NodeWorker σ}

/-- The handshake succeeds when it is made in order, for the right port. -/
theorem run_handshake (manifest : Manifest) (adapter : Adapter σ)
    (hhello : ∀ digest requested, op = .hello digest requested →
      worker.state = .awaitHello ∧ digest = some manifest.interfaceDigest ∧ requested = nodeRuntime)
    (hcreate : op = .create → worker.state = .awaitCreate ∧ adapter.create.isSome = true)
    (hstage : op.seen.stage ≠ none) :
    ∃ result worker', worker.run manifest adapter op = (.ok result, worker') ∧
      worker'.lastId = worker.lastId ∧ Suits manifest op (.ok result) ∧
      AfterRun worker'.state op ∧ ∀ id, fitsFrame (successJson id result) = true := by
  cases op with
  | hello digest requested =>
    obtain ⟨hstate, rfl, rfl⟩ := hhello _ _ rfl
    refine ⟨identityJson manifest.interfaceDigest nodeRuntime,
      { worker with state := .awaitCreate }, ?_, rfl, ⟨_, rfl, rfl⟩, rfl,
      fun id => fitsFrame_identity id manifest (by decide)⟩
    simp [run, execute, hstate]
  | create =>
    obtain ⟨hstate, hmade⟩ := hcreate rfl
    obtain ⟨a, ha⟩ := isSome_iff_exists.mp hmade
    refine ⟨.null, { worker with adapter := some a, state := .needInitializer }, ?_, rfl, rfl,
      trivial, fitsFrame_null⟩
    simp [run, execute, hstate, ha]
  | invoke | observe | dispose | cancel => exact absurd rfl hstage

/-- What the worker answers suits the operation. -/
theorem settle_suits (manifest : Manifest) (adapter : Adapter σ)
    {request : PortRequest} (hserving : worker.terminating = false)
    (hpending : worker.pending = some request)
    (hhello : ∀ digest requested, request.op = .hello digest requested →
      worker.state = .awaitHello ∧ digest = some manifest.interfaceDigest ∧ requested = nodeRuntime)
    (hcreate : request.op = .create → worker.state = .awaitCreate ∧ adapter.create.isSome = true)
    (hcancel : request.op.seen.isCancel = false) :
    ∃ reply worker', worker.settle manifest adapter = (worker', [⟨request.id, reply⟩]) ∧
      Suits manifest request.op reply ∧ worker'.pending = none ∧
      worker'.lastId = worker.lastId ∧ worker'.terminating = request.op.isDispose ∧
      AfterRun worker'.state request.op := by
  unfold settle
  simp only [hserving, hpending, Bool.false_eq_true, if_false]
  by_cases hstage : request.op.seen.stage = none
  · obtain ⟨hlast, hsuits⟩ := run_suits manifest adapter worker hstage hcancel
    -- Outside the handshake a failure suits, and nothing is said of the state.
    have hfailed : ∀ code, Suits manifest request.op (.failed code) := by
      intro code
      cases hop : request.op with
      | hello | create => rw [hop] at hstage; cases hstage
      | cancel => rw [hop] at hcancel; cases hcancel
      | invoke | observe | dispose => trivial
    have hafter : ∀ state, AfterRun state request.op := by
      intro state
      cases hop : request.op with
      | hello => rw [hop] at hstage; cases hstage
      | create | cancel | invoke | observe | dispose => trivial
    rcases hrun : worker.run manifest adapter request.op with ⟨_ | result, worker'⟩
    · rw [hrun] at hlast
      exact ⟨_, _, rfl, hfailed _, rfl, hlast, rfl, hafter _⟩
    · rw [hrun] at hlast hsuits
      dsimp only
      split
      · exact ⟨_, _, rfl, hsuits result rfl, rfl, hlast, rfl, hafter _⟩
      · exact ⟨_, _, rfl, hfailed _, rfl, hlast, rfl, hafter _⟩
  · obtain ⟨result, worker', hrun, hlast, hsuits, hafter, hfits⟩ :=
      run_handshake manifest adapter hhello hcreate hstage
    simp only [hrun, hfits, if_true]
    exact ⟨_, _, rfl, hsuits, rfl, hlast, rfl, hafter⟩

/-! ### Where the open request is -/

/-- What is in flight, with the books of the flow and the pending operation of
    the worker. -/
structure Wire where
  toFlow : List (Option PortRequest) := []
  books : List WorkerRequest := []
  ordinary : Option Nat := none
  cancel : Option Nat := none
  toWorker : List PortRequest := []
  pending : Option PortRequest := none
  fromWorker : List PortResponse := []
  toClient : List PortResponse := []

def Relay.wire (relay : Relay σ) : Wire where
  toFlow := relay.toFlow
  books := relay.flow.requests
  ordinary := relay.flow.ordinaryPending
  cancel := relay.flow.cancelPending
  toWorker := relay.toWorker
  pending := relay.worker.pending
  fromWorker := relay.fromWorker
  toClient := relay.toClient

theorem Relay.fields_of_wire {relay : Relay σ} {wire : Wire} (h : relay.wire = wire) :
    relay.toFlow = wire.toFlow ∧ relay.flow.requests = wire.books ∧
      relay.flow.ordinaryPending = wire.ordinary ∧ relay.flow.cancelPending = wire.cancel ∧
      relay.toWorker = wire.toWorker ∧ relay.worker.pending = wire.pending ∧
      relay.fromWorker = wire.fromWorker ∧ relay.toClient = wire.toClient := by
  subst h
  exact ⟨rfl, rfl, rfl, rfl, rfl, rfl, rfl, rfl⟩

/-- The flow and the worker are ready for the operation. -/
structure Ready (manifest : Manifest) (runtime : String) (flow : WorkerFlow)
    (worker : NodeWorker σ) (op : PortOp) : Prop where
  permits : flow.lifecyclePermits op.seen = .ok ()
  serving : worker.terminating = false
  noCancel : op.seen.isCancel = false
  hello : ∀ digest requested, op = .hello digest requested →
    worker.state = .awaitHello ∧ digest = some manifest.interfaceDigest ∧ requested = runtime
  create : op = .create → worker.state = .awaitCreate

/-- What the client waits for. -/
inductive Waiting where
  | nothing
  | answer (request : PortRequest)
  | both (request : PortRequest) (cancelId : RequestId)
  | cancel (cancelId : RequestId)

def NodeClient.Waits (client : NodeClient) : Waiting → Prop
  | .nothing => client.pending = none ∧ client.cancelPending = none
  | .answer request => client.pending = some { request } ∧ client.cancelPending = none
  | .both request cancelId => ∃ reason,
      client.pending = some { request, stop := some reason } ∧
        client.cancelPending = some (cancelId.val, reason)
  | .cancel cancelId => client.pending = none ∧
      ∃ reason, client.cancelPending = some (cancelId.val, reason)

/-- The identifiers that are waited for were given out. -/
def Waiting.Below (bound : Nat) : Waiting → Prop
  | .nothing => True
  | .answer request => request.id.val < bound
  | .both request cancelId => request.id.val < bound ∧ cancelId.val < bound
  | .cancel cancelId => cancelId.val < bound

/-- The cancellation of a request. -/
def cancelOf (request : PortRequest) (cancelId : RequestId) : PortRequest :=
  ⟨cancelId, .cancel request.id⟩

/-- The places of the open request, from the client to the worker and back, and
    those of a request with its cancellation behind it. -/
inductive Traffic (manifest : Manifest) (runtime : String) (flow : WorkerFlow)
    (worker : NodeWorker σ) : Wire → Waiting → Prop
  | idle (hover : worker.terminating = true → flow.lifecycle.Ended) :
      Traffic manifest runtime flow worker {} .nothing
  | sent (n : PortRequest) (hready : Ready manifest runtime flow worker n.op)
      (hflow : flow.lastId < n.id.val) (hworker : worker.lastId < n.id.val)
      (hdispose : n.op.isDispose = true → flow.cleanupMode = .disposeThenTerminate)
      (hclosing : flow.closing = true → n.op.isDispose = true) :
      Traffic manifest runtime flow worker { toFlow := [some n] } (.answer n)
  | relayed (n : PortRequest) (hready : Ready manifest runtime flow worker n.op)
      (hworker : worker.lastId < n.id.val) :
      Traffic manifest runtime flow worker
        { books := [n.seen], ordinary := some n.id.val, toWorker := [n] } (.answer n)
  | running (n : PortRequest) (hready : Ready manifest runtime flow worker n.op) :
      Traffic manifest runtime flow worker
        { books := [n.seen], ordinary := some n.id.val, pending := some n } (.answer n)
  | answered (n : PortRequest) (reply : PortReply) (hsuits : Suits manifest n.op reply)
      (hhello : ∀ digest requested, n.op = .hello digest requested →
        digest = some manifest.interfaceDigest ∧ requested = runtime)
      (hafter : AfterRun worker.state n.op)
      (hover : worker.terminating = true → n.op.isDispose = true) :
      Traffic manifest runtime flow worker
        { books := [n.seen], ordinary := some n.id.val, fromWorker := [⟨n.id, reply⟩] } (.answer n)
  | returned (n : PortRequest) (reply : PortReply) (hsuits : Suits manifest n.op reply)
      (hhello : ∀ digest requested, n.op = .hello digest requested →
        digest = some manifest.interfaceDigest ∧ requested = runtime)
      (hagree : ∀ result, reply = .ok result →
        Agree flow.lifecycle worker.state (NodeClient.nextState n.op))
      (hover : worker.terminating = true → flow.lifecycle.Ended) :
      Traffic manifest runtime flow worker { toClient := [⟨n.id, reply⟩] } (.answer n)
  | bothSent (n : PortRequest) (m : RequestId) (hready : Ready manifest runtime flow worker n.op)
      (hop : n.op.isCancellable = true) (hlt : n.id.val < m.val)
      (hflow : flow.lastId < n.id.val) (hworker : worker.lastId < n.id.val)
      (hclosing : flow.closing = false) :
      Traffic manifest runtime flow worker { toFlow := [some n, some (cancelOf n m)] } (.both n m)
  | cancelBehind (n : PortRequest) (m : RequestId) (hserving : worker.terminating = false)
      (hop : n.op.isCancellable = true) (hlt : n.id.val < m.val)
      (hflow : flow.lastId < m.val) (hworker : worker.lastId < n.id.val) :
      Traffic manifest runtime flow worker
        { toFlow := [some (cancelOf n m)], books := [n.seen], ordinary := some n.id.val,
          toWorker := [n] } (.both n m)
  | cancelSent (n : PortRequest) (m : RequestId) (hserving : worker.terminating = false)
      (hop : n.op.isCancellable = true) (hlt : n.id.val < m.val)
      (hflow : flow.lastId < m.val) (hworker : worker.lastId < m.val) :
      Traffic manifest runtime flow worker
        { toFlow := [some (cancelOf n m)], books := [n.seen], ordinary := some n.id.val,
          pending := some n } (.both n m)
  | bothRelayed (n : PortRequest) (m : RequestId) (hserving : worker.terminating = false)
      (hop : n.op.isCancellable = true) (hlt : n.id.val < m.val)
      (hworker : worker.lastId < n.id.val) :
      Traffic manifest runtime flow worker
        { books := [n.seen, (cancelOf n m).seen], ordinary := some n.id.val,
          cancel := some m.val, toWorker := [n, cancelOf n m] } (.both n m)
  | cancelRelayed (n : PortRequest) (m : RequestId) (hserving : worker.terminating = false)
      (hop : n.op.isCancellable = true) (hlt : n.id.val < m.val)
      (hworker : worker.lastId < m.val) :
      Traffic manifest runtime flow worker
        { books := [n.seen, (cancelOf n m).seen], ordinary := some n.id.val,
          cancel := some m.val, toWorker := [cancelOf n m], pending := some n } (.both n m)
  | bothAnswered (n : PortRequest) (m : RequestId) (hserving : worker.terminating = false)
      (hop : n.op.isCancellable = true) (hlt : n.id.val < m.val) :
      Traffic manifest runtime flow worker
        { books := [n.seen, (cancelOf n m).seen], ordinary := some n.id.val,
          cancel := some m.val,
          fromWorker := [⟨n.id, .failed .cancelled⟩, ⟨m, .ok .null⟩] } (.both n m)
  | cancelLeft (n : PortRequest) (m : RequestId) (hserving : worker.terminating = false)
      (hlt : n.id.val < m.val) :
      Traffic manifest runtime flow worker
        { books := [(cancelOf n m).seen], cancel := some m.val, fromWorker := [⟨m, .ok .null⟩],
          toClient := [⟨n.id, .failed .cancelled⟩] } (.both n m)
  | bothReturned (n : PortRequest) (m : RequestId) (hserving : worker.terminating = false)
      (hlt : n.id.val < m.val) :
      Traffic manifest runtime flow worker
        { toClient := [⟨n.id, .failed .cancelled⟩, ⟨m, .ok .null⟩] } (.both n m)
  | cancelAnswered (n : PortRequest) (m : RequestId) (hserving : worker.terminating = false) :
      Traffic manifest runtime flow worker
        { books := [(cancelOf n m).seen], cancel := some m.val, fromWorker := [⟨m, .ok .null⟩] }
        (.cancel m)
  | cancelReturned (m : RequestId) (hserving : worker.terminating = false) :
      Traffic manifest runtime flow worker { toClient := [⟨m, .ok .null⟩] } (.cancel m)

/-- A call that was stopped is rejected with the reason it was stopped for. -/
def Settled.Reasoned (call : Settled) : Prop :=
  ∀ reason, call.stop = some reason → call.outcome = .error (.stopped reason)

/-- The client knows where it is. A client that has come to its end waits for
    nothing, whatever is still in flight. -/
structure ClientView (client : NodeClient) (flow : WorkerFlow) (worker : NodeWorker σ)
    (waiting : Waiting) : Prop where
  waits : client.terminalError = none → client.Waits waiting
  ended : client.terminalError ≠ none → client.Waits .nothing
  settled : ∀ call ∈ client.settled, call.Reasoned
  ids : waiting.Below client.nextId
  flowId : flow.lastId < client.nextId
  workerId : worker.lastId < client.nextId
  closing : flow.closing = true → client.terminalError = none →
    client.closing = true ∨ client.state = .poisoned
  stopped : client.terminalError = none →
    client.cancellationRequested = true ∨ client.cancelPending ≠ none →
    client.state = .poisoned ∧ client.skipDispose = true
  steady : client.terminalError = none → client.pending ≠ none → client.cancelPending = none →
    client.cancellationRequested = false ∧ (flow.closing = true → client.closing = true)
  agree : client.terminalError = none → client.Waits .nothing →
    Agree flow.lifecycle worker.state client.state

/-- The invariant of the line. -/
structure Sound (manifest : Manifest) (runtime : String) (relay : Relay σ) : Prop where
  faults : relay.faults = []
  tracked : ∃ wire waiting, relay.wire = wire ∧
    Traffic manifest runtime relay.flow relay.worker wire waiting ∧
    ClientView relay.client relay.flow relay.worker waiting

theorem sound_start (manifest : Manifest) (runtime : String) :
    Sound manifest runtime ({} : Relay σ) := by
  refine ⟨rfl, {}, .nothing, rfl, .idle nofun, fun _ => ⟨rfl, rfl⟩, fun _ => ⟨rfl, rfl⟩, nofun,
    trivial, Nat.one_pos, Nat.one_pos, nofun, ?_, fun _ h => absurd rfl h, fun _ _ => ⟨rfl, rfl⟩⟩
  rintro - (h | h)
  · cases h
  · exact absurd rfl h

/-! ### The client moves -/

namespace NodeClient

variable {client : NodeClient}

theorem fatal_of_ended {error : ClientError}
    (h : client.terminalError ≠ none) : client.fatal error = client :=
  if_pos (isSome_iff_ne_none.mpr h)

theorem fatal_of_live {error : ClientError}
    (h : client.terminalError = none) :
    client.fatal error = { client.settle (.error (client.rejection error)) with
      terminalError := some error
      state := .poisoned
      skipDispose := true
      cancelPending := none } := by
  rw [fatal, h]
  exact if_neg nofun

/-- The open call is settled. -/
theorem settle_open {entry : Entry} (h : client.pending = some entry)
    (state : NodeState) (outcome : Except ClientError Json) :
    { client with state := state }.settle outcome = { client with
      state := state
      pending := none
      settled := client.settled ++ [⟨entry.request.id, entry.stop, outcome⟩] } := by
  rw [settle]
  simp only [h]

theorem reasoned_concat {settled : List Settled} {last : Settled}
    (h : ∀ call ∈ settled, call.Reasoned) (hlast : last.Reasoned) :
    ∀ call ∈ settled ++ [last], call.Reasoned := by
  intro call hcall
  rcases List.mem_append.mp hcall with hcall | hcall
  · exact h call hcall
  · exact List.mem_singleton.mp hcall ▸ hlast

theorem settle_pending (client : NodeClient) (outcome : Except ClientError Json) :
    (client.settle outcome).pending = none := by
  unfold settle
  split
  · assumption
  · rfl

theorem settle_nextId (client : NodeClient) (outcome : Except ClientError Json) :
    (client.settle outcome).nextId = client.nextId := by
  unfold settle
  split <;> rfl

theorem settle_settled {outcome : Except ClientError Json}
    (hsettled : ∀ call ∈ client.settled, call.Reasoned)
    (hreason : ∀ entry reason, client.pending = some entry → entry.stop = some reason →
      outcome = .error (.stopped reason)) :
    ∀ call ∈ (client.settle outcome).settled, call.Reasoned := by
  unfold settle
  split
  · exact hsettled
  · next entry hentry =>
    exact reasoned_concat hsettled fun reason hstop => hreason entry reason hentry hstop

end NodeClient

namespace NodeClient

theorem rejection_stopped (client : NodeClient) (reason : Stop) :
    client.rejection (.stopped reason) = .stopped reason := by
  unfold rejection
  split
  · exact if_neg nofun
  · rfl

/-- A disposal that is stopped is given up. -/
theorem stop_dispose {client : NodeClient} {request : PortRequest} (reason : Stop)
    (hpending : client.pending = some { request }) (hlive : client.terminalError = none)
    (hop : request.op.isDispose = true) :
    client.stop reason = ({ client with
      pending := some { request, stop := some reason }
      state := .poisoned
      skipDispose := true
      cancellationRequested := true }.fatal (.stopped reason), []) := by
  simp [stop, hpending, hlive, hop]

/-- Another call that is stopped is cancelled. -/
theorem stop_cancels {client : NodeClient} {request : PortRequest} {id : RequestId} (reason : Stop)
    (hpending : client.pending = some { request }) (hlive : client.terminalError = none)
    (hop : request.op.isDispose = false) (hid : client.freshId = some id) :
    client.stop reason = ({ client with
      pending := some { request, stop := some reason }
      state := .poisoned
      skipDispose := true
      cancellationRequested := true
      cancelPending := some (client.nextId, reason)
      nextId := client.nextId + 1 }, [some (cancelOf request id)]) := by
  simp [stop, hpending, hlive, hop, hid, cancelOf]

end NodeClient

variable {client : NodeClient}

/-- The client comes to its end. A stopped call is rejected with its reason. -/
theorem clientView_of_fatal
    {waiting : Waiting} {error : ClientError} (hlive : client.terminalError = none)
    (hsettled : ∀ call ∈ client.settled, call.Reasoned)
    (hids : waiting.Below client.nextId) (hflow : flow.lastId < client.nextId)
    (hworker : worker.lastId < client.nextId)
    (hreason : ∀ entry reason, client.pending = some entry → entry.stop = some reason →
      client.rejection error = .stopped reason) :
    ClientView (client.fatal error) flow worker waiting := by
  rw [NodeClient.fatal_of_live hlive]
  have hnone := client.settle_pending (.error (client.rejection error))
  have hnext := client.settle_nextId (.error (client.rejection error))
  refine ⟨nofun, fun _ => ⟨hnone, rfl⟩, ?_, hnext.symm ▸ hids, hnext.symm ▸ hflow,
    hnext.symm ▸ hworker, nofun, nofun, nofun, nofun⟩
  exact NodeClient.settle_settled hsettled fun entry reason hentry hstop =>
    congrArg Except.error (hreason entry reason hentry hstop)

namespace ClientView

variable {client : NodeClient} {flow : WorkerFlow} {worker : NodeWorker σ} {waiting : Waiting}

theorem fatal {error : ClientError} (h : ClientView client flow worker waiting)
    (hreason : ∀ entry reason, client.pending = some entry → entry.stop = some reason →
      client.rejection error = .stopped reason) :
    ClientView (client.fatal error) flow worker waiting := by
  by_cases hlive : client.terminalError = none
  · exact clientView_of_fatal hlive h.settled h.ids h.flowId h.workerId hreason
  · rw [NodeClient.fatal_of_ended hlive]
    exact h

/-- A call that was stopped keeps its reason when the transport closes. -/
theorem hangUp (h : ClientView client flow worker waiting) :
    ClientView (client.fatal .closed) flow worker waiting := by
  refine h.fatal fun entry reason hentry hstop => ?_
  rw [NodeClient.rejection, hentry, bind_some, hstop]
  exact if_pos rfl

/-- A stopped call is rejected with its reason when the grace period is over:
    the cancellation was sent for the same reason. -/
theorem graceExpires (h : ClientView client flow worker waiting) :
    ClientView client.graceExpires flow worker waiting := by
  unfold NodeClient.graceExpires
  split
  · exact h
  · next id reason hcancel =>
    refine h.fatal fun entry reason' hentry hstop => ?_
    have hsame : reason = reason' := by
      by_cases hlive : client.terminalError = none
      · cases waiting with
        | nothing => cases (h.waits hlive).2.symm.trans hcancel
        | answer n => cases (h.waits hlive).2.symm.trans hcancel
        | both n m =>
          obtain ⟨r, hpending, hr⟩ := h.waits hlive
          cases hr.symm.trans hcancel
          cases hpending.symm.trans hentry
          exact some.inj hstop
        | cancel m => cases (h.waits hlive).1.symm.trans hentry
      · cases (h.ended hlive).1.symm.trans hentry
    rw [NodeClient.rejection_stopped, hsame]

theorem close (h : ClientView client flow worker waiting) :
    ClientView { client with closing := true } flow worker waiting :=
  ⟨h.waits, h.ended, h.settled, h.ids, h.flowId, h.workerId, fun _ _ => .inl rfl, h.stopped,
    fun hlive hpending hcancel => ⟨(h.steady hlive hpending hcancel).1, fun _ => rfl⟩, h.agree⟩

theorem beginClosing (h : ClientView client flow worker waiting)
    (hmay : client.terminalError = none →
      client.closing = true ∨ client.cancellationRequested = true) :
    ClientView client flow.beginClosing worker waiting := by
  refine ⟨h.waits, h.ended, h.settled, h.ids, h.flowId, h.workerId, fun _ hlive => ?_, h.stopped,
    fun hlive hpending hcancel => ?_, h.agree⟩
  · exact (hmay hlive).imp_right fun hasked => (h.stopped hlive (.inl hasked)).1
  · obtain ⟨hasked, -⟩ := h.steady hlive hpending hcancel
    refine ⟨hasked, fun _ => (hmay hlive).resolve_right fun hbad => ?_⟩
    cases hasked.symm.trans hbad

/-- A client at its end takes no notice of a response. -/
theorem receive_ended (h : ClientView client flow worker waiting) (manifest : Manifest)
    (runtime : String) (response : PortResponse) (hended : client.terminalError ≠ none)
    {waiting' : Waiting} (hids : waiting'.Below client.nextId) :
    client.receive manifest runtime response = .ok client ∧
      ClientView client flow worker waiting' :=
  ⟨if_pos (isSome_iff_ne_none.mpr hended), fun hlive => absurd hlive hended, h.ended,
    h.settled, hids, h.flowId, h.workerId, h.closing, h.stopped, h.steady, h.agree⟩

/-- The answer to a call that was not stopped. -/
theorem receive_answer {n : PortRequest}
    {reply : PortReply} (h : ClientView client flow worker (.answer n))
    (hsuits : Suits manifest n.op reply)
    (hhello : ∀ digest requested, n.op = .hello digest requested →
      digest = some manifest.interfaceDigest ∧ requested = runtime)
    (hagree : ∀ result, reply = .ok result →
      Agree flow.lifecycle worker.state (NodeClient.nextState n.op)) :
    ∃ client', client.receive manifest runtime ⟨n.id, reply⟩ = .ok client' ∧
      ClientView client' flow worker .nothing := by
  by_cases hlive : client.terminalError = none
  · obtain ⟨hpending, hcancel⟩ := h.waits hlive
    obtain ⟨hfresh, hclosing⟩ := h.steady hlive (by rw [hpending]; nofun) hcancel
    have hsettled (state : NodeState) (outcome : Except ClientError Json)
        (hstate : Agree flow.lifecycle worker.state state) :
        ClientView ({ client with state := state }.settle outcome) flow worker .nothing := by
      rw [NodeClient.settle_open hpending]
      refine ⟨fun _ => ⟨rfl, hcancel⟩, fun hended => absurd hlive hended,
        NodeClient.reasoned_concat h.settled nofun, trivial, h.flowId, h.workerId,
        fun hflag _ => .inl (hclosing hflag), ?_, fun _ hbad => absurd rfl hbad, fun _ _ => hstate⟩
      rintro - (hbad | hbad)
      · cases hfresh.symm.trans hbad
      · exact absurd hcancel hbad
    cases reply with
    | failed code =>
      refine ⟨_, ?_, hsettled .poisoned (.error (.remote code)) trivial⟩
      simp [NodeClient.receive, hlive, hcancel, hpending]
    | ok result =>
      refine ⟨_, ?_, hsettled (NodeClient.nextState n.op) (.ok result) (hagree result rfl)⟩
      simp [NodeClient.receive, hlive, hcancel, hpending, checkResult_of_suits hsuits hhello]
  · exact ⟨client, h.receive_ended manifest runtime _ hlive trivial⟩

/-- A call that was stopped is answered as cancelled. -/
theorem receive_cancelled {n : PortRequest} {m : RequestId}
    (h : ClientView client flow worker (.both n m)) (manifest : Manifest) (runtime : String)
    (hlt : n.id.val < m.val) :
    ∃ client', client.receive manifest runtime ⟨n.id, .failed .cancelled⟩ = .ok client' ∧
      ClientView client' flow worker (.cancel m) := by
  by_cases hlive : client.terminalError = none
  · obtain ⟨reason, hpending, hcancel⟩ := h.waits hlive
    have hne : m.val ≠ n.id.val := (Nat.ne_of_lt hlt).symm
    obtain ⟨-, hskip⟩ := h.stopped hlive (.inr (by rw [hcancel]; nofun))
    refine ⟨{ client with state := .poisoned }.settle (.error (.stopped reason)), ?_, ?_⟩
    · simp [NodeClient.receive, hlive, hcancel, hpending, hne]
    · rw [NodeClient.settle_open hpending]
      refine ⟨fun _ => ⟨rfl, reason, hcancel⟩, fun hended => absurd hlive hended,
        NodeClient.reasoned_concat h.settled ?_, h.ids.2, h.flowId, h.workerId,
        fun _ _ => .inr rfl, fun _ _ => ⟨rfl, hskip⟩, fun _ hbad => absurd rfl hbad,
        fun _ _ => trivial⟩
      intro reason' hstop
      cases hstop
      rfl
  · exact ⟨client, h.receive_ended manifest runtime _ hlive h.ids.2⟩

/-- The cancellation is answered. -/
theorem receive_acknowledged {m : RequestId} (h : ClientView client flow worker (.cancel m))
    (manifest : Manifest) (runtime : String) :
    ∃ client', client.receive manifest runtime ⟨m, .ok .null⟩ = .ok client' ∧
      ClientView client' flow worker .nothing := by
  by_cases hlive : client.terminalError = none
  · obtain ⟨hpending, reason, hcancel⟩ := h.waits hlive
    obtain ⟨hstate, hskip⟩ := h.stopped hlive (.inr (by rw [hcancel]; nofun))
    refine ⟨{ client with cancelPending := none }, ?_, fun _ => ⟨hpending, rfl⟩,
      fun hended => absurd hlive hended, h.settled, trivial, h.flowId, h.workerId, h.closing,
      fun _ _ => ⟨hstate, hskip⟩, fun _ hbad => absurd hpending hbad, fun _ _ => ?_⟩
    · simp [NodeClient.receive, hlive, hcancel, hpending, NodeClient.isNullSuccess]
    · exact hstate.symm ▸ trivial
  · exact ⟨client, h.receive_ended manifest runtime _ hlive trivial⟩

/-- The frames move the flow and the worker while the client waits. -/
theorem elsewhere (h : ClientView client flow worker waiting) {flow' : WorkerFlow}
    {worker' : NodeWorker σ} (hwaiting : waiting ≠ .nothing)
    (hflow : flow'.lastId < client.nextId) (hworker : worker'.lastId < client.nextId)
    (hclosing : flow'.closing = flow.closing) : ClientView client flow' worker' waiting := by
  refine ⟨h.waits, h.ended, h.settled, h.ids, hflow, hworker, hclosing ▸ h.closing, h.stopped,
    hclosing ▸ h.steady, fun hlive hnothing => ?_⟩
  cases waiting with
  | nothing => exact absurd rfl hwaiting
  | answer n => cases (h.waits hlive).1.symm.trans hnothing.1
  | both n m =>
    obtain ⟨_, hpending, _⟩ := h.waits hlive
    cases hpending.symm.trans hnothing.1
  | cancel m =>
    obtain ⟨_, _, hcancel⟩ := h.waits hlive
    cases hcancel.symm.trans hnothing.2

end ClientView

/-- Nothing of the traffic depends on the reservation closing, unless a call is
    on its way to the flow. -/
theorem Traffic.beginClosing {wire : Wire} {waiting : Waiting}
    (h : Traffic manifest runtime flow worker wire waiting)
    (hnone : ∀ request, some request ∈ wire.toFlow → request.op.seen.isCancel = true) :
    Traffic manifest runtime flow.beginClosing worker wire waiting := by
  cases h with
  | sent n hready =>
    cases hready.noCancel.symm.trans (hnone n (.head _))
  | bothSent n m hready =>
    cases hready.noCancel.symm.trans (hnone n (.head _))
  | relayed n hready hworker =>
    exact .relayed n ⟨hready.permits, hready.serving, hready.noCancel, hready.hello,
      hready.create⟩ hworker
  | running n hready =>
    exact .running n ⟨hready.permits, hready.serving, hready.noCancel, hready.hello,
      hready.create⟩
  | _ => constructor <;> assumption

/-- The worker of a lifecycle that is not over is serving. -/
theorem serving_of_not_ended
    (hover : worker.terminating = true → flow.lifecycle.Ended) (h : ¬ flow.lifecycle.Ended) :
    worker.terminating = false :=
  Bool.eq_false_iff.mpr fun hterminating => h (hover hterminating)

/-- An operation outside the handshake is permitted while the worker is open
    for calls. -/
theorem ready_of_live (hlive : flow.lifecycle.Live)
    (hover : worker.terminating = true → flow.lifecycle.Ended) (hstage : op.seen.stage = none)
    (hcancel : op.seen.isCancel = false) : Ready manifest runtime flow worker op := by
  have hserving := serving_of_not_ended hover fun hended =>
    Lifecycle.not_live_of_ended hended hlive
  have hpermitted : ¬ (flow.lifecycle ≠ .created ∧ flow.lifecycle ≠ .ready) := by
    rcases hlive with hlive | hlive <;> simp [hlive]
  cases op with
  | hello | create => cases hstage
  | cancel => cases hcancel
  | invoke | observe | dispose => exact ⟨if_neg hpermitted, hserving, rfl, nofun, nofun⟩

/-- The flow and the worker are ready for what the client makes a call of. -/
theorem ready_of_permits
    (hpermits : client.permits manifest runtime op)
    (hagree : Agree flow.lifecycle worker.state client.state)
    (hover : worker.terminating = true → flow.lifecycle.Ended) :
    Ready manifest runtime flow worker op := by
  cases op with
  | hello digest requested =>
    obtain ⟨hstate, hdigest, hruntime⟩ := hpermits
    rw [hstate] at hagree
    obtain ⟨hflow, hworker⟩ := hagree
    refine ⟨if_neg (not_not.mpr hflow), serving_of_not_ended hover ?_, rfl, ?_, nofun⟩
    · rw [hflow]
      decide
    · intro digest' requested' heq
      cases heq
      exact ⟨hworker, hdigest, hruntime⟩
  | create =>
    rw [show client.state = .awaitCreate from hpermits] at hagree
    obtain ⟨hflow, hworker⟩ := hagree
    refine ⟨if_neg (not_not.mpr hflow), serving_of_not_ended hover ?_, rfl, nofun,
      fun _ => hworker⟩
    rw [hflow]
    decide
  | invoke action inputs =>
    have hlive : flow.lifecycle.Live := by
      rcases hpermits.1 with hstate | hstate <;> rw [hstate] at hagree <;> exact hagree
    exact ready_of_live hlive hover rfl rfl
  | observe =>
    rw [show client.state = .needObserve from hpermits] at hagree
    exact ready_of_live hagree hover rfl rfl
  | dispose | cancel => cases hpermits

/-! ### The flow and the worker take what is in flight -/

theorem isDispose_of_isCancellable (h : op.isCancellable = true) :
    op.isDispose = false := by
  cases op <;> first | rfl | cases h

/-- What the flow puts on its books does not make it less ready. -/
theorem Ready.onBooks (h : Ready manifest runtime flow worker op)
    {lastId : Nat} {sent : Bool} {ordinary : Option Nat} {books : List WorkerRequest} :
    Ready manifest runtime { flow with
      lastId := lastId
      disposeSent := sent
      ordinaryPending := ordinary
      requests := books } worker op :=
  ⟨h.permits, h.serving, h.noCancel, h.hello, h.create⟩

/-- The flow takes a call that it is ready for. -/
theorem clientFrame_of_ready {n : PortRequest} (hbooks : flow.requests = [])
    (hopen : flow.ordinaryPending = none) (hready : Ready manifest runtime flow worker n.op)
    (hflow : flow.lastId < n.id.val)
    (hdispose : n.op.isDispose = true → flow.cleanupMode = .disposeThenTerminate)
    (hclosing : flow.closing = true → n.op.isDispose = true) :
    flow.clientFrame n.seen = (.ok (), { flow with
      lastId := n.seen.id
      disposeSent := flow.disposeSent || n.seen.op = .dispose
      ordinaryPending := some n.seen.id
      requests := [n.seen] }) := by
  have hseen : n.op.isDispose = true ↔ n.seen.op = .dispose := by
    rw [PortRequest.seen]
    cases n.op <;> simp [PortOp.isDispose, PortOp.seen]
  refine WorkerFlow.clientFrame_ordinary hflow hready.noCancel hbooks hopen hready.permits
    (fun hop => ?_) fun hflag => ⟨hseen.mp (hclosing hflag), hdispose (hclosing hflag)⟩
  have hmode := hdispose (hseen.mpr hop)
  unfold WorkerFlow.cleanupMode at hmode
  split at hmode
  · next hquiet => exact hquiet.2.2.2.1
  · cases hmode

namespace NodeWorker

/-- A worker with nothing pending takes a request. -/
theorem receive_free {request : PortRequest}
    (hserving : worker.terminating = false) (hid : worker.lastId < request.id.val)
    (hfree : worker.pending = none) :
    worker.receive (some request) =
      ({ worker with lastId := request.id.val, pending := some request }, []) := by
  simp [receive, hserving, Nat.not_le.mpr hid, hfree]

/-- A cancellation answers the pending request and itself. -/
theorem receive_cancel {request : PortRequest} {id : RequestId}
    (hserving : worker.terminating = false) (hid : worker.lastId < id.val)
    (hpending : worker.pending = some request) (hop : request.op.isCancellable = true) :
    worker.receive (some (cancelOf request id)) =
      ({ worker with lastId := id.val, pending := none, abandoned := true, state := .poisoned },
        [⟨request.id, .failed .cancelled⟩, ⟨id, .ok .null⟩]) := by
  simp [receive, hserving, cancelOf, Nat.not_le.mpr hid, hpending, PortOp.cancels,
    isDispose_of_isCancellable hop]

end NodeWorker

namespace Sound

variable {manifest : Manifest} {runtime : String} {relay : Relay σ}

/-- A client that is not at its end and waits for nothing has no traffic. -/
theorem idle_of_free (h : Sound manifest runtime relay)
    (hlive : relay.client.terminalError = none) (hpending : relay.client.pending = none)
    (hcancel : relay.client.cancelPending = none) :
    relay.wire = {} ∧ (relay.worker.terminating = true → relay.flow.lifecycle.Ended) ∧
      ClientView relay.client relay.flow relay.worker .nothing := by
  obtain ⟨wire, waiting, hwire, htraffic, hview⟩ := h.tracked
  have hwaits := hview.waits hlive
  cases waiting with
  | nothing =>
    cases htraffic with
    | idle hover => exact ⟨hwire, hover, hview⟩
  | answer n => cases hwaits.1.symm.trans hpending
  | both n m =>
    obtain ⟨_, hsome, _⟩ := hwaits
    cases hsome.symm.trans hpending
  | cancel m =>
    obtain ⟨_, _, hsome⟩ := hwaits
    cases hsome.symm.trans hcancel

/-- A call is sent when the flow and the worker are ready for it. -/
theorem sendCall (h : Sound manifest runtime relay)
    (hready : relay.client.terminalError = none → relay.client.Waits .nothing →
      (relay.worker.terminating = true → relay.flow.lifecycle.Ended) →
      Ready manifest runtime relay.flow relay.worker op)
    (hdispose : op.isDispose = true → relay.flow.cleanupMode = .disposeThenTerminate)
    (hclosing : relay.client.terminalError = none → relay.flow.closing = true →
      op.isDispose = true ∧ relay.client.closing = true)
    (hfresh : relay.client.terminalError = none →
      relay.client.cancellationRequested = false) :
    Sound manifest runtime (relay.sendCall op) := by
  unfold Relay.sendCall NodeClient.send
  by_cases hbusy : relay.client.terminalError.isSome ∨ relay.client.pending.isSome ∨
      relay.client.cancelPending.isSome
  · rw [if_pos hbusy]
    exact h
  · rw [if_neg hbusy]
    simp only [not_or, not_isSome_iff_eq_none] at hbusy
    obtain ⟨hlive, hpending, hcancel⟩ := hbusy
    obtain ⟨hwire, hover, hview⟩ := h.idle_of_free hlive hpending hcancel
    obtain ⟨h1, h2, h3, h4, h5, h6, h7, h8⟩ := Relay.fields_of_wire hwire
    unfold NodeClient.freshId
    split
    · exact h
    · next client request heq =>
      split at heq
      · cases heq
      · next id hid =>
        split at hid
        · next hrange =>
          cases hid
          cases heq
          refine ⟨h.faults, { toFlow := [some ⟨⟨relay.client.nextId, hrange⟩, op⟩] }, .answer _,
            ?_, .sent _ (hready hlive ⟨hpending, hcancel⟩ hover) hview.flowId
              hview.workerId hdispose (fun hflag => (hclosing hlive hflag).1), ?_⟩
          · simp [Relay.wire, h1, h2, h3, h4, h5, h6, h7, h8]
          · refine ⟨fun _ => ⟨rfl, hcancel⟩, fun hended => absurd hlive hended, hview.settled,
              Nat.lt_succ_self _, Nat.lt_succ_of_lt hview.flowId,
              Nat.lt_succ_of_lt hview.workerId, hview.closing, hview.stopped,
              fun _ _ _ => ⟨hfresh hlive, fun hflag => (hclosing hlive hflag).2⟩,
              fun _ hnothing => ?_⟩
            cases hnothing.1
        · cases hid

/-- The application makes a call. -/
theorem call (h : Sound manifest runtime relay)
    (hopen : relay.client.closing = false) (hpermits : relay.client.permits manifest runtime op) :
    Sound manifest runtime (relay.sendCall op) := by
  have hstate : relay.client.state ≠ .poisoned ∧ op.isDispose = false := by
    cases op with
    | hello | create | observe | invoke =>
      simp only [NodeClient.permits] at hpermits
      refine ⟨fun hbad => ?_, rfl⟩
      simp [hbad] at hpermits
    | dispose | cancel => cases hpermits
  obtain ⟨_, _, _, _, hview⟩ := h.tracked
  refine h.sendCall (fun hlive hfree hover => ?_) (fun hdispose => ?_)
    (fun hlive hclosing => ?_) fun hlive => Bool.eq_false_iff.mpr fun hasked => ?_
  · exact ready_of_permits hpermits (hview.agree hlive hfree) hover
  · cases hstate.2.symm.trans hdispose
  · rcases hview.closing hclosing hlive with hbad | hbad
    · cases hopen.symm.trans hbad
    · exact absurd hbad hstate.1
  · exact hstate.1 (hview.stopped hlive (.inl hasked)).1

/-- The open call is stopped where it may be. -/
theorem stopCall (h : Sound manifest runtime relay) (hmay : relay.MayStop) (reason : Stop) :
    Sound manifest runtime (relay.stopCall reason) := by
  obtain ⟨wire, waiting, hwire, htraffic, hview⟩ := h.tracked
  obtain ⟨h1, h2, h3, h4, h5, h6, h7, h8⟩ := Relay.fields_of_wire hwire
  -- Nothing happens unless a call is open that was not stopped before.
  have hsame (heq : relay.client.stop reason = (relay.client, [])) :
      Sound manifest runtime (relay.stopCall reason) := by
    simpa only [Relay.stopCall, heq, List.append_nil] using h
  rcases hpending : relay.client.pending with _ | entry
  · exact hsame (by rw [NodeClient.stop, hpending])
  by_cases hover : entry.stop.isSome ∨ relay.client.terminalError.isSome
  · exact hsame (by rw [NodeClient.stop, hpending]; exact if_pos hover)
  simp only [not_or, not_isSome_iff_eq_none] at hover
  obtain ⟨hfirst, hlive⟩ := hover
  have hwaits := hview.waits hlive
  cases waiting with
  | nothing => cases hwaits.1.symm.trans hpending
  | cancel m => cases hwaits.1.symm.trans hpending
  | both n m =>
    obtain ⟨_, hsome, _⟩ := hwaits
    cases hsome.symm.trans hpending
    cases hfirst
  | answer n =>
    cases hwaits.1.symm.trans hpending
    rcases hmay _ hpending hfirst with hop | ⟨hop, hleft, hnone⟩
    · have hstop := NodeClient.stop_dispose reason hpending hlive hop
      rw [Relay.stopCall, hstop, List.append_nil]
      refine ⟨h.faults, wire, _, hwire, htraffic,
        clientView_of_fatal hlive hview.settled hview.ids hview.flowId hview.workerId ?_⟩
      intro entry reason' hentry hreason
      cases hentry
      cases hreason
      exact NodeClient.rejection_stopped _ _
    · have hrange : 1 ≤ relay.client.nextId ∧ relay.client.nextId ≤ 9007199254740991 :=
        ⟨Nat.succ_le_of_lt (Nat.zero_lt_of_lt hview.flowId), hleft⟩
      have hplain := isDispose_of_isCancellable hop
      have hstop := NodeClient.stop_cancels reason hpending hlive hplain (dif_pos hrange)
      have hlt : n.id.val < relay.client.nextId := hview.ids
      have hcancels : ClientView (relay.client.stop reason).1 relay.flow relay.worker
          (.both n ⟨relay.client.nextId, hrange⟩) := by
        rw [hstop]
        refine ⟨fun _ => ⟨reason, rfl, rfl⟩, fun hended => absurd hlive hended, hview.settled,
          ⟨Nat.lt_succ_of_lt hlt, Nat.lt_succ_self _⟩, Nat.lt_succ_of_lt hview.flowId,
          Nat.lt_succ_of_lt hview.workerId, fun _ _ => .inr rfl, fun _ _ => ⟨rfl, rfl⟩,
          fun _ _ => nofun, fun _ hnothing => ?_⟩
        cases hnothing.1
      rw [Relay.stopCall, congrArg Prod.snd hstop]
      cases htraffic with
      | sent _ hready hflow hworker hdispose hclosing =>
        refine ⟨h.faults, _, _, ?_, .bothSent n _ hready hop hlt hflow hworker ?_, hcancels⟩
        · simp [Relay.wire, h1, h2, h3, h4, h5, h6, h7, h8]
        · exact Bool.eq_false_iff.mpr fun hbad => by
            cases hplain.symm.trans (hclosing hbad)
      | relayed _ hready hworker =>
        refine ⟨h.faults, _, _, ?_, .cancelBehind n _ hready.serving hop hlt hview.flowId
          hworker, hcancels⟩
        simp [Relay.wire, h1, h2, h3, h4, h5, h6, h7, h8]
      | running _ hready =>
        refine ⟨h.faults, _, _, ?_, .cancelSent n _ hready.serving hop hlt hview.flowId
          hview.workerId, hcancels⟩
        simp [Relay.wire, h1, h2, h3, h4, h5, h6, h7, h8]
      | answered _ reply =>
        rw [h7, h8] at hnone
        exact absurd rfl (hnone _ (.head _))
      | returned _ reply =>
        rw [h7, h8] at hnone
        exact absurd rfl (hnone _ (.head _))

/-- The reservation begins to close. -/
theorem beginClosing (h : Sound manifest runtime relay)
    (hnone : ∀ request, some request ∈ relay.toFlow → request.op.seen.isCancel = true)
    (hmay : relay.client.terminalError = none →
      relay.client.closing = true ∨ relay.client.cancellationRequested = true) :
    Sound manifest runtime { relay with flow := relay.flow.beginClosing } := by
  obtain ⟨wire, waiting, hwire, htraffic, hview⟩ := h.tracked
  refine ⟨h.faults, wire, waiting, hwire, htraffic.beginClosing ?_, hview.beginClosing hmay⟩
  rw [← hwire]
  exact hnone

theorem armClosing (h : Sound manifest runtime relay)
    (hnone : ∀ request, some request ∈ relay.toFlow → request.op.seen.isCancel = true)
    (hasked : relay.client.cancellationRequested = true) :
    Sound manifest runtime { relay with flow := relay.flow.beginClosing } :=
  h.beginClosing hnone fun _ => .inr hasked

/-- The worker is released, and disposed of if it is quiescent. -/
theorem release (h : Sound manifest runtime relay)
    (hnone : ∀ request, some request ∈ relay.toFlow → request.op.seen.isCancel = true)
    (hclosing : relay.client.closing = true) :
    Sound manifest runtime { relay with flow := relay.flow.beginClosing } ∧
      (relay.disposes → Sound manifest runtime
        ({ relay with flow := relay.flow.beginClosing }.sendCall .dispose)) := by
  have hbegun := h.beginClosing hnone fun _ => .inl hclosing
  refine ⟨hbegun, fun hdisposes => ?_⟩
  have hmode : relay.flow.cleanupMode = .disposeThenTerminate := hdisposes.1
  have hlive : relay.flow.lifecycle.Live := by
    unfold WorkerFlow.cleanupMode at hmode
    split at hmode
    · next hquiet => exact hquiet.2.2.2.2
    · cases hmode
  obtain ⟨_, _, _, _, hview⟩ := h.tracked
  refine hbegun.sendCall (fun _ _ hover => ready_of_live hlive hover rfl rfl) (fun _ => hmode)
    (fun _ _ => ⟨rfl, hclosing⟩) fun hopen => Bool.eq_false_iff.mpr fun hasked => ?_
  cases hdisposes.2.1.symm.trans (hview.stopped hopen (.inl hasked)).2

variable {adapter : Adapter σ} {relay' : Relay σ}

/-- The flow takes the oldest request. -/
theorem relayRequest (h : Sound manifest runtime relay)
    (hstep : relay.step manifest runtime adapter .relayRequest = some relay') :
    Sound manifest runtime relay' := by
  obtain ⟨wire, waiting, hwire, htraffic, hview⟩ := h.tracked
  obtain ⟨h1, h2, h3, h4, h5, h6, h7, h8⟩ := Relay.fields_of_wire hwire
  cases htraffic with
  | sent n hready hflow hworker hdispose hclosing =>
    have hframe := clientFrame_of_ready h2 h3 hready hflow hdispose hclosing
    simp only [Relay.step, h1, hframe, some.injEq] at hstep
    subst hstep
    refine ⟨h.faults, _, .answer n, ?_, .relayed n hready.onBooks hworker,
      hview.elsewhere nofun hview.ids hview.workerId rfl⟩
    simp [Relay.wire, PortRequest.seen, h4, h5, h6, h7, h8]
  | bothSent n m hready hop hlt hflow hworker hclosing =>
    have hframe := clientFrame_of_ready h2 h3 hready hflow
      (fun hbad => by cases (isDispose_of_isCancellable hop).symm.trans hbad)
      fun hbad => by cases hclosing.symm.trans hbad
    simp only [Relay.step, h1, hframe, some.injEq] at hstep
    subst hstep
    refine ⟨h.faults, _, .both n m, ?_, .cancelBehind n m hready.serving hop hlt hlt hworker,
      hview.elsewhere nofun hview.ids.1 hview.workerId rfl⟩
    simp [Relay.wire, PortRequest.seen, h4, h5, h6, h7, h8]
  | cancelBehind n m hserving hop hlt hflow hworker =>
    have hframe : relay.flow.clientFrame (cancelOf n m).seen = _ :=
      WorkerFlow.clientFrame_cancel hflow h3 h4
    simp only [Relay.step, h1, hframe, some.injEq] at hstep
    subst hstep
    refine ⟨h.faults, _, .both n m, ?_, .bothRelayed n m hserving hop hlt hworker,
      hview.elsewhere nofun hview.ids.2 hview.workerId rfl⟩
    simp [Relay.wire, h2, h3, h5, h6, h7, h8, cancelOf, PortRequest.seen, PortOp.seen]
  | cancelSent n m hserving hop hlt hflow hworker =>
    have hframe : relay.flow.clientFrame (cancelOf n m).seen = _ :=
      WorkerFlow.clientFrame_cancel hflow h3 h4
    simp only [Relay.step, h1, hframe, some.injEq] at hstep
    subst hstep
    refine ⟨h.faults, _, .both n m, ?_, .cancelRelayed n m hserving hop hlt hworker,
      hview.elsewhere nofun hview.ids.2 hview.workerId rfl⟩
    simp [Relay.wire, h2, h3, h5, h6, h7, h8, cancelOf, PortRequest.seen, PortOp.seen]
  | _ => simp [Relay.step, h1] at hstep

/-- The worker receives the oldest request. -/
theorem deliverRequest (h : Sound manifest runtime relay)
    (hstep : relay.step manifest runtime adapter .deliverRequest = some relay') :
    Sound manifest runtime relay' := by
  obtain ⟨wire, waiting, hwire, htraffic, hview⟩ := h.tracked
  obtain ⟨h1, h2, h3, h4, h5, h6, h7, h8⟩ := Relay.fields_of_wire hwire
  cases htraffic with
  | relayed n hready hworker =>
    have hreceive := receive_free hready.serving hworker h6
    simp only [Relay.step, h5, hreceive, hready.serving, some.injEq] at hstep
    subst hstep
    refine ⟨?_, _, .answer n, ?_, .running n ⟨hready.permits, rfl, hready.noCancel,
      hready.hello, hready.create⟩, hview.elsewhere nofun hview.flowId hview.ids rfl⟩
    · simp [h.faults]
    · simp [Relay.wire, h1, h2, h3, h4, h7, h8]
  | cancelBehind n m hserving hop hlt hflow hworker =>
    have hreceive := receive_free hserving hworker h6
    simp only [Relay.step, h5, hreceive, hserving, some.injEq] at hstep
    subst hstep
    refine ⟨?_, _, .both n m, ?_, .cancelSent n m rfl hop hlt hflow hlt,
      hview.elsewhere nofun hview.flowId hview.ids.1 rfl⟩
    · simp [h.faults]
    · simp [Relay.wire, h1, h2, h3, h4, h7, h8]
  | bothRelayed n m hserving hop hlt hworker =>
    have hreceive := receive_free hserving hworker h6
    simp only [Relay.step, h5, hreceive, hserving, some.injEq] at hstep
    subst hstep
    refine ⟨?_, _, .both n m, ?_, .cancelRelayed n m rfl hop hlt hlt,
      hview.elsewhere nofun hview.flowId hview.ids.1 rfl⟩
    · simp [h.faults]
    · simp [Relay.wire, h1, h2, h3, h4, h7, h8]
  | cancelRelayed n m hserving hop hlt hworker =>
    have hreceive := receive_cancel hserving hworker h6 hop
    simp only [Relay.step, h5, hreceive, hserving, some.injEq] at hstep
    subst hstep
    refine ⟨?_, _, .both n m, ?_, .bothAnswered n m rfl hop hlt,
      hview.elsewhere nofun hview.flowId hview.ids.2 rfl⟩
    · simp [h.faults]
    · simp [Relay.wire, h1, h2, h3, h4, h7, h8]
  | _ => simp [Relay.step, h5] at hstep

/-- The worker answers the pending operation where it may. -/
theorem settle (h : Sound manifest runtime relay)
    (hmay : relay.MaySettle runtime adapter)
    (hstep : relay.step manifest runtime adapter .settle = some relay') :
    Sound manifest runtime relay' := by
  obtain ⟨wire, waiting, hwire, htraffic, hview⟩ := h.tracked
  obtain ⟨h1, h2, h3, h4, h5, h6, h7, h8⟩ := Relay.fields_of_wire hwire
  cases htraffic with
  | running n hready =>
    obtain ⟨-, hmade⟩ := hmay n h6
    have hhello : ∀ digest requested, n.op = .hello digest requested →
        relay.worker.state = .awaitHello ∧ digest = some manifest.interfaceDigest ∧
          requested = nodeRuntime := by
      intro digest requested hop
      obtain ⟨hstate, hdigest, hruntime⟩ := hready.hello digest requested hop
      rw [hop] at hmade
      exact ⟨hstate, hdigest, hruntime.trans hmade⟩
    have hcreate : n.op = .create →
        relay.worker.state = .awaitCreate ∧ adapter.create.isSome = true := by
      intro hop
      rw [hop] at hmade
      exact ⟨hready.create hop, hmade⟩
    obtain ⟨reply, worker', hsettle, hsuits, hpending, hlast, hover, hafter⟩ :=
      settle_suits manifest adapter hready.serving h6 hhello hcreate hready.noCancel
    simp only [Relay.step, h6, hready.serving, hsettle, isSome_some, and_self, if_true,
      some.injEq] at hstep
    subst hstep
    refine ⟨h.faults, _, .answer n, ?_, .answered n reply hsuits ?_ hafter ?_,
      hview.elsewhere nofun hview.flowId (hlast ▸ hview.workerId) rfl⟩
    · simp [Relay.wire, h1, h2, h3, h4, h5, hpending, h7, h8]
    · exact fun digest requested hop => (hready.hello digest requested hop).2
    · exact fun hended => hover.symm.trans hended
  | cancelSent n m =>
    have hnone := (hmay n h6).1 (cancelOf n m) (by simp [h1])
    simp [cancelOf, PortOp.cancels] at hnone
  | cancelRelayed n m =>
    have hnone := (hmay n h6).1 (cancelOf n m) (by simp [h5])
    simp [cancelOf, PortOp.cancels] at hnone
  | _ => simp [Relay.step, h6] at hstep

/-- The flow takes the oldest response. -/
theorem relayResponse (h : Sound manifest runtime relay)
    (hstep : relay.step manifest runtime adapter .relayResponse = some relay') :
    Sound manifest runtime relay' := by
  obtain ⟨wire, waiting, hwire, htraffic, hview⟩ := h.tracked
  obtain ⟨h1, h2, h3, h4, h5, h6, h7, h8⟩ := Relay.fields_of_wire hwire
  cases htraffic with
  | answered n reply hsuits hhello hafter hover =>
    obtain ⟨b, lifecycle, failure, hanswer, hended, hagree⟩ := answer_of_suits hsuits
    have hframe : relay.flow.workerFrame (PortResponse.seen ⟨n.id, reply⟩) = _ :=
      (WorkerFlow.workerFrame_ordinary h2 h3 (by rw [h4]; exact (some_ne_none _).symm)
        (List.forall_mem_nil _)).trans hanswer
    simp only [Relay.step, h7, hframe, some.injEq] at hstep
    subst hstep
    refine ⟨h.faults, _, .answer n, ?_, .returned n reply hsuits hhello ?_ ?_,
      hview.elsewhere Waiting.noConfusion hview.flowId hview.workerId rfl⟩
    · simp [Relay.wire, h1, h4, h5, h6, h8]
    · exact fun result hok => hagree result hok _ hafter
    · exact fun hbad => hended (hover hbad)
  | bothAnswered n m hserving hop hlt =>
    have hsuits : Suits manifest n.op (.failed .cancelled) := by
      cases hn : n.op <;> rw [hn] at hop <;> trivial
    obtain ⟨b, lifecycle, failure, hanswer, -, -⟩ := answer_of_suits hsuits
    have hframe : relay.flow.workerFrame (PortResponse.seen ⟨n.id, .failed .cancelled⟩) = _ :=
      (WorkerFlow.workerFrame_ordinary h2 h3
        (fun hbad => (Nat.ne_of_lt hlt) (some.inj (hbad.symm.trans h4)))
        fun r hr => by
          cases List.mem_singleton.mp hr
          exact (Nat.ne_of_lt hlt).symm).trans hanswer
    simp only [Relay.step, h7, hframe, some.injEq] at hstep
    subst hstep
    refine ⟨h.faults, _, .both n m, ?_, .cancelLeft n m hserving hlt,
      hview.elsewhere Waiting.noConfusion hview.flowId hview.workerId rfl⟩
    simp [Relay.wire, h1, h4, h5, h6, h8]
  | cancelLeft n m hserving hlt =>
    have hframe : relay.flow.workerFrame (PortResponse.seen ⟨m, .ok .null⟩) = _ :=
      WorkerFlow.workerFrame_cancel h2 h3 h4
    simp only [Relay.step, h7, hframe, cancelOf, PortRequest.seen, PortOp.seen, WorkerFlow.answer,
      PortReply.seen, some.injEq] at hstep
    subst hstep
    refine ⟨h.faults, _, .both n m, ?_, .bothReturned n m hserving hlt,
      hview.elsewhere Waiting.noConfusion hview.flowId hview.workerId rfl⟩
    simp [Relay.wire, h1, h3, h5, h6, h8]
  | cancelAnswered n m hserving =>
    have hframe : relay.flow.workerFrame (PortResponse.seen ⟨m, .ok .null⟩) = _ :=
      WorkerFlow.workerFrame_cancel h2 h3 h4
    simp only [Relay.step, h7, hframe, cancelOf, PortRequest.seen, PortOp.seen, WorkerFlow.answer,
      PortReply.seen, some.injEq] at hstep
    subst hstep
    refine ⟨h.faults, _, .cancel m, ?_, .cancelReturned m hserving,
      hview.elsewhere Waiting.noConfusion hview.flowId hview.workerId rfl⟩
    simp [Relay.wire, h1, h3, h5, h6, h8]
  | _ => simp [Relay.step, h7] at hstep

/-- The client receives the oldest response. -/
theorem deliverResponse (h : Sound manifest runtime relay)
    (hstep : relay.step manifest runtime adapter .deliverResponse = some relay') :
    Sound manifest runtime relay' := by
  obtain ⟨wire, waiting, hwire, htraffic, hview⟩ := h.tracked
  obtain ⟨h1, h2, h3, h4, h5, h6, h7, h8⟩ := Relay.fields_of_wire hwire
  cases htraffic with
  | returned n reply hsuits hhello hagree hover =>
    obtain ⟨client, hreceive, hafter⟩ := hview.receive_answer hsuits hhello hagree
    simp only [Relay.step, h8, Relay.clientReceives, hreceive, some.injEq] at hstep
    subst hstep
    refine ⟨h.faults, _, .nothing, ?_, .idle hover, hafter⟩
    simp [Relay.wire, h1, h2, h3, h4, h5, h6, h7]
  | cancelLeft n m hserving hlt =>
    obtain ⟨client, hreceive, hafter⟩ := hview.receive_cancelled manifest runtime hlt
    simp only [Relay.step, h8, Relay.clientReceives, hreceive, some.injEq] at hstep
    subst hstep
    refine ⟨h.faults, _, .cancel m, ?_, .cancelAnswered n m hserving, hafter⟩
    simp [Relay.wire, h1, h2, h3, h4, h5, h6, h7]
  | bothReturned n m hserving hlt =>
    obtain ⟨client, hreceive, hafter⟩ := hview.receive_cancelled manifest runtime hlt
    simp only [Relay.step, h8, Relay.clientReceives, hreceive, some.injEq] at hstep
    subst hstep
    refine ⟨h.faults, _, .cancel m, ?_, .cancelReturned m hserving, hafter⟩
    simp [Relay.wire, h1, h2, h3, h4, h5, h6, h7]
  | cancelReturned m hserving =>
    obtain ⟨client, hreceive, hafter⟩ := hview.receive_acknowledged manifest runtime
    simp only [Relay.step, h8, Relay.clientReceives, hreceive, some.injEq] at hstep
    subst hstep
    refine ⟨h.faults, _, .nothing, ?_, .idle ?_, hafter⟩
    · simp [Relay.wire, h1, h2, h3, h4, h5, h6, h7]
    · exact fun hbad => by cases hserving.symm.trans hbad
  | _ => simp [Relay.step, h8] at hstep

/-- A careful step keeps the invariant. -/
theorem step (h : Sound manifest runtime relay)
    {action : Action} (hcareful : relay.Careful runtime adapter action)
    (hstep : relay.step manifest runtime adapter action = some relay') :
    Sound manifest runtime relay' := by
  cases action with
  | call op =>
    simp only [Relay.step] at hstep
    split at hstep
    · next hmay =>
      cases hstep
      exact h.call hmay.1 hmay.2
    · cases hstep
  | stop reason =>
    cases hstep
    exact h.stopCall hcareful reason
  | graceExpires =>
    cases hstep
    obtain ⟨wire, waiting, hwire, htraffic, hview⟩ := h.tracked
    exact ⟨h.faults, wire, waiting, hwire, htraffic, hview.graceExpires⟩
  | close =>
    simp only [Relay.step] at hstep
    split at hstep
    · cases hstep
    · cases hstep
      have hstopped := h.stopCall hcareful .cancelled
      obtain ⟨wire, waiting, hwire, htraffic, hview⟩ := hstopped.tracked
      exact ⟨hstopped.faults, wire, waiting, hwire, htraffic, hview.close⟩
  | release =>
    simp only [Relay.step] at hstep
    split at hstep
    · next hfree =>
      obtain ⟨hbegun, hdisposed⟩ := h.release hcareful hfree.1
      split at hstep
      · next hdisposes =>
        cases hstep
        exact hdisposed hdisposes
      · cases hstep
        exact hbegun
    · cases hstep
  | armClosing =>
    simp only [Relay.step] at hstep
    split at hstep
    · next hasked =>
      cases hstep
      exact h.armClosing hcareful hasked
    · cases hstep
  | relayRequest => exact h.relayRequest hstep
  | deliverRequest => exact h.deliverRequest hstep
  | settle => exact h.settle hcareful hstep
  | relayResponse => exact h.relayResponse hstep
  | deliverResponse => exact h.deliverResponse hstep
  | hangUp =>
    cases hstep
    obtain ⟨wire, waiting, hwire, htraffic, hview⟩ := h.tracked
    exact ⟨h.faults, wire, waiting, hwire, htraffic, hview.hangUp⟩

end Sound

theorem sound_of_reaches {adapter : Adapter σ}
    {relay : Relay σ} (h : Relay.Reaches manifest runtime adapter relay) :
    Sound manifest runtime relay := by
  induction h with
  | start => exact sound_start manifest runtime
  | step action _ hcareful hstep ih => exact ih.step hcareful hstep

/-- A call that was stopped is settled at the latest when the grace period of
    its cancellation is over. -/
theorem ClientView.settles_stopped
    {waiting : Waiting} (h : ClientView client flow worker waiting) {entry : Entry} {reason : Stop}
    (hentry : client.pending = some entry) (hstop : entry.stop = some reason) :
    ⟨entry.request.id, some reason, .error (.stopped reason)⟩ ∈ client.graceExpires.settled := by
  have hlive : client.terminalError = none := by
    by_contra hended
    cases (h.ended hended).1.symm.trans hentry
  have hwaits := h.waits hlive
  cases waiting with
  | nothing => cases hwaits.1.symm.trans hentry
  | answer n =>
    cases hwaits.1.symm.trans hentry
    cases hstop
  | cancel m => cases hwaits.1.symm.trans hentry
  | both n m =>
    obtain ⟨reason', hpending, hcancel⟩ := hwaits
    cases hpending.symm.trans hentry
    cases hstop
    rw [NodeClient.graceExpires, hcancel]
    simp [NodeClient.fatal_of_live hlive, NodeClient.settle, hpending,
      NodeClient.rejection_stopped]

/-- On a line on which nothing crosses, whatever else happens and in whatever
    order, the flow never raises and neither end reports a violation. A call
    that was stopped before its answer arrived is rejected with the reason it
    was stopped for, at the latest when the grace period is over. -/
theorem nobody_blamed {manifest : Manifest} {runtime : String} {adapter : Adapter σ}
    {relay : Relay σ} (h : Relay.Reaches manifest runtime adapter relay) :
    relay.faults = [] ∧
      (∀ call ∈ relay.client.settled, ∀ reason, call.stop = some reason →
        call.outcome = .error (.stopped reason)) ∧
      ∀ entry reason, relay.client.pending = some entry → entry.stop = some reason →
        ⟨entry.request.id, some reason, .error (.stopped reason)⟩ ∈
          relay.client.graceExpires.settled := by
  have hsound := sound_of_reaches h
  obtain ⟨_, _, _, _, hview⟩ := hsound.tracked
  exact ⟨hsound.faults, hview.settled, fun _ _ => hview.settles_stopped⟩

/-- A sequence of careful steps, `none` if a step is not. -/
def Relay.runCareful (manifest : Manifest) (runtime : String) (adapter : Adapter σ)
    (relay : Relay σ) : List Action → Option (Relay σ)
  | [] => some relay
  | action :: rest =>
    if relay.Careful runtime adapter action then
      (relay.step manifest runtime adapter action).bind
        fun relay' => relay'.runCareful manifest runtime adapter rest
    else none

theorem reaches_of_runCareful {adapter : Adapter σ}
    {relay relay' : Relay σ} {actions : List Action}
    (h : Relay.Reaches manifest runtime adapter relay)
    (hrun : relay.runCareful manifest runtime adapter actions = some relay') :
    Relay.Reaches manifest runtime adapter relay' := by
  induction actions generalizing relay with
  | nil =>
    cases hrun
    exact h
  | cons action rest ih =>
    simp only [Relay.runCareful] at hrun
    split at hrun
    · next hcareful =>
      obtain ⟨next, hstep, hrest⟩ := bind_eq_some_iff.mp hrun
      exact ih (.step action h hcareful hstep) hrest
    · cases hrun

/-- A call is carried to the worker and its answer back. -/
def roundTrip (op : PortOp) : List Action :=
  [.call op, .relayRequest, .deliverRequest, .settle, .relayResponse, .deliverResponse]

/-- The handshake with a counter. -/
def shakeHands : List Action :=
  roundTrip (.hello (some counterDigest) nodeRuntime) ++ roundTrip .create

/-- The deadline of a call passes while the worker runs it. -/
def lateCall : List Action :=
  shakeHands ++ [.call (.invoke "reset" (.obj [])), .relayRequest, .deliverRequest, .stop .timeout,
    .relayRequest, .deliverRequest, .relayResponse, .relayResponse, .deliverResponse,
    .deliverResponse]

/-- The call of `lateCall` is rejected with the timeout, and nobody is blamed. -/
theorem nobody_blamed_lateCall : ∃ relay,
    Relay.Reaches counterPort nodeRuntime counterAdapter relay ∧
    relay.client.settled.map (·.stop) = [none, none, some .timeout] ∧ relay.faults = [] ∧
    ∀ call ∈ relay.client.settled, ∀ reason, call.stop = some reason →
      call.outcome = .error (.stopped reason) := by
  have hrun : (Relay.runCareful counterPort nodeRuntime counterAdapter {} lateCall).map
      (fun relay => relay.client.settled.map (·.stop)) = some [none, none, some .timeout] := by
    decide +kernel
  obtain ⟨relay, hrelay, hstops⟩ := Option.map_eq_some_iff.mp hrun
  have hreaches := reaches_of_runCareful .start hrelay
  have hnobody := nobody_blamed hreaches
  exact ⟨relay, hreaches, hstops, hnobody.1, hnobody.2.1⟩

/-- The deadline of a call passes while its answer is on its way. -/
def crossedCall : List Action :=
  shakeHands ++ [.call (.invoke "reset" (.obj [])), .relayRequest, .deliverRequest, .settle,
    .relayResponse, .stop .timeout, .relayRequest, .deliverResponse]

/-- What a call was rejected with. -/
def Settled.error (call : Settled) : Option ClientError :=
  match call.outcome with
  | .error e => some e
  | .ok _ => none

/-- The flow takes the cancellation of `crossedCall` for one of nothing, the
    client takes the answer for a violation of the protocol, and the call is
    not rejected with the timeout. -/
theorem crossedCall_blames :
    (Relay.run counterPort nodeRuntime counterAdapter {} crossedCall).map (fun relay =>
      (relay.faults, relay.client.settled.map fun call => (call.stop, call.error))) =
    some ([.flow ⟨.schema, "invalid worker cancellation"⟩,
        .client .schema "Cancelled operation returned success"],
      [(none, none), (none, none),
        (some .timeout, some (.violation .schema "Cancelled operation returned success"))]) := by
  decide +kernel

end MirrorGate
