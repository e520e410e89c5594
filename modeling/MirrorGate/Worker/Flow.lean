import Mathlib.Data.List.Basic
import Mathlib.Tactic.Basic

/-!
# The Worker Channel Observed

Between the client and the worker process the broker relays frames without
changing them, and a `WorkerFlow` watches what passes. It enforces that
request identifiers increase, that at most one ordinary request is open, that
the handshake comes first, and that once the worker is being closed only the
cancellation of the open call and a cooperative disposal get through.

The two entry points raise after having changed some fields, and the fields
keep what was written. `clientFrame` has by then recorded the identifier, and
`workerFrame` has taken the request off the books, so both return the flow on
the error exit as well.

## Main definitions

* `WorkerRequest`, `WorkerResponse`: What of a frame the flow looks at.
* `WorkerFlow`: The books of the flow.
* `WorkerFlow.cleanupMode`, `WorkerFlow.beginClosing`.
* `WorkerFlow.clientFrame`, `WorkerFlow.workerFrame`: One frame each way.

## Theorems

* `Consistent.clientFrame`, `Consistent.workerFrame`: A request of the
  handshake is open as long as it is on the books.
* `workerFrame_handshaking`: Nothing leads back to the handshake.
* `workerFrame_eq_ok_true`: Announcing the worker ready takes the flow out of
  the handshake.
-/

namespace MirrorGate

/-- Why something is closed or cancelled. -/
inductive Reason where
  | normal
  | userCancel
  | deadline
  | clientFailure
  | workerFailure
deriving DecidableEq, Repr

def Reason.text : Reason → String
  | .normal => "normal"
  | .userCancel => "user-cancel"
  | .deadline => "deadline"
  | .clientFailure => "client-failure"
  | .workerFailure => "worker-failure"

/-- How a worker is brought to its end. -/
inductive CleanupMode where
  | disposeThenTerminate
  | terminateOnly
deriving DecidableEq, Repr

/-- The operation of a request frame. The arguments of `invoke` are not
    looked at. -/
inductive WorkerOp where
  | hello (interfaceDigest runtime : String)
  | create
  | invoke
  | observe
  | dispose
  | cancel (requestId : Nat)
deriving DecidableEq, Repr

structure WorkerRequest where
  id : Nat
  op : WorkerOp
deriving DecidableEq, Repr

/-- A result as far as the flow tells results apart. -/
inductive WorkerResult where
  | null
  | identity (interfaceDigest runtime : String)
  | other
deriving DecidableEq, Repr

/-- What a response frame says: a result, or the message of its error. -/
inductive WorkerReply where
  | ok (result : WorkerResult)
  | failed (message : String)
deriving DecidableEq, Repr

structure WorkerResponse where
  id : Nat
  reply : WorkerReply
deriving DecidableEq, Repr

inductive ProtocolCode where
  | schema
  | lifecycle
  | handshake
  | frame
  | limit
deriving DecidableEq, Repr

structure ProtocolError where
  code : ProtocolCode
  message : String
deriving DecidableEq, Repr

inductive Lifecycle where
  | awaitHello
  | awaitCreate
  | created
  | ready
  | poisoned
  | disposed
deriving DecidableEq, Repr

/-- The handshake is not over: the worker was not created yet. -/
def Lifecycle.Handshaking (lifecycle : Lifecycle) : Prop :=
  lifecycle = .awaitHello ∨ lifecycle = .awaitCreate

instance (lifecycle : Lifecycle) : Decidable lifecycle.Handshaking :=
  inferInstanceAs (Decidable (_ ∨ _))

/-- The lifecycle in which an operation of the handshake is sent. -/
def WorkerOp.stage : WorkerOp → Option Lifecycle
  | .hello _ _ => some .awaitHello
  | .create => some .awaitCreate
  | _ => none

structure WorkerFlow where
  lastId : Nat := 0
  requests : List WorkerRequest := []
  ordinaryPending : Option Nat := none
  cancelPending : Option Nat := none
  lifecycle : Lifecycle := .awaitHello
  closing : Bool := false
  cancelledEver : Bool := false
  disposeSent : Bool := false
  cooperativeFailure : Option String := none
deriving DecidableEq, Repr

namespace WorkerFlow

/-- A quiescent worker that was never cancelled may dispose of itself. -/
def cleanupMode (flow : WorkerFlow) : CleanupMode :=
  if flow.ordinaryPending = none ∧ flow.cancelPending = none ∧ flow.cancelledEver = false ∧
      flow.disposeSent = false ∧ (flow.lifecycle = .created ∨ flow.lifecycle = .ready) then
    .disposeThenTerminate
  else .terminateOnly

def beginClosing (flow : WorkerFlow) : WorkerFlow := { flow with closing := true }

/-- What gets through once the worker is being closed. -/
def closingPermits (flow : WorkerFlow) : WorkerOp → Except ProtocolError Unit
  | .cancel requestId =>
    if flow.ordinaryPending ≠ some requestId ∨ flow.cancelPending ≠ none then
      .error ⟨.lifecycle, "closing permits only cancellation of the pending call"⟩
    else .ok ()
  | .dispose =>
    if flow.cleanupMode ≠ .disposeThenTerminate then
      .error ⟨.lifecycle, "worker is not quiescent for cooperative disposal"⟩
    else .ok ()
  | _ => .error ⟨.lifecycle, "worker is closing"⟩

/-- The lifecycle an ordinary operation needs. -/
def lifecyclePermits (flow : WorkerFlow) : WorkerOp → Except ProtocolError Unit
  | .hello _ _ =>
    if flow.lifecycle ≠ .awaitHello then .error ⟨.lifecycle, "unexpected worker hello"⟩
    else .ok ()
  | .create =>
    if flow.lifecycle ≠ .awaitCreate then
      .error ⟨.lifecycle, "create requires a successful hello"⟩
    else .ok ()
  | _ =>
    if flow.lifecycle ≠ .created ∧ flow.lifecycle ≠ .ready then
      .error ⟨.lifecycle, "worker is not ready"⟩
    else .ok ()

/-- A request that the closing checks let through goes on the books. -/
def enter (flow : WorkerFlow) (request : WorkerRequest) : Except ProtocolError WorkerFlow :=
  match request.op with
  | .cancel requestId =>
    if flow.ordinaryPending ≠ some requestId ∨ flow.cancelPending ≠ none then
      .error ⟨.schema, "invalid worker cancellation"⟩
    else
      .ok { flow with
        cancelPending := some request.id
        cancelledEver := true
        requests := flow.requests ++ [request] }
  | op =>
    if flow.ordinaryPending ≠ none then
      .error ⟨.schema, "worker request pipelining is forbidden"⟩
    else
      match flow.lifecyclePermits op with
      | .error e => .error e
      | .ok () =>
        if op = .dispose ∧ flow.disposeSent then .error ⟨.lifecycle, "dispose is at most once"⟩
        else
          .ok { flow with
            disposeSent := flow.disposeSent || op = .dispose
            ordinaryPending := some request.id
            requests := flow.requests ++ [request] }

/-- The part of `clientFrame` after the identifier was recorded. -/
def admitFrame (flow : WorkerFlow) (request : WorkerRequest) : Except ProtocolError WorkerFlow :=
  if flow.closing then
    match flow.closingPermits request.op with
    | .error e => .error e
    | .ok () => flow.enter request
  else flow.enter request

/-- One frame from the client. -/
def clientFrame (flow : WorkerFlow) (request : WorkerRequest) :
    Except ProtocolError Unit × WorkerFlow :=
  if request.id ≤ flow.lastId then (.error ⟨.schema, "request IDs must increase"⟩, flow)
  else
    match { flow with lastId := request.id }.admitFrame request with
    | .ok flow => (.ok (), flow)
    | .error e => (.error e, { flow with lastId := request.id })

/-- The pending slot a response empties. -/
def correlate (flow : WorkerFlow) (id : Nat) : Except ProtocolError WorkerFlow :=
  if flow.cancelPending = some id then
    if flow.ordinaryPending ≠ none then
      .error ⟨.schema, "cancel response preceded cancelled operation response"⟩
    else .ok { flow with cancelPending := none }
  else if flow.ordinaryPending = some id then .ok { flow with ordinaryPending := none }
  else .error ⟨.schema, "worker response order is invalid"⟩

/-- What the answer to an operation does to the lifecycle. The flag says that
    the worker is to be announced ready. -/
def answer (flow : WorkerFlow) (op : WorkerOp) (reply : WorkerReply) :
    Except ProtocolError Bool × WorkerFlow :=
  match op, reply with
  | .hello _ _, .failed _ => (.error ⟨.handshake, "worker rejected hello"⟩, flow)
  | .hello digest runtime, .ok result =>
    if result = .identity digest runtime then (.ok false, { flow with lifecycle := .awaitCreate })
    else (.error ⟨.handshake, "worker hello identity mismatch"⟩, flow)
  | .create, .ok .null => (.ok true, { flow with lifecycle := .created })
  | .create, _ => (.error ⟨.handshake, "worker create failed"⟩, flow)
  | .dispose, .ok .null => (.ok false, { flow with lifecycle := .disposed })
  | .dispose, .ok _ => (.error ⟨.schema, "dispose result must be null"⟩, flow)
  | .dispose, .failed message =>
    (.ok false, { flow with
      lifecycle := .poisoned
      cooperativeFailure := some (String.ofList (message.toList.take 1024)) })
  | _, .failed _ => (.ok false, { flow with lifecycle := .poisoned })
  | _, .ok _ => (.ok false, { flow with lifecycle := .ready })

/-- One frame from the worker. -/
def workerFrame (flow : WorkerFlow) (response : WorkerResponse) :
    Except ProtocolError Bool × WorkerFlow :=
  match flow.requests.find? (fun request => request.id = response.id) with
  | none => (.error ⟨.schema, "uncorrelated worker response"⟩, flow)
  | some request =>
    match flow.correlate response.id with
    | .error e => (.error e, flow)
    | .ok open_ =>
      { open_ with requests := open_.requests.filter (fun r => r.id ≠ response.id) }.answer
        request.op response.reply

/-! ### The handshake is passed once -/

/-- A request of the handshake is the open one, and the lifecycle is still
    the one it was sent in. -/
def Consistent (flow : WorkerFlow) : Prop :=
  ∀ request ∈ flow.requests, ∀ stage, request.op.stage = some stage →
    flow.lifecycle = stage ∧ flow.ordinaryPending = some request.id

/-- The response confirms the creation of the worker. -/
def Confirms (flow : WorkerFlow) (response : WorkerResponse) : Prop :=
  response.reply = .ok .null ∧
    (flow.requests.find? (fun request => request.id = response.id)).map (·.op) = some .create

instance (flow : WorkerFlow) (response : WorkerResponse) : Decidable (flow.Confirms response) :=
  inferInstanceAs (Decidable (_ ∧ _))

theorem consistent_initial : Consistent {} := by
  intro request hrequest
  cases hrequest

variable {flow : WorkerFlow}

theorem Consistent.beginClosing (h : flow.Consistent) :
    flow.beginClosing.Consistent := h

/-- An operation of the handshake is sent in its own lifecycle. -/
theorem lifecyclePermits_stage {op : WorkerOp} {stage : Lifecycle}
    (h : flow.lifecyclePermits op = .ok ()) (hstage : op.stage = some stage) :
    flow.lifecycle = stage := by
  cases op <;> simp only [WorkerOp.stage, Option.some.injEq, reduceCtorEq] at hstage <;>
    subst hstage <;> by_contra hne <;> simp [lifecyclePermits, hne] at h

variable {flow flow' : WorkerFlow}

/-- What an admitted request changes: it is on the books, and if it belongs
    to the handshake it is the open request and was sent in its lifecycle. -/
theorem enter_eq_ok {request : WorkerRequest}
    (h : flow.enter request = .ok flow') :
    flow'.lifecycle = flow.lifecycle ∧ flow'.requests = flow.requests ++ [request] ∧
      ((request.op.stage = none ∧ flow'.ordinaryPending = flow.ordinaryPending) ∨
        (flow.ordinaryPending = none ∧ flow'.ordinaryPending = some request.id ∧
          ∀ stage, request.op.stage = some stage → flow.lifecycle = stage)) := by
  unfold enter at h
  split at h
  · next requestId hop =>
    split at h
    · cases h
    · cases h
      exact ⟨rfl, rfl, .inl ⟨by rw [hop]; rfl, rfl⟩⟩
  · split at h
    · cases h
    · next hfree =>
      split at h
      · cases h
      · next hpermits =>
        split at h
        · cases h
        · cases h
          exact ⟨rfl, rfl, .inr ⟨not_not.mp hfree, rfl,
            fun stage hstage => lifecyclePermits_stage hpermits hstage⟩⟩

theorem admit_eq_ok {request : WorkerRequest}
    (h : flow.admitFrame request = .ok flow') : flow.enter request = .ok flow' := by
  unfold admitFrame at h
  split at h
  · split at h
    · cases h
    · exact h
  · exact h

/-- A frame from the client leaves the lifecycle alone. -/
theorem clientFrame_lifecycle (flow : WorkerFlow) (request : WorkerRequest) :
    (flow.clientFrame request).2.lifecycle = flow.lifecycle := by
  unfold clientFrame
  split
  · rfl
  · split
    · next hadmit => exact (enter_eq_ok (admit_eq_ok hadmit)).1
    · rfl

theorem Consistent.clientFrame (h : flow.Consistent)
    (request : WorkerRequest) : (flow.clientFrame request).2.Consistent := by
  unfold WorkerFlow.clientFrame
  split
  · exact h
  · split
    · next hadmit =>
      obtain ⟨hlifecycle, hrequests, hopen⟩ := enter_eq_ok (admit_eq_ok hadmit)
      intro r hr stage hstage
      rw [hlifecycle]
      rw [hrequests, List.mem_append, List.mem_singleton] at hr
      rcases hopen with ⟨hnone, hsame⟩ | ⟨hfree, hnow, hstages⟩
      · -- A cancellation: the open request is the one it was.
        rcases hr with hr | rfl
        · rw [hsame]
          exact h r hr stage hstage
        · rw [hnone] at hstage
          cases hstage
      · -- Nothing was open, so nothing of the handshake was on the books.
        rcases hr with hr | rfl
        · have hpending := (h r hr stage hstage).2
          cases hfree.symm.trans hpending
        · exact ⟨hstages stage hstage, hnow⟩
    · exact h

/-- A response that is accepted for correlation concerns the open request or,
    when none is open, a cancellation. -/
theorem correlate_eq_ok {id : Nat}
    (h : flow.correlate id = .ok flow') :
    flow'.requests = flow.requests ∧ flow'.lifecycle = flow.lifecycle ∧
      (flow.ordinaryPending = none ∨ flow.ordinaryPending = some id) := by
  unfold correlate at h
  split at h
  · split at h
    · cases h
    · next hfree =>
      cases h
      exact ⟨rfl, rfl, .inl (not_not.mp hfree)⟩
  · split at h
    · next hopen =>
      cases h
      exact ⟨rfl, rfl, .inr hopen⟩
    · cases h

/-- An answer changes nothing on the books. -/
theorem answer_requests (flow : WorkerFlow) (op : WorkerOp) (reply : WorkerReply) :
    (flow.answer op reply).2.requests = flow.requests := by
  unfold answer
  repeat' split
  all_goals rfl

/-- Only the answer to a hello leads into the handshake. -/
theorem answer_handshaking {op : WorkerOp} {reply : WorkerReply}
    (hop : op.stage ≠ some .awaitHello) (h : ¬ flow.lifecycle.Handshaking) :
    ¬ (flow.answer op reply).2.lifecycle.Handshaking := by
  unfold answer
  split
  case h_1 => exact absurd rfl hop
  case h_2 => exact absurd rfl hop
  all_goals first
    | exact h
    | simp [Lifecycle.Handshaking]

/-- The worker is announced ready by the confirmation of its creation. -/
theorem answer_eq_ok_true {op : WorkerOp} {reply : WorkerReply}
    (h : (flow.answer op reply).1 = .ok true) :
    op = .create ∧ reply = .ok .null ∧ (flow.answer op reply).2.lifecycle = .created := by
  unfold answer at h ⊢
  split at h
  case h_3 => exact ⟨rfl, rfl, rfl⟩
  all_goals
    try split at h
    all_goals simp at h

/-- What a frame from the worker does when it is accepted for correlation,
    and that it does nothing otherwise. -/
theorem workerFrame_cases (flow : WorkerFlow) (response : WorkerResponse) :
    (∃ e, flow.workerFrame response = (.error e, flow)) ∨
      ∃ (request : WorkerRequest) (flow' : WorkerFlow),
        flow.requests.find? (fun r => r.id = response.id) = some request ∧
        flow'.requests = flow.requests.filter (fun r => r.id ≠ response.id) ∧
        flow'.lifecycle = flow.lifecycle ∧
        (flow.ordinaryPending = none ∨ flow.ordinaryPending = some response.id) ∧
        flow.workerFrame response = flow'.answer request.op response.reply := by
  unfold workerFrame
  split
  · exact .inl ⟨_, rfl⟩
  · next request hfind =>
    split
    · exact .inl ⟨_, rfl⟩
    · next flow' hcorrelate =>
      obtain ⟨hrequests, hlifecycle, hopen⟩ := correlate_eq_ok hcorrelate
      refine .inr ⟨request,
        { flow' with requests := flow'.requests.filter (fun r => r.id ≠ response.id) },
        hfind, ?_, hlifecycle, hopen, rfl⟩
      rw [hrequests]

theorem Consistent.workerFrame (h : flow.Consistent)
    (response : WorkerResponse) : (flow.workerFrame response).2.Consistent := by
  rcases workerFrame_cases flow response with ⟨e, heq⟩ | ⟨request, flow', -, hbooks, -, hopen, heq⟩
  · rw [heq]
    exact h
  · rw [heq]
    intro r hr stage hstage
    rw [answer_requests, hbooks, List.mem_filter, decide_eq_true_iff] at hr
    -- What stays on the books is not the open request, so it is no part of the handshake.
    have hpending := (h r hr.1 stage hstage).2
    rcases hopen with hnone | hsome
    · cases hnone.symm.trans hpending
    · exact absurd (Option.some.inj (hpending.symm.trans hsome)) hr.2

/-- Nothing leads back to the handshake. -/
theorem workerFrame_handshaking (hflow : flow.Consistent)
    (response : WorkerResponse) (h : ¬ flow.lifecycle.Handshaking) :
    ¬ (flow.workerFrame response).2.lifecycle.Handshaking := by
  rcases workerFrame_cases flow response with
    ⟨e, heq⟩ | ⟨request, flow', hfind, -, hlifecycle, -, heq⟩
  · rw [heq]
    exact h
  · rw [heq]
    apply answer_handshaking
    · intro hstage
      exact h (.inl (hflow request (List.mem_of_find?_eq_some hfind) _ hstage).1)
    · rw [hlifecycle]
      exact h

/-- Announcing the worker ready is the confirmation of its creation, and takes
    the flow out of the handshake. -/
theorem workerFrame_eq_ok_true (hflow : flow.Consistent)
    {response : WorkerResponse} (h : (flow.workerFrame response).1 = .ok true) :
    flow.Confirms response ∧ flow.lifecycle.Handshaking ∧
      ¬ (flow.workerFrame response).2.lifecycle.Handshaking := by
  rcases workerFrame_cases flow response with
    ⟨e, heq⟩ | ⟨request, flow', hfind, -, -, -, heq⟩
  · rw [heq] at h
    cases h
  · rw [heq] at h ⊢
    obtain ⟨hop, hreply, hcreated⟩ := answer_eq_ok_true h
    have hstage := hflow request (List.mem_of_find?_eq_some hfind) .awaitCreate (by rw [hop]; rfl)
    refine ⟨⟨hreply, by rw [hfind, Option.map_some, hop]⟩, .inr hstage.1, ?_⟩
    rw [hcreated]
    decide

end WorkerFlow

end MirrorGate
