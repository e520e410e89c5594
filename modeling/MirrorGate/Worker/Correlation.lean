import MirrorGate.Worker.Flow
import Mathlib.Data.List.Induction
import Mathlib.Data.List.Nodup
import Mathlib.Data.List.Pairwise

/-!
# Requests and Responses Kept in Step

The relay calls a `WorkerFlow` from three sides: with a frame of the client,
with a frame of the worker, and when the reservation begins to close. A call
that raises ends the relay, so what the flow guards is a sequence of calls none
of which raised. `run` is such a sequence from a fresh flow.

Everything about sequences comes from one inversion. `Accepts` lists what a
call that does not raise found and what it left. `Books` is the invariant over
it: the requests on the books are those the two pending slots name, each in
its own slot, in the order of their identifiers.

## Main definitions

* `FlowCall`, `WorkerFlow.call`, `WorkerFlow.run`: Calls and their sequences.
* `Accepts`: What a call finds and leaves when it does not raise.
* `Books`: The books agree with the pending slots.
* `requestsOf`, `responsesOf`, `outstanding`: The history of a sequence.
* `Remembers`: What the flow remembers of a sequence.

## Theorems

* `accepts_of_call`: A call that does not raise is accepted.
* `Books.step`, `books_of_run`: The books agree after every sequence.
* `remembers_of_run`: What the flow remembers of every sequence.
* `correlation`: What the flow enforces on every sequence of accepted calls.
-/

namespace MirrorGate

open List

/-- One call of the flow. -/
inductive FlowCall where
  | clientFrame (request : WorkerRequest)
  | workerFrame (response : WorkerResponse)
  | beginClosing
deriving DecidableEq, Repr

def FlowCall.request : FlowCall → Option WorkerRequest
  | .clientFrame request => some request
  | _ => none

def FlowCall.response : FlowCall → Option WorkerResponse
  | .workerFrame response => some response
  | _ => none

def WorkerOp.isCancel : WorkerOp → Bool
  | .cancel _ => true
  | _ => false

/-- The requests of a sequence of calls, in order. -/
def requestsOf (calls : List FlowCall) : List WorkerRequest := calls.filterMap FlowCall.request

/-- The responses of a sequence of calls, in order. -/
def responsesOf (calls : List FlowCall) : List WorkerResponse := calls.filterMap FlowCall.response

/-- The identifiers of the responses. -/
def answeredIds (calls : List FlowCall) : List Nat := (responsesOf calls).map (·.id)

/-- The requests that were not answered. -/
def outstanding (calls : List FlowCall) : List WorkerRequest :=
  (requestsOf calls).filter fun request => request.id ∉ answeredIds calls

namespace WorkerFlow

/-- One call on the flow, `none` if it raises. -/
def call (flow : WorkerFlow) : FlowCall → Option WorkerFlow
  | .clientFrame request =>
    match flow.clientFrame request with
    | (.ok (), flow') => some flow'
    | (.error _, _) => none
  | .workerFrame response =>
    match flow.workerFrame response with
    | (.ok _, flow') => some flow'
    | (.error _, _) => none
  | .beginClosing => some flow.beginClosing

/-- A sequence of calls on a fresh flow, `none` if one of them raises. -/
def run (calls : List FlowCall) : Option WorkerFlow := calls.foldlM call {}

variable {calls : List FlowCall}

/-- The last call of a sequence comes after the others. -/
theorem run_concat {c : FlowCall} {flow' : WorkerFlow} :
    run (calls ++ [c]) = some flow' ↔ ∃ flow, run calls = some flow ∧ flow.call c = some flow' := by
  rw [run, foldlM_append, run]
  cases calls.foldlM call {} with
  | none => simp
  | some flow => simp

/-- A sequence that does not raise has a beginning that does not raise. -/
theorem run_of_append {before later : List FlowCall} {flow' : WorkerFlow}
    (h : run (before ++ later) = some flow') : ∃ flow, run before = some flow := by
  rw [run, foldlM_append] at h
  cases hrun : before.foldlM call {} with
  | none =>
    rw [hrun] at h
    cases h
  | some flow => exact ⟨flow, hrun⟩

/-! ### What an accepted call does -/

/-- A call that does not raise, what it found and what it left. -/
inductive Accepts (flow : WorkerFlow) : FlowCall → WorkerFlow → Prop
  | closing : Accepts flow .beginClosing { flow with closing := true }
  | cancel (id target : Nat) (hid : flow.lastId < id)
      (hopen : flow.ordinaryPending = some target) (hfree : flow.cancelPending = none) :
      Accepts flow (.clientFrame ⟨id, .cancel target⟩)
        { flow with
          lastId := id
          cancelPending := some id
          cancelledEver := true
          requests := flow.requests ++ [⟨id, .cancel target⟩] }
  | ordinary (id : Nat) (op : WorkerOp) (hid : flow.lastId < id) (hop : op.isCancel = false)
      (hfree : flow.ordinaryPending = none) (hpermits : flow.lifecyclePermits op = .ok ())
      (honce : op = .dispose → flow.disposeSent = false)
      (hclosing : flow.closing = true →
        op = .dispose ∧ flow.cleanupMode = .disposeThenTerminate) :
      Accepts flow (.clientFrame ⟨id, op⟩)
        { flow with
          lastId := id
          disposeSent := flow.disposeSent || op = .dispose
          ordinaryPending := some id
          requests := flow.requests ++ [⟨id, op⟩] }
  | acknowledged (response : WorkerResponse) (request : WorkerRequest) (b : Bool)
      (flow' : WorkerFlow)
      (hfind : flow.requests.find? (fun r => r.id = response.id) = some request)
      (hcancel : flow.cancelPending = some response.id) (hidle : flow.ordinaryPending = none)
      (hanswer : { flow with
        cancelPending := none
        requests := flow.requests.filter (fun r => r.id ≠ response.id) }.answer request.op
          response.reply = (.ok b, flow')) :
      Accepts flow (.workerFrame response) flow'
  | answered (response : WorkerResponse) (request : WorkerRequest) (b : Bool)
      (flow' : WorkerFlow)
      (hfind : flow.requests.find? (fun r => r.id = response.id) = some request)
      (hcancel : flow.cancelPending ≠ some response.id)
      (hopen : flow.ordinaryPending = some response.id)
      (hanswer : { flow with
        ordinaryPending := none
        requests := flow.requests.filter (fun r => r.id ≠ response.id) }.answer request.op
          response.reply = (.ok b, flow')) :
      Accepts flow (.workerFrame response) flow'

variable {flow : WorkerFlow}

/-- What passes the closing checks. -/
theorem closingPermits_eq_ok {op : WorkerOp}
    (h : flow.closingPermits op = .ok ()) (hop : op.isCancel = false) :
    op = .dispose ∧ flow.cleanupMode = .disposeThenTerminate := by
  unfold closingPermits at h
  split at h
  · cases hop
  · split at h
    · cases h
    · next hmode => exact ⟨rfl, not_not.mp hmode⟩
  · cases h

variable {flow flow' : WorkerFlow}

theorem accepts_of_enter {request : WorkerRequest}
    (hid : flow.lastId < request.id)
    (hclosing : flow.closing = true → request.op.isCancel = false →
      request.op = .dispose ∧ flow.cleanupMode = .disposeThenTerminate)
    (h : { flow with lastId := request.id }.enter request = .ok flow') :
    Accepts flow (.clientFrame request) flow' := by
  obtain ⟨id, op⟩ := request
  unfold enter at h
  split at h
  · next target hop =>
    cases hop
    split at h
    · cases h
    · next hchecks =>
      cases h
      rw [not_or, not_not, not_not] at hchecks
      exact .cancel id target hid hchecks.1 hchecks.2
  · next hnot =>
    have hop : op.isCancel = false := by
      cases op with
      | cancel target => exact absurd rfl (hnot target)
      | _ => rfl
    split at h
    · cases h
    · next hfree =>
      split at h
      · cases h
      · next hpermits =>
        split at h
        · cases h
        · next honce =>
          cases h
          refine .ordinary id op hid hop (not_not.mp hfree) hpermits ?_ (hclosing · hop)
          intro hdispose
          exact Bool.eq_false_iff.mpr fun hsent => honce ⟨hdispose, hsent⟩

theorem accepts_of_clientFrame {request : WorkerRequest}
    (h : flow.clientFrame request = (.ok (), flow')) :
    Accepts flow (.clientFrame request) flow' := by
  unfold clientFrame at h
  split at h
  · cases h
  · next hid =>
    split at h
    · next hadmit =>
      cases h
      refine accepts_of_enter (by omega) ?_ (admit_eq_ok hadmit)
      intro hclosing hop
      -- The closing checks were made before the request was entered.
      unfold admitFrame at hadmit
      rw [if_pos hclosing] at hadmit
      split at hadmit
      · cases hadmit
      · next hpermits => exact closingPermits_eq_ok hpermits hop
    · cases h

theorem accepts_of_workerFrame {response : WorkerResponse} {b : Bool}
    (h : flow.workerFrame response = (.ok b, flow')) :
    Accepts flow (.workerFrame response) flow' := by
  unfold workerFrame at h
  split at h
  · cases h
  · next request hfind =>
    by_cases hcancel : flow.cancelPending = some response.id
    · by_cases hidle : flow.ordinaryPending = none
      · have hslot : flow.correlate response.id = .ok { flow with cancelPending := none } := by
          rw [correlate, if_pos hcancel, if_neg (not_not.mpr hidle)]
        rw [hslot] at h
        exact .acknowledged response request b flow' hfind hcancel hidle h
      · rw [correlate, if_pos hcancel, if_pos hidle] at h
        cases h
    · by_cases hopen : flow.ordinaryPending = some response.id
      · have hslot : flow.correlate response.id = .ok { flow with ordinaryPending := none } := by
          rw [correlate, if_neg hcancel, if_pos hopen]
        rw [hslot] at h
        exact .answered response request b flow' hfind hcancel hopen h
      · rw [correlate, if_neg hcancel, if_neg hopen] at h
        cases h

/-- A call that does not raise is accepted. -/
theorem accepts_of_call {c : FlowCall}
    (h : flow.call c = some flow') : Accepts flow c flow' := by
  cases c with
  | clientFrame request =>
    simp only [call] at h
    split at h
    · next heq =>
      cases h
      exact accepts_of_clientFrame heq
    · cases h
  | workerFrame response =>
    simp only [call] at h
    split at h
    · next heq =>
      cases h
      exact accepts_of_workerFrame heq
    · cases h
  | beginClosing =>
    cases h
    exact .closing

/-- An answer changes the lifecycle and what is known of a failed disposal. -/
theorem answer_eq (flow : WorkerFlow) (op : WorkerOp) (reply : WorkerReply) :
    ∃ lifecycle failure, (flow.answer op reply).2 =
      { flow with lifecycle := lifecycle, cooperativeFailure := failure } := by
  unfold answer
  repeat' split
  all_goals exact ⟨_, _, rfl⟩

/-! ### The books -/

/-- The books agree with the pending slots: what the slots name is on the
    books, each request in its own slot, the open one sent in a lifecycle that
    is still the present one. -/
structure Books (flow : WorkerFlow) : Prop where
  keys : ∀ id, id ∈ flow.requests.map (·.id) ↔
    flow.ordinaryPending = some id ∨ flow.cancelPending = some id
  sorted : flow.requests.Pairwise (·.id < ·.id)
  fresh : ∀ request ∈ flow.requests, request.id ≤ flow.lastId
  cancel : ∀ request ∈ flow.requests, flow.cancelPending = some request.id →
    request.op.isCancel = true
  ordinary : ∀ request ∈ flow.requests, flow.ordinaryPending = some request.id →
    request.op.isCancel = false ∧ flow.lifecyclePermits request.op = .ok ()

theorem books_initial : Books {} := by
  constructor <;> simp

/-- A slot names an identifier that was seen. -/
theorem Books.le_lastId (h : flow.Books) {id : Nat}
    (hslot : flow.ordinaryPending = some id ∨ flow.cancelPending = some id) :
    id ≤ flow.lastId := by
  obtain ⟨request, hrequest, rfl⟩ := mem_map.mp ((h.keys id).mpr hslot)
  exact h.fresh request hrequest

/-- A new request goes to the end of the books. -/
theorem Books.sorted_append (h : flow.Books) {request : WorkerRequest}
    (hid : flow.lastId < request.id) :
    (flow.requests ++ [request]).Pairwise (·.id < ·.id) := by
  rw [pairwise_append]
  refine ⟨h.sorted, pairwise_singleton _ _, ?_⟩
  intro r hr r' hr'
  rw [mem_singleton.mp hr']
  exact Nat.lt_of_le_of_lt (h.fresh r hr) hid

theorem Books.fresh_append (h : flow.Books) {request : WorkerRequest}
    (hid : flow.lastId < request.id) :
    ∀ r ∈ flow.requests ++ [request], r.id ≤ request.id := by
  intro r hr
  rcases mem_append.mp hr with hr | hr
  · exact Nat.le_of_lt (Nat.lt_of_le_of_lt (h.fresh r hr) hid)
  · exact Nat.le_of_eq (by rw [mem_singleton.mp hr])

/-- An accepted call keeps the books. -/
theorem Books.step {c : FlowCall} (h : flow.Books)
    (hstep : Accepts flow c flow') : flow'.Books := by
  cases hstep with
  | closing => exact ⟨h.keys, h.sorted, h.fresh, h.cancel, h.ordinary⟩
  | cancel id target hid hopen hfree =>
    refine ⟨?_, h.sorted_append hid, h.fresh_append hid, ?_, ?_⟩
    · intro id'
      rw [map_append, mem_append, h.keys id', hfree]
      simp [eq_comm]
    · intro request hrequest hslot
      rcases mem_append.mp hrequest with hold | hnew
      · have hle := h.fresh request hold
        cases hslot
        omega
      · rw [mem_singleton.mp hnew]
        rfl
    · intro request hrequest hslot
      rcases mem_append.mp hrequest with hold | hnew
      · exact h.ordinary request hold hslot
      · -- The open request was seen before the cancellation was numbered.
        rw [mem_singleton.mp hnew] at hslot
        have hle := h.le_lastId (.inl hslot)
        dsimp only at hle
        omega
  | ordinary id op hid hop hfree hpermits honce hclosing =>
    refine ⟨?_, h.sorted_append hid, h.fresh_append hid, ?_, ?_⟩
    · intro id'
      rw [map_append, mem_append, h.keys id', hfree]
      simp [eq_comm, or_comm]
    · intro request hrequest hslot
      rcases mem_append.mp hrequest with hold | hnew
      · exact h.cancel request hold hslot
      · rw [mem_singleton.mp hnew] at hslot
        have hle := h.le_lastId (.inr hslot)
        dsimp only at hle
        omega
    · intro request hrequest hslot
      rcases mem_append.mp hrequest with hold | hnew
      · have hle := h.fresh request hold
        cases hslot
        omega
      · rw [mem_singleton.mp hnew]
        exact ⟨hop, hpermits⟩
  | acknowledged response request b flow' hfind hcancel hidle hanswer =>
    obtain ⟨lifecycle, failure, heq⟩ := answer_eq { flow with
      cancelPending := none
      requests := flow.requests.filter (fun r => r.id ≠ response.id) } request.op response.reply
    rw [hanswer] at heq
    subst heq
    refine ⟨?_, h.sorted.filter _, fun r hr => h.fresh r (mem_of_mem_filter hr), ?_, ?_⟩
    · intro id
      have := h.keys id
      simp only [mem_map, mem_filter, decide_eq_true_eq] at this ⊢
      constructor
      · rintro ⟨r, ⟨hr, hne⟩, rfl⟩
        rcases this.mp ⟨r, hr, rfl⟩ with hslot | hslot
        · exact .inl hslot
        · exact absurd (Option.some.inj (hslot.symm.trans hcancel)) hne
      · rintro (hslot | hslot)
        · cases hidle.symm.trans hslot
        · cases hslot
    · intro r hr hslot
      cases hslot
    · intro r hr hslot
      cases hidle.symm.trans hslot
  | answered response request b flow' hfind hcancel hopen hanswer =>
    obtain ⟨lifecycle, failure, heq⟩ := answer_eq { flow with
      ordinaryPending := none
      requests := flow.requests.filter (fun r => r.id ≠ response.id) } request.op response.reply
    rw [hanswer] at heq
    subst heq
    refine ⟨?_, h.sorted.filter _, fun r hr => h.fresh r (mem_of_mem_filter hr), ?_, ?_⟩
    · intro id
      have := h.keys id
      simp only [mem_map, mem_filter, decide_eq_true_eq] at this ⊢
      constructor
      · rintro ⟨r, ⟨hr, hne⟩, rfl⟩
        rcases this.mp ⟨r, hr, rfl⟩ with hslot | hslot
        · exact absurd (Option.some.inj (hslot.symm.trans hopen)) hne
        · exact .inr hslot
      · rintro (hslot | hslot)
        · cases hslot
        · obtain ⟨r, hr, hid⟩ := this.mpr (.inr hslot)
          exact ⟨r, ⟨hr, fun heq => hcancel (by rw [hslot, ← hid, heq])⟩, hid⟩
    · exact fun r hr hslot => h.cancel r (mem_of_mem_filter hr) hslot
    · intro r hr hslot
      cases hslot

/-- An invariant of a sequence and the flow it leaves holds after every
    sequence if every accepted call keeps it. -/
theorem run_induction {P : List FlowCall → WorkerFlow → Prop} (hnil : P [] {})
    (hstep : ∀ calls c flow flow', run calls = some flow → run (calls ++ [c]) = some flow' →
      P calls flow → Accepts flow c flow' → P (calls ++ [c]) flow') :
    ∀ {calls flow}, run calls = some flow → P calls flow := by
  intro calls
  induction calls using reverseRecOn with
  | nil =>
    intro flow hrun
    cases hrun
    exact hnil
  | append_singleton calls c ih =>
    intro flow' hrun
    obtain ⟨flow, hbefore, hcall⟩ := run_concat.mp hrun
    exact hstep calls c flow flow' hbefore hrun (ih hbefore) (accepts_of_call hcall)

theorem books_of_run (h : run calls = some flow) :
    flow.Books :=
  run_induction (P := fun _ flow => flow.Books) books_initial
    (fun _ _ _ _ _ _ hbooks hstep => hbooks.step hstep) h

/-! ### The history of a sequence -/

/-- What the flow remembers of a sequence of calls. -/
structure Remembers (calls : List FlowCall) (flow : WorkerFlow) : Prop where
  requests : flow.requests = outstanding calls
  increasing : (requestsOf calls).Pairwise (·.id < ·.id)
  lastId : ∀ request ∈ requestsOf calls, request.id ≤ flow.lastId
  answered : ∀ id ∈ answeredIds calls, id ≤ flow.lastId
  once : (answeredIds calls).Nodup
  cancelled : (∃ request ∈ requestsOf calls, request.op.isCancel = true) →
    flow.cancelledEver = true
  disposed : (requestsOf calls).countP (·.op = .dispose) = if flow.disposeSent then 1 else 0
  closing : .beginClosing ∈ calls → flow.closing = true

theorem requestsOf_append (calls calls' : List FlowCall) :
    requestsOf (calls ++ calls') = requestsOf calls ++ requestsOf calls' :=
  filterMap_append

theorem answeredIds_append (calls calls' : List FlowCall) :
    answeredIds (calls ++ calls') = answeredIds calls ++ answeredIds calls' := by
  rw [answeredIds, responsesOf, filterMap_append, map_append]
  rfl

/-- A new request is outstanding, and the others are as they were. -/
theorem outstanding_request {request : WorkerRequest}
    (h : request.id ∉ answeredIds calls) :
    outstanding (calls ++ [.clientFrame request]) = outstanding calls ++ [request] := by
  have hids : answeredIds (calls ++ [.clientFrame request]) = answeredIds calls := by
    rw [answeredIds_append]
    exact append_nil _
  have hrequests : requestsOf (calls ++ [.clientFrame request]) = requestsOf calls ++ [request] :=
    requestsOf_append calls [.clientFrame request]
  rw [outstanding, hrequests, hids, filter_append, filter_singleton, decide_eq_true h]
  rfl

/-- A response takes the request it answers off the list. -/
theorem outstanding_response (calls : List FlowCall) (response : WorkerResponse) :
    outstanding (calls ++ [.workerFrame response]) =
      (outstanding calls).filter fun request => request.id ≠ response.id := by
  have hids : answeredIds (calls ++ [.workerFrame response]) = answeredIds calls ++ [response.id] :=
    answeredIds_append calls [.workerFrame response]
  have hrequests : requestsOf (calls ++ [.workerFrame response]) = requestsOf calls := by
    rw [requestsOf_append]
    exact append_nil _
  rw [outstanding, hids, hrequests, outstanding, filter_filter]
  apply filter_congr
  intro request _
  simp only [mem_append, mem_singleton, not_or, Bool.decide_and]
  exact Bool.and_comm _ _

/-- What every accepted request changes. -/
theorem Accepts.request {request : WorkerRequest}
    (h : Accepts flow (.clientFrame request) flow') :
    flow.lastId < request.id ∧ flow'.lastId = request.id ∧
      flow'.requests = flow.requests ++ [request] ∧ flow'.closing = flow.closing ∧
      flow'.cancelledEver = (flow.cancelledEver || request.op.isCancel) ∧
      flow'.disposeSent = (flow.disposeSent || request.op = .dispose) ∧
      (request.op = .dispose → flow.disposeSent = false) := by
  cases h with
  | cancel id target hid hopen hfree =>
    exact ⟨hid, rfl, rfl, rfl, (Bool.or_true _).symm, (Bool.or_false _).symm, nofun⟩
  | ordinary id op hid hop hfree hpermits honce hclosing =>
    exact ⟨hid, rfl, rfl, rfl, by rw [hop, Bool.or_false], rfl, honce⟩

/-- What every accepted response changes. -/
theorem Accepts.response {response : WorkerResponse}
    (h : Accepts flow (.workerFrame response) flow') :
    (∃ request ∈ flow.requests, request.id = response.id) ∧
      flow'.requests = flow.requests.filter (fun r => r.id ≠ response.id) ∧
      flow'.lastId = flow.lastId ∧ flow'.closing = flow.closing ∧
      flow'.cancelledEver = flow.cancelledEver ∧ flow'.disposeSent = flow.disposeSent := by
  cases h with
  | acknowledged _ request b _ hfind hcancel hidle hanswer
  | answered _ request b _ hfind hcancel hopen hanswer =>
    obtain ⟨lifecycle, failure, heq⟩ := answer_eq _ _ _
    rw [hanswer] at heq
    subst heq
    refine ⟨⟨request, mem_of_find?_eq_some hfind, ?_⟩, rfl, rfl, rfl, rfl, rfl⟩
    simpa using find?_some hfind

theorem remembers_initial : Remembers [] {} := by
  constructor <;> simp [outstanding, requestsOf, answeredIds, responsesOf]

/-- An accepted request is remembered. -/
theorem Remembers.request
    {request : WorkerRequest} (h : Remembers calls flow)
    (hstep : Accepts flow (.clientFrame request) flow') :
    Remembers (calls ++ [.clientFrame request]) flow' := by
  obtain ⟨hid, hlast, hbooks, hclosing, hcancelled, hsent, honce⟩ := hstep.request
  have hrequests : requestsOf (calls ++ [.clientFrame request]) = requestsOf calls ++ [request] :=
    requestsOf_append calls [.clientFrame request]
  have hids : answeredIds (calls ++ [.clientFrame request]) = answeredIds calls := by
    rw [answeredIds_append]
    exact append_nil _
  have hnew : request.id ∉ answeredIds calls := fun hmem =>
    absurd (h.answered request.id hmem) (Nat.not_le.mpr hid)
  constructor
  case requests => rw [hbooks, h.requests, outstanding_request hnew]
  case increasing =>
    rw [hrequests, pairwise_append]
    refine ⟨h.increasing, pairwise_singleton _ _, ?_⟩
    intro r hr r' hr'
    rw [mem_singleton.mp hr']
    exact Nat.lt_of_le_of_lt (h.lastId r hr) hid
  case lastId =>
    intro r hr
    rw [hrequests, mem_append, mem_singleton] at hr
    rcases hr with hr | rfl
    · have := h.lastId r hr
      omega
    · omega
  case answered =>
    intro id hmem
    rw [hids] at hmem
    have := h.answered id hmem
    omega
  case once =>
    rw [hids]
    exact h.once
  case cancelled =>
    rintro ⟨r, hr, hop⟩
    rw [hrequests, mem_append, mem_singleton] at hr
    rw [hcancelled]
    rcases hr with hr | rfl
    · rw [h.cancelled ⟨r, hr, hop⟩, Bool.true_or]
    · rw [hop, Bool.or_true]
  case disposed =>
    rw [hrequests, countP_append, h.disposed, hsent, countP_singleton]
    by_cases hop : request.op = .dispose
    · rw [honce hop, hop]
      rfl
    · simp [hop]
  case closing =>
    intro hmem
    rw [hclosing]
    rcases mem_append.mp hmem with hmem | hmem
    · exact h.closing hmem
    · cases mem_singleton.mp hmem

/-- An accepted response answers a request that was outstanding. -/
theorem Remembers.response
    {response : WorkerResponse} (h : Remembers calls flow)
    (hstep : Accepts flow (.workerFrame response) flow') :
    Remembers (calls ++ [.workerFrame response]) flow' := by
  obtain ⟨⟨request, hmem, hid⟩, hbooks, hlast, hclosing, hcancelled, hsent⟩ := hstep.response
  have hrequests : requestsOf (calls ++ [.workerFrame response]) = requestsOf calls := by
    rw [requestsOf_append]
    exact append_nil _
  have hids : answeredIds (calls ++ [.workerFrame response]) = answeredIds calls ++ [response.id] :=
    answeredIds_append calls [.workerFrame response]
  rw [h.requests, outstanding, mem_filter, decide_eq_true_eq, hid] at hmem
  constructor
  case requests => rw [hbooks, h.requests, outstanding_response]
  case increasing => rw [hrequests]; exact h.increasing
  case lastId => rw [hrequests, hlast]; exact h.lastId
  case answered =>
    intro id hanswered
    rw [hids, mem_append, mem_singleton] at hanswered
    rw [hlast]
    rcases hanswered with hanswered | rfl
    · exact h.answered id hanswered
    · rw [← hid]
      exact h.lastId request hmem.1
  case once =>
    rw [hids]
    exact nodup_append.mpr ⟨h.once, nodup_singleton _, fun id hanswered id' hid' heq =>
      hmem.2 (by rw [← mem_singleton.mp hid', ← heq]; exact hanswered)⟩
  case cancelled => rw [hrequests, hcancelled]; exact h.cancelled
  case disposed => rw [hrequests, hsent]; exact h.disposed
  case closing =>
    intro hbegun
    rw [hclosing]
    rcases mem_append.mp hbegun with hbegun | hbegun
    · exact h.closing hbegun
    · cases mem_singleton.mp hbegun

theorem remembers_of_run (h : run calls = some flow) :
    Remembers calls flow := by
  refine run_induction remembers_initial ?_ h
  intro calls c flow flow' _ _ hcalls hstep
  cases c with
  | clientFrame request => exact hcalls.request hstep
  | workerFrame response => exact hcalls.response hstep
  | beginClosing =>
    cases hstep
    have hrequests : requestsOf (calls ++ [.beginClosing]) = requestsOf calls := by
      rw [requestsOf_append]
      exact append_nil _
    have hids : answeredIds (calls ++ [.beginClosing]) = answeredIds calls := by
      rw [answeredIds_append]
      exact append_nil _
    obtain ⟨hbooks, hincreasing, hlast, hanswered, honce, hcancelled, hdisposed, -⟩ := hcalls
    constructor
    case requests => rw [outstanding, hrequests, hids]; exact hbooks
    case closing => exact fun _ => rfl
    all_goals simp only [hrequests, hids]; assumption

/-! ### What the flow enforces -/

/-- At most one request on the books is no cancellation, and at most one is. -/
theorem Books.one_each (h : flow.Books) (cancel : Bool) :
    (flow.requests.filter (·.op.isCancel = cancel)).length ≤ 1 := by
  -- Two of a kind would sit in the same slot, and so have the same identifier.
  have hsame : ∀ r ∈ flow.requests.filter (·.op.isCancel = cancel),
      ∀ r' ∈ flow.requests.filter (·.op.isCancel = cancel), r.id = r'.id := by
    intro r hr r' hr'
    simp only [mem_filter, decide_eq_true_eq] at hr hr'
    have hslot := (h.keys r.id).mp (mem_map_of_mem hr.1)
    have hslot' := (h.keys r'.id).mp (mem_map_of_mem hr'.1)
    have hr1 := h.cancel r hr.1
    have hr2 := h.ordinary r hr.1
    have hr1' := h.cancel r' hr'.1
    have hr2' := h.ordinary r' hr'.1
    rcases hslot with hslot | hslot <;> rcases hslot' with hslot' | hslot'
    · exact Option.some.inj (hslot.symm.trans hslot')
    · have := (hr2 hslot).1
      have := hr1' hslot'
      simp_all
    · have := hr1 hslot
      have := (hr2' hslot').1
      simp_all
    · exact Option.some.inj (hslot.symm.trans hslot')
  have hsorted := h.sorted.filter (·.op.isCancel = cancel)
  rcases hlist : flow.requests.filter (·.op.isCancel = cancel) with _ | ⟨r, _ | ⟨r', rest⟩⟩
  · rw [hlist]
    exact Nat.zero_le _
  · rw [hlist]
    exact Nat.le_refl _
  · rw [hlist] at hsame hsorted
    have hlt := rel_of_pairwise_cons hsorted (mem_cons_self)
    have heq := hsame r mem_cons_self r' (mem_cons_of_mem _ mem_cons_self)
    omega

/-- A quiescent flow that was never cancelled. -/
theorem cleanupMode_eq (h : flow.cleanupMode = .disposeThenTerminate) :
    flow.ordinaryPending = none ∧ flow.cancelPending = none ∧ flow.cancelledEver = false := by
  unfold cleanupMode at h
  split at h
  · next hquiet => exact ⟨hquiet.1, hquiet.2.1, hquiet.2.2.1⟩
  · cases h

/-- What a closing flow still accepts. -/
theorem Accepts.closing_request {request : WorkerRequest}
    (h : Accepts flow (.clientFrame request) flow') (hclosing : flow.closing = true) :
    (∃ target, request.op = .cancel target ∧ flow.ordinaryPending = some target) ∨
      (request.op = .dispose ∧ flow.ordinaryPending = none ∧ flow.cancelPending = none ∧
        flow.cancelledEver = false) := by
  cases h with
  | cancel id target hid hopen hfree => exact .inl ⟨target, rfl, hopen⟩
  | ordinary id op hid hop hfree hpermits honce hclosed =>
    obtain ⟨hdispose, hmode⟩ := hclosed hclosing
    exact .inr ⟨hdispose, cleanupMode_eq hmode⟩

/-- After every sequence of accepted calls the requests on the books are those
    that the two slots name and those that were not answered, at most one of
    them an ordinary request and at most one a cancellation. Identifiers have
    increased, no request was answered twice and at most one was a disposal.
    After closing began only a cancellation of the open call was accepted, or a
    disposal while nothing was open and nothing had ever been cancelled. -/
theorem correlation (calls : List FlowCall) (flow : WorkerFlow) (h : run calls = some flow) :
    (∀ id, id ∈ flow.requests.map (·.id) ↔
        flow.ordinaryPending = some id ∨ flow.cancelPending = some id) ∧
      (requestsOf calls).Pairwise (·.id < ·.id) ∧
      flow.requests = outstanding calls ∧
      ((outstanding calls).filter (·.op.isCancel = false)).length ≤ 1 ∧
      ((outstanding calls).filter (·.op.isCancel = true)).length ≤ 1 ∧
      (∀ request ∈ requestsOf calls,
        (responsesOf calls).countP (fun response => response.id = request.id) ≤ 1) ∧
      (requestsOf calls).countP (·.op = .dispose) ≤ 1 ∧
      ∀ before request later, calls = before ++ .clientFrame request :: later →
        .beginClosing ∈ before → ∃ flow', run before = some flow' ∧
          ((∃ target, request.op = .cancel target ∧ flow'.ordinaryPending = some target) ∨
            (request.op = .dispose ∧ flow'.ordinaryPending = none ∧ flow'.cancelPending = none ∧
              ∀ r ∈ requestsOf before, r.op.isCancel = false)) := by
  have hbooks := books_of_run h
  have hremembers := remembers_of_run h
  refine ⟨hbooks.keys, hremembers.increasing, hremembers.requests, ?_, ?_, ?_, ?_, ?_⟩
  · rw [← hremembers.requests]
    exact hbooks.one_each false
  · rw [← hremembers.requests]
    exact hbooks.one_each true
  · intro request _
    have hcount := List.nodup_iff_count_le_one.mp hremembers.once request.id
    rw [answeredIds, List.count, List.countP_map] at hcount
    exact hcount
  · rw [hremembers.disposed]
    split <;> omega
  · intro before request later hcalls hbegun
    rw [hcalls, List.append_cons] at h
    obtain ⟨flow'', hrun⟩ := run_of_append h
    obtain ⟨flow', hbefore, hcall⟩ := run_concat.mp hrun
    have hmemory := remembers_of_run hbefore
    refine ⟨flow', hbefore, ?_⟩
    rcases (accepts_of_call hcall).closing_request (hmemory.closing hbegun) with
      hcancel | ⟨hdispose, hidle, hfree, hnever⟩
    · exact .inl hcancel
    · refine .inr ⟨hdispose, hidle, hfree, fun r hr => ?_⟩
      rw [Bool.eq_false_iff]
      intro hop
      rw [hmemory.cancelled ⟨r, hr, hop⟩] at hnever
      cases hnever

/-- A worker is created. -/
def handshake : List FlowCall :=
  [.clientFrame ⟨1, .hello "digest" "node-v1"⟩,
    .workerFrame ⟨1, .ok (.identity "digest" "node-v1")⟩,
    .clientFrame ⟨2, .create⟩, .workerFrame ⟨2, .ok .null⟩]

/-- An invocation is cancelled after closing began: both are outstanding. -/
theorem correlation_of_cancelled_invocation :
    run (handshake ++ [.clientFrame ⟨3, .invoke⟩, .beginClosing, .clientFrame ⟨4, .cancel 3⟩]) =
        some { lastId := 4, requests := [⟨3, .invoke⟩, ⟨4, .cancel 3⟩], ordinaryPending := some 3,
               cancelPending := some 4, lifecycle := .created, closing := true,
               cancelledEver := true } ∧
      outstanding (handshake ++
        [.clientFrame ⟨3, .invoke⟩, .beginClosing, .clientFrame ⟨4, .cancel 3⟩]) =
          [⟨3, .invoke⟩, ⟨4, .cancel 3⟩] := by
  have hrun : run (handshake ++
      [.clientFrame ⟨3, .invoke⟩, .beginClosing, .clientFrame ⟨4, .cancel 3⟩]) =
        some { lastId := 4, requests := [⟨3, .invoke⟩, ⟨4, .cancel 3⟩], ordinaryPending := some 3,
               cancelPending := some 4, lifecycle := .created, closing := true,
               cancelledEver := true } := by decide
  exact ⟨hrun, (correlation _ _ hrun).2.2.1.symm⟩

end WorkerFlow

end MirrorGate
