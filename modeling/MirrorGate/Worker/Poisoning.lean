import MirrorGate.Worker.Correlation

/-!
# Poisoned for Good

A failure poisons the worker and a disposal ends it, and nothing but disposal
is to follow. The flow keeps to this in the lifecycle it tracks. Each answer
sets that lifecycle, and the branch that sets it back to ready is shared by
invocations, observations and cancellations. The acknowledgement of a
cancellation comes after the answer of the call it cancelled, which has
poisoned the flow by then, so a successful acknowledgement revives the flow.
The same acknowledgement makes a flow ready that was never created, when the
handshake is what was cancelled.

`Revives` is that acknowledgement. Sequences without it are exactly those
in which poisoning is final.

## Main definitions

* `Lifecycle.Live`, `Lifecycle.Ended`: Open for calls, and over.
* `HasEnded`, `CreateConfirmed`: What has happened in a sequence.
* `Sticky`: Poisoning is final throughout a sequence.
* `Revives`: The acknowledgement of a cancellation that makes the flow ready.

## Theorems

* `Accepts.lifecycle`: What an accepted call does to the lifecycle.
* `sticky_iff`: Poisoning is final exactly when nothing revives.
-/

namespace MirrorGate

open List

/-- The worker is there and takes calls. -/
def Lifecycle.Live (lifecycle : Lifecycle) : Prop := lifecycle = .created ∨ lifecycle = .ready

instance (lifecycle : Lifecycle) : Decidable lifecycle.Live := inferInstanceAs (Decidable (_ ∨ _))

/-- The worker failed or was disposed of. -/
def Lifecycle.Ended (lifecycle : Lifecycle) : Prop :=
  lifecycle = .poisoned ∨ lifecycle = .disposed

instance (lifecycle : Lifecycle) : Decidable lifecycle.Ended := inferInstanceAs (Decidable (_ ∨ _))

theorem Lifecycle.not_live_of_ended {lifecycle : Lifecycle} (h : lifecycle.Ended) :
    ¬ lifecycle.Live := by
  rcases h with rfl | rfl <;> decide

/-- A lifecycle that is neither live nor over is one of the handshake. -/
theorem Lifecycle.handshaking_of_not {lifecycle : Lifecycle} (hlive : ¬ lifecycle.Live)
    (hended : ¬ lifecycle.Ended) : lifecycle.Handshaking := by
  cases lifecycle with
  | awaitHello => exact .inl rfl
  | awaitCreate => exact .inr rfl
  | created => exact absurd (.inl rfl) hlive
  | ready => exact absurd (.inr rfl) hlive
  | poisoned => exact absurd (.inl rfl) hended
  | disposed => exact absurd (.inr rfl) hended

def WorkerReply.isOk : WorkerReply → Bool
  | .ok _ => true
  | .failed _ => false

/-- The operation makes the worker or asks something of it. -/
def WorkerOp.isCall : WorkerOp → Bool
  | .create | .invoke | .observe => true
  | _ => false

namespace WorkerFlow

/-- The response acknowledges a cancellation, with success, to a flow that is
    not live. -/
def Revives (flow : WorkerFlow) (response : WorkerResponse) : Prop :=
  flow.cancelPending = some response.id ∧ response.reply.isOk = true ∧ ¬ flow.lifecycle.Live

instance (flow : WorkerFlow) (response : WorkerResponse) : Decidable (flow.Revives response) :=
  inferInstanceAs (Decidable (_ ∧ _ ∧ _))

/-- The lifecycle has been poisoned or disposed somewhere in the sequence. -/
def HasEnded (calls : List FlowCall) : Prop :=
  ∃ before, before <+: calls ∧ ∃ flow, run before = some flow ∧ flow.lifecycle.Ended

/-- A successful response to a create was accepted in the sequence. -/
def CreateConfirmed (calls : List FlowCall) : Prop :=
  ∃ before response, before ++ [.workerFrame response] <+: calls ∧
    ∃ flow, run before = some flow ∧ flow.Confirms response

/-- Poisoning is final throughout the sequence: afterwards the flow is not live
    again and takes no call, and it is live only after a confirmed creation. -/
structure Sticky (calls : List FlowCall) : Prop where
  final : ∀ before flow, before <+: calls → run before = some flow → HasEnded before →
    ¬ flow.lifecycle.Live
  refuses : ∀ before request, before ++ [.clientFrame request] <+: calls → HasEnded before →
    request.op.isCall = false
  confirmed : ∀ before flow, before <+: calls → run before = some flow → flow.lifecycle.Live →
    CreateConfirmed before

/-- Nothing in the sequence revives the flow. -/
def NeverRevives (calls : List FlowCall) : Prop :=
  ∀ before response flow, before ++ [.workerFrame response] <+: calls → run before = some flow →
    ¬ flow.Revives response

/-! ### Steps of the lifecycle -/

/-- What a call can do to the lifecycle. -/
inductive Turn (flow : WorkerFlow) : FlowCall → Lifecycle → Prop
  | same (c : FlowCall) : Turn flow c flow.lifecycle
  | greeted (response : WorkerResponse) (h : flow.lifecycle = .awaitHello) :
      Turn flow (.workerFrame response) .awaitCreate
  | created (response : WorkerResponse) (h : flow.lifecycle = .awaitCreate)
      (hconfirms : flow.Confirms response) : Turn flow (.workerFrame response) .created
  | ended (response : WorkerResponse) (lifecycle : Lifecycle) (h : lifecycle.Ended) :
      Turn flow (.workerFrame response) lifecycle
  | ready (response : WorkerResponse) (h : flow.lifecycle.Live) :
      Turn flow (.workerFrame response) .ready
  | revived (response : WorkerResponse) (h : flow.Revives response) :
      Turn flow (.workerFrame response) .ready

variable {flow flow' : WorkerFlow}

/-- The lifecycle that an answer to no call of the handshake sets. -/
theorem answer_lifecycle {op : WorkerOp} {reply : WorkerReply} {b : Bool}
    (h : flow.answer op reply = (.ok b, flow')) (hop : op.stage = none) :
    flow'.lifecycle.Ended ∨ (reply.isOk = true ∧ flow'.lifecycle = .ready) := by
  unfold answer at h
  split at h
  case h_1 | h_2 | h_3 | h_4 => cases hop
  case h_6 => cases h
  case h_5 =>
    cases h
    exact .inl (.inr rfl)
  case h_7 | h_8 =>
    cases h
    exact .inl (.inl rfl)
  case h_9 =>
    cases h
    exact .inr ⟨rfl, rfl⟩

/-- The lifecycle that an accepted answer to a call of the handshake sets. -/
theorem answer_stage {op : WorkerOp} {reply : WorkerReply} {b : Bool}
    {stage : Lifecycle} (h : flow.answer op reply = (.ok b, flow')) (hop : op.stage = some stage) :
    (stage = .awaitHello ∧ flow'.lifecycle = .awaitCreate) ∨
      (stage = .awaitCreate ∧ op = .create ∧ reply = .ok .null ∧ flow'.lifecycle = .created) := by
  unfold answer at h
  split at h
  case h_1 | h_4 | h_6 => cases h
  case h_2 =>
    split at h
    · cases h
      cases hop
      exact .inl ⟨rfl, rfl⟩
    · cases h
  case h_3 =>
    cases h
    cases hop
    exact .inr ⟨rfl, rfl, rfl, rfl⟩
  case h_5 | h_7 => cases hop
  case h_8 | h_9 =>
    cases op <;> simp_all [WorkerOp.stage]

variable {flow : WorkerFlow}

/-- An operation that needs the live lifecycle was permitted in it. -/
theorem live_of_lifecyclePermits {op : WorkerOp}
    (h : flow.lifecyclePermits op = .ok ()) (hop : op.stage = none) : flow.lifecycle.Live := by
  by_contra hdead
  rw [Lifecycle.Live, not_or] at hdead
  cases op <;> simp_all [lifecyclePermits, WorkerOp.stage]

variable {c : FlowCall}

/-- What an accepted call does to the lifecycle. -/
theorem Accepts.lifecycle (h : Accepts flow c flow')
    (hbooks : flow.Books) : Turn flow c flow'.lifecycle := by
  cases h with
  | closing | cancel | ordinary => exact .same _
  | acknowledged response request b flow' hfind hcancel hidle hanswer =>
    have hmem := mem_of_find?_eq_some hfind
    have hid : request.id = response.id := by simpa using find?_some hfind
    have hop : request.op.stage = none := by
      have := hbooks.cancel request hmem (hcancel.trans (congrArg some hid.symm))
      cases hrequest : request.op <;> simp_all [WorkerOp.isCancel, WorkerOp.stage]
    rcases answer_lifecycle hanswer hop with hended | ⟨hok, hready⟩
    · exact .ended response _ hended
    · rw [hready]
      by_cases hlive : flow.lifecycle.Live
      · exact .ready response hlive
      · exact .revived response ⟨hcancel, hok, hlive⟩
  | answered response request b flow' hfind hcancel hopen hanswer =>
    have hmem := mem_of_find?_eq_some hfind
    have hid : request.id = response.id := by simpa using find?_some hfind
    have hpermits := (hbooks.ordinary request hmem (hopen.trans (congrArg some hid.symm))).2
    cases hstage : request.op.stage with
    | none =>
      rcases answer_lifecycle hanswer hstage with hended | ⟨-, hready⟩
      · exact .ended response _ hended
      · rw [hready]
        exact .ready response (live_of_lifecyclePermits hpermits hstage)
    | some stage =>
      have hsent := lifecyclePermits_stage hpermits hstage
      rcases answer_stage hanswer hstage with ⟨rfl, hnext⟩ | ⟨rfl, hcreate, hnull, hnext⟩
      · rw [hnext]
        exact .greeted response hsent
      · rw [hnext]
        refine .created response hsent ⟨hnull, ?_⟩
        rw [hfind, Option.map_some, hcreate]

/-- Over is over, unless the call revives the flow. -/
theorem Turn.ended_of_ended {lifecycle : Lifecycle}
    (h : Turn flow c lifecycle) (hended : flow.lifecycle.Ended)
    (hnot : ∀ response, c = .workerFrame response → ¬ flow.Revives response) :
    lifecycle.Ended := by
  cases h with
  | same => exact hended
  | greeted _ hstage | created _ hstage =>
    rw [hstage] at hended
    rcases hended with h | h <;> cases h
  | ended _ _ h => exact h
  | ready _ hlive => exact absurd hlive (Lifecycle.not_live_of_ended hended)
  | revived response hrevives => exact absurd hrevives (hnot response rfl)

/-! ### Sequences -/

variable {calls : List FlowCall}

theorem HasEnded.concat {flow' : WorkerFlow}
    (h : HasEnded (calls ++ [c])) (hrun : run (calls ++ [c]) = some flow') :
    HasEnded calls ∨ flow'.lifecycle.Ended := by
  obtain ⟨before, hbegins, flow, hbefore, hended⟩ := h
  rcases prefix_concat_iff.mp hbegins with rfl | hbegins
  · cases hbefore.symm.trans hrun
    exact .inr hended
  · exact .inl ⟨before, hbegins, flow, hbefore, hended⟩

theorem CreateConfirmed.mono {calls calls' : List FlowCall} (h : CreateConfirmed calls)
    (hbegins : calls <+: calls') : CreateConfirmed calls' := by
  obtain ⟨before, response, hbefore, hconfirms⟩ := h
  exact ⟨before, response, hbefore.trans hbegins, hconfirms⟩

theorem CreateConfirmed.concat
    (h : CreateConfirmed (calls ++ [c])) (hrun : run calls = some flow) :
    CreateConfirmed calls ∨ ∃ response, c = .workerFrame response ∧ flow.Confirms response := by
  obtain ⟨before, response, hbegins, flow', hbefore, hconfirms⟩ := h
  rcases prefix_concat_iff.mp hbegins with heq | hbegins
  · obtain ⟨rfl, rfl⟩ := append_singleton_inj.mp heq
    cases hbefore.symm.trans hrun
    exact .inr ⟨response, rfl, hconfirms⟩
  · exact .inl ⟨before, response, hbegins, flow', hbefore, hconfirms⟩

theorem NeverRevives.mono {calls calls' : List FlowCall} (h : NeverRevives calls')
    (hbegins : calls <+: calls') : NeverRevives calls :=
  fun before response flow hbefore => h before response flow (hbefore.trans hbegins)

/-- Where nothing revives, over is over and live is confirmed. -/
theorem settled_of_run (hrun : run calls = some flow)
    (hnever : NeverRevives calls) :
    (HasEnded calls → flow.lifecycle.Ended) ∧ (flow.lifecycle.Live → CreateConfirmed calls) := by
  revert hnever
  apply run_induction (P := fun calls flow => NeverRevives calls →
    (HasEnded calls → flow.lifecycle.Ended) ∧ (flow.lifecycle.Live → CreateConfirmed calls))
    ?_ ?_ hrun
  · intro _
    refine ⟨?_, fun hlive => by rcases hlive with h | h <;> cases h⟩
    rintro ⟨before, hbegins, flow, hbefore, hended⟩
    cases prefix_nil.mp hbegins
    cases hbefore
    rcases hended with h | h <;> cases h
  · intro calls c flow flow' hbefore hafter ih hstep hnever
    obtain ⟨ihended, ihlive⟩ := ih (hnever.mono (prefix_append _ _))
    have hturn := hstep.lifecycle (books_of_run hbefore)
    have hnot : ∀ response, c = .workerFrame response → ¬ flow.Revives response := by
      rintro response rfl
      exact hnever calls response flow (prefix_refl _) hbefore
    constructor
    · intro hended
      rcases hended.concat hafter with hended | hended
      · exact hturn.ended_of_ended (ihended hended) hnot
      · exact hended
    · intro hlive
      -- Live it was before, or it is the confirmation that makes it live.
      generalize hlifecycle : flow'.lifecycle = lifecycle at hturn hlive
      cases hturn with
      | same => exact (ihlive hlive).mono (prefix_append _ _)
      | greeted => rcases hlive with h | h <;> cases h
      | created response _ hconfirms =>
        exact ⟨calls, response, prefix_refl _, flow, hbefore, hconfirms⟩
      | ended _ _ hended => exact absurd hlive (Lifecycle.not_live_of_ended hended)
      | ready _ hready => exact (ihlive hready).mono (prefix_append _ _)
      | revived response hrevives => exact absurd hrevives (hnot response rfl)

/-- A confirmed creation is past the handshake. -/
theorem not_handshaking_of_confirmed
    (hrun : run calls = some flow) (h : CreateConfirmed calls) : ¬ flow.lifecycle.Handshaking := by
  revert h
  apply run_induction (P := fun calls flow => CreateConfirmed calls → ¬ flow.lifecycle.Handshaking)
    ?_ ?_ hrun
  · rintro ⟨before, response, hbegins, -⟩
    simp at hbegins
  · intro calls c flow flow' hbefore hafter ih hstep hconfirmed
    have hturn := hstep.lifecycle (books_of_run hbefore)
    rcases hconfirmed.concat hbefore with hearlier | ⟨response, rfl, hconfirms⟩
    · have hpast := ih hearlier
      generalize flow'.lifecycle = lifecycle at hturn
      cases hturn with
      | same => exact hpast
      | greeted _ hstage => exact absurd (.inl hstage) hpast
      | created _ hstage => exact absurd (.inr hstage) hpast
      | ended _ _ hended => rcases hended with rfl | rfl <;> decide
      | ready | revived => decide
    · cases hstep with
      | acknowledged _ request b _ hfind hcancel hidle hanswer
      | answered _ request b _ hfind hcancel hopen hanswer =>
        have hcreate : request.op = .create := by
          have := hconfirms.2
          rw [hfind] at this
          exact Option.some.inj this
        rcases answer_stage hanswer (by rw [hcreate]; rfl) with ⟨h, -⟩ | ⟨-, -, -, hcreated⟩
        · cases h
        · rw [hcreated]
          decide

/-- The acknowledgement that revives makes the flow ready, and confirms nothing. -/
theorem Accepts.revived {response : WorkerResponse}
    (h : Accepts flow (.workerFrame response) flow') (hbooks : flow.Books)
    (hrevives : flow.Revives response) :
    flow'.lifecycle = .ready ∧ ¬ flow.Confirms response := by
  obtain ⟨hcancel, hok, -⟩ := hrevives
  cases h with
  | answered _ request b _ hfind hnot => exact absurd hcancel hnot
  | acknowledged _ request b _ hfind _ hidle hanswer =>
    have hid : request.id = response.id := by simpa using find?_some hfind
    have hop := hbooks.cancel request (mem_of_find?_eq_some hfind)
      (hcancel.trans (congrArg some hid.symm))
    obtain ⟨id, op⟩ := request
    obtain ⟨id', reply⟩ := response
    cases op <;> cases hop
    cases reply with
    | failed => cases hok
    | ok result =>
      cases hanswer
      refine ⟨rfl, fun hconfirms => ?_⟩
      have := hconfirms.2
      rw [hfind] at this
      cases this

/-- A call is not accepted by a flow that is over. -/
theorem Accepts.not_call_of_ended {request : WorkerRequest}
    (h : Accepts flow (.clientFrame request) flow') (hended : flow.lifecycle.Ended) :
    request.op.isCall = false := by
  cases h with
  | cancel => rfl
  | ordinary id op _ _ _ hpermits =>
    cases hstage : op.stage with
    | none =>
      exact absurd (live_of_lifecyclePermits hpermits hstage)
        (Lifecycle.not_live_of_ended hended)
    | some stage =>
      -- Only the handshake is left, which is not over yet.
      have hsent := lifecyclePermits_stage hpermits hstage
      rw [hsent] at hended
      cases op <;> cases hstage <;> rcases hended with h | h <;> cases h

/-- Poisoning is final throughout a sequence of accepted calls exactly when no
    cancellation is acknowledged with success while the flow is not live. -/
theorem sticky_iff (calls : List FlowCall) (flow : WorkerFlow) (h : run calls = some flow) :
    Sticky calls ↔ NeverRevives calls := by
  constructor
  · intro hsticky before response f hbegins hf hrevives
    obtain ⟨later, rfl⟩ := hbegins
    obtain ⟨g, hg⟩ := run_of_append h
    obtain ⟨f', hf', hcall⟩ := run_concat.mp hg
    cases hf'.symm.trans hf
    have hbooks := books_of_run hf
    obtain ⟨hready, hnot⟩ := (accepts_of_call hcall).revived hbooks hrevives
    have hlive : g.lifecycle.Live := .inr hready
    by_cases hended : f.lifecycle.Ended
    · have hhas : HasEnded (before ++ [.workerFrame response]) :=
        ⟨before, List.prefix_append _ _, f, hf, hended⟩
      exact hsticky.final _ g (List.prefix_append _ _) hg hhas hlive
    · have hearly := Lifecycle.handshaking_of_not hrevives.2.2 hended
      rcases (hsticky.confirmed _ g (List.prefix_append _ _) hg hlive).concat hf with
        hconfirmed | ⟨response', heq, hconfirms⟩
      · exact not_handshaking_of_confirmed hf hconfirmed hearly
      · cases heq
        exact hnot hconfirms
  · intro hnever
    refine ⟨?_, ?_, ?_⟩
    · intro before f hbegins hf hended
      exact Lifecycle.not_live_of_ended ((settled_of_run hf (hnever.mono hbegins)).1 hended)
    · intro before request hbegins hended
      obtain ⟨later, rfl⟩ := hbegins
      obtain ⟨g, hg⟩ := run_of_append h
      obtain ⟨f, hf, hcall⟩ := run_concat.mp hg
      have hbefore := hnever.mono ((List.prefix_append before [.clientFrame request]).trans
        (List.prefix_append _ _))
      exact (accepts_of_call hcall).not_call_of_ended ((settled_of_run hf hbefore).1 hended)
    · intro before f hbegins hf hlive
      exact (settled_of_run hf (hnever.mono hbegins)).2 hlive

/-- Where nothing is cancelled, nothing revives. -/
theorem neverRevives_of_uncancelled
    (h : ∀ request ∈ requestsOf calls, request.op.isCancel = false) : NeverRevives calls := by
  rintro before response flow ⟨later, rfl⟩ hrun ⟨hcancel, -, -⟩
  -- What the slot names is on the books, so it was among the requests.
  have hbooks := books_of_run hrun
  obtain ⟨request, hmem, hid⟩ := mem_map.mp ((hbooks.keys response.id).mpr (.inr hcancel))
  have hop := hbooks.cancel request hmem (hcancel.trans (congrArg some hid.symm))
  rw [(remembers_of_run hrun).requests, outstanding] at hmem
  have hnot := h request (by
    rw [requestsOf_append, requestsOf_append, append_assoc]
    exact mem_append_left _ (mem_of_mem_filter hmem))
  rw [hop] at hnot
  cases hnot

/-- A worker is created, is invoked and fails. -/
def failedInvocation : List FlowCall :=
  handshake ++ [.clientFrame ⟨3, .invoke⟩, .workerFrame ⟨3, .failed "Adapter operation failed"⟩]

/-- The failure is final. -/
theorem sticky_failedInvocation : Sticky failedInvocation := by
  have hrun : run failedInvocation =
      some { lastId := 3, lifecycle := .poisoned } := by decide
  exact (sticky_iff failedInvocation _ hrun).mpr (neverRevives_of_uncancelled (by decide))

/-- An invocation is cancelled and fails, the cancellation is acknowledged, and
    the worker is invoked again. -/
def cancelledInvocation : List FlowCall :=
  handshake ++ [.clientFrame ⟨3, .invoke⟩, .clientFrame ⟨4, .cancel 3⟩,
    .workerFrame ⟨3, .failed "Operation cancelled"⟩, .workerFrame ⟨4, .ok .null⟩,
    .clientFrame ⟨5, .invoke⟩]

/-- Every call of the sequence is accepted, and the poisoning is undone: the
    flow is ready after the acknowledgement and lets the next invocation pass. -/
theorem cancelledInvocation_not_sticky :
    (run cancelledInvocation).isSome = true ∧ ¬ Sticky cancelledInvocation := by
  refine ⟨by decide, fun hsticky => ?_⟩
  have hended : HasEnded (cancelledInvocation.take 8) := by
    refine ⟨cancelledInvocation.take 7, ⟨[.workerFrame ⟨4, .ok .null⟩], rfl⟩,
      { lastId := 4, requests := [⟨4, .cancel 3⟩], cancelPending := some 4,
        lifecycle := .poisoned, cancelledEver := true }, by decide, .inl rfl⟩
  have hcall := hsticky.refuses (cancelledInvocation.take 8) ⟨5, .invoke⟩ ⟨[], rfl⟩ hended
  cases hcall

end WorkerFlow

end MirrorGate
