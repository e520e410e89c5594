import MirrorGate.Control.Steps

/-!
# The Serving Thread

One thread of a connection reads requests and works for them, one after the
other, until it closes the controller. The action it is at is the only one of
the whole connection that belongs to a request or may come to one. So a
controller that is closed has nobody left who would work for a request, and
everything that is done for a request is done for the one that was admitted
last.

## Main definitions

* `Act.request`: The request an action works for.
* `Act.serves`: The actions of the serving thread that lead to a response, to
  the next request or to the close.
* `Serving`: The invariant of the serving thread.
* `Admitted`: Requests that something is done for have been admitted.
* `answering`, `flushing`, `opening`: Pieces of schedules.

## Theorems

* `Performs.more_serves`, `Performs.spawned_serves`: What an action leaves of
  this kind.
* `Performs.for`: An action leaves actions for its own request.
* `admitted_of_reaches`: The invariants hold in every reachable state.
-/

namespace MirrorGate.Control

open List Nat

/-- The request that an action works for. -/
def After.request : After → Option Request
  | .nothing => none
  | .reply r _ => some r

/-- The request that an action works for. -/
def Act.request : Act → Option Request
  | .reject r _ | .receive r | .enter r | .handle r | .respond r _ | .openBackend r _
  | .register r _ _ _ _ | .checkExpired r _ | .newOperation r _ _ | .authorizeBackend r _
  | .authorizeCommit r _ _ | .reserve r _ _ | .acquireCommit r _ | .armRelease r _ _ _
  | .releaseArmed r _ _ _ | .readOperation r _ _ | .admitAgent r _ | .startAgent r _ _
  | .spawnHost r _ _ | .cancelReply r _ => some r
  | .cleanup _ _ _ _ after _ => after.request
  | _ => none

/-- The action leads to a response, to the next request or to the close. -/
def Act.serves : Act → Bool
  | .serve | .close => true
  | a => a.request.isSome

namespace Controller

variable {c : Controller} {a : Act} {o : Outcome Controller Act}

attribute [local simp] Act.serves Act.request

@[simp] theorem put_closed (c : Controller) (s : Session) : (c.put s).closed = c.closed := rfl

theorem serves_acts (after : After) (id : Nat) :
    (after.acts id).countP Act.serves = after.request.toList.length := by
  rcases after with _ | ⟨r, _ | mode⟩ <;> rfl

theorem serves_missing (after : After) (id : Nat) :
    (after.missing id).countP Act.serves = after.request.toList.length := by
  rcases after with _ | ⟨r, mode⟩ <;> rfl

theorem serves_report (sid : String) (body : Option EventBody) :
    (report sid body).countP Act.serves = 0 := by
  cases body <;> rfl

theorem serves_thread (job : Job) : ∀ b ∈ thread job, b.serves = false := by
  cases job <;> simp [thread, Act.serves, Act.request]

theorem serves_close (c : Controller) :
    (c.sessions.map (fun s => internalCleanup s.sessionId .clientFailure true) ++ [Act.flush]).countP
      Act.serves = 0 := by
  refine countP_eq_zero.mpr fun b hb => ?_
  rcases mem_append.mp hb with hb | hb
  · obtain ⟨s, -, rfl⟩ := mem_map.mp hb
    exact Bool.false_ne_true
  · rw [mem_singleton] at hb
    subst hb
    exact Bool.false_ne_true

variable {s t : Session} {more : List Act}

theorem Section.serves (h : Section c s a t more) :
    more.countP Act.serves ≤ if a.serves then 1 else 0 := by
  cases h with
  | cancelReply h => split <;> exact le_refl _
  | @cleanupBegun _ _ _ after _ _ =>
    rw [countP_cons_of_neg (by simp [Act.serves, Act.request]), serves_acts]
    cases after <;> exact le_refl _
  | @cleanupJoined _ _ _ after _ id =>
    rw [serves_acts]
    cases after <;> exact le_refl _
  | @cleanupAdvertised _ _ _ after _ id op =>
    rw [countP_append, serves_acts]
    split <;> cases after <;> exact le_refl _
  | @cleanupMissing _ _ _ after _ id =>
    rw [serves_missing]
    cases after <;> exact le_refl _
  | finishEvent | closedEvent => exact le_of_eq (serves_report _ _)
  | finish | cleanupBackend | terminal | workerNotify => split <;> exact le_refl _
  | hostCheck h => rcases h with rfl | rfl <;> exact le_refl _
  | _ => exact le_refl _

theorem Access.serves (h : Access s a t more) :
    more.countP Act.serves ≤ if a.serves then 1 else 0 := by
  cases h with
  | closedCheck | cleanupWork | stopAuthoring => split <;> exact le_refl _
  | _ => exact le_refl _

theorem Passes.serves (h : Passes c a more) :
    more.countP Act.serves ≤ if a.serves then 1 else 0 := by
  cases h with
  | checkExpired h => rcases h with rfl | rfl <;> exact le_refl _
  | closeAgain => exact zero_le _
  | _ => exact le_refl _

/-- No thread that is started serves. -/
theorem Performs.spawned_serves (h : Performs c a o) :
    ∀ acts ∈ o.spawned, ∀ b ∈ acts, b.serves = false := by
  cases h with
  | @drainEnd jobs =>
    intro acts hacts b hb
    obtain ⟨job, -, rfl⟩ := mem_map.mp hacts
    exact serves_thread job b hb
  | @spawn job =>
    intro acts hacts b hb
    rw [mem_singleton] at hacts
    exact serves_thread job b (hacts ▸ hb)
  | reservation =>
    intro acts hacts b hb
    obtain ⟨l, -, rfl⟩ := mem_map.mp hacts
    obtain ⟨x, -, rfl⟩ := mem_map.mp hb
    rfl
  | _ => simp [streamed, Act.serves, Act.request]

/-- A serving action leaves at most one behind, others leave none. -/
theorem Performs.more_serves (h : Performs c a o) :
    o.more.countP Act.serves ≤ if a.serves then 1 else 0 := by
  cases h with
  | locked _ _ h => exact h.serves
  | unlocked _ h => exact h.serves
  | passes h => exact h.serves
  | answered _ hnext => rcases hnext with rfl | rfl <;> exact le_refl _
  | close => exact le_trans (le_of_eq (serves_close c)) (zero_le _)
  | @reservation s r act input o =>
    refine le_of_eq (countP_eq_zero.mpr fun b hb => ?_)
    rcases mem_append.mp hb with hb | hb <;> obtain ⟨x, -, rfl⟩ := mem_map.mp hb <;>
      exact Bool.false_ne_true
  | _ => exact le_refl _

/-- The controller is closed by one action, which leaves no serving action. -/
theorem Performs.closes (h : Performs c a o) (hclosed : o.shared.closed = true) :
    c.closed = true ∨ a = .close ∧ o.more.countP Act.serves = 0 := by
  cases h with
  | close => exact .inr ⟨rfl, serves_close c⟩
  | _ => exact .inl hclosed

/-- At most one action of the connection serves, and it is one of the first
    thread. None is left once the controller is closed. -/
def Serving (p : Pool Controller Act) : Prop :=
  ∃ first others, p.threads = first :: others ∧
    first.countP Act.serves + p.shared.closed.toNat ≤ 1 ∧
    ∀ acts ∈ others, ∀ a ∈ acts, a.serves = false

variable {C : Controller → Act → Input → Prop}

/-- One step keeps the invariant. -/
theorem Serving.step {p q : Pool Controller Act}
    (hp : Serving p) (h : Pool.Step perform C p q) : Serving q := by
  obtain ⟨first, others, hthreads, hcount, hothers⟩ := hp
  rcases h.first_or_other hthreads with ⟨a, tail, x, o, rfl, ho, -, rfl⟩ |
    ⟨before, a, tail, after, x, o, rfl, ho, -, rfl⟩
  · have hmore := (perform_performs ho).more_serves
    have hspawned := (perform_performs ho).spawned_serves
    rw [countP_cons] at hcount
    refine ⟨_, _, rfl, ?_, fun acts hacts => ?_⟩
    · rw [countP_append]
      dsimp only
      cases hclosed : o.shared.closed with
      | false =>
        rw [Bool.toNat_false]
        omega
      | true =>
        rw [Bool.toNat_true]
        rcases (perform_performs ho).closes hclosed with h | ⟨rfl, h⟩
        · rw [h, Bool.toNat_true] at hcount
          omega
        · -- The close was the one serving action.
          rw [if_pos (show Act.close.serves = true from rfl)] at hcount
          omega
    · rcases mem_append.mp hacts with hacts | hacts
      · exact hothers acts hacts
      · exact hspawned acts hacts
  · have hmore := (perform_performs ho).more_serves
    have hspawned := (perform_performs ho).spawned_serves
    have ha : a.serves = false := hothers (a :: tail) (by simp) a (by simp)
    rw [ha, if_neg Bool.false_ne_true] at hmore
    have hclosed : o.shared.closed.toNat ≤ p.shared.closed.toNat := by
      cases hclosed : o.shared.closed with
      | false => exact zero_le _
      | true =>
        rcases (perform_performs ho).closes hclosed with h | ⟨rfl, -⟩
        · rw [h]
        · cases ha
    refine ⟨_, _, rfl, by dsimp only; omega, fun acts hacts b hb => ?_⟩
    simp only [mem_append, mem_cons, or_assoc] at hacts
    rcases hacts with hacts | rfl | hacts | hacts
    · exact hothers acts (by simp [hacts]) b hb
    · rcases mem_append.mp hb with hb | hb
      · have hzero : o.more.countP Act.serves = 0 := by omega
        simpa using countP_eq_zero.mp hzero b hb
      · exact hothers (a :: tail) (by simp) b (by simp [hb])
    · exact hothers acts (by simp [hacts]) b hb
    · exact hspawned acts hacts b hb

/-! ### Requests -/

/-- The action works for a request that has been admitted. -/
def pastAdmission : Act → Bool
  | .receive _ | .reject _ _ => false
  | _ => true

/-- All of these actions work for the request, if for any, and past its
    admission. -/
def For (request : Option Request) (acts : List Act) : Prop :=
  ∀ b ∈ acts, pastAdmission b = true ∧ ∀ r, b.request = some r → request = some r

theorem for_nil (request : Option Request) : For request [] := by simp [For]

theorem for_cons {request : Option Request} {b : Act} {acts : List Act} :
    For request (b :: acts) ↔
      (pastAdmission b = true ∧ ∀ r, b.request = some r → request = some r) ∧
        For request acts :=
  forall_mem_cons

theorem for_append {request : Option Request} {acts acts' : List Act} :
    For request (acts ++ acts') ↔ For request acts ∧ For request acts' :=
  forall_mem_append

theorem for_acts (after : After) (id : Nat) : For after.request (after.acts id) := by
  rcases after with _ | ⟨r, _ | mode⟩ <;>
    simp [After.acts, After.request, Act.request, pastAdmission, for_cons, for_nil]

theorem for_missing (after : After) (id : Nat) : For after.request (after.missing id) := by
  rcases after with _ | ⟨r, mode⟩ <;>
    simp [After.missing, After.request, Act.request, pastAdmission, failure, for_cons, for_nil]

theorem for_report (request : Option Request) (sid : String) (body : Option EventBody) :
    For request (report sid body) := by
  cases body <;> simp [report, Act.request, pastAdmission, for_cons, for_nil]

theorem Section.for (h : Section c s a t more) :
    For a.request more := by
  cases h with
  | cleanupBegun => exact for_cons.mpr ⟨by simp [Act.request, pastAdmission], for_acts _ _⟩
  | cleanupJoined => exact for_acts _ _
  | cleanupAdvertised =>
    refine for_append.mpr ⟨?_, for_acts _ _⟩
    split <;> simp [for_cons, for_nil, Act.request, pastAdmission]
  | cleanupMissing => exact for_missing _ _
  | finishEvent | closedEvent => exact for_report _ _ _
  | hostCheck h => rcases h with rfl | rfl <;> simp [for_cons, for_nil, Act.request,
      pastAdmission, internalCleanup, After.request]
  | cancelReply | finish | cleanupBackend | terminal | workerNotify =>
    split <;> simp [for_cons, for_nil, Act.request, pastAdmission, internalCleanup, After.request]
  | _ => simp [for_cons, for_nil, Act.request, pastAdmission, failed, After.request]

theorem Access.for (h : Access s a t more) :
    For a.request more := by
  cases h with
  | closedCheck | cleanupWork | stopAuthoring => split <;> simp [for_cons, for_nil, Act.request, pastAdmission]
  | _ => simp [for_cons, for_nil, Act.request, pastAdmission, After.request]

theorem Passes.for (h : Passes c a more) (ha : a ≠ .serve) :
    For a.request more := by
  cases h with
  | request | invalid | hangup => exact absurd rfl ha
  | checkExpired h => rcases h with rfl | rfl <;> simp [for_cons, for_nil, Act.request,
      pastAdmission, internalCleanup, After.request]
  | _ => simp [for_cons, for_nil, Act.request, pastAdmission, internalCleanup, After.request, failed]

/-- An action leaves actions for its own request only, unless it reads the
    next one. -/
theorem Performs.for (h : Performs c a o) (ha : a ≠ .serve) : For a.request o.more := by
  cases h with
  | locked _ _ h => exact h.for
  | unlocked _ h => exact h.for
  | passes h => exact h.for ha
  | answered _ hnext =>
    rcases hnext with rfl | rfl <;> simp [for_cons, for_nil, Act.request, pastAdmission]
  | close =>
    refine for_append.mpr ⟨fun b hb => ?_, by simp [for_cons, for_nil, Act.request, pastAdmission]⟩
    obtain ⟨s, -, rfl⟩ := mem_map.mp hb
    simp [internalCleanup, Act.request, pastAdmission, After.request]
  | reservation =>
    refine for_append.mpr ⟨fun b hb => ?_, fun b hb => ?_⟩ <;>
      obtain ⟨x, -, rfl⟩ := mem_map.mp hb <;> simp [Act.request, pastAdmission]
  | _ => simp [for_cons, for_nil, Act.request, pastAdmission, streamed]

theorem Performs.lastRequestId_le (h : Performs c a o) :
    c.lastRequestId ≤ o.shared.lastRequestId := by
  cases h with
  | admitFatal h | admitted _ h | rejected h => exact le_of_lt h
  | _ => exact le_refl _

/-- What is done for a request, past its admission, is done for one that was
    there before or was admitted by this action. -/
theorem Performs.admits (h : Performs c a o) (hopen : c.closed = false) {b : Act}
    (hb : b ∈ o.more) {r : Request} (hr : b.request = some r) (hpast : pastAdmission b = true) :
    (a.request = some r ∧ pastAdmission a = true) ∨ r.id ≤ o.shared.lastRequestId := by
  by_cases hserve : a = .serve
  · subst hserve
    cases h with
    | locked _ _ h => cases h
    | unlocked _ h => cases h
    | passes h =>
      cases h <;> rw [mem_singleton] at hb <;> subst hb
      · cases hpast
      · cases hpast
      · cases hr
  · have hfor := (h.for hserve b hb).2 r hr
    cases hadmitted : pastAdmission a with
    | true => exact .inl ⟨hfor, rfl⟩
    | false =>
      right
      cases a <;> cases hadmitted <;> cases hfor
      · cases h with
        | locked _ _ h => cases h
        | unlocked _ h => cases h
        | passes h =>
          cases h
          rw [mem_singleton] at hb
          subst hb
          cases hr
        | rejected => exact le_refl _
      · cases h with
        | locked _ _ h => cases h
        | unlocked _ h => cases h
        | passes h =>
          cases h with
          | admitClosed hclosed =>
            rw [hopen] at hclosed
            cases hclosed
          | admitStale =>
            rw [mem_singleton] at hb
            subst hb
            cases hr
        | admitFatal | admitted => exact le_refl _

/-- Whatever is done or answered past admission is for a request up to the
    last one. -/
structure Admitted (p : Pool Controller Act) : Prop where
  pending : ∀ a ∈ p.pending, ∀ r, a.request = some r → pastAdmission a = true →
    r.id ≤ p.shared.lastRequestId
  stream : ∀ r reply, .response r reply ∈ p.shared.stream → r.id ≤ p.shared.lastRequestId
  rejects : ∀ r e, .reject r e ∈ p.pending → ∃ hello, r.op = .invalid hello

theorem Performs.rejects (h : Performs c a o) {r : Request} {e : ControlError}
    (hb : .reject r e ∈ o.more) : ∃ hello, r.op = .invalid hello := by
  by_cases hserve : a = .serve
  · subst hserve
    cases h with
    | locked _ _ h => cases h
    | unlocked _ h => cases h
    | passes h =>
      cases h <;> rw [mem_singleton] at hb <;> cases hb
      exact ⟨_, rfl⟩
  · cases (h.for hserve _ hb).1

/-- A serving action is only there while the controller is open. -/
theorem Serving.open {p : Pool Controller Act} (hp : Serving p) {a : Act} (ha : a ∈ p.pending)
    (hserves : a.serves = true) : p.shared.closed = false := by
  obtain ⟨first, others, hthreads, hcount, hothers⟩ := hp
  rw [Pool.pending, hthreads, flatten_cons, mem_append] at ha
  rcases ha with ha | ha
  · have hpos : 0 < first.countP Act.serves := countP_pos_iff.mpr ⟨a, ha, hserves⟩
    cases hclosed : p.shared.closed with
    | false => rfl
    | true =>
      rw [hclosed, Bool.toNat_true] at hcount
      omega
  · obtain ⟨acts, hacts, ha⟩ := mem_flatten.mp ha
    rw [hothers acts hacts a ha] at hserves
    cases hserves

theorem Performs.stream_mem (h : Performs c a o) {message : Message}
    (hm : message ∈ o.shared.stream) :
    message ∈ c.stream ∨ (∃ r reply, message = .response r reply ∧ a = .respond r reply) ∨
      ∃ event, message = .event event := by
  cases h with
  | answered =>
    rcases mem_append.mp hm with hm | hm
    · exact .inl hm
    · rw [mem_singleton] at hm
      exact .inr (.inl ⟨_, _, hm, rfl⟩)
  | drained | emitted =>
    rcases mem_append.mp hm with hm | hm
    · exact .inl hm
    · rw [mem_singleton] at hm
      exact .inr (.inr ⟨_, hm⟩)
  | _ => exact .inl hm

theorem request_eq_none_of_not_serves {b : Act} (h : b.serves = false) : b.request = none := by
  cases b <;> simp_all [Act.serves, Act.request]

theorem Admitted.step {p q : Pool Controller Act}
    (hp : Admitted p) (hserving : Serving p) (h : Pool.Step perform C p q) : Admitted q := by
  obtain ⟨a, x, o, ha, ho, -, hshared, hpending⟩ := h.exists_performed
  have hperforms := perform_performs ho
  have hle : p.shared.lastRequestId ≤ q.shared.lastRequestId :=
    hshared ▸ hperforms.lastRequestId_le
  constructor
  · intro b hb r hr hpast
    rcases hpending b hb with hb | hb | hb
    · exact (hp.pending b hb r hr hpast).trans hle
    · -- The performing action serves, so the controller is open.
      have hserves : a.serves = true := by
        by_contra hnot
        have hzero := hperforms.more_serves
        rw [if_neg hnot, le_zero, countP_eq_zero] at hzero
        have hnone := request_eq_none_of_not_serves (by simpa using hzero b hb)
        rw [hnone] at hr
        cases hr
      rcases hperforms.admits (hserving.open ha hserves) hb hr hpast with ⟨hr', hpast'⟩ | h
      · exact (hp.pending a ha r hr' hpast').trans hle
      · exact hshared ▸ h
    · obtain ⟨acts, hacts, hb⟩ := mem_flatten.mp hb
      rw [request_eq_none_of_not_serves (hperforms.spawned_serves acts hacts b hb)] at hr
      cases hr
  · intro r reply hm
    rw [hshared] at hm
    rcases hperforms.stream_mem hm with hm | ⟨r', reply', hm, rfl⟩ | ⟨event, hm⟩
    · exact (hp.stream r reply hm).trans hle
    · cases hm
      exact (hp.pending _ ha r rfl rfl).trans hle
    · cases hm
  · intro r e hb
    rcases hpending _ hb with hb | hb | hb
    · exact hp.rejects r e hb
    · exact hperforms.rejects hb
    · obtain ⟨acts, hacts, hb⟩ := mem_flatten.mp hb
      cases hperforms.spawned_serves acts hacts _ hb

/-- Both invariants hold in every reachable state. -/
theorem admitted_of_reaches {maxCompleted : Nat}
    {p : Pool Controller Act} (h : Pool.Reaches perform C (connect maxCompleted) p) :
    Serving p ∧ Admitted p := by
  induction h with
  | refl =>
    refine ⟨⟨_, _, rfl, le_refl _, by simp⟩, ⟨?_, ?_, ?_⟩⟩
    · intro a ha r hr
      have : a = .serve := by simpa [connect, Pool.pending] using ha
      subst this
      cases hr
    · intro r reply hm
      cases hm
    · intro r e hb
      simp [connect, Pool.pending] at hb
  | tail _ hstep ih => exact ⟨ih.1.step hstep, ih.2.step ih.1 hstep⟩

/-! ### Schedules -/

/-- The serving thread reads a request, works for it and responds. -/
def answering (r : Request) (inputs : List Input) : List (Nat × Input) :=
  (Input.request r :: .done :: .done :: (inputs ++ [.sent true])).map fun input => (0, input)

/-- Then it emits so many events that were held back, and starts threads. -/
def flushing (events : Nat) : List (Nat × Input) :=
  (0, .done) :: List.replicate (events + 1) (0, .sent true)

/-- A connection with one session, open for authoring. -/
def opening (sid : String) : List (Nat × Input) :=
  answering ⟨1, .hello [1, 2] []⟩ [.capabilities []] ++ flushing 0 ++
    answering ⟨2, .sessionOpen true⟩ [.done, .opened sid "interface" "manifest", .done, .done] ++
    flushing 0

end Controller

end MirrorGate.Control
