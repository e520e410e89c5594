import MirrorGate.Control.Serving

/-!
# The Dispatch of a Request

A request about a session is dispatched in several sections, and calls into
the backend stand between them. A handler that has moved the session on and is
then refused by the backend begins the cleanup of the session before it answers.
`worker.release` does not. It marks the session as closing before it asks the
backend to arm the worker, and when that raises the session stays marked, with
no cleanup that would ever close it.

A session can also be between two phases when a dispatch begins: the thread of
a preparation that has failed lets go of the session before it begins the
cleanup. `Steady` is a session that is not. A dispatch leaves a session steady
if it was before, and one that begins a cleanup does so in any case.

What other threads do meanwhile is arbitrary, as long as it leaves what the
controller keeps for the session alone. A dispatch is followed through the list
of what the serving thread still has to do. `Stage` says what the session is at
each point.

## Main definitions

* `Session.Undisturbed`: Nothing the controller keeps for the session changed.
* `Dispatch`: The serving thread dispatches a request.
* `Session.Steady`, `Session.Kept`, `Sound`: What a dispatch is to leave.
* `ArmRefused`, `BeginsCleanup`: On which inputs it does.
* `Stage`: Where a dispatch is.

## Theorems

* `Stage.step`: One action of the serving thread.
* `sound_iff`: A dispatch is sound exactly if the release was not refused by the
  backend and the session was steady or its cleanup begins.
* `refusedRelease_not_sound`: A release that the backend refuses.
-/

namespace MirrorGate.Control

open List

/-- The session that a request of the first version is about. -/
def ControlOp.about : ControlOp → Option String
  | .authoringExec sessionId | .sessionPrepare sessionId | .sessionAuthorize sessionId _ _ _
  | .workerAcquire sessionId _ | .workerRelease sessionId _ _ | .sessionCancel sessionId _
  | .sessionClose sessionId | .sessionStatus sessionId | .operationStatus sessionId _ =>
    some sessionId
  | _ => none

namespace Session

/-- Nothing that the controller keeps for the session has changed. The state of
    the backend and of the worker is not the controller's. -/
def Undisturbed (s t : Session) : Prop :=
  ∃ reservation backend trail locked,
    t = { s with
      reservation := reservation
      backend := backend
      trail := trail
      locked := locked } ∧
    (s.reservation.isSome = true → reservation.isSome = true)

theorem Undisturbed.refl (s : Session) : s.Undisturbed s :=
  ⟨s.reservation, s.backend, s.trail, s.locked, rfl, id⟩

theorem Undisturbed.trans {s t u : Session} (h : s.Undisturbed t) (h' : t.Undisturbed u) :
    s.Undisturbed u := by
  obtain ⟨_, _, _, _, rfl, hsome⟩ := h
  obtain ⟨r, b, tr, l, rfl, hsome'⟩ := h'
  exact ⟨r, b, tr, l, rfl, fun hs => hsome' (hsome hs)⟩

/-- What a failed request is to leave alone. -/
structure Kept (s t : Session) : Prop where
  phase : t.phase = s.phase
  operations : t.operations = s.operations
  activeOrdinary : t.activeOrdinary = s.activeOrdinary
  prepared : t.prepared = s.prepared
  admission : t.admission = s.admission
  authorizationId : t.authorizationId = s.authorizationId
  authorizationUsed : t.authorizationUsed = s.authorizationUsed
  cleanupOperation : t.cleanupOperation = s.cleanupOperation

theorem Undisturbed.kept {s t : Session} (h : s.Undisturbed t) : s.Kept t := by
  obtain ⟨_, _, _, _, rfl, _⟩ := h
  exact ⟨rfl, rfl, rfl, rfl, rfl, rfl, rfl, rfl⟩

theorem Kept.trans {s t u : Session} (h : s.Kept t) (h' : t.Kept u) : s.Kept u :=
  ⟨h'.phase.trans h.phase, h'.operations.trans h.operations,
    h'.activeOrdinary.trans h.activeOrdinary, h'.prepared.trans h.prepared,
    h'.admission.trans h.admission, h'.authorizationId.trans h.authorizationId,
    h'.authorizationUsed.trans h.authorizationUsed,
    h'.cleanupOperation.trans h.cleanupOperation⟩

/-- A session that is being prepared has an operation that does it, and one that
    is being closed has a cleanup. -/
def Steady (s : Session) : Prop :=
  (s.phase = .preparing → s.activeOrdinary.isSome = true) ∧
    (s.phase = .closing → s.cleanupOperation.isSome = true)

instance (s : Session) : Decidable s.Steady := inferInstanceAs (Decidable (_ ∧ _))

end Session

/-- What happens after the last section of a handler, and leaves the session
    alone apart from what it notes about its events. -/
def Act.isIdle (sessionId : String) : Act → Bool
  | .spawn _ _ | .emit => true
  | .finishEvent sid _ | .event sid _ => sid = sessionId
  | _ => false

/-- What a reservation has the thread do that arms it. -/
def Act.isArming (sessionId : String) : Act → Bool
  | .worker sid _ | .workerEvent sid _ | .workerNotify sid _ _ | .event sid _ =>
    sid = sessionId
  | .emit => true
  | _ => false

def Act.isRespond : Act → Bool
  | .respond _ _ => true
  | _ => false

/-- What happens when the connection is closed. -/
def Act.isParting : Act → Bool
  | .cleanup _ _ _ _ .nothing _ | .flush | .drainEvents _ | .spawn _ _ | .finishEvent _ _
  | .event _ _ | .emit | .close => true
  | _ => false

namespace Controller

/-- The serving thread dispatches a request, from the moment it has taken the lock of the
    controller. It is listed what the thread has performed. Other threads come
    between and leave the session undisturbed. -/
inductive Dispatch (p : Pool Controller Act) (request : Request) (sessionId : String) :
    List (Act × Input) → Pool Controller Act → Prop
  | receives {others : List (List Act)} {x : Input} {o : Outcome Controller Act}
      (hthreads : p.threads = [.receive request] :: others)
      (hperform : p.shared.perform (.receive request) x = some o) :
      Dispatch p request sessionId [] ⟨o.shared, o.more :: (others ++ o.spawned)⟩
  | performs {trace : List (Act × Input)} {q : Pool Controller Act} {a : Act} {tail : List Act}
      {others : List (List Act)} {x : Input} {o : Outcome Controller Act}
      (h : Dispatch p request sessionId trace q)
      (hthreads : q.threads = (a :: tail) :: others) (hbusy : ∀ reply, a ≠ .respond request reply)
      (hperform : q.shared.perform a x = some o) :
      Dispatch p request sessionId (trace ++ [(a, x)])
        ⟨o.shared, (o.more ++ tail) :: (others ++ o.spawned)⟩
  | others {trace : List (Act × Input)} {q q' : Pool Controller Act} {s t : Session}
      (h : Dispatch p request sessionId trace q)
      (hstep : Pool.Step perform (fun _ _ _ => True) q q')
      (hfirst : q'.threads.head? = q.threads.head?) (hs : q.shared.session sessionId = some s)
      (ht : q'.shared.session sessionId = some t) (hsame : s.Undisturbed t) :
      Dispatch p request sessionId trace q'

/-- What a dispatch is to leave: a failed request has changed nothing or begun
    the cleanup, and the session is steady. -/
def Sound (s t : Session) (reply : Reply) : Prop :=
  (reply.isError = true → s.Kept t ∨ t.cleanupOperation.isSome = true) ∧ t.Steady

/-- The backend refuses to arm the worker for its release. -/
def refusesArming : Act × Input → Bool
  | (.armRelease _ _ _ _, .raised _) => true
  | _ => false

def ArmRefused (trace : List (Act × Input)) : Prop := trace.any refusesArming = true

/-- The request begins the cleanup of the session. -/
def BeginsCleanup (c : Controller) (s : Session) (request : Request) : Prop :=
  c.closed = false ∧ s.cleanupOperation = none ∧
    match request.op with
    | .sessionCancel _ _ | .sessionClose _ => True
    | .workerRelease _ workerId _ => s.workerId = some workerId
    | _ => False

/-! ### Where a dispatch is -/

/-- How the session stands when the answer is given. -/
inductive Ending (begins : Prop) (s t : Session) (reply : Reply) : Bool → Prop
  /-- Nothing that matters has changed. -/
  | same (hphase : t.phase = s.phase) (hactive : t.activeOrdinary = s.activeOrdinary)
      (hcleanup : t.cleanupOperation = s.cleanupOperation)
      (hkept : reply.isError = true → s.Kept t ∨ t.cleanupOperation.isSome = true)
      (hbegins : s.Steady ∨ ¬ begins) : Ending begins s t reply false
  /-- The session was moved on, or its cleanup was begun. -/
  | moved (hsteady : t.Steady) (herror : reply.isError = true → t.cleanupOperation.isSome = true)
      (hbegins : s.Steady ∨ begins) : Ending begins s t reply false
  /-- The session is marked as closing, and no cleanup was begun. -/
  | stuck (hphase : t.phase = .closing) (hcleanup : t.cleanupOperation = none) :
      Ending begins s t reply true

/-- What the serving thread still has to do for a request, and what the session
    is then. The flag says that the backend has refused to arm the worker. -/
inductive Stage (c : Controller) (s : Session) (request : Request) :
    List Act → Session → Bool → Prop
  | entering {t} (hopen : c.closed = false) (hsame : s.Undisturbed t) :
      Stage c s request [.enter request] t false
  | handling {t} (hopen : c.closed = false) (hsame : s.Undisturbed t) :
      Stage c s request [.handle request] t false
  | reading {t id} (hsame : s.Undisturbed t) (hbegins : ¬ BeginsCleanup c s request) :
      Stage c s request [.readOperation request s.sessionId id] t false
  | executing {t} (hsame : s.Undisturbed t) (hphase : s.phase = .authoring)
      (hbegins : ¬ BeginsCleanup c s request) :
      Stage c s request [.newOperation request s.sessionId .authoring] t false
  | preparing {t} (hsame : { s with phase := .preparing }.Undisturbed t) (hsteady : s.Steady)
      (hfree : s.activeOrdinary = none) :
      Stage c s request [.newOperation request s.sessionId .prepare] t false
  | authorizing {t} (hsame : s.Undisturbed t) (hphase : s.phase = .prepared) :
      Stage c s request [.authorizeBackend request s.sessionId] t false
  | leased {t lease} (hsame : s.Undisturbed t) (hphase : s.phase = .prepared) :
      Stage c s request [.authorizeCommit request s.sessionId lease] t false
  | reserving {t workerId} (hphase : t.phase = .reserved) (hsteady : s.Steady) :
      Stage c s request [.reserve request s.sessionId workerId] t false
  | reserved {t} (hphase : t.phase = .reserved) (hsome : t.reservation.isSome = true)
      (hsteady : s.Steady) : Stage c s request [.acquireCommit request s.sessionId] t false
  | withdrawing {t reason e} (hphase : t.phase ≠ .preparing ∧ t.phase ≠ .closing)
      (hsteady : s.Steady) :
      Stage c s request
        [.cleanup s.sessionId reason none false .nothing true, .respond request (.error e)] t false
  | joining {t reason mode} (hopen : c.closed = false) (hsame : s.Undisturbed t)
      (hbegins : s.cleanupOperation = none → BeginsCleanup c s request) :
      Stage c s request
        [.cleanup s.sessionId reason none true (.reply request mode) true] t false
  | arming {t workerId reason} (hphase : t.phase = .closing) (hcleanup : t.cleanupOperation = none)
      (hbegins : BeginsCleanup c s request) :
      Stage c s request [.armRelease request s.sessionId workerId reason] t false
  | armed {t acts workerId reason} (hacts : ∀ a ∈ acts, a.isArming s.sessionId = true)
      (hphase : t.phase = .closing) (hcleanup : t.cleanupOperation = none)
      (hbegins : BeginsCleanup c s request) :
      Stage c s request (acts ++ [.releaseArmed request s.sessionId workerId reason]) t false
  | releasing {t reason workerId mode} (hcleanup : t.cleanupOperation = none)
      (hbegins : BeginsCleanup c s request) :
      Stage c s request
        [.cleanup s.sessionId reason workerId true (.reply request (some mode)) true] t false
  | answering {t acts reply refused} (hacts : ∀ a ∈ acts, a.isIdle s.sessionId = true)
      (hsettled : acts = [] ∨ (reply.isError = true → t.cleanupOperation.isSome = true))
      (hending : Ending (BeginsCleanup c s request) s t reply refused) :
      Stage c s request (acts ++ [.respond request reply]) t refused
  | parting {t acts} (hacts : ∀ a ∈ acts, a.isParting = true) : Stage c s request acts t false

/-! ### One action -/

section Lookup

variable {c : Controller} {o : Outcome Controller Act} {s : Session}
  {f : Session → Session × List Act}

theorem locking_eq (hs : c.session s.sessionId = some s)
    (h : c.locking s.sessionId f = some o) :
    o = { shared := c.put (f s).1, more := (f s).2 } := by
  rw [locking, hs] at h
  dsimp only at h
  split at h
  · cases h
  · exact (Option.some.inj h).symm

theorem touching_eq (hs : c.session s.sessionId = some s)
    (h : c.touching s.sessionId f = some o) :
    o = { shared := c.put (f s).1, more := (f s).2 } := by
  rw [touching, hs] at h
  exact (Option.some.inj h).symm

theorem handling_eq {request : Request} (hs : c.session s.sessionId = some s)
    (h : c.handling request s.sessionId f = some o) :
    o = { shared := c.put (f s).1, more := (f s).2 } := by
  rw [handling, hs] at h
  exact locking_eq hs h

end Lookup

/-- The next stage, with the session in the controller. -/
def Next (c : Controller) (s : Session) (request : Request) (acts : List Act)
    (o : Outcome Controller Act) (refused : Bool) : Prop :=
  ∃ t, o.shared.session s.sessionId = some t ∧ Stage c s request (o.more ++ acts) t refused

section Stages

variable {c c' : Controller} {s t : Session} {request : Request} {o : Outcome Controller Act}
  {x : Input}

attribute [local simp] perform performRequest

theorem next_put {u : Session} {more acts : List Act} {refused : Bool}
    (ht : c'.session t.sessionId = some t) (hid : t.sessionId = s.sessionId)
    (hu : u.sessionId = t.sessionId) (hstage : Stage c s request (more ++ acts) u refused) :
    Next c s request acts { shared := c'.put u, more := more } refused :=
  ⟨u, hid ▸ session_put ht hu, hstage⟩

variable {reply : Reply}

theorem Stage.answer {refused : Bool}
    (hending : Ending (BeginsCleanup c s request) s t reply refused) :
    Stage c s request [.respond request reply] t refused := by
  have hnone : ∀ a ∈ ([] : List Act), a.isIdle s.sessionId = true :=
    fun _ h => absurd h not_mem_nil
  have hstage := Stage.answering hnone (.inl rfl) hending
  exact hstage

/-- A request that is refused leaves the session as it was. -/
theorem Stage.unchanged (hsame : s.Undisturbed t)
    (hbegins : s.Steady ∨ ¬ BeginsCleanup c s request) :
    Stage c s request [.respond request reply] t false :=
  .answer (.same hsame.kept.phase hsame.kept.activeOrdinary hsame.kept.cleanupOperation
    (fun _ => .inl hsame.kept) hbegins)

theorem steady_of_phase (h : s.phase ≠ .preparing ∧ s.phase ≠ .closing) : s.Steady :=
  ⟨fun hbad => absurd hbad h.1, fun hbad => absurd hbad h.2⟩

theorem phase_of_authorizeCheck {revision : Nat} {challenge digest : String}
    (h : s.authorizeCheck revision challenge digest = .ok ()) : s.phase = .prepared := by
  unfold Session.authorizeCheck at h
  split at h
  · assumption
  · cases h

/-- The first section of a handler. -/
theorem next_handle (hopen : c.closed = false) (hsame : s.Undisturbed t)
    (habout : request.op.about = some s.sessionId) (ht : c'.session s.sessionId = some t)
    (h : c'.performHandle request x = some o) : Next c s request [] o false := by
  have hkept := hsame.kept
  obtain ⟨hid, hworker⟩ : t.sessionId = s.sessionId ∧ t.workerId = s.workerId := by
    obtain ⟨_, _, _, _, rfl, _⟩ := hsame
    exact ⟨rfl, rfl⟩
  have ht' : c'.session t.sessionId = some t := hid.symm ▸ ht
  have hrefuse (e : ControlError) (hbegins : ¬ BeginsCleanup c s request) :
      Next c s request [] { shared := c'.put t, more := [.respond request (.error e)] } false :=
    next_put ht' hid rfl (.unchanged hsame (.inr hbegins))
  unfold performHandle at h
  cases hop : request.op with
  | authoringExec sid =>
    have hbegins : ¬ BeginsCleanup c s request := by simp [BeginsCleanup, hop]
    rw [hop] at habout h
    cases habout
    rw [← hid] at h
    cases x <;> simp only [reduceCtorEq] at h
    rw [handling_eq ht' h]
    by_cases hphase : t.phase ≠ .authoring ∨ t.hosting.run.isSome
    · simp only [if_pos hphase]
      exact hrefuse _ hbegins
    · simp only [if_neg hphase, hid]
      have hauthoring : t.phase = .authoring := by simp_all
      exact next_put ht' hid rfl (.executing hsame (hkept.phase.symm.trans hauthoring) hbegins)
  | sessionPrepare sid =>
    have hbegins : ¬ BeginsCleanup c s request := by simp [BeginsCleanup, hop]
    rw [hop] at habout h
    cases habout
    rw [← hid] at h
    cases x <;> simp only [reduceCtorEq] at h
    rw [handling_eq ht' h]
    unfold Session.prepareBegin
    split
    · exact hrefuse _ hbegins
    · next hready =>
      simp only [not_or, not_and_or, not_not] at hready
      have hphase : s.phase ≠ .preparing ∧ s.phase ≠ .closing := by
        rw [← hkept.phase]
        rcases hready.1 with h | h | h <;> simp [h]
      simp only [attempt, hid]
      refine next_put ht' hid hid.symm (.preparing ?_ (steady_of_phase hphase)
        (hkept.activeOrdinary.symm.trans hready.2.1))
      obtain ⟨r, b, tr, l, rfl, hsome⟩ := hsame
      exact ⟨r, b, tr, l, rfl, hsome⟩
  | sessionAuthorize sid revision challenge digest =>
    have hbegins : ¬ BeginsCleanup c s request := by simp [BeginsCleanup, hop]
    rw [hop] at habout h
    cases habout
    rw [← hid] at h
    cases x <;> simp only [reduceCtorEq] at h
    rw [handling_eq ht' h]
    rcases hcheck : t.authorizeCheck revision challenge digest with e | _
    · exact hrefuse _ hbegins
    · simp only [attempt, Except.map, hid]
      exact next_put ht' hid rfl
        (.authorizing hsame (hkept.phase.symm.trans (phase_of_authorizeCheck hcheck)))
  | workerAcquire sid authorizationId =>
    have hbegins : ¬ BeginsCleanup c s request := by simp [BeginsCleanup, hop]
    rw [hop] at habout h
    cases habout
    rw [← hid] at h
    cases x <;> simp only [reduceCtorEq] at h
    rw [handling_eq ht' h]
    unfold Session.acquire
    split
    · exact hrefuse _ hbegins
    · next hready =>
      simp only [not_or, not_not] at hready
      simp only [attempt, Except.map, hid]
      refine next_put ht' hid hid.symm (.reserving rfl (steady_of_phase ?_))
      rw [← hkept.phase, hready.1]
      decide
  | workerRelease sid workerId reason =>
    rw [hop] at habout h
    cases habout
    rw [← hid] at h
    cases x <;> simp only [reduceCtorEq] at h
    rw [handling_eq ht' h]
    by_cases howner : t.workerId ≠ some workerId
    · simp only [if_pos howner]
      refine hrefuse _ fun hbegins => howner ?_
      rw [BeginsCleanup, hop] at hbegins
      exact hworker.trans hbegins.2.2
    · by_cases hcleanup : t.cleanupOperation.isSome
      · simp only [if_neg howner, if_pos hcleanup, hid]
        refine next_put ht' hid rfl (.joining hopen hsame fun hnone => ?_)
        rw [hkept.cleanupOperation, hnone] at hcleanup
        cases hcleanup
      · simp only [if_neg howner, if_neg hcleanup, hid]
        rw [Option.not_isSome_iff_eq_none] at hcleanup
        refine next_put ht' hid hid.symm (.arming rfl hcleanup ?_)
        rw [BeginsCleanup, hop]
        exact ⟨hopen, hkept.cleanupOperation.symm.trans hcleanup,
          hworker.symm.trans (not_not.mp howner)⟩
  | sessionCancel sid reason =>
    rw [hop] at habout h
    cases habout
    rw [← hid] at h
    cases x <;> simp only [reduceCtorEq] at h
    rw [handling_eq ht' h]
    simp only [hid]
    refine next_put ht' hid rfl (.joining hopen hsame fun hnone => ?_)
    rw [BeginsCleanup, hop]
    exact ⟨hopen, hnone, trivial⟩
  | sessionClose sid =>
    rw [hop] at habout h
    cases habout
    rw [← hid] at h
    cases x <;> simp only [reduceCtorEq] at h
    rw [handling_eq ht' h]
    simp only [hid]
    refine next_put ht' hid rfl (.joining hopen hsame fun hnone => ?_)
    rw [BeginsCleanup, hop]
    exact ⟨hopen, hnone, trivial⟩
  | sessionStatus sid =>
    have hbegins : ¬ BeginsCleanup c s request := by simp [BeginsCleanup, hop]
    rw [hop] at habout h
    cases habout
    rw [← hid] at h
    cases x <;> simp only [reduceCtorEq] at h
    · rw [handling_eq ht' h]
      exact next_put ht' hid rfl (.unchanged hsame (.inr hbegins))
    · rw [handling_eq ht' h]
      exact hrefuse _ hbegins
  | operationStatus sid id =>
    have hbegins : ¬ BeginsCleanup c s request := by simp [BeginsCleanup, hop]
    rw [hop] at habout h
    cases habout
    rw [← hid] at h
    cases x <;> simp only [reduceCtorEq] at h
    rw [handling_eq ht' h]
    split
    · simp only [hid]
      exact next_put ht' hid rfl (.reading hsame hbegins)
    · exact hrefuse _ hbegins
  | hello | sessionOpen | agentStart | agentStatus | agentCancel | invalid =>
    rw [hop] at habout
    cases habout

/-- A new operation, where the session has no other. -/
theorem newOperation_of_free (hending : ¬ t.phase.Ending) (hfree : t.activeOrdinary = none) :
    t.newOperation = .ok ({ t with
      operations := t.operations ++ [{ operationId := t.nextOperationId }]
      nextOperationId := t.nextOperationId + 1
      activeOrdinary := some (.operation t.nextOperationId) }, t.nextOperationId) := by
  rw [Session.newOperation, if_neg hending, if_neg (not_not.mpr hfree)]

theorem forall_mem_singleton {b : Act} {P : Act → Prop} (h : P b) : ∀ a ∈ [b], P a :=
  fun _ ha => mem_singleton.mp ha ▸ h

/-- The thread of an operation is still to be started. -/
theorem Stage.spawned {job : Job}
    (herror : reply.isError = true → t.cleanupOperation.isSome = true)
    (hending : Ending (BeginsCleanup c s request) s t reply false) :
    Stage c s request ([.spawn job true] ++ [.respond request reply]) t false :=
  .answering (forall_mem_singleton rfl) (.inr herror) hending

/-- An operation was accepted. -/
theorem Stage.accepted {job : Job}
    (hbegins : s.Steady ∨ BeginsCleanup c s request) (hsteady : t.Steady)
    (hreply : reply.isError = false) :
    Stage c s request ([.spawn job true] ++ [.respond request reply]) t false := by
  have herror (h : reply.isError = true) : t.cleanupOperation.isSome = true := by
    cases hreply.symm.trans h
  exact .spawned herror (.moved hsteady herror hbegins)

/-- `_new_operation` in `authoring.exec`. -/
theorem next_executing (hsame : s.Undisturbed t) (hphase : s.phase = .authoring)
    (ht : c'.session s.sessionId = some t)
    (h : c'.perform (.newOperation request s.sessionId .authoring) x = some o) :
    Next c s request [] o false := by
  have hkept := hsame.kept
  have hid := sessionId_of_session ht
  rw [← hid] at ht h
  have hsteady : s.Steady := steady_of_phase (by rw [hphase]; decide)
  cases x <;> simp only [perform, performRequest, reduceCtorEq] at h
  rw [locking_eq ht h]
  have hauthoring : t.phase = .authoring := hkept.phase.trans hphase
  by_cases hfree : t.activeOrdinary = none
  · rw [newOperation_of_free (by rw [hauthoring]; decide) hfree]
    exact next_put ht hid rfl
      (Stage.accepted (.inl hsteady) (steady_of_phase (by simp [hauthoring])) rfl)
  · have hrefused : t.newOperation = .error ⟨.stateInvalid, .authoring,
        "ordinary operation already active"⟩ := by
      rw [Session.newOperation, if_neg (by rw [hauthoring]; decide), if_pos hfree]
    rw [hrefused]
    exact next_put ht hid rfl (.unchanged hsame (.inl hsteady))

/-- `_new_operation` in `session.prepare`. -/
theorem next_preparing (hsame : { s with phase := .preparing }.Undisturbed t) (hsteady : s.Steady)
    (hfree : s.activeOrdinary = none) (ht : c'.session s.sessionId = some t)
    (h : c'.perform (.newOperation request s.sessionId .prepare) x = some o) :
    Next c s request [] o false := by
  have hkept := hsame.kept
  have hid := sessionId_of_session ht
  rw [← hid] at ht h
  cases x <;> simp only [perform, performRequest, reduceCtorEq] at h
  have hphase : t.phase = .preparing := hkept.phase
  rw [locking_eq ht h, newOperation_of_free (by rw [hphase]; decide)
    (hkept.activeOrdinary.trans hfree)]
  refine next_put ht hid rfl (Stage.accepted (.inl hsteady) ⟨fun _ => rfl, fun hbad => ?_⟩ rfl)
  cases hphase.symm.trans hbad

/-- The calls of `session.authorize` into the backend. -/
theorem next_authorizing (hsame : s.Undisturbed t) (hphase : s.phase = .prepared)
    (ht : c'.session s.sessionId = some t)
    (h : c'.perform (.authorizeBackend request s.sessionId) x = some o) :
    Next c s request [] o false := by
  have hid := sessionId_of_session ht
  have hsteady : s.Steady := steady_of_phase (by rw [hphase]; decide)
  cases x <;> simp only [perform, performRequest, reduceCtorEq] at h
  · cases h
    refine ⟨t, ht, .withdrawing ?_ hsteady⟩
    rw [hsame.kept.phase, hphase]
    decide
  · rw [← hid] at ht h
    split at h
    · cases h
    · rw [locking_eq ht h]
      simp only [hid]
      refine next_put ht hid hid.symm (.leased (hsame.trans ?_) hphase)
      exact ⟨_, _, _, _, by rw [hid], id⟩

theorem next_leased {lease : Nat} (hsame : s.Undisturbed t) (hphase : s.phase = .prepared)
    (ht : c'.session s.sessionId = some t)
    (h : c'.perform (.authorizeCommit request s.sessionId lease) x = some o) :
    Next c s request [] o false := by
  have hid := sessionId_of_session ht
  have hsteady : s.Steady := steady_of_phase (by rw [hphase]; decide)
  rw [← hid] at ht h
  cases x <;> simp only [perform, performRequest, reduceCtorEq] at h
  split at h
  · rw [locking_eq ht h, Session.authorizeCommit, if_neg]
    · simp only [attempt, Except.map]
      refine next_put ht hid rfl (.answer (.moved (steady_of_phase ?_) nofun (.inl hsteady)))
      simp only [ne_eq, reduceCtorEq, not_false_eq_true, and_self]
    · rw [hsame.kept.phase, hphase]
      decide
  · cases h

/-- The call of `worker.acquire` into the backend. -/
theorem next_reserving {workerId : String} (hphase : t.phase = .reserved) (hsteady : s.Steady)
    (ht : c'.session s.sessionId = some t)
    (h : c'.perform (.reserve request s.sessionId workerId) x = some o) :
    Next c s request [] o false := by
  have hid := sessionId_of_session ht
  cases x <;> simp only [perform, performRequest, reduceCtorEq] at h
  · cases h
    refine ⟨t, ht, .withdrawing ?_ hsteady⟩
    rw [hphase]
    decide
  · rw [ht] at h
    dsimp only at h
    split at h
    · cases h
    · cases h
      rw [← hid] at ht
      rw [Next, ← hid]
      exact ⟨_, session_put ht rfl, hid ▸ .reserved hphase rfl hsteady⟩

theorem next_reserved (hphase : t.phase = .reserved) (hsome : t.reservation.isSome = true)
    (hsteady : s.Steady) (ht : c'.session s.sessionId = some t)
    (h : c'.perform (.acquireCommit request s.sessionId) x = some o) :
    Next c s request [] o false := by
  have hid := sessionId_of_session ht
  rw [← hid] at ht h
  obtain ⟨r, hr⟩ := Option.isSome_iff_exists.mp hsome
  cases x <;> simp only [perform, performRequest, reduceCtorEq] at h
  rw [locking_eq ht h, hphase, hr]
  refine next_put ht hid rfl (.answer (.moved (steady_of_phase ?_) nofun (.inl hsteady)))
  rw [hphase]
  decide

variable {reason : Reason} {workerId : Option String}

theorem section_of_cleanup {advertise server : Bool}
    {after : After} (ht : c'.session s.sessionId = some t)
    (h : c'.perform (.cleanup s.sessionId reason workerId advertise after server) x = some o) :
    ∃ u more, o = ⟨c'.put u, more, []⟩ ∧
      Section c' t (.cleanup t.sessionId reason workerId advertise after server) u more := by
  have hid := sessionId_of_session ht
  rw [← hid] at ht h
  generalize hact : Act.cleanup t.sessionId reason workerId advertise after server = act at h
  cases perform_performs h with
  | @locked _ t' u more hs hfree hsection =>
    have hsame : t'.sessionId = t.sessionId := by
      cases hsection <;> first | cases hact | exact (Act.cleanup.inj hact).1.symm
    rw [hsame, ht] at hs
    cases hs
    exact ⟨u, more, rfl, hact ▸ hsection⟩
  | unlocked _ hsection => cases hsection <;> cases hact
  | passes hpass => cases hpass <;> cases hact
  | _ => cases hact

/-- What a session keeps when its cleanup was begun before, and how the thread
    goes on. -/
theorem joined_of_section {advertise server : Bool}
    {after : After} {u : Session} {more : List Act} (hsome : t.cleanupOperation.isSome = true)
    (h : Section c' t (.cleanup t.sessionId reason workerId advertise after server) u more) :
    (u.phase = t.phase ∧ u.activeOrdinary = t.activeOrdinary ∧
      u.cleanupOperation = t.cleanupOperation) ∧
    ∃ id acts, (∀ a ∈ acts, a.isIdle t.sessionId = true) ∧
      (more = acts ++ after.acts id ∨ more = after.missing id ∧ acts = []) := by
  have hnil : ∀ a ∈ ([] : List Act), a.isIdle t.sessionId = true :=
    fun _ h => absurd h not_mem_nil
  cases h with
  | cleanupBegun hnone => rw [hnone] at hsome; cases hsome
  | @cleanupJoined _ _ _ _ _ id _ _ _ _ => exact ⟨⟨rfl, rfl, rfl⟩, id, [], hnil, .inl rfl⟩
  | @cleanupMissing _ _ _ _ _ id _ _ => exact ⟨⟨rfl, rfl, rfl⟩, id, [], hnil, .inr ⟨rfl, rfl⟩⟩
  | @cleanupAdvertised _ _ _ _ _ id op _ _ _ _ =>
    refine ⟨⟨rfl, rfl, rfl⟩, id, _, fun a ha => ?_, .inl rfl⟩
    split at ha
    · cases mem_singleton.mp ha
      exact decide_eq_true rfl
    · cases ha

/-- The cleanup of a session whose handler was refused by the backend. -/
theorem next_withdrawing {e : ControlError}
    (hphase : t.phase ≠ .preparing ∧ t.phase ≠ .closing) (hsteady : s.Steady)
    (ht : c'.session s.sessionId = some t)
    (h : c'.perform (.cleanup s.sessionId reason none false .nothing true) x = some o) :
    Next c s request [.respond request (.error e)] o false := by
  obtain ⟨u, more, rfl, hsection⟩ := section_of_cleanup ht h
  have hid := sessionId_of_session ht
  rw [← hid] at ht
  refine next_put ht hid hsection.sessionId ?_
  by_cases hsome : t.cleanupOperation.isSome = true
  · -- A cleanup that was begun before may still have to be announced.
    obtain ⟨⟨hsame, _, hcleanup⟩, id, acts, hidle, hmore⟩ := joined_of_section hsome hsection
    have hset : u.cleanupOperation.isSome = true := hcleanup ▸ hsome
    have hmore : more = acts := by
      rcases hmore with rfl | ⟨rfl, rfl⟩ <;> simp [After.acts, After.missing]
    rw [hmore]
    exact .answering (hid ▸ hidle) (.inr fun _ => hset)
      (.moved (steady_of_phase (hsame ▸ hphase)) (fun _ => hset) (.inl hsteady))
  · cases hsection with
    | cleanupBegun _ =>
      refine .spawned (fun _ => rfl) (.moved ⟨?_, fun _ => rfl⟩ (fun _ => rfl) (.inl hsteady))
      intro h
      cases h
    | cleanupJoined hid | cleanupMissing hid | cleanupAdvertised hid =>
      rw [hid] at hsome
      exact absurd rfl hsome

theorem next_begun {mode : Option CleanupMode}
    (hnone : t.cleanupOperation = none) (hbegins : BeginsCleanup c s request)
    (ht : c'.session s.sessionId = some t)
    (h : c'.perform (.cleanup s.sessionId reason workerId true (.reply request mode) true) x =
      some o) :
    Next c s request [] o false := by
  obtain ⟨u, more, rfl, hsection⟩ := section_of_cleanup ht h
  have hid := sessionId_of_session ht
  rw [← hid] at ht
  refine next_put ht hid hsection.sessionId ?_
  cases hsection with
  | cleanupBegun _ =>
    have hsteady : (t.beginCleanup reason true).Steady := ⟨nofun, fun _ => rfl⟩
    cases mode with
    | none => exact .accepted (.inr hbegins) hsteady rfl
    | some mode => exact .accepted (.inr hbegins) hsteady rfl
  | cleanupJoined hsome | cleanupMissing hsome | cleanupAdvertised hsome =>
    cases hnone.symm.trans hsome

/-- A request for the cleanup. -/
theorem next_joining {mode : Option CleanupMode} (hsame : s.Undisturbed t)
    (hbegins : s.cleanupOperation = none → BeginsCleanup c s request)
    (ht : c'.session s.sessionId = some t)
    (h : c'.perform (.cleanup s.sessionId reason none true (.reply request mode) true) x =
      some o) :
    Next c s request [] o false := by
  have hkept := hsame.kept
  rcases hcleanup : t.cleanupOperation with _ | id
  · exact next_begun hcleanup (hbegins (hkept.cleanupOperation.symm.trans hcleanup)) ht h
  · have hsome : t.cleanupOperation.isSome = true := by rw [hcleanup]; rfl
    have hnot : ¬ BeginsCleanup c s request := by
      rintro ⟨_, hnone, _⟩
      rw [← hkept.cleanupOperation, hcleanup] at hnone
      cases hnone
    obtain ⟨u, more, rfl, hsection⟩ := section_of_cleanup ht h
    have hid := sessionId_of_session ht
    rw [← hid] at ht
    refine next_put ht hid hsection.sessionId ?_
    obtain ⟨⟨hphase, hactive, hop⟩, id, acts, hidle, hmore⟩ := joined_of_section hsome hsection
    have hset : u.cleanupOperation.isSome = true := hop ▸ hsome
    have hending (reply : Reply) : Ending (BeginsCleanup c s request) s u reply false :=
      .same (hphase.trans hkept.phase) (hactive.trans hkept.activeOrdinary)
        (hop.trans hkept.cleanupOperation) (fun _ => .inr hset) (.inr hnot)
    rw [append_nil]
    rcases hmore with rfl | ⟨rfl, rfl⟩
    · cases mode with
      | none => exact .answering (hid ▸ hidle) (.inr fun _ => hset) (hending _)
      | some mode => exact .answering (hid ▸ hidle) (.inr fun _ => hset) (hending _)
    · exact .answer (hending _)

/-- The call of `worker.release` into the backend. -/
theorem next_arming {workerId : String} (hphase : t.phase = .closing)
    (hnone : t.cleanupOperation = none) (hbegins : BeginsCleanup c s request)
    (ht : c'.session s.sessionId = some t)
    (h : c'.perform (.armRelease request s.sessionId workerId reason) x = some o) :
    Next c s request [] o (refusesArming (.armRelease request s.sessionId workerId reason, x)) := by
  cases x <;> simp only [perform, performRequest, reduceCtorEq] at h
  · split at h
    · cases h
    · split at h
      · cases h
      · cases h
        have harming := forall_mem_singleton (P := fun a => a.isArming s.sessionId = true)
          (b := .worker s.sessionId (.armClosing reason false)) (decide_eq_true rfl)
        exact ⟨t, ht, .armed harming hphase hnone hbegins⟩
  · -- The session stays marked.
    cases h
    exact ⟨t, ht, .answer (.stuck hphase hnone)⟩

end Stages

/-! ### Actions without a stage of their own -/

section Actions

variable {c : Controller} {a : Act} {o : Outcome Controller Act} {s t : Session} {sid : String}

theorem forall_mem_nil {P : Act → Prop} : ∀ a ∈ ([] : List Act), P a :=
  fun _ h => absurd h not_mem_nil

/-- What a reservation has the thread do leaves a session marked as closing. -/
theorem Moves.arming (h : Moves c a s t) (harming : a.isArming sid = true)
    (hclosing : s.phase = .closing ∧ s.cleanupOperation = none) :
    t.phase = .closing ∧ t.cleanupOperation = none := by
  cases h with
  | locked _ h =>
    cases h with
    | workerEvent => exact hclosing
    | workerNotify =>
      unfold Session.workerEvent
      split <;> simp [hclosing]
    | _ => cases harming
  | unlocked h => cases h <;> cases harming
  | reserve ha =>
    subst ha
    cases harming
  | streamed | reservation => exact hclosing
  | guarded _ _ _ hphase => cases hclosing.1.symm.trans hphase

theorem Performs.arming (h : Performs c a o) (harming : a.isArming sid = true)
    (hs : c.session sid = some s) (hclosing : s.phase = .closing) :
    ∀ b ∈ o.more, b.isArming sid = true := by
  cases h with
  | @locked _ s' _ _ hs' _ h =>
    cases h with
    | workerEvent => exact forall_mem_singleton harming
    | @workerNotify event _ =>
      cases of_decide_eq_true harming
      cases hs.symm.trans hs'
      have hkept : (s.workerEvent event).2 = false := by
        unfold Session.workerEvent
        split <;> simp [hclosing, SessionPhase.Ending]
      rw [if_neg (by simp [hkept])]
      exact forall_mem_singleton harming
    | _ => cases harming
  | unlocked _ h => cases h <;> cases harming
  | passes h =>
    cases h with
    | eventDropped => exact forall_mem_nil
    | _ => cases harming
  | eventQueued | emitted | unemitted => exact forall_mem_nil
  | eventNumbered => exact forall_mem_singleton rfl
  | reservation =>
    intro b hb
    rcases mem_append.mp hb with hb | hb <;>
      obtain ⟨_, _, rfl⟩ := mem_map.mp hb <;> exact harming
  | guarded | unguarded => exact forall_mem_singleton harming
  | _ => cases harming

/-- What is left after the last section of a handler. -/
theorem Moves.idle (h : Moves c a s t) (hidle : a.isIdle sid = true) :
    t.phase = s.phase ∧ t.activeOrdinary = s.activeOrdinary ∧
      t.cleanupOperation = s.cleanupOperation := by
  cases h with
  | locked _ h =>
    cases h with
    | finishEvent =>
      unfold Session.finishEvent
      split
      · split <;> exact ⟨rfl, rfl, rfl⟩
      · exact ⟨rfl, rfl, rfl⟩
    | _ => cases hidle
  | unlocked h => cases h <;> cases hidle
  | reserve ha | reservation ha | guarded ha =>
    subst ha
    cases hidle
  | streamed => exact ⟨rfl, rfl, rfl⟩

theorem Performs.idle (h : Performs c a o) (hidle : a.isIdle sid = true) :
    ∀ b ∈ o.more, b.isIdle sid = true := by
  cases h with
  | locked _ _ h =>
    cases h with
    | @finishEvent id =>
      rcases (_ : Session).finishEvent id |>.2 with _ | body
      · exact forall_mem_nil
      · exact forall_mem_singleton hidle
    | _ => cases hidle
  | unlocked _ h => cases h <;> cases hidle
  | passes h =>
    cases h with
    | eventDropped => exact forall_mem_nil
    | _ => cases hidle
  | eventQueued | emitted | unemitted | spawnLater | spawn => exact forall_mem_nil
  | eventNumbered => exact forall_mem_singleton rfl
  | _ => cases hidle

/-- A connection that is being closed answers nothing. -/
theorem Performs.parting (h : Performs c a o) (hparting : a.isParting = true) :
    ∀ b ∈ o.more, b.isParting = true := by
  cases h with
  | @locked _ s _ _ _ _ h =>
    cases h with
    | @finishEvent id =>
      rcases s.finishEvent id |>.2 with _ | body
      · exact forall_mem_nil
      · exact forall_mem_singleton rfl
    | @cleanupBegun _ _ _ after | @cleanupJoined _ _ _ after | @cleanupMissing _ _ _ after =>
      cases after with
      | nothing => simp [After.acts, After.missing, Act.isParting]
      | reply => cases hparting
    | @cleanupAdvertised _ _ _ after =>
      cases after with
      | nothing =>
        simp only [After.acts, append_nil]
        split
        · exact forall_mem_singleton rfl
        · exact forall_mem_nil
      | reply => cases hparting
    | _ => cases hparting
  | unlocked _ h => cases h <;> cases hparting
  | passes h =>
    cases h with
    | eventDropped | closeAgain => exact forall_mem_nil
    | _ => cases hparting
  | close =>
    intro b hb
    rcases mem_append.mp hb with hb | hb
    · obtain ⟨_, _, rfl⟩ := mem_map.mp hb
      rfl
    · cases mem_singleton.mp hb
      rfl
  | eventQueued | emitted | unemitted | spawnLater | spawn | drainEnd => exact forall_mem_nil
  | eventNumbered | flush | drained | undrained => exact forall_mem_singleton rfl
  | _ => cases hparting

end Actions

/-! ### A whole dispatch -/

section Steps

variable {c c' : Controller} {s t u : Session} {request : Request} {o : Outcome Controller Act}
  {a : Act} {acts tail : List Act} {x : Input} {refused : Bool}

theorem Ending.idle {begins : Prop} {reply : Reply} (h : Ending begins s t reply refused)
    (hsettled : reply.isError = true → t.cleanupOperation.isSome = true)
    (hsame : u.phase = t.phase ∧ u.activeOrdinary = t.activeOrdinary ∧
      u.cleanupOperation = t.cleanupOperation) : Ending begins s u reply refused := by
  obtain ⟨hphase, hactive, hcleanup⟩ := hsame
  cases h with
  | same hphase' hactive' hcleanup' _ hbegins =>
    exact .same (hphase.trans hphase') (hactive.trans hactive') (hcleanup.trans hcleanup')
      (fun he => .inr (hcleanup ▸ hsettled he)) hbegins
  | moved hsteady herror hbegins =>
    refine .moved ?_ (hcleanup ▸ herror) hbegins
    rwa [Session.Steady, hphase, hactive, hcleanup]
  | stuck hclosing hnone => exact .stuck (hphase.trans hclosing) (hcleanup.trans hnone)

theorem refusesArming_eq_false
    (h : ∀ r sid workerId reason, a ≠ .armRelease r sid workerId reason) :
    refusesArming (a, x) = false := by
  unfold refusesArming
  split
  · next heq => exact absurd (congrArg Prod.fst heq) (h _ _ _ _)
  · rfl

/-- One action of the serving thread. -/
theorem Stage.step (habout : request.op.about = some s.sessionId)
    (hstage : Stage c s request acts t refused) (hacts : acts = a :: tail)
    (hbusy : ∀ reply, a ≠ .respond request reply) (ht : c'.session s.sessionId = some t)
    (h : c'.perform a x = some o) :
    Next c s request tail o (refused || refusesArming (a, x)) := by
  cases hstage with
  | entering hopen hsame =>
    cases hacts
    cases x <;> simp only [perform, performServe, reduceCtorEq] at h
    cases h
    exact ⟨t, ht, .handling hopen hsame⟩
  | handling hopen hsame =>
    cases hacts
    exact next_handle hopen hsame habout ht h
  | reading hsame hbegins =>
    cases hacts
    cases x <;> simp only [perform, performRequest, reduceCtorEq] at h
    have hid := sessionId_of_session ht
    rw [← hid] at ht h
    rw [touching_eq ht h]
    exact next_put ht hid rfl (.unchanged hsame (.inr hbegins))
  | executing hsame hphase _ =>
    cases hacts
    exact next_executing hsame hphase ht h
  | preparing hsame hsteady hfree =>
    cases hacts
    exact next_preparing hsame hsteady hfree ht h
  | authorizing hsame hphase =>
    cases hacts
    exact next_authorizing hsame hphase ht h
  | leased hsame hphase =>
    cases hacts
    exact next_leased hsame hphase ht h
  | reserving hphase hsteady =>
    cases hacts
    exact next_reserving hphase hsteady ht h
  | reserved hphase hsome hsteady =>
    cases hacts
    exact next_reserved hphase hsome hsteady ht h
  | withdrawing hphase hsteady =>
    cases hacts
    exact next_withdrawing hphase hsteady ht h
  | joining _ hsame hbegins =>
    cases hacts
    exact next_joining hsame hbegins ht h
  | arming hphase hnone hbegins =>
    cases hacts
    exact next_arming hphase hnone hbegins ht h
  | releasing hnone hbegins =>
    cases hacts
    exact next_begun hnone hbegins ht h
  | @armed _ arming workerId reason harming hphase hnone hbegins =>
    cases arming with
    | nil =>
      cases hacts
      cases x <;> simp only [perform, performRequest, reduceCtorEq] at h
      have hid := sessionId_of_session ht
      rw [← hid] at ht h
      rw [touching_eq ht h]
      simp only [hid]
      exact next_put ht hid hid.symm (.releasing hnone hbegins)
    | cons b arming =>
      rw [cons_append] at hacts
      cases hacts
      obtain ⟨hb, harming⟩ := forall_mem_cons.mp harming
      have hperforms := perform_performs h
      obtain ⟨u, hu, hkept⟩ := hperforms.exists_session
        (R := fun s t => s.phase = .closing ∧ s.cleanupOperation = none →
          t.phase = .closing ∧ t.cleanupOperation = none) (fun _ => id)
        (fun _ _ _ hmove => hmove.arming hb) ht
      obtain ⟨hphase', hnone'⟩ := hkept ⟨hphase, hnone⟩
      have hmore := hperforms.arming hb ht hphase
      rw [refusesArming_eq_false (by rintro _ _ _ _ rfl; cases hb)]
      refine ⟨u, hu, ?_⟩
      rw [← append_assoc]
      exact .armed (forall_mem_append.mpr ⟨hmore, harming⟩) hphase' hnone' hbegins
  | @answering _ idle reply _ hidle hsettled hending =>
    cases idle with
    | nil =>
      cases hacts
      exact absurd rfl (hbusy reply)
    | cons b idle =>
      rw [cons_append] at hacts
      cases hacts
      obtain ⟨hb, hidle⟩ := forall_mem_cons.mp hidle
      have hsettled := hsettled.resolve_left (cons_ne_nil _ _)
      have hperforms := perform_performs h
      obtain ⟨u, hu, hkept⟩ := hperforms.exists_session
        (R := fun s t => t.phase = s.phase ∧ t.activeOrdinary = s.activeOrdinary ∧
          t.cleanupOperation = s.cleanupOperation) (fun _ => ⟨rfl, rfl, rfl⟩)
        (fun _ _ _ hmove => hmove.idle hb) ht
      rw [refusesArming_eq_false (by rintro _ _ _ _ rfl; cases hb), Bool.or_false]
      refine ⟨u, hu, ?_⟩
      rw [← append_assoc]
      exact .answering (forall_mem_append.mpr ⟨hperforms.idle hb, hidle⟩)
        (.inr (hkept.2.2 ▸ hsettled)) (hending.idle hsettled hkept)
  | parting hparting =>
    subst hacts
    obtain ⟨ha, htail⟩ := forall_mem_cons.mp hparting
    have hperforms := perform_performs h
    obtain ⟨u, hu, _⟩ := hperforms.exists_session (R := fun _ _ => True) (fun _ => trivial)
      (fun _ _ _ _ => trivial) ht
    rw [refusesArming_eq_false (by rintro _ _ _ _ rfl; cases ha)]
    exact ⟨u, hu, .parting (forall_mem_append.mpr ⟨hperforms.parting ha, htail⟩)⟩

/-- What other threads do leaves the dispatch where it is. -/
theorem Stage.stable (h : Stage c s request acts t refused) (hsame : t.Undisturbed u) :
    Stage c s request acts u refused := by
  have hkept := hsame.kept
  cases h with
  | entering hopen h => exact .entering hopen (h.trans hsame)
  | handling hopen h => exact .handling hopen (h.trans hsame)
  | reading h hbegins => exact .reading (h.trans hsame) hbegins
  | executing h hphase hbegins => exact .executing (h.trans hsame) hphase hbegins
  | preparing h hsteady hfree => exact .preparing (h.trans hsame) hsteady hfree
  | authorizing h hphase => exact .authorizing (h.trans hsame) hphase
  | leased h hphase => exact .leased (h.trans hsame) hphase
  | reserving hphase hsteady => exact .reserving (hkept.phase.trans hphase) hsteady
  | reserved hphase hsome hsteady =>
    obtain ⟨_, _, _, _, rfl, hsome'⟩ := hsame
    exact .reserved hphase (hsome' hsome) hsteady
  | withdrawing hphase hsteady => exact .withdrawing (hkept.phase.symm ▸ hphase) hsteady
  | joining hopen h hbegins => exact .joining hopen (h.trans hsame) hbegins
  | arming hphase hnone hbegins =>
    exact .arming (hkept.phase.trans hphase) (hkept.cleanupOperation.trans hnone) hbegins
  | armed hacts hphase hnone hbegins =>
    exact .armed hacts (hkept.phase.trans hphase) (hkept.cleanupOperation.trans hnone) hbegins
  | releasing hnone hbegins => exact .releasing (hkept.cleanupOperation.trans hnone) hbegins
  | answering hacts hsettled hending =>
    refine .answering hacts (hkept.cleanupOperation.symm ▸ hsettled) ?_
    cases hending with
    | same hphase hactive hcleanup herror hbegins =>
      refine .same (hkept.phase.trans hphase) (hkept.activeOrdinary.trans hactive)
        (hkept.cleanupOperation.trans hcleanup) (fun he => ?_) hbegins
      exact (herror he).imp (·.trans hkept) (hkept.cleanupOperation.symm ▸ ·)
    | moved hsteady herror hbegins =>
      refine .moved ?_ (hkept.cleanupOperation.symm ▸ herror) hbegins
      rwa [Session.Steady, hkept.phase, hkept.activeOrdinary, hkept.cleanupOperation]
    | stuck hphase hnone =>
      exact .stuck (hkept.phase.trans hphase) (hkept.cleanupOperation.trans hnone)
  | parting hacts => exact .parting hacts

/-- The checks of `dispatch`. -/
theorem next_receive (hs : c.session s.sessionId = some s)
    (h : c.perform (.receive request) x = some o) : Next c s request [] o false := by
  cases x <;> simp only [perform, performServe, reduceCtorEq] at h
  cases h
  have hclose : Stage c s request [.close] s false := .parting (forall_mem_singleton rfl)
  unfold admission
  by_cases hclosed : c.closed = true
  · rw [if_pos hclosed]
    refine ⟨s, hs, .unchanged (.refl s) (.inr fun hbegins => ?_)⟩
    rw [hbegins.1] at hclosed
    cases hclosed
  · rw [if_neg hclosed]
    split
    · exact ⟨s, hs, hclose⟩
    · dsimp only
      split
      · exact ⟨s, hs, hclose⟩
      · split
        · exact ⟨s, hs, hclose⟩
        · exact ⟨s, hs, .entering (Bool.not_eq_true _ ▸ hclosed) (.refl s)⟩

end Steps

section Run

variable {p q : Pool Controller Act} {s t : Session} {request : Request}
  {trace : List (Act × Input)}

/-- Where a dispatch is, at any time. -/
theorem Dispatch.stage (h : Dispatch p request s.sessionId trace q)
    (hs : p.shared.session s.sessionId = some s) (habout : request.op.about = some s.sessionId) :
    ∃ acts others t, q.threads = acts :: others ∧ q.shared.session s.sessionId = some t ∧
      Stage p.shared s request acts t (trace.any refusesArming) := by
  induction h with
  | receives _ hperform =>
    obtain ⟨t, ht, hstage⟩ := next_receive hs hperform
    rw [append_nil] at hstage
    exact ⟨_, _, t, rfl, ht, hstage⟩
  | performs _ hthreads hbusy hperform ih =>
    obtain ⟨acts, others, t, hacts, ht, hstage⟩ := ih
    have hacts := (cons.inj (hthreads.symm.trans hacts)).1
    obtain ⟨u, hu, hnext⟩ := hstage.step habout hacts.symm hbusy ht hperform
    refine ⟨_, _, u, rfl, hu, ?_⟩
    rwa [any_append, any_cons, any_nil, Bool.or_false]
  | others _ _ hfirst ht hu hsame ih =>
    obtain ⟨acts, others, t', hacts, ht', hstage⟩ := ih
    cases ht.symm.trans ht'
    rw [hacts, head?_cons] at hfirst
    obtain ⟨others', hthreads⟩ := head?_eq_some_iff.mp hfirst
    exact ⟨acts, others', _, hthreads, hu, hstage.stable hsame⟩

theorem sound_of_ending {begins : Prop} {reply : Reply} {refused : Bool}
    (h : Ending begins s t reply refused) :
    Sound s t reply ↔ ¬ refused = true ∧ (s.Steady ∨ begins) := by
  cases h with
  | same hphase hactive hcleanup hkept hbegins =>
    have hsteady : t.Steady ↔ s.Steady := by
      rw [Session.Steady, Session.Steady, hphase, hactive, hcleanup]
    refine ⟨fun h => ⟨nofun, .inl (hsteady.mp h.2)⟩, fun h => ⟨hkept, hsteady.mpr ?_⟩⟩
    rcases hbegins with h' | h'
    · exact h'
    · exact h.2.resolve_right h'
  | moved hsteady herror hbegins =>
    exact ⟨fun _ => ⟨nofun, hbegins⟩, fun _ => ⟨fun he => .inr (herror he), hsteady⟩⟩
  | stuck hphase hnone =>
    refine ⟨fun h => ?_, fun h => absurd rfl h.1⟩
    have hset := h.2.2 hphase
    rw [hnone] at hset
    cases hset

/-- A dispatch that has come to its answer has left the session alone or begun
    its cleanup, and the session is between no two phases, exactly if the
    backend did not refuse the release and the session was steady before or the
    request begins its cleanup. -/
theorem sound_iff {reply : Reply} {others : List (List Act)}
    (hs : p.shared.session s.sessionId = some s) (habout : request.op.about = some s.sessionId)
    (hdispatch : Dispatch p request s.sessionId trace q)
    (hanswer : q.threads = [.respond request reply] :: others)
    (ht : q.shared.session s.sessionId = some t) :
    Sound s t reply ↔
      ¬ ArmRefused trace ∧ (s.Steady ∨ BeginsCleanup p.shared s request) := by
  obtain ⟨acts, others', t', hacts, ht', hstage⟩ := hdispatch.stage hs habout
  cases ht.symm.trans ht'
  have hacts := (List.cons.inj (hanswer.symm.trans hacts)).1
  generalize hrefused : trace.any refusesArming = refused at hstage
  rw [ArmRefused, hrefused]
  cases hstage with
  | @answering _ acts reply' _ _ _ hending =>
    have hnil : acts = [] := by
      cases acts with
      | nil => rfl
      | cons b rest => simp at hacts
    subst hnil
    cases hacts
    exact sound_of_ending hending
  | @armed _ acts =>
    cases acts with
    | nil => cases hacts
    | cons b rest => simp at hacts
  | parting hparting =>
    subst hacts
    cases hparting _ List.mem_cons_self
  | _ => cases hacts

end Run

/-! ### Two dispatches -/

/-- The serving thread goes on with these inputs, and no other thread comes
    between. -/
def advance (trace : List (Act × Input)) (q : Pool Controller Act) :
    List Input → Option (List (Act × Input) × Pool Controller Act)
  | [] => some (trace, q)
  | x :: inputs =>
    match q.threads with
    | (a :: tail) :: others =>
      if a.isRespond then none
      else
        match q.shared.perform a x with
        | some o =>
          advance (trace ++ [(a, x)]) ⟨o.shared, (o.more ++ tail) :: (others ++ o.spawned)⟩ inputs
        | none => none
    | _ => none

/-- A request that was received is dispatched with these inputs. -/
def dispatched (p : Pool Controller Act) (request : Request) (inputs : List Input) :
    Option (List (Act × Input) × Pool Controller Act) :=
  if p.threads.head? = some [.receive request] then
    match p.shared.perform (.receive request) .done with
    | some o => advance [] ⟨o.shared, o.more :: (p.threads.tail ++ o.spawned)⟩ inputs
    | none => none
  else none

section Computed

variable {p q q' : Pool Controller Act} {request : Request} {sid : String}
  {trace trace' : List (Act × Input)} {inputs : List Input}

theorem Dispatch.advance (h : Dispatch p request sid trace q)
    (hrun : Controller.advance trace q inputs = some (trace', q')) :
    Dispatch p request sid trace' q' := by
  induction inputs generalizing trace q with
  | nil =>
    cases hrun
    exact h
  | cons x inputs ih =>
    rw [Controller.advance] at hrun
    split at hrun
    · next a tail others hthreads =>
      split at hrun
      · cases hrun
      · next hbusy =>
        split at hrun
        · next o hperform =>
          refine ih (h.performs hthreads ?_ hperform) hrun
          rintro reply rfl
          exact hbusy rfl
        · cases hrun
    · cases hrun

theorem dispatch_of_dispatched (h : dispatched p request inputs = some (trace, q)) :
    Dispatch p request sid trace q := by
  unfold dispatched at h
  split at h
  · next hfirst =>
    obtain ⟨others, hthreads⟩ := head?_eq_some_iff.mp hfirst
    split at h
    · next o hperform =>
      rw [hthreads, tail_cons] at h
      exact (Dispatch.receives hthreads hperform).advance h
    · cases h
  · cases h

end Computed

/-- A session is opened, prepared and authorized, and a worker is reserved for it. -/
def reserving (sid : String) : List (Nat × Input) :=
  answering ⟨1, .hello [1, 2] []⟩ [.capabilities []] ++ flushing 0 ++
    answering ⟨2, .sessionOpen false⟩
      [.done, .opened sid "interface" "manifest", .done, .done] ++ flushing 0 ++
    answering ⟨3, .sessionPrepare sid⟩ [.done, .done, .done] ++ flushing 0 ++
    ([.done, .prepared ⟨"artifact", "hash", "manifest", "node", "policy", "challenge", none⟩, .done,
      .done, .done, .done, .sent true, .done, .done].map fun input => (2, input)) ++
    answering ⟨4, .sessionAuthorize sid 1 "challenge" "interface"⟩
      [.done, .leased 7, .token "authorization"] ++ flushing 0 ++
    answering ⟨5, .workerAcquire sid "authorization"⟩
      [.token "worker", .reserved ⟨0, 0, sid, "worker", "token", 7⟩, .done] ++ flushing 0

/-- The worker of a session is to be released. -/
def releaseRequest (sid : String) : Request := ⟨6, .workerRelease sid "worker" .normal⟩

/-- A connection on which that has been received. -/
def releaseReceived : Option (Pool Controller Act) :=
  (connect 1).run perform (fun _ _ _ => True)
    (reserving "s" ++ [(0, .request (releaseRequest "s"))])

/-- What is looked at of its dispatch: the phase of the session before, its phase
    and its cleanup after, the reply and whether the backend refused. -/
structure Glance where
  phase : SessionPhase
  phaseAfter : SessionPhase
  cleanupAfter : Option Nat
  reply : Reply
  refused : Bool
deriving DecidableEq

def glance (inputs : List Input) : Option Glance :=
  match releaseReceived with
  | none => none
  | some p =>
    match dispatched p (releaseRequest "s") inputs with
    | none => none
    | some (trace, q) =>
      match p.shared.session "s", q.shared.session "s", q.threads with
      | some s, some t, [.respond request reply] :: _ =>
        if request = releaseRequest "s" then
          some ⟨s.phase, t.phase, t.cleanupOperation, reply, trace.any refusesArming⟩
        else none
      | _, _, _ => none

theorem exists_dispatch {inputs : List Input} {g : Glance} (h : glance inputs = some g) :
    ∃ p q s t trace others, Pool.Reaches perform (fun _ _ _ => True) (connect 1) p ∧
      p.shared.session s.sessionId = some s ∧
      (releaseRequest "s").op.about = some s.sessionId ∧
      Dispatch p (releaseRequest "s") s.sessionId trace q ∧
      q.threads = [.respond (releaseRequest "s") g.reply] :: others ∧
      q.shared.session s.sessionId = some t ∧ s.phase = g.phase ∧ t.phase = g.phaseAfter ∧
      t.cleanupOperation = g.cleanupAfter ∧ trace.any refusesArming = g.refused := by
  unfold glance at h
  split at h
  · cases h
  · next p hp =>
    split at h
    · cases h
    · next trace q hdispatched =>
      split at h
      · next s t request reply others hs ht hthreads =>
        split at h
        · next hrequest =>
          cases h
          cases hrequest
          have hid := sessionId_of_session hs
          exact ⟨p, q, s, t, trace, others, Pool.reaches_of_run hp, hid ▸ hs, hid ▸ rfl,
            dispatch_of_dispatched hdispatched, hthreads, hid ▸ ht, rfl, rfl, rfl, rfl⟩
        · cases h
      · cases h

/-- The worker is armed, and the release begins the cleanup. -/
theorem sound_iff_armedRelease : ∃ p q s t trace,
    Pool.Reaches perform (fun _ _ _ => True) (connect 1) p ∧
    Dispatch p (releaseRequest "s") s.sessionId trace q ∧ t.phase = .closing ∧
    Sound s t (.released 2 .terminateOnly) := by
  have hrun : glance [.done, .done, .done, .worker .done, .worker .done, .done, .done, .done,
      .worker .done, .done, .done, .done] =
      some ⟨.reserved, .closing, some 2, .released 2 .terminateOnly, false⟩ := by
    decide
  obtain ⟨p, q, s, t, trace, others, hp, hs, habout, hdispatch, hanswer, ht, hphase, hclosing, _,
    hrefused⟩ := exists_dispatch hrun
  refine ⟨p, q, s, t, trace, hp, hdispatch, hclosing,
    (sound_iff hs habout hdispatch hanswer ht).mpr ⟨?_, .inl (steady_of_phase ?_)⟩⟩
  · rw [ArmRefused, hrefused]
    decide
  · rw [hphase]
    decide

/-- The backend refuses to arm the worker: the request fails, and the session
    is marked as closing without a cleanup. -/
theorem refusedRelease_not_sound : ∃ p q s t trace others reply,
    Pool.Reaches perform (fun _ _ _ => True) (connect 1) p ∧
    p.shared.session s.sessionId = some s ∧ (releaseRequest "s").op.about = some s.sessionId ∧
    Dispatch p (releaseRequest "s") s.sessionId trace q ∧
    q.threads = [.respond (releaseRequest "s") reply] :: others ∧
    q.shared.session s.sessionId = some t ∧ s.Steady ∧ reply.isError = true ∧
    t.phase = .closing ∧ t.cleanupOperation = none ∧ ¬ Sound s t reply := by
  have hrun : glance [.done, .done, .raised ⟨some .handleInvalid, some .cleanup,
      "worker reservation is unknown"⟩] =
      some ⟨.reserved, .closing, none, .error ⟨.handleInvalid, .cleanup,
        "worker reservation is unknown"⟩, true⟩ := by
    decide
  obtain ⟨p, q, s, t, trace, others, hp, hs, habout, hdispatch, hanswer, ht, hphase, hclosing,
    hnone, _⟩ := exists_dispatch hrun
  refine ⟨p, q, s, t, trace, others, _, hp, hs, habout, hdispatch, hanswer, ht,
    steady_of_phase (by rw [hphase]; decide), rfl, hclosing, hnone, fun hsound => ?_⟩
  have hset := hsound.2.2 hclosing
  rw [hnone] at hset
  cases hset

end Controller

end MirrorGate.Control
