import MirrorGate.Control.Serving

/-!
# Cleanup Is Final and Joined

Once the cleanup of a session has begun, nothing takes it back. The session
stays in one of the three phases of its end, no operation is added, and the
cleanup operation stays in the table although finished operations are evicted:
eviction takes the oldest, and the cleanup operation is the last. Requests for
the cleanup that come later join it and are answered with its number. When the
controller has been closed, every session has a cleanup operation.

The phase is written in many places. Each of them either looks at the phase
first or writes one of the three, which is what `Keeps` says.

## Main definitions

* `Session.Sound`: The invariant of a session.
* `Session.Follows`: What stays of a session once its cleanup has begun.
* `Request.Answered`: The answer to a request that joins a cleanup.

## Theorems

* `Section.keeps`, `Moves.sound`: What one action does to a session.
* `Joined.step`, `Closing.step`: What one step does to the requests that come
  later, and to the sessions of a controller that is being closed.
* `cleanup_final`: Cleanup is final and joined.
-/

namespace MirrorGate.Control

open List

variable {maxCompleted : Nat}

namespace Session

/-- Operations have numbers below the next one. Once the cleanup has begun the
    session is ending, and the cleanup operation is the last one and in the
    table. -/
structure Sound (s : Session) : Prop where
  fresh : ∀ op ∈ s.operations, op.operationId < s.nextOperationId
  final : ∀ id, s.cleanupOperation = some id → s.phase.Ending ∧
    ∃ front op, s.operations = front ++ [op] ∧ op.operationId = id ∧ op.listed = true ∧
      ∀ x ∈ front, x.operationId ≠ id

/-- What stays of a session once its cleanup has begun. -/
def Follows (s t : Session) : Prop :=
  ∀ id, s.cleanupOperation = some id → t.cleanupOperation = some id ∧
    t.operations.map (·.operationId) = s.operations.map (·.operationId) ∧
    t.workerId = s.workerId

/-- A change that neither begins the cleanup nor touches the table of
    operations, and respects a session that is ending. -/
structure Keeps (s t : Session) : Prop where
  cleanup : t.cleanupOperation = s.cleanupOperation
  next : t.nextOperationId = s.nextOperationId
  ending : s.phase.Ending → t.phase.Ending ∧ t.workerId = s.workerId
  operations : ∃ f : Operation → Operation, (∀ op, (f op).operationId = op.operationId) ∧
    (∀ op, op.listed = true → (f op).listed = true) ∧ t.operations = s.operations.map f

variable {s t : Session}

theorem Follows.refl (s : Session) : s.Follows s := fun _ h => ⟨h, rfl, rfl⟩

theorem Follows.trans {u : Session} (hst : s.Follows t) (htu : t.Follows u) : s.Follows u := by
  intro id h
  obtain ⟨hcleanup, hids, hworker⟩ := hst id h
  obtain ⟨hcleanup', hids', hworker'⟩ := htu id hcleanup
  exact ⟨hcleanup', hids'.trans hids, hworker'.trans hworker⟩

/-- A session that is not ending has not begun its cleanup. -/
theorem Sound.cleanupOperation_eq_none (hs : s.Sound) (h : ¬ s.phase.Ending) :
    s.cleanupOperation = none := by
  by_contra hne
  obtain ⟨id, hid⟩ := Option.ne_none_iff_exists'.mp hne
  exact h (hs.final id hid).1

theorem Keeps.sound (h : s.Keeps t) (hs : s.Sound) : t.Sound := by
  obtain ⟨f, hid, hlisted, hoperations⟩ := h.operations
  constructor
  · intro op hop
    rw [hoperations, mem_map] at hop
    obtain ⟨op, hop, rfl⟩ := hop
    rw [hid, h.next]
    exact hs.fresh op hop
  · intro id hcleanup
    rw [h.cleanup] at hcleanup
    obtain ⟨hending, front, op, hops, rfl, hop, hfront⟩ := hs.final id hcleanup
    refine ⟨(h.ending hending).1, front.map f, f op, ?_, hid op, hlisted op hop, ?_⟩
    · rw [hoperations, hops, map_append, map_singleton]
    · intro x hx
      obtain ⟨y, hy, rfl⟩ := mem_map.mp hx
      rw [hid]
      exact hfront y hy

theorem Keeps.follows (h : s.Keeps t) (hs : s.Sound) : s.Follows t := by
  intro id hcleanup
  obtain ⟨f, hid, -, hoperations⟩ := h.operations
  refine ⟨h.cleanup.trans hcleanup, ?_, (h.ending (hs.final id hcleanup).1).2⟩
  rw [hoperations, map_map]
  exact map_congr_left fun op _ => hid op

/-! ### Changes that keep the table -/

theorem Keeps.of_eq (hcleanup : t.cleanupOperation = s.cleanupOperation)
    (hnext : t.nextOperationId = s.nextOperationId)
    (hending : s.phase.Ending → t.phase.Ending ∧ t.workerId = s.workerId)
    (hoperations : t.operations = s.operations) : s.Keeps t :=
  ⟨hcleanup, hnext, hending, id, fun _ => rfl, fun _ h => h, by rw [hoperations, map_id]⟩

theorem keeps_updateOperation {id : Nat} {f : Operation → Operation}
    (hid : ∀ op, (f op).operationId = op.operationId)
    (hlisted : ∀ op, op.listed = true → (f op).listed = true) :
    s.Keeps (s.updateOperation id f) := by
  refine ⟨rfl, rfl, fun h => ⟨h, rfl⟩, fun op => if op.operationId = id then f op else op, ?_, ?_,
    rfl⟩
  · intro op
    dsimp only
    split
    · exact hid op
    · rfl
  · intro op hop
    dsimp only
    split
    · exact hlisted op hop
    · exact hop

theorem keeps_adopting (hosting : Hosting) : s.Keeps (s.adopting hosting) := by
  refine .of_eq rfl rfl (fun hending => ⟨?_, rfl⟩) rfl
  have hnot : ¬ (s.hosting.Adopts ∧ ¬ s.phase.Ending) := fun h => h.2 hending
  simp only [adopting, if_neg hnot]
  exact hending

/-! ### The other changes -/

theorem newOperation_eq_ok {id : Nat} (h : s.newOperation = .ok (t, id)) :
    ¬ s.phase.Ending ∧ t = { s with
      operations := s.operations ++ [{ operationId := s.nextOperationId }]
      nextOperationId := s.nextOperationId + 1
      activeOrdinary := some (.operation s.nextOperationId) } := by
  unfold newOperation at h
  split at h
  · cases h
  · next hending =>
    split at h
    · cases h
    · cases h
      exact ⟨hending, rfl⟩

theorem Sound.newOperation {id : Nat} (hs : s.Sound) (h : s.newOperation = .ok (t, id)) :
    t.Sound ∧ s.Follows t := by
  obtain ⟨hending, rfl⟩ := newOperation_eq_ok h
  have hnone := hs.cleanupOperation_eq_none hending
  refine ⟨⟨?_, ?_⟩, ?_⟩
  · intro op hop
    rcases mem_append.mp hop with hop | hop
    · exact Nat.lt_succ_of_lt (hs.fresh op hop)
    · rw [mem_singleton] at hop
      subst hop
      exact Nat.lt_succ_self _
  · intro id hid
    rw [hnone] at hid
    cases hid
  · intro id hid
    rw [hnone] at hid
    cases hid

theorem Sound.beginCleanup (hs : s.Sound) (hnone : s.cleanupOperation = none) (reason : Reason)
    (advertise : Bool) : (s.beginCleanup reason advertise).Sound ∧
      s.Follows (s.beginCleanup reason advertise) := by
  -- The records that are told to stop keep their numbers.
  have hlt : ∀ op ∈ s.operations.map (fun op : Operation =>
      if op.status = .pending then { op with cancel := true } else op),
      op.operationId < s.nextOperationId := by
    intro op hop
    obtain ⟨x, hx, rfl⟩ := mem_map.mp hop
    have := hs.fresh x hx
    split <;> exact this
  refine ⟨⟨?_, ?_⟩, ?_⟩
  · intro op hop
    rcases mem_append.mp hop with hop | hop
    · exact Nat.lt_succ_of_lt (hlt op hop)
    · rw [mem_singleton] at hop
      subst hop
      exact Nat.lt_succ_self _
  · intro id hid
    cases hid
    exact ⟨.inl rfl, _, _, rfl, rfl, rfl, fun x hx => Nat.ne_of_lt (hlt x hx)⟩
  · intro id hid
    rw [hnone] at hid
    cases hid

/-- Marking never reaches the last record when fewer are to go than have
    finished. -/
theorem unlist_append_singleton {k : Nat} {front : List Operation} {op : Operation}
    (h : k ≤ front.countP (fun x => x.listed && x.status ≠ .pending) ∨ op.status = .pending) :
    unlist k (front ++ [op]) = unlist k front ++ [op] := by
  induction front generalizing k with
  | nil =>
    cases k with
    | zero => rfl
    | succ k =>
      rcases h with h | h
      · simp at h
      · simp [unlist, h]
  | cons x front ih =>
    cases k with
    | zero => simp [unlist]
    | succ k =>
      simp only [cons_append, unlist]
      by_cases hx : x.listed = true ∧ x.status ≠ .pending
      · rw [if_pos hx, if_pos hx, cons_append, ih]
        refine h.imp_left fun h => ?_
        rw [countP_cons_of_pos (by simpa using hx)] at h
        omega
      · rw [if_neg hx, if_neg hx, cons_append, ih]
        refine h.imp_left fun h => ?_
        rwa [countP_cons_of_neg (by simpa using hx)] at h

theorem map_operationId_unlist (k : Nat) (ops : List Operation) :
    (unlist k ops).map (·.operationId) = ops.map (·.operationId) := by
  induction ops generalizing k with
  | nil => cases k <;> rfl
  | cons op ops ih =>
    cases k with
    | zero => rfl
    | succ k =>
      simp only [unlist]
      split <;> simp only [map_cons, ih]

theorem Sound.evict (hs : s.Sound) (hmax : 1 ≤ maxCompleted) :
    (s.evict maxCompleted).Sound ∧ s.Follows (s.evict maxCompleted) := by
  have hids : (s.evict maxCompleted).operations.map (·.operationId) =
      s.operations.map (·.operationId) := map_operationId_unlist _ _
  refine ⟨⟨?_, ?_⟩, fun id hid => ⟨hid, hids, rfl⟩⟩
  · intro op hop
    have hmem : op.operationId ∈ s.operations.map (·.operationId) :=
      hids ▸ mem_map_of_mem hop
    obtain ⟨x, hx, hxid⟩ := mem_map.mp hmem
    exact hxid ▸ hs.fresh x hx
  · intro id hid
    obtain ⟨hending, front, op, hops, rfl, hlisted, hfront⟩ := hs.final id hid
    -- At least one finished record stays, and the cleanup is the last one.
    have hstays : (s.operations.countP fun x => x.listed && x.status ≠ .pending) - maxCompleted ≤
        front.countP (fun x => x.listed && x.status ≠ .pending) ∨ op.status = .pending := by
      by_cases hpending : op.status = .pending
      · exact .inr hpending
      · rw [hops, countP_append, countP_singleton, if_pos (by simp [hlisted, hpending])]
        omega
    refine ⟨hending, unlist ((s.operations.countP fun x => x.listed && x.status ≠ .pending) -
      maxCompleted) front, op, ?_, rfl, hlisted, ?_⟩
    · rw [← unlist_append_singleton hstays, ← hops]
      rfl
    · intro x hx
      have hmem : x.operationId ∈ front.map (·.operationId) :=
        map_operationId_unlist _ front ▸ mem_map_of_mem hx
      obtain ⟨y, hy, hyid⟩ := mem_map.mp hmem
      exact hyid ▸ hfront y hy

/-- The cleanup operation is found, and in the table. -/
theorem Sound.operation (hs : s.Sound) {id : Nat} (h : s.cleanupOperation = some id) :
    ∃ op, s.operation id = some op ∧ op.listed = true := by
  obtain ⟨-, front, op, hops, hid, hlisted, hfront⟩ := hs.final id h
  refine ⟨op, ?_, hlisted⟩
  have hnone : front.find? (fun x => decide (x.operationId = id)) = none := by
    rw [find?_eq_none]
    intro x hx
    simpa using hfront x hx
  rw [Session.operation, hops, find?_append, hnone]
  simp [hid]

end Session

/-- The reply to a request that joins the cleanup operation. -/
def Request.Answered (r : Request) (operationId : Nat) (reply : Reply) : Prop :=
  match r.op with
  | .workerRelease _ _ _ => ∃ mode, reply = .released operationId mode
  | _ => reply = .accepted operationId

/-- What waits for the number of the cleanup operation answers with it. -/
def After.Answers (after : After) (r : Request) : Prop :=
  ∀ id, ∃ reply, after.acts id = [.respond r reply] ∧ r.Answered id reply

namespace Controller

open Session

variable {c : Controller} {a : Act} {s t : Session} {more : List Act}

/-- A section keeps the table, adds an operation, begins the cleanup or
    evicts. -/
theorem Section.keeps (h : Section c s a t more) :
    s.Keeps t ∨ (∃ id, s.newOperation = .ok (t, id)) ∨
      (∃ reason advertise, s.cleanupOperation = none ∧ t = s.beginCleanup reason advertise) ∨
      t = s.evict c.maxCompleted := by
  have hplain : ∀ u : Session, u.cleanupOperation = s.cleanupOperation →
      u.nextOperationId = s.nextOperationId → u.phase = s.phase → u.workerId = s.workerId →
      u.operations = s.operations → s.Keeps u :=
    fun u hcleanup hnext hphase hworker hops =>
      .of_eq hcleanup hnext (fun h => ⟨hphase ▸ h, hworker⟩) hops
  cases h with
  | newOperation h => exact .inr (.inl ⟨_, h⟩)
  | cleanupBegun h => exact .inr (.inr (.inl ⟨_, _, h, rfl⟩))
  | evict => exact .inr (.inr (.inr rfl))
  | prepareBegin _ h =>
    unfold Session.prepareBegin at h
    split at h
    · cases h
    · next hphase =>
      cases h
      refine .inl (.of_eq rfl rfl (fun hending => absurd hending ?_) rfl)
      rw [not_or] at hphase
      intro hending
      apply hphase.1
      rcases hending with h | h | h <;> simp [h]
  | acquire _ h =>
    unfold Session.acquire at h
    split at h
    · cases h
    · next hphase =>
      cases h
      refine .inl (.of_eq rfl rfl (fun hending => absurd hending ?_) rfl)
      rw [not_or, not_not] at hphase
      rw [hphase.1]
      decide
  | authorizeCommit _ h =>
    unfold Session.authorizeCommit at h
    split at h
    · cases h
    · next hphase =>
      cases h
      refine .inl (.of_eq rfl rfl (fun hending => absurd hending ?_) rfl)
      rw [not_not] at hphase
      rw [hphase]
      decide
  | prepareCommit h =>
    unfold Session.prepareCommit at h
    split at h
    · cases h
    · split at h
      · cases h
      · next hphase =>
        cases h
        refine .inl (.of_eq rfl rfl (fun hending => absurd hending ?_) rfl)
        rw [not_not] at hphase
        rw [hphase]
        decide
  | releaseBegin => exact .inl (.of_eq rfl rfl (fun _ => ⟨.inl rfl, rfl⟩) rfl)
  | cleanupEnd =>
    refine .inl (.of_eq rfl rfl (fun _ => ⟨?_, rfl⟩) rfl)
    simp only [cleanupCommit]
    split
    · exact .inr (.inl rfl)
    · exact .inr (.inr rfl)
  | releaseAbort | releasedAbort | backendAbort | endAbort =>
    exact .inl (.of_eq rfl rfl (fun _ => ⟨.inr (.inr rfl), rfl⟩) rfl)
  | cleanupAdvertised => exact .inl (keeps_updateOperation (fun _ => rfl) fun _ h => h)
  | finishEvent =>
    left
    unfold Session.finishEvent
    split
    · split
      · exact keeps_updateOperation (fun _ => rfl) fun _ h => h
      · exact hplain _ rfl rfl rfl rfl rfl
    · exact hplain _ rfl rfl rfl rfl rfl
  | closedEvent =>
    left
    unfold Session.closedEvent
    split <;> exact hplain _ rfl rfl rfl rfl rfl
  | @finish id status _ =>
    have h : s.Keeps (s.updateOperation id fun op => { op with status := status }) :=
      keeps_updateOperation (fun _ => rfl) fun _ h => h
    exact .inl ⟨h.cleanup, h.next, h.ending, h.operations⟩
  | agentCancel | joinCancel | terminal | submitBegun | submitEnded | submitCommit | submitLate
  | submitFailed => exact .inl (keeps_adopting _)
  | workerNotify =>
    left
    unfold Session.workerEvent
    split
    · refine .of_eq rfl rfl (fun hending => ⟨?_, rfl⟩) rfl
      rw [if_neg]
      · exact hending
      · rintro h
        rw [h] at hending
        revert hending
        decide
    · exact hplain _ rfl rfl rfl rfl rfl
    · exact hplain _ rfl rfl rfl rfl rfl
  | _ => exact .inl (hplain _ rfl rfl rfl rfl rfl)

theorem Moves.sound (h : Moves c a s t) (hmax : 1 ≤ c.maxCompleted) (hs : s.Sound) :
    t.Sound ∧ s.Follows t := by
  have hkeeps : s.Keeps t → t.Sound ∧ s.Follows t := fun h => ⟨h.sound hs, h.follows hs⟩
  cases h with
  | locked _ h =>
    rcases h.keeps with h | ⟨id, h⟩ | ⟨reason, advertise, hnone, rfl⟩ | rfl
    · exact hkeeps h
    · exact hs.newOperation h
    · exact hs.beginCleanup hnone reason advertise
    · exact hs.evict hmax
  | unlocked h =>
    refine hkeeps ?_
    cases h with
    | chunk =>
      refine keeps_updateOperation (fun op => ?_) fun op h => ?_
      all_goals unfold countBytes
      · split <;> rfl
      · split <;> exact h
    | drained => exact keeps_updateOperation (fun _ => rfl) fun _ h => h
    | _ => exact .of_eq rfl rfl (fun h => ⟨h, rfl⟩) rfl
  | streamed => exact hkeeps (keeps_updateOperation (fun _ => rfl) fun _ h => h)
  | reserve | reservation => exact hkeeps (.of_eq rfl rfl (fun h => ⟨h, rfl⟩) rfl)
  | guarded _ _ _ hphase =>
    refine hkeeps (.of_eq rfl rfl (fun hending => absurd hending ?_) rfl)
    rw [hphase]
    decide

/-! ### Requests that come later -/

/-- An action on the way from the admission of a request that joins the
    cleanup of the session to its answer. -/
def OnTheWay (sid : String) (id : Nat) : Act → Prop
  | .receive _ | .enter _ | .handle _ => True
  | .respond r reply => r.Answered id reply
  | .cleanup sid' _ _ _ after _ => sid' = sid ∧ ∀ r, after.request = some r → after.Answers r
  | _ => False

/-- The cleanup of a session has begun, and requests after the given one that
    join it are on their way to the answer or have it. -/
structure Joined (s : Session) (id lastRequestId : Nat) (p : Pool Controller Act) : Prop where
  session : ∃ t, p.shared.session s.sessionId = some t ∧ t.Sound ∧ s.Follows t
  pending : ∀ a ∈ p.pending, ∀ r, a.request = some r → lastRequestId < r.id → s.Joins r →
    OnTheWay s.sessionId id a
  stream : ∀ r reply, .response r reply ∈ p.shared.stream → lastRequestId < r.id → s.Joins r →
    r.Answered id reply

theorem joins_congr {r : Request} (hid : t.sessionId = s.sessionId)
    (hworker : t.workerId = s.workerId) : t.Joins r ↔ s.Joins r := by
  simp only [Session.Joins, hid, hworker]

variable {id : Nat}

/-- The first action of the handler of a request that joins a cleanup leads on
    to the cleanup. -/
theorem Performs.handle_onTheWay {r : Request}
    (h : Performs c (.handle r) o) (ht : c.session s.sessionId = some t)
    (hcleanup : t.cleanupOperation = some id) (hworker : t.workerId = s.workerId)
    (hjoins : s.Joins r) {b : Act} (hb : b ∈ o.more) {r' : Request} (hr : b.request = some r') :
    OnTheWay s.sessionId id b := by
  have htid := sessionId_of_session ht
  -- The session is known, so that the request is not refused.
  have hnot : ¬ c.Refusable r := fun h => h _ t ht ((joins_congr htid hworker).mpr hjoins)
  cases h with
  | locked hs hfree h =>
    cases h with
    | refuse h => exact absurd h hnot
    | releaseBegin hop _ hnone =>
      simp only [Session.Joins, hop] at hjoins
      rw [hjoins.1, ht] at hs
      cases hs
      rw [hcleanup] at hnone
      cases hnone
    | releaseJoin hop =>
      simp only [Session.Joins, hop] at hjoins
      rw [mem_singleton] at hb
      subst hb
      refine ⟨hjoins.1, fun r' hr' id => ?_⟩
      cases hr'
      exact ⟨_, rfl, by simp [Request.Answered, hop]⟩
    | sessionCancel hop | sessionClose hop =>
      simp only [Session.Joins, hop] at hjoins
      rw [mem_singleton] at hb
      subst hb
      refine ⟨hjoins, fun r' hr' id => ?_⟩
      cases hr'
      exact ⟨_, rfl, by simp [Request.Answered, hop]⟩
    | exec hop | prepareBegin hop | authorizeCheck hop | acquire hop | sessionStatus hop
    | operationStatus hop | agentStart hop | agentStatus hop | agentCancel hop =>
      simp only [Session.Joins, hop] at hjoins
  | unlocked _ h => cases h
  | passes h =>
    cases h with
    | refuse h => exact absurd h hnot
    | openBegin hop => simp only [Session.Joins, hop] at hjoins
  | hello hop => simp only [Session.Joins, hop] at hjoins

variable {sid : String} {t : Session}

/-- Joining a cleanup that has begun leads to the answer. -/
theorem Performs.cleanup_onTheWay {reason : Reason}
    {workerId : Option String} {advertise : Bool} {after : After} {server : Bool}
    (h : Performs c (.cleanup sid reason workerId advertise after server) o)
    (ht : c.session sid = some t) (hsound : t.Sound) (hcleanup : t.cleanupOperation = some id)
    (hafter : ∀ r, after.request = some r → after.Answers r) {b : Act} (hb : b ∈ o.more)
    {r : Request} (hr : b.request = some r) : OnTheWay sid id b := by
  -- What is left of the request are the actions that answer it.
  have hacts : b ∈ after.acts id → OnTheWay sid id b := by
    intro hb
    have hr' := (for_acts after id b hb).2 r hr
    obtain ⟨reply, hreply, hanswered⟩ := hafter r hr' id
    rw [hreply, mem_singleton] at hb
    subst hb
    exact hanswered
  cases h with
  | locked hs hfree h =>
    cases h with
    | cleanupBegun hnone =>
      cases ht.symm.trans hs
      cases hcleanup.symm.trans hnone
    | cleanupJoined hsome =>
      cases ht.symm.trans hs
      cases hcleanup.symm.trans hsome
      exact hacts hb
    | cleanupAdvertised hsome =>
      cases ht.symm.trans hs
      cases hcleanup.symm.trans hsome
      rcases mem_append.mp hb with hb | hb
      · split at hb
        · rw [mem_singleton] at hb
          subst hb
          cases hr
        · cases hb
      · exact hacts hb
    | cleanupMissing hsome hmissing =>
      cases ht.symm.trans hs
      cases hcleanup.symm.trans hsome
      obtain ⟨op, hop, hlisted⟩ := hsound.operation hcleanup
      rw [hop] at hmissing
      exact absurd hlisted (by simpa using hmissing)
  | unlocked _ h => cases h
  | passes h => cases h

variable {C : Controller → Act → Input → Prop} {p q : Pool Controller Act}

/-- One step keeps the cleanup and the requests that join it. -/
theorem Joined.step
    {lastRequestId : Nat} (hp : Joined s id lastRequestId p) (hserving : Serving p)
    (hmax : 1 ≤ p.shared.maxCompleted) (hid : s.cleanupOperation = some id)
    (h : Pool.Step perform C p q) : Joined s id lastRequestId q := by
  obtain ⟨a, x, o, ha, ho, -, hshared, hpending⟩ := h.exists_performed
  have hperforms := perform_performs ho
  obtain ⟨t, ht, hsound, hfollows⟩ := hp.session
  have hcleanup := (hfollows id hid).1
  have hworker := (hfollows id hid).2.2
  refine ⟨?_, ?_, ?_⟩
  · rw [hshared]
    obtain ⟨u, hu, hfrom⟩ := hperforms.exists_session
      (R := fun t u => t.Sound → u.Sound ∧ t.Follows u) (fun t h => ⟨h, .refl t⟩)
      (fun t u _ hmove h => hmove.sound hmax h) ht
    exact ⟨u, hu, (hfrom hsound).1, hfollows.trans (hfrom hsound).2⟩
  · intro b hb r hr hlater hjoins
    rcases hpending b hb with hb | hb | hb
    · exact hp.pending b hb r hr hlater hjoins
    · by_cases hserve : a = .serve
      · subst hserve
        cases hperforms with
        | locked _ _ h => cases h
        | unlocked _ h => cases h
        | passes h =>
          cases h <;> rw [mem_singleton] at hb <;> subst hb
          · trivial
          · cases hr
            exact hjoins.elim
          · cases hr
      · have hra := (hperforms.for hserve b hb).2 r hr
        have hway := hp.pending a ha r hra hlater hjoins
        cases a <;> first | exact hway.elim | skip
        case receive r' =>
          cases hperforms with
          | locked _ _ h => cases h
          | unlocked _ h => cases h
          | passes h =>
            cases h with
            | admitClosed hclosed =>
              rw [hserving.open ha rfl] at hclosed
              cases hclosed
            | admitStale =>
              rw [mem_singleton] at hb
              subst hb
              cases hr
          | admitFatal =>
            rw [mem_singleton] at hb
            subst hb
            cases hr
          | admitted =>
            rw [mem_singleton] at hb
            subst hb
            trivial
        case enter r' =>
          cases hperforms with
          | locked _ _ h => cases h
          | unlocked _ h => cases h
          | passes h => cases h
          | enter =>
            rw [mem_singleton] at hb
            subst hb
            trivial
        case handle r' =>
          cases hra
          exact hperforms.handle_onTheWay ht hcleanup hworker hjoins hb hr
        case respond r' reply =>
          cases hperforms with
          | locked _ _ h => cases h
          | unlocked _ h => cases h
          | passes h => cases h
          | answered _ hnext =>
            rcases hnext with rfl | rfl <;> simp only [mem_cons, not_mem_nil] at hb <;>
              rcases hb with rfl | rfl | hb <;> first | cases hr | cases hb
          | unanswered =>
            rw [mem_singleton] at hb
            subst hb
            cases hr
        case cleanup sid reason workerId advertise after server =>
          obtain ⟨rfl, hafter⟩ := hway
          exact hperforms.cleanup_onTheWay ht hsound hcleanup hafter hb hr
    · obtain ⟨acts, hacts, hb⟩ := mem_flatten.mp hb
      rw [request_eq_none_of_not_serves (hperforms.spawned_serves acts hacts b hb)] at hr
      cases hr
  · intro r reply hm hlater hjoins
    rw [hshared] at hm
    rcases hperforms.stream_mem hm with hm | ⟨r', reply', hm, rfl⟩ | ⟨event, hm⟩
    · exact hp.stream r reply hm hlater hjoins
    · cases hm
      exact hp.pending _ ha r rfl hlater hjoins
    · cases hm

/-! ### The close of the controller -/

theorem Performs.maxCompleted_eq (h : Performs c a o) :
    o.shared.maxCompleted = c.maxCompleted := by
  cases h <;> rfl

/-- Every session is sound. -/
structure AllSound (p : Pool Controller Act) : Prop where
  max : 1 ≤ p.shared.maxCompleted
  sound : ∀ sid s, p.shared.session sid = some s → s.Sound

theorem Performs.sound (h : Performs c a o) (hmax : 1 ≤ c.maxCompleted)
    (hc : ∀ sid s, c.session sid = some s → s.Sound) :
    ∀ sid s, o.shared.session sid = some s → s.Sound := by
  intro sid t ht
  rcases h.origin ht with hs | ⟨s, hs, hmove⟩ | ⟨-, digest, hash, phase, rfl⟩
  · exact hc sid t hs
  · exact (hmove.sound hmax (hc sid s hs)).1
  · exact ⟨by simp, by simp⟩

theorem AllSound.step
    (hp : AllSound p) (h : Pool.Step perform C p q) : AllSound q := by
  obtain ⟨a, x, o, -, ho, -, hshared, -⟩ := h.exists_performed
  have hperforms := perform_performs ho
  constructor
  · rw [hshared, hperforms.maxCompleted_eq]
    exact hp.max
  · rw [hshared]
    exact hperforms.sound hp.max hp.sound

/-- Once the controller is closed, every session has its cleanup or the first
    thread is about to begin it. -/
def Closing (p : Pool Controller Act) : Prop :=
  ∃ first others, p.threads = first :: others ∧ (p.shared.closed = true →
    ∀ sid s, p.shared.session sid = some s → s.cleanupOperation.isSome ∨
      internalCleanup sid .clientFailure true ∈ first)

/-- A session that had its cleanup keeps it. -/
theorem Performs.cleanup_isSome (h : Performs c a o) (hmax : 1 ≤ c.maxCompleted)
    (hc : ∀ sid s, c.session sid = some s → s.Sound) (hclosed : c.closed = true) (ht : o.shared.session sid = some t) :
    ∃ s, c.session sid = some s ∧ (s.cleanupOperation.isSome → t.cleanupOperation.isSome) := by
  rcases h.origin ht with hs | ⟨s, hs, hmove⟩ | ⟨hopen, -⟩
  · exact ⟨t, hs, id⟩
  · refine ⟨s, hs, fun hsome => ?_⟩
    obtain ⟨id, hid⟩ := Option.isSome_iff_exists.mp hsome
    exact Option.isSome_of_eq_some ((hmove.sound hmax (hc sid s hs)).2 id hid).1
  · rw [hclosed] at hopen
    cases hopen

/-- The cleanup that the close asks for is there afterwards. -/
theorem Performs.internalCleanup_isSome {reason : Reason} {server : Bool}
    (h : Performs c (internalCleanup sid reason server) o)
    (ht : o.shared.session sid = some t) : t.cleanupOperation.isSome := by
  unfold internalCleanup at h
  cases h with
  | locked hs hfree h =>
    have hid := h.sessionId
    cases h with
    | cleanupBegun =>
      cases (session_put hs hid).symm.trans ht
      rfl
    | cleanupJoined hsome | cleanupAdvertised hsome | cleanupMissing hsome =>
      cases (session_put hs hid).symm.trans ht
      exact Option.isSome_of_eq_some hsome
  | unlocked _ h => cases h
  | passes h => cases h

theorem Closing.step
    (hp : Closing p) (hserving : Serving p) (hsound : AllSound p)
    (h : Pool.Step perform C p q) : Closing q := by
  obtain ⟨first, others, hthreads, hclosing⟩ := hp
  rcases h.first_or_other hthreads with ⟨a, tail, x, o, rfl, ho, -, rfl⟩ |
    ⟨before, a, tail, after, x, o, rfl, ho, -, rfl⟩
  · have hperforms := perform_performs ho
    refine ⟨_, _, rfl, fun hclosed sid t ht => ?_⟩
    rcases hperforms.closes hclosed with hbefore | ⟨rfl, -⟩
    · obtain ⟨s, hs, hkeeps⟩ := hperforms.cleanup_isSome hsound.max hsound.sound hbefore ht
      rcases hclosing hbefore sid s hs with hsome | hmem
      · exact .inl (hkeeps hsome)
      · rcases mem_cons.mp hmem with rfl | hmem
        · exact .inl (hperforms.internalCleanup_isSome ht)
        · exact .inr (mem_append_right _ hmem)
    · -- The close puts the cleanup of every session in front.
      right
      cases hperforms with
      | locked _ _ hrule => cases hrule
      | unlocked _ hrule => cases hrule
      | passes hrule =>
        cases hrule with
        | closeAgain hclosed' =>
          have hmem : Act.close ∈ p.pending := by
            rw [Pool.pending, hthreads]
            simp
          rw [hserving.open hmem rfl] at hclosed'
          cases hclosed'
      | close =>
        refine mem_append_left _ (mem_append_left _ ?_)
        have hid : t.sessionId = sid := sessionId_of_session ht
        exact hid ▸ mem_map_of_mem (Keyed.mem_of_get ht)
  · have hperforms := perform_performs ho
    refine ⟨_, _, rfl, fun hclosed sid t ht => ?_⟩
    have hbefore : p.shared.closed = true := by
      rcases hperforms.closes hclosed with hbefore | ⟨rfl, -⟩
      · exact hbefore
      · -- Only the first thread closes.
        obtain ⟨first', others', hthreads', -, hothers⟩ := hserving
        rw [hthreads] at hthreads'
        cases hthreads'
        cases hothers (.close :: tail) (by simp) .close (by simp)
    obtain ⟨s, hs, hkeeps⟩ := hperforms.cleanup_isSome hsound.max hsound.sound hbefore ht
    exact (hclosing hbefore sid s hs).imp_left hkeeps

/-! ### The result -/

/-- The dispatch of a request for the cleanup, with no other thread in
    between: two actions, and the response with the number. -/
def Returns (c : Controller) (r : Request) (id : Nat) : Prop :=
  ∃ next o reply, c.perform (.handle r) .done = some ⟨c, [next], []⟩ ∧
    c.perform next .done = some o ∧ o.more.getLast? = some (.respond r reply) ∧
    r.Answered id reply

theorem cleanupOperationSection_existing (hsound : t.Sound)
    (hcleanup : t.cleanupOperation = some id) (reason : Reason) (advertise : Bool) :
    ∃ u announce, t.cleanupOperationSection reason advertise = (u, .existing id announce) := by
  obtain ⟨op, hop, hlisted⟩ := hsound.operation hcleanup
  simp only [Session.cleanupOperationSection, hcleanup, hop, hlisted, if_true]
  split
  · exact ⟨_, _, rfl⟩
  · exact ⟨_, _, rfl⟩

theorem perform_cleanup (ht : c.session sid = some t)
    (hfree : t.locked = false) (hsound : t.Sound) (hcleanup : t.cleanupOperation = some id)
    (reason : Reason) (r : Request) (mode : Option CleanupMode) :
    ∃ o, c.perform (.cleanup sid reason none true (.reply r mode) true) .done = some o ∧
      o.more.getLast? = some (.respond r
        (mode.elim (.accepted id) fun mode => .released id mode)) := by
  obtain ⟨u, announce, hsection⟩ := cleanupOperationSection_existing hsound hcleanup reason true
  simp only [perform, performRequest, locking, ht, hfree, hsection, Bool.false_eq_true, if_false]
  refine ⟨_, rfl, ?_⟩
  cases mode <;> simp [After.acts]

/-- A request that joins the cleanup returns. -/
theorem returns_of_joins {r : Request}
    (ht : c.session sid = some t) (hfree : t.locked = false) (hsound : t.Sound)
    (hcleanup : t.cleanupOperation = some id) (hjoins : t.Joins r) : c.Returns r id := by
  have hid := sessionId_of_session ht
  subst hid
  unfold Session.Joins at hjoins
  split at hjoins
  · next sid reason hop =>
    subst hjoins
    obtain ⟨o, ho, hlast⟩ := perform_cleanup ht hfree hsound hcleanup reason r none
    refine ⟨_, o, _, ?_, ho, hlast, by simp [Request.Answered, hop]⟩
    simp only [perform, performHandle, hop, handling, locking, ht, hfree, Bool.false_eq_true,
      if_false, put_self ht]
  · next sid hop =>
    subst hjoins
    obtain ⟨o, ho, hlast⟩ := perform_cleanup ht hfree hsound hcleanup .normal r none
    refine ⟨_, o, _, ?_, ho, hlast, by simp [Request.Answered, hop]⟩
    simp only [perform, performHandle, hop, handling, locking, ht, hfree, Bool.false_eq_true,
      if_false, put_self ht]
  · next sid workerId reason hop =>
    obtain ⟨rfl, hworker⟩ := hjoins
    obtain ⟨o, ho, hlast⟩ := perform_cleanup ht hfree hsound hcleanup reason r
      (some (t.cleanupMode.getD .terminateOnly))
    refine ⟨_, o, _, ?_, ho, hlast, by simp [Request.Answered, hop]⟩
    simp only [perform, performHandle, hop, handling, locking, ht, hfree, Bool.false_eq_true,
      if_false, hworker, ne_eq, not_true_eq_false, hcleanup, Option.isSome_some, if_true,
      put_self ht]
  · exact hjoins.elim

/-- Every interleaving, and whatever the outside decides. -/
abbrev Runs : Pool Controller Act → Pool Controller Act → Prop :=
  Pool.Reaches perform fun _ _ _ => True

/-- The invariants of a connection together. -/
theorem invariants_of_runs (hmax : 1 ≤ maxCompleted) (h : Runs (connect maxCompleted) p) : AllSound p ∧ Closing p := by
  induction h with
  | refl =>
    refine ⟨⟨hmax, fun sid s hs => ?_⟩, ⟨_, _, rfl, fun hclosed => ?_⟩⟩
    · cases hs
    · cases hclosed
  | tail hreach hstep ih =>
    exact ⟨ih.1.step hstep, ih.2.step (admitted_of_reaches hreach).1 ih.1 hstep⟩

/-- Once its cleanup has begun, a session follows and later requests join. -/
theorem joined_of_runs (hmax : 1 ≤ maxCompleted)
    (hp : Runs (connect maxCompleted) p) (hq : Runs p q)
    (hs : p.shared.session s.sessionId = some s) (hid : s.cleanupOperation = some id) :
    Joined s id p.shared.lastRequestId q := by
  induction hq with
  | refl =>
    obtain ⟨-, hadmitted⟩ := admitted_of_reaches hp
    refine ⟨⟨s, hs, (invariants_of_runs hmax hp).1.sound _ s hs, .refl s⟩, ?_, ?_⟩
    · intro a ha r hr hlater hjoins
      cases hpast : pastAdmission a with
      | true => exact absurd (hadmitted.pending a ha r hr hpast) (Nat.not_le_of_lt hlater)
      | false =>
        cases a <;> cases hpast
        · obtain ⟨hello, hop⟩ := hadmitted.rejects _ _ ha
          cases hr
          simp only [Session.Joins, hop] at hjoins
        · trivial
    · intro r reply hm hlater
      exact absurd (hadmitted.stream r reply hm) (Nat.not_le_of_lt hlater)
  | tail hreach hstep ih =>
    have hreach' := Relation.ReflTransGen.trans hp hreach
    exact ih.step (admitted_of_reaches hreach').1 (invariants_of_runs hmax hreach').1.max hid
      hstep

/-- Once its cleanup operation is set, a session stays in the phases of its
    end, gets no further operation and keeps the cleanup operation in its
    table. Requests for its cleanup return, those that come later are
    answered with the same number, and a controller that was closed has a
    cleanup operation for every session. -/
theorem cleanup_final {maxCompleted : Nat} (hmax : 1 ≤ maxCompleted) {p q : Pool Controller Act}
    (hp : Runs (connect maxCompleted) p) (hq : Runs p q) :
    (∀ s id, p.shared.session s.sessionId = some s → s.cleanupOperation = some id →
      ∃ t, q.shared.session s.sessionId = some t ∧ t.cleanupOperation = some id ∧
        t.phase.Ending ∧
        t.operations.map (·.operationId) = s.operations.map (·.operationId) ∧
        (∃ op, t.operation id = some op ∧ op.listed = true) ∧
        (∀ r, s.Joins r → t.locked = false → q.shared.Returns r id) ∧
        ∀ r reply, .response r reply ∈ q.shared.stream → p.shared.lastRequestId < r.id →
          s.Joins r → r.Answered id reply) ∧
      (q.shared.closed = true → q.threads.head? = some [] →
        ∀ sid s, q.shared.session sid = some s → s.cleanupOperation.isSome) := by
  refine ⟨fun s id hs hid => ?_, fun hclosed hended sid s hs => ?_⟩
  · have hjoined := joined_of_runs hmax hp hq hs hid
    obtain ⟨t, ht, hsound, hfollows⟩ := hjoined.session
    obtain ⟨hcleanup, hids, hworker⟩ := hfollows id hid
    refine ⟨t, ht, hcleanup, (hsound.final id hcleanup).1, hids, hsound.operation hcleanup, ?_,
      hjoined.stream⟩
    intro r hjoins hfree
    have htid := sessionId_of_session ht
    exact returns_of_joins ht hfree hsound hcleanup ((joins_congr htid hworker).mpr hjoins)
  · obtain ⟨first, others, hthreads, hclosing⟩ := (invariants_of_runs hmax (hp.trans hq)).2
    rw [hthreads, List.head?_cons, Option.some.injEq] at hended
    subst hended
    exact (hclosing hclosed sid s hs).resolve_right (by simp)

/-- A session is cancelled by one request. -/
def cancelling (sid : String) : List (Nat × Input) :=
  opening sid ++ answering ⟨3, .sessionCancel sid .userCancel⟩ [.done, .done, .done] ++ flushing 0

/-- A session that was cancelled is closed by a later request, which is
    answered with the number of the cleanup that the first one began. -/
theorem closed_after_cancelled : ∃ p q s, Runs (connect 1) p ∧ Runs p q ∧
    p.shared.session "s" = some s ∧ s.cleanupOperation = some 1 ∧
    .response ⟨4, .sessionClose "s"⟩ (.accepted 1) ∈ q.shared.stream ∧
    ∃ t, q.shared.session "s" = some t ∧ t.cleanupOperation = some 1 ∧ t.phase.Ending := by
  have hfirst : ((connect 1).run perform (fun _ _ _ => True) (cancelling "s")).map
      (fun p => (p.shared.session "s").map (·.cleanupOperation)) = some (some (some 1)) := by
    decide
  obtain ⟨p, hp, hsession⟩ := Option.map_eq_some_iff.mp hfirst
  obtain ⟨s, hs, hcleanup⟩ := Option.map_eq_some_iff.mp hsession
  have hsecond : ((connect 1).run perform (fun _ _ _ => True) (cancelling "s")).bind (fun p =>
      (p.run perform (fun _ _ _ => True)
        (answering ⟨4, .sessionClose "s"⟩ [.done, .done])).map fun q =>
          q.shared.stream.contains (.response ⟨4, .sessionClose "s"⟩ (.accepted 1))) =
      some true := by
    decide
  rw [hp, Option.bind_some] at hsecond
  obtain ⟨q, hq, hstream⟩ := Option.map_eq_some_iff.mp hsecond
  have hid : s.sessionId = "s" := sessionId_of_session hs
  obtain ⟨t, ht, htcleanup, hending, -⟩ :=
    (cleanup_final (Nat.le_refl 1) (Pool.reaches_of_run hp) (Pool.reaches_of_run hq)).1 s 1
      (by rw [hid, hs]) hcleanup
  exact ⟨p, q, s, Pool.reaches_of_run hp, Pool.reaches_of_run hq, hs, hcleanup,
    List.contains_iff_mem.mp hstream, t, hid ▸ ht, htcleanup, hending⟩

end Controller

end MirrorGate.Control
