import MirrorGate.Sdk.RustControl

/-!
# Events Before the Registration

An event of an operation can be read by another thread after the response that
accepted the operation, and before the thread that asked for it has registered
it. The client does not know the operation then, and poisons the connection of
every thread.

It also does so when the events that the application has not taken yet add up
to more than the queue holds.

`Careful` excludes the two. What the client has registered then never lags
behind what an event names, and no event of an operation is rejected.

## Main definitions

* `Conforms`: The controller keeps to the protocol.
* `Careful`: The operations that arriving events name are registered, and the
  queue has room.
* `Registered`: What the client knows, against what the controller has said.

## Theorems

* `Registered.acceptEvent`: An event of a registered operation is accepted.
* `operation_events_accepted`: Every run.
* `counters_in_step`: Both ends count alike.
* `earlyEvent_rejected`: An event that comes before the registration.
-/

namespace MirrorGate.Sdk

namespace Ledger

instance (ledger : Ledger) (sessionId : String) (body : EventBody) :
    Decidable (ledger.MaySay sessionId body) :=
  match body with
  | .operationFinished record => inferInstanceAs (Decidable
      (∃ terminal ∈ ledger.operations.lookup (sessionId, record.operationId), _))
  | .output _ operationId _ _ _ => inferInstanceAs (Decidable
      ((ledger.operations.lookup (sessionId, operationId)).isSome = true ∧ _ ∧ _ ∧ _ ∧ _))
  | .workerStarted _ | .workerReady _ | .workerClosing _ _ | .workerExited _ _ _ =>
    inferInstanceAs (Decidable (_ ∧ _))
  | .sessionClosed _ => inferInstanceAs (Decidable (_ = _))

instance (ledger : Ledger) (event : Event) : Decidable (ledger.MayEmit event) :=
  inferInstanceAs (Decidable (_ ∧ _ ∧ _ ∧ _))

def decidableEmits (ledger : Ledger) : (events : List Event) → Decidable (ledger.Emits events)
  | [] => inferInstanceAs (Decidable True)
  | event :: rest =>
    have := (ledger.emit event).decidableEmits rest
    inferInstanceAs (Decidable (_ ∧ _))

instance (ledger : Ledger) (events : List Event) : Decidable (ledger.Emits events) :=
  ledger.decidableEmits events

instance (ledger : Ledger) (registration : Registration) :
    Decidable (ledger.MayName registration) :=
  match registration with
  | .session _ => inferInstanceAs (Decidable (_ ∉ _))
  | .operation sessionId operationId _ => inferInstanceAs (Decidable
      (∀ existing ∈ ledger.operations.lookup (sessionId, operationId), existing = _))
  | .worker _ _ => inferInstanceAs (Decidable True)

end Ledger

/-- What the response to a call names is new or as before. -/
def NamesWell (ledger : Ledger) (call : Call) (answer : Answer) : Prop :=
  match call.read answer with
  | .ok (some registration) => ledger.MayName registration
  | _ => True

instance (ledger : Ledger) (call : Call) (answer : Answer) :
    Decidable (NamesWell ledger call answer) :=
  match h : call.read answer with
  | .ok (some registration) => decidable_of_iff (ledger.MayName registration) (by rw [NamesWell, h])
  | .ok none => isTrue (by rw [NamesWell, h]; trivial)
  | .error _ => isTrue (by rw [NamesWell, h]; trivial)

/-- The controller keeps to the protocol. -/
def Conforms (c : Connection) (s : Section) (frames : Frames) : Prop :=
  match s with
  | .use (.call call) => c.ledger.Emits frames.events ∧ NamesWell c.ledger call frames.answer
  | _ => True

instance (c : Connection) (s : Section) (frames : Frames) : Decidable (Conforms c s frames) :=
  match s with
  | .use (.call _) => inferInstanceAs (Decidable (_ ∧ _))
  | .use .drainEvents | .use .close | .register _ => inferInstanceAs (Decidable True)

/-- The operations that the arriving events name are registered, and the queue
    has room for the events. -/
def Careful (c : Connection) (s : Section) (frames : Frames) : Prop :=
  match s with
  | .use (.call _) =>
    (∀ event ∈ frames.events, ∀ operationId ∈ event.body.operationId,
      (c.core.operations.lookup (event.sessionId, operationId)).isSome = true) ∧
      c.core.eventBytes + (frames.events.map (·.size)).sum ≤ 4194304
  | _ => True

instance (c : Connection) (s : Section) (frames : Frames) : Decidable (Careful c s frames) :=
  match s with
  | .use (.call _) => inferInstanceAs (Decidable
      ((∀ event ∈ frames.events, ∀ operationId ∈ event.body.operationId, _) ∧ _))
  | .use .drainEvents | .use .close | .register _ => inferInstanceAs (Decidable True)

/-! ### What the client knows -/

/-- What the client knows, against what the controller has said. The counters
    agree as long as the connection is open. -/
structure Registered (core : Core) (ledger : Ledger) : Prop where
  nextEvent : core.closed = false → core.nextEvent = ledger.nextEvent
  chunks : core.closed = false → core.outputChunks = ledger.outputChunks
  operations : ∀ key terminal, core.operations.lookup key = some terminal →
    ledger.operations.lookup key = some terminal
  owned : ∀ sessionId operationId, ledger.Accepted sessionId operationId →
    sessionId ∈ core.sessions
  handles : ∀ sessionId ∈ core.sessions, validateHandle sessionId = none

theorem registered_start : Registered {} {} := by
  refine ⟨fun _ => rfl, fun _ => rfl, fun _ _ h => ?_, fun _ _ h => ?_, fun _ h => ?_⟩
  · cases h
  · cases h
  · exact absurd h List.not_mem_nil

/-- A thread registers only what the controller has named. -/
def Registration.Named (ledger : Ledger) : Registration → Prop
  | .session sessionId => validateHandle sessionId = none
  | .operation sessionId operationId terminal =>
    ledger.operations.lookup (sessionId, operationId) = some terminal
  | .worker _ _ => True

theorem require_eq_none {p : Prop} [Decidable p] {message : String} (h : p) :
    require p message = none := if_pos h

namespace Core

/-- A body that is read changes the count of the chunks only. -/
theorem readBody_eq_ok {core core' : Core} {sessionId : String} {body : EventBody}
    (h : core.readBody sessionId body = .ok core') :
    core' = { core with outputChunks := countChunk core.outputChunks sessionId body } := by
  unfold readBody at h
  split at h
  all_goals repeat' split at h
  all_goals first | cases h; rfl | cases h

/-- What an accepted event changes. -/
theorem acceptEvent_eq_ok {core core' : Core} {event : Event}
    (h : core.acceptEvent event = .ok core') :
    core' = { core with
      nextEvent := core.nextEvent + 1
      outputChunks := countChunk core.outputChunks event.sessionId event.body
      eventBytes := core.eventBytes + event.size
      events := core.events ++ [event] } := by
  unfold acceptEvent at h
  split at h
  · cases h
  · split at h
    · cases h
    · next read hread =>
      cases readBody_eq_ok hread
      split at h
      · cases h
      · cases h
        rfl

end Core

namespace Registered

variable {core : Core} {ledger : Ledger}

/-- An accepted event keeps the counters together. -/
theorem emit {core' : Core} {event : Event} (h : Registered core ledger)
    (haccept : core.acceptEvent event = .ok core') : Registered core' (ledger.emit event) := by
  cases Core.acceptEvent_eq_ok haccept
  refine ⟨fun hopen => ?_, fun hopen => ?_, h.operations, h.owned, h.handles⟩
  · exact congrArg (· + 1) (h.nextEvent hopen)
  · exact congrArg (countChunk · event.sessionId event.body) (h.chunks hopen)

/-- What an operation that is registered has said is read. -/
theorem readBody (h : Registered core ledger) (hopen : core.closed = false) {sessionId : String}
    {body : EventBody} {operationId : Nat} (hbody : body.operationId = some operationId)
    (hknown : (core.operations.lookup (sessionId, operationId)).isSome = true)
    (hsay : ledger.MaySay sessionId body) : ∃ core', core.readBody sessionId body = .ok core' := by
  obtain ⟨terminal, hterminal⟩ := Option.isSome_iff_exists.mp hknown
  cases body with
  | operationFinished record =>
    cases hbody
    obtain ⟨named, hnamed, hvalid⟩ := hsay
    -- The contract that was registered is the one the controller has named.
    cases (h.operations _ _ hterminal).symm.trans hnamed
    exact ⟨core, by simp only [Core.readBody, hterminal, hvalid]⟩
  | output stage id stream chunk bytes =>
    cases hbody
    obtain ⟨-, hid, hchunk, hnext, hbytes⟩ := hsay
    rw [← h.chunks hopen] at hnext
    simp only [Core.readBody, safeId, require_eq_none hid, require_eq_none hchunk,
      require_eq_none hbytes, Option.none_or, hterminal, reduceCtorEq, if_false, ← hnext,
      ne_eq, not_true_eq_false]
    exact ⟨_, rfl⟩
  | workerStarted | workerReady | workerClosing | workerExited | sessionClosed => cases hbody

/-- An event of a registered operation is accepted, if there is room for it. -/
theorem acceptEvent (h : Registered core ledger) (hopen : core.closed = false) {event : Event}
    {operationId : Nat} (hbody : event.body.operationId = some operationId)
    (hknown : (core.operations.lookup (event.sessionId, operationId)).isSome = true)
    (hroom : core.eventBytes + event.size ≤ 4194304) (hemit : ledger.MayEmit event) :
    ∃ core', core.acceptEvent event = .ok core' := by
  obtain ⟨hseq, hsafe, -, hsay⟩ := hemit
  obtain ⟨terminal, hterminal⟩ := Option.isSome_iff_exists.mp hknown
  have hsession : event.sessionId ∈ core.sessions :=
    h.owned _ operationId (by rw [Ledger.Accepted, h.operations _ _ hterminal]; rfl)
  obtain ⟨read, hread⟩ := h.readBody hopen hbody hknown hsay
  have hbytes : read.eventBytes = core.eventBytes := by rw [Core.readBody_eq_ok hread]
  simp only [Core.acceptEvent, safeId, require_eq_none hsafe,
    require_eq_none (hseq.trans (h.nextEvent hopen).symm), require_eq_none hsession,
    h.handles _ hsession, Option.none_or, hread]
  exact ⟨_, if_neg (by omega)⟩

/-- The events that arrive during a request. Only one that belongs to no
    operation is rejected. -/
theorem acceptEvents (h : Registered core ledger) (hopen : core.closed = false)
    {events : List Event} (hemits : ledger.Emits events)
    (hknown : ∀ event ∈ events, ∀ operationId ∈ event.body.operationId,
      (core.operations.lookup (event.sessionId, operationId)).isSome = true)
    (hroom : core.eventBytes + (events.map (·.size)).sum ≤ 4194304) :
    match core.acceptEvents events with
    | .error rejected => rejected.1.body.operationId = none
    | .ok core' => Registered core' (events.foldl Ledger.emit ledger) ∧
        core'.sessions = core.sessions := by
  induction events generalizing core ledger with
  | nil => exact ⟨h, rfl⟩
  | cons event rest ih =>
    obtain ⟨hfirst, hrest⟩ := hemits
    rw [List.map_cons, List.sum_cons] at hroom
    rw [Core.acceptEvents]
    rcases haccept : core.acceptEvent event with message | core'
    · -- The event is not one of an operation: that would have been accepted.
      refine Option.eq_none_iff_forall_ne_some.mpr fun operationId hbody => ?_
      have hspace : core.eventBytes + event.size ≤ 4194304 := by omega
      obtain ⟨core', hok⟩ := h.acceptEvent hopen hbody
        (hknown event (.head _) operationId hbody) hspace hfirst
      cases haccept.symm.trans hok
    · have heq := Core.acceptEvent_eq_ok haccept
      have hnext := ih (h.emit haccept) (by rw [heq]; exact hopen) hrest
        (by rw [heq]; exact fun e he => hknown e (.tail _ he)) (by rw [heq]; dsimp only; omega)
      have hsessions : core'.sessions = core.sessions := by rw [heq]
      rw [List.foldl_cons, ← hsessions]
      exact hnext

end Registered

/-! ### Requests and registrations -/

theorem lookup_cons_of_named {operations : List ((String × Nat) × Terminal)}
    {key other : String × Nat} {terminal found : Terminal} (hsame : ∀ existing ∈ operations.lookup key, existing = terminal)
    (h : operations.lookup other = some found) :
    ((key, terminal) :: operations).lookup other = some found := by
  rw [List.lookup_cons]
  split
  · next heq =>
    rw [beq_iff_eq.mp heq] at h
    rw [hsame found h]
  · exact h

variable {ledger : Ledger} {registration : Registration}

/-- A response names something: the client does not know it yet. -/
theorem Registered.name {core : Core} (h : Registered core ledger) (hname : ledger.MayName registration)
    (hsession : ∀ sessionId operationId terminal,
      registration = .operation sessionId operationId terminal → sessionId ∈ core.sessions) :
    Registered core (ledger.name registration) := by
  cases registration with
  | session | worker => exact ⟨h.nextEvent, h.chunks, h.operations, h.owned, h.handles⟩
  | operation sessionId operationId terminal =>
    refine ⟨h.nextEvent, h.chunks, fun key found hfound => ?_, fun s id haccepted => ?_,
      h.handles⟩
    · exact lookup_cons_of_named hname (h.operations key found hfound)
    · by_cases hkey : (s, id) = (sessionId, operationId)
      · cases hkey
        exact hsession _ _ _ rfl
      · refine h.owned s id ?_
        simpa only [Ledger.Accepted, Ledger.name, List.lookup_cons, beq_eq_false_iff_ne.mpr hkey]
          using haccepted

/-- A thread registers what the controller has named. -/
theorem Registered.register {core : Core} (h : Registered core ledger) (hnamed : registration.Named ledger) :
    Registered (core.register registration) ledger := by
  have hpoisoned : Registered core.poison ledger :=
    ⟨nofun, nofun, h.operations, h.owned, h.handles⟩
  cases registration with
  | session sessionId =>
    rw [Core.register]
    split
    · exact hpoisoned
    · refine ⟨h.nextEvent, h.chunks, h.operations, fun s id ha => .tail _ (h.owned s id ha), ?_⟩
      intro s hs
      rcases List.mem_cons.mp hs with rfl | hs
      · exact hnamed
      · exact h.handles s hs
  | operation sessionId operationId terminal =>
    rw [Core.register]
    split
    · split
      · exact h
      · exact hpoisoned
    · refine ⟨h.nextEvent, h.chunks, fun key found hfound => ?_, h.owned, h.handles⟩
      by_cases hkey : key = (sessionId, operationId)
      · rw [hkey, List.lookup_cons_self] at hfound
        rw [hkey, ← hfound]
        exact hnamed
      · rw [List.lookup_cons, beq_eq_false_iff_ne.mpr hkey] at hfound
        exact h.operations key found hfound
  | worker => exact ⟨h.nextEvent, h.chunks, h.operations, h.owned, h.handles⟩

/-- Naming something leaves what was named before. -/
theorem Registration.Named.name {registration other : Registration}
    (h : other.Named ledger) (hname : ledger.MayName registration) :
    other.Named (ledger.name registration) := by
  cases other with
  | session | worker => exact h
  | operation s id found =>
    cases registration with
    | session | worker => exact h
    | operation => exact lookup_cons_of_named hname h

/-- What the threads share, and what they are about to register. -/
structure Orderly (p : Pool Connection Section) : Prop where
  registered : Registered p.shared.core p.shared.ledger
  rejected : ∀ rejected ∈ p.shared.rejected, rejected.1.body.operationId = none
  pending : ∀ registration, .register registration ∈ p.pending →
    registration.Named p.shared.ledger

/-- What a section leaves. -/
structure Leaves (ledger : Ledger) (o : Outcome Connection Section) : Prop where
  registered : Registered o.shared.core o.shared.ledger
  rejected : ∀ rejected ∈ o.shared.rejected, rejected.1.body.operationId = none
  named : ∀ registration : Registration, registration.Named ledger →
    registration.Named o.shared.ledger
  more : ∀ registration, .register registration ∈ o.more → registration.Named o.shared.ledger
  spawned : o.spawned = []

/-- Events name nothing new. -/
theorem foldl_emit_named (ledger : Ledger) (events : List Event) :
    (events.foldl Ledger.emit ledger).operations = ledger.operations ∧
      (events.foldl Ledger.emit ledger).sessions = ledger.sessions := by
  induction events generalizing ledger with
  | nil => exact ⟨rfl, rfl⟩
  | cons event rest ih => exact ih (ledger.emit event)

theorem Registration.Named.emit
    (h : registration.Named ledger) (events : List Event) :
    registration.Named (events.foldl Ledger.emit ledger) := by
  cases registration with
  | session | worker => exact h
  | operation => exact (congrArg _ (foldl_emit_named ledger events).1).trans h

theorem Ledger.MayName.emit
    (h : ledger.MayName registration) (events : List Event) :
    (events.foldl Ledger.emit ledger).MayName registration := by
  obtain ⟨hoperations, hsessions⟩ := foldl_emit_named ledger events
  cases registration with
  | session =>
    rw [Ledger.MayName, hsessions]
    exact h
  | operation =>
    rw [Ledger.MayName, hoperations]
    exact h
  | worker => trivial

/-- A response names what the thread then registers. -/
theorem Registration.named_name {call : Call} {answer : Answer}
    (h : call.read answer = .ok (some registration)) (ledger : Ledger) :
    registration.Named (ledger.name registration) := by
  cases registration with
  | worker => trivial
  | operation => exact List.lookup_cons_self
  | session sessionId =>
    unfold Call.read at h
    split at h
    all_goals repeat' split at h
    all_goals first | cases h; assumption | cases h

/-- The operation of a response belongs to the session of the call. -/
theorem Call.read_operation {call : Call} {answer : Answer} {sessionId : String}
    {operationId : Nat} {terminal : Terminal}
    (h : call.read answer = .ok (some (.operation sessionId operationId terminal))) :
    call.sessionId = some sessionId ∧ call.terminal = some terminal := by
  unfold Call.read at h
  split at h
  all_goals repeat' split at h
  all_goals first | cases h; exact ⟨by assumption, by assumption⟩ | cases h

theorem Registered.poison {core : Core} {ledger ledger' : Ledger} (h : Registered core ledger)
    (hoperations : ledger'.operations = ledger.operations) : Registered core.poison ledger' := by
  refine ⟨nofun, nofun, ?_, ?_, h.handles⟩
  · rw [hoperations]
    exact h.operations
  · intro sessionId operationId haccepted
    rw [Ledger.Accepted, hoperations] at haccepted
    exact h.owned sessionId operationId haccepted

/-- The frames that arrive during a request are read. -/
theorem Registered.read {c : Connection} {call : Call} {frames : Frames}
    (h : Registered c.core c.ledger)
    (hrejected : ∀ rejected ∈ c.rejected, rejected.1.body.operationId = none)
    (hopen : c.core.closed = false) (howned : call.Owned c.core)
    (hconforms : Conforms c (.use (.call call)) frames)
    (hcareful : Careful c (.use (.call call)) frames) : Leaves c.ledger (c.read call frames) := by
  obtain ⟨hemits, hname⟩ := hconforms
  obtain ⟨hknown, hroom⟩ := hcareful
  have hnamed : ∀ registration : Registration, registration.Named c.ledger →
      registration.Named (frames.events.foldl Ledger.emit c.ledger) :=
    fun registration hold => hold.emit frames.events
  have hevents := h.acceptEvents hopen hemits hknown hroom
  unfold Connection.read
  rcases haccept : c.core.acceptEvents frames.events with rejected | core <;>
    rw [haccept] at hevents
  · refine ⟨h.poison (foldl_emit_named _ _).1, fun other hmem => ?_, hnamed, nofun, rfl⟩
    rcases List.mem_append.mp hmem with hmem | hmem
    · exact hrejected other hmem
    · exact List.mem_singleton.mp hmem ▸ hevents
  · obtain ⟨hregistered, hsessions⟩ := hevents
    rcases hread : call.read frames.answer with _ | _ | registration <;> dsimp only
    · exact ⟨hregistered.poison rfl, hrejected, hnamed, nofun, rfl⟩
    · exact ⟨hregistered, hrejected, hnamed, nofun, rfl⟩
    · rw [NamesWell, hread] at hname
      have hmay := Ledger.MayName.emit hname frames.events
      refine ⟨hregistered.name hmay fun sessionId operationId terminal heq => ?_, hrejected,
        fun other hold => (hnamed other hold).name hmay, fun other hmem => ?_, rfl⟩
      · cases heq
        rw [hsessions]
        obtain ⟨hsession, hterminal⟩ := Call.read_operation hread
        cases call with
        | operationStatus => cases hterminal
        | _ => exact howned _ hsession
      · cases List.mem_singleton.mp hmem
        exact Registration.named_name hread _

/-- What a section leaves. -/
theorem leaves_of_perform {c : Connection} {s : Section} {frames : Frames}
    {o : Outcome Connection Section} (h : Registered c.core c.ledger)
    (hrejected : ∀ rejected ∈ c.rejected, rejected.1.body.operationId = none)
    (hpending : ∀ registration, s = .register registration → registration.Named c.ledger)
    (hperform : perform c s frames = some o) (hconforms : Conforms c s frames)
    (hcareful : Careful c s frames) : Leaves c.ledger o := by
  cases s with
  | register registration =>
    cases hperform
    exact ⟨h.register (hpending registration rfl), hrejected, fun _ hold => hold, nofun, rfl⟩
  | use use =>
    cases use with
    | drainEvents =>
      cases hperform
      exact ⟨⟨h.nextEvent, h.chunks, h.operations, h.owned, h.handles⟩, hrejected,
        fun _ hold => hold, nofun, rfl⟩
    | close =>
      cases hperform
      exact ⟨h.poison rfl, hrejected, fun _ hold => hold, nofun, rfl⟩
    | call call =>
      simp only [perform] at hperform
      split at hperform
      · cases hperform
        exact ⟨h, hrejected, fun _ hold => hold, nofun, rfl⟩
      · next hready =>
        simp only [not_or, not_not, Bool.not_eq_true] at hready
        split at hperform
        · cases hperform
          exact ⟨h.poison rfl, hrejected, fun _ hold => hold, nofun, rfl⟩
        · cases hperform
          have hcounted : Registered
              { c.core with nextRequest := c.core.nextRequest + 1 } c.ledger :=
            ⟨h.nextEvent, h.chunks, h.operations, h.owned, h.handles⟩
          have howned : call.Owned { c.core with nextRequest := c.core.nextRequest + 1 } := by
            cases call <;> exact hready.2
          exact Registered.read (c := { c with core := _ }) hcounted hrejected hready.1 howned
            hconforms hcareful

theorem orderly_of_reaches {threads : List (List Use)} {p : Pool Connection Section}
    (h : Pool.Reaches perform (fun c s frames => Conforms c s frames ∧ Careful c s frames)
      (connected threads) p) : Orderly p := by
  induction h with
  | refl =>
    refine ⟨registered_start, fun _ hmem => absurd hmem List.not_mem_nil,
      fun registration hmem => ?_⟩
    simp [connected, Pool.pending] at hmem
  | tail _ hstep ih =>
    obtain ⟨s, frames, o, hs, hperform, ⟨hconforms, hcareful⟩, hshared, hpending⟩ :=
      hstep.exists_performed
    have hleaves := leaves_of_perform ih.registered ih.rejected
      (fun registration heq => ih.pending registration (heq ▸ hs)) hperform hconforms hcareful
    refine ⟨hshared ▸ hleaves.registered, hshared ▸ hleaves.rejected, fun registration hmem => ?_⟩
    rw [hshared]
    rcases hpending _ hmem with hmem | hmem | hmem
    · exact hleaves.named registration (ih.pending registration hmem)
    · exact hleaves.more registration hmem
    · rw [hleaves.spawned] at hmem
      cases hmem

/-- Whatever the threads of an application do with a connection, and in whatever
    order, an event of an operation that was accepted on it does not poison it,
    if the operation was registered when the event arrived and the queue had
    room. -/
theorem operation_events_accepted {threads : List (List Use)} {p : Pool Connection Section}
    (h : Pool.Reaches perform (fun c s frames => Conforms c s frames ∧ Careful c s frames)
      (connected threads) p) :
    ∀ rejected ∈ p.shared.rejected, ∀ operationId ∈ rejected.1.body.operationId,
      ¬ p.shared.ledger.Accepted rejected.1.sessionId operationId := by
  intro rejected hmem operationId hoperation
  cases ((orderly_of_reaches h).rejected rejected hmem).symm.trans hoperation

/-- The handle of a session. -/
def someSession : String := "00000000000000000000000000000000"

/-- One thread has a session prepared, another asks for its status. -/
def twoThreads : List (List Use) :=
  [[.call .openSession, .call (.prepare someSession)], [.call (.status someSession)]]

/-- The preparation has failed. -/
def preparationFailed : Event where
  seq := 1
  sessionId := someSession
  body := .operationFinished
    ⟨1, .failed ⟨.preparationFailed, .prepare, "preparation failed", none⟩⟩
  size := 256

/-- The first thread opens the session and has it prepared. -/
def prepares : List (Nat × Frames) :=
  [(0, { answer := .session someSession }), (0, {}), (0, { answer := .operation 1 })]

/-- The second thread reads that the preparation has failed. -/
def readsFailure : Nat × Frames := (1, { events := [preparationFailed], answer := .plain })

theorem operation_events_accepted_twoThreads : ∃ p, Pool.Reaches perform
    (fun c s frames => Conforms c s frames ∧ Careful c s frames) (connected twoThreads) p ∧
    p.shared.core.events = [preparationFailed] ∧
    ∀ rejected ∈ p.shared.rejected, ∀ operationId ∈ rejected.1.body.operationId,
      ¬ p.shared.ledger.Accepted rejected.1.sessionId operationId := by
  have hrun : ((connected twoThreads).run perform
      (fun c s frames => Conforms c s frames ∧ Careful c s frames)
      (prepares ++ [(0, {}), readsFailure])).map (·.shared.core.events) =
        some [preparationFailed] := by
    decide
  obtain ⟨p, hp, hevents⟩ := Option.map_eq_some_iff.mp hrun
  have hreaches := Pool.reaches_of_run hp
  exact ⟨p, hreaches, hevents, operation_events_accepted hreaches⟩

/-- On such a connection the client and the controller stay in step: while it is
    open both count the same events and chunks, and what the client knows of an
    operation is what the controller has named. -/
theorem counters_in_step {threads : List (List Use)} {p : Pool Connection Section}
    (h : Pool.Reaches perform (fun c s frames => Conforms c s frames ∧ Careful c s frames)
      (connected threads) p) :
    (p.shared.core.closed = false → p.shared.core.nextEvent = p.shared.ledger.nextEvent ∧
      p.shared.core.outputChunks = p.shared.ledger.outputChunks) ∧
    ∀ key terminal, p.shared.core.operations.lookup key = some terminal →
      p.shared.ledger.operations.lookup key = some terminal := by
  have hregistered := (orderly_of_reaches h).registered
  exact ⟨fun hopen => ⟨hregistered.nextEvent hopen, hregistered.chunks hopen⟩,
    hregistered.operations⟩

theorem counters_in_step_twoThreads : ∃ p ∈ (connected twoThreads).run perform
    (fun c s frames => Conforms c s frames ∧ Careful c s frames)
    (prepares ++ [(0, {}), readsFailure]),
    p.shared.core.nextEvent = 2 ∧ p.shared.ledger.nextEvent = 2 :=
  ⟨_, Option.get_mem (by decide), by decide,
    ((counters_in_step (Pool.reaches_of_run (Option.some_get _).symm)).1 (by decide)).1.symm.trans
      (by decide)⟩

/-- The second thread reads the event before the first has registered the
    operation, and the connection is closed for both. -/
theorem earlyEvent_rejected : ∃ p, Pool.Reaches perform Conforms (connected twoThreads) p ∧
    (preparationFailed, "missing operation context") ∈ p.shared.rejected ∧
    p.shared.ledger.Accepted someSession 1 ∧ p.shared.core.closed = true := by
  have hrun : ((connected twoThreads).run perform Conforms (prepares ++ [readsFailure])).map
      (fun p => (p.shared.rejected, p.shared.ledger.operations, p.shared.core.closed)) =
        some ([(preparationFailed, "missing operation context")],
          [((someSession, 1), .prepared)], true) := by
    decide
  obtain ⟨p, hp, hstate⟩ := Option.map_eq_some_iff.mp hrun
  obtain ⟨hrejected, hoperations, hclosed⟩ : _ ∧ _ ∧ _ := by
    simpa only [Prod.mk.injEq] using hstate
  refine ⟨p, Pool.reaches_of_run hp, ?_, ?_, hclosed⟩
  · rw [hrejected]
    exact .head _
  · rw [Ledger.Accepted, hoperations]
    rfl

end MirrorGate.Sdk
