import Mathlib.Data.List.Count
import Mathlib.Tactic.IntervalCases
import MirrorGate.Worker.Reservation

/-!
# The Order of Worker Events

The events of a reservation come from four places: the accept thread, the
relay of the worker, whoever fails first, and whoever closes. This module says
in which order they are delivered.

The order depends on little of what the threads do, and `Signals` is that
little: how many threads are at which point, a few flags, and the events
delivered so far by their place in the expected order. `Signal` lists the
moves, each the change an action makes to this view, and `step_signal` says
that every action of the faithful model is one of them. The invariant
`Orderly` is then an invariant of fourteen moves.

Nothing in the source makes the events come in order. `_worker_to_client`
claims the exit event without asking whether `_fail` has claimed it,
`arm_closing` does not ask whether the worker is gone or whether its start was
reported, and the relay reports the worker ready without asking whether it is
being closed. `Undisturbed` says that none of this happens at a step, and
`events_inOrder` that it is all that can go wrong.

## Main definitions

* `WorkerEvent.InOrder`: The expected order, each event at most once.
* `ClientWorker.observe`: What the client checks at each event.
* `Undisturbed`: The condition on a step.
* `Signals`, `Signal`: What the order depends on, and its moves.
* `Orderly`: The invariant.

## Theorems

* `step_signal`: Every action is a move.
* `Orderly.signal`: A move keeps the invariant.
* `events_inOrder`: In an undisturbed run the events come in order and the
  client accepts them.
* `exited_twice`: A run in which they do not.
-/

namespace MirrorGate

open List Reservation

namespace WorkerEvent

/-- The place of an event in the expected order. -/
def rank : WorkerEvent → Nat
  | .started => 0
  | .ready => 1
  | .closing _ _ => 2
  | .exited _ _ => 3

/-- The events come in the expected order, each of them at most once. -/
def InOrder (events : List WorkerEvent) : Prop := (events.map rank).Pairwise (· < ·)

instance (events : List WorkerEvent) : Decidable (InOrder events) :=
  inferInstanceAs (Decidable (List.Pairwise _ _))

end WorkerEvent

/-- What the client remembers of a worker. -/
inductive ClientWorker where
  | reserved
  | started
  | ready
  | closing
  | exited
deriving DecidableEq, Repr

namespace ClientWorker

/-- The client's reaction to an event: `none` is the error
    "Impossible worker event order". -/
def observe (state : ClientWorker) : WorkerEvent → Option ClientWorker
  | .started => if state = .reserved then some .started else none
  | .ready => if state = .started then some .ready else none
  | .closing _ _ => some .closing
  | .exited _ _ => some .exited

/-- The client goes through the events without an error. -/
def Accepts (events : List WorkerEvent) : Prop :=
  (events.foldlM observe .reserved).isSome = true

instance (events : List WorkerEvent) : Decidable (Accepts events) :=
  inferInstanceAs (Decidable (_ = _))

end ClientWorker

/-- The action arms the closing of the reservation. -/
def WorkerAct.arms : WorkerAct → Bool
  | .armClosing _ _ => true
  | _ => false

/-- The input confirms to the flow that the worker was created. -/
def WorkerInput.Confirms (flow : WorkerFlow) : WorkerInput → Prop
  | .response (.ok reply) => flow.Confirms reply
  | _ => False

instance (flow : WorkerFlow) : ∀ input : WorkerInput, Decidable (input.Confirms flow)
  | .response (.ok reply) => inferInstanceAs (Decidable (flow.Confirms reply))
  | .response (.error _) | .done | .raised _ | .timedOut | .expired | .connected _ | .guarded _
  | .request _ | .ended | .status _ | .torn _ _ => inferInstanceAs (Decidable False)

/-- The step does none of the three things that upset the order. Closing is
    not armed once the exit event is claimed, or between the launch of the
    worker and the report of its start. The creation of the worker is not
    confirmed once closing is armed or the exit event is claimed. The output
    of the worker does not end once the exit event is claimed. -/
def Undisturbed (r : Reservation) (act : WorkerAct) (input : WorkerInput) : Prop :=
  (act.arms = true → r.cleanupMode = none →
      r.exitEventSent = false ∧ (r.process = true → .started ∈ r.events)) ∧
    (act = .workerToClient → input.Confirms r.flow →
      r.cleanupMode = none ∧ r.exitEventSent = false) ∧
    (act = .claimExit → r.exitEventSent = false)

instance (r : Reservation) (act : WorkerAct) (input : WorkerInput) :
    Decidable (Undisturbed r act input) :=
  inferInstanceAs (Decidable (_ ∧ _ ∧ _))

/-! ### What the order depends on -/

/-- The points at which a thread can be, as far as the order of events
    depends on it. -/
inductive Point where
  /-- The accept thread before it stores the process. -/
  | attaching
  | announcing
  | acknowledging
  /-- The relay of the worker, anywhere but at the two points below. -/
  | relaying
  | readying
  | releasingFlow
  | closing
  | releasing
  /-- About to deliver the exit event. -/
  | exiting
  /-- A thread that runs once the accept thread is done, and may fail. -/
  | serving
  | elsewhere
deriving DecidableEq

def WorkerAct.point : WorkerAct → Point
  | .accept | .candidate | .launchGuard | .recheck | .launch | .store => .attaching
  | .announceStarted => .announcing
  | .acknowledge => .acknowledging
  | .workerToClient | .sendResponse | .claimExit => .relaying
  | .announceReady => .readying
  | .releaseFlow => .releasingFlow
  | .announceClosing _ _ _ => .closing
  | .releaseLock _ _ => .releasing
  | .reportExit => .exiting
  | .reportFailure _ emitExit _ => if emitExit then .exiting else .elsewhere
  | .clientToWorker | .writeRequest | .drainStderr | .fail _ _ => .serving
  | _ => .elsewhere

/-- How many of the actions are at a point. -/
def WorkerAct.count (acts : List WorkerAct) (point : Point) : Nat :=
  acts.countP (fun act => act.point = point)

/-- What the order of events depends on. -/
structure Signals where
  attaching : Nat
  announcing : Nat
  acknowledging : Nat
  relaying : Nat
  readying : Nat
  releasingFlow : Nat
  closing : Nat
  releasing : Nat
  exiting : Nat
  serving : Nat
  /-- `_closing` is set. -/
  barred : Bool
  /-- `_cleanup_mode` is set. -/
  armed : Bool
  exitSent : Bool
  process : Bool
  handshaking : Bool
  locked : Bool
  flowLocked : Bool
  /-- The delivered events, by their place in the order. -/
  ranks : List Nat

/-- The view of a reservation with these actions pending. -/
def signals (r : Reservation) (acts : List WorkerAct) : Signals where
  attaching := WorkerAct.count acts .attaching
  announcing := WorkerAct.count acts .announcing
  acknowledging := WorkerAct.count acts .acknowledging
  relaying := WorkerAct.count acts .relaying
  readying := WorkerAct.count acts .readying
  releasingFlow := WorkerAct.count acts .releasingFlow
  closing := WorkerAct.count acts .closing
  releasing := WorkerAct.count acts .releasing
  exiting := WorkerAct.count acts .exiting
  serving := WorkerAct.count acts .serving
  barred := r.closing
  armed := r.cleanupMode.isSome
  exitSent := r.exitEventSent
  process := r.process
  handshaking := r.flow.lifecycle.Handshaking
  locked := r.locked
  flowLocked := r.flowLocked
  ranks := r.events.map WorkerEvent.rank

theorem signals_perm (r : Reservation) {acts acts' : List WorkerAct} (h : acts.Perm acts') :
    signals r acts = signals r acts' := by
  simp only [signals, WorkerAct.count, h.countP_eq]

/-- One more thread at a point. -/
def Signals.join (v : Signals) : Point → Signals
  | .attaching => { v with attaching := v.attaching + 1 }
  | .announcing => { v with announcing := v.announcing + 1 }
  | .acknowledging => { v with acknowledging := v.acknowledging + 1 }
  | .relaying => { v with relaying := v.relaying + 1 }
  | .readying => { v with readying := v.readying + 1 }
  | .releasingFlow => { v with releasingFlow := v.releasingFlow + 1 }
  | .closing => { v with closing := v.closing + 1 }
  | .releasing => { v with releasing := v.releasing + 1 }
  | .exiting => { v with exiting := v.exiting + 1 }
  | .serving => { v with serving := v.serving + 1 }
  | .elsewhere => v

/-- An event of this place in the order is delivered. -/
def Signals.emit (v : Signals) (rank : Nat) : Signals := { v with ranks := v.ranks ++ [rank] }

/-- A change of the view by one action, with the thread that moves taken
    apart from those that stay. -/
inductive Signal : Signals → Signals → Prop where
  | idle (v : Signals) : Signal v v
  /-- A response passes. The handshake may only end. -/
  | respond (v : Signals) (handshaking : Bool)
      (h : v.handshaking = false → handshaking = false) :
      Signal (v.join .relaying) (.join { v with handshaking := handshaking } .relaying)
  | leaveAttaching (v : Signals) : Signal (v.join .attaching) v
  | leaveServing (v : Signals) : Signal (v.join .serving) v
  | failAttaching (v : Signals) : Signal (v.join .attaching) (v.join .serving)
  | failAcknowledging (v : Signals) : Signal (v.join .acknowledging) (v.join .serving)
  | failRelaying (v : Signals) (handshaking : Bool)
      (h : v.handshaking = false → handshaking = false) :
      Signal (v.join .relaying) (.join { v with handshaking := handshaking } .serving)
  | store (v : Signals) (hbarred : v.barred = false) :
      Signal (v.join .attaching) (.join { v with process := true } .announcing)
  | started (v : Signals) : Signal (v.join .announcing) ((v.emit 0).join .acknowledging)
  | relay (v : Signals) :
      Signal (v.join .acknowledging) (((v.join .serving).join .relaying).join .serving)
  | confirm (v : Signals) (harmed : v.armed = false) (hexit : v.exitSent = false)
      (hshake : v.handshaking = true) :
      Signal (v.join .relaying)
        (.join { v with flowLocked := true, handshaking := false } .readying)
  | ready (v : Signals) : Signal (v.join .readying) ((v.emit 1).join .releasingFlow)
  | releaseFlow (v : Signals) :
      Signal (v.join .releasingFlow) (.join { v with flowLocked := false } .relaying)
  | claim (v : Signals) (hfree : v.locked = false) (hexit : v.exitSent = false) :
      Signal (v.join .relaying) (.join { v with exitSent := true } .exiting)
  | exited (v : Signals) : Signal (v.join .exiting) (v.emit 3)
  /-- `_fail` claims the exit event, or finds it claimed. -/
  | fail (v : Signals) (hfree : v.locked = false) (hflow : v.flowLocked = false)
      (hexit : v.exitSent = false) :
      Signal (v.join .serving) (.join { v with barred := true, exitSent := true } .exiting)
  | failLate (v : Signals) (hexit : v.exitSent = true) :
      Signal (v.join .serving) { v with barred := true }
  | arm (v : Signals) (hfree : v.locked = false) (hflow : v.process = true → v.flowLocked = false)
      (hfirst : v.armed = false) (hexit : v.exitSent = false)
      (hstart : v.process = true → 0 ∈ v.ranks) :
      Signal v (.join { v with barred := true, armed := true, locked := true } .closing)
  | closing (v : Signals) : Signal (v.join .closing) ((v.emit 2).join .releasing)
  | release (v : Signals) : Signal (v.join .releasing) { v with locked := false }

/-! ### The invariant of the moves -/

/-- The events delivered so far are in order, and whoever is about to deliver
    one finds none of the later ones delivered. -/
structure Orderly (v : Signals) : Prop where
  order : v.ranks.Pairwise (· < ·)
  bound : ∀ k ∈ v.ranks, k ≤ 3
  /-- The accept thread and the relay of the worker are never both there. -/
  single : v.attaching + v.announcing + v.acknowledging + v.relaying + v.readying
    + v.releasingFlow ≤ 1
  held : v.closing + v.releasing ≤ 1
  exits : v.exiting ≤ 1
  locked : 0 < v.closing + v.releasing → v.locked = true
  flowLocked : 0 < v.readying + v.releasingFlow → v.flowLocked = true
  launched : 0 < v.announcing + v.acknowledging + v.relaying + v.readying + v.releasingFlow →
    v.process = true
  served : 0 < v.serving → v.attaching + v.announcing + v.acknowledging = 0
  unstarted : 0 < v.attaching + v.announcing → 0 ∉ v.ranks
  started : 0 < v.acknowledging + v.relaying + v.readying + v.releasingFlow → 0 ∈ v.ranks
  announcing : 0 < v.announcing → v.armed = false
  readying : 0 < v.readying → v.armed = false ∧ v.exitSent = false ∧ v.handshaking = false ∧
    1 ∉ v.ranks
  ready : 1 ∈ v.ranks → 0 ∈ v.ranks ∧ v.handshaking = false
  closing : 0 < v.closing → v.exitSent = false ∧ v.armed = true ∧ 2 ∉ v.ranks
  closed : 2 ∈ v.ranks → v.armed = true
  exiting : 0 < v.exiting → v.exitSent = true
  exited : 3 ∈ v.ranks → v.exitSent = true ∧ v.exiting = 0
  exitSent : v.exitSent = true → v.attaching + v.announcing + v.acknowledging = 0
  armed : v.armed = true → v.barred = true

namespace Orderly

variable {v w : Signals}

/-- The accept thread is the first to deliver anything. The relay does not
    exist yet, closing was not armed, and nobody can have failed. -/
theorem before_started (hv : Orderly v) (h : 0 < v.announcing) : ∀ k ∈ v.ranks, k < 0 := by
  intro k hk
  have hstart : 0 ∉ v.ranks := hv.unstarted (by omega)
  have harmed : v.armed = false := hv.announcing h
  have hexit : v.exitSent = false := by
    by_contra hsent
    have := hv.exitSent (by simpa using hsent)
    omega
  have hle := hv.bound k hk
  interval_cases k
  · exact absurd hk hstart
  · exact absurd (hv.ready hk).1 hstart
  · exact absurd (hv.closed hk) (by simp [harmed])
  · exact absurd (hv.exited hk).1 (by simp [hexit])

/-- While the flow is locked for the ready event nobody arms or fails. -/
theorem before_ready (hv : Orderly v) (h : 0 < v.readying) : ∀ k ∈ v.ranks, k < 1 := by
  intro k hk
  obtain ⟨harmed, hexit, -, hready⟩ := hv.readying h
  have hle := hv.bound k hk
  interval_cases k
  · omega
  · exact absurd hk hready
  · exact absurd (hv.closed hk) (by simp [harmed])
  · exact absurd (hv.exited hk).1 (by simp [hexit])

/-- While the lock is held for the closing event nobody claims the exit. -/
theorem before_closing (hv : Orderly v) (h : 0 < v.closing) : ∀ k ∈ v.ranks, k < 2 := by
  intro k hk
  obtain ⟨hexit, -, hclosing⟩ := hv.closing h
  have hle := hv.bound k hk
  interval_cases k
  · omega
  · omega
  · exact absurd hk hclosing
  · exact absurd (hv.exited hk).1 (by simp [hexit])

/-- The exit event is the last one, and nothing forbids any of the others. -/
theorem before_exited (hv : Orderly v) (h : 0 < v.exiting) : ∀ k ∈ v.ranks, k < 3 := by
  intro k hk
  have hle := hv.bound k hk
  have hne : k ≠ 3 := by
    rintro rfl
    have := (hv.exited hk).2
    omega
  omega

theorem pairwise_append_last {ranks : List Nat} {k : Nat} (h : ranks.Pairwise (· < ·))
    (hlast : ∀ j ∈ ranks, j < k) : (ranks ++ [k]).Pairwise (· < ·) := by
  rw [pairwise_append]
  exact ⟨h, pairwise_singleton _ _, fun j hj m hm => by
    rw [mem_singleton] at hm
    exact hm ▸ hlast j hj⟩

/-- A move keeps what the invariant says about counts and flags. -/
theorem signal_counts (hv : Orderly v) (h : Signal v w) :
    w.attaching + w.announcing + w.acknowledging + w.relaying + w.readying + w.releasingFlow ≤ 1 ∧
      w.closing + w.releasing ≤ 1 ∧ w.exiting ≤ 1 ∧
      (0 < w.closing + w.releasing → w.locked = true) ∧
      (0 < w.readying + w.releasingFlow → w.flowLocked = true) ∧
      (0 < w.announcing + w.acknowledging + w.relaying + w.readying + w.releasingFlow →
        w.process = true) ∧
      (0 < w.serving → w.attaching + w.announcing + w.acknowledging = 0) ∧
      (0 < w.exiting → w.exitSent = true) ∧
      (w.exitSent = true → w.attaching + w.announcing + w.acknowledging = 0) ∧
      (w.armed = true → w.barred = true) := by
  obtain ⟨-, -, _, _, _, _, _, _, _, -, -, -, _, -, _, -, _, -, _, _⟩ := hv
  cases h
  all_goals
    try dsimp only [Signals.join, Signals.emit] at *
    refine ⟨?_, ?_, ?_, ?_, ?_, ?_, ?_, ?_, ?_, ?_⟩
    all_goals first
      | assumption
      | omega
      | grind

/-- A move keeps the order of the events. The moves that deliver one find only
    earlier ones delivered. -/
theorem signal_order (hv : Orderly v) (h : Signal v w) :
    w.ranks.Pairwise (· < ·) ∧ ∀ k ∈ w.ranks, k ≤ 3 := by
  have hlast : ∀ k, (∀ j ∈ v.ranks, j < k) → (v.ranks ++ [k]).Pairwise (· < ·) :=
    fun k => pairwise_append_last hv.order
  have horder := hv.order
  have hbound := hv.bound
  have hstarted := hv.before_started
  have hready := hv.before_ready
  have hclosing := hv.before_closing
  have hexited := hv.before_exited
  clear hv
  cases h
  all_goals
    try dsimp only [Signals.join, Signals.emit] at *
    constructor
    all_goals first
      | assumption
      | grind

/-- A move keeps what the invariant says about the start of the worker. -/
theorem signal_started (hv : Orderly v) (h : Signal v w) :
    (0 < w.attaching + w.announcing → 0 ∉ w.ranks) ∧
      (0 < w.acknowledging + w.relaying + w.readying + w.releasingFlow → 0 ∈ w.ranks) ∧
      (0 < w.announcing → w.armed = false) := by
  obtain ⟨-, -, _, -, -, -, -, _, _, _, _, _, -, -, _, -, -, -, _, _⟩ := hv
  cases h
  all_goals
    try dsimp only [Signals.join, Signals.emit] at *
    refine ⟨?_, ?_, ?_⟩
    all_goals first
      | assumption
      | grind

/-- A move keeps what the invariant says about the ready event. -/
theorem signal_ready (hv : Orderly v) (h : Signal v w) :
    (0 < w.readying → w.armed = false ∧ w.exitSent = false ∧ w.handshaking = false ∧
        1 ∉ w.ranks) ∧
      (1 ∈ w.ranks → 0 ∈ w.ranks ∧ w.handshaking = false) := by
  obtain ⟨-, -, _, -, -, -, _, _, -, -, _, -, _, _, -, -, -, -, -, -⟩ := hv
  cases h
  all_goals
    try dsimp only [Signals.join, Signals.emit] at *
    constructor
    all_goals first
      | assumption
      | grind

/-- A move keeps what the invariant says about the closing and the exit event. -/
theorem signal_closing (hv : Orderly v) (h : Signal v w) :
    (0 < w.closing → w.exitSent = false ∧ w.armed = true ∧ 2 ∉ w.ranks) ∧
      (2 ∈ w.ranks → w.armed = true) ∧ (3 ∈ w.ranks → w.exitSent = true ∧ w.exiting = 0) := by
  obtain ⟨-, -, -, _, _, _, -, -, -, -, -, -, -, -, _, _, _, _, -, -⟩ := hv
  cases h
  all_goals
    try dsimp only [Signals.join, Signals.emit] at *
    refine ⟨?_, ?_, ?_⟩
    all_goals first
      | assumption
      | grind

/-- A move keeps the invariant. -/
theorem signal (hv : Orderly v) (h : Signal v w) : Orderly w := by
  obtain ⟨single, held, exits, locked, flowLocked, launched, served, exiting, exitSent, armed⟩ :=
    hv.signal_counts h
  obtain ⟨order, bound⟩ := hv.signal_order h
  obtain ⟨unstarted, started, announcing⟩ := hv.signal_started h
  obtain ⟨readying, ready⟩ := hv.signal_ready h
  obtain ⟨closing, closed, exited⟩ := hv.signal_closing h
  constructor <;> assumption

end Orderly

/-! ### Every action is a move -/

/-- The view when one action is taken apart from the others. -/
theorem signals_cons (r : Reservation) (act : WorkerAct) (others : List WorkerAct) :
    signals r (act :: others) = (signals r others).join act.point := by
  cases h : act.point <;> simp [signals, Signals.join, WorkerAct.count, h]

/-- Delivering an event adds its place to the view. -/
theorem signals_emit (r : Reservation) (event : WorkerEvent) (acts : List WorkerAct) :
    signals (r.emit event) acts = (signals r acts).emit event.rank := by
  simp only [signals, Signals.emit, emit, map_append, map_cons,
    map_nil]
  rfl

/-- The view looks at the flow for its lifecycle only. -/
theorem signals_flow (r : Reservation) {flow : WorkerFlow}
    (h : flow.lifecycle = r.flow.lifecycle) (acts : List WorkerAct) :
    signals { r with flow := flow } acts = signals r acts := by
  simp only [signals, h]

section Moves

variable {r : Reservation} {act : WorkerAct} {input : WorkerInput}
  {o : Outcome Reservation WorkerAct} (others : List WorkerAct)

theorem performAccept_signal (h : r.performAccept act input = some o) :
    Signal (signals r (act :: others))
      (signals o.shared ((o.more ++ o.spawned.flatten) ++ others)) := by
  unfold performAccept at h
  repeat' split at h
  all_goals
    cases h
    try simp only [append_nil, flatten_nil, nil_append, cons_append,
      flatten_cons, signals_emit, signals_cons, WorkerAct.point]
  all_goals first
    | exact .idle _
    | exact .leaveAttaching _
    | exact .failAttaching _
    | exact .failAcknowledging _
    | exact .started _
    | exact .relay _
    | next hclosing => exact .store (signals r others) (by simpa [signals] using hclosing)

/-- What the relay of the worker does with a response. -/
theorem workerFrame_signal {response : WorkerResponse} (hflow : r.flow.Consistent)
    (hcondition : r.flow.Confirms response → r.cleanupMode = none ∧ r.exitEventSent = false) :
    (∀ e flow, r.flow.workerFrame response = (.error e, flow) →
        Signal ((signals r others).join .relaying)
          ((signals { r with flow := flow } others).join .serving)) ∧
      (∀ flow, r.flow.workerFrame response = (.ok false, flow) →
        Signal ((signals r others).join .relaying)
          ((signals { r with flow := flow } others).join .relaying)) ∧
      ∀ flow, r.flow.workerFrame response = (.ok true, flow) →
        Signal ((signals r others).join .relaying)
          ((signals { r with flow := flow, flowLocked := true } others).join .readying) := by
  have hshake : ∀ out flow, r.flow.workerFrame response = (out, flow) →
      (signals r others).handshaking = false → decide flow.lifecycle.Handshaking = false := by
    intro out flow heq h
    have := WorkerFlow.workerFrame_handshaking hflow response (of_decide_eq_false h)
    rw [heq] at this
    exact decide_eq_false this
  refine ⟨fun e flow heq => ?_, fun flow heq => ?_, fun flow heq => ?_⟩
  · exact .failRelaying (signals r others) _ (hshake _ _ heq)
  · exact .respond (signals r others) _ (hshake _ _ heq)
  · obtain ⟨hconfirms, hbefore, hafter⟩ :=
      WorkerFlow.workerFrame_eq_ok_true hflow (by rw [heq])
    obtain ⟨harmed, hexit⟩ := hcondition hconfirms
    rw [heq] at hafter
    have hmove := Signal.confirm (signals r others) (by simp [signals, harmed]) hexit
      (decide_eq_true hbefore)
    rwa [show signals { r with flow := flow, flowLocked := true } others =
      { signals r others with flowLocked := true, handshaking := false } by
        simp only [signals, decide_eq_false hafter]]

theorem clientFrame_signals {request : WorkerRequest} {out : Except ProtocolError Unit}
    {flow : WorkerFlow} (heq : r.flow.clientFrame request = (out, flow)) :
    signals { r with flow := flow } others = signals r others := by
  have h := WorkerFlow.clientFrame_lifecycle r.flow request
  rw [heq] at h
  exact signals_flow r h others

theorem performRelay_signal (h : r.performRelay act input = some o)
    (hcondition : Undisturbed r act input) (hflow : r.flow.Consistent) :
    Signal (signals r (act :: others))
      (signals o.shared ((o.more ++ o.spawned.flatten) ++ others)) := by
  unfold performRelay at h
  repeat' split at h
  all_goals
    cases h
    try simp only [append_nil, flatten_nil, nil_append, cons_append,
      signals_emit, signals_cons, WorkerAct.point]
  all_goals first
    | exact .idle _
    | exact .leaveServing _
    | exact .failRelaying (signals r others) _ id
    | exact .ready _
    | exact .releaseFlow (signals r others)
    | exact .exited _
    | next heq => rw [clientFrame_signals others heq]; exact .idle _
    | next heq => exact (workerFrame_signal others hflow (hcondition.2.1 rfl)).1 _ _ heq
    | next heq => exact (workerFrame_signal others hflow (hcondition.2.1 rfl)).2.1 _ heq
    | next heq => exact (workerFrame_signal others hflow (hcondition.2.1 rfl)).2.2 _ heq
    | next hfree =>
      exact .claim (signals r others) (by simpa [signals] using hfree) (hcondition.2.2 rfl)

/-- `_fail` closes the reservation, and claims the exit event if nobody did. -/
theorem failSection_signal (message : String) (reason : Reason)
    (h : ¬ (r.locked = true ∨ r.flowLocked = true)) :
    Signal ((signals r others).join .serving)
      (signals (r.failSection message)
        (.reportFailure reason (!r.exitEventSent) r.process :: others)) := by
  simp only [not_or, Bool.not_eq_true] at h
  rw [signals_cons]
  cases hexit : r.exitEventSent with
  | false =>
    exact .fail (signals r others) h.1 h.2 hexit
  | true =>
    have hmove := Signal.failLate (signals r others) hexit
    rwa [show signals (r.failSection message) others =
      { signals r others with barred := true } by
        simp only [signals, failSection, hexit]
        rfl]

/-- `arm_closing`, when it is the first and nothing is upset by it. -/
theorem arm_signal (reason : Reason) (inClose : Bool) (hfirst : r.cleanupMode = none)
    (hfree : ¬ (r.locked = true ∨ r.process = true ∧ r.flowLocked = true))
    (hcondition : r.exitEventSent = false ∧ (r.process = true → .started ∈ r.events)) :
    Signal (signals r others)
      (signals { r.arm reason with locked := true }
        (.announceClosing reason r.armMode inClose :: others)) := by
  simp only [not_or, Bool.not_eq_true, not_and] at hfree
  have hlifecycle : (if r.process then r.flow.beginClosing else r.flow).lifecycle =
      r.flow.lifecycle := by
    split <;> rfl
  have hmove := Signal.arm (signals r others) hfree.1 hfree.2 (by simp [signals, hfirst])
    hcondition.1 (fun hprocess => mem_map.mpr ⟨_, hcondition.2 hprocess, rfl⟩)
  rw [signals_cons]
  rwa [show signals { r.arm reason with locked := true } others =
    { signals r others with barred := true, armed := true, locked := true } by
      simp only [signals, arm, hlifecycle, Option.isSome_some]]

theorem performClose_signal (h : r.performClose act input = some o)
    (hcondition : Undisturbed r act input) :
    Signal (signals r (act :: others))
      (signals o.shared ((o.more ++ o.spawned.flatten) ++ others)) := by
  unfold performClose at h
  split at h
  · -- `fail`
    split at h
    · cases h
    · next hfree =>
      cases h
      rw [signals_cons]
      exact failSection_signal others _ _ hfree
  · -- `reportFailure`
    next reason emitExit process status =>
    cases h
    rw [signals_cons]
    cases emitExit with
    | false => exact .idle _
    | true => exact (signals_emit r _ others) ▸ Signal.exited (signals r others)
  · -- `setClosed`
    cases h
    exact .idle (signals r others)
  · -- `armClosing`
    split at h
    · cases h
    · next hfree =>
      split at h
      · next hfirst =>
        cases h
        exact arm_signal others _ _ hfirst hfree (hcondition.1 rfl hfirst)
      · cases h
        split
        all_goals exact .idle (signals r others)
  · -- `announceClosing`
    next reason mode inClose =>
    cases h
    change Signal _ (signals (r.emit _) (.releaseLock mode inClose :: others))
    rw [signals_cons, signals_cons, signals_emit]
    exact .closing (signals r others)
  · -- `releaseLock`
    cases h
    rw [signals_cons]
    split
    all_goals exact .release (signals r others)
  · -- `close`
    split at h
    · cases h
    · split at h
      all_goals
        cases h
        exact .idle (signals r others)
  · cases h
    exact .idle (signals r others)
  · -- `chooseMode`
    split at h
    · cases h
    · split at h
      all_goals
        cases h
        exact .idle (signals r others)
  · -- `teardown`
    cases h
    exact .idle (signals r others)
  · cases h
    exact .idle (signals r others)
  · cases h

/-- Every action is a move of the view. -/
theorem perform_signal (h : r.perform act input = some o) (hcondition : Undisturbed r act input)
    (hflow : r.flow.Consistent) :
    Signal (signals r (act :: others))
      (signals o.shared ((o.more ++ o.spawned.flatten) ++ others)) := by
  rcases perform_cases h with h | h | h
  · exact performAccept_signal others h
  · exact performRelay_signal others h hcondition hflow
  · exact performClose_signal others h hcondition

/-- No action upsets the books of the flow. -/
theorem perform_consistent (h : r.perform act input = some o) (hflow : r.flow.Consistent) :
    o.shared.flow.Consistent := by
  have hclient : ∀ request out flow, r.flow.clientFrame request = (out, flow) →
      flow.Consistent := by
    intro request out flow heq
    have := hflow.clientFrame request
    rwa [heq] at this
  have hworker : ∀ response out flow, r.flow.workerFrame response = (out, flow) →
      flow.Consistent := by
    intro response out flow heq
    have := hflow.workerFrame response
    rwa [heq] at this
  have harm : ∀ reason, (r.arm reason).flow.Consistent := by
    intro reason
    rw [arm]
    split
    · exact hflow.beginClosing
    · exact hflow
  rcases perform_cases h with hthread | hthread | hthread
  · unfold performAccept at hthread
    repeat' split at hthread
    all_goals
      cases hthread
      try exact hflow
  · unfold performRelay at hthread
    repeat' split at hthread
    all_goals
      cases hthread
      try first
      | exact hflow
      | exact hclient _ _ _ (by assumption)
      | exact hworker _ _ _ (by assumption)
  · unfold performClose at hthread
    repeat' split at hthread
    all_goals
      cases hthread
      try first
      | exact hflow
      | exact hflow.beginClosing
      | (dsimp only; exact harm _)

end Moves

/-! ### Every run -/

/-- The invariant of a run: the flow keeps its books, and the view is orderly. -/
def OrderlyPool (p : Pool Reservation WorkerAct) : Prop :=
  p.shared.flow.Consistent ∧ Orderly (signals p.shared p.pending)

/-- Calls from outside are at no point that matters. -/
theorem count_calls (calls : List Reservation.Call) (point : Point) (h : point ≠ .elsewhere) :
    WorkerAct.count (calls.map fun call => [call.act]).flatten point = 0 := by
  rw [WorkerAct.count, countP_eq_zero]
  intro act hact
  obtain ⟨acts, hacts, hmem⟩ := mem_flatten.mp hact
  obtain ⟨call, -, rfl⟩ := mem_map.mp hacts
  rw [mem_singleton.mp hmem]
  rw [decide_eq_true_iff]
  cases call with
  | armClosing reason => exact h.symm
  | close reason mode => exact h.symm

theorem orderlyPool_start (terms : WorkerTerms) (calls : List Reservation.Call) :
    OrderlyPool (Reservation.start terms calls) := by
  refine ⟨WorkerFlow.consistent_initial, ?_⟩
  rw [start, Pool.pending, flatten_cons, singleton_append, signals_cons]
  constructor <;>
    simp [WorkerAct.point, Signals.join, signals, count_calls calls]

theorem orderlyPool_step {p q : Pool Reservation WorkerAct} (hp : OrderlyPool p)
    (h : Pool.Step Reservation.perform Undisturbed p q) : OrderlyPool q := by
  obtain ⟨before, act, rest, after, input, o, hthreads, hperform, hcondition, rfl⟩ := h
  refine ⟨perform_consistent hperform hp.1, ?_⟩
  rw [signals_perm _ (Pool.pending_put_perm o)]
  have hmove := perform_signal (before.flatten ++ rest ++ after.flatten) hperform hcondition hp.1
  rw [← signals_perm _ (Pool.pending_perm hthreads)] at hmove
  exact hp.2.signal hmove

/-- The closing and the exit event are always accepted. -/
theorem accepts_of_late (events : List WorkerEvent) (state : ClientWorker)
    (h : ∀ event ∈ events, 2 ≤ event.rank) :
    (events.foldlM ClientWorker.observe state).isSome = true := by
  induction events generalizing state with
  | nil => rfl
  | cons event events ih =>
    have hrank := h event mem_cons_self
    have hrest := fun state => ih state fun e he => h e (mem_cons_of_mem _ he)
    cases event with
    | started => simp [WorkerEvent.rank] at hrank
    | ready => simp [WorkerEvent.rank] at hrank
    | closing reason mode => exact hrest .closing
    | exited reason returncode => exact hrest .exited

/-- The client accepts events in order if the start is among them whenever
    the ready event is. -/
theorem accepts_of_inOrder {events : List WorkerEvent} (horder : WorkerEvent.InOrder events)
    (hready : 1 ∈ events.map WorkerEvent.rank → 0 ∈ events.map WorkerEvent.rank) :
    ClientWorker.Accepts events := by
  cases events with
  | nil => rfl
  | cons first events =>
    obtain ⟨hfirst, hrest⟩ := pairwise_cons.mp horder
    have hlater : ∀ event ∈ events, first.rank < event.rank :=
      fun event hevent => hfirst _ (mem_map_of_mem hevent)
    cases first with
    | ready =>
      -- The start would have to come later.
      have hstart := hready mem_cons_self
      rw [map_cons, mem_cons] at hstart
      rcases hstart with hzero | hzero
      · cases hzero
      · exact absurd (hfirst 0 hzero) (by decide)
    | closing reason mode =>
      exact accepts_of_late events .closing fun event hevent => (hlater event hevent).le
    | exited reason returncode =>
      exact accepts_of_late events .exited fun event hevent =>
        (Nat.le_succ 2).trans (hlater event hevent).le
    | started =>
      -- Only the event after the start is checked against it.
      cases events with
      | nil => rfl
      | cons second events =>
        obtain ⟨hsecond, -⟩ := pairwise_cons.mp hrest
        have hlast : ∀ event ∈ events, second.rank < event.rank :=
          fun event hevent => hsecond _ (mem_map_of_mem hevent)
        cases second with
        | started => exact absurd (hlater _ mem_cons_self) (lt_irrefl _)
        | ready => exact accepts_of_late events .ready hlast
        | closing reason mode =>
          exact accepts_of_late events .closing fun event hevent =>
            (hlast event hevent).le
        | exited reason returncode =>
          exact accepts_of_late events .exited fun event hevent =>
            (Nat.le_succ 2).trans (hlast event hevent).le

/-- In a run none of whose steps upsets the order, the events come in order,
    each at most once, and the client accepts them. -/
theorem events_inOrder {terms : WorkerTerms} {calls : List Reservation.Call}
    {p : Pool Reservation WorkerAct}
    (h : Pool.Reaches Reservation.perform Undisturbed (Reservation.start terms calls) p) :
    WorkerEvent.InOrder p.shared.events ∧ ClientWorker.Accepts p.shared.events := by
  have hp : OrderlyPool p := by
    induction h with
    | refl => exact orderlyPool_start terms calls
    | tail _ hstep ih => exact orderlyPool_step ih hstep
  exact ⟨hp.2.order, accepts_of_inOrder hp.2.order fun hready => (hp.2.ready hready).1⟩

/-! ### Two schedules -/

def sampleTerms : WorkerTerms where
  principalUid := 1000
  serverUid := 1000
  sessionId := "00000000000000000000000000000001"
  workerId := "00000000000000000000000000000002"
  attachmentToken := "0000000000000000000000000000000000000000000000000000000000000003"
  admission := 1

/-- A connection that presents what the reservation was made for. -/
def sampleCandidate : Candidate where
  uid := 1000
  frame := .ok (.obj [("v", .int 1), ("kind", .str "attach"),
    ("sessionId", .str sampleTerms.sessionId), ("workerId", .str sampleTerms.workerId),
    ("attachmentToken", .str sampleTerms.attachmentToken)])
  expired := false

/-- The accept thread up to the launched worker whose start is not reported. -/
def launchSchedule : List (Nat × WorkerInput) :=
  [(0, .done), (0, .connected sampleCandidate), (0, .guarded true), (0, .done), (0, .done),
    (0, .done)]

def exitStatus : ProcessStatus := ⟨.exited, some 0⟩

/-- The worker is launched and created, released, and ends. -/
def releaseSchedule : List (Nat × WorkerInput) :=
  launchSchedule ++
    [(0, .done), (0, .done),
      (2, .request (.ok ⟨1, .hello "digest" "node"⟩)), (2, .done),
      (3, .response (.ok ⟨1, .ok (.identity "digest" "node")⟩)), (3, .done),
      (2, .request (.ok ⟨2, .create⟩)), (2, .done),
      (3, .response (.ok ⟨2, .ok .null⟩)), (3, .done), (3, .done), (3, .done),
      (1, .done), (1, .done), (1, .done),
      (3, .ended), (3, .done), (3, .status exitStatus)]

theorem releaseSchedule_inOrder :
    ∃ p, Pool.Reaches Reservation.perform Undisturbed
        (Reservation.start sampleTerms [.armClosing .normal]) p ∧
      p.shared.events =
        [.started, .ready, .closing .normal .disposeThenTerminate, .exited .normal (some 0)] ∧
      WorkerEvent.InOrder p.shared.events ∧ ClientWorker.Accepts p.shared.events := by
  have hrun : ((Reservation.start sampleTerms [.armClosing .normal]).run Reservation.perform
      Undisturbed releaseSchedule).map (·.shared.events) = some
        [.started, .ready, .closing .normal .disposeThenTerminate, .exited .normal (some 0)] := by
    decide +kernel
  obtain ⟨p, hp, hevents⟩ := Option.map_eq_some_iff.mp hrun
  have hreach := Pool.reaches_of_run hp
  exact ⟨p, hreach, hevents, events_inOrder hreach⟩

/-- The client disconnects, `_fail` reports the exit, and the relay of the
    worker reports it once more when the output of the worker ends. -/
def disconnectSchedule : List (Nat × WorkerInput) :=
  launchSchedule ++
    [(0, .done), (0, .done), (1, .ended), (1, .done), (1, .status exitStatus),
      (2, .ended), (2, .done), (2, .status exitStatus)]

/-- The reservation is closed between the launch and the report of the start. -/
def overtakeSchedule : List (Nat × WorkerInput) :=
  launchSchedule ++ [(1, .done), (1, .done), (1, .done), (0, .done)]

/-- Two exit events, and an order the client does not accept. -/
theorem exited_twice :
    (∃ p, Pool.Reaches Reservation.perform (fun _ _ _ => True)
        (Reservation.start sampleTerms []) p ∧
      p.shared.events =
        [.started, .exited .clientFailure (some 0), .exited .normal (some 0)] ∧
      ¬ WorkerEvent.InOrder p.shared.events) ∧
    ∃ p, Pool.Reaches Reservation.perform (fun _ _ _ => True)
        (Reservation.start sampleTerms [.armClosing .normal]) p ∧
      p.shared.events = [.closing .normal .terminateOnly, .started] ∧
      ¬ ClientWorker.Accepts p.shared.events := by
  constructor
  · have hrun : ((Reservation.start sampleTerms []).run Reservation.perform
        (fun _ _ _ => True) disconnectSchedule).map (·.shared.events) = some
          [.started, .exited .clientFailure (some 0), .exited .normal (some 0)] := by
      decide +kernel
    obtain ⟨p, hp, hevents⟩ := Option.map_eq_some_iff.mp hrun
    refine ⟨p, Pool.reaches_of_run hp, hevents, ?_⟩
    rw [hevents]
    decide
  · have hrun : ((Reservation.start sampleTerms [.armClosing .normal]).run Reservation.perform
        (fun _ _ _ => True) overtakeSchedule).map (·.shared.events) = some
          [.closing .normal .terminateOnly, .started] := by
      decide +kernel
    obtain ⟨p, hp, hevents⟩ := Option.map_eq_some_iff.mp hrun
    refine ⟨p, Pool.reaches_of_run hp, hevents, ?_⟩
    rw [hevents]
    decide

end MirrorGate
