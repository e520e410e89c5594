import MirrorGate.Sandbox.Gate
import MirrorGate.Worker.Order

/-!
# Launching and Tearing Down a Worker

The reservation once more, with the sandbox that is launched through it. The
actions are those of the reservation, but for three that are taken apart here.
Launching gives a sandbox. Storing it either puts it into the reservation or,
when that is closing, stops it again on the accept thread and under the lock
of the reservation. Tearing down stops the process, closes the listener, waits
for the accept thread, closes the sandbox that was stored and removes the
endpoint directory, and notes what failed.

Only a sandbox that was stored is closed by the thread that tears down. One
that the accept thread has to close itself, because the reservation is closing
or because nothing could be started in it, is gone from its sight, so when
that fails, nobody reports it. A close that says it is complete is to be
believed when the accept thread has no such failure.

## Main definitions

* `Rig`: A reservation with its sandbox.
* `RigAct`, `RigInput`, `Rig.perform`, `Rig.start`: The threads.
* `Rig.Complete`: What a complete close is to mean.
* `Rig.Abandons`: The accept thread closes a sandbox without a failure.

## Theorems

* `Rig.complete_of_returned`: A close that says it is complete is.
* `Rig.abandoned_returned`: The accept thread fails to close the sandbox.
-/

namespace MirrorGate

/-- Actions that take the lock of the reservation. -/
def WorkerAct.takesLock : WorkerAct → Bool
  | .accept | .recheck | .store | .claimExit | .fail _ _ | .armClosing _ _ | .chooseMode _ _ => true
  | _ => false

/-- A reservation with its sandbox. -/
structure Rig where
  base : Reservation
  /-- What was launched. It is stored in the reservation when `base.process` is
      set. -/
  sandbox : Option Gate := none
  /-- The accept thread is alive. -/
  accepting : Bool := true
  /-- The accept thread holds `_lock` and stops the sandbox again. -/
  holding : Bool := false
  /-- What calls of `close` have returned. -/
  returned : List (Bool × List String) := []

inductive RigAct where
  | base (act : WorkerAct)
  -- `_accept`
  | launch
  | store
  | abandon
  | endAccept
  -- `_close_locked`
  | stopProcess (mode : CleanupMode)
  | closeListener (mode : CleanupMode) (failures : List String)
  | joinAccept (mode : CleanupMode) (failures : List String)
  | closeGate (mode : CleanupMode) (failures : List String)
  | removeEndpoint (mode : CleanupMode) (failures : List String)
  -- the processes
  | world
deriving DecidableEq, Repr

inductive RigInput where
  | base (input : WorkerInput)
  | done
  | raised (message : String)
  | timedOut
  | launched (descriptors : Nat)
  /-- The sandbox was made, starting the worker in it raised, and it was closed. -/
  | unlaunched (descriptors : Nat) (input : CloseInput) (message : String)
  | close (input : CloseInput)
  /-- The running processes end. -/
  | exits
  /-- The end of processes is noted. -/
  | notes

variable {t : Rig} {others : List RigAct} {failures : List String}

namespace Rig

/-- The actions of a reservation, three of which are taken apart. -/
def lift : WorkerAct → RigAct
  | .launch => .launch
  | .store => .store
  | .teardown mode => .stopProcess mode
  | act => .base act

/-- What a call of `close` returns that does not tear down. -/
def closeReturn (r : Reservation) : WorkerAct → WorkerInput → List (Bool × List String)
  | .close _ _, .done => r.closeResult.toList
  | .close _ _, .timedOut => [(false, ["worker cleanup did not serialize before deadline"])]
  | _, _ => []

def performBase (r : Rig) (act : WorkerAct) (input : WorkerInput) : Option (Outcome Rig RigAct) :=
  if lift act ≠ .base act ∨ (r.holding ∧ act.takesLock) then none
  else
    match r.base.perform act input with
    | none => none
    | some o =>
      some
        { shared := { r with
            base := o.shared
            returned := r.returned ++ closeReturn r.base act input }
          more := o.more.map lift
          spawned := o.spawned.map (·.map lift) }

/-- The accept thread fails. -/
def failed (message : String) : RigAct := .base (.fail message .workerFailure)

def performAccept (r : Rig) : RigAct → RigInput → Option (Outcome Rig RigAct)
  | .launch, .launched n =>
    some { shared := { r with sandbox := some (.fresh n [.running]) }, more := [.store] }
  | .launch, .unlaunched n input message =>
    -- What closing it raises takes the place of what starting it raised.
    some { shared := { r with sandbox := some ((Gate.fresh n []).close input).1 }
           more := [failed (((Gate.fresh n []).close input).2.getD message)] }
  | .launch, .raised message => some { shared := r, more := [failed message] }
  | .store, .done =>
    if r.base.locked then none
    else if r.base.closing then some { shared := { r with holding := true }, more := [.abandon] }
    else
      some { shared := { r with base := { r.base with process := true } }
             more := [.base .announceStarted] }
  | .abandon, .raised message =>
    -- The process could not be signalled.
    some { shared := { r with holding := false }, more := [failed message] }
  | .abandon, .close input =>
    match r.sandbox with
    | none => none
    | some g =>
      some { shared := { r with sandbox := some (g.close input).1, holding := false }
             more := ((g.close input).2.map failed).toList }
  | .endAccept, .done => some { shared := { r with accepting := false } }
  | _, _ => none

/-- A process is stopped and waited for, unless its exit code is known. -/
def stop : ProcessState → ProcessState
  | .running => .done
  | process => process

/-- Something happens to the processes of the sandbox. -/
def mapProcesses (r : Rig) (f : ProcessState → ProcessState) : Rig :=
  { r with sandbox := r.sandbox.map (·.mapProcesses f) }

/-- The result of tearing down is kept and returned. -/
def finish (r : Rig) (failures : List String) (endpoint : Option String) : Rig :=
  { r with
    base := r.base.torn failures endpoint
    returned := r.returned ++ (r.base.torn failures endpoint).closeResult.toList }

def performTeardown (r : Rig) : RigAct → RigInput → Option (Outcome Rig RigAct)
  | .stopProcess mode, .done =>
    if r.base.locked ∨ r.holding then none
    else
      some { shared := if r.base.process then r.mapProcesses stop else r
             more := [.closeListener mode []] }
  | .stopProcess mode, .timedOut =>
    if r.base.locked ∨ r.holding ∨ r.base.process = false then none
    else
      some { shared := r
             more := [.closeListener mode
              ["worker process did not terminate before cleanup deadline"]] }
  | .stopProcess _, .raised _ =>
    -- The process could not be signalled, or the connection not be closed.
    if r.base.locked ∨ r.holding then none
    else some { shared := { r with base := { r.base with tearing := false } } }
  | .closeListener mode failures, .done =>
    some { shared := r, more := [.joinAccept mode failures] }
  | .closeListener mode failures, .raised message =>
    some { shared := r
           more := [.joinAccept mode (failures ++ ["listener close failed: " ++ message])] }
  | .joinAccept mode failures, .done =>
    if r.accepting then none else some { shared := r, more := [.closeGate mode failures] }
  | .joinAccept mode failures, .timedOut =>
    if r.accepting then
      some { shared := r
             more := [.closeGate mode (failures ++
              ["worker attachment or launch did not quiesce before cleanup deadline"])] }
    else none
  | .closeGate mode failures, .close input =>
    match r.base.process, r.sandbox with
    | true, some g =>
      some { shared := { r with sandbox := some (g.close input).1 }
             more := [.removeEndpoint mode (failures ++
              ((g.close input).2.map ("sandbox cleanup failed: " ++ ·)).toList)] }
    | true, none => none
    | false, _ => some { shared := r, more := [.removeEndpoint mode failures] }
  | .removeEndpoint _ failures, .done => some { shared := r.finish failures none }
  | .removeEndpoint _ failures, .raised message =>
    some { shared := r.finish failures (some message) }
  | _, _ => none

/-- Processes end by themselves, or because they were told to. -/
def performWorld (r : Rig) : RigInput → Option (Outcome Rig RigAct)
  | .exits => some { shared := r.mapProcesses .exit, more := [.world] }
  | .notes => some { shared := r.mapProcesses .note, more := [.world] }
  | _ => none

/-- What an action does. -/
def perform (r : Rig) (act : RigAct) (input : RigInput) : Option (Outcome Rig RigAct) :=
  match act with
  | .base act =>
    match input with
    | .base input => r.performBase act input
    | _ => none
  | .launch | .store | .abandon | .endAccept => r.performAccept act input
  | .world => r.performWorld input
  | _ => r.performTeardown act input

/-- A new reservation: its accept thread runs, and any number of calls will be
    made on it. -/
def start (terms : WorkerTerms) (calls : List Reservation.Call) : Pool Rig RigAct :=
  ⟨{ base := { terms := terms } },
    [.base .accept, .endAccept] :: [.world] :: calls.map fun call => [lift call.act]⟩

/-- What a complete close is to mean: the sandbox has ended and was closed, and
    the endpoint directory is gone. -/
structure Complete (r : Rig) : Prop where
  sandbox : ∀ g, r.sandbox = some g → g.Released ∧ g.closed = true
  directory : r.base.directory = false

/-- When the accept thread closes a sandbox, nothing fails. -/
def Abandons (_ : Rig) (act : RigAct) (input : RigInput) : Prop :=
  match act, input with
  | .abandon, .close x | .launch, .unlaunched _ x _ => x.Obliging
  | .abandon, .raised _ => False
  | _, _ => True

instance (r : Rig) (act : RigAct) (input : RigInput) : Decidable (Abandons r act input) := by
  unfold Abandons
  split <;> infer_instance

/-! ### What an action of the reservation leaves alone -/

/-- Actions of the accept thread up to the launch. -/
def attaching : RigAct → Bool
  | .base .accept | .base .candidate | .base .launchGuard | .base .recheck | .launch => true
  | _ => false

/-- Actions that only the accept thread performs. -/
def attaches : RigAct → Bool
  | .store | .abandon | .endAccept => true
  | a => attaching a

/-- A thread that tears down, or is about to. -/
def tears : RigAct → Nat
  | .base (.armClosing _ inClose) | .base (.announceClosing _ _ inClose)
  | .base (.releaseLock _ inClose) => inClose.toNat
  | .base (.chooseMode _ _) | .stopProcess _ | .closeListener _ _ | .joinAccept _ _
  | .closeGate _ _ | .removeEndpoint _ _ => 1
  | _ => 0

section Base

variable {r : Reservation} {act : WorkerAct} {input : WorkerInput}
  {o : Outcome Reservation WorkerAct}

/-- Only launching, storing and tearing down touch the process, the directory
    and the result. -/
theorem base_keeps (hlift : lift act = .base act) (h : r.perform act input = some o) :
    o.shared.process = r.process ∧ o.shared.directory = r.directory ∧
      o.shared.closeResult = r.closeResult := by
  rcases Reservation.perform_cases h with h | h | h
  · unfold Reservation.performAccept at h
    repeat' split at h
    all_goals cases h
    all_goals first | exact ⟨rfl, rfl, rfl⟩ | cases hlift
  · unfold Reservation.performRelay at h
    repeat' split at h
    all_goals cases h
    all_goals exact ⟨rfl, rfl, rfl⟩
  · unfold Reservation.performClose at h
    repeat' split at h
    all_goals cases h
    all_goals first | exact ⟨rfl, rfl, rfl⟩ | cases hlift

/-- A thread tears down exactly while it holds the lock for that. It takes the
    lock when there is no result. -/
theorem base_tears (hlift : lift act = .base act) (h : r.perform act input = some o) :
    ((o.more.map fun a => tears (lift a)).sum = tears (.base act) ∧
        o.shared.tearing = r.tearing ∨
      (o.more.map fun a => tears (lift a)).sum = 1 ∧ tears (.base act) = 0 ∧
        r.tearing = false ∧ o.shared.tearing = true ∧ r.closeResult = none) ∧
    (o.spawned.flatten.map fun a => tears (lift a)).sum = 0 := by
  rcases Reservation.perform_cases h with h | h | h
  · unfold Reservation.performAccept at h
    repeat' split at h
    all_goals cases h
    all_goals exact ⟨.inl ⟨rfl, rfl⟩, rfl⟩
  · unfold Reservation.performRelay at h
    repeat' split at h
    all_goals cases h
    all_goals exact ⟨.inl ⟨rfl, rfl⟩, rfl⟩
  · unfold Reservation.performClose at h
    repeat' split at h
    all_goals cases h
    all_goals first
      | exact ⟨.inl ⟨rfl, rfl⟩, rfl⟩
      | exact ⟨.inl ⟨by simp [tears, lift, *], rfl⟩, rfl⟩
      | (cases hlift; done)
      | exact ⟨.inr ⟨rfl, rfl, by simp_all, rfl, ‹_›⟩, rfl⟩

/-- The accept thread goes on to launch, or has done with that. -/
theorem base_attaching (hact : attaching (.base act) = true) (h : r.perform act input = some o) :
    o.spawned = [] ∧ (o.more = [] ∨ ∃ b, o.more = [b] ∧
      (attaching (lift b) = true ∨ attaches (lift b) = false)) := by
  cases act with
  | accept | candidate | launchGuard | recheck =>
    simp only [Reservation.perform] at h
    unfold Reservation.performAccept at h
    repeat' split at h
    all_goals cases h
    all_goals first
      | exact ⟨rfl, .inl rfl⟩
      | exact ⟨rfl, .inr ⟨_, rfl, .inl rfl⟩⟩
      | exact ⟨rfl, .inr ⟨_, rfl, .inr rfl⟩⟩
      | simp_all
  | _ => cases hact

/-- Nobody else launches. -/
theorem base_attaches (hlift : lift act = .base act) (hact : attaches (.base act) = false)
    (h : r.perform act input = some o) :
    ∀ b ∈ o.more ++ o.spawned.flatten, attaches (lift b) = false := by
  rcases Reservation.perform_cases h with h | h | h
  · unfold Reservation.performAccept at h
    repeat' split at h
    all_goals cases h
    all_goals first | simp [lift, attaches, attaching]; done | (cases hact; done) | cases hlift
  · unfold Reservation.performRelay at h
    repeat' split at h
    all_goals cases h
    all_goals simp [lift, attaches, attaching]
  · unfold Reservation.performClose at h
    repeat' split at h
    all_goals cases h
    all_goals simp [lift, attaches, attaching]

end Base

/-- An action of the reservation, seen from here. -/
theorem exists_base {r : Rig} {act : WorkerAct} {x : RigInput} {o : Outcome Rig RigAct}
    (h : r.perform (.base act) x = some o) :
    ∃ input b, lift act = .base act ∧ r.base.perform act input = some b ∧
      o = ⟨{ r with
          base := b.shared
          returned := r.returned ++ closeReturn r.base act input },
        b.more.map lift, b.spawned.map (·.map lift)⟩ := by
  cases x <;> simp only [perform, reduceCtorEq] at h
  unfold performBase at h
  split at h
  · cases h
  · split at h
    · cases h
    · next hbase =>
      cases h
      exact ⟨_, _, by simp_all, hbase, rfl⟩

theorem lift_append (b : Outcome Reservation WorkerAct) :
    b.more.map lift ++ (b.spawned.map (·.map lift)).flatten =
      (b.more ++ b.spawned.flatten).map lift := by
  rw [List.map_append, List.map_flatten]

/-! ### What the other threads leave to the accept thread -/

/-- What a step does that the accept thread does not make. -/
structure Quiet (r t : Rig) : Prop where
  process : t.base.process = r.base.process
  accepting : t.accepting = r.accepting
  directory : r.base.directory = false → t.base.directory = false
  absent : r.sandbox = none → t.sandbox = none
  present : ∀ g, r.sandbox = some g → ∃ u, t.sandbox = some u ∧ u.earlier = g.earlier ∧
    (g.Released ∧ g.closed = true → u.Released ∧ u.closed = true) ∧
    (r.base.process = false → u.closed = g.closed)

theorem Quiet.of_sandbox {r : Rig} (hprocess : t.base.process = r.base.process)
    (haccepting : t.accepting = r.accepting)
    (hdirectory : r.base.directory = false → t.base.directory = false)
    (hsandbox : t.sandbox = r.sandbox) : Quiet r t where
  process := hprocess
  accepting := haccepting
  directory := hdirectory
  absent h := hsandbox.trans h
  present g hg := ⟨g, hsandbox.trans hg, rfl, id, fun _ => rfl⟩

theorem Quiet.mapProcesses {r : Rig} {f : ProcessState → ProcessState}
    (hf : ∀ p, f p = .running → p = .running) : Quiet r (r.mapProcesses f) where
  process := rfl
  accepting := rfl
  directory := id
  absent h := by rw [Rig.mapProcesses, h]; rfl
  present g hg := by
    refine ⟨g.mapProcesses f, by rw [Rig.mapProcesses, hg]; rfl, rfl, fun h => ?_, fun _ => rfl⟩
    exact ⟨h.1.mapProcesses hf, h.2⟩

/-- A sandbox of which nothing is left stays so. -/
theorem Quiet.released {r : Rig} (h : Quiet r t)
    (hreleased : ∀ g, r.sandbox = Option.some g → g.Released ∧ g.closed = true) {u : Gate}
    (hu : t.sandbox = Option.some u) : u.Released ∧ u.closed = true := by
  cases hg : r.sandbox with
  | none =>
    rw [h.absent hg] at hu
    cases hu
  | some g =>
    obtain ⟨u', hu', _, hkept, _⟩ := h.present g hg
    cases hu.symm.trans hu'
    exact hkept (hreleased g hg)

theorem stop_running (p : ProcessState) (h : stop p = .running) : p = .running := by
  cases p <;> first | rfl | cases h

theorem finish_quiet (r : Rig) (failures : List String) (endpoint : Option String) :
    Quiet r (r.finish failures endpoint) :=
  .of_sandbox rfl rfl (fun h => by simp [finish, Reservation.torn, h]) rfl

section Steps

variable {r : Rig} {a : RigAct} {x : RigInput} {o : Outcome Rig RigAct}

/-- Nobody but the accept thread launches, stores or abandons. -/
theorem quiet_of_perform (ha : attaches a = false) (h : r.perform a x = some o) :
    Quiet r o.shared := by
  cases a with
  | base act =>
    obtain ⟨_, _, hlift, hbase, rfl⟩ := exists_base h
    obtain ⟨hprocess, hdirectory, _⟩ := base_keeps hlift hbase
    exact .of_sandbox hprocess rfl (hdirectory.trans ·) rfl
  | stopProcess mode =>
    cases x <;> simp only [perform, performTeardown, reduceCtorEq] at h
    · split at h
      · cases h
      · cases h
        dsimp only
        split
        · exact .mapProcesses stop_running
        · exact .of_sandbox rfl rfl id rfl
    · split at h
      · cases h
      · cases h
        exact .of_sandbox rfl rfl id rfl
    · split at h
      · cases h
      · cases h
        exact .of_sandbox rfl rfl id rfl
  | closeListener mode failures =>
    cases x <;> simp only [perform, performTeardown, reduceCtorEq] at h
    all_goals
      cases h
      exact .of_sandbox rfl rfl id rfl
  | joinAccept mode failures =>
    cases x <;> simp only [perform, performTeardown, reduceCtorEq] at h
    all_goals
      split at h
      all_goals cases h
      exact .of_sandbox rfl rfl id rfl
  | closeGate mode failures =>
    cases x <;> simp only [perform, performTeardown, reduceCtorEq] at h
    split at h
    · next g hprocess hg =>
      cases h
      refine ⟨rfl, rfl, id, fun hnone => ?_, fun g' hg' => ?_⟩
      · rw [hg] at hnone
        cases hnone
      · rw [hg] at hg'
        cases hg'
        have hmarks := g.close_marks
        refine ⟨_, rfl, (hmarks _).2, fun hreleased => ?_, fun hfree => ?_⟩
        · rw [Gate.close_of_closed hreleased.2]
          exact hreleased
        · rw [hprocess] at hfree
          cases hfree
    · cases h
    · cases h
      exact .of_sandbox rfl rfl id rfl
  | removeEndpoint mode failures =>
    cases x <;> simp only [perform, performTeardown, reduceCtorEq] at h
    all_goals
      cases h
      exact finish_quiet _ _ _
  | world =>
    cases x <;> simp only [perform, performWorld, reduceCtorEq] at h
    · cases h
      exact .mapProcesses ProcessState.exit_eq_running
    · cases h
      exact .mapProcesses ProcessState.note_eq_running
  | launch | store | abandon | endAccept => cases ha

theorem attaches_of_perform (ha : attaches a = false) (h : r.perform a x = some o) :
    ∀ b ∈ o.more ++ o.spawned.flatten, attaches b = false := by
  cases a with
  | base act =>
    obtain ⟨_, _, hlift, hbase, rfl⟩ := exists_base h
    intro b hb
    rw [lift_append] at hb
    obtain ⟨c, hc, rfl⟩ := List.mem_map.mp hb
    exact base_attaches hlift ha hbase c hc
  | stopProcess | closeListener | joinAccept | closeGate | removeEndpoint =>
    cases x <;> simp only [perform, performTeardown, reduceCtorEq] at h
    all_goals repeat' split at h
    all_goals cases h
    all_goals simp [attaches, attaching]
  | world =>
    cases x <;> simp only [perform, performWorld, reduceCtorEq] at h
    all_goals
      cases h
      simp [attaches, attaching]
  | launch | store | abandon | endAccept => cases ha

end Steps

/-! ### The accept thread -/

/-- The sandbox is in the reservation, or nothing of it is left. -/
def Settled (r : Rig) : Prop :=
  r.base.process = true ∨ ∀ g, r.sandbox = some g → g.Released ∧ g.closed = true

/-- What the accept thread has left to do, and what has become of the sandbox. -/
inductive Accepting (r : Rig) : List RigAct → Prop
  | attaching {a} (ha : attaching a = true) (hnone : r.sandbox = none)
      (hprocess : r.base.process = false) (halive : r.accepting = true) :
      Accepting r [a, .endAccept]
  | launched {g} (hg : r.sandbox = some g) (hopen : g.closed = false) (hearlier : g.earlier = [])
      (hprocess : r.base.process = false) (halive : r.accepting = true) :
      Accepting r [.store, .endAccept]
  | abandoning {g} (hg : r.sandbox = some g) (hopen : g.closed = false) (hearlier : g.earlier = [])
      (hprocess : r.base.process = false) (halive : r.accepting = true) :
      Accepting r [.abandon, .endAccept]
  | settled {acts} (hacts : ∀ a ∈ acts, attaches a = false) (hsettled : Settled r)
      (halive : r.accepting = true) : Accepting r (acts ++ [.endAccept])
  | ended (hsettled : Settled r) (hdead : r.accepting = false) : Accepting r []

theorem Quiet.settled {r : Rig} (h : Quiet r t) (hsettled : Settled r) : Settled t := by
  rcases hsettled with hprocess | hreleased
  · exact .inl (h.process.trans hprocess)
  · exact .inr fun _ hu => h.released hreleased hu

/-- What the others do leaves the accept thread where it is. -/
theorem Quiet.stage {r : Rig} {first : List RigAct} (h : Quiet r t)
    (hstage : Accepting r first) : Accepting t first := by
  have hlaunched {g : Gate} (hg : r.sandbox = some g) (hopen : g.closed = false)
      (hearlier : g.earlier = []) (hprocess : r.base.process = false) :
      ∃ u, t.sandbox = some u ∧ u.closed = false ∧ u.earlier = [] := by
    obtain ⟨u, hu, hsame, _, hclosed⟩ := h.present g hg
    exact ⟨u, hu, (hclosed hprocess).trans hopen, hsame.trans hearlier⟩
  cases hstage with
  | attaching ha hnone hprocess halive =>
    exact .attaching ha (h.absent hnone) (h.process.trans hprocess) (h.accepting.trans halive)
  | launched hg hopen hearlier hprocess halive =>
    obtain ⟨u, hu, hopen', hearlier'⟩ := hlaunched hg hopen hearlier hprocess
    exact .launched hu hopen' hearlier' (h.process.trans hprocess) (h.accepting.trans halive)
  | abandoning hg hopen hearlier hprocess halive =>
    obtain ⟨u, hu, hopen', hearlier'⟩ := hlaunched hg hopen hearlier hprocess
    exact .abandoning hu hopen' hearlier' (h.process.trans hprocess) (h.accepting.trans halive)
  | settled hacts hsettled halive =>
    exact .settled hacts (h.settled hsettled) (h.accepting.trans halive)
  | ended hsettled hdead => exact .ended (h.settled hsettled) (h.accepting.trans hdead)

section Stages

variable {r : Rig} {a : RigAct} {x : RigInput} {o : Outcome Rig RigAct} {first tail : List RigAct}

theorem settled_of_none (h : r.sandbox = none) : Settled r :=
  .inr fun g hg => by cases h.symm.trans hg

theorem accepting_end (hsettled : Settled r) (halive : r.accepting = true) :
    Accepting r [.endAccept] := by
  have hnil : ∀ a ∈ ([] : List RigAct), attaches a = false := fun _ h => absurd h List.not_mem_nil
  have hstage := Accepting.settled hnil hsettled halive
  exact hstage

theorem accepting_last (ha : attaches a = false) (hsettled : Settled r)
    (halive : r.accepting = true) : Accepting r [a, .endAccept] := by
  have hone : ∀ b ∈ [a], attaches b = false := fun b hb => List.mem_singleton.mp hb ▸ ha
  exact Accepting.settled hone hsettled halive

/-- A sandbox that the accept thread closes without a failure. -/
theorem close_settles {g : Gate} {input : CloseInput} (hopen : g.closed = false)
    (hearlier : g.earlier = []) (hobliging : input.Obliging) :
    (g.close input).1.Released ∧ (g.close input).1.closed = true := by
  refine ⟨Gate.close_released hopen ?_ (Prod.ext rfl (Gate.close_obliging hobliging)),
    (g.close_marks input).1⟩
  rw [hearlier]
  exact List.not_mem_nil

/-- The accept thread before the launch. -/
theorem Accepting.attach (ha : Rig.attaching a = true) (hnone : r.sandbox = none)
    (hprocess : r.base.process = false) (halive : r.accepting = true) (hC : Abandons r a x)
    (h : r.perform a x = some o) :
    Accepting o.shared (o.more ++ [.endAccept]) ∧ o.spawned = [] := by
  cases a with
  | base act =>
    obtain ⟨_, _, hlift, hbase, rfl⟩ := exists_base h
    obtain ⟨hspawned, hmore⟩ := base_attaching ha hbase
    obtain ⟨hsame, _, _⟩ := base_keeps hlift hbase
    rw [hspawned]
    refine ⟨?_, rfl⟩
    rcases hmore with hmore | ⟨b, hmore, hb | hb⟩
    · rw [hmore]
      exact accepting_end (settled_of_none hnone) halive
    · rw [hmore]
      exact .attaching hb hnone (hsame.trans hprocess) halive
    · rw [hmore]
      exact accepting_last hb (settled_of_none hnone) halive
  | launch =>
    cases x <;> simp only [perform, performAccept, reduceCtorEq] at h
    · cases h
      exact ⟨accepting_last rfl (settled_of_none hnone) halive, rfl⟩
    · cases h
      exact ⟨.launched rfl rfl rfl hprocess halive, rfl⟩
    · cases h
      refine ⟨accepting_last rfl (.inr fun u hu => ?_) halive, rfl⟩
      cases hu
      exact close_settles rfl rfl hC
  | _ => cases ha

/-- One action of the accept thread. -/
theorem Accepting.step (hstage : Accepting r first) (hfirst : first = a :: tail)
    (hC : Abandons r a x) (h : r.perform a x = some o) :
    Accepting o.shared (o.more ++ tail) ∧ ∀ b ∈ o.spawned.flatten, attaches b = false := by
  cases hstage with
  | attaching ha hnone hprocess halive =>
    cases hfirst
    obtain ⟨hnext, hspawned⟩ := Accepting.attach ha hnone hprocess halive hC h
    rw [hspawned]
    exact ⟨hnext, fun _ h => absurd h List.not_mem_nil⟩
  | launched hg hopen hearlier hprocess halive =>
    cases hfirst
    cases x <;> simp only [perform, performAccept, reduceCtorEq] at h
    split at h
    · cases h
    · split at h
      · cases h
        refine ⟨.abandoning hg hopen hearlier hprocess halive, ?_⟩
        exact fun _ h => absurd h List.not_mem_nil
      · cases h
        exact ⟨accepting_last rfl (.inl rfl) halive, fun _ h => absurd h List.not_mem_nil⟩
  | @abandoning g hg hopen hearlier hprocess halive =>
    cases hfirst
    cases x <;> simp only [perform, performAccept, reduceCtorEq] at h
    · exact absurd hC id
    · rw [hg] at h
      cases h
      have hreturns := Gate.close_obliging (g := g) hC
      rw [hreturns]
      refine ⟨accepting_end (.inr fun u hu => ?_) halive, fun _ h => absurd h List.not_mem_nil⟩
      cases hu
      exact close_settles hopen hearlier hC
  | @settled acts hacts hsettled halive =>
    cases acts with
    | nil =>
      cases hfirst
      cases x <;> simp only [perform, performAccept, reduceCtorEq] at h
      cases h
      exact ⟨.ended hsettled rfl, fun _ h => absurd h List.not_mem_nil⟩
    | cons b acts =>
      rw [List.cons_append] at hfirst
      cases hfirst
      obtain ⟨hb, hacts⟩ := List.forall_mem_cons.mp hacts
      have hquiet := quiet_of_perform hb h
      obtain ⟨hmore, hspawned⟩ := List.forall_mem_append.mp (attaches_of_perform hb h)
      refine ⟨?_, hspawned⟩
      rw [← List.append_assoc]
      exact .settled (List.forall_mem_append.mpr ⟨hmore, hacts⟩) (hquiet.settled hsettled)
        (hquiet.accepting.trans halive)
  | ended => cases hfirst

end Stages

/-! ### The thread that tears down -/

/-- Tearing down has failed somewhere, and that is going to be reported. -/
def reports : RigAct → Bool
  | .removeEndpoint _ failures => failures ≠ []
  | _ => false

/-- What a thread knows that has torn down so far without a failure. -/
def Knows (r : Rig) : RigAct → Prop
  | .closeGate _ failures => failures = [] → r.accepting = false
  | .removeEndpoint _ failures => failures = [] → r.accepting = false ∧
      ∀ g, r.sandbox = some g → g.Released ∧ g.closed = true
  | _ => True

/-- What tearing down has to do with the actions that are pending. -/
structure Books (r : Rig) (pending : List RigAct) : Prop where
  /-- One thread tears down, while it holds the lock for that. -/
  tears : (pending.map tears).sum = r.base.tearing.toNat
  fresh : r.base.tearing = true → r.base.closeResult = none
  /-- A sandbox that was closed without being released is going to be reported. -/
  gate : r.base.process = true → ∀ g, r.sandbox = some g → g.earlier = [] ∧
    (g.closed = true → g.Released ∨ (∃ failures, r.base.closeResult = some (false, failures)) ∨
      ∃ a ∈ pending, reports a = true)
  knows : ∀ a ∈ pending, Knows r a
  results : ∀ failures, (true, failures) ∈ r.returned ∨
    r.base.closeResult = some (true, failures) → Complete r ∧ r.accepting = false

theorem Books.perm {r : Rig} {pending : List RigAct} (h : Books r pending)
    (hperm : pending.Perm others) : Books r others where
  tears := (hperm.map Rig.tears).sum_eq ▸ h.tears
  fresh := h.fresh
  gate hprocess g hg := by
    obtain ⟨hearlier, hclosed⟩ := h.gate hprocess g hg
    refine ⟨hearlier, fun hc => (hclosed hc).imp_right (Or.imp_right ?_)⟩
    rintro ⟨a, ha, hreports⟩
    exact ⟨a, hperm.mem_iff.mp ha, hreports⟩
  knows a ha := h.knows a (hperm.mem_iff.mpr ha)
  results := h.results

section Tears

variable {r : Rig} {a : RigAct} {x : RigInput} {o : Outcome Rig RigAct}

/-- How a step moves the lock for tearing down, and the result. -/
theorem tears_of_perform (h : r.perform a x = some o) :
    ((o.more ++ o.spawned.flatten).map tears).sum = tears a ∧
        o.shared.base.tearing = r.base.tearing ∧
        o.shared.base.closeResult = r.base.closeResult ∨
      ((o.more ++ o.spawned.flatten).map tears).sum = 1 ∧ tears a = 0 ∧
        r.base.tearing = false ∧ o.shared.base.tearing = true ∧
        o.shared.base.closeResult = none ∧ r.base.closeResult = none ∨
      ((o.more ++ o.spawned.flatten).map tears).sum = 0 ∧ tears a = 1 ∧
        o.shared.base.tearing = false := by
  cases a with
  | base act =>
    obtain ⟨_, b, hlift, hbase, rfl⟩ := exists_base h
    obtain ⟨_, _, hresult⟩ := base_keeps hlift hbase
    obtain ⟨hmore, hspawned⟩ := base_tears hlift hbase
    have hsum : ((b.more.map lift ++ (b.spawned.map (·.map lift)).flatten).map tears).sum =
        (b.more.map fun a => tears (lift a)).sum := by
      rw [lift_append, List.map_map, List.map_append, List.sum_append]
      exact congrArg _ hspawned
    rw [hsum]
    rcases hmore with ⟨hmore, htearing⟩ | ⟨hmore, hact, hfree, htearing, hnone⟩
    · exact .inl ⟨hmore, htearing, hresult⟩
    · exact .inr (.inl ⟨hmore, hact, hfree, htearing, hresult.trans hnone, hnone⟩)
  | stopProcess | closeListener | joinAccept | closeGate | removeEndpoint =>
    cases x <;> simp only [perform, performTeardown, reduceCtorEq] at h
    all_goals repeat' split at h
    all_goals cases h
    all_goals first
      | exact .inl ⟨rfl, rfl, rfl⟩
      | exact .inr (.inr ⟨rfl, rfl, rfl⟩)
  | launch | store | abandon | endAccept =>
    cases x <;> simp only [perform, performAccept, reduceCtorEq] at h
    all_goals repeat' split at h
    all_goals cases h
    all_goals first
      | exact .inl ⟨rfl, rfl, rfl⟩
      | (refine .inl ⟨?_, rfl, rfl⟩; rcases (Gate.close _ _).2 with _ | _ <;> rfl)
  | world =>
    cases x <;> simp only [perform, performWorld, reduceCtorEq] at h
    all_goals
      cases h
      exact .inl ⟨rfl, rfl, rfl⟩

theorem Books.lock (hbooks : Books r (a :: others))
    (h : r.perform a x = some o) :
    (((o.more ++ o.spawned.flatten) ++ others).map Rig.tears).sum =
        o.shared.base.tearing.toNat ∧
      (o.shared.base.tearing = true → o.shared.base.closeResult = none) := by
  have hsum := hbooks.tears
  rw [List.map_cons, List.sum_cons] at hsum
  rw [List.map_append, List.sum_append]
  rcases tears_of_perform h with ⟨hnew, htearing, hresult⟩ |
    ⟨hnew, hact, hfree, htearing, hresult, _⟩ | ⟨hnew, hact, htearing⟩
  · rw [hnew, htearing, hresult]
    exact ⟨hsum, hbooks.fresh⟩
  · rw [hnew, htearing]
    rw [hact, hfree] at hsum
    exact ⟨by simp at hsum ⊢; exact hsum, fun _ => hresult⟩
  · rw [hnew, htearing]
    have hle := r.base.tearing.toNat_le
    rw [hact] at hsum
    exact ⟨by simp; omega, nofun⟩

/-- A thread that is about to close the sandbox or to remove the endpoint comes
    from one that tears down. -/
theorem knows_of_perform (hjoin : ∀ mode failures, a ≠ .joinAccept mode failures)
    (hgate : ∀ mode failures, a ≠ .closeGate mode failures) (h : r.perform a x = some o)
    (t : Rig) : ∀ b ∈ o.more ++ o.spawned.flatten, Knows t b := by
  cases a with
  | base act =>
    obtain ⟨_, _, _, _, rfl⟩ := exists_base h
    intro b hb
    rw [lift_append] at hb
    obtain ⟨c, _, rfl⟩ := List.mem_map.mp hb
    cases c <;> trivial
  | joinAccept mode failures => exact absurd rfl (hjoin mode failures)
  | closeGate mode failures => exact absurd rfl (hgate mode failures)
  | stopProcess | closeListener | removeEndpoint =>
    cases x <;> simp only [perform, performTeardown, reduceCtorEq] at h
    all_goals repeat' split at h
    all_goals cases h
    all_goals simp [Knows]
  | launch | store | abandon | endAccept =>
    cases x <;> simp only [perform, performAccept, reduceCtorEq] at h
    all_goals repeat' split at h
    all_goals cases h
    all_goals simp [Knows, failed]
  | world =>
    cases x <;> simp only [perform, performWorld, reduceCtorEq] at h
    all_goals
      cases h
      simp [Knows]

theorem Quiet.knows {b : RigAct} (hquiet : Quiet r t) (h : Knows r b) : Knows t b := by
  cases b with
  | closeGate mode failures => exact fun hnil => hquiet.accepting.trans (h hnil)
  | removeEndpoint mode failures =>
    intro hnil
    obtain ⟨hdead, hreleased⟩ := h hnil
    exact ⟨hquiet.accepting.trans hdead, fun _ hu => hquiet.released hreleased hu⟩
  | _ => trivial

theorem Quiet.complete (hquiet : Quiet r t) (h : Complete r) : Complete t where
  sandbox _ hu := hquiet.released h.sandbox hu
  directory := hquiet.directory h.directory

/-- As long as the accept thread is alive, nobody knows of a sandbox that is
    released. -/
theorem Knows.of_alive {b : RigAct} (halive : r.accepting = true) (h : Knows r b) :
    Knows t b := by
  cases b with
  | closeGate mode failures => exact fun hnil => by cases halive.symm.trans (h hnil)
  | removeEndpoint mode failures => exact fun hnil => by cases halive.symm.trans (h hnil).1
  | _ => trivial

/-- A step of the accept thread that leaves no closed sandbox in the
    reservation. -/
theorem Books.alive {new : List RigAct} (hbooks : Books r (a :: others))
    (halive : r.accepting = true)
    (hgate : t.base.process = true → ∀ g, t.sandbox = some g → g.earlier = [] ∧ g.closed = false)
    (hresult : t.base.closeResult = r.base.closeResult) (hreturned : t.returned = r.returned)
    (hnew : ∀ b ∈ new, Knows t b)
    (hlock : ((new ++ others).map Rig.tears).sum = t.base.tearing.toNat ∧
      (t.base.tearing = true → t.base.closeResult = none)) : Books t (new ++ others) where
  tears := hlock.1
  fresh := hlock.2
  gate hprocess g hg := by
    obtain ⟨hearlier, hopen⟩ := hgate hprocess g hg
    exact ⟨hearlier, fun hclosed => by cases hopen.symm.trans hclosed⟩
  knows := by
    refine List.forall_mem_append.mpr ⟨hnew, fun b hb => ?_⟩
    exact (hbooks.knows b (List.mem_cons_of_mem _ hb)).of_alive halive
  results fs h := by
    rw [hresult, hreturned] at h
    cases halive.symm.trans (hbooks.results fs h).2

/-- What the accept thread does to the books before the launch. -/
theorem Books.attach (hbooks : Books r (a :: others))
    (ha : attaching a = true) (hprocess : r.base.process = false) (halive : r.accepting = true)
    (h : r.perform a x = some o) :
    Books o.shared ((o.more ++ o.spawned.flatten) ++ others) := by
  have hlock := hbooks.lock h
  cases a with
  | base act =>
    have hnew := knows_of_perform (by simp) (by simp) h o.shared
    obtain ⟨_, _, hlift, hbase, rfl⟩ := exists_base h
    obtain ⟨hsame, _, hresult⟩ := base_keeps hlift hbase
    refine hbooks.alive halive (fun hset => ?_) hresult ?_ hnew hlock
    · rw [hsame, hprocess] at hset
      cases hset
    · cases act <;> first | (cases ha; done) | exact List.append_nil _
  | launch =>
    have hnew := knows_of_perform (by simp) (by simp) h o.shared
    cases x <;> simp only [perform, performAccept, reduceCtorEq] at h
    all_goals
      cases h
      exact hbooks.alive halive (fun hset => by cases hprocess.symm.trans hset) rfl rfl hnew hlock
  | _ => cases ha

/-- What the accept thread does to the books. -/
theorem Books.accept {tail first : List RigAct} (hbooks : Books r (a :: others))
    (hstage : Accepting r first) (hfirst : first = a :: tail) (ha : attaches a = true)
    (h : r.perform a x = some o) :
    Books o.shared ((o.more ++ o.spawned.flatten) ++ others) := by
  have hlock := hbooks.lock h
  cases hstage with
  | attaching ha _ hprocess halive =>
    cases hfirst
    exact hbooks.attach ha hprocess halive h
  | launched hg hopen hearlier hprocess halive =>
    cases hfirst
    have hnew := knows_of_perform (by simp) (by simp) h o.shared
    cases x <;> simp only [perform, performAccept, reduceCtorEq] at h
    split at h
    · cases h
    · split at h
      · cases h
        exact hbooks.alive halive (fun hset => by cases hprocess.symm.trans hset) rfl rfl
          hnew hlock
      · cases h
        refine hbooks.alive halive (fun _ u hu => ?_) rfl rfl hnew hlock
        cases hg.symm.trans hu
        exact ⟨hearlier, hopen⟩
  | abandoning hg hopen hearlier hprocess halive =>
    cases hfirst
    have hnew := knows_of_perform (by simp) (by simp) h o.shared
    cases x <;> simp only [perform, performAccept, reduceCtorEq] at h
    · cases h
      exact hbooks.alive halive (fun hset => by cases hprocess.symm.trans hset) rfl rfl
        hnew hlock
    · rw [hg] at h
      cases h
      exact hbooks.alive halive (fun hset => by cases hprocess.symm.trans hset) rfl rfl
        hnew hlock
  | @settled acts hacts hsettled halive =>
    cases acts with
    | nil =>
      cases hfirst
      cases x <;> simp only [perform, performAccept, reduceCtorEq] at h
      cases h
      refine ⟨hlock.1, hlock.2, fun hprocess g hg => ?_, fun b hb => ?_, fun fs hfs => ?_⟩
      · obtain ⟨hearlier, hclosed⟩ := hbooks.gate hprocess g hg
        refine ⟨hearlier, fun hc => (hclosed hc).imp_right (Or.imp_right ?_)⟩
        rintro ⟨b, hb, hbad⟩
        rcases List.mem_cons.mp hb with rfl | hb
        · cases hbad
        · exact ⟨b, hb, hbad⟩
      · exact (hbooks.knows b (List.mem_cons_of_mem _ hb)).of_alive halive
      · cases halive.symm.trans (hbooks.results fs hfs).2
    | cons b acts =>
      rw [List.cons_append] at hfirst
      cases hfirst
      cases ha.symm.trans (hacts a List.mem_cons_self)
  | ended => cases hfirst

/-- A step that neither closes the sandbox nor ends tearing down. -/
theorem Books.steady {new : List RigAct} (hbooks : Books r (a :: others))
    (hquiet : Quiet r t) (hreports : reports a = false)
    (hresult : t.base.closeResult = r.base.closeResult)
    (hsandbox : ∀ u, t.sandbox = some u → ∃ g, r.sandbox = some g ∧ u.earlier = g.earlier ∧
      u.closed = g.closed ∧ (g.Released → u.Released))
    (hreturned : ∀ fs, (true, fs) ∈ t.returned →
      (true, fs) ∈ r.returned ∨ r.base.closeResult = some (true, fs))
    (hnew : ∀ b ∈ new, Knows t b)
    (hlock : ((new ++ others).map Rig.tears).sum = t.base.tearing.toNat ∧
      (t.base.tearing = true → t.base.closeResult = none)) : Books t (new ++ others) where
  tears := hlock.1
  fresh := hlock.2
  gate hprocess u hu := by
    obtain ⟨g, hg, hearlier, hclosed, hreleased⟩ := hsandbox u hu
    obtain ⟨hearlier', hgate⟩ := hbooks.gate (hquiet.process.symm.trans hprocess) g hg
    refine ⟨hearlier.trans hearlier', fun hc => ?_⟩
    rw [hresult]
    refine (hgate (hclosed.symm.trans hc)).imp hreleased (Or.imp_right ?_)
    rintro ⟨b, hb, hbad⟩
    rcases List.mem_cons.mp hb with rfl | hb
    · cases hreports.symm.trans hbad
    · exact ⟨b, List.mem_append_right _ hb, hbad⟩
  knows := by
    refine List.forall_mem_append.mpr ⟨hnew, fun b hb => ?_⟩
    exact hquiet.knows (hbooks.knows b (List.mem_cons_of_mem _ hb))
  results fs h := by
    obtain ⟨hcomplete, hdead⟩ := hbooks.results fs (by
      rcases h with h | h
      · exact hreturned fs h
      · exact .inr (hresult.symm.trans h))
    exact ⟨hquiet.complete hcomplete, hquiet.accepting.trans hdead⟩

theorem same_sandbox (h : t.sandbox = r.sandbox) (u : Gate) (hu : t.sandbox = some u) :
    ∃ g, r.sandbox = some g ∧ u.earlier = g.earlier ∧ u.closed = g.closed ∧
      (g.Released → u.Released) :=
  ⟨u, h.symm.trans hu, rfl, rfl, id⟩

theorem mapped_sandbox {f : ProcessState → ProcessState}
    (hf : ∀ p, f p = .running → p = .running) (u : Gate)
    (hu : (r.mapProcesses f).sandbox = some u) :
    ∃ g, r.sandbox = some g ∧ u.earlier = g.earlier ∧ u.closed = g.closed ∧
      (g.Released → u.Released) := by
  obtain ⟨g, hg, rfl⟩ := Option.map_eq_some_iff.mp hu
  exact ⟨g, hg, rfl, rfl, fun h => h.mapProcesses hf⟩

/-- A result that says that all went well is an old one, or all did go well. -/
theorem finish_result {fs : List String} {endpoint : Option String}
    (h : (true, fs) ∈ (r.finish failures endpoint).returned ∨
      (r.finish failures endpoint).base.closeResult = some (true, fs)) :
    (true, fs) ∈ r.returned ∨ failures = [] ∧ endpoint = none := by
  have hnew (h : (r.finish failures endpoint).base.closeResult = some (true, fs)) :
      failures = [] ∧ endpoint = none := by
    cases endpoint with
    | none => simpa [finish, Reservation.torn] using And.left (Prod.ext_iff.mp (Option.some.inj h))
    | some => simp [finish, Reservation.torn] at h
  rcases h with h | h
  · rcases List.mem_append.mp h with h | h
    · exact .inl h
    · exact .inr (hnew (Option.mem_toList.mp h))
  · exact .inr (hnew h)

theorem tears_of_reports {b : RigAct} (h : reports b = true) : tears b = 1 := by
  cases b <;> first | rfl | cases h

/-- A thread that tears down is the only one, and there is no result yet. -/
theorem Books.alone (hbooks : Books r (a :: others))
    (ha : Rig.tears a = 1) :
    r.base.closeResult = none ∧ ∀ b ∈ others, reports b = false := by
  have hsum := hbooks.tears
  have hle := r.base.tearing.toNat_le
  rw [List.map_cons, List.sum_cons, ha] at hsum
  refine ⟨hbooks.fresh ?_, fun b hb => ?_⟩
  · rw [← Bool.toNat_eq_one]
    omega
  · have hnone : (others.map Rig.tears).sum = 0 := by omega
    by_contra hbad
    have hone := tears_of_reports (Bool.not_eq_false _ ▸ hbad)
    have hmem := List.sum_eq_zero_iff_forall_eq_nat.mp hnone _ (List.mem_map_of_mem hb)
    omega

/-- The sandbox of the reservation is closed. -/
theorem Books.close {mode : CleanupMode}
    {g : Gate} (hbooks : Books r (.closeGate mode failures :: others)) (input : CloseInput)
    (hprocess : r.base.process = true) (hg : r.sandbox = some g)
    (hreturns : (g.close input).2 = none) : (g.close input).1.Released := by
  obtain ⟨hnone, hothers⟩ := hbooks.alone rfl
  obtain ⟨hearlier, hclosed⟩ := hbooks.gate hprocess g hg
  by_cases hc : g.closed = true
  · -- An earlier call has closed it, and nobody is left to report a failure.
    rw [Gate.close_of_closed hc]
    rcases hclosed hc with hreleased | ⟨_, hresult⟩ | ⟨b, hb, hbad⟩
    · exact hreleased
    · cases hnone.symm.trans hresult
    · rcases List.mem_cons.mp hb with rfl | hb
      · cases hbad
      · cases (hothers b hb).symm.trans hbad
  · refine Gate.close_released (by simpa using hc) ?_ (Prod.ext rfl hreturns)
    rw [hearlier]
    exact List.not_mem_nil

/-- Tearing down ends. -/
theorem Books.finish {mode : CleanupMode}
    {endpoint : Option String} (hbooks : Books r (.removeEndpoint mode failures :: others))
    (hlock : (others.map Rig.tears).sum = (r.finish failures endpoint).base.tearing.toNat ∧
      ((r.finish failures endpoint).base.tearing = true →
        (r.finish failures endpoint).base.closeResult = none)) :
    Books (r.finish failures endpoint) others where
  tears := hlock.1
  fresh := hlock.2
  gate hprocess g hg := by
    obtain ⟨hnone, hothers⟩ := hbooks.alone rfl
    obtain ⟨hearlier, hclosed⟩ := hbooks.gate hprocess g hg
    refine ⟨hearlier, fun hc => ?_⟩
    rcases hclosed hc with hreleased | ⟨_, hresult⟩ | ⟨b, hb, hbad⟩
    · exact .inl hreleased
    · cases hnone.symm.trans hresult
    · rcases List.mem_cons.mp hb with rfl | hb
      · -- This is the thread that reports.
        have hbad : failures ≠ [] := by simpa [reports] using hbad
        refine .inr (.inl ⟨_, congrArg some (Prod.ext ?_ rfl)⟩)
        simp [hbad]
      · cases (hothers b hb).symm.trans hbad
  knows b hb := (finish_quiet _ _ _).knows (hbooks.knows b (List.mem_cons_of_mem _ hb))
  results fs h := by
    have hknows := hbooks.knows _ List.mem_cons_self
    have hquiet := finish_quiet r failures endpoint
    rcases finish_result h with hold | ⟨hnil, hendpoint⟩
    · obtain ⟨hcomplete, hdead⟩ := hbooks.results fs (.inl hold)
      exact ⟨hquiet.complete hcomplete, hdead⟩
    · obtain ⟨hdead, hreleased⟩ := hknows hnil
      refine ⟨⟨hreleased, ?_⟩, hdead⟩
      simp [Rig.finish, Reservation.torn, hendpoint]

/-- What another thread does to the books. -/
theorem Books.other (hbooks : Books r (a :: others))
    (hsettled : r.accepting = false → Settled r) (ha : attaches a = false)
    (h : r.perform a x = some o) :
    Books o.shared ((o.more ++ o.spawned.flatten) ++ others) := by
  have hquiet := quiet_of_perform ha h
  have hlock := hbooks.lock h
  cases a with
  | base act =>
    have hnew := knows_of_perform (by simp) (by simp) h o.shared
    obtain ⟨input, b, hlift, hbase, rfl⟩ := exists_base h
    obtain ⟨_, _, hresult⟩ := base_keeps hlift hbase
    refine hbooks.steady hquiet rfl hresult (same_sandbox rfl) (fun fs hfs => ?_) hnew hlock
    rcases List.mem_append.mp hfs with hfs | hfs
    · exact .inl hfs
    · unfold closeReturn at hfs
      split at hfs
      · exact .inr (Option.mem_toList.mp hfs)
      · simp at hfs
      · cases hfs
  | stopProcess mode =>
    have hnew := knows_of_perform (by simp) (by simp) h o.shared
    cases x <;> simp only [perform, performTeardown, reduceCtorEq] at h
    · split at h
      · cases h
      · cases h
        refine hbooks.steady hquiet rfl ?_ ?_ ?_ hnew hlock
        · dsimp only
          split <;> rfl
        · dsimp only
          split
          · exact mapped_sandbox stop_running
          · exact same_sandbox rfl
        · dsimp only
          split <;> exact fun _ => .inl
    · split at h
      · cases h
      · cases h
        exact hbooks.steady hquiet rfl rfl (same_sandbox rfl) (fun _ => .inl) hnew hlock
    · split at h
      · cases h
      · cases h
        exact hbooks.steady hquiet rfl rfl (same_sandbox rfl) (fun _ => .inl) hnew hlock
  | closeListener mode failures =>
    have hnew := knows_of_perform (by simp) (by simp) h o.shared
    cases x <;> simp only [perform, performTeardown, reduceCtorEq] at h
    all_goals
      cases h
      exact hbooks.steady hquiet rfl rfl (same_sandbox rfl) (fun _ => .inl) hnew hlock
  | joinAccept mode failures =>
    cases x <;> simp only [perform, performTeardown, reduceCtorEq] at h
    · split at h
      · cases h
      · next hdead =>
        cases h
        refine hbooks.steady hquiet rfl rfl (same_sandbox rfl) (fun _ => .inl) ?_ hlock
        intro b hb
        cases List.mem_singleton.mp hb
        exact fun _ => by simpa using hdead
    · split at h
      · cases h
        refine hbooks.steady hquiet rfl rfl (same_sandbox rfl) (fun _ => .inl) ?_ hlock
        intro b hb
        cases List.mem_singleton.mp hb
        exact fun hnil => by simp at hnil
      · cases h
  | closeGate mode failures =>
    have hdead := hbooks.knows _ List.mem_cons_self
    cases x <;> simp only [perform, performTeardown, reduceCtorEq] at h
    next input =>
    split at h
    · next g hprocess hg =>
      cases h
      have hreleased := hbooks.close input hprocess hg
      have hmarks := g.close_marks input
      refine ⟨hlock.1, hlock.2, fun _ u hu => ?_, ?_, fun fs hfs => ?_⟩
      · cases hu
        refine ⟨hmarks.2.trans (hbooks.gate hprocess g hg).1, fun _ => ?_⟩
        cases hreturns : (g.close input).2 with
        | none => exact .inl (hreleased hreturns)
        | some message =>
          refine .inr (.inr ⟨_, List.mem_append_left _ List.mem_cons_self, ?_⟩)
          simp [reports]
      · refine List.forall_mem_append.mpr ⟨fun b hb => ?_, fun b hb => ?_⟩
        · cases List.mem_singleton.mp hb
          intro hnil
          obtain ⟨hnil, hreturns⟩ := List.append_eq_nil_iff.mp hnil
          refine ⟨hdead hnil, fun u hu => ?_⟩
          cases hu
          exact ⟨hreleased (by simpa using hreturns), hmarks.1⟩
        · exact hquiet.knows (hbooks.knows b (List.mem_cons_of_mem _ hb))
      · obtain ⟨hcomplete, hended⟩ := hbooks.results fs hfs
        exact ⟨hquiet.complete hcomplete, hended⟩
    · cases h
    · next hprocess =>
      cases h
      refine hbooks.steady hquiet rfl rfl (same_sandbox rfl) (fun _ => .inl) ?_ hlock
      intro b hb
      cases List.mem_singleton.mp hb
      intro hnil
      refine ⟨hdead hnil, ?_⟩
      rcases hsettled (hdead hnil) with hset | hreleased
      · cases hprocess.symm.trans hset
      · exact hreleased
  | removeEndpoint mode failures =>
    have hknows := hbooks.knows _ List.mem_cons_self
    obtain ⟨endpoint, rfl⟩ : ∃ endpoint, o = ⟨r.finish failures endpoint, [], []⟩ := by
      cases x <;> simp only [perform, performTeardown, reduceCtorEq] at h
      all_goals
        cases h
        exact ⟨_, rfl⟩
    exact hbooks.finish hlock
  | world =>
    have hnew := knows_of_perform (by simp) (by simp) h o.shared
    cases x <;> simp only [perform, performWorld, reduceCtorEq] at h
    · cases h
      exact hbooks.steady hquiet rfl rfl (mapped_sandbox ProcessState.exit_eq_running)
        (fun _ => .inl) hnew hlock
    · cases h
      exact hbooks.steady hquiet rfl rfl (mapped_sandbox ProcessState.note_eq_running)
        (fun _ => .inl) hnew hlock
  | launch | store | abandon | endAccept => cases ha

end Tears

/-! ### Every run -/

/-- What holds between the steps of a run: the first thread is the accept
    thread, nobody else launches, and the books are kept. -/
def Sound (p : Pool Rig RigAct) : Prop :=
  ∃ first others, p.threads = first :: others ∧ Accepting p.shared first ∧
    (∀ b ∈ others.flatten, attaches b = false) ∧ Books p.shared p.pending

theorem sound_start (terms : WorkerTerms) (calls : List Reservation.Call) :
    Sound (start terms calls) := by
  have hcalls : ∀ b ∈ (calls.map fun call => [lift call.act]).flatten,
      attaches b = false ∧ tears b = 0 ∧ ∀ r, Knows r b := by
    intro b hb
    obtain ⟨_, hthread, hb⟩ := List.mem_flatten.mp hb
    obtain ⟨call, _, rfl⟩ := List.mem_map.mp hthread
    cases List.mem_singleton.mp hb
    cases call <;> exact ⟨rfl, rfl, fun _ => trivial⟩
  refine ⟨_, _, rfl, .attaching rfl rfl rfl rfl, ?_, ?_, nofun, nofun, ?_, ?_⟩
  · exact List.forall_mem_cons.mpr ⟨rfl, fun b hb => (hcalls b hb).1⟩
  · have hnone : (((calls.map fun call => [lift call.act]).flatten).map tears).sum = 0 := by
      refine List.sum_eq_zero fun n hn => ?_
      obtain ⟨b, hb, rfl⟩ := List.mem_map.mp hn
      exact (hcalls b hb).2.1
    simpa [start, Pool.pending, tears] using hnone
  · intro b hb
    rcases List.mem_append.mp hb with hb | hb
    · rcases List.mem_cons.mp hb with rfl | hb
      · trivial
      · cases List.mem_singleton.mp hb
        trivial
    · rcases List.mem_cons.mp hb with rfl | hb
      · trivial
      · exact (hcalls b hb).2.2 _
  · rintro fs (h | h) <;> cases h

theorem Accepting.settled_of_dead {r : Rig} {first : List RigAct} (h : Accepting r first)
    (hdead : r.accepting = false) : Settled r := by
  cases h with
  | ended hsettled _ => exact hsettled
  | attaching _ _ _ halive => cases hdead.symm.trans halive
  | launched _ _ _ _ halive => cases hdead.symm.trans halive
  | abandoning _ _ _ _ halive => cases hdead.symm.trans halive
  | settled _ _ halive => cases hdead.symm.trans halive

theorem Sound.step {p q : Pool Rig RigAct} (hp : Sound p)
    (h : Pool.Step perform Abandons p q) : Sound q := by
  obtain ⟨first, others, hfirst, hstage, hothers, hbooks⟩ := hp
  obtain ⟨before, a, rest, after, x, o, hthreads, hperform, hC, rfl⟩ := h
  have hbooks := hbooks.perm (Pool.pending_perm hthreads)
  have hperm : ((o.more ++ o.spawned.flatten) ++ (before.flatten ++ rest ++ after.flatten)).Perm
      (Pool.put o before rest after).pending := (Pool.pending_put_perm o).symm
  rw [hfirst] at hthreads
  cases before with
  | nil =>
    -- The accept thread makes the step.
    obtain ⟨rfl, rfl⟩ := List.cons.inj hthreads
    obtain ⟨hnext, hspawned⟩ := hstage.step rfl hC hperform
    refine ⟨_, others ++ o.spawned, rfl, hnext, ?_, .perm ?_ hperm⟩
    · rw [List.flatten_append]
      exact List.forall_mem_append.mpr ⟨hothers, hspawned⟩
    · by_cases ha : attaches a = true
      · exact hbooks.accept hstage rfl ha hperform
      · exact hbooks.other hstage.settled_of_dead (by simpa using ha) hperform
  | cons thread before =>
    obtain ⟨rfl, rfl⟩ := List.cons.inj hthreads
    have ha : attaches a = false := hothers a (by simp)
    obtain ⟨hmore, hspawned⟩ := List.forall_mem_append.mp (attaches_of_perform ha hperform)
    refine ⟨first, before ++ (o.more ++ rest) :: after ++ o.spawned, rfl,
      (quiet_of_perform ha hperform).stage hstage, fun b hb => ?_, .perm ?_ hperm⟩
    · have hfrom : b ∈ (before ++ (a :: rest) :: after).flatten ∨ b ∈ o.more ∨
          b ∈ o.spawned.flatten := by
        simp only [List.flatten_append, List.flatten_cons, List.mem_append, List.mem_cons] at hb ⊢
        tauto
      rcases hfrom with hb | hb | hb
      · exact hothers b hb
      · exact hmore b hb
      · exact hspawned b hb
    · exact hbooks.other hstage.settled_of_dead ha hperform

theorem sound_of_reaches {terms : WorkerTerms} {calls : List Reservation.Call}
    {p : Pool Rig RigAct} (hreach : Pool.Reaches perform Abandons (start terms calls) p) :
    Sound p := by
  induction hreach with
  | refl => exact sound_start terms calls
  | tail _ hstep ih => exact ih.step hstep

/-- What is to be seen of a rig at the end of a schedule. -/
structure Sight where
  returned : List (Bool × List String)
  sandbox : Option Gate
  directory : Bool
deriving DecidableEq

def sight (p : Pool Rig RigAct) : Sight :=
  ⟨p.shared.returned, p.shared.sandbox, p.shared.base.directory⟩

/-- The accept thread up to the launched sandbox that is not stored. -/
def launchesSchedule : List (Nat × RigInput) :=
  [(0, .base .done), (0, .base (.connected sampleCandidate)), (0, .base (.guarded true)),
    (0, .base .done), (0, .launched 2)]

/-- The call of `close` on the third thread, up to the arming. -/
def armsSchedule : List (Nat × RigInput) :=
  [(2, .base .done), (2, .base .done), (2, .base .done), (2, .base .done), (2, .base .done)]

/-- The reservation is closed between the launch and the storing, and the
    accept thread closes the sandbox. -/
def abandonSchedule : List (Nat × RigInput) :=
  launchesSchedule ++ armsSchedule ++
    [(0, .done), (0, .close {}), (0, .done), (2, .done), (2, .done), (2, .done), (2, .close {}),
      (2, .done)]

/-- The same, but the process does not end in time. -/
def strandSchedule : List (Nat × RigInput) :=
  launchesSchedule ++ armsSchedule ++
    [(0, .done), (0, .close { waits := [some "timed out"] }), (0, .base .done),
      (0, .base (.status ⟨.other, none⟩)), (0, .base .done), (0, .done), (2, .done), (2, .done),
      (2, .done), (2, .close {}), (2, .done)]

end Rig

end MirrorGate
