import MirrorGate.Service.Protocol
import MirrorGate.Lib.Labelled
import Mathlib.Data.List.Sort

/-!
# The Evaluation Service

The service keeps a record of every run. A start makes a record and counts it
for its caller and for the service; the run is launched later, and the callback
that evaluates is called later still. When the callback has settled, so does
the run: it is no longer counted. Some settled records are retained, so that
their result can be asked for, and the others are forgotten. What is left of
them is that the key of their start is expired.

In between, requests, timers and the end of the service can come in any order.
A label says what happens next and what the outside decides: the time, the
identifier of a new run, what the budget answers, and what a callback returns.

A run is an object that its callback refers to, whether or not the service
still has it in its table. The model has a list of all runs, in which they have
their places for good, and the table is a list of places.

## Main definitions

* `Record`: A run, with what the service knows about it.
* `State`: The service.
* `prune`: Settled runs are forgotten.
* `dispatch`: What a request does and returns.
* `Label`, `step`: What can happen, and what it does.
-/

namespace MirrorGate.Service

/-! ### Records -/

/-- What a binding discloses of a result. -/
structure Disclosure where
  counts : Bool
  implementationIdentity : Bool
  failureStage : Bool
  deriving DecidableEq

/-- A pair of references that a caller may have evaluated. -/
structure Binding where
  suiteRef : Reference
  implementationRef : Reference
  budgeted : Bool
  disclosure : Option Disclosure
  deriving DecidableEq

/-- How far the callback of a run is. -/
inductive Stage where
  /-- The launch is queued. -/
  | accepted
  /-- The call of the callback is queued. -/
  | launched
  | evaluating
  /-- The callback failed, or its result was refused. -/
  | rejected
  /-- What the callback did has been taken in. -/
  | concluded
  | settled
  deriving DecidableEq, Repr

structure Record where
  runId : Handle
  startKey : Handle
  suiteRef : Reference
  implementationRef : Reference
  /-- The place of the caller in the service. -/
  caller : Nat
  disclosure : Option Disclosure
  phase : Phase
  progress : Progress
  result : Option PublicResult
  failure : Option FailureCode
  /-- The signal to stop was given. -/
  aborted : Bool
  /-- The timer of the evaluation is set. -/
  timer : Bool
  /-- The timer of the cleanup is set. -/
  grace : Bool
  stage : Stage
  settledAt : Nat
  deriving DecidableEq

def Phase.terminal (phase : Phase) : Bool := phase = .finished || phase = .unconfirmed

def Record.terminal (r : Record) : Bool := r.phase.terminal

def Record.settled (r : Record) : Bool := r.stage = .settled

/-- The oldest records of progress go until the others are within the limits. -/
def trim (L : Limits) : List ProgressRecord → List ProgressRecord
  | [] => []
  | r :: rest =>
    if L .progressRecords < (r :: rest).length ∨
        (∃ x ∈ r :: rest, L .progressRecordBytes < x.toJson.bytes) ∨
        L .progressBytes < ((r :: rest).map fun x => x.toJson.bytes).sum then
      trim L rest
    else r :: rest

/-- A message is added to the progress of a run. -/
def Progress.add (L : Limits) (p : Progress) (message : String) : Progress :=
  let records := trim L (p.records ++ [⟨p.nextSeq, message⟩])
  let nextSeq := p.nextSeq + 1
  let firstSeq := nextSeq - records.length
  { firstSeq, nextSeq, truncated := 1 < firstSeq, records }

/-- The run goes to a phase, and its progress says so. -/
def Record.enter (L : Limits) (r : Record) (phase : Phase) (message : String) : Record :=
  { r with phase, progress := r.progress.add L message }

def Record.unconfirmed (L : Limits) (r : Record) (code : FailureCode) : Record :=
  if r.terminal then r
  else
    { r.enter L .unconfirmed "Workflow cleanup is unconfirmed" with failure := some code }

def Record.cancel (L : Limits) (r : Record) : Record :=
  if r.terminal || r.aborted then r
  else
    { r.enter L .cancelling "Evaluation cancellation requested" with aborted := true, grace := true }

def Record.launch (L : Limits) (r : Record) : Record :=
  let r := if r.aborted then r else r.enter L .running "Evaluation workflow running"
  { r with timer := true, stage := .launched }

/-- What a binding does not disclose is taken out of a result. -/
def disclose (disclosure : Option Disclosure) (result : PublicResult) : PublicResult :=
  match disclosure with
  | none => result
  | some d =>
    { result with
      counts := if d.counts then result.counts else none
      implementation := if d.implementationIdentity then result.implementation else none
      failureStage := if d.failureStage then result.failureStage else none }

def Record.finish (L : Limits) (r : Record) (result : PublicResult) : Record :=
  { r.enter L .finished "Evaluation workflow settled" with
    result := some (disclose r.disclosure result) }

def Record.settle (r : Record) (now : Nat) : Record :=
  { r with timer := false, grace := false, stage := .settled, settledAt := now }

def Record.snapshot (r : Record) : Run where
  runId := r.runId
  startKey := r.startKey
  suiteRef := r.suiteRef
  implementationRef := r.implementationRef
  phase := r.phase
  progress := r.progress
  result := r.result
  failure := r.failure

/-! ### The service -/

/-- What the service knows about a start. -/
structure Start where
  runId : Handle
  suiteRef : Reference
  implementationRef : Reference
  expired : Bool
  deriving DecidableEq

structure Caller where
  bindings : List Binding
  starts : Handle → Option Start
  active : Nat

structure State where
  limits : Limits
  epoch : Handle
  callers : List Caller
  /-- All runs there ever were. -/
  runs : List Record
  /-- The places of the runs that are retained, the oldest first. -/
  records : List Nat
  active : Nat
  accepted : Nat
  closing : Bool
  uncertain : Bool
  /-- The runs that the end of the service waits for. -/
  pending : List Nat
  /-- The callers and keys for which a callback was called. -/
  calls : List (Nat × Handle)
  /-- How often a budget was asked for an attempt. -/
  consumed : Nat

/-- A service that has just been started. -/
def opened (L : Limits) (epoch : Handle) (callers : List (List Binding)) : State where
  limits := L
  epoch := epoch
  callers := callers.map fun bindings => { bindings, starts := fun _ => none, active := 0 }
  runs := []
  records := []
  active := 0
  accepted := 0
  closing := false
  uncertain := false
  pending := []
  calls := []
  consumed := 0

namespace State

def update (s : State) (i : Nat) (f : Record → Record) : State :=
  { s with runs := s.runs.modify i f }

/-- The run at a place has a property. -/
def holds (s : State) (p : Record → Bool) (i : Nat) : Bool := (s.runs[i]?).any p

/-- The place of the retained run with an identifier. -/
def find (s : State) (id : Handle) : Option Nat :=
  s.records.find? (s.holds fun r => r.runId = id)

def settledAt (s : State) (i : Nat) : Nat := ((s.runs[i]?).map (·.settledAt)).getD 0

/-- The retained runs that are settled, the first one first. -/
def completed (s : State) : List Nat :=
  (s.records.filter (s.holds fun r => r.settled && r.terminal)).insertionSort
    fun i j => s.settledAt i ≤ s.settledAt j

/-- The settled runs that are too many or too old. -/
def overdue (s : State) (now : Nat) : List Nat → List Nat
  | [] => []
  | i :: rest =>
    if s.limits .retainedRuns < (i :: rest).length ∨
        s.settledAt i + s.limits .retentionMs ≤ now then
      i :: overdue s now rest
    else []

/-- The key of a start expires. -/
def expire (key : Handle) (c : Caller) : Caller :=
  { c with starts := Function.update c.starts key ((c.starts key).map fun e =>
      { e with expired := true }) }

/-- A run is forgotten. -/
def forget (s : State) (i : Nat) : State :=
  match s.runs[i]? with
  | none => s
  | some r =>
    { s with
      records := s.records.filter fun j => !s.holds (fun r' => r'.runId = r.runId) j
      callers := s.callers.modify r.caller (expire r.startKey) }

/-- Settled runs that are too many or too old are forgotten. -/
def prune (s : State) (now : Nat) : State := (s.overdue now s.completed).foldl forget s

def unconfirmed (s : State) (code : FailureCode) (i : Nat) : State :=
  { s.update i (·.unconfirmed s.limits code) with
    uncertain := s.uncertain || s.holds (!·.terminal) i }

def cancel (s : State) (i : Nat) : State := s.update i (·.cancel s.limits)

end State

/-! ### Requests -/

/-- What the budget of a binding answers. -/
inductive BudgetAnswer where
  | granted
  | exhausted
  | broken
  deriving DecidableEq, Repr

/-- What the outside decides while a request is served: the time, a random
    identifier, and the answer of a budget. -/
structure Chance where
  now : Nat
  fresh : Handle
  budget : BudgetAnswer

/-- The budget of a binding is asked for an attempt. -/
def consume (s : State) (binding : Binding) (answer : BudgetAnswer) : State × Except Code Unit :=
  if binding.budgeted then
    ({ s with consumed := s.consumed + 1 },
      match answer with
      | .granted => .ok ()
      | .exhausted => .error .limitExceeded
      | .broken => .error .serviceUnavailable)
  else (s, .ok ())

/-- A record for a start. -/
def newRecord (L : Limits) (caller : Nat) (id startKey : Handle) (binding : Binding) : Record where
  runId := id
  startKey := startKey
  suiteRef := binding.suiteRef
  implementationRef := binding.implementationRef
  caller := caller
  disclosure := binding.disclosure
  phase := .queued
  progress := Progress.add L ⟨1, 1, false, []⟩ "Evaluation accepted"
  result := none
  failure := none
  aborted := false
  timer := false
  grace := false
  stage := .accepted
  settledAt := 0

/-- A run is added for a caller. -/
def accept (s : State) (caller : Nat) (r : Record) : State :=
  { s with
    runs := s.runs ++ [r]
    records := s.records ++ [s.runs.length]
    callers := s.callers.modify caller fun c =>
      { c with
        starts := Function.update c.starts r.startKey
          (some ⟨r.runId, r.suiteRef, r.implementationRef, false⟩)
        active := c.active + 1 }
    active := s.active + 1
    accepted := s.accepted + 1 }

/-- The retained run with an identifier, as a reply reports it. -/
def State.report (s : State) (i : Nat) : Except Code Reply :=
  match s.runs[i]? with
  | some r => .ok (.run r.snapshot)
  | none => .error .argumentInvalid

/-- A start with a key that was used before. -/
def restart (s : State) (existing : Start) (suiteRef implementationRef : Reference) :
    Except Code Reply :=
  if existing.suiteRef ≠ suiteRef ∨ existing.implementationRef ≠ implementationRef then
    .error .startConflict
  else if existing.expired then .error .runExpired
  else
    match s.find existing.runId with
    | some i => s.report i
    | none => .error .argumentInvalid

/-- A start with a new key. -/
def startNew (s : State) (caller : Nat) (c : Caller) (startKey : Handle)
    (suiteRef implementationRef : Reference) (chance : Chance) : State × Except Code Reply :=
  if s.closing then (s, .error .serviceUnavailable)
  else
    match c.bindings.find? fun b =>
        b.suiteRef = suiteRef ∧ b.implementationRef = implementationRef with
    | none => (s, .error .referenceUnknown)
    | some binding =>
      if s.limits .activeRuns ≤ s.active ∨ s.limits .activeRunsPerCaller ≤ c.active ∨
          s.limits .lifetimeStarts ≤ s.accepted then
        (s, .error .limitExceeded)
      else
        match consume s binding chance.budget with
        | (s, .error code) => (s, .error code)
        | (s, .ok ()) =>
          let r := newRecord s.limits caller chance.fresh startKey binding
          (accept s caller r, .ok (.run r.snapshot))

def start (s : State) (caller : Nat) (c : Caller) (startKey : Handle)
    (suiteRef implementationRef : Reference) (chance : Chance) : State × Except Code Reply :=
  match c.starts startKey with
  | some existing => (s, restart s existing suiteRef implementationRef)
  | none => startNew s caller c startKey suiteRef implementationRef chance

/-- The run that a caller refers to. -/
def resolve (s : State) (caller : Nat) (c : Caller) (ref : RunRef) : Except Code Nat :=
  let own (id : Handle) : Except Code Nat :=
    match s.find id with
    | some i => if s.holds (fun r => r.caller = caller) i then .ok i else .error .runUnknown
    | none => .error .runUnknown
  match ref with
  | .runId id => own id
  | .startKey key =>
    match c.starts key with
    | some e => if e.expired then .error .runExpired else own e.runId
    | none => .error .runUnknown

/-- A request of another epoch is refused. -/
def inEpoch (s : State) (epoch : Handle) (answer : State × Except Code Reply) :
    State × Except Code Reply :=
  if epoch ≠ s.epoch then (s, .error .staleEpoch) else answer

/-- What a request does and returns, after settled runs have been forgotten. -/
def serve (s : State) (caller : Nat) (c : Caller) (op : Op) (chance : Chance) :
    State × Except Code Reply :=
  match op with
  | .hello => (s, .ok (.hello s.epoch s.limits))
  | .start epoch startKey suiteRef implementationRef =>
    inEpoch s epoch (start s caller c startKey suiteRef implementationRef chance)
  | .get epoch ref =>
    inEpoch s epoch
      (match resolve s caller c ref with
      | .ok i => (s, s.report i)
      | .error code => (s, .error code))
  | .cancel epoch runId =>
    inEpoch s epoch
      (match resolve s caller c (.runId runId) with
      | .ok i => (s.cancel i, (s.cancel i).report i)
      | .error code => (s, .error code))

/-- What a request of a caller does and returns. A request of someone else is
    refused before. -/
def dispatch (s : State) (caller : Nat) (op : Op) (chance : Chance) : State × Except Code Reply :=
  let pruned := s.prune chance.now
  match pruned.callers[caller]? with
  | some c => serve pruned caller c op chance
  | none => (s, .error .unauthorized)

/-! ### Steps -/

/-- What happens next. -/
inductive Label where
  /-- A caller sends a request. -/
  | request (caller : Nat) (body : Json) (chance : Chance)
  /-- The queued launch of a run is carried out. -/
  | launch (run : Nat)
  /-- The callback of a run is called. -/
  | call (run : Nat)
  /-- The callback returns a value. -/
  | returned (run : Nat) (outcome : Json)
  /-- The callback fails. -/
  | threw (run : Nat)
  /-- A failure is taken in. -/
  | caught (run : Nat)
  /-- The run settles. -/
  | settle (run : Nat) (now : Nat)
  /-- The timer of an evaluation goes off. -/
  | timer (run : Nat)
  /-- The timer of a cleanup goes off. -/
  | grace (run : Nat)
  /-- Settled runs are forgotten from time to time. -/
  | retention (now : Nat)
  /-- The end of the service begins. -/
  | close
  /-- The end of the service does not wait any longer. -/
  | closeExpired

namespace State

/-- The result of a callback is taken in. -/
def conclude (s : State) (i : Nat) (r : Record) (outcome : Json) : State :=
  if r.terminal then s.update i ({ · with stage := .concluded })
  else
    match publicResult outcome with
    | .ok result =>
      { s.update i fun r => { r.finish s.limits result with stage := .concluded } with
        uncertain := s.uncertain || result.cleanup ≠ .confirmed }
    | .error _ => s.update i ({ · with stage := .rejected })

/-- A run settles, and is no longer counted. -/
def settle (s : State) (i : Nat) (r : Record) (now : Nat) : State :=
  prune
    { s.update i (·.settle now) with
      callers := s.callers.modify r.caller fun c => { c with active := c.active - 1 }
      active := s.active - 1 }
    now

/-- All runs that are not settled are cancelled. -/
def close (s : State) : State :=
  let unsettled := s.records.filter (s.holds (!·.settled))
  { unsettled.foldl cancel s with closing := true, pending := unsettled }

/-- The runs that are still waited for are unconfirmed. -/
def closeExpired (s : State) : State :=
  { (s.pending.filter (s.holds (!·.settled))).foldl (unconfirmed · .workflowUnsettled) s with
    pending := [] }

end State

/-- A run at a stage takes a step. -/
def atStage (s : State) (i : Nat) (stage : Stage) (f : Record → State) : Option State :=
  match s.runs[i]? with
  | some r => if r.stage = stage then some (f r) else none
  | none => none

/-- A random identifier is not one of a retained run. -/
def Chance.isFresh (chance : Chance) (s : State) : Bool := (s.find chance.fresh).isNone

/-- One step of the service. -/
def step (s : State) : Label → Option State
  | .request caller body chance =>
    if chance.isFresh s then
      match Service.request body with
      | .ok message => some (dispatch s caller message.op chance).1
      | .error _ => some s
    else none
  | .launch i => atStage s i .accepted fun _ => s.update i (·.launch s.limits)
  | .call i =>
    atStage s i .launched fun r =>
      { s.update i ({ · with stage := .evaluating }) with
        calls := s.calls ++ [(r.caller, r.startKey)] }
  | .returned i outcome => atStage s i .evaluating fun r => s.conclude i r outcome
  | .threw i => atStage s i .evaluating fun _ => s.update i ({ · with stage := .rejected })
  | .caught i =>
    atStage s i .rejected fun _ =>
      (s.unconfirmed .workflowFailed i).update i ({ · with stage := .concluded })
  | .settle i now => atStage s i .concluded fun r => s.settle i r now
  | .timer i =>
    if s.holds (·.timer) i then some ((s.update i ({ · with timer := false })).cancel i) else none
  | .grace i =>
    if s.holds (·.grace) i then
      some ((s.update i ({ · with grace := false })).unconfirmed .workflowUnsettled i)
    else none
  | .retention now => if s.closing then none else some (s.prune now)
  | .close => some (if s.closing then s else s.close)
  | .closeExpired => if s.closing then some s.closeExpired else none

end MirrorGate.Service
