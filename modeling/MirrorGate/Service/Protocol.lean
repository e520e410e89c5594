import MirrorGate.Worker.Port
import MirrorGate.Lib.Fallible
import Mathlib.Data.Nat.Digits.Defs
import Mathlib.Logic.Function.Basic

/-!
# The Protocol of the Evaluation Service

A caller asks the evaluation service to start a run, to report on it and to
cancel it. Requests are JSON objects, and the service checks every one of them
with `request`. What an evaluation returns is checked with `publicResult`.

The checks are written as readers: they return what they accept as a value of a
type that has no others. A handle, a reference, a digest and a UUID are texts
with their form as a field, and enumerations are read by their text.

JavaScript has members that are present and undefined. JSON has none, and every
check below treats such a member like an absent one, or refuses it.

## Main definitions

* `Limit`, `LIMITS`: The limits of a service, and their greatest values.
* `publicResult`: The check of the result that an evaluation returns.
* `Run`, `Reply`: What the service reports.
* `request`: The check of a request.
-/

namespace MirrorGate.Service

/-! ### Errors -/

inductive Code where
  | unauthorized
  | argumentInvalid
  | limitExceeded
  | referenceUnknown
  | runUnknown
  | runExpired
  | startConflict
  | staleEpoch
  | serviceUnavailable
  deriving DecidableEq, Repr

/-- A check that fails with a code. -/
def require (condition : Bool) (code : Code) : Except Code Unit :=
  if condition then .ok () else .error code

/-! ### Texts -/

/-- A text with a form. -/
structure Formed (form : List Char → Bool) where
  text : String
  formed : form text.toList = true
  deriving DecidableEq

def isHandle (text : List Char) : Bool := text.length = 32 && text.all isHexDigit

def isRefChar (c : Char) : Bool := c.isAlphanum || c = '_' || c = '.' || c = '-'

def isReference : List Char → Bool
  | [] => false
  | c :: rest => c.isAlpha && rest.length ≤ 127 && rest.all isRefChar

/-- Five groups of hexadecimal digits with dashes between them. -/
def isUuid (text : List Char) : Bool :=
  text.length = 36 && (text.zipIdx.all fun (c, i) =>
    if i ∈ [8, 13, 18, 23] then c = '-' else isHexDigit c)

/-- A random identifier: 32 hexadecimal digits. -/
abbrev Handle := Formed isHandle

abbrev Reference := Formed isReference

abbrev Uuid := Formed isUuid

abbrev Digest := Formed isDigestText

/-- The check of a text with a form. -/
def formed (form : List Char → Bool) : Json → Except Code (Formed form)
  | .str text => if h : form text.toList = true then .ok ⟨text, h⟩ else .error .argumentInvalid
  | _ => .error .argumentInvalid

def handle : Json → Except Code Handle := formed isHandle

def reference : Json → Except Code Reference := formed isReference

/-! ### Small checks -/

/-- An object with all the required members, and no others but the optional
    ones. -/
def exact (value : Json) (required optional : List String) : Except Code Unit :=
  match value with
  | .obj members =>
    require ((required.all fun k => members.any fun m => m.1 = k) &&
      members.all fun m => m.1 ∈ required ++ optional) .argumentInvalid
  | _ => .error .argumentInvalid

/-- One of the values of an enumeration, by its text. -/
def enumeration {α : Type} (all : List α) (text : α → String) : Json → Except Code α
  | .str s =>
    match all.find? fun a => text a = s with
    | some a => .ok a
    | none => .error .argumentInvalid
  | _ => .error .argumentInvalid

def maxSafeInteger : Nat := 9007199254740991

/-- A natural number that a JavaScript number holds exactly. -/
abbrev SafeNat := { n : Nat // n ≤ maxSafeInteger }

/-- A safe integer that is not below a minimum. -/
def integer (minimum : Nat) : Json → Except Code SafeNat
  | .int (.ofNat n) =>
    if h : n ≤ maxSafeInteger then
      if minimum ≤ n then .ok ⟨n, h⟩ else .error .argumentInvalid
    else .error .argumentInvalid
  | _ => .error .argumentInvalid

/-- A required member. -/
def member (value : Json) (key : String) : Except Code Json :=
  match value.member? key with
  | some v => .ok v
  | none => .error .argumentInvalid

/-- The check of an optional member. -/
def optional {α : Type} (check : Json → Except Code α) : Option Json → Except Code (Option α)
  | none => .ok none
  | some value => some <$> check value

/-! ### Limits -/

inductive Limit where
  | requestBytes
  | responseBytes
  | httpInFlight
  | activeRuns
  | activeRunsPerCaller
  | lifetimeStarts
  | retainedRuns
  | retentionMs
  | evaluationMs
  | cleanupGraceMs
  | progressRecords
  | progressRecordBytes
  | progressBytes
  | requestsPerMinute
  deriving DecidableEq, Repr

/-- What is configured for every limit. -/
abbrev Limits := Limit → Nat

/-- The greatest values, which are the defaults too. -/
def LIMITS : Limits
  | .requestBytes => 16384
  | .responseBytes => 65536
  | .httpInFlight => 32
  | .activeRuns => 16
  | .activeRunsPerCaller => 4
  | .lifetimeStarts => 4096
  | .retainedRuns => 128
  | .retentionMs => 300000
  | .evaluationMs => 300000
  | .cleanupGraceMs => 5000
  | .progressRecords => 32
  | .progressRecordBytes => 1024
  | .progressBytes => 16384
  | .requestsPerMinute => 600

/-! ### Public results -/

inductive Status where
  | passed
  | mismatch
  | failed
  | cancelled
  | timedOut
  deriving DecidableEq, Repr

def Status.all : List Status := [.passed, .mismatch, .failed, .cancelled, .timedOut]

def Status.text : Status → String
  | .passed => "passed"
  | .mismatch => "mismatch"
  | .failed => "failed"
  | .cancelled => "cancelled"
  | .timedOut => "timedOut"

inductive Cleanup where
  | confirmed
  | failed
  | unconfirmed
  deriving DecidableEq, Repr

def Cleanup.all : List Cleanup := [.confirmed, .failed, .unconfirmed]

def Cleanup.text : Cleanup → String
  | .confirmed => "confirmed"
  | .failed => "failed"
  | .unconfirmed => "unconfirmed"

inductive FailureStage where
  | configuration
  | connect
  | open
  | authoring
  | prepare
  | provider
  | evaluate
  deriving DecidableEq, Repr

def FailureStage.all : List FailureStage :=
  [.configuration, .connect, .open, .authoring, .prepare, .provider, .evaluate]

def FailureStage.text : FailureStage → String
  | .configuration => "configuration"
  | .connect => "connect"
  | .open => "open"
  | .authoring => "authoring"
  | .prepare => "prepare"
  | .provider => "provider"
  | .evaluate => "evaluate"

structure Counts where
  acceptedTraces : SafeNat
  acceptedSteps : SafeNat
  deriving DecidableEq

structure Implementation where
  artifactHash : Digest
  sourceHash : Option Digest
  deriving DecidableEq

structure PublicResult where
  runRef : Uuid
  status : Status
  cleanup : Cleanup
  counts : Option Counts
  implementation : Option Implementation
  failureStage : Option FailureStage
  deriving DecidableEq

/-- The value is this text. -/
def isText (value : Json) (text : String) : Bool :=
  match value with
  | .str s => s = text
  | _ => false

def counts (value : Json) : Except Code Counts := do
  exact value ["acceptedTraces", "acceptedSteps"] []
  let acceptedTraces ← integer 0 (← member value "acceptedTraces")
  let acceptedSteps ← integer 0 (← member value "acceptedSteps")
  return { acceptedTraces, acceptedSteps }

def implementation (value : Json) : Except Code Implementation := do
  exact value ["artifactHash"] ["sourceHash"]
  let artifactHash ← formed isDigestText (← member value "artifactHash")
  let sourceHash ← optional (formed isDigestText) (value.member? "sourceHash")
  return { artifactHash, sourceHash }

/-- The check of the result of an evaluation. -/
def publicResult (value : Json) : Except Code PublicResult := do
  exact value ["schema", "runRef", "status", "cleanup"]
    ["counts", "implementation", "failureStage"]
  require (isText (← member value "schema") "mirrorgate.evaluation/v1") .argumentInvalid
  let runRef ← formed isUuid (← member value "runRef")
  let status ← enumeration Status.all Status.text (← member value "status")
  let cleanup ← enumeration Cleanup.all Cleanup.text (← member value "cleanup")
  let counts ← optional counts (value.member? "counts")
  let implementation ← optional implementation (value.member? "implementation")
  let failureStage ← optional (enumeration FailureStage.all FailureStage.text)
    (value.member? "failureStage")
  return { runRef, status, cleanup, counts, implementation, failureStage }

/-! ### Runs -/

inductive Phase where
  | queued
  | running
  | cancelling
  | finished
  | unconfirmed
  deriving DecidableEq, Repr

/-- Why the cleanup of a run is unconfirmed. -/
inductive FailureCode where
  | workflowFailed
  | workflowUnsettled
  deriving DecidableEq, Repr

structure ProgressRecord where
  seq : Nat
  message : String
  deriving DecidableEq, Repr

structure Progress where
  firstSeq : Nat
  nextSeq : Nat
  truncated : Bool
  records : List ProgressRecord
  deriving DecidableEq, Repr

/-- A run as a reply reports it. -/
structure Run where
  runId : Handle
  startKey : Handle
  suiteRef : Reference
  implementationRef : Reference
  phase : Phase
  progress : Progress
  result : Option PublicResult
  failure : Option FailureCode
  deriving DecidableEq

def ProgressRecord.toJson (r : ProgressRecord) : Json :=
  .obj [("seq", .int r.seq), ("message", .str r.message)]

/-! ### Requests and replies -/

/-- A run is found by its identifier or by the key of its start. -/
inductive RunRef where
  | runId (id : Handle)
  | startKey (key : Handle)
  deriving DecidableEq

/-- An operation with its arguments. -/
inductive Op where
  | hello
  | start (serviceEpoch startKey : Handle) (suiteRef implementationRef : Reference)
  | get (serviceEpoch : Handle) (ref : RunRef)
  | cancel (serviceEpoch runId : Handle)
  deriving DecidableEq

structure Message where
  requestId : Handle
  op : Op
  deriving DecidableEq

def startArgs (args : Json) : Except Code Op := do
  exact args ["serviceEpoch", "startKey", "suiteRef", "implementationRef"] []
  let startKey ← handle (← member args "startKey")
  let suiteRef ← reference (← member args "suiteRef")
  let implementationRef ← reference (← member args "implementationRef")
  let serviceEpoch ← handle (← member args "serviceEpoch")
  return .start serviceEpoch startKey suiteRef implementationRef

/-- Exactly one of the two references is given. -/
def runRef (args : Json) : Except Code RunRef :=
  match args.member? "runId", args.member? "startKey" with
  | some id, none => RunRef.runId <$> handle id
  | none, some key => RunRef.startKey <$> handle key
  | _, _ => .error .argumentInvalid

def getArgs (args : Json) : Except Code Op := do
  exact args ["serviceEpoch"] ["runId", "startKey"]
  let ref ← runRef args
  let serviceEpoch ← handle (← member args "serviceEpoch")
  return .get serviceEpoch ref

def cancelArgs (args : Json) : Except Code Op := do
  exact args ["serviceEpoch", "runId"] []
  let runId ← handle (← member args "runId")
  let serviceEpoch ← handle (← member args "serviceEpoch")
  return .cancel serviceEpoch runId

def operation (op args : Json) : Except Code Op :=
  if isText op "hello" then do
    exact args [] []
    return .hello
  else if isText op "start" then startArgs args
  else if isText op "get" then getArgs args
  else if isText op "cancel" then cancelArgs args
  else .error .argumentInvalid

def isOne : Json → Bool
  | .int n => n = 1
  | _ => false

/-- The check of a request. -/
def request (value : Json) : Except Code Message := do
  exact value ["v", "requestId", "op", "args"] []
  require (isOne (← member value "v")) .argumentInvalid
  let requestId ← handle (← member value "requestId")
  let op ← operation (← member value "op") (← member value "args")
  return { requestId, op }

/-- What a successful request returns. -/
inductive Reply where
  | hello (serviceEpoch : Handle) (limits : Limits)
  | run (r : Run)

end MirrorGate.Service
