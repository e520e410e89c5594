import MirrorGate.Control.Protocol

/-!
# Hosted Runs

A session may host one run of an agent. The run is started by the client,
carried by a host thread, may submit the source it was authoring, and comes to
an end because the agent ended, was cancelled or ran out of time. The backend
installs a submission under the lock of the session before the controller
knows of it, so whoever touches the run first adopts what the backend has.

The functions here are the critical sections of the source, each on the run
and on what the backend has installed. The lock makes them atomic.

## Main definitions

* `agentLimits`: The limits of a run, from those of its profile.
* `HostedRun`, `HostedRun.public`: A run and its snapshot.
* `hostProgress`: A progress message, and the window it is kept in.
* `Hosting`: The run of a session with the submission the backend installed.
* `Hosting.adopt`, `Hosting.cancel`, `Hosting.terminal`: Adoption,
  cancellation and the end of a run.
* `Hosting.submitBegin`, `Hosting.submitCommit`, `Hosting.submitFailed`: The
  sections of a submission around the backend's part.
-/

namespace MirrorGate.Control

/-- The fixed public text for an error of hosting. -/
def hostingErrorMessage : ErrorCode → String
  | .stateInvalid => "hosting is unavailable in this session state"
  | .handleInvalid => "invalid hosted run handle"
  | .policyDenied => "hosting profile is not permitted"
  | .auditUnavailable => "approved runtime audit is unavailable"
  | .capabilityUnavailable => "required hosting capability is unavailable"
  | .limitExceeded => "hosting limit exceeded"
  | .cancelled => "hosting cancelled"
  | .deadlineExceeded => "hosting deadline exceeded"
  | _ => "managed hosting failed"

/-- A limit as somebody asked for it, or the ceiling when nobody did. A limit
    may only be tightened. -/
def tighten {n : Nat} (ceiling : Within n) : Option Int → Option (Within n)
  | some number =>
    if h : 1 ≤ number ∧ number ≤ ceiling.val then
      some ⟨number.toNat, by have := ceiling.2; omega⟩
    else none
  | none => some ceiling

/-- The limits that somebody asked for. -/
structure LimitRequest where
  wallMs : Option Int := none
  stdoutBytes : Option Int := none
  stderrBytes : Option Int := none
  progressRecords : Option Int := none
  progressBytes : Option Int := none
  progressRecordBytes : Option Int := none
deriving DecidableEq, Repr

/-- `agent_limits`, for a value whose fields are as expected. -/
def agentLimits (value : LimitRequest) (ceilings : HostLimits) : Option HostLimits := do
  let wallMs ← tighten ceilings.wallMs value.wallMs
  let stdoutBytes ← tighten ceilings.stdoutBytes value.stdoutBytes
  let stderrBytes ← tighten ceilings.stderrBytes value.stderrBytes
  let progressRecords ← tighten ceilings.progressRecords value.progressRecords
  let progressBytes ← tighten ceilings.progressBytes value.progressBytes
  let progressRecordBytes ← tighten ceilings.progressRecordBytes value.progressRecordBytes
  return { wallMs, stdoutBytes, stderrBytes, progressRecords, progressBytes, progressRecordBytes }

structure HostedRun where
  runId : Handle
  limits : HostLimits
  phase : RunPhase := .starting
  outcome : Option RunOutcome := none
  submission : Option Submission := none
  error : Option ControlError := none
  cleanup : CleanupState := {}
  progress : Progress := {}
  cancel : Bool := false
  done : Bool := false
  cancelReason : Option Reason := none
  finishedNotified : Bool := false
  /-- `host` is set: the agent host was made. -/
  host : Bool := false
deriving DecidableEq, Repr

/-- The snapshot that is published. -/
def HostedRun.public (run : HostedRun) : RunRecord where
  runId := run.runId
  phase := run.phase
  cleanup := run.cleanup
  progress := run.progress
  limits := run.limits
  outcome := run.outcome
  submission := run.submission
  error := run.error

/-! ### Progress -/

/-- The bytes of an encoded progress record. The messages are fixed texts, and
    ASCII. -/
def ProgressRecord.size (record : ProgressRecord) : Nat :=
  Json.width (.obj [("seq", .int record.seq), ("message", .str record.message)])

/-- The window is too large for the limits of the run. -/
def HostLimits.Exceeded (limits : HostLimits) (records : List ProgressRecord) : Prop :=
  limits.progressRecords.val < records.length ∨
    (∃ record ∈ records, limits.progressRecordBytes.val < record.size) ∨
    limits.progressBytes.val < (records.map ProgressRecord.size).sum

instance (limits : HostLimits) (records : List ProgressRecord) :
    Decidable (limits.Exceeded records) :=
  inferInstanceAs (Decidable (_ ∨ _ ∨ _))

/-- The oldest records go until the rest is within the limits. -/
def trimRecords (limits : HostLimits) : List ProgressRecord → List ProgressRecord
  | [] => []
  | record :: records =>
    if limits.Exceeded (record :: records) then trimRecords limits records
    else record :: records

/-- `_host_progress_locked`. -/
def hostProgress (run : HostedRun) (message : String) : HostedRun :=
  let nextSeq := run.progress.nextSeq + 1
  let records := trimRecords run.limits (run.progress.records ++ [⟨run.progress.nextSeq, message⟩])
  let firstSeq := nextSeq - records.length
  { run with progress := ⟨firstSeq, nextSeq, decide (1 < firstSeq), records⟩ }

/-! ### The run of a session -/

inductive HostReason where
  | startFailed
  | cancelled
  | wallTimeout
  | stdoutLimit
  | stderrLimit
  | other
deriving DecidableEq, Repr

/-- What the end of an agent host can leave behind. -/
inductive HostResource where
  | agentProcess
  | agentDescendants
  | authoringProcess
  | authoringBroker
  | agentHostDirectory
  | agentHost
deriving DecidableEq, Repr

def HostResource.text : HostResource → String
  | .agentProcess => "agent-process"
  | .agentDescendants => "agent-descendants"
  | .authoringProcess => "authoring-process"
  | .authoringBroker => "authoring-broker"
  | .agentHostDirectory => "agent-host-directory"
  | .agentHost => "agent-host"

/-- What an agent host returns. Nothing is left behind twice. -/
structure HostResult where
  reason : HostReason
  cleanupComplete : Bool
  remaining : List HostResource
  nodup : remaining.Nodup
deriving DecidableEq

/-- Nothing of the host is left. -/
def HostResult.complete (result : HostResult) : Bool :=
  result.cleanupComplete && result.remaining.isEmpty

/-- The result that stands in for a host that was never started. -/
def HostResult.unstarted : HostResult := ⟨.cancelled, true, [], List.nodup_nil⟩

/-- The result that stands in for a host that did not end in time. -/
def HostResult.unjoined : HostResult := ⟨.cancelled, false, [.agentHost], List.nodup_singleton _⟩

/-- The result that stands in for a host that raised. -/
def HostResult.broken : HostResult := ⟨.startFailed, false, [.agentHost], List.nodup_singleton _⟩

/-- The run of a session, with the submission that the backend has installed. -/
structure Hosting where
  run : Option HostedRun := none
  installed : Option Submission := none
deriving DecidableEq, Repr

namespace Hosting

/-- The adoption takes place: there is a run that has not finished, and the
    backend has a submission. -/
def Adopts (hosting : Hosting) : Prop :=
  (hosting.run.any fun run => run.phase ≠ .finished) = true ∧ hosting.installed.isSome = true

instance (hosting : Hosting) : Decidable hosting.Adopts := inferInstanceAs (Decidable (_ ∧ _))

/-- `_adopt_submission_locked`, as far as the run goes. -/
def adopt (hosting : Hosting) : Hosting :=
  match hosting.run, hosting.installed with
  | some run, some submission =>
    if run.phase ≠ .finished then
      { hosting with
        run := some { run with
          submission := some submission
          outcome := some .submitted
          error := none
          phase := .cleaning
          cleanup := { status := .pending } } }
    else hosting
  | _, _ => hosting

/-- A change to the run, when there is one. -/
def mapRun (hosting : Hosting) (f : HostedRun → HostedRun) : Hosting :=
  { hosting with run := hosting.run.map f }

/-- `_cancel_host_locked`. -/
def cancel (hosting : Hosting) (reason : Reason) : Hosting :=
  match hosting.run with
  | none => hosting
  | some run =>
    if run.phase = .finished then hosting
    else
      hosting.adopt.mapRun fun run =>
        { run with cancelReason := run.cancelReason.or (some reason), cancel := true }

/-- Why a run that submitted nothing came to its end. -/
def verdict (run : HostedRun) (reason : HostReason) : RunOutcome × ErrorCode :=
  if run.cancelReason = some .deadline ∨ reason = .wallTimeout then (.timedOut, .deadlineExceeded)
  else if run.cancelReason ≠ none ∨ reason = .cancelled then (.cancelled, .cancelled)
  else if reason = .stdoutLimit ∨ reason = .stderrLimit then (.failed, .limitExceeded)
  else (.failed, if reason = .startFailed then .agentStartFailed else .agentExited)

/-- The outcome is decided, unless it already was. -/
def decideOutcome (run : HostedRun) (reason : HostReason) : HostedRun :=
  match run.outcome with
  | some _ => run
  | none =>
    let (outcome, code) := verdict run reason
    { run with
      outcome := some outcome
      error := some ⟨code, .hosting, hostingErrorMessage code⟩ }

/-- `_terminal_host`, up to the event. The flag says that the run came to its
    end here. -/
def terminal (hosting : Hosting) (result : HostResult) : Hosting × Bool :=
  if (hosting.run.all fun run => run.phase = .finished) = true then (hosting, false)
  else
    (hosting.adopt.mapRun fun run =>
      let status := if result.complete then CleanupStatus.succeeded else .failed
      hostProgress
        { decideOutcome run result.reason with
          phase := .finished
          cleanup := ⟨status, result.remaining.map HostResource.text⟩ }
        (if result.complete then "Hosting cleanup completed" else "Hosting cleanup unconfirmed"),
      true)

/-- The first section of the host thread. A cancelled run is not started. -/
def begin (hosting : Hosting) : Hosting × Bool :=
  match hosting.run with
  | none => (hosting, false)
  | some run =>
    if run.cancel then (hosting, false)
    else
      ({ hosting with
          run := some (hostProgress { run with phase := .running }
            "Starting approved agent runtime") }, true)

/-- How the first section of a submission ends. -/
inductive SubmitStart where
  /-- There is a submission already, and it is returned. -/
  | returned
  | refused
  | begun
deriving DecidableEq, Repr

/-- The first section of `_host_submit`, in a session of this phase. -/
def submitBegin (hosting : Hosting) (phase : SessionPhase) : Hosting × SubmitStart :=
  match hosting.adopt.run with
  | none => (hosting.adopt, .refused)
  | some run =>
    if run.submission.isSome then (hosting.adopt, .returned)
    else if (run.phase ≠ .starting ∧ run.phase ≠ .running) ∨ run.cancel ∨ phase ≠ .authoring then
      (hosting.adopt, .refused)
    else
      ({ hosting.adopt with
          run := some (hostProgress { run with phase := .submitting }
            "Sealing submission source") }, .begun)

/-- The section of `_host_submit` after the backend has returned. It raises if
    the run has finished by then. -/
def submitCommit (hosting : Hosting) : Hosting × Bool :=
  match hosting.adopt.run with
  | none => (hosting.adopt, false)
  | some run =>
    if run.phase = .finished then (hosting.adopt, false)
    else
      ({ hosting.adopt with
          run := some (hostProgress { run with cancel := true } "Submission source committed") },
        true)

/-- What a failed submission makes of a run. -/
def failRun (run : HostedRun) (timedOut : Bool) : HostedRun :=
  if run.outcome = none ∧ timedOut then
    { run with
      outcome := some .timedOut
      cancelReason := some .deadline
      error := some ⟨.deadlineExceeded, .hosting, "hosting deadline exceeded"⟩
      phase := .cleaning
      cleanup := { status := .pending } }
  else if run.outcome = none ∧ run.cancel = false then
    { run with
      outcome := some .failed
      error := some ⟨.preparationFailed, .hosting, "submission could not be frozen"⟩
      phase := .cleaning
      cleanup := { status := .pending } }
  else run

/-- The section of `_host_submit` that handles an exception. -/
def submitFailed (hosting : Hosting) (timedOut : Bool) : Hosting :=
  hosting.adopt.mapRun fun run => { failRun run timedOut with cancel := true }

/-- The backend installs a submission, unless the run was cancelled. -/
def install (hosting : Hosting) (submission : Submission) : Option Hosting :=
  if (hosting.run.any fun run => run.cancel) = true then none
  else some { hosting with installed := some submission }

end Hosting

end MirrorGate.Control
