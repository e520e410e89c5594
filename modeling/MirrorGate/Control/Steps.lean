import MirrorGate.Control.Machine

/-!
# What an Action of the Controller Can Do

The actions once more, as relations: one rule for each way an action can end,
with the conditions under which it does. The outside is gone, whatever it can
decide is a rule of its own. Invariants are proved by looking at the rules and
never at the functions.

Most rules are about one session. A section runs under its lock and an access
runs without, and both leave another session in its place and say what the
thread does next. An action that passes leaves the controller alone.

## Main definitions

* `Session.Joins`: A request for the cleanup of a session, with valid handles.
* `Section`, `Access`, `Passes`: The rules for sections, for accesses and for
  actions that leave the controller alone.
* `Performs`: All rules.
* `Moves`: What the rules make of the session they are about.

## Theorems

* `perform_performs`: Whatever an action does is one of the rules.
* `Performs.sessions`, `Performs.origin`, `Performs.exists_session`: At most
  one session changes.
* `session_put`, `session_put_of_ne`: What is found after a change to a
  session.
-/

namespace MirrorGate.Control

open Option

/-- A request for the cleanup of the session, with valid handles. -/
def Session.Joins (s : Session) (request : Request) : Prop :=
  match request.op with
  | .sessionCancel sessionId _ | .sessionClose sessionId => sessionId = s.sessionId
  | .workerRelease sessionId workerId _ => sessionId = s.sessionId ∧ s.workerId = some workerId
  | _ => False

namespace Controller

/-- No session joins the request to its cleanup. -/
def Refusable (c : Controller) (request : Request) : Prop :=
  ∀ sid s, c.session sid = some s → ¬ s.Joins request

/-- What a section under the lock of a session does: the action, the session
    it leaves and what the thread does next. -/
inductive Section (c : Controller) (s : Session) : Act → Session → List Act → Prop
  -- the first section of a handler
  | refuse {r e} : c.Refusable r → Section c s (.handle r) s [.respond r (.error e)]
  | exec {r} : r.op = .authoringExec s.sessionId → s.phase = .authoring → s.hosting.run = none →
      Section c s (.handle r) s [.newOperation r s.sessionId .authoring]
  | prepareBegin {r t} : r.op = .sessionPrepare s.sessionId → s.prepareBegin = .ok t →
      Section c s (.handle r) t [.newOperation r s.sessionId .prepare]
  | authorizeCheck {r revision challenge digest} :
      r.op = .sessionAuthorize s.sessionId revision challenge digest →
      s.authorizeCheck revision challenge digest = .ok () →
      Section c s (.handle r) s [.authorizeBackend r s.sessionId]
  | acquire {r authorizationId workerId t} :
      r.op = .workerAcquire s.sessionId authorizationId →
      s.acquire authorizationId workerId = .ok t →
      Section c s (.handle r) { t with trail := t.trail ++ [.acquired authorizationId workerId] }
        [.reserve r s.sessionId workerId]
  | releaseJoin {r workerId reason} : r.op = .workerRelease s.sessionId workerId reason →
      s.workerId = some workerId → s.cleanupOperation.isSome →
      Section c s (.handle r) s [.cleanup s.sessionId reason none true
        (.reply r (some (s.cleanupMode.getD .terminateOnly))) true]
  | releaseBegin {r workerId reason} : r.op = .workerRelease s.sessionId workerId reason →
      s.workerId = some workerId → s.cleanupOperation = none →
      Section c s (.handle r) { s with phase := .closing }
        [.armRelease r s.sessionId workerId reason]
  | sessionCancel {r reason} : r.op = .sessionCancel s.sessionId reason →
      Section c s (.handle r) s [.cleanup s.sessionId reason none true (.reply r none) true]
  | sessionClose {r} : r.op = .sessionClose s.sessionId →
      Section c s (.handle r) s [.cleanup s.sessionId .normal none true (.reply r none) true]
  | sessionStatus {r} : r.op = .sessionStatus s.sessionId →
      Section c s (.handle r) s [.respond r (.status s.phase s.cleanup)]
  | operationStatus {r id} : r.op = .operationStatus s.sessionId id →
      (s.operation id).any (·.listed) →
      Section c s (.handle r) s [.readOperation r s.sessionId id]
  | agentStart {r} : r.op = .agentStart s.sessionId → CanHost s →
      Section c s (.handle r) s [.admitAgent r s.sessionId]
  | agentStatus {r runId} : r.op = .agentStatus s.sessionId runId →
      Section c s (.handle r) s [.respond r (.run (s.hosting.run.map HostedRun.public))]
  | agentCancel {r runId reason} : r.op = .agentCancel s.sessionId runId reason →
      s.hosting.run.map (·.runId.val) = some runId →
      Section c s (.handle r) (s.adopting (s.hosting.cancel reason))
        [.joinHost s.sessionId, .cancelReply r s.sessionId]
  -- the later sections of a handler
  | newOperation {r work t id} : s.newOperation = .ok (t, id) →
      Section c s (.newOperation r s.sessionId work) t
        [.spawn (.operation s.sessionId id work) true, .respond r (.accepted id)]
  | noOperation {r work e} :
      Section c s (.newOperation r s.sessionId work) s [.respond r (.error e)]
  | authorizeBackend {r lease} : s.backend.authorization = none →
      Section c s (.authorizeBackend r s.sessionId)
        { s with backend := { s.backend with authorization := some lease } }
        [.authorizeCommit r s.sessionId lease]
  | authorizeCommit {r sessionId revision challenge digest lease authorizationId t} :
      r.op = .sessionAuthorize sessionId revision challenge digest →
      s.authorizeCommit lease authorizationId = .ok t →
      Section c s (.authorizeCommit r s.sessionId lease)
        { t with trail := t.trail ++ [.authorized revision challenge] }
        [.respond r (.authorized authorizationId)]
  | authorizeLost {r lease e} :
      Section c s (.authorizeCommit r s.sessionId lease) s [.respond r (.error e)]
  | acquireCommit {r w} : s.phase = .reserved → s.reservation = some w →
      Section c s (.acquireCommit r s.sessionId) s
        [.respond r (.acquired w.terms.workerId w.terms.attachmentToken)]
  | acquireLost {r e} : Section c s (.acquireCommit r s.sessionId) s [.respond r (.error e)]
  | startAgent {r limits runId} : CanHost s → c.closed = false →
      Section c s (.startAgent r s.sessionId limits)
        { s with hosting := { s.hosting with
          run := some (hostProgress { runId := runId, limits := limits }
            "Managed authoring accepted") } }
        [.spawnHost r s.sessionId runId]
  | startLost {r limits e} :
      Section c s (.startAgent r s.sessionId limits) s [.respond r (.error e)]
  | cancelReply {r run} : s.hosting.run = some run →
      Section c s (.cancelReply r s.sessionId) s
        ((if run.cleanup.status ≠ .succeeded then
          [internalCleanup s.sessionId .clientFailure true] else []) ++
          [.respond r (.run (some run.public))])
  | cancelLost {r e} : s.hosting.run = none →
      Section c s (.cancelReply r s.sessionId) s [.respond r (.error e)]
  -- `_cleanup_operation`
  | cleanupBegun {reason workerId advertise after server} : s.cleanupOperation = none →
      Section c s (.cleanup s.sessionId reason workerId advertise after server)
        (s.beginCleanup reason advertise)
        (.spawn (.operation s.sessionId s.nextOperationId (.cleanup reason workerId)) server ::
          after.acts s.nextOperationId)
  | cleanupJoined {reason workerId advertise after server id op} :
      s.cleanupOperation = some id → s.operation id = some op → op.listed →
      Section c s (.cleanup s.sessionId reason workerId advertise after server) s (after.acts id)
  | cleanupAdvertised {reason workerId advertise after server id op} :
      s.cleanupOperation = some id → s.operation id = some op → op.listed →
      op.advertised = false →
      Section c s (.cleanup s.sessionId reason workerId advertise after server)
        (s.updateOperation id fun op => { op with advertised := true })
        ((if op.status ≠ .pending then [.finishEvent s.sessionId id] else []) ++ after.acts id)
  | cleanupMissing {reason workerId advertise after server id} :
      s.cleanupOperation = some id → ¬ (s.operation id).any (·.listed) →
      Section c s (.cleanup s.sessionId reason workerId advertise after server) s
        (after.missing id)
  -- events
  | finishEvent {id} :
      Section c s (.finishEvent s.sessionId id) (s.finishEvent id).1
        (report s.sessionId (s.finishEvent id).2)
  | closedEvent :
      Section c s (.closedEvent s.sessionId) s.closedEvent.1 (report s.sessionId s.closedEvent.2)
  | evict : Section c s (.evict s.sessionId) (s.evict c.maxCompleted) []
  -- operations
  | prepareCommit {id prepared t} :
      s.prepareCommit { prepared with manifestHash := s.manifestHash } = .ok t →
      Section c s (.prepareCommit s.sessionId id prepared) t
        [.finish s.sessionId id
          (.succeeded (.prepared { prepared with manifestHash := s.manifestHash })) true]
  | prepareLost {id prepared f} :
      Section c s (.prepareCommit s.sessionId id prepared) s [failed s.sessionId id f]
  | output {id stage stream data} : data ≠ [] →
      Section c s (.output s.sessionId id stage stream data) (s.countChunk id stream)
        [.event s.sessionId (.output stage id stream (s.nextChunk id stream) (data.take 16384)),
          .output s.sessionId id stage stream (data.drop 16384)]
  | finish {id status cleanupOnFailure} :
      Section c s (.finish s.sessionId id status cleanupOnFailure) (s.finishOperation id status)
        ([.finishEvent s.sessionId id, .closedCheck s.sessionId id] ++
          (if cleanupOnFailure ∧ status.isFailed then
            [internalCleanup s.sessionId .clientFailure false] else []) ++
          [.evict s.sessionId])
  -- the thread of the cleanup
  | cleanupHosted {id reason workerId remaining failures} :
      Section c s (.cleanupHosted s.sessionId id reason workerId) s
        [.cleanupRelease s.sessionId id reason workerId remaining failures]
  | cleanupBackend {id reason remaining failures} :
      Section c s (.cleanupBackend s.sessionId id reason remaining failures)
        { s with backend := { s.backend with closing := true } }
        ((if s.reservation.isSome then [.worker s.sessionId (.close reason none)] else []) ++
          [.cleanupEnd s.sessionId id remaining failures])
  | cleanupEnd {id remaining failures complete left status} : status ≠ .pending →
      Section c s (.cleanupEnd s.sessionId id remaining failures) (s.cleanupCommit complete left)
        [.finish s.sessionId id status false]
  | releaseAbort {id reason workerId remaining failures status} : status ≠ .pending →
      Section c s (.cleanupRelease s.sessionId id reason workerId remaining failures)
        (s.cleanupAbort remaining) [.finish s.sessionId id status false]
  | releasedAbort {id reason remaining failures status} : status ≠ .pending →
      Section c s (.cleanupReleased s.sessionId id reason remaining failures)
        (s.cleanupAbort remaining) [.finish s.sessionId id status false]
  | backendAbort {id reason remaining failures status} : status ≠ .pending →
      Section c s (.cleanupBackend s.sessionId id reason remaining failures)
        (s.cleanupAbort remaining) [.finish s.sessionId id status false]
  | endAbort {id remaining failures status} : status ≠ .pending →
      Section c s (.cleanupEnd s.sessionId id remaining failures)
        (s.cleanupAbort remaining) [.finish s.sessionId id status false]
  -- hosted runs
  | joinCancel :
      Section c s (.joinCancel s.sessionId) (s.adopting (s.hosting.cancel .clientFailure))
        [.terminal s.sessionId .unjoined]
  | hostBegin : s.hosting.begin.2 = true →
      Section c s (.hostBegin s.sessionId) { s with hosting := s.hosting.begin.1 }
        [.hostEvent s.sessionId, .hostLaunch s.sessionId]
  | hostSkip : s.hosting.begin.2 = false →
      Section c s (.hostBegin s.sessionId) { s with hosting := s.hosting.begin.1 }
        [.terminal s.sessionId .unstarted, .hostDone s.sessionId]
  | terminal {result} :
      Section c s (.terminal s.sessionId result) (s.adopting (s.hosting.terminal result).1)
        (if (s.hosting.terminal result).2 then [.hostEvent s.sessionId] else [])
  | hostSilent : (∀ run, s.hosting.run = some run → run.phase = .finished ∧ run.finishedNotified) →
      Section c s (.hostEvent s.sessionId) s []
  | hostFinished {run} : s.hosting.run = some run → run.phase = .finished →
      run.finishedNotified = false →
      Section c s (.hostEvent s.sessionId)
        { s with
          hosting := { s.hosting with run := some { run with finishedNotified := true } }
          locked := true }
        [.event s.sessionId (.agentFinished run.public), .unlock s.sessionId]
  | hostUpdated {run} : s.hosting.run = some run → run.phase ≠ .finished →
      Section c s (.hostEvent s.sessionId) { s with locked := true }
        [.event s.sessionId (.agentUpdated run.public), .unlock s.sessionId]
  | hostCheck {more} : (more = [] ∨ more = [internalCleanup s.sessionId .clientFailure false]) →
      Section c s (.hostCheck s.sessionId) s more
  | hostExecute : s.activeOrdinary = none →
      Section c s (.hostExecute s.sessionId) { s with activeOrdinary := some .tool }
        [.hostTool s.sessionId]
  | hostRefuse : Section c s (.hostExecute s.sessionId) s []
  | hostTool : Section c s (.hostTool s.sessionId) { s with activeOrdinary := none } []
  -- submissions
  | submitBegun : (s.hosting.submitBegin s.phase).2 = .begun →
      Section c s (.hostSubmit s.sessionId) (s.adopting (s.hosting.submitBegin s.phase).1)
        [.hostEvent s.sessionId, .submitSource s.sessionId]
  | submitEnded : (s.hosting.submitBegin s.phase).2 ≠ .begun →
      Section c s (.hostSubmit s.sessionId) (s.adopting (s.hosting.submitBegin s.phase).1) []
  | submitKnown : s.hosting.installed.isSome →
      Section c s (.submitSource s.sessionId) s [.submitCommit s.sessionId]
  | submitRefused : Section c s (.submitSource s.sessionId) s [.submitFailed s.sessionId false]
  | submitSource : s.hosting.installed = none → s.backend.sealed = false →
      Section c s (.submitSource s.sessionId)
        { s with backend := { s.backend with submitting := true, sealed := true } }
        [.stopAuthoring s.sessionId]
  | install {submission hosting} : s.hosting.install submission = some hosting →
      s.backend.closing = false →
      Section c s (.install s.sessionId submission) { s with hosting := hosting }
        [.submitFinally s.sessionId none]
  | installLost {submission} :
      Section c s (.install s.sessionId submission) s [.submitFinally s.sessionId (some false)]
  | submitReturned :
      Section c s (.submitFinally s.sessionId none)
        { s with backend := { s.backend with submitting := false } } [.submitCommit s.sessionId]
  | submitRaised {timedOut} :
      Section c s (.submitFinally s.sessionId (some timedOut))
        { s with backend := { s.backend with submitting := false } }
        [.submitFailed s.sessionId timedOut]
  | submitCommit : s.hosting.submitCommit.2 = true →
      Section c s (.submitCommit s.sessionId) (s.adopting s.hosting.submitCommit.1)
        [.hostEvent s.sessionId]
  | submitLate : s.hosting.submitCommit.2 = false →
      Section c s (.submitCommit s.sessionId) (s.adopting s.hosting.submitCommit.1)
        [.submitFailed s.sessionId false]
  | submitFailed {timedOut} :
      Section c s (.submitFailed s.sessionId timedOut)
        (s.adopting (s.hosting.submitFailed timedOut)) []
  -- worker events
  | workerEvent {event} :
      Section c s (.workerEvent s.sessionId event) s
        [.workerNotify s.sessionId event s.closingReason]
  | workerNotify {event recorded} :
      Section c s (.workerNotify s.sessionId event recorded) (s.workerEvent event).1
        (.event s.sessionId (.worker s.workerId (Session.workerNotice recorded event)) ::
          if (s.workerEvent event).2 then [internalCleanup s.sessionId .workerFailure false]
          else [])

/-- What an access to a session without its lock does. -/
inductive Access (s : Session) : Act → Session → List Act → Prop
  | releaseArmed {r workerId reason mode} :
      Access s (.releaseArmed r s.sessionId workerId reason) { s with cleanupMode := some mode }
        [.cleanup s.sessionId reason (some workerId) true (.reply r (some mode)) true]
  | readOperation {r id} :
      Access s (.readOperation r s.sessionId id) s
        [.respond r (.operation id ((s.operation id).elim .pending (·.status)))]
  | unlock : Access s (.unlock s.sessionId) { s with locked := false } []
  | closedCheck {id} :
      Access s (.closedCheck s.sessionId id) s
        (if s.cleanupOperation = some id ∧ s.phase.Ended then [.closedEvent s.sessionId] else [])
  | exited {id value} :
      Access s (.streaming s.sessionId id .authoring) s
        [.finish s.sessionId id (.succeeded value) true]
  | chunk {id stage stream data} :
      Access s (.drain s.sessionId id stage stream)
        (s.updateOperation id (countBytes stage stream data))
        [.output s.sessionId id stage stream data, .drain s.sessionId id stage stream]
  | drained {id stage stream} :
      Access s (.drain s.sessionId id stage stream)
        (s.updateOperation id fun op => { op with drains := op.drains - 1 }) []
  | cleanupWork {id reason workerId} :
      Access s (.cleanupWork s.sessionId id reason workerId) s
        (if s.hosting.run.isSome then
          [.joinHost s.sessionId, .cleanupHosted s.sessionId id reason workerId]
        else [.cleanupRelease s.sessionId id reason workerId [] []])
  | hostLaunch :
      Access s (.hostLaunch s.sessionId)
        { s with hosting := s.hosting.mapRun fun run => { run with host := true } }
        [.hostRun s.sessionId]
  | hostRevoke :
      Access s (.hostRun s.sessionId)
        { s with hosting := s.hosting.mapRun fun run => { run with cancel := true } }
        [.hostRun s.sessionId]
  | hostDone :
      Access s (.hostDone s.sessionId)
        { s with hosting := s.hosting.mapRun fun run => { run with done := true } }
        [.hostCheck s.sessionId]
  | stopAuthoring :
      Access s (.stopAuthoring s.sessionId) s
        (if s.hosting.run.any (·.cancel) ∨ s.backend.closing then
          [.submitFinally s.sessionId (some false)]
        else [.freeze s.sessionId])

/-- What an action that leaves the controller alone does next. -/
inductive Passes (c : Controller) : Act → List Act → Prop
  | request {r} : Passes c .serve [.receive r]
  | invalid {id hello e} : Passes c .serve [.reject ⟨id, .invalid hello⟩ e]
  | hangup : Passes c .serve [.close]
  | admitClosed {r e} : c.closed = true → Passes c (.receive r) [.respond r (.error e)]
  | admitStale {r} : Passes c (.receive r) [.close]
  | rejectFatal {r e} : Passes c (.reject r e) [.close]
  | closeAgain : c.closed = true → Passes c .close []
  | refuse {r e} : c.Refusable r → Passes c (.handle r) [.respond r (.error e)]
  | openBegin {r authoring} : r.op = .sessionOpen authoring →
      Passes c (.handle r) [.openBackend r authoring]
  | openRaised {r authoring e} : Passes c (.openBackend r authoring) [.respond r (.error e)]
  | registerClosed {r sid digest hash authoring e} : c.closed = true →
      Passes c (.register r sid digest hash authoring) [.respond r (.error e)]
  | checkExpired {r sid more} :
      (more = [] ∨ more = [internalCleanup sid .deadline true]) →
      Passes c (.checkExpired r sid) (more ++ [.respond r (.opened sid)])
  | authorizeRaised {r sid e} :
      Passes c (.authorizeBackend r sid)
        [internalCleanup sid .clientFailure true, .respond r (.error e)]
  | reserveRaised {r sid workerId e} :
      Passes c (.reserve r sid workerId)
        [internalCleanup sid .workerFailure true, .respond r (.error e)]
  | armRaised {r sid workerId reason e} :
      Passes c (.armRelease r sid workerId reason) [.respond r (.error e)]
  | armRelease {r sid workerId reason} :
      Passes c (.armRelease r sid workerId reason)
        [.worker sid (.armClosing reason false), .releaseArmed r sid workerId reason]
  | admitAgent {r sid limits} : Passes c (.admitAgent r sid) [.startAgent r sid limits]
  | admitRaised {r sid e} : Passes c (.admitAgent r sid) [.respond r (.error e)]
  | eventDropped {sid body} : c.emitting = none → c.closed = true →
      body.isSessionClosed = false → Passes c (.event sid body) []
  | run {sid id} : Passes c (.run sid id .authoring) [.authoring sid id]
  | runPrepare {sid id} : Passes c (.run sid id .prepare) [.prepare sid id]
  | runCleanup {sid id reason workerId} :
      Passes c (.run sid id (.cleanup reason workerId)) [.cleanupWork sid id reason workerId]
  | authoringRaised {sid id f} : Passes c (.authoring sid id) [failed sid id f]
  | prepareRaised {sid id f} : Passes c (.prepare sid id) [failed sid id f]
  | streamingRaised {sid id stage f} : Passes c (.streaming sid id stage) [failed sid id f]
  | prepared {sid id prepared} : Passes c (.prepare sid id) [.prepareCommit sid id prepared]
  | built {sid id prepared} :
      Passes c (.streaming sid id .build) [.prepareCommit sid id prepared]
  | outputEnd {sid id stage stream} : Passes c (.output sid id stage stream []) []
  | cleanupRelease {sid id reason workerId remaining failures} :
      Passes c (.cleanupRelease sid id reason workerId remaining failures)
        [.worker sid (.armClosing reason false), .worker sid (.close reason none),
          .cleanupReleased sid id reason remaining failures]
  | cleanupUnreleased {sid id reason workerId remaining failures} :
      Passes c (.cleanupRelease sid id reason workerId remaining failures)
        [.cleanupBackend sid id reason remaining failures]
  | cleanupReleased {sid id reason remaining failures left raised} :
      Passes c (.cleanupReleased sid id reason remaining failures)
        [.cleanupBackend sid id reason left raised]
  | joined {sid s} : c.session sid = some s → (∀ run, s.hosting.run = some run → run.done) →
      Passes c (.joinHost sid) []
  | unjoined {sid s run} : c.session sid = some s → s.hosting.run = some run →
      Passes c (.joinHost sid) [.joinCancel sid]
  | hostBroken {sid} : Passes c (.hostLaunch sid) [.terminal sid .broken, .hostDone sid]
  | hosted {sid result s run} : c.session sid = some s → s.hosting.run = some run →
      run.cancel = true → Passes c (.hostRun sid) [.terminal sid result, .hostDone sid]
  | submitSourceRaised {sid timedOut} :
      Passes c (.submitSource sid) [.submitFailed sid timedOut]
  | stopRaised {sid timedOut} :
      Passes c (.stopAuthoring sid) [.submitFinally sid (some timedOut)]
  | freezeRaised {sid timedOut} : Passes c (.freeze sid) [.submitFinally sid (some timedOut)]
  | installLate {sid submission} :
      Passes c (.install sid submission) [.submitFinally sid (some true)]
  | frozen {sid submission} : Passes c (.freeze sid) [.install sid submission]
  | deadlineCleanup {sid s} : c.session sid = some s →
      Passes c (.deadlineCleanup sid) [internalCleanup sid .deadline false]
  | deadlineEarly {sid} : Passes c (.deadlineCleanup sid) []

/-- The process of an operation runs, with a thread for each of its streams. -/
def streamed (c : Controller) (s : Session) (id : Nat) (stage : OutputStage) :
    Outcome Controller Act where
  shared := c.put (s.updateOperation id fun op => { op with drains := 2 })
  more := [.streaming s.sessionId id stage]
  spawned := [[.drain s.sessionId id stage .stdout], [.drain s.sessionId id stage .stderr]]

/-- What an action does to the controller, what its thread does next and the
    threads it starts. -/
inductive Performs (c : Controller) : Act → Outcome Controller Act → Prop
  | locked {a s t more} : c.session s.sessionId = some s → s.locked = false →
      Section c s a t more → Performs c a ⟨c.put t, more, []⟩
  | unlocked {a s t more} : c.session s.sessionId = some s → Access s a t more →
      Performs c a ⟨c.put t, more, []⟩
  | passes {a more} : Passes c a more → Performs c a ⟨c, more, []⟩
  -- serving
  | admitFatal {r} : c.lastRequestId < r.id →
      Performs c (.receive r) ⟨{ c with lastRequestId := r.id }, [.close], []⟩
  | admitted {r} : c.closed = false → c.lastRequestId < r.id →
      Performs c (.receive r) ⟨{ c with lastRequestId := r.id }, [.enter r], []⟩
  | rejected {r e e'} : c.lastRequestId < r.id →
      Performs c (.reject r e) ⟨{ c with lastRequestId := r.id }, [.respond r (.error e')], []⟩
  | enter {r} : Performs c (.enter r) ⟨{ c with dispatching := true }, [.handle r], []⟩
  | answered {r reply next} : c.stopped = false → (next = .serve ∨ next = .close) →
      Performs c (.respond r reply)
        ⟨{ c with stream := c.stream ++ [.response r reply] }, [.flush, next], []⟩
  | unanswered {r reply} :
      Performs c (.respond r reply) ⟨{ c with stopped := true }, [.close], []⟩
  | flush : c.emitting = none →
      Performs c .flush
        ⟨{ c with
            pendingStarts := []
            pendingEvents := []
            dispatching := false
            emitting := some c.pendingEvents }, [.drainEvents c.pendingStarts], []⟩
  | drained {jobs event events} : c.emitting = some (event :: events) → c.stopped = false →
      Performs c (.drainEvents jobs)
        ⟨{ c with stream := c.stream ++ [.event event], emitting := some events },
          [.drainEvents jobs], []⟩
  | undrained {jobs event events} : c.emitting = some (event :: events) →
      Performs c (.drainEvents jobs)
        ⟨{ c with stopped := true, emitting := some events }, [.drainEvents jobs], []⟩
  | drainEnd {jobs} : c.emitting = some [] →
      Performs c (.drainEvents jobs) ⟨{ c with emitting := none }, [], jobs.map thread⟩
  | close : c.closed = false →
      Performs c .close
        ⟨{ c with closed := true },
          c.sessions.map (fun s => internalCleanup s.sessionId .clientFailure true) ++ [.flush], []⟩
  | hello {r versions required version} : r.op = .hello versions required →
      Performs c (.handle r)
        ⟨{ c with hello := true, controlVersion := version }, [.respond r (.hello version)], []⟩
  -- requests
  | opened {r sid digest hash authoring} : c.session sid = none →
      Performs c (.openBackend r authoring)
        ⟨c, [.register r sid digest hash authoring], [[.deadline sid]]⟩
  | register {r sid digest hash authoring} : c.closed = false → c.session sid = none →
      Performs c (.register r sid digest hash authoring)
        ⟨c.enroll sid digest hash authoring, [.checkExpired r sid], []⟩
  | spawnLater {job} : c.dispatching = true →
      Performs c (.spawn job true) ⟨{ c with pendingStarts := c.pendingStarts ++ [job] }, [], []⟩
  | spawn {job server} : (server = true → c.dispatching = false) →
      Performs c (.spawn job server) ⟨c, [], [thread job]⟩
  | spawnHost {r sid runId} :
      Performs c (.spawnHost r sid runId)
        ⟨{ c with pendingStarts := c.pendingStarts ++ [.host sid] },
          [.respond r (.started runId)], []⟩
  | reserve {r s terms} : c.session s.sessionId = some s → s.locked = false →
      s.reservation = none → terms.sessionId = s.sessionId →
      s.backend.authorization = s.admission → s.admission = some terms.admission →
      Performs c (.reserve r s.sessionId terms.workerId)
        ⟨c.put { s with reservation := some { terms := terms } },
          [.acquireCommit r s.sessionId], [[.worker s.sessionId .accept]]⟩
  -- events
  | eventQueued {sid body} : c.emitting = none →
      (c.closed = true → body.isSessionClosed = true) → c.dispatching = true →
      Performs c (.event sid body)
        ⟨{ c with
            seq := c.seq + 1
            pendingEvents := c.pendingEvents ++ [⟨c.seq + 1, sid, body⟩] }, [], []⟩
  | eventNumbered {sid body} : c.emitting = none →
      (c.closed = true → body.isSessionClosed = true) → c.dispatching = false →
      Performs c (.event sid body)
        ⟨{ c with seq := c.seq + 1, emitting := some [⟨c.seq + 1, sid, body⟩] }, [.emit], []⟩
  | emitted {event events} : c.emitting = some (event :: events) → c.stopped = false →
      Performs c .emit
        ⟨{ c with stream := c.stream ++ [.event event], emitting := none }, [], []⟩
  | unemitted {event events} : c.emitting = some (event :: events) →
      Performs c .emit ⟨{ c with stopped := true, emitting := none }, [], []⟩
  -- threads of operations and of hosts
  | authoring {s id} : c.session s.sessionId = some s →
      Performs c (.authoring s.sessionId id) (c.streamed s id .authoring)
  | prepare {s id} : c.session s.sessionId = some s →
      Performs c (.prepare s.sessionId id) (c.streamed s id .build)
  | callsExecute {sid} : Performs c (.hostRun sid) ⟨c, [.hostRun sid], [[.hostExecute sid]]⟩
  | callsSubmit {sid} : Performs c (.hostRun sid) ⟨c, [.hostRun sid], [[.hostSubmit sid]]⟩
  -- timers and workers
  | deadline {sid} :
      Performs c (.deadline sid)
        ⟨{ c with expired := sid :: c.expired }, [.deadlineCleanup sid], []⟩
  | reservation {s r act input o} : c.session s.sessionId = some s → s.reservation = some r →
      act ≠ .launchGuard → r.perform act input = some o →
      Performs c (.worker s.sessionId act)
        ⟨c.put { s with
            reservation := some o.shared
            trail := s.trail ++ milestone r act input },
          (o.shared.events.drop r.events.length).map (.workerEvent s.sessionId) ++
            o.more.map (.worker s.sessionId),
          o.spawned.map fun acts => acts.map (.worker s.sessionId)⟩
  | guarded {s r} : c.session s.sessionId = some s → s.reservation = some r →
      s.locked = false → s.phase = .reserved → s.workerId = some r.terms.workerId →
      s.admission = some r.terms.admission →
      Performs c (.worker s.sessionId .launchGuard)
        ⟨c.put { s with phase := .starting, trail := s.trail ++ [.guarded] },
          [.worker s.sessionId .recheck], []⟩
  | unguarded {s message} : c.session s.sessionId = some s → s.locked = false →
      Performs c (.worker s.sessionId .launchGuard)
        ⟨c.put s, [.worker s.sessionId (.fail message .workerFailure)], []⟩

/-! ### What is found after a change to a session -/

theorem sessionId_of_session {c : Controller} {sid : String} {s : Session}
    (h : c.session sid = some s) : s.sessionId = sid :=
  Keyed.key_of_get h

theorem session_put {c : Controller} {s t : Session} (h : c.session s.sessionId = some s)
    (hid : t.sessionId = s.sessionId) : (c.put t).session s.sessionId = some t := by
  rw [← hid] at h ⊢
  exact Keyed.get_set_self (isSome_of_eq_some h)

theorem session_put_of_ne {c : Controller} {t : Session} {sid : String} (h : sid ≠ t.sessionId) :
    (c.put t).session sid = c.session sid :=
  Keyed.get_set_of_ne h

theorem put_self {c : Controller} {sid : String} {s : Session} (h : c.session sid = some s) :
    c.put s = c := by
  rw [put, Keyed.set_self h]

/-! ### Whatever an action does is one of the rules -/

variable {c : Controller} {a : Act} {x : Input} {o : Outcome Controller Act}

theorem performs_of_locking {sid : String} {f : Session → Session × List Act}
    (h : c.locking sid f = some o)
    (hf : ∀ s, c.session sid = some s → s.sessionId = sid → Section c s a (f s).1 (f s).2) :
    Performs c a o := by
  unfold locking at h
  split at h
  · next s hs =>
    have hid := sessionId_of_session hs
    split at h
    · cases h
    · next hfree =>
      cases h
      exact .locked (hid.symm ▸ hs) (by simpa using hfree) (hf s hs hid)
  · cases h

theorem performs_of_touching {sid : String} {f : Session → Session × List Act}
    (h : c.touching sid f = some o)
    (hf : ∀ s, s.sessionId = sid → Access s a (f s).1 (f s).2) : Performs c a o := by
  unfold touching at h
  split at h
  · next s hs =>
    have hid := sessionId_of_session hs
    cases h
    exact .unlocked (hid.symm ▸ hs) (hf s hid)
  · cases h

theorem performs_of_continues {more : List Act} (h : c.continues more = some o)
    (hp : Passes c a more) : Performs c a o := by
  cases h
  exact .passes hp

/-- A handler that looks up its session either has it or refuses. -/
theorem performs_of_handling {r : Request} {sid : String} {f : Session → Session × List Act}
    (h : c.handling r sid f = some o)
    (hr : ∀ s : Session, s.sessionId ≠ sid → ¬ s.Joins r)
    (hf : ∀ s, c.session sid = some s → s.sessionId = sid →
      Section c s (.handle r) (f s).1 (f s).2) : Performs c (.handle r) o := by
  unfold handling at h
  split at h
  · next hnone =>
    refine performs_of_continues h (.refuse fun sid' s hs hjoins => ?_)
    have hne : s.sessionId ≠ sid := by
      rintro rfl
      rw [sessionId_of_session hs] at hnone
      rw [hnone] at hs
      cases hs
    exact hr s hne hjoins
  · exact performs_of_locking h hf

theorem performServe_performs (h : c.performServe a x = some o) : Performs c a o := by
  unfold performServe at h
  split at h
  · exact performs_of_continues h .request
  · exact performs_of_continues h .invalid
  · exact performs_of_continues h .hangup
  · next r =>
    cases h
    unfold admission
    by_cases hclosed : c.closed = true
    · rw [if_pos hclosed]
      exact .passes (.admitClosed hclosed)
    · by_cases hstale : r.id ≤ c.lastRequestId
      · rw [if_neg hclosed, if_pos hstale]
        exact .passes .admitStale
      · rw [if_neg hclosed, if_neg hstale]
        dsimp only
        have hlt := Nat.lt_of_not_le hstale
        split
        · exact .admitFatal hlt
        · split
          · exact .admitFatal hlt
          · exact .admitted (by simpa using hclosed) hlt
  · next r e =>
    cases h
    unfold rejection
    split
    · exact .passes .rejectFatal
    · next hstale =>
      split
      · exact .passes .rejectFatal
      · exact .rejected (Nat.lt_of_not_le hstale)
  · cases h
    exact .enter
  · next r reply ok =>
    cases h
    unfold write
    by_cases hok : ok = true ∧ c.stopped = false
    · simp only [if_pos hok]
      refine .answered hok.2 ?_
      split
      · exact .inr rfl
      · exact .inl rfl
    · simp only [if_neg hok]
      exact .unanswered
  · split at h
    · cases h
    · next hfree =>
      cases h
      exact .flush (by simpa using hfree)
  · next jobs ok =>
    split at h
    · next event events hemitting =>
      cases h
      unfold write
      by_cases hok : ok = true ∧ c.stopped = false
      · simp only [if_pos hok]
        exact .drained hemitting hok.2
      · simp only [if_neg hok]
        exact .undrained hemitting
    · next hemitting =>
      cases h
      exact .drainEnd hemitting
    · cases h
  · split at h
    · next hclosed =>
      cases h
      exact .passes (.closeAgain hclosed)
    · next hclosed =>
      cases h
      exact .close (by simpa using hclosed)
  · cases h

theorem exists_of_map_eq_ok {ε α β : Type} {f : α → β} {e : Except ε α} {b : β}
    (h : e.map f = .ok b) : ∃ a, e = .ok a ∧ f a = b := by
  cases e with
  | ok a => exact ⟨a, rfl, Except.ok.inj h⟩
  | error e => cases h

/-- A section of a handler that may raise. -/
theorem section_of_attempt {s : Session} {r : Request} {result : Except ControlError Session}
    {next : List Act} (hrefusable : c.Refusable r)
    (hok : ∀ t, result = .ok t → Section c s (.handle r) t next) :
    Section c s (.handle r) (attempt s r result next).1 (attempt s r result next).2 := by
  unfold attempt
  split
  · next t => exact hok t rfl
  · exact .refuse hrefusable

theorem not_joins_of_op {s : Session} {r : Request} {op : ControlOp} (h : r.op = op)
    (hop : ∀ sid w reason, op ≠ .sessionCancel sid reason ∧ op ≠ .sessionClose sid ∧
      op ≠ .workerRelease sid w reason) : ¬ s.Joins r := by
  unfold Session.Joins
  rw [h]
  split
  · next sid reason => exact absurd rfl (hop sid "" reason).1
  · next sid => exact absurd rfl (hop sid "" .normal).2.1
  · next sid w reason => exact absurd rfl (hop sid w reason).2.2
  · exact id

theorem refusable_of_op {r : Request} {op : ControlOp} (h : r.op = op)
    (hop : ∀ sid w reason, op ≠ .sessionCancel sid reason ∧ op ≠ .sessionClose sid ∧
      op ≠ .workerRelease sid w reason) : c.Refusable r := by
  exact fun _ s _ => not_joins_of_op h hop

/-- A handler that begins no cleanup may refuse. -/
theorem performs_of_plain {r : Request} {op : ControlOp} {sid : String}
    {f : Session → Session × List Act} (hop : r.op = op)
    (hplain : ∀ sid w reason, op ≠ .sessionCancel sid reason ∧ op ≠ .sessionClose sid ∧
      op ≠ .workerRelease sid w reason) (h : c.handling r sid f = some o)
    (hf : ∀ s : Session, c.Refusable r → s.sessionId = sid →
      Section c s (.handle r) (f s).1 (f s).2) : Performs c (.handle r) o :=
  performs_of_handling h (fun _ _ => not_joins_of_op hop hplain) fun s _ =>
    hf s (refusable_of_op hop hplain)

theorem performHandle_performs {r : Request} (h : c.performHandle r x = some o) :
    Performs c (.handle r) o := by
  unfold performHandle at h
  split at h
  · split at h
    · next versions required hop =>
      have hrefusable : c.Refusable r := refusable_of_op hop (by simp)
      unfold helloReply at h
      split at h
      · exact performs_of_continues h (.refuse hrefusable)
      · split at h
        · exact performs_of_continues h (.refuse hrefusable)
        · cases h
          exact .hello hop
    · cases h
  · split at h
    · next sid authorizationId hop =>
      refine performs_of_plain hop (by simp) h ?_
      rintro s hrefusable rfl
      refine section_of_attempt hrefusable fun t ht => ?_
      obtain ⟨u, hu, rfl⟩ := exists_of_map_eq_ok ht
      exact .acquire hop hu
    · cases h
  · split at h
    · next sid hop =>
      exact performs_of_plain hop (by simp) h fun s hrefusable _ => .refuse hrefusable
    · cases h
  · split at h
    · next authoring hop =>
      split at h
      · exact performs_of_continues h (.refuse (refusable_of_op hop (by simp)))
      · exact performs_of_continues h (.openBegin hop)
    · next sid hop =>
      refine performs_of_plain hop (by simp) h ?_
      rintro s hrefusable rfl
      split
      · exact .refuse hrefusable
      · next hphase =>
        rw [not_or, not_not, not_isSome_iff_eq_none] at hphase
        exact .exec hop hphase.1 hphase.2
    · next sid hop =>
      refine performs_of_plain hop (by simp) h ?_
      rintro s hrefusable rfl
      exact section_of_attempt hrefusable fun t ht => .prepareBegin hop ht
    · next sid revision challenge digest hop =>
      refine performs_of_plain hop (by simp) h ?_
      rintro s hrefusable rfl
      refine section_of_attempt hrefusable fun t ht => ?_
      obtain ⟨_, hcheck, rfl⟩ := exists_of_map_eq_ok ht
      exact .authorizeCheck hop hcheck
    · next sid workerId reason hop =>
      refine performs_of_handling h (fun s hne => ?_) fun s hs hid => ?_
      · simp only [Session.Joins, hop]
        exact fun hj => hne hj.1.symm
      · subst hid
        split
        · next hworker =>
          refine .refuse fun sid s' hs' hj => hworker ?_
          simp only [Session.Joins, hop] at hj
          rw [hj.1, sessionId_of_session hs', hs'] at hs
          exact some.inj hs ▸ hj.2
        · next hworker =>
          rw [not_not] at hworker
          split
          · next hsome => exact .releaseJoin hop hworker hsome
          · next hnone =>
            exact .releaseBegin hop hworker (not_isSome_iff_eq_none.mp hnone)
    · next sid reason hop =>
      refine performs_of_handling h (fun s hne => ?_) fun s hs hid => ?_
      · simp only [Session.Joins, hop]
        exact fun hj => hne hj.symm
      · subst hid
        exact .sessionCancel hop
    · next sid hop =>
      refine performs_of_handling h (fun s hne => ?_) fun s hs hid => ?_
      · simp only [Session.Joins, hop]
        exact fun hj => hne hj.symm
      · subst hid
        exact .sessionClose hop
    · next sid hop =>
      refine performs_of_plain hop (by simp) h ?_
      rintro s hrefusable rfl
      exact .sessionStatus hop
    · next sid id hop =>
      refine performs_of_plain hop (by simp) h ?_
      rintro s hrefusable rfl
      split
      · next hlisted => exact .operationStatus hop hlisted
      · exact .refuse hrefusable
    · next sid hop =>
      refine performs_of_plain hop (by simp) h ?_
      rintro s hrefusable rfl
      by_cases hhost : CanHost s
      · simp only [if_pos hhost]
        exact .agentStart hop hhost
      · simp only [if_neg hhost]
        exact .refuse hrefusable
    · next sid runId hop =>
      refine performs_of_plain hop (by simp) h ?_
      rintro s hrefusable rfl
      split
      · exact .refuse hrefusable
      · exact .agentStatus hop
    · next sid runId reason hop =>
      refine performs_of_plain hop (by simp) h ?_
      rintro s hrefusable rfl
      split
      · exact .refuse hrefusable
      · next hrun =>
        rw [not_not] at hrun
        exact .agentCancel hop hrun
    · cases h
  · cases h

/-- The section of `_cleanup_operation`, by what it finds. -/
theorem performCleanupOperation_performs {sid : String} {reason : Reason}
    {workerId : Option String} {advertise : Bool} {after : After} {server : Bool}
    (h : c.performRequest (.cleanup sid reason workerId advertise after server) .done = some o) :
    Performs c (.cleanup sid reason workerId advertise after server) o := by
  apply performs_of_locking h
  rintro s - rfl
  cases hop : s.cleanupOperation with
  | none =>
    have hfound : s.cleanupOperationSection reason advertise =
        (s.beginCleanup reason advertise, .begun s.nextOperationId) := by
      simp only [Session.cleanupOperationSection, hop]
    simp only [hfound]
    exact .cleanupBegun hop
  | some id =>
    by_cases hlisted : (s.operation id).any (·.listed) = true
    · obtain ⟨op, hrecord, hlisted⟩ := (any_eq_true _ _).mp hlisted
      by_cases hadvertise : advertise = true ∧ op.advertised = false
      · have hfound : s.cleanupOperationSection reason advertise =
            (s.updateOperation id fun op => { op with advertised := true },
              .existing id (op.status ≠ .pending)) := by
          simp only [Session.cleanupOperationSection, hop, hrecord, hlisted, if_true,
            if_pos hadvertise]
        simp only [hfound, decide_eq_true_eq]
        exact .cleanupAdvertised hop hrecord hlisted hadvertise.2
      · have hfound : s.cleanupOperationSection reason advertise = (s, .existing id false) := by
          simp only [Session.cleanupOperationSection, hop, hrecord, hlisted, if_true,
            if_neg hadvertise]
        simp only [hfound]
        exact .cleanupJoined hop hrecord hlisted
    · have hfound : s.cleanupOperationSection reason advertise = (s, .missing id) := by
        simp only [Session.cleanupOperationSection, hop]
        cases hrecord : s.operation id with
        | none => rfl
        | some op =>
          have hunlisted : op.listed = false := by simpa [hrecord] using hlisted
          simp only [hunlisted, Bool.false_eq_true, if_false]
      simp only [hfound]
      exact .cleanupMissing hop hlisted

theorem performRequest_performs (h : c.performRequest a x = some o) : Performs c a o := by
  unfold performRequest at h
  split at h
  · exact performs_of_continues h .openRaised
  · split at h
    · cases h
    · next hnone =>
      cases h
      exact .opened (not_isSome_iff_eq_none.mp hnone)
  · split at h
    · next hclosed => exact performs_of_continues h (.registerClosed hclosed)
    · next hclosed =>
      split at h
      · cases h
      · next hnone =>
        cases h
        exact .register (by simpa using hclosed) (not_isSome_iff_eq_none.mp hnone)
  · next r sid =>
    refine performs_of_continues h (.checkExpired ?_)
    split
    · exact .inr rfl
    · exact .inl rfl
  · apply performs_of_locking h
    rintro s - rfl
    split
    · next t id hnew => exact .newOperation hnew
    · exact .noOperation
  · next job server =>
    split at h
    · next hserver =>
      cases h
      rw [hserver.2]
      exact .spawnLater hserver.1
    · next hserver =>
      cases h
      exact .spawn fun hs => by simpa [hs] using hserver
  · exact performs_of_continues h .authorizeRaised
  · next r sid lease =>
    split at h
    · cases h
    · next hnone =>
      refine performs_of_locking h fun s hs hid => ?_
      subst hid
      exact .authorizeBackend (by simpa [hs] using hnone)
  · next r sid lease authorizationId =>
    split at h
    · next revision challenge digest hop =>
      apply performs_of_locking h
      rintro s - rfl
      unfold attempt
      split
      · next t ht =>
        obtain ⟨u, hu, rfl⟩ := exists_of_map_eq_ok ht
        exact .authorizeCommit hop hu
      · exact .authorizeLost
    · cases h
  · exact performs_of_continues h .reserveRaised
  · next r sid workerId terms =>
    split at h
    · cases h
    · next s hs =>
      split at h
      · cases h
      · next hguard =>
        cases h
        have hid := sessionId_of_session hs
        subst hid
        simp only [not_or, not_not, Bool.not_eq_true] at hguard
        obtain ⟨hfree, hadmission, hnone, hsession, hworker, hlease⟩ := hguard
        subst hworker
        exact .reserve hs hfree (isNone_iff_eq_none.mp (by simpa using hnone)) hsession
          hadmission hlease
  · apply performs_of_locking h
    rintro s - rfl
    split
    · next w hphase hreservation => exact .acquireCommit hphase hreservation
    · exact .acquireLost
  · exact performs_of_continues h .armRaised
  · split at h
    · cases h
    · split at h
      · cases h
      · exact performs_of_continues h .armRelease
  · apply performs_of_touching h
    rintro s rfl
    exact .releaseArmed
  · apply performs_of_touching h
    rintro s rfl
    exact .readOperation
  · exact performs_of_continues h .admitRaised
  · refine performs_of_continues h ?_
    split
    · exact .admitAgent
    · exact .admitRaised
  · apply performs_of_locking h
    rintro s - rfl
    split
    · exact .startLost
    · next hguard =>
      simp only [not_or, not_not, Bool.not_eq_true] at hguard
      exact .startAgent hguard.1 hguard.2.1
  · cases h
    exact .spawnHost
  · apply performs_of_locking h
    rintro s - rfl
    split
    · next run hrun => exact .cancelReply hrun
    · next hrun => exact .cancelLost hrun
  · exact performCleanupOperation_performs h
  · cases h

theorem performEvent_performs (h : c.performEvent a x = some o) : Performs c a o := by
  unfold performEvent at h
  split at h
  · next sid body =>
    split at h
    · cases h
    · next hfree =>
      cases h
      rw [not_isSome_iff_eq_none] at hfree
      unfold number
      by_cases hdropped : c.closed = true ∧ body.isSessionClosed = false
      · rw [if_pos hdropped]
        exact .passes (.eventDropped hfree hdropped.1 hdropped.2)
      · rw [if_neg hdropped]
        have hkept : c.closed = true → body.isSessionClosed = true := by
          simpa using hdropped
        by_cases hdispatching : c.dispatching = true
        · simp only [if_pos hdispatching]
          exact .eventQueued hfree hkept hdispatching
        · simp only [if_neg hdispatching]
          exact .eventNumbered hfree hkept (by simpa using hdispatching)
  · next ok =>
    split at h
    · next event events hemitting =>
      cases h
      unfold write
      by_cases hok : ok = true ∧ c.stopped = false
      · simp only [if_pos hok]
        exact .emitted hemitting hok.2
      · simp only [if_neg hok]
        exact .unemitted hemitting
    · cases h
  · apply performs_of_touching h
    rintro s rfl
    exact .unlock
  · apply performs_of_locking h
    rintro s - rfl
    exact .finishEvent
  · apply performs_of_touching h
    rintro s rfl
    exact .closedCheck
  · apply performs_of_locking h
    rintro s - rfl
    exact .closedEvent
  · apply performs_of_locking h
    rintro s - rfl
    exact .evict
  · cases h

theorem streamed_of_beginStream {sid : String} {id : Nat} {stage : OutputStage}
    (h : c.beginStream sid id stage = some o) :
    ∃ s : Session, s.sessionId = sid ∧ c.session sid = some s ∧ o = c.streamed s id stage := by
  unfold beginStream at h
  split at h
  · cases h
  · next s hs =>
    cases h
    have hid := sessionId_of_session hs
    subst hid
    exact ⟨s, rfl, hs, rfl⟩

theorem performOperation_performs (h : c.performOperation a x = some o) : Performs c a o := by
  unfold performOperation at h
  split at h
  · next sid id work =>
    cases work with
    | authoring => exact performs_of_continues h .run
    | prepare => exact performs_of_continues h .runPrepare
    | cleanup reason workerId => exact performs_of_continues h .runCleanup
  · obtain ⟨s, rfl, hs, rfl⟩ := streamed_of_beginStream h
    exact .authoring hs
  · obtain ⟨s, rfl, hs, rfl⟩ := streamed_of_beginStream h
    exact .prepare hs
  · exact performs_of_continues h .authoringRaised
  · exact performs_of_continues h .prepareRaised
  · exact performs_of_continues h .streamingRaised
  · apply performs_of_touching h
    rintro s rfl
    exact .exited
  · exact performs_of_continues h .prepared
  · exact performs_of_continues h .built
  · apply performs_of_locking h
    rintro s - rfl
    split
    · next t ht => exact .prepareCommit ht
    · exact .prepareLost
  · apply performs_of_touching h
    rintro s rfl
    exact .chunk
  · apply performs_of_touching h
    rintro s rfl
    exact .drained
  · next sid id stage stream data =>
    split at h
    · next hempty =>
      rw [List.isEmpty_iff] at hempty
      subst hempty
      exact performs_of_continues h .outputEnd
    · next hdata =>
      apply performs_of_locking h
      rintro s - rfl
      exact .output (by simpa [List.isEmpty_iff] using hdata)
  · apply performs_of_locking h
    rintro s - rfl
    exact .finish
  · cases h

theorem performCleanup_performs (h : c.performCleanup a x = some o) : Performs c a o := by
  unfold performCleanup at h
  split at h
  · apply performs_of_touching h
    rintro s rfl
    exact .cleanupWork
  · apply performs_of_locking h
    rintro s - rfl
    exact .cleanupHosted
  · split at h
    · exact performs_of_continues h .cleanupRelease
    · exact performs_of_continues h .cleanupUnreleased
  · exact performs_of_continues h .cleanupReleased
  · apply performs_of_locking h
    rintro s - rfl
    exact .cleanupBackend
  · apply performs_of_locking h
    rintro s - rfl
    refine .cleanupEnd ?_
    split <;> simp
  · apply performs_of_locking h
    rintro s - rfl
    exact .releaseAbort (by simp)
  · apply performs_of_locking h
    rintro s - rfl
    exact .releasedAbort (by simp)
  · apply performs_of_locking h
    rintro s - rfl
    exact .backendAbort (by simp)
  · apply performs_of_locking h
    rintro s - rfl
    exact .endAbort (by simp)
  · cases h

theorem performHost_performs (h : c.performHost a x = some o) : Performs c a o := by
  unfold performHost at h
  split at h
  · next sid =>
    split at h
    · next hdone =>
      obtain ⟨s, hs, hdone⟩ := (any_eq_true _ _).mp hdone
      refine performs_of_continues h (.joined hs fun run hrun => ?_)
      simpa [hrun] using hdone
    · cases h
  · split at h
    · next hwaiting =>
      obtain ⟨s, hs, hwaiting⟩ := (any_eq_true _ _).mp hwaiting
      obtain ⟨run, hrun, -⟩ := (any_eq_true _ _).mp hwaiting
      exact performs_of_continues h (.unjoined hs hrun)
    · cases h
  · apply performs_of_locking h
    rintro s - rfl
    exact .joinCancel
  · apply performs_of_locking h
    rintro s - rfl
    split
    · next hbegun => exact .hostBegin hbegun
    · next hbegun => exact .hostSkip (by simpa using hbegun)
  · exact performs_of_continues h .hostBroken
  · apply performs_of_touching h
    rintro s rfl
    exact .hostLaunch
  · cases h
    exact .callsExecute
  · cases h
    exact .callsSubmit
  · apply performs_of_touching h
    rintro s rfl
    exact .hostRevoke
  · split at h
    · next hcancel =>
      obtain ⟨s, hs, hcancel⟩ := (any_eq_true _ _).mp hcancel
      obtain ⟨run, hrun, hcancel⟩ := (any_eq_true _ _).mp hcancel
      exact performs_of_continues h (.hosted hs hrun hcancel)
    · cases h
  · apply performs_of_locking h
    rintro s - rfl
    exact .terminal
  · apply performs_of_locking h
    rintro s - rfl
    split
    · next hrun => exact .hostSilent fun run h' => by simp [hrun] at h'
    · next run hrun =>
      split
      · next hfinished =>
        split
        · next hnotified =>
          refine .hostSilent fun run' h' => ?_
          rw [hrun, some.injEq] at h'
          exact h' ▸ ⟨hfinished, hnotified⟩
        · next hnotified => exact .hostFinished hrun hfinished (by simpa using hnotified)
      · next hphase => exact .hostUpdated hrun hphase
  · apply performs_of_touching h
    rintro s rfl
    exact .hostDone
  · apply performs_of_locking h
    rintro s - rfl
    refine .hostCheck ?_
    split
    · exact .inr rfl
    · exact .inl rfl
  · apply performs_of_locking h
    rintro s - rfl
    split
    · next hfree => exact .hostExecute hfree.2.2
    · exact .hostRefuse
  · apply performs_of_locking h
    rintro s - rfl
    exact .hostTool
  · cases h

theorem performSubmit_performs (h : c.performSubmit a x = some o) : Performs c a o := by
  unfold performSubmit at h
  split at h
  · apply performs_of_locking h
    rintro s - rfl
    split
    · next hbegun => exact .submitBegun hbegun
    · next hended => exact .submitEnded hended
  · apply performs_of_locking h
    rintro s - rfl
    split
    · next hknown => exact .submitKnown hknown
    · next hunknown =>
      split
      · exact .submitRefused
      · next hopen =>
        rw [not_or] at hopen
        exact .submitSource (not_isSome_iff_eq_none.mp hunknown) (by simpa using hopen.1)
  · exact performs_of_continues h .submitSourceRaised
  · apply performs_of_touching h
    rintro s rfl
    exact .stopAuthoring
  · exact performs_of_continues h .frozen
  · exact performs_of_continues h .stopRaised
  · exact performs_of_continues h .freezeRaised
  · exact performs_of_continues h .installLate
  · apply performs_of_locking h
    rintro s - rfl
    split
    · next hosting hclosing hinstall => exact .install hinstall hclosing
    · exact .installLost
  · next sid failed =>
    apply performs_of_locking h
    rintro s - rfl
    cases failed with
    | none => exact .submitReturned
    | some timedOut => exact .submitRaised
  · apply performs_of_locking h
    rintro s - rfl
    split
    · next hcommit => exact .submitCommit hcommit
    · next hlate => exact .submitLate (by simpa using hlate)
  · apply performs_of_locking h
    rintro s - rfl
    exact .submitFailed
  · cases h

theorem performGuard_performs {s : Session} {r : Reservation}
    (hs : c.session s.sessionId = some s) (hr : s.reservation = some r)
    (h : c.performGuard s r = some o) : Performs c (.worker s.sessionId .launchGuard) o := by
  unfold performGuard at h
  split at h
  · cases h
  · next hfree =>
    have hfree : s.locked = false := by simpa using hfree
    by_cases hguard : s.phase ≠ .reserved ∨ s.workerId ≠ some r.terms.workerId ∨
        s.admission ≠ some r.terms.admission
    · simp only [Session.launchGuard, if_pos hguard, performReservation, Reservation.perform,
        Reservation.performAccept, milestone, List.append_nil, List.drop_length, List.map_nil,
        List.nil_append, Bool.false_eq_true, if_false, some.injEq] at h
      subst h
      -- The session is as it was: its reservation and its trail are put back.
      have hsame : { s with reservation := some r } = s := by rw [← hr]
      rw [hsame]
      exact .unguarded hs hfree
    · simp only [Session.launchGuard, if_neg hguard, performReservation, Reservation.perform,
        Reservation.performAccept, milestone, List.append_nil, List.drop_length, List.map_nil,
        List.nil_append, if_true, some.injEq] at h
      subst h
      simp only [not_or, not_not] at hguard
      have := Performs.guarded hs hr hfree hguard.1 hguard.2.1 hguard.2.2
      rw [hr] at this
      exact this

theorem performWorker_performs (h : c.performWorker a x = some o) : Performs c a o := by
  unfold performWorker at h
  split at h
  · cases h
    exact .deadline
  · split at h
    · next hsome =>
      obtain ⟨s, hs⟩ := isSome_iff_exists.mp hsome
      exact performs_of_continues h (.deadlineCleanup hs)
    · exact performs_of_continues h .deadlineEarly
  · split at h
    · cases h
    · next s hs =>
      have hid := sessionId_of_session hs
      subst hid
      split at h
      · cases h
      · next r hr =>
        split at h
        · next hact =>
          subst hact
          exact performGuard_performs hs hr h
        · next hact =>
          unfold performReservation at h
          split at h
          · cases h
          · next o' ho =>
            cases h
            exact .reservation hs hr hact ho
  · apply performs_of_locking h
    rintro s - rfl
    exact .workerEvent
  · apply performs_of_locking h
    rintro s - rfl
    exact .workerNotify
  · cases h

/-- Whatever an action does is one of the rules. -/
theorem perform_performs (h : c.perform a x = some o) : Performs c a o := by
  unfold perform at h
  split at h
  · exact performHandle_performs h
  all_goals first
    | exact performServe_performs h
    | exact performEvent_performs h
    | exact performOperation_performs h
    | exact performCleanup_performs h
    | exact performHost_performs h
    | exact performSubmit_performs h
    | exact performWorker_performs h
    | exact performRequest_performs h

/-! ### At most one session changes -/

/-- What an action makes of the session it is about. -/
inductive Moves (c : Controller) (a : Act) (s : Session) : Session → Prop
  | locked {t more} : s.locked = false → Section c s a t more → Moves c a s t
  | unlocked {t more} : Access s a t more → Moves c a s t
  | reserve {r terms} : a = .reserve r s.sessionId terms.workerId → s.locked = false →
      s.reservation = none → terms.sessionId = s.sessionId →
      s.backend.authorization = s.admission → s.admission = some terms.admission →
      Moves c a s { s with reservation := some { terms := terms } }
  | streamed {id} : Moves c a s (s.updateOperation id fun op => { op with drains := 2 })
  | reservation {r act input o} : a = .worker s.sessionId act → s.reservation = some r →
      act ≠ .launchGuard → r.perform act input = some o →
      Moves c a s { s with
        reservation := some o.shared
        trail := s.trail ++ milestone r act input }
  | guarded {r} : a = .worker s.sessionId .launchGuard → s.reservation = some r →
      s.locked = false → s.phase = .reserved → s.workerId = some r.terms.workerId →
      s.admission = some r.terms.admission →
      Moves c a s { s with phase := .starting, trail := s.trail ++ [.guarded] }

theorem Section.sessionId {s t : Session} {more : List Act} (h : Section c s a t more) :
    t.sessionId = s.sessionId := by
  cases h with
  | prepareBegin _ h =>
    unfold Session.prepareBegin at h
    split at h <;> cases h
    rfl
  | acquire _ h =>
    unfold Session.acquire at h
    split at h <;> cases h
    rfl
  | newOperation h =>
    unfold Session.newOperation at h
    split at h
    · cases h
    · split at h <;> cases h
      rfl
  | authorizeCommit _ h =>
    unfold Session.authorizeCommit at h
    split at h <;> cases h
    rfl
  | prepareCommit h =>
    unfold Session.prepareCommit at h
    split at h
    · cases h
    · split at h <;> cases h
      rfl
  | finishEvent =>
    unfold Session.finishEvent
    split
    · split <;> rfl
    · rfl
  | closedEvent =>
    unfold Session.closedEvent
    split <;> rfl
  | workerNotify =>
    unfold Session.workerEvent
    split <;> rfl
  | _ => rfl

theorem Moves.sessionId {s t : Session} (h : Moves c a s t) : t.sessionId = s.sessionId := by
  cases h with
  | locked _ h => exact h.sessionId
  | unlocked h => cases h <;> rfl
  | _ => rfl

/-- An action leaves all sessions alone, changes one of them or registers a
    new one. -/
theorem Performs.sessions (h : Performs c a o) :
    o.shared.sessions = c.sessions ∨
      (∃ s t, c.session s.sessionId = some s ∧ Moves c a s t ∧
        o.shared.sessions = (c.put t).sessions) ∨
      ∃ sid digest hash authoring, c.session sid = none ∧ c.closed = false ∧
        o.shared.sessions = (c.enroll sid digest hash authoring).sessions := by
  cases h with
  | @locked _ s t _ hs hfree h => exact .inr (.inl ⟨s, t, hs, .locked hfree h, rfl⟩)
  | @unlocked _ s t _ hs h => exact .inr (.inl ⟨s, t, hs, .unlocked h, rfl⟩)
  | register hclosed hnone => exact .inr (.inr ⟨_, _, _, _, hnone, hclosed, rfl⟩)
  | reserve hs hfree hnone hsession hadmission hlease =>
    exact .inr (.inl ⟨_, _, hs, .reserve rfl hfree hnone hsession hadmission hlease, rfl⟩)
  | authoring hs => exact .inr (.inl ⟨_, _, hs, .streamed, rfl⟩)
  | prepare hs => exact .inr (.inl ⟨_, _, hs, .streamed, rfl⟩)
  | reservation hs hr hact ho => exact .inr (.inl ⟨_, _, hs, .reservation rfl hr hact ho, rfl⟩)
  | guarded hs hr hfree hphase hworker hadmission =>
    exact .inr (.inl ⟨_, _, hs, .guarded rfl hr hfree hphase hworker hadmission, rfl⟩)
  | unguarded hs hfree =>
    rw [put_self hs]
    exact .inl rfl
  | _ => exact .inl rfl

theorem session_congr {c c' : Controller} (h : c'.sessions = c.sessions) (sid : String) :
    c'.session sid = c.session sid := by
  rw [session, session, h]

/-- Where a session comes from that is there after the action. -/
theorem Performs.origin (h : Performs c a o) {sid : String} {t : Session}
    (ht : o.shared.session sid = some t) :
    c.session sid = some t ∨ (∃ s, c.session sid = some s ∧ Moves c a s t) ∨
      c.closed = false ∧ ∃ digest hash phase, t =
        { sessionId := sid, interfaceDigest := digest, manifestHash := hash, phase := phase } := by
  rcases h.sessions with hsame | ⟨s₀, t₀, hs₀, hmove, hput⟩ | ⟨_, _, _, _, hnone, hopen, henroll⟩
  · exact .inl (session_congr hsame sid ▸ ht)
  · rw [session_congr hput] at ht
    by_cases hsid : sid = s₀.sessionId
    · subst hsid
      rw [session_put hs₀ hmove.sessionId] at ht
      cases ht
      exact .inr (.inl ⟨s₀, hs₀, hmove⟩)
    · rw [session_put_of_ne (hmove.sessionId ▸ hsid)] at ht
      exact .inl ht
  · rw [session_congr henroll, session, enroll, Keyed.get_append_singleton] at ht
    rcases or_eq_some_iff.mp ht with ht | ⟨_, ht⟩
    · exact .inl ht
    · obtain ⟨hsid, ht⟩ := ite_none_right_eq_some.mp ht
      cases ht
      cases hsid
      exact .inr (.inr ⟨hopen, _, _, _, rfl⟩)

/-- A session is still there after the action, and it is related to what it
    was when every move relates the session before to the one after. -/
theorem Performs.exists_session {R : Session → Session → Prop} (h : Performs c a o)
    (hrefl : ∀ s, R s s)
    (hmoves : ∀ s t, c.session s.sessionId = some s → Moves c a s t → R s t) {sid : String}
    {s : Session} (hs : c.session sid = some s) :
    ∃ t, o.shared.session sid = some t ∧ R s t := by
  rcases h.sessions with hsame | ⟨s₀, t, hs₀, hmove, hput⟩ | ⟨_, _, _, _, hnone, _, henroll⟩
  · exact ⟨s, (session_congr hsame sid).trans hs, hrefl s⟩
  · rw [session_congr hput]
    by_cases hsid : sid = s₀.sessionId
    · subst hsid
      rw [hs₀] at hs
      cases hs
      exact ⟨t, session_put hs₀ hmove.sessionId, hmoves _ _ hs₀ hmove⟩
    · exact ⟨s, (session_put_of_ne (hmove.sessionId ▸ hsid)).trans hs, hrefl s⟩
  · refine ⟨s, ?_, hrefl s⟩
    rw [session_congr henroll, session, enroll, Keyed.get_append_singleton, ← session, hs]
    rfl

end Controller

end MirrorGate.Control
