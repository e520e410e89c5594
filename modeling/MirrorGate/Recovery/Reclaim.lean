import Mathlib.Data.List.Sort
import MirrorGate.Lib.Forest
import MirrorGate.Recovery.Cgroup
import MirrorGate.Recovery.Filesystem
import MirrorGate.Recovery.Receipt

/-!
# An Offline Recovery

A recovery takes the whole journal and works on it in three passes. It visits
every record, cgroups first: what cannot be recovered is settled right away
and protects what encloses it, and a directory that is found where its record
says is planned. It then blocks every plan that is protected, by path if the
protecting record has one and by session if not. What is left is grouped below
its outermost directories, and each group is removed with its outermost
directory and settled as a whole.

Every pass reports, in order, what it settled. The reports and what was seen
of the cgroups make the receipt.

## Main definitions

* `visit`: What happens to one record in the first pass.
* `blockPlan`: What happens to one plan in the second pass.
* `reclaimGroup`: What happens to one group in the third pass.
* `reclaimRecords`: The three passes.
* `reclaim`: A recovery with its receipt.
-/

namespace MirrorGate

variable {W Fd : Type}

/-- The first path leads to a directory above the second. -/
def RelativePath.Above (path child : RelativePath) : Prop :=
  path.parts <+: child.parts ∧ path ≠ child

instance (path child : RelativePath) : Decidable (path.Above child) :=
  inferInstanceAs (Decidable (_ ∧ _))

/-- A record whose resource must be left alone, with its path if it protects
    by path. -/
structure Protection where
  path : Option RelativePath
  record : Record

/-- The end of a visit: the resource is settled, or its removal is planned. -/
inductive Visit where
  | settled (item : RecoveryItem) (observation : Option CgroupObservation)
    (protection : Option Protection)
  | planned (plan : Plan)

/-- The session that owns the directories all others are in. -/
def controllerSession : String := "controller"

section Visit

variable (os : Os W Fd) (lease : Lease) (attemptId : String)

/-- Settle a record as ambiguous and protect it. -/
def visitAmbiguous (record : Record) (reason : String) (path : Option RelativePath) :
    Py W Visit := do
  let item ← markAmbiguous os.toJournalIo record attemptId reason
  pure (.settled item none (some ⟨path, record⟩))

/-- A record that is reclaimed already. A cgroup reclaimed without evidence
    cannot be confirmed. -/
def visitReclaimed (record : Record) : Visit :=
  if record.kind = .cgroup then
    match record.cleanupEvidence with
    | some evidence =>
      .settled (classify record false)
        (some ⟨record.resourceId, evidence.settings, evidence.counters⟩) none
    | none => .settled (record.item .unconfirmed (some "terminal_counters_not_retained")) none none
  else .settled (classify record false) none none

/-- What is not reclaimed protects its session, as it is in the journal now. -/
def protectSession (record : Record) (item : RecoveryItem) : Py W (Option Protection) :=
  if item.disposition = .reclaimed then pure none
  else do
    let current ← Journal.read os.toJournalIo record.resourceId
    pure (some ⟨none, current⟩)

def visitProcess (record : Record) : Py W Visit :=
  match record.schema with
  | .v2 => do
    let item ← reclaimGroupProcess os lease attemptId record
    let protection ← protectSession os record item
    pure (.settled item none protection)
  | .v1 => visitAmbiguous os attemptId record "post_restart_identity_unavailable" none

def visitCgroup (delegation : Option Fd) (record : Record) : Py W Visit :=
  match delegation with
  | some fd => do
    let outcome ← reclaimCgroup os lease attemptId fd record
    let protection ← protectSession os record outcome.1
    pure (.settled outcome.1 (some outcome.2) protection)
  | none =>
    if record.phase = .cleanupFailed then
      pure (.settled (record.item .failed (some "prior_cleanup_failed")) none
        (some ⟨none, record⟩))
    else visitAmbiguous os attemptId record "post_restart_identity_unavailable" none

def visitFilesystem (record : Record) : Py W Visit :=
  match h : record.identity with
  | .filesystem identity => do
    let checked ← validateFilesystem os identity record.cleanupTarget
    match checked with
    | .error reason => visitAmbiguous os attemptId record reason (recordPath record)
    | .ok _ => pure (.planned ⟨record, identity, h⟩)
  | _ => visitAmbiguous os attemptId record "identity_incomplete" (recordPath record)

def visit (delegation : Option Fd) (record : Record) : Py W Visit :=
  if ¬ recordBelongsToRoot lease record then
    visitAmbiguous os attemptId record "foreign_root_or_uid" (recordPath record)
  else if (classify record false).disposition = .reclaimed then pure (visitReclaimed record)
  else if (classify record false).disposition = .retained ∨ record.phase = .ambiguous then
    pure (.settled (classify record false) none (some ⟨recordPath record, record⟩))
  else
    match record.kind with
    | .process => visitProcess os lease attemptId record
    | .cgroup => visitCgroup os lease attemptId delegation record
    | .filesystem | .retainedSource => visitFilesystem os attemptId record

end Visit

/-- Cgroups are visited first, because what covers a process must be settled
    before the process. -/
def visitOrder (records : List Record) : List Record :=
  records.filter (fun record => record.kind = .cgroup) ++
    records.filter (fun record => record.kind ≠ .cgroup)

namespace Visit

def item? : Visit → Option RecoveryItem
  | .settled item _ _ => some item
  | .planned _ => none

def observation? : Visit → Option CgroupObservation
  | .settled _ observation _ => observation
  | .planned _ => none

def protection? : Visit → Option Protection
  | .settled _ _ protection => protection
  | .planned _ => none

def plan? : Visit → Option Plan
  | .settled _ _ _ => none
  | .planned plan => some plan

end Visit

/-! ### Protected plans -/

/-- A protection with a path blocks the directories at and above it. One
    without blocks the directories of its session and of the controller. -/
def Protection.Blocks (protection : Protection) (plan : Plan) : Prop :=
  match protection.path with
  | some child => plan.path = child ∨ plan.path.Above child
  | none => plan.record.sessionId = protection.record.sessionId ∨
      plan.record.sessionId = controllerSession

instance (protection : Protection) (plan : Plan) : Decidable (protection.Blocks plan) := by
  unfold Protection.Blocks
  cases protection.path <;> infer_instance

/-- The records that protect a plan. -/
def blockers (protections : List Protection) (plan : Plan) : List Record :=
  (protections.filter (fun protection => protection.Blocks plan)).map Protection.record

section Block

variable (io : JournalIo W) (attemptId : String)

/-- Settle a protected plan. If all that protects it may be retried, so may
    it. -/
def blockPlan (protections : List Protection) (plan : Plan) : Py W (Option RecoveryItem) :=
  if blockers protections plan = [] then pure none
  else if ∀ record ∈ blockers protections plan, record.phase = .cleanupFailed then do
    let _ ← Journal.beginCleanup io plan.resourceId
    let failed ← Journal.finishCleanup io plan.resourceId false
    pure (some { plan.record.item .failed (some "descendant_cleanup_failed") with
      phase := failed.phase })
  else do
    let item ← markAmbiguous io plan.record attemptId "protected_descendant"
    pure (some item)

end Block

/-! ### Groups -/

/-- A directory together with the planned directories below it. -/
abbrev PlanGroup : Type := Plan × List Plan

/-- The groups of a list of plans, by depth. -/
def groupPlans (plans : List Plan) : List PlanGroup :=
  Forest.group (fun a b => a.path.Above b.path)
    (plans.insertionSort (fun a b => a.path.parts.length ≤ b.path.parts.length))

/-- Where a directory is after the group's root has been moved. -/
def groupTarget (root descendant : Plan) : String :=
  Text.joinPath ("quarantine" :: quarantineName root.resourceId ::
    descendant.path.parts.drop root.path.parts.length)

/-- An earlier attempt has fixed another target for the directory. -/
def TargetConflict (root descendant : Plan) : Prop :=
  ∃ target ∈ descendant.record.cleanupTarget, target.text ≠ groupTarget root descendant

instance (root descendant : Plan) : Decidable (TargetConflict root descendant) :=
  inferInstanceAs (Decidable (∃ target ∈ descendant.record.cleanupTarget, _))

section Group

variable (os : Os W Fd) (attemptId : String)

/-- Announce the removal of a directory as part of its group. A target that
    was fixed before is the right one: conflicts are excluded first. -/
def prepareDescendant (root descendant : Plan) : Py W Record :=
  if descendant.record.phase ≠ .cleanupIntent then
    Journal.transition os.toJournalIo descendant.resourceId .cleanupIntent
      { cleanupTarget := some (groupTarget root descendant) }
  else if descendant.record.cleanupTarget = none then
    Journal.setCleanupTarget os.toJournalIo descendant.resourceId (groupTarget root descendant)
  else pure descendant.record

/-- Settle a directory that went with its group. -/
def settleDescendant (current : Record) : Py W RecoveryItem := do
  let terminal ← Journal.transition os.toJournalIo current.resourceId .reclaimed
    (.note attemptId .recovered (some "ancestor_reclaimed"))
  pure (terminal.item .reclaimed none)

def reclaimGroup (group : PlanGroup) : Py W (List RecoveryItem) :=
  if ∃ descendant ∈ group.2, TargetConflict group.1 descendant then do
    let item ← markAmbiguous os.toJournalIo group.1.record attemptId
      "group_cleanup_target_conflict"
    pure [item]
  else do
    let prepared ← Prog.mapList (prepareDescendant os group.1) group.2
    let item ← reclaimFilesystem os attemptId group.1
    if item.disposition = .reclaimed then do
      let items ← Prog.mapList (settleDescendant os attemptId) prepared
      pure (item :: items)
    else pure [item]

end Group

/-! ### A recovery -/

/-- The arguments of a recovery, and the name it gives itself. -/
structure Call where
  attemptId : String
  cgroupParent : Option String
  original : Option Original

/-- What the three passes report. -/
structure Recovered where
  records : List Record
  items : List RecoveryItem
  observations : List CgroupObservation

section Reclaim

variable (os : Os W Fd) (lease : Lease) (call : Call)

/-- Refuse to work on a journal that needs a look by hand, and list it. -/
def takeSnapshot : Py W Snapshot := do
  perform os.scandir
  let aside ← Prog.gets (fun s => s.journal.quarantined)
  (if aside ≠ [] then
      Prog.raise (.journal "quarantined journal records require manual intervention")
    else pure ())
  let snapshot ← Journal.inspect os.toJournalIo
  (if snapshot.invalid ≠ [] then (do
      Journal.quarantineInvalid os.toJournalIo snapshot.invalid
      Prog.raise (.journal "invalid journal records require manual intervention"))
    else pure ())
  pure snapshot

def openParentDelegation : Option String → Py W (Option Fd)
  | none => pure none
  | some parent => do
    let fd ← openDelegation os parent
    pure (some fd)

/-- The first two passes: what was visited, which plans were blocked, and
    which are safe. -/
structure Survey where
  records : List Record
  visits : List Visit
  blocked : List (Option RecoveryItem)

namespace Survey

def plans (survey : Survey) : List Plan := survey.visits.filterMap Visit.plan?

def protections (survey : Survey) : List Protection := survey.visits.filterMap Visit.protection?

/-- The plans that nothing protects. -/
def safePlans (survey : Survey) : List Plan :=
  survey.plans.filter (fun plan => blockers survey.protections plan = [])

def groups (survey : Survey) : List PlanGroup := groupPlans survey.safePlans

/-- The items of the first two passes. -/
def items (survey : Survey) : List RecoveryItem :=
  survey.visits.filterMap Visit.item? ++ survey.blocked.filterMap id

end Survey

def takeSurvey : Py W Survey := do
  let delegation ← openParentDelegation os call.cgroupParent
  let snapshot ← takeSnapshot os
  let visits ← Prog.mapList (visit os lease call.attemptId delegation)
    (visitOrder snapshot.records)
  let blocked ← Prog.mapList
    (blockPlan os.toJournalIo call.attemptId (visits.filterMap Visit.protection?))
    (visits.filterMap Visit.plan?)
  pure ⟨snapshot.records, visits, blocked⟩

def reclaimRecords : Py W Recovered := do
  let survey ← takeSurvey os lease call
  let removed ← Prog.mapList (reclaimGroup os call.attemptId) survey.groups
  pure
    { records := survey.records
      items := survey.items ++ removed.flatten
      observations := survey.visits.filterMap Visit.observation? }

end Reclaim

/-! ### The receipt -/

def RecoveryItem.receiptResult (item : RecoveryItem) : ReceiptResult :=
  ⟨item.resourceId, item.sessionId, item.kind.text, item.disposition, item.reasonCode⟩

/-- What was observed of a cgroup, or that nothing was. -/
def observationOf (observations : List CgroupObservation) (id : String) : CgroupObservation :=
  (observations.find? (fun observation => observation.resourceId = id)).getD
    ⟨id, .blank, .none⟩

/-- The receipt a recovery asks for. -/
def Recovered.request (recovered : Recovered) (lease : Lease) (call : Call) : ReceiptRequest :=
  { attemptId := call.attemptId
    trigger := "offline_reclaim"
    original := call.original
    results := recovered.items.map RecoveryItem.receiptResult
    remaining := some ((recovered.items.filter (fun item => item.disposition.IsRemaining)).map
      RecoveryItem.resourceId)
    ownershipObservations := some (recovered.items.map (fun item => item.disposition.text))
    cgroupObservations := some ((recovered.items.filter (fun item => item.kind = .cgroup)).map
      (fun item => observationOf recovered.observations item.resourceId))
    journalSchema :=
      if ∃ record ∈ recovered.records, record.schema = .v2 then Schema.v2.text else Schema.v1.text
    controllerInstance := lease.controllerInstance
    bootId := lease.bootId
    principalUid := lease.principalUid }

/-- A recovery with its receipt. An error of the receipt is an admission
    error, raised after the resources have been dealt with. -/
def reclaim (os : Os W Fd) (lease : Lease) (call : Call) :
    Py W (List RecoveryItem × Receipt) := do
  let recovered ← reclaimRecords os lease call
  let receipt ← Prog.ofExcept
    ((createReceipt os.sha256 (recovered.request lease call)).mapError .admission)
  pure (recovered.items, receipt)

end MirrorGate
