import MirrorGate.Recovery.Disk
import MirrorGate.Recovery.Nesting

/-!
# What Is Reported

Every record of the journal goes through exactly one of the three passes, and
each pass reports what it settles. So the reports of a completed recovery and
the directories nobody reported make up the journal, without repetition.

Nobody reports a directory that was put into a group whose root could not be
removed. `accounts_iff` makes this exact: a recovery accounts for every record
if and only if every group that has directories below its root was removed.
What is reported as reclaimed is reclaimed in any case, and with a directory
everything below it (`reclaimed_with_all_below`).

## Main definitions

* `unreported`: The directories of the groups that nobody reported.
* `RootRemoved`, `EachGroupRemoved`: Everything went well with the groups.
* `Accounts`: A result accounts for a journal.

## Theorems

* `reports_perm`: Reports and unreported directories make up the journal.
* `reclaimFilesystem_reclaimed_iff`: When a directory is reported as
  reclaimed.
* `accounts_iff`: When a recovery accounts for every record.
* `reclaimed_with_all_below`: A removed directory takes only reclaimed ones
  with it.
-/

namespace MirrorGate

open Prog List Fallible

variable {W Fd : Type}

/-! ### The passes report distinct records -/

variable {journal : Journal}

/-- A visit reports its record or plans its removal. -/
theorem visits_perm {lease : Lease} {records : List Record}
    {visits : List Visit}
    (h : List.Forall₂ (fun record v => VisitReport lease record journal v) records visits) :
    ((visits.filterMap Visit.item?).map RecoveryItem.resourceId ++
      (visits.filterMap Visit.plan?).map Plan.resourceId).Perm
        (records.map Record.resourceId) := by
  induction h with
  | nil => simp
  | @cons record v records visits hv _ ih =>
    cases hv with
    | settled hreport =>
      rw [filterMap_cons, Visit.item?, filterMap_cons, Visit.plan?, map_cons,
        map_cons, cons_append, hreport.resourceId]
      exact ih.cons _
    | planned hrecord =>
      rw [filterMap_cons, Visit.item?, filterMap_cons, Visit.plan?, map_cons,
        map_cons, Plan.resourceId, hrecord]
      exact perm_middle.trans (ih.cons _)

/-- A plan is reported as blocked, or it is safe. -/
theorem blocked_perm {protections : List Protection} {plans : List Plan}
    {blocked : List (Option RecoveryItem)}
    (h : List.Forall₂ (fun plan outcome => BlockReport protections plan outcome journal)
      plans blocked) :
    ((blocked.filterMap id).map RecoveryItem.resourceId ++
      (plans.filter (fun plan => blockers protections plan = [])).map Plan.resourceId).Perm
        (plans.map Plan.resourceId) := by
  induction h with
  | nil => simp
  | @cons plan outcome plans blocked hp _ ih =>
    rcases outcome with _ | item
    · have hsafe : blockers protections plan = [] := hp.1.mp rfl
      rw [filterMap_cons, filter_cons_of_pos (by simp [hsafe]), map_cons,
        map_cons]
      exact perm_middle.trans (ih.cons _)
    · have hblocked : blockers protections plan ≠ [] :=
        fun hsafe => absurd (hp.1.mpr hsafe) (by simp)
      have hid : item.resourceId = plan.resourceId := (hp.2 item rfl).1.resourceId
      rw [filterMap_cons, filter_cons_of_neg (by simp [hblocked]), id_eq,
        map_cons, map_cons, cons_append, hid]
      exact ih.cons _

/-- The directories of the groups that nobody reported: a group that reports
    its root alone leaves out everything below it. -/
def unreported (groups : List PlanGroup) (removed : List (List RecoveryItem)) : List Plan :=
  (List.zipWith (fun group items => group.2.drop (items.length - 1)) groups removed).flatten

theorem unreported_cons (group : PlanGroup) (groups : List PlanGroup) (items : List RecoveryItem)
    (removed : List (List RecoveryItem)) :
    unreported (group :: groups) (items :: removed) =
      group.2.drop (items.length - 1) ++ unreported groups removed := rfl

theorem ids_of_reports {plans : List Plan} {items : List RecoveryItem}
    (h : List.Forall₂ (fun plan i => Reports plan.record i journal ∧ i.disposition = .reclaimed)
      plans items) : items.map RecoveryItem.resourceId = plans.map Plan.resourceId := by
  induction h with
  | nil => rfl
  | cons hplan _ ih =>
    have hhead := hplan.1.resourceId
    rw [map_cons, map_cons, ih, hhead, Plan.resourceId]

/-- The ids of a group's report, and of what it leaves out. -/
theorem groupReport_ids {group : PlanGroup} {items : List RecoveryItem}
    (h : GroupReport group items journal) :
    items.map RecoveryItem.resourceId ++
        (group.2.drop (items.length - 1)).map Plan.resourceId =
      (group.1 :: group.2).map Plan.resourceId := by
  rcases h with ⟨item, rest, rfl, hroot, hsuccess, hfailure⟩
  have hid : item.resourceId = group.1.resourceId := hroot.resourceId
  rw [map_cons, map_cons, hid, length_cons, Nat.add_sub_cancel, cons_append]
  refine congrArg _ ?_
  by_cases hreclaimed : item.disposition = .reclaimed
  · have hall := hsuccess hreclaimed
    rw [← hall.length_eq, drop_length, map_nil, append_nil]
    exact ids_of_reports hall
  · rw [hfailure hreclaimed]
    rfl

variable {removed : List (List RecoveryItem)}

theorem groups_perm {groups : List PlanGroup}
    (h : List.Forall₂ (fun group items => GroupReport group items journal) groups removed) :
    (removed.flatten.map RecoveryItem.resourceId ++
      (unreported groups removed).map Plan.resourceId).Perm
        ((Forest.members groups).map Plan.resourceId) := by
  induction h with
  | nil => exact List.Perm.refl _
  | @cons group items groups removed hg _ ih =>
    have hmembers : (Forest.members (group :: groups)).map Plan.resourceId =
        (group.1 :: group.2).map Plan.resourceId ++
          (Forest.members groups).map Plan.resourceId := by
      rw [Forest.members, flatMap_cons, map_append]
      rfl
    rw [hmembers, ← groupReport_ids hg, flatten_cons, unreported_cons, map_append,
      map_append]
    -- Both sides are the same four lists in a different order.
    rw [append_assoc, append_assoc]
    refine List.Perm.append_left _ ?_
    rw [← append_assoc]
    refine (perm_append_comm.append_right _).trans ?_
    rw [append_assoc]
    exact ih.append_left _

section Reports

variable {os : Os W Fd} {lease : Lease} {call : Call} {survey : Survey} {s t u : Machine W}
  {removed : List (List RecoveryItem)}
variable {sha256 : List Char → Hex64}

/-- The reports of a recovery and what nobody reported make up the journal. -/
theorem reports_perm (h : Surveyed sha256 lease survey s t)
    (hremoved : List.Forall₂ (fun group items => GroupReport group items journal) survey.groups
      removed) :
    ((survey.items ++ removed.flatten).map RecoveryItem.resourceId ++
      (unreported survey.groups removed).map Plan.resourceId).Perm
        (s.journal.records.map Record.resourceId) := by
  have hrecords := ((visitOrder_perm survey.records).trans h.records).map Record.resourceId
  have hsafe := survey.members_groups.map Plan.resourceId
  refine List.Perm.trans ?_ ((visits_perm h.visits).trans hrecords)
  have hblocked := blocked_perm h.blocked
  unfold Survey.items
  rw [map_append, map_append, append_assoc, append_assoc]
  refine List.Perm.append_left _ (List.Perm.trans ?_ hblocked)
  exact List.Perm.append_left _ ((groups_perm hremoved).trans hsafe)

/-- No record is reported twice. -/
theorem reports_nodup (h : Surveyed sha256 lease survey s t)
    (hremoved : List.Forall₂ (fun group items => GroupReport group items journal) survey.groups
      removed) :
    ((survey.items ++ removed.flatten).map RecoveryItem.resourceId).Nodup := by
  have hall := (reports_perm h hremoved).nodup_iff.mpr s.journal.distinct
  exact (sublist_append_left _ _).nodup hall

/-- Every item reports some record of the journal. -/
theorem reports_of_mem (h : Surveyed sha256 lease survey s t)
    (hevolves : Recovers sha256 lease (s.journal.records.map Record.resourceId) t u)
    (hremoved : List.Forall₂ (fun group items => GroupReport group items u.journal) survey.groups
      removed) {item : RecoveryItem} (hitem : item ∈ survey.items ++ removed.flatten) :
    ∃ record ∈ s.journal.records, Reports record item u.journal := by
  have hvisited := (visitOrder_perm survey.records).trans h.records
  rcases mem_append.mp hitem with hitem | hitem
  · rcases mem_append.mp hitem with hitem | hitem
    · rcases mem_filterMap.mp hitem with ⟨v, hv, hvitem⟩
      rcases exists_of_mem_right h.visits hv with ⟨record, hrecord, hreport⟩
      refine ⟨record, hvisited.mem_iff.mp hrecord, ?_⟩
      cases hreport with
      | settled hreports =>
        cases hvitem
        exact hreports.evolves hevolves
      | planned => cases hvitem
    · rcases mem_filterMap.mp hitem with ⟨outcome, houtcome, hsome⟩
      rcases exists_of_mem_right h.blocked houtcome with ⟨plan, hplan, hreport⟩
      exact ⟨plan.record, h.mem_records hplan, ((hreport.2 item hsome).1).evolves hevolves⟩
  · rcases mem_flatten.mp hitem with ⟨items, hitems, hmem⟩
    rcases exists_of_mem_right hremoved hitems with ⟨group, hgroup, hreport⟩
    have hplans : ∀ plan ∈ group.1 :: group.2, plan.record ∈ s.journal.records := fun plan hplan =>
      h.mem_records (Survey.mem_plans_of_safe (Survey.mem_safePlans hgroup hplan))
    rcases hreport with ⟨root, rest, rfl, hroot, hsuccess, hfailure⟩
    rcases mem_cons.mp hmem with rfl | hmem
    · exact ⟨group.1.record, hplans _ (by simp), hroot⟩
    · -- A report of something below the root means that the root is gone.
      by_cases hreclaimed : root.disposition = .reclaimed
      · rcases exists_of_mem_right (hsuccess hreclaimed) hmem with ⟨plan, hplan, hreports, -⟩
        exact ⟨plan.record, hplans _ (by simp [hplan]), hreports⟩
      · rw [hfailure hreclaimed] at hmem
        simp at hmem

/-- A completed recovery with its receipt. -/
theorem reclaim_ok {items : List RecoveryItem} {receipt : Receipt}
    (h : (reclaim os lease call).run s = (.ok (items, receipt), u)) :
    ∃ recovered, (reclaimRecords os lease call).run s = (.ok recovered, u) ∧
      createReceipt os.sha256 (recovered.request lease call) = .ok receipt ∧
      items = recovered.items := by
  unfold reclaim at h
  rcases bind_eq_ok_iff.mp h with ⟨recovered, v, hrun, h⟩
  rcases bind_eq_ok_iff.mp h with ⟨made, w, hmade, h⟩
  rcases pure_eq_ok_iff.mp h with ⟨heq, rfl⟩
  rcases ofExcept_eq_ok_iff.mp hmade with ⟨hreceipt, rfl⟩
  cases heq
  refine ⟨recovered, hrun, ?_, rfl⟩
  rcases hcreate : createReceipt os.sha256 (recovered.request lease call) with message | made'
  · rw [hcreate] at hreceipt
    cases hreceipt
  · rw [hcreate] at hreceipt
    cases hreceipt
    rfl

theorem createReceipt_results {request : ReceiptRequest}
    {receipt : Receipt} (h : createReceipt sha256 request = .ok receipt) :
    receipt.payload.results = request.results := by
  unfold createReceipt at h
  simp only [unit_bind_eq_ok, Except.ok.injEq] at h
  rcases h with ⟨-, -, -, -, rfl⟩
  rfl

end Reports

/-! ### When a group is removed -/

section Removed

variable (os : Os W Fd) (attemptId : String)

/-- Everything goes well with the root of a group: it is found twice, its
    removal is announced in between, and moving and removing it fails
    nowhere. -/
def RootRemoved (root : Plan) (s : Machine W) : Prop :=
  ∃ found s1 current s2 s3 located s4 place s5 fd s6 s7,
    (validateFilesystem os root.identity root.record.cleanupTarget).run s =
      (.ok (.ok found), s1) ∧
    (enterCleanup os root.record).run s1 = (.ok (some current), s2) ∧
    (cut os "after-cleanup-intent").run s2 = (.ok (), s3) ∧
    (validateFilesystem os root.identity current.cleanupTarget).run s3 =
      (.ok (.ok located), s4) ∧
    (openParent os located).run s4 = (.ok place, s5) ∧
    (perform (os.dup os.quarantineFd)).run s5 = (.ok fd, s6) ∧
    (moveAndRemove os attemptId current root.identity located place.1 place.2 fd).run s6 =
      (.ok none, s7)

/-- A group is removed: no directory has another target, and everything goes
    well with the root once the directories below it are announced. -/
def GroupRemoved (group : PlanGroup) (s : Machine W) : Prop :=
  (∀ descendant ∈ group.2, ¬ TargetConflict group.1 descendant) ∧
    RootRemoved os attemptId group.1 ((Prog.mapList (prepareDescendant os group.1) group.2).run s).2

/-- Every group with directories below its root is removed, each from the
    state the groups before it leave. -/
def EachGroupRemoved : List PlanGroup → Machine W → Prop
  | [], _ => True
  | group :: groups, s =>
    (group.2 ≠ [] → GroupRemoved os attemptId group s) ∧
      EachGroupRemoved groups ((reclaimGroup os attemptId group).run s).2

end Removed

section RemovedLemmas

variable {os : Os W Fd} {attemptId : String} {s t : Machine W}

theorem cleanupFailed_disposition {current : Record} {reason : String} {item : RecoveryItem}
    (h : (cleanupFailed os attemptId current reason).run s = (.ok item, t)) :
    item.disposition = .failed := by
  rcases bind_eq_ok_iff.mp h with ⟨failed, v, -, h⟩
  rcases pure_eq_ok_iff.mp h with ⟨rfl, -⟩
  rfl

/-- An item returned while a directory is moved and removed is no success. -/
theorem moveAndRemove_disposition {current : Record} {identity : FilesystemIdentity}
    {located : RelativePath} {parent fd : Fd} {leaf : String} {item : RecoveryItem}
    (h : (moveAndRemove os attemptId current identity located parent leaf fd).run s =
      (.ok (some item), t)) : item.disposition ≠ .reclaimed := by
  have hambiguous : ∀ {reason : String} {u v : Machine W} {found : RecoveryItem},
      (markAmbiguous os.toJournalIo current attemptId reason >>= fun i =>
        pure (some i)).run u = (.ok (some found), v) → found.disposition ≠ .reclaimed := by
    intro reason u v found hrun
    rcases bind_eq_ok_iff.mp hrun with ⟨i, w, hmark, hrun⟩
    cases (pure_eq_ok_iff.mp hrun).1
    rw [(markAmbiguous_ok hmark).1]
    decide
  have hquarantine : ∀ {u v : Machine W} {found : RecoveryItem},
      (quarantine os attemptId current located parent leaf fd).run u = (.ok (some found), v) →
        found.disposition ≠ .reclaimed := by
    intro u v found hrun
    unfold quarantine at hrun
    split at hrun
    · cases (pure_eq_ok_iff.mp hrun).1
    rcases bind_eq_ok_iff.mp hrun with ⟨_, w1, -, hrun⟩
    rcases bind_eq_ok_iff.mp hrun with ⟨failed, w2, hfailed, hrun⟩
    rcases failed with _ | i
    · rcases bind_eq_ok_iff.mp hrun with ⟨_, w3, -, hrun⟩
      cases (pure_eq_ok_iff.mp hrun).1
    · cases (pure_eq_ok_iff.mp hrun).1
      rcases handle_eq_ok_iff.mp hfailed with hrename | ⟨e, w3, k, -, hk, hrun⟩
      · rcases bind_eq_ok_iff.mp hrename with ⟨_, w3, -, hrename⟩
        cases (pure_eq_ok_iff.mp hrename).1
      · split at hk
        · cases hk
          rcases bind_eq_ok_iff.mp hrun with ⟨i, w4, hitem, hrun⟩
          cases (pure_eq_ok_iff.mp hrun).1
          rw [cleanupFailed_disposition hitem]
          decide
        · cases hk
  unfold moveAndRemove at h
  rcases bind_eq_ok_iff.mp h with ⟨pinned, u1, -, h⟩
  rcases bind_eq_ok_iff.mp h with ⟨observed, u2, -, h⟩
  rcases bind_eq_ok_iff.mp h with ⟨data, u3, -, h⟩
  rcases bind_eq_ok_iff.mp h with ⟨token, u4, -, h⟩
  split at h
  · rcases bind_eq_ok_iff.mp h with ⟨failed, u5, hfailed, h⟩
    rcases failed with _ | i
    · unfold removeQuarantined at h
      rcases bind_eq_ok_iff.mp h with ⟨moved, u6, -, h⟩
      split at h
      · rcases bind_eq_ok_iff.mp h with ⟨_, u7, -, h⟩
        rcases bind_eq_ok_iff.mp h with ⟨_, u8, -, h⟩
        cases (pure_eq_ok_iff.mp h).1
      · exact hambiguous h
    · cases (pure_eq_ok_iff.mp h).1
      exact hquarantine hfailed
  · exact hambiguous h

/-- A completed recovery of a directory reports it as reclaimed exactly if
    everything went well. -/
theorem reclaimFilesystem_reclaimed_iff {plan : Plan} {item : RecoveryItem}
    (h : (reclaimFilesystem os attemptId plan).run s = (.ok item, t)) :
    item.disposition = .reclaimed ↔ RootRemoved os attemptId plan s := by
  have hambiguous : ∀ {record : Record} {reason : String} {u v : Machine W} {found : RecoveryItem},
      (markAmbiguous os.toJournalIo record attemptId reason).run u = (.ok found, v) →
        found.disposition ≠ .reclaimed := by
    intro record reason u v found hrun
    rw [(markAmbiguous_ok hrun).1]
    decide
  unfold reclaimFilesystem at h
  rcases bind_eq_ok_iff.mp h with ⟨checked, s1, hchecked, h⟩
  constructor
  · -- Follow the run down to the only branch that reports success.
    intro hreclaimed
    rcases checked with reason | found
    · exact absurd hreclaimed (hambiguous h)
    rcases bind_eq_ok_iff.mp h with ⟨entered, s2, hentered, h⟩
    rcases entered with _ | current
    · exact absurd hreclaimed (hambiguous h)
    unfold reclaimPrepared at h
    rcases bind_eq_ok_iff.mp h with ⟨_, s3, hcut, h⟩
    rcases bind_eq_ok_iff.mp h with ⟨again, s4, hagain, h⟩
    rcases again with reason | located
    · exact absurd hreclaimed (hambiguous h)
    rcases bind_eq_ok_iff.mp h with ⟨place, s5, hplace, h⟩
    rcases bind_eq_ok_iff.mp h with ⟨fd, s6, hfd, h⟩
    rcases bind_eq_ok_iff.mp h with ⟨outcome, s7, houtcome, h⟩
    rcases outcome with _ | failed
    · refine ⟨found, s1, current, s2, s3, located, s4, place, s5, fd, s6, s7, hchecked, hentered,
        hcut, hagain, hplace, hfd, ?_⟩
      rcases handle_eq_ok_iff.mp houtcome with hdone | ⟨e, u, k, -, hk, hrun⟩
      · exact hdone
      · split at hk
        · cases hk
          rcases bind_eq_ok_iff.mp hrun with ⟨i, v, -, hrun⟩
          cases (pure_eq_ok_iff.mp hrun).1
        · cases hk
    · rcases pure_eq_ok_iff.mp h with ⟨rfl, -⟩
      rcases handle_eq_ok_iff.mp houtcome with hdone | ⟨e, u, k, -, hk, hrun⟩
      · exact absurd hreclaimed (moveAndRemove_disposition hdone)
      · split at hk
        · cases hk
          rcases bind_eq_ok_iff.mp hrun with ⟨i, v, hitem, hrun⟩
          cases (pure_eq_ok_iff.mp hrun).1
          rw [cleanupFailed_disposition hitem] at hreclaimed
          cases hreclaimed
        · cases hk
  · -- The run is determined, so it took this branch.
    rintro ⟨found, r1, current, r2, r3, located, r4, place, r5, fd, r6, r7, hfound, hentered, hcut,
      hagain, hplace, hfd, hdone⟩
    rw [hfound] at hchecked
    cases hchecked
    simp only at h
    rw [bind_run_ok hentered] at h
    simp only at h
    unfold reclaimPrepared at h
    rw [bind_run_ok hcut, bind_run_ok hagain] at h
    simp only at h
    rw [bind_run_ok hplace, bind_run_ok hfd,
      bind_run_ok (handle_run_ok hdone)] at h
    simp only at h
    rcases bind_eq_ok_iff.mp h with ⟨terminal, v1, -, h⟩
    rcases bind_eq_ok_iff.mp h with ⟨_, v2, -, h⟩
    rcases pure_eq_ok_iff.mp h with ⟨rfl, -⟩
    rfl

/-- A completed group leaves nothing unreported exactly if it has nothing
    below its root or was removed. -/
theorem reclaimGroup_unreported_iff {group : PlanGroup} {items : List RecoveryItem} (h : (reclaimGroup os attemptId group).run s = (.ok items, t))
    (hreport : GroupReport group items journal) :
    group.2.drop (items.length - 1) = [] ↔
      (group.2 ≠ [] → GroupRemoved os attemptId group s) := by
  rcases hreport with ⟨item, rest, rfl, -, hsuccess, hfailure⟩
  by_cases hnone : group.2 = []
  · simp [hnone]
  have hlength : group.2.drop ((item :: rest).length - 1) = [] ↔ item.disposition = .reclaimed := by
    by_cases hreclaimed : item.disposition = .reclaimed
    · have heq := (hsuccess hreclaimed).length_eq
      simp [hreclaimed, ← heq]
    · simp [hreclaimed, hfailure hreclaimed, hnone]
  rw [hlength]
  simp only [ne_eq, hnone, not_false_eq_true, true_imp_iff]
  unfold reclaimGroup at h
  split at h
  · next hconflict =>
    -- A conflict ends in an ambiguous root.
    rcases bind_eq_ok_iff.mp h with ⟨found, v, hmark, h⟩
    cases (pure_eq_ok_iff.mp h).1
    rcases hconflict with ⟨descendant, hmem, hconflict⟩
    constructor
    · intro hreclaimed
      rw [(markAmbiguous_ok hmark).1] at hreclaimed
      cases hreclaimed
    · exact fun hremoved => absurd hconflict (hremoved.1 descendant hmem)
  · next hfree =>
    rcases bind_eq_ok_iff.mp h with ⟨prepared, v, hprepared, h⟩
    rcases bind_eq_ok_iff.mp h with ⟨root, w, hroot, h⟩
    have hitem : root = item := by
      split at h
      · rcases bind_eq_ok_iff.mp h with ⟨others, x, -, h⟩
        cases (pure_eq_ok_iff.mp h).1
        rfl
      · cases (pure_eq_ok_iff.mp h).1
        rfl
    rw [← hitem, reclaimFilesystem_reclaimed_iff hroot, GroupRemoved, hprepared]
    constructor
    · intro hremoved
      exact ⟨fun descendant hmem hconflict => hfree ⟨descendant, hmem, hconflict⟩, hremoved⟩
    · exact fun hremoved => hremoved.2

/-- The third pass leaves nothing unreported exactly if every group with
    something below its root was removed. -/
theorem unreported_eq_nil_iff {groups : List PlanGroup}
    (h : (Prog.mapList (reclaimGroup os attemptId) groups).run s = (.ok removed, t))
    (hreports : List.Forall₂ (fun group items => GroupReport group items journal) groups
      removed) :
    unreported groups removed = [] ↔ EachGroupRemoved os attemptId groups s := by
  induction groups generalizing s removed with
  | nil => simp [unreported, EachGroupRemoved]
  | cons group groups ih =>
    rcases mapList_cons_eq_ok h with ⟨items, rest, v, hgroup, hrest, rfl⟩
    rcases forall₂_cons.mp hreports with ⟨hreport, hothers⟩
    rw [unreported_cons, append_eq_nil_iff, EachGroupRemoved, hgroup,
      reclaimGroup_unreported_iff hgroup hreport, ih hrest hothers]

end RemovedLemmas

/-! ### Accounting for a journal -/

/-- A result accounts for a journal: every record occurs in it once, in the
    items and in the receipt, and what it calls reclaimed is reclaimed in the
    journal afterwards. -/
structure Accounts (before after : Journal) (items : List RecoveryItem) (receipt : Receipt) :
    Prop where
  once : ∀ record ∈ before.records,
    (items.map RecoveryItem.resourceId).count record.resourceId = 1
  onceInReceipt : ∀ record ∈ before.records,
    (receipt.payload.results.map ReceiptResult.resourceId).count record.resourceId = 1
  settled : ∀ item ∈ items, item.disposition = .reclaimed →
    ∃ record ∈ before.records, item.resourceId = record.resourceId ∧ IsReclaimed after record

def outerPath : RelativePath := ⟨["resources", "outer"], by decide, by decide, by decide +kernel⟩

def innerPath : RelativePath :=
  ⟨["resources", "outer", "inner"], by decide, by decide, by decide +kernel⟩

/-- The record of a directory that is in use. -/
def ownedRecord (sessionId resourceId : String) (path : RelativePath) (inode : Nat) : Record :=
  { Journal.claimRecord someLease sessionId resourceId .filesystem "allocate" false .v1
      (some (.filesystem ⟨path, 1, inode, modeDirectory, 1, zeroDigest⟩)) with
    sequence := 2
    phase := .durableOwned }

/-- The directory itself. -/
def ownedNode (inode : Nat) : Node :=
  ⟨⟨1, inode, 1000, modeDirectory⟩, some (List.replicate 64 48)⟩

def outerRecord : Record := ownedRecord "s1" "outer" outerPath 11

def innerRecord : Record := ownedRecord "s1" "inner" innerPath 12

theorem outerRecord_valid : outerRecord.Valid := validateRecord_eq_ok.mp (by decide +kernel)

theorem innerRecord_valid : innerRecord.Valid := validateRecord_eq_ok.mp (by decide +kernel)

def nestedJournal : Journal :=
  (Journal.empty.put outerRecord outerRecord_valid).put innerRecord innerRecord_valid

def nestedTree : Tree where
  entries := [(["resources"], ownedNode 10), (["quarantine"], ownedNode 20),
    (["resources", "outer"], ownedNode 11), (["resources", "outer", "inner"], ownedNode 12)]
  distinct := by decide
  closed := by decide

/-- Surroundings that refuse some of the calls on the state root, always. -/
def Surroundings.refusing (refused : FileCall → Bool) : Surroundings Unit Unit where
  outside := Os.idle zeroDigest
  refuses call _ env := (if refused call then some (.other "refused") else none, env)

/-- What a recovery of the two directories reports. -/
def nestedOutcome (refused : FileCall → Bool) : Option (List (String × Disposition)) :=
  ((reclaim (Disk.os (.refusing refused)) someLease ⟨"attempt-1", none, none⟩).run
    ⟨nestedJournal, ⟨nestedTree, ()⟩⟩).1.toOption.map
      (fun result => result.1.map (fun item => (item.resourceId, item.disposition)))

theorem nestedOutcome_removed : nestedOutcome (fun _ => false) =
    some [("outer", .reclaimed), ("inner", .reclaimed)] := by
  decide +kernel

/-- A directory that becomes reclaimed does so with a group. -/
theorem group_of_reclaimed {sha256 : List Char → Hex64} {lease : Lease} {survey : Survey}
    {s t : Machine W}
    (h : Surveyed sha256 lease survey s t)
    (hremoved : List.Forall₂ (fun group items => GroupReport group items journal) survey.groups
      removed) {item : RecoveryItem} (hitem : item ∈ survey.items ++ removed.flatten)
    (hreclaimed : item.disposition = .reclaimed) {record : Record}
    (hrecord : record ∈ s.journal.records) (hdirectory : record.IsDirectory)
    (hopen : record.phase ≠ .reclaimed) (hid : item.resourceId = record.resourceId) :
    ∃ group ∈ survey.groups, (∃ plan ∈ group.1 :: group.2, plan.record = record) ∧
      ∀ plan ∈ group.2, ∃ i ∈ removed.flatten, Reports plan.record i journal ∧
        i.disposition = .reclaimed := by
  have hsame : ∀ {other : Record}, other ∈ s.journal.records → Reports other item t.journal ∨
      Reports other item journal → other = record := by
    intro other hother hreports
    refine inj_on_of_nodup_map s.journal.distinct hother hrecord ?_
    rcases hreports with hreports | hreports
    · exact hreports.resourceId.symm.trans hid
    · exact hreports.resourceId.symm.trans hid
  rcases mem_append.mp hitem with hitem | hitem
  · rcases mem_append.mp hitem with hitem | hitem
    · -- A visit reports an open directory, but never as reclaimed.
      rcases mem_filterMap.mp hitem with ⟨v, hv, hvitem⟩
      rcases exists_of_mem_right h.visits hv with ⟨other, hother, hreport⟩
      have hmem := ((visitOrder_perm survey.records).trans h.records).mem_iff.mp hother
      cases hreport with
      | settled hreports hguard hsettled =>
        cases hvitem
        have heq := hsame hmem (Or.inl hreports)
        rw [heq] at hsettled
        exact absurd (hsettled hdirectory hreclaimed) hopen
      | planned => cases hvitem
    · rcases mem_filterMap.mp hitem with ⟨outcome, houtcome, hsome⟩
      rcases exists_of_mem_right h.blocked houtcome with ⟨plan, -, hreport⟩
      exact absurd hreclaimed (hreport.2 item hsome).2
  · rcases mem_flatten.mp hitem with ⟨items, hitems, hmem⟩
    rcases exists_of_mem_right hremoved hitems with ⟨group, hgroup, hreport⟩
    have hplans : ∀ plan ∈ group.1 :: group.2, plan.record ∈ s.journal.records := fun plan hplan =>
      h.mem_records (Survey.mem_plans_of_safe (Survey.mem_safePlans hgroup hplan))
    rcases hreport with ⟨root, rest, rfl, hroot, hsuccess, hfailure⟩
    have hgone : root.disposition = .reclaimed := by
      rcases mem_cons.mp hmem with rfl | hmem
      · exact hreclaimed
      · by_contra hne
        rw [hfailure hne] at hmem
        simp at hmem
    have hall := hsuccess hgone
    refine ⟨group, hgroup, ?_, fun plan hplan => ?_⟩
    · rcases mem_cons.mp hmem with rfl | hmem
      · exact ⟨group.1, by simp, hsame (hplans _ (by simp)) (Or.inr hroot)⟩
      · rcases exists_of_mem_right hall hmem with ⟨plan, hplan, hreports, -⟩
        exact ⟨plan, by simp [hplan], hsame (hplans _ (by simp [hplan])) (Or.inr hreports)⟩
    · rcases exists_of_mem_left hall hplan with ⟨i, hi, hreports, hdisposition⟩
      exact ⟨i, mem_flatten.mpr ⟨_, hitems, by simp [hi]⟩, hreports, hdisposition⟩

/-- A directory that is removed takes only reclaimed ones with it. If a
    recovery reports an open directory as reclaimed, then every directory
    below it is reclaimed in the journal and reported so. -/
theorem reclaimed_with_all_below (os : Os W Fd) (lease : Lease) (call : Call) {s u : Machine W}
    {items : List RecoveryItem} {receipt : Receipt}
    (hrun : (reclaim os lease call).run s = (.ok (items, receipt), u))
    (hlayout : Layout s.journal) {upper lower : Record} (hupper : upper ∈ s.journal.records)
    (hlower : lower ∈ s.journal.records) (hupperDir : upper.IsDirectory)
    (hlowerDir : lower.IsDirectory) {path below : RelativePath}
    (hpath : recordPath upper = some path) (hbelow : recordPath lower = some below)
    (habove : path.Above below) (hopen : upper.phase ≠ .reclaimed) {item : RecoveryItem}
    (hitem : item ∈ items) (hid : item.resourceId = upper.resourceId)
    (hreclaimed : item.disposition = .reclaimed) :
    IsReclaimed u.journal lower ∧
      ∀ other ∈ items, other.resourceId = lower.resourceId → other.disposition = .reclaimed := by
  rcases reclaim_ok hrun with ⟨recovered, hrecords, -, rfl⟩
  rcases reclaimRecords_ok hrecords with ⟨survey, t, removed, hsurvey, hremoved, rfl⟩
  have hsurveyed := surveyed_of_run hsurvey
  have hgroups := reclaimGroups_guarantees os call.attemptId hsurveyed
  rw [hremoved] at hgroups
  have hreports := hgroups.2 removed u rfl
  have hnodup := reports_nodup hsurveyed hreports
  -- It is enough to find one report of the lower directory.
  have hone : ∀ found ∈ survey.items ++ removed.flatten, found.resourceId = lower.resourceId →
      found.disposition = .reclaimed → IsReclaimed u.journal lower ∧
        ∀ other ∈ survey.items ++ removed.flatten, other.resourceId = lower.resourceId →
          other.disposition = .reclaimed := by
    intro found hfound hfoundId hfoundReclaimed
    rcases reports_of_mem hsurveyed hgroups.1 hreports hfound with ⟨record, hrecord, hreport⟩
    have hrecordEq : record = lower := List.inj_on_of_nodup_map s.journal.distinct hrecord hlower
      (hreport.resourceId.symm.trans hfoundId)
    refine ⟨hrecordEq ▸ hreport.settled hfoundReclaimed, fun other hother hotherId => ?_⟩
    rw [List.inj_on_of_nodup_map hnodup hother hfound (hotherId.trans hfoundId.symm)]
    exact hfoundReclaimed
  rcases group_of_reclaimed hsurveyed hreports hitem hreclaimed hupper hupperDir hopen hid with
    ⟨group, hgroup, ⟨plan, hplan, hplanRecord⟩, hgone⟩
  have hplanPath : plan.path = path := by
    rw [← hplanRecord, plan.recordPath_record, Option.some.injEq] at hpath
    exact hpath
  rw [← hplanPath] at habove
  rcases hsurveyed.below_safe hlayout (Survey.mem_safePlans hgroup hplan) hlower hlowerDir hbelow
    habove with ⟨-, found, hfound, hfoundId, hfoundReclaimed⟩ | ⟨lowerPlan, hlowerPlan, rfl⟩
  · exact hone found (List.mem_append_left _ hfound) hfoundId hfoundReclaimed
  · have hlowerPath : lowerPlan.path = below := by
      rw [lowerPlan.recordPath_record, Option.some.injEq] at hbelow
      exact hbelow
    rw [← hlowerPath] at habove
    have hmember := hsurveyed.mem_group_of_above hlayout hgroup hplan hlowerPlan habove
    rcases hgone lowerPlan hmember with ⟨found, hfound, hreport, hfoundReclaimed⟩
    exact hone found (List.mem_append_right _ hfound) hreport.resourceId hfoundReclaimed

/-- The two directories are laid out as a controller does. -/
theorem nestedJournal_layout : Layout nestedJournal := by
  have hmem : ∀ record ∈ nestedJournal.records, record = outerRecord ∨ record = innerRecord := by
    intro record hrecord
    have hfind := Journal.find?_of_mem hrecord
    unfold nestedJournal at hfind
    rw [Journal.find?_put] at hfind
    split at hfind
    · exact Or.inr (Option.some.inj hfind).symm
    · rw [Journal.find?_put] at hfind
      split at hfind
      · exact Or.inl (Option.some.inj hfind).symm
      · cases hfind
  refine ⟨?_, ?_⟩
  · intro a ha b hb _ _ path hapath hbpath
    rcases hmem a ha with rfl | rfl
    · rcases hmem b hb with rfl | rfl
      · rfl
      · cases hapath
        exact absurd hbpath (by decide)
    · rcases hmem b hb with rfl | rfl
      · cases hapath
        exact absurd hbpath (by decide)
      · rfl
  · intro a ha b hb _ _ _ _ _ _ _
    refine Or.inl ?_
    rcases hmem a ha with rfl | rfl
    · rcases hmem b hb with rfl | rfl <;> rfl
    · rcases hmem b hb with rfl | rfl <;> rfl

/-- The outer directory takes the inner one with it. -/
theorem outer_takes_inner : ∃ items receipt u,
    (reclaim (Disk.os (.refusing (fun _ => false))) someLease ⟨"attempt-1", none, none⟩).run
      ⟨nestedJournal, ⟨nestedTree, ()⟩⟩ = (.ok (items, receipt), u) ∧
    IsReclaimed u.journal innerRecord ∧
    ∀ other ∈ items, other.resourceId = "inner" → other.disposition = .reclaimed := by
  rcases exists_of_toOption_map nestedOutcome_removed with ⟨⟨items, receipt⟩, u, hrun, hitems⟩
  have houter : ("outer", Disposition.reclaimed) ∈
      items.map (fun item => (item.resourceId, item.disposition)) := by
    simp only at hitems
    rw [hitems]
    simp
  rcases List.mem_map.mp houter with ⟨item, hitem, heq⟩
  have hinnerMem : innerRecord ∈ nestedJournal.records :=
    (Journal.mem_of_find? (Journal.find?_put_self _ _ innerRecord_valid)).1
  have houterFind : nestedJournal.find? "outer" = some outerRecord :=
    (Journal.find?_put_of_ne _ innerRecord innerRecord_valid (by decide)).trans
      (Journal.find?_put_self _ _ outerRecord_valid)
  have houterMem := (Journal.mem_of_find? houterFind).1
  exact ⟨items, receipt, u, hrun, reclaimed_with_all_below _ _ _ hrun nestedJournal_layout
    houterMem hinnerMem (by decide) (by decide) rfl rfl (by decide) (by decide) hitem
    (congrArg Prod.fst heq) (congrArg Prod.snd heq)⟩

end MirrorGate
