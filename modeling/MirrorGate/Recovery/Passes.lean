import MirrorGate.Recovery.Coverage
import MirrorGate.Recovery.Directories

/-!
# The Three Passes

The guarantees of the single parts are put together to what a whole recovery
does. Every record is visited once and found as it was listed, because each
visit touches its own record only. A visit either settles the record with a
report, and then protects it unless it is reclaimed, or plans its removal. A
plan is either blocked with a report or safe, and the safe plans are removed
in groups, each of which reports its root and, if the root was removed,
everything below it.

`reclaimRecords_ok` is the summary for a completed recovery, and
`reclaim_evolves` says what can have happened to the journal on any exit.

## Main definitions

* `Record.IsDirectory`, `Unworkable`: The classes of records a visit tells
  apart.
* `VisitReport`, `BlockReport`, `GroupReport`: What the passes report.
* `Surveyed`: What the first two passes leave.

## Theorems

* `visit_guarantees`, `blockPlan_guarantees`, `reclaimGroup_guarantees`: One
  step of each pass.
* `visits_guarantees`, `blockPlans_guarantees`, `reclaimGroups_guarantees`: A
  whole pass.
* `takeSurvey_guarantees`: The first two passes.
* `reclaimRecords_ok`: A completed recovery.
* `reclaim_evolves`: The journal after any exit.
-/

namespace MirrorGate

open Prog Record List Visit

variable {W Fd : Type}

/-! ### Visits -/

/-- The record of a directory. -/
def Record.IsDirectory (record : Record) : Prop :=
  record.kind = .filesystem ∨ record.kind = .retainedSource

instance (record : Record) : Decidable record.IsDirectory := inferInstanceAs (Decidable (_ ∨ _))

variable {record : Record}

theorem Record.IsDirectory.ne_process (h : record.IsDirectory) :
    record.kind ≠ .process := by
  rcases h with h | h <;> simp [h]

/-- A record no recovery works on: it belongs to somebody else, it is kept on
    purpose, or it was given up before. -/
def Unworkable (lease : Lease) (record : Record) : Prop :=
  ¬ recordBelongsToRoot lease record ∨
    (record.phase = .retainedByPolicy ∧ record.retainedRecoverable = false) ∨
    record.phase = .ambiguous

instance (lease : Lease) (record : Record) : Decidable (Unworkable lease record) :=
  inferInstanceAs (Decidable (_ ∨ _ ∨ _))

/-- The journal says that the resource is gone. -/
def IsReclaimed (journal : Journal) (record : Record) : Prop :=
  ∃ current, journal.find? record.resourceId = some current ∧ current.phase = .reclaimed

variable {j k : Journal} {Q : Journal → Record → Record → Prop}

theorem IsReclaimed.evolves (h : IsReclaimed j record) (hevolves : Evolves Q j k) :
    IsReclaimed k record := by
  rcases h with ⟨current, hcurrent, hphase⟩
  exact ⟨current, hevolves.terminal hcurrent (Or.inl hphase), hphase⟩

/-- The protection of a record that could not be settled as reclaimed.
    Directories protect by path. So do the records no recovery works on, even
    where the path is not one of the state root. -/
def Protects (lease : Lease) (record : Record) (protection : Option Protection) : Prop :=
  ∃ p, protection = some p ∧ SameClaim record p.record ∧
    p.path = if record.IsDirectory ∨ Unworkable lease record then recordPath record else none

/-- What may be planned. -/
structure Plannable (lease : Lease) (record : Record) : Prop where
  directory : record.IsDirectory
  workable : ¬ Unworkable lease record
  unsettled : ¬ record.phase.Terminal

instance (lease : Lease) (record : Record) : Decidable (Plannable lease record) :=
  decidable_of_iff (record.IsDirectory ∧ ¬ Unworkable lease record ∧ ¬ record.phase.Terminal)
    ⟨fun h => ⟨h.1, h.2.1, h.2.2⟩, fun h => ⟨h.directory, h.workable, h.unsettled⟩⟩

/-- What a visit reports. -/
inductive VisitReport (lease : Lease) (record : Record) (journal : Journal) : Visit → Prop where
  | settled {item : RecoveryItem} {observation : Option CgroupObservation}
    {protection : Option Protection} (hreport : Reports record item journal)
    (hguard : Protects lease record protection ∨
      IsReclaimed journal record ∧ (record.IsDirectory → item.disposition = .reclaimed))
    (hdirectory : record.IsDirectory → item.disposition = .reclaimed → record.phase = .reclaimed)
    (hobserved : ∀ o ∈ observation, o.resourceId = record.resourceId)
    (hquiet : record.kind = .cgroup → item.disposition = .reclaimed →
      ∃ o ∈ observation, record.schema = .v2 → o.counters.Quiet) :
    VisitReport lease record journal (.settled item observation protection)
  | planned {plan : Plan} (hrecord : plan.record = record) (hplan : Plannable lease record) :
    VisitReport lease record journal (.planned plan)

theorem VisitReport.evolves {lease : Lease} {v : Visit} (h : VisitReport lease record j v)
    (hevolves : Evolves Q j k) : VisitReport lease record k v := by
  cases h with
  | settled hreport hguard hdirectory hobserved hquiet =>
    refine .settled (hreport.evolves hevolves) ?_ hdirectory hobserved hquiet
    rcases hguard with hprotects | ⟨hreclaimed, hitem⟩
    · exact Or.inl hprotects
    · exact Or.inr ⟨hreclaimed.evolves hevolves, hitem⟩
  | planned hrecord hplan => exact .planned hrecord hplan

theorem classify_reclaimed :
    (classify record false).disposition = .reclaimed ↔ record.phase = .reclaimed := by
  unfold classify
  simp only [Bool.false_eq_true, false_and, if_false]
  by_cases hreclaimed : record.phase = .reclaimed
  · simp [hreclaimed, item]
  · rw [if_neg hreclaimed]
    simp only [hreclaimed, iff_false]
    split
    · simp [item]
    split
    · simp [item]
    split
    · simp [item]
    split
    · simp [item]
    · simp [item]

theorem classify_retained :
    (classify record false).disposition = .retained ↔
      record.phase = .retainedByPolicy ∧ record.retainedRecoverable = false := by
  unfold classify
  simp only [Bool.false_eq_true, false_and, if_false]
  by_cases hreclaimed : record.phase = .reclaimed
  · simp [hreclaimed, item]
  · rw [if_neg hreclaimed]
    by_cases hretained : record.phase = .retainedByPolicy ∧ record.retainedRecoverable = false
    · rw [if_pos hretained]
      simp [hretained, item]
    · rw [if_neg hretained]
      simp only [hretained, iff_false]
      split
      · simp [item]
      split
      · simp [item]
      split
      · simp [item]
      · simp [item]

section VisitGuarantees

variable {os : Os W Fd} {lease : Lease} {attemptId : String} {ids : List String} {record : Record}

theorem visitAmbiguous_guarantees {reason : String} {path : Option RelativePath}
    (hid : record.resourceId ∈ ids) (hreason : IsReceiptId reason)
    (hpath : path = if record.IsDirectory ∨ Unworkable lease record then recordPath record
      else none) :
    Guarantees (fun s => Tracks s.journal record) (Recovers os.sha256 lease ids)
      (visitAmbiguous os attemptId record reason path)
      (fun v s => VisitReport lease record s.journal v) := by
  unfold visitAmbiguous
  refine guarantees_bind (fun s t hs ht => hs.evolves ht)
    (markAmbiguous_guarantees (.refl record) hid hreason) (fun item => ?_)
  refine guarantees_pure _ (fun s hs => ?_)
  have hne : item.disposition ≠ .reclaimed := by
    rw [hs.2.2]
    decide
  refine .settled hs.2.1 (Or.inl ⟨⟨path, record⟩, rfl, .refl record, hpath⟩) ?_ (by simp) ?_
  · exact fun _ hreclaimed => absurd hreclaimed hne
  · exact fun _ hreclaimed => absurd hreclaimed hne

theorem protectSession_guarantees {item : RecoveryItem} :
    Guarantees (fun s => Tracks s.journal record ∧ Reports record item s.journal)
      (Recovers os.sha256 lease ids) (protectSession os record item)
      (fun protection s => Reports record item s.journal ∧
        ((∃ current, protection = some ⟨none, current⟩ ∧ SameClaim record current) ∨
          IsReclaimed s.journal record)) := by
  unfold protectSession
  split
  · next hreclaimed =>
    exact guarantees_pure _ (fun s hs => ⟨hs.2, Or.inr (hs.2.settled hreclaimed)⟩)
  · refine guarantees_bind (fun s t hs ht => ⟨hs.1.evolves ht, hs.2.evolves ht⟩)
      (read_guarantees (fun s hs => hs.1)) (fun current => ?_)
    exact guarantees_pure _ (fun s hs => ⟨hs.1.2, Or.inl ⟨current, rfl, hs.2.2.1⟩⟩)

/-- A process or cgroup in the hands of its recovery protects its session. -/
theorem protects_session {current : Record} (hkind : ¬ record.IsDirectory)
    (hworkable : ¬ Unworkable lease record) (hsame : SameClaim record current) :
    Protects lease record (some ⟨none, current⟩) := by
  refine ⟨⟨none, current⟩, rfl, hsame, ?_⟩
  rw [if_neg (by simp [hkind, hworkable])]

theorem visitProcess_guarantees (hkind : record.kind = .process)
    (hworkable : ¬ Unworkable lease record) (hid : record.resourceId ∈ ids) :
    Guarantees (fun s => s.journal.find? record.resourceId = some record)
      (Recovers os.sha256 lease ids) (visitProcess os lease attemptId record)
      (fun v s => VisitReport lease record s.journal v) := by
  have hdirectory : ¬ record.IsDirectory := by simp [Record.IsDirectory, hkind]
  have hafter : ∀ s t : Machine W, s.journal.find? record.resourceId = some record →
      Recovers os.sha256 lease ids s t → Tracks t.journal record :=
    fun s t hs ht => (Tracks.of_find? hs).evolves ht
  unfold visitProcess
  split
  · next hv2 =>
    refine guarantees_bind_of hafter (reclaimGroupProcess_guarantees hkind hv2 hid)
      (fun item => ?_)
    refine guarantees_bind (fun s t hs ht => ⟨hs.1.evolves ht, hs.2.evolves ht⟩)
      protectSession_guarantees (fun protection => ?_)
    refine guarantees_pure _ (fun s hs => ?_)
    refine .settled hs.2.1 ?_ (fun h => absurd h hdirectory) (by simp) (by simp [hkind])
    rcases hs.2.2 with ⟨current, rfl, hsame⟩ | hreclaimed
    · exact Or.inl (protects_session hdirectory hworkable hsame)
    · exact Or.inr ⟨hreclaimed, fun h => absurd h hdirectory⟩
  · exact (visitAmbiguous_guarantees hid (by decide)
      (by rw [if_neg (by simp [hdirectory, hworkable])])).pre (fun _ hs => .of_find? hs)

variable {delegation : Option Fd}

theorem visitCgroup_guarantees (hkind : record.kind = .cgroup)
    (hvalid : record.Valid) (hworkable : ¬ Unworkable lease record)
    (hid : record.resourceId ∈ ids) :
    Guarantees (fun s => Tracks s.journal record) (Recovers os.sha256 lease ids)
      (visitCgroup os lease attemptId delegation record)
      (fun v s => VisitReport lease record s.journal v) := by
  have hdirectory : ¬ record.IsDirectory := by simp [Record.IsDirectory, hkind]
  have hstable : ∀ s t : Machine W, Tracks s.journal record →
      Recovers os.sha256 lease ids s t → Tracks t.journal record := fun s t hs ht => hs.evolves ht
  unfold visitCgroup
  split
  · next fd =>
    refine guarantees_bind hstable ((reclaimCgroup_guarantees hkind hvalid hid).pre
      (fun s hs => ⟨hs, by simp [hkind]⟩)) (fun outcome => ?_)
    -- The quiet counters are a fact about the outcome, not about the journal.
    intro s hs
    refine (guarantees_bind_of (P := fun t : Machine W => Tracks t.journal record ∧
        Reports record outcome.1 t.journal) (T := fun _ => True) (fun _ _ _ _ => trivial)
      protectSession_guarantees (fun protection => ?_)) s ⟨hs.1, hs.2.1⟩
    refine guarantees_pure _ (fun t ht => ?_)
    refine .settled ht.2.1 ?_ (fun h => absurd h hdirectory) ?_ ?_
    · rcases ht.2.2 with ⟨current, rfl, hsame⟩ | hreclaimed
      · exact Or.inl (protects_session hdirectory hworkable hsame)
      · exact Or.inr ⟨hreclaimed, fun h => absurd h hdirectory⟩
    · intro o ho
      cases ho
      exact hs.2.2.1
    · exact fun _ hreclaimed => ⟨outcome.2, rfl, hs.2.2.2 hreclaimed⟩
  · split
    · refine guarantees_pure _ (fun s hs => ?_)
      refine .settled (reports_of_reason (.refl record) (by decide) (by decide) (by decide))
        (Or.inl (protects_session hdirectory hworkable (.refl record)))
        (fun h => absurd h hdirectory) (by simp) ?_
      intro _ hreclaimed
      cases hreclaimed
    · exact visitAmbiguous_guarantees hid (by decide)
        (by rw [if_neg (by simp [hdirectory, hworkable])])

theorem visitFilesystem_guarantees (hplan : Plannable lease record)
    (hid : record.resourceId ∈ ids) :
    Guarantees (fun s => Tracks s.journal record) (Recovers os.sha256 lease ids)
      (visitFilesystem os attemptId record)
      (fun v s => VisitReport lease record s.journal v) := by
  have hpath : recordPath record =
      if record.IsDirectory ∨ Unworkable lease record then recordPath record else none := by
    rw [if_pos (Or.inl hplan.directory)]
  unfold visitFilesystem
  split
  · next identity hidentity =>
    refine guarantees_bind (fun s t hs ht => hs.evolves ht) validateFilesystem_guarantees
      (fun checked => ?_)
    rcases checked with reason | located
    · intro s hs
      exact visitAmbiguous_guarantees hid (hs.2 reason rfl) hpath s hs.1
    · exact guarantees_pure _ (fun s hs => .planned rfl hplan)
  · exact visitAmbiguous_guarantees hid (by decide) hpath

/-- The visit of a record that is reclaimed already. -/
theorem visitReclaimed_report {journal : Journal} (hvalid : record.Valid)
    (hphase : record.phase = .reclaimed)
    (hfind : journal.find? record.resourceId = some record) :
    VisitReport lease record journal (visitReclaimed record) := by
  have hclassify : classify record false = record.item .reclaimed none := by
    simp [classify, hphase]
  have hreport : Reports record (classify record false) journal := by
    rw [hclassify]
    exact reports_reclaimed (.refl record) hfind hphase
  have hreclaimed : IsReclaimed journal record := ⟨record, hfind, hphase⟩
  unfold visitReclaimed
  split
  · next hkind =>
    have hdirectory : ¬ record.IsDirectory := by simp [Record.IsDirectory, hkind]
    split
    · next evidence hevidence =>
      refine .settled hreport (Or.inr ⟨hreclaimed, fun h => absurd h hdirectory⟩)
        (fun _ _ => hphase) ?_ ?_
      · intro o ho
        cases ho
        rfl
      · intro _ _
        exact ⟨_, rfl, fun _ => hvalid.quiet hevidence⟩
    · refine .settled (reports_of_reason (.refl record) (by decide) (by decide) (by decide))
        (Or.inr ⟨hreclaimed, fun h => absurd h hdirectory⟩) (fun _ _ => hphase) (by simp) ?_
      intro _ h
      cases h
  · next hkind =>
    refine .settled hreport (Or.inr ⟨hreclaimed, fun _ => ?_⟩) (fun _ _ => hphase) (by simp)
      (fun h => absurd h hkind)
    rw [hclassify]
    rfl

/-- The visit of a record that is kept or was given up. -/
theorem visitUnworkable_report {journal : Journal} (hnot : record.phase ≠ .reclaimed)
    (h : (record.phase = .retainedByPolicy ∧ record.retainedRecoverable = false) ∨
      record.phase = .ambiguous) :
    VisitReport lease record journal
      (.settled (classify record false) none (some ⟨recordPath record, record⟩)) := by
  have hunworkable : Unworkable lease record := Or.inr h
  have hne : (classify record false).disposition ≠ .reclaimed :=
    fun hr => hnot (classify_reclaimed.mp hr)
  have hreport : Reports record (classify record false) journal := by
    rcases h with hretained | hambiguous
    · have : classify record false = record.item .retained (some "retained_by_policy") := by
        simp [classify, hretained]
      rw [this]
      exact reports_of_reason (.refl record) (by decide) (by decide) (by decide)
    · have : classify record false = record.item .ambiguous (some "ownership_ambiguous") := by
        simp [classify, hambiguous]
      rw [this]
      exact reports_of_reason (.refl record) (by decide) (by decide) (by decide)
  refine .settled hreport (Or.inl ⟨⟨recordPath record, record⟩, rfl, .refl record, ?_⟩) ?_ (by simp)
    ?_
  · rw [if_pos (Or.inr hunworkable)]
  · exact fun _ hr => absurd hr hne
  · exact fun _ hr => absurd hr hne

/-- One visit. The record is in the journal as it was listed. -/
theorem visit_guarantees (hvalid : record.Valid)
    (hid : record.resourceId ∈ ids) :
    Guarantees (fun s => s.journal.find? record.resourceId = some record)
      (Recovers os.sha256 lease ids) (visit os lease attemptId delegation record)
      (fun v s => VisitReport lease record s.journal v) := by
  unfold visit
  split
  · next hforeign =>
    have hunworkable : Unworkable lease record := Or.inl hforeign
    exact (visitAmbiguous_guarantees hid (by decide)
      (by rw [if_pos (Or.inr hunworkable)])).pre (fun _ hs => .of_find? hs)
  next howned =>
  split
  · next hreclaimed =>
    exact guarantees_pure _ (fun s hs =>
      visitReclaimed_report hvalid (classify_reclaimed.mp hreclaimed) hs)
  next hopen =>
  have hnot : record.phase ≠ .reclaimed := fun h => hopen (classify_reclaimed.mpr h)
  split
  · next hkept =>
    refine guarantees_pure _ (fun s _ => visitUnworkable_report hnot ?_)
    rw [classify_retained] at hkept
    exact hkept
  next hwork =>
  rw [classify_retained] at hwork
  have hworkable : ¬ Unworkable lease record := by
    rintro (hforeign | hkept)
    · exact howned hforeign
    · exact hwork hkept
  have hdirectory : record.IsDirectory → Plannable lease record := by
    intro h
    refine ⟨h, hworkable, ?_⟩
    rintro (hr | ha)
    · exact hnot hr
    · exact hwork (Or.inr ha)
  split
  · next hkind => exact visitProcess_guarantees hkind hworkable hid
  · next hkind =>
    exact (visitCgroup_guarantees hkind hvalid hworkable hid).pre (fun _ hs => .of_find? hs)
  · next hkind =>
    exact (visitFilesystem_guarantees (hdirectory (Or.inl hkind)) hid).pre
      (fun _ hs => .of_find? hs)
  · next hkind =>
    exact (visitFilesystem_guarantees (hdirectory (Or.inr hkind)) hid).pre
      (fun _ hs => .of_find? hs)

/-- A visit that plans a removal leaves the journal alone. -/
theorem visit_planned {plan : Plan} {s t : Machine W}
    (h : (visit os lease attemptId delegation record).run s = (.ok (.planned plan), t)) :
    t.journal = s.journal := by
  have hambiguous : ∀ {reason : String} {path : Option RelativePath} {u : Machine W},
      (visitAmbiguous os attemptId record reason path).run u ≠ (.ok (.planned plan), t) := by
    intro reason path u hrun
    rcases bind_eq_ok_iff.mp hrun with ⟨item, v, -, hrun⟩
    cases (pure_eq_ok_iff.mp hrun).1
  unfold visit at h
  split at h
  · exact absurd h hambiguous
  split at h
  · rcases pure_eq_ok_iff.mp h with ⟨-, rfl⟩
    rfl
  split at h
  · rcases pure_eq_ok_iff.mp h with ⟨-, rfl⟩
    rfl
  split at h
  · -- A process is never planned.
    unfold visitProcess at h
    split at h
    · rcases bind_eq_ok_iff.mp h with ⟨item, u, -, h⟩
      rcases bind_eq_ok_iff.mp h with ⟨protection, v, -, h⟩
      cases (pure_eq_ok_iff.mp h).1
    · exact absurd h hambiguous
  · unfold visitCgroup at h
    split at h
    · rcases bind_eq_ok_iff.mp h with ⟨outcome, u, -, h⟩
      rcases bind_eq_ok_iff.mp h with ⟨protection, v, -, h⟩
      cases (pure_eq_ok_iff.mp h).1
    split at h
    · rcases pure_eq_ok_iff.mp h with ⟨-, rfl⟩
      rfl
    · exact absurd h hambiguous
  all_goals
    unfold visitFilesystem at h
    split at h
    · rcases bind_eq_ok_iff.mp h with ⟨checked, u, hchecked, h⟩
      have hu : u.journal = s.journal := (validateFilesystem_moves (looks_same os) _ _).of_run hchecked
      rcases checked with reason | located
      · exact absurd h hambiguous
      · rcases pure_eq_ok_iff.mp h with ⟨-, rfl⟩
        exact hu
    · exact absurd h hambiguous

/-- The first pass. No visit disturbs a record that is still to come, or one
    that was planned. -/
theorem visits_guarantees (os : Os W Fd) (lease : Lease) (attemptId : String)
    (delegation : Option Fd) (records : List Record)
    (hnodup : (records.map Record.resourceId).Nodup) {s : Machine W}
    (hheld : ∀ record ∈ records, s.journal.find? record.resourceId = some record) :
    Recovers os.sha256 lease (records.map Record.resourceId) s
        ((Prog.mapList (visit os lease attemptId delegation) records).run s).2 ∧
      ∀ visits t, (Prog.mapList (visit os lease attemptId delegation) records).run s =
          (.ok visits, t) →
        List.Forall₂ (fun record v => VisitReport lease record t.journal v ∧
          ∀ plan, v = .planned plan → t.journal.find? record.resourceId = some record)
          records visits := by
  induction records generalizing s with
  | nil =>
    refine ⟨Std.Refl.refl s, fun visits t h => ?_⟩
    rcases pure_eq_ok_iff.mp h with ⟨rfl, rfl⟩
    exact .nil
  | cons record records ih =>
    rw [map_cons, nodup_cons] at hnodup
    have hhead := hheld record (by simp)
    have hvisit : Guarantees
        (fun s : Machine W => s.journal.find? record.resourceId = some record)
        (Recovers os.sha256 lease [record.resourceId])
        (visit os lease attemptId delegation record)
        (fun v s => VisitReport lease record s.journal v) :=
      visit_guarantees (Journal.valid_of_find? hhead) (mem_singleton.mpr rfl)
    have hwide : ∀ id ∈ [record.resourceId],
        id ∈ (record :: records).map resourceId := by simp
    unfold Prog.mapList
    rcases hrun : (visit os lease attemptId delegation record).run s with ⟨e | v, t⟩
    · rw [bind_run_error hrun]
      exact ⟨(hvisit.moves hhead hrun).widen hwide, fun visits u h => by simp at h⟩
    · have hst := hvisit.moves hhead hrun
      have hreport := hvisit.returns hhead hrun
      have hrest : ∀ r ∈ records, t.journal.find? r.resourceId = some r := by
        intro r hr
        rw [hst.frame (by
          rw [mem_singleton]
          intro heq
          exact hnodup.1 (heq ▸ mem_map_of_mem hr))]
        exact hheld r (by simp [hr])
      rcases ih hnodup.2 hrest with ⟨hmoves, hreturns⟩
      rw [bind_run_ok hrun]
      have hmoves' : Recovers os.sha256 lease ((record :: records).map resourceId) t _ :=
        hmoves.widen (fun id hid => by simp [hid])
      rcases hmap : (Prog.mapList (visit os lease attemptId delegation) records).run t with
        ⟨e | vs, u⟩
      · rw [hmap] at hmoves'
        rw [bind_run_error hmap]
        exact ⟨IsTrans.trans _ _ _ (hst.widen hwide) hmoves', fun visits u h => by simp at h⟩
      · rw [hmap] at hmoves'
        rw [bind_run_ok hmap]
        refine ⟨IsTrans.trans _ _ _ (hst.widen hwide) hmoves', fun visits w h => ?_⟩
        rcases pure_eq_ok_iff.mp h with ⟨rfl, rfl⟩
        refine .cons ⟨hreport.evolves hmoves', fun plan hplan => ?_⟩ (hreturns vs u hmap)
        rw [hmap] at hmoves
        rw [hmoves.frame hnodup.1]
        rw [hplan] at hrun
        rw [visit_planned hrun]
        exact hhead

end VisitGuarantees

/-! ### Protected plans -/

/-- What blocking a plan reports: nothing for a safe plan, and a report that
    is no success for a protected one. -/
def BlockReport (protections : List Protection) (plan : Plan) (outcome : Option RecoveryItem)
    (journal : Journal) : Prop :=
  (outcome = none ↔ blockers protections plan = []) ∧
    ∀ item ∈ outcome, Reports plan.record item journal ∧ item.disposition ≠ .reclaimed

theorem BlockReport.evolves {protections : List Protection} {plan : Plan}
    {outcome : Option RecoveryItem}
    (h : BlockReport protections plan outcome j) (hevolves : Evolves Q j k) :
    BlockReport protections plan outcome k :=
  ⟨h.1, fun item hitem => ⟨(h.2 item hitem).1.evolves hevolves, (h.2 item hitem).2⟩⟩

section BlockGuarantees

variable {io : JournalIo W} {sha256 : List Char → Hex64} {lease : Lease} {attemptId : String}
  {ids : List String}

theorem blockPlan_guarantees {protections : List Protection} {plan : Plan}
    (hid : plan.resourceId ∈ ids) :
    Guarantees (TracksOther plan.record) (Recovers sha256 lease ids)
      (blockPlan io attemptId protections plan)
      (fun outcome s => BlockReport protections plan outcome s.journal) := by
  unfold blockPlan
  split
  · next hnone =>
    exact guarantees_pure _ (fun s _ => ⟨by simp [hnone], by simp⟩)
  next hblocked =>
  have hsome : ∀ item : RecoveryItem, (some item = none ↔ blockers protections plan = []) := by
    intro item
    simp [hblocked]
  split
  · refine guarantees_bind tracksOther_stable
      (beginCleanup_guarantees (fun s hs => hs.maySettle _) tracksOther_stable hid) (fun _ => ?_)
    refine Guarantees.pre (P := TracksOther plan.record) ?_ (fun _ hs => hs.1)
    refine guarantees_bind tracksOther_stable
      (finishCleanup_guarantees (fun s hs => hs.maySettle _) tracksOther_stable hid)
      (fun failed => ?_)
    refine guarantees_pure _ (fun s _ => ⟨hsome _, fun item hitem => ?_⟩)
    cases hitem
    exact ⟨reports_of_reason (.refl _) (by decide) (by decide) (by decide), by simp [item]⟩
  · refine guarantees_bind tracksOther_stable
      ((markAmbiguous_guarantees (.refl _) hid (by decide)).pre (fun _ hs => hs.1)) (fun item => ?_)
    refine guarantees_pure _ (fun s hs => ⟨hsome _, fun found hfound => ?_⟩)
    cases hfound
    refine ⟨hs.2.1, ?_⟩
    rw [hs.2.2]
    decide

end BlockGuarantees

/-! ### Groups -/

/-- What removing a group reports: its root, and with a reclaimed root
    everything below it as reclaimed too. -/
def GroupReport (group : PlanGroup) (items : List RecoveryItem) (journal : Journal) : Prop :=
  ∃ item rest, items = item :: rest ∧ Reports group.1.record item journal ∧
    (item.disposition = .reclaimed →
      List.Forall₂ (fun plan i => Reports plan.record i journal ∧ i.disposition = .reclaimed)
        group.2 rest) ∧
    (item.disposition ≠ .reclaimed → rest = [])

theorem GroupReport.evolves {group : PlanGroup} {items : List RecoveryItem} (h : GroupReport group items j)
    (hevolves : Evolves Q j k) : GroupReport group items k := by
  rcases h with ⟨item, rest, hitems, hreport, hsuccess, hfailure⟩
  refine ⟨item, rest, hitems, hreport.evolves hevolves, fun hreclaimed => ?_, hfailure⟩
  exact (hsuccess hreclaimed).imp (fun _ _ hi => ⟨hi.1.evolves hevolves, hi.2⟩)

section GroupGuarantees

variable {os : Os W Fd} {sha256 : List Char → Hex64} {lease : Lease} {attemptId : String}
  {ids : List String}

theorem prepareDescendant_guarantees {root descendant : Plan}
    (hid : descendant.resourceId ∈ ids) :
    Guarantees (TracksOther descendant.record) (Recovers sha256 lease ids)
      (prepareDescendant os root descendant)
      (fun current _ => SameClaim descendant.record current) := by
  unfold prepareDescendant
  split
  · exact (transition_other_guarantees ⟨rfl, rfl⟩ hid).post (fun _ _ h => h.2.1)
  split
  · exact (setCleanupTarget_guarantees hid).post (fun _ _ h => h.2.1)
  · exact guarantees_pure _ (fun _ _ => .refl _)

theorem settleDescendant_guarantees {record current : Record} (hsame : SameClaim record current)
    (hid : record.resourceId ∈ ids) :
    Guarantees (TracksOther record) (Recovers sha256 lease ids)
      (settleDescendant os attemptId current)
      (fun item s => Reports record item s.journal ∧ item.disposition = .reclaimed) := by
  unfold settleDescendant
  rw [hsame.resourceId]
  refine guarantees_bind tracksOther_stable (transition_other_guarantees ⟨rfl, rfl⟩ hid)
    (fun terminal => ?_)
  exact guarantees_pure _ (fun s hs =>
    ⟨reports_reclaimed hs.2.2.1 hs.2.1 hs.2.2.2, rfl⟩)

/-- Settling what went with its group, one directory at a time. -/
theorem settleDescendants_guarantees {plans : List Plan} {prepared : List Record}
    (hprepared : List.Forall₂ (fun plan current => SameClaim plan.record current) plans prepared)
    (hids : ∀ plan ∈ plans, plan.resourceId ∈ ids) :
    Guarantees (fun s => ∀ plan ∈ plans, TracksOther plan.record s)
      (Recovers sha256 lease ids) (Prog.mapList (settleDescendant os attemptId) prepared)
      (fun items s => List.Forall₂
        (fun plan i => Reports plan.record i s.journal ∧ i.disposition = .reclaimed)
        plans items) := by
  induction hprepared with
  | nil => exact guarantees_pure _ (fun _ _ => .nil)
  | @cons plan current plans prepared hsame _ ih =>
    have hrest := ih (fun p hp => hids p (by simp [hp]))
    unfold Prog.mapList
    refine guarantees_bind_of
      (T := fun s : Machine W => ∀ p ∈ plans, TracksOther p.record s)
      (fun s t hs ht p hp => tracksOther_stable s t (hs p (by simp [hp])) ht)
      ((settleDescendant_guarantees hsame (hids plan (by simp))).pre
        (fun s hs => hs plan (by simp))) (fun item => ?_)
    -- The report of the first directory survives the others.
    refine guarantees_bind_of
      (T := fun s : Machine W => Reports plan.record item s.journal ∧
        item.disposition = .reclaimed)
      (fun s t hs ht => ⟨hs.2.1.evolves ht, hs.2.2⟩) (hrest.pre (fun s hs => hs.1))
      (fun items => ?_)
    exact guarantees_pure _ (fun s hs => .cons hs.1 hs.2)

/-- One group. -/
theorem reclaimGroup_guarantees {group : PlanGroup}
    (hids : ∀ plan ∈ group.1 :: group.2, plan.resourceId ∈ ids) :
    Guarantees (fun s => ∀ plan ∈ group.1 :: group.2, TracksOther plan.record s)
      (Recovers sha256 lease ids) (reclaimGroup os attemptId group)
      (fun items s => GroupReport group items s.journal) := by
  have hstable : ∀ s t : Machine W, (∀ plan ∈ group.1 :: group.2, TracksOther plan.record s) →
      Recovers sha256 lease ids s t → ∀ plan ∈ group.1 :: group.2, TracksOther plan.record t :=
    fun s t hs ht plan hplan => tracksOther_stable s t (hs plan hplan) ht
  have hroot : group.1.resourceId ∈ ids := hids group.1 (by simp)
  unfold reclaimGroup
  split
  · refine guarantees_bind hstable ((markAmbiguous_guarantees (.refl _) hroot (by decide)).pre
      (fun s hs => (hs group.1 (by simp)).1)) (fun item => ?_)
    refine guarantees_pure _ (fun s hs => ⟨item, [], rfl, hs.2.1, fun hr => ?_, fun _ => rfl⟩)
    rw [hs.2.2] at hr
    cases hr
  · refine guarantees_bind hstable
      (Q := fun prepared _ => List.Forall₂ (fun plan current => SameClaim plan.record current)
        group.2 prepared) ?_ (fun prepared => ?_)
    · refine guarantees_mapList group.2 hstable (fun _ _ _ _ h _ => h)
        (fun plan hplan => ?_)
      exact (prepareDescendant_guarantees (hids plan (by simp [hplan]))).pre
        (fun s hs => hs plan (by simp [hplan]))
    intro s hs
    rcases hs with ⟨htracks, hprepared⟩
    refine guarantees_bind hstable
      (Q := fun item t => Reports group.1.record item t.journal)
      ((reclaimFilesystem_guarantees hroot).pre (fun s hs => hs group.1 (by simp)))
      (fun item => ?_) s htracks
    split
    · next hreclaimed =>
      refine guarantees_bind_of
        (T := fun t : Machine W => Reports group.1.record item t.journal)
        (fun s t hs ht => hs.2.evolves ht)
        ((settleDescendants_guarantees hprepared (fun plan hplan => hids plan (by simp [hplan]))).pre
          (fun s hs plan hplan => hs.1 plan (by simp [hplan]))) (fun items => ?_)
      exact guarantees_pure _ (fun t ht =>
        ⟨item, items, rfl, ht.1, fun _ => ht.2, fun hne => absurd hreclaimed hne⟩)
    · next hfailed =>
      exact guarantees_pure _ (fun t ht =>
        ⟨item, [], rfl, ht.2, fun hr => absurd hr hfailed, fun _ => rfl⟩)

end GroupGuarantees

/-! ### A whole recovery -/

/-- Records were taken out of the journal, and nothing else happened to it. -/
def Withdraws (s t : Machine W) : Prop :=
  ∀ id record, t.journal.find? id = some record → s.journal.find? id = some record

instance : Std.Refl (Withdraws : Machine W → Machine W → Prop) := ⟨fun _ _ _ h => h⟩

instance : IsTrans (Machine W) Withdraws := ⟨fun _ _ _ h1 h2 id record h => h1 id record (h2 id record h)⟩

theorem withdraws_same {α : Type} {m : Py W α} (h : Moves SameJournal m) :
    Moves Withdraws m := by
  intro s id record hrecord
  rw [h s] at hrecord
  exact hrecord

theorem quarantineInvalid_withdraws (io : JournalIo W) (invalid : List String) :
    Moves Withdraws (Journal.quarantineInvalid io invalid) := by
  refine moves_bind (moves_mapList invalid (fun name _ => ?_)) (fun _ => moves_pure _)
  refine moves_bind (moves_handle (withdraws_same (perform_same _)) ?_) (fun moved => ?_)
  · intro e k hk
    split at hk
    · cases hk
      exact moves_pure _
    · cases hk
  · split
    · exact fun s id record hrecord => Journal.find?_setAside hrecord
    · exact moves_pure _

section Recovery

variable {os : Os W Fd} {lease : Lease} {call : Call}

theorem takeSnapshot_withdraws : Moves Withdraws (takeSnapshot os) := by
  refine moves_bind (withdraws_same (perform_same _)) (fun _ => ?_)
  refine moves_bind (moves_gets _) (fun aside => ?_)
  refine moves_bind ?_ (fun _ => ?_)
  · split
    · exact moves_raise _
    · exact moves_pure _
  refine moves_bind (withdraws_same (Journal.inspect_same _)) (fun snapshot => ?_)
  refine moves_bind ?_ (fun _ => moves_pure _)
  split
  · exact moves_bind (quarantineInvalid_withdraws _ _) (fun _ => moves_raise _)
  · exact moves_pure _

variable {s t : Machine W}

/-- A completed listing is the whole journal, without invalid entries. -/
theorem takeSnapshot_ok {snapshot : Snapshot}
    (h : (takeSnapshot os).run s = (.ok snapshot, t)) :
    t.journal = s.journal ∧ snapshot.records.Perm s.journal.records ∧
      s.journal.invalid = [] ∧ (∀ record ∈ snapshot.records, record.Bounded os.sha256) ∧
      snapshot.records.length ≤ maxRecords := by
  unfold takeSnapshot at h
  rcases bind_eq_ok_iff.mp h with ⟨_, u1, hscan, h⟩
  have hu1 := (perform_eq_ok.mp hscan).2
  rcases bind_eq_ok_iff.mp h with ⟨aside, u2, haside, h⟩
  rcases gets_eq_ok_iff.mp haside with ⟨-, rfl⟩
  rcases bind_eq_ok_iff.mp h with ⟨_, u3, hcheck, h⟩
  split at hcheck
  · simp at hcheck
  rcases pure_eq_ok_iff.mp hcheck with ⟨-, rfl⟩
  rcases bind_eq_ok_iff.mp h with ⟨found, u4, hinspect, h⟩
  rcases Journal.inspect_ok hinspect with ⟨hu4, hfound⟩
  rcases bind_eq_ok_iff.mp h with ⟨_, u5, hvalid, h⟩
  rcases pure_eq_ok_iff.mp h with ⟨rfl, rfl⟩
  split at hvalid
  · -- With invalid entries the listing raises after moving them away.
    rcases bind_eq_ok_iff.mp hvalid with ⟨_, u6, -, hraise⟩
    simp at hraise
  next hclean =>
  rcases pure_eq_ok_iff.mp hvalid with ⟨-, rfl⟩
  rcases hfound (not_not.mp hclean) with ⟨hperm, hinvalid, hbounded, hlength⟩
  rw [hu1] at hperm hinvalid
  exact ⟨hu4.trans hu1, hperm, hinvalid, hbounded, hlength⟩

theorem openParentDelegation_same (parent : Option String) :
    Moves SameJournal (openParentDelegation os parent) := by
  unfold openParentDelegation
  split
  · exact moves_pure _
  · exact moves_bind ((looks_same os).openDelegation _) (fun _ => moves_pure _)

theorem visitOrder_perm (records : List Record) : (visitOrder records).Perm records := by
  have hperm := filter_append_perm (fun record : Record => decide (record.kind = .cgroup))
    records
  simpa [visitOrder] using hperm

variable {records : List Record} {visits : List Visit}

/-- The plans of the first pass are for distinct records, in order. -/
theorem plans_sublist {journal : Journal}
    (h : List.Forall₂ (fun record v => VisitReport lease record journal v) records visits) :
    ((visits.filterMap Visit.plan?).map Plan.record).Sublist records := by
  induction h with
  | nil => simp
  | @cons record v records visits hv _ ih =>
    cases hv with
    | settled => exact List.Sublist.cons _ ih
    | planned hrecord hplan =>
      rw [filterMap_cons, plan?, map_cons, hrecord]
      exact List.Sublist.cons_cons _ ih

theorem plannable_of_mem {journal : Journal}
    (h : List.Forall₂ (fun record v => VisitReport lease record journal v) records visits)
    {plan : Plan} (hplan : plan ∈ visits.filterMap Visit.plan?) : Plannable lease plan.record := by
  induction h with
  | nil => simp at hplan
  | cons hv _ ih =>
    cases hv with
    | settled => exact ih hplan
    | planned hrecord hwork =>
      rw [filterMap_cons, plan?, mem_cons] at hplan
      rcases hplan with rfl | hplan
      · rw [hrecord]
        exact hwork
      · exact ih hplan

/-- What was planned is in the journal as it was listed. -/
theorem held_of_planned {journal : Journal}
    (h : List.Forall₂ (fun record v => VisitReport lease record journal v ∧
      ∀ plan, v = .planned plan → journal.find? record.resourceId = some record) records visits)
    {plan : Plan} (hplan : plan ∈ visits.filterMap Visit.plan?) :
    journal.find? plan.resourceId = some plan.record := by
  induction h with
  | nil => simp at hplan
  | cons hv _ ih =>
    rcases hv with ⟨hreport, hkept⟩
    cases hreport with
    | settled => exact ih hplan
    | @planned p hrecord _ =>
      rw [filterMap_cons, plan?, mem_cons] at hplan
      rcases hplan with rfl | hplan
      · have hfound := hkept plan rfl
        rw [← hrecord] at hfound
        exact hfound
      · exact ih hplan

/-- What the first two passes leave: everything is listed, visited and
    reported, and what is safe is in the journal as it was listed. -/
structure Surveyed (sha256 : List Char → Hex64) (lease : Lease) (survey : Survey)
    (s t : Machine W) : Prop where
  records : survey.records.Perm s.journal.records
  clean : s.journal.invalid = []
  length : survey.records.length ≤ maxRecords
  recovers : Recovers sha256 lease (s.journal.records.map Record.resourceId) s t
  visits : List.Forall₂ (fun record v => VisitReport lease record t.journal v)
    (visitOrder survey.records) survey.visits
  blocked : List.Forall₂
    (fun plan outcome => BlockReport survey.protections plan outcome t.journal)
    survey.plans survey.blocked
  held : ∀ plan ∈ survey.safePlans, t.journal.find? plan.resourceId = some plan.record

/-- The second pass. Safe plans are not touched. -/
theorem blockPlans_guarantees (os : Os W Fd) (lease : Lease) (call : Call)
    (protections : List Protection) {plans : List Plan} {s : Machine W} (hheld : ∀ plan ∈ plans, s.journal.find? plan.resourceId = some plan.record)
    (hdirectory : ∀ plan ∈ plans, plan.record.IsDirectory) :
    Recovers os.sha256 lease
        ((plans.filter (fun plan => blockers protections plan ≠ [])).map Plan.resourceId) s
        ((Prog.mapList (blockPlan os.toJournalIo call.attemptId protections) plans).run s).2 ∧
      ∀ blocked t,
        (Prog.mapList (blockPlan os.toJournalIo call.attemptId protections) plans).run s =
          (.ok blocked, t) →
        List.Forall₂ (fun plan outcome => BlockReport protections plan outcome t.journal)
          plans blocked := by
  have hpass := guarantees_mapList
    (P := fun s : Machine W => ∀ plan ∈ plans, TracksOther plan.record s)
    (R := Recovers os.sha256 lease
      ((plans.filter (fun plan => blockers protections plan ≠ [])).map Plan.resourceId))
    (S := fun plan outcome s => BlockReport protections plan outcome s.journal)
    plans (fun s t hs ht plan hplan => tracksOther_stable s t (hs plan hplan) ht)
    (fun _ _ _ _ h ht => h.evolves ht) (f := blockPlan os.toJournalIo call.attemptId protections)
    (fun plan hplan => by
      by_cases hsafe : blockers protections plan = []
      · -- Nothing is published for a safe plan.
        unfold blockPlan
        rw [if_pos hsafe]
        exact guarantees_pure _ (fun s _ => ⟨by simp [hsafe], by simp⟩)
      · refine (blockPlan_guarantees ?_).pre (fun s hs => hs plan hplan)
        exact mem_map.mpr ⟨plan, by simp [hplan, hsafe], rfl⟩)
  exact hpass s (fun plan hplan =>
    ⟨.of_find? (hheld plan hplan), (hdirectory plan hplan).ne_process⟩)

/-- The first two passes, on every exit. -/
theorem takeSurvey_guarantees (os : Os W Fd) (lease : Lease) (call : Call) (s : Machine W) :
    (Withdraws s ((takeSurvey os lease call).run s).2 ∨
      Recovers os.sha256 lease (s.journal.records.map Record.resourceId) s
        ((takeSurvey os lease call).run s).2) ∧
      ∀ survey t, (takeSurvey os lease call).run s = (.ok survey, t) →
        Surveyed os.sha256 lease survey s t := by
  unfold takeSurvey
  rcases hopen : (openParentDelegation os call.cgroupParent).run s with ⟨e | delegation, s1⟩
  · have hs1 : s1.journal = s.journal := (openParentDelegation_same _).of_run hopen
    rw [bind_run_error hopen]
    exact ⟨Or.inr (.of_eq hs1), fun survey t h => by simp at h⟩
  have hs1 : s1.journal = s.journal := (openParentDelegation_same _).of_run hopen
  rw [bind_run_ok hopen]
  rcases hlist : (takeSnapshot os).run s1 with ⟨e | snapshot, s2⟩
  · have hs2 : Withdraws s1 s2 := takeSnapshot_withdraws.of_run hlist
    rw [bind_run_error hlist]
    refine ⟨Or.inl (fun id record h => ?_), fun survey t h => by simp at h⟩
    rw [← hs1]
    exact hs2 id record h
  rcases takeSnapshot_ok hlist with ⟨hs2, hperm, hinvalid, -, hlength⟩
  rw [hs1] at hs2 hperm hinvalid
  rw [bind_run_ok hlist]
  -- The records are visited as they stand in the journal.
  have horder := (visitOrder_perm snapshot.records).trans hperm
  have hnodup : ((visitOrder snapshot.records).map resourceId).Nodup :=
    (horder.map resourceId).nodup_iff.mpr s.journal.distinct
  have hheld : ∀ record ∈ visitOrder snapshot.records,
      s2.journal.find? record.resourceId = some record := by
    intro record hrecord
    rw [hs2]
    exact Journal.find?_of_mem (horder.mem_iff.mp hrecord)
  have hids : ∀ id ∈ (visitOrder snapshot.records).map resourceId,
      id ∈ s.journal.records.map resourceId :=
    fun id hid => (horder.map resourceId).mem_iff.mp hid
  have hfirst : Recovers os.sha256 lease (s.journal.records.map resourceId) s s2 :=
    .of_eq hs2
  rcases visits_guarantees os lease call.attemptId delegation (visitOrder snapshot.records) hnodup
    hheld with ⟨hmoves, hreturns⟩
  rcases hvisits : (Prog.mapList (visit os lease call.attemptId delegation)
    (visitOrder snapshot.records)).run s2 with ⟨e | visits, s3⟩
  · rw [hvisits] at hmoves
    rw [bind_run_error hvisits]
    exact ⟨Or.inr (IsTrans.trans _ _ _ hfirst (hmoves.widen hids)), fun survey t h => by simp at h⟩
  rw [hvisits] at hmoves
  rw [bind_run_ok hvisits]
  have hreports := hreturns visits s3 hvisits
  have hvisited : List.Forall₂ (fun record v => VisitReport lease record s3.journal v)
      (visitOrder snapshot.records) visits := hreports.imp (fun _ _ h => h.1)
  have hsub := plans_sublist hvisited
  have hplanNodup : ((visits.filterMap plan?).map Plan.resourceId).Nodup := by
    have : ((visits.filterMap plan?).map Plan.resourceId) =
        ((visits.filterMap plan?).map Plan.record).map resourceId := by
      rw [map_map]
      rfl
    rw [this]
    exact (hsub.map resourceId).nodup hnodup
  have hplanHeld : ∀ plan ∈ visits.filterMap plan?,
      s3.journal.find? plan.resourceId = some plan.record :=
    fun plan hplan => held_of_planned hreports hplan
  have hdirectory : ∀ plan ∈ visits.filterMap plan?, plan.record.IsDirectory :=
    fun plan hplan => (plannable_of_mem hvisited hplan).directory
  rcases blockPlans_guarantees os lease call (visits.filterMap protection?) hplanHeld
    hdirectory with ⟨hbmoves, hbreturns⟩
  have hsecond : Recovers os.sha256 lease (s.journal.records.map resourceId) s s3 :=
    IsTrans.trans _ _ _ hfirst (hmoves.widen hids)
  have hbids : ∀ id ∈ ((visits.filterMap plan?).filter
      (fun plan => blockers (visits.filterMap protection?) plan ≠ [])).map Plan.resourceId,
      id ∈ s.journal.records.map resourceId := by
    intro id hid
    rcases mem_map.mp hid with ⟨plan, hplan, rfl⟩
    have hmem := hsub.subset (mem_map_of_mem (mem_of_mem_filter hplan))
    exact hids _ (mem_map_of_mem hmem)
  rcases hblocked : (Prog.mapList (blockPlan os.toJournalIo call.attemptId
    (visits.filterMap protection?)) (visits.filterMap plan?)).run s3 with
    ⟨e | blocked, s4⟩
  · rw [hblocked] at hbmoves
    rw [bind_run_error hblocked]
    exact ⟨Or.inr (IsTrans.trans _ _ _ hsecond (hbmoves.widen hbids)),
      fun survey t h => by simp at h⟩
  rw [hblocked] at hbmoves
  rw [bind_run_ok hblocked]
  have hthird := IsTrans.trans _ _ _ hsecond (hbmoves.widen hbids)
  refine ⟨Or.inr hthird, fun survey t h => ?_⟩
  rcases pure_eq_ok_iff.mp h with ⟨rfl, rfl⟩
  refine ⟨hperm, hinvalid, hlength, hthird, ?_, hbreturns blocked s4 hblocked, ?_⟩
  · exact hvisited.imp (fun _ _ h => h.evolves hbmoves)
  · -- A safe plan is none of the blocked ones, since ids are distinct.
    intro plan hplan
    rcases mem_filter.mp hplan with ⟨hmem, hsafe⟩
    rw [hbmoves.frame]
    · exact hplanHeld plan hmem
    · intro hid
      rcases mem_map.mp hid with ⟨other, hother, heq⟩
      rcases mem_filter.mp hother with ⟨homem, hunsafe⟩
      rw [inj_on_of_nodup_map hplanNodup homem hmem heq] at hunsafe
      simp only [decide_eq_true_eq] at hsafe
      simp only [decide_eq_true_eq] at hunsafe
      exact hunsafe hsafe

variable {sha256 : List Char → Hex64} {survey : Survey}

theorem Surveyed.mem_records
    (h : Surveyed sha256 lease survey s t) {plan : Plan} (hplan : plan ∈ survey.plans) :
    plan.record ∈ s.journal.records :=
  ((visitOrder_perm survey.records).trans h.records).mem_iff.mp
    ((plans_sublist h.visits).subset (mem_map_of_mem hplan))

theorem Surveyed.plannable
    (h : Surveyed sha256 lease survey s t) {plan : Plan} (hplan : plan ∈ survey.plans) :
    Plannable lease plan.record :=
  plannable_of_mem h.visits hplan

theorem Survey.mem_plans_of_safe {plan : Plan}
    (h : plan ∈ survey.safePlans) : plan ∈ survey.plans :=
  mem_of_mem_filter h

/-- The members of the groups are the safe plans. -/
theorem Survey.members_groups (survey : Survey) :
    (Forest.members survey.groups).Perm survey.safePlans :=
  (Forest.members_group _ _).trans (perm_insertionSort _ _)

theorem Survey.mem_safePlans {group : PlanGroup} (hgroup : group ∈ survey.groups)
    {plan : Plan} (hplan : plan ∈ group.1 :: group.2) : plan ∈ survey.safePlans := by
  refine survey.members_groups.subset (Forest.mem_members hgroup ?_)
  exact mem_cons.mp hplan

/-- The third pass. -/
theorem reclaimGroups_guarantees (os : Os W Fd) (attemptId : String) (h : Surveyed sha256 lease survey s t) :
    Recovers sha256 lease (s.journal.records.map Record.resourceId) t
        ((Prog.mapList (reclaimGroup os attemptId) survey.groups).run t).2 ∧
      ∀ removed u, (Prog.mapList (reclaimGroup os attemptId) survey.groups).run t =
          (.ok removed, u) →
        List.Forall₂ (fun group items => GroupReport group items u.journal) survey.groups
          removed := by
  have hids : ∀ group ∈ survey.groups, ∀ plan ∈ group.1 :: group.2,
      plan.resourceId ∈ s.journal.records.map resourceId := by
    intro group hgroup plan hplan
    exact mem_map_of_mem
      (h.mem_records (Survey.mem_plans_of_safe (Survey.mem_safePlans hgroup hplan)))
  have hpass := guarantees_mapList
    (P := fun u : Machine W => ∀ group ∈ survey.groups, ∀ plan ∈ group.1 :: group.2,
      TracksOther plan.record u)
    (R := Recovers sha256 lease (s.journal.records.map resourceId))
    (S := fun group items u => GroupReport group items u.journal) survey.groups
    (fun u v hu huv group hgroup plan hplan =>
      tracksOther_stable u v (hu group hgroup plan hplan) huv)
    (fun _ _ _ _ hreport huv => hreport.evolves huv) (f := reclaimGroup os attemptId)
    (fun group hgroup => (reclaimGroup_guarantees (hids group hgroup)).pre
      (fun u hu => hu group hgroup))
  refine hpass t (fun group hgroup plan hplan => ?_)
  have hsafe := Survey.mem_safePlans hgroup hplan
  exact ⟨.of_find? (h.held plan hsafe),
    (h.plannable (Survey.mem_plans_of_safe hsafe)).directory.ne_process⟩

/-- A completed recovery: the first two passes led to some survey, and the
    groups of the survey were removed one after the other. -/
theorem reclaimRecords_ok {recovered : Recovered}
    (h : (reclaimRecords os lease call).run s = (.ok recovered, t)) :
    ∃ survey u removed, (takeSurvey os lease call).run s = (.ok survey, u) ∧
      (Prog.mapList (reclaimGroup os call.attemptId) survey.groups).run u = (.ok removed, t) ∧
      recovered = ⟨survey.records, survey.items ++ removed.flatten,
        survey.visits.filterMap Visit.observation?⟩ := by
  unfold reclaimRecords at h
  rcases bind_eq_ok_iff.mp h with ⟨survey, u, hsurvey, h⟩
  rcases bind_eq_ok_iff.mp h with ⟨removed, v, hremoved, h⟩
  rcases pure_eq_ok_iff.mp h with ⟨rfl, rfl⟩
  exact ⟨survey, u, removed, hsurvey, hremoved, rfl⟩

theorem surveyed_of_run
    (h : (takeSurvey os lease call).run s = (.ok survey, t)) :
    Surveyed os.sha256 lease survey s t :=
  (takeSurvey_guarantees os lease call s).2 survey t h

/-- After a completed survey, the rest of a recovery is publications. -/
theorem reclaim_after_survey
    (h : (takeSurvey os lease call).run s = (.ok survey, t)) :
    Recovers os.sha256 lease (s.journal.records.map Record.resourceId) t
      ((reclaim os lease call).run s).2 := by
  have hgroups := (reclaimGroups_guarantees os call.attemptId (surveyed_of_run h)).1
  have hrecords : Recovers os.sha256 lease (s.journal.records.map resourceId) t
      ((reclaimRecords os lease call).run s).2 := by
    unfold reclaimRecords
    rw [bind_run_ok h]
    exact leaves_bind (I := Recovers _ _ _ t) hgroups (fun _ _ _ hu => hu)
  -- The receipt is computed from the reports and does not touch the journal.
  exact leaves_bind (I := Recovers _ _ _ t) hrecords (fun recovered u _ hu =>
    leaves_bind (I := Recovers _ _ _ t) (m := Prog.ofExcept _) hu (fun _ _ _ hv => hv))

/-- If the survey raises, so does the recovery, and nothing else happens. -/
theorem reclaim_survey_error {e : Exn}
    (h : (takeSurvey os lease call).run s = (.error e, t)) :
    (reclaim os lease call).run s = (.error e, t) := by
  unfold reclaim reclaimRecords
  exact bind_run_error (bind_run_error h)

/-- The journal after any exit of a recovery: records were only taken out, or
    it evolved by publications of a recovery. -/
theorem reclaim_evolves (os : Os W Fd) (lease : Lease) (call : Call) (s : Machine W) :
    Withdraws s ((reclaim os lease call).run s).2 ∨
      Recovers os.sha256 lease (s.journal.records.map Record.resourceId) s
        ((reclaim os lease call).run s).2 := by
  have hsurvey := (takeSurvey_guarantees os lease call s).1
  rcases hrun : (takeSurvey os lease call).run s with ⟨e | survey, t⟩
  · rw [hrun] at hsurvey
    rw [reclaim_survey_error hrun]
    exact hsurvey
  · exact Or.inr (IsTrans.trans _ _ _ (surveyed_of_run hrun).recovers (reclaim_after_survey hrun))

end Recovery

end MirrorGate
