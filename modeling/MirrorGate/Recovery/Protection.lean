import MirrorGate.Recovery.CrashCut
import MirrorGate.Recovery.Evidence

/-!
# What an Unreclaimed Process Protects

A process or a cgroup that may still be alive can use the files of its
session, so a recovery must leave them alone. It does so by a protection for
the session, which blocks all plans of that session and of the controller.

There is one way around it. A cgroup that was given up before is protected by
its path, and the path of a cgroup is not one of the state root, so that
nothing is blocked. `Guarded` excludes this. The other condition, `Apart`, is
about the state root: the directories of a session are not inside those of
another one, under none of the names they have had.

Under the two conditions no call touches a place of a protected directory
(`calls_keep_session_files`). Without the first one a directory is removed
although its cgroup is still there (`removed_under_cgroup`).

## Main definitions

* `Record.places`, `Record.reach`: Where a directory may be, and where a
  recovery may put it.
* `KeepsSessionFiles`: What is promised about one call.
* `Guarded`, `Apart`: The conditions.

## Theorems

* `reclaim_keeps_session_files`: One call.
* `calls_keep_session_files`: Every sequence of calls.
-/

namespace MirrorGate

variable {E F : Type}

/-- A process or a cgroup. -/
def Record.IsHolder (record : Record) : Prop := record.kind = .process ∨ record.kind = .cgroup

instance (record : Record) : Decidable record.IsHolder := inferInstanceAs (Decidable (_ ∨ _))

/-- Where the directory of a record may be. -/
def Record.places (record : Record) : List (List String) :=
  ((recordPath record).toList ++ record.cleanupTarget.toList).map RelativePath.parts

/-- Where a recovery of the record may find or put its directory. -/
def Record.reach (record : Record) : List (List String) :=
  quarantinePath record.resourceId :: record.places

/-- If a process or cgroup of a session is not reclaimed after a call, then the
    call has changed nothing at the places of the session's directories, nor
    at those of the controller's. -/
def KeepsSessionFiles (before after : StateRoot) : Prop :=
  ∀ holder ∈ after.journal.records, holder.IsHolder → holder.phase ≠ .reclaimed →
    ∀ record ∈ before.journal.records, record.IsDirectory →
      (record.sessionId = holder.sessionId ∨ record.sessionId = controllerSession) →
      ∀ place ∈ record.places, after.tree.lookup place = before.tree.lookup place

/-- A process or cgroup that no recovery works on and that has a path has no
    directory next to it that a recovery would work on. -/
def Guarded (lease : Lease) (journal : Journal) : Prop :=
  ∀ holder ∈ journal.records, holder.IsHolder → holder.phase ≠ .reclaimed →
    Unworkable lease holder → recordPath holder ≠ none →
    ∀ record ∈ journal.records, Plannable lease record →
      record.sessionId ≠ holder.sessionId ∧ record.sessionId ≠ controllerSession

instance (lease : Lease) (journal : Journal) : Decidable (Guarded lease journal) :=
  inferInstanceAs (Decidable (∀ holder ∈ journal.records, _))

/-- Nothing of one session is inside a directory of another session, wherever
    the two may be or may be put. -/
def Apart (journal : Journal) : Prop :=
  ∀ a ∈ journal.records, ∀ b ∈ journal.records, a.IsDirectory → b.IsDirectory →
    a.sessionId ≠ b.sessionId → a.sessionId ≠ controllerSession →
    ∀ outer ∈ a.reach, ∀ place ∈ b.places, ¬ outer <+: place

instance (journal : Journal) : Decidable (Apart journal) :=
  inferInstanceAs (Decidable (∀ a ∈ journal.records, _))

section Call

variable {world : Surroundings E F} {lease : Lease} {call : Call} {s t : Machine (Disk E)}
  {survey : Survey}

theorem enterCleanup_sameTree (world : Surroundings E F) (record : Record) :
    Prog.Moves SameTree (enterCleanup (Disk.os world) record) := by
  unfold enterCleanup
  split
  · split
    · exact Prog.moves_bind (replace_sameTree world _ _) (fun _ => Prog.moves_pure _)
    · exact Prog.moves_pure _
  all_goals first
    | exact Prog.moves_bind (replace_sameTree world _ _) (fun _ => Prog.moves_pure _)
    | exact Prog.moves_pure _
    | skip
  split
  · exact Prog.moves_bind (replace_sameTree world _ _) (fun _ => Prog.moves_pure _)
  · exact Prog.moves_pure _

/-- What is not in reach of a directory withstands its recovery. -/
theorem lookup_withstands {plan : Plan} {path : List String}
    (hreach : ∀ outer ∈ plan.record.reach, ¬ outer <+: path) (node : Option Node) :
    Withstands world plan (fun u => u.world.tree.lookup path = node) := by
  have hquarantine : ¬ quarantinePath plan.resourceId <+: path :=
    hreach _ List.mem_cons_self
  have hplace : ∀ place ∈ plan.path :: plan.record.cleanupTarget.toList,
      ¬ place.parts <+: path := by
    intro place hmem
    refine hreach _ (List.mem_cons_of_mem _ (List.mem_map_of_mem ?_))
    rw [plan.recordPath_record]
    exact hmem
  refine ⟨?_, ?_, ?_, ?_⟩
  · intro u v hu huv
    have htree : v.world.tree = u.world.tree := huv.2
    rw [htree]
    exact hu
  · intro u v hu huv
    rw [huv.2.outside path hquarantine]
    exact hu
  · intro u hu _
    have htree := enterCleanup_sameTree world plan.record u
    unfold SameTree at htree
    rw [htree]
    exact hu
  · intro u located env hmove hu _ hdeparts
    rcases hdeparts with ⟨⟨current, hannounced, hlocated⟩, haway⟩
    -- The directory is at its path or at the target it had before.
    have hsource : ¬ located.parts <+: path := by
      rcases List.mem_cons.mp hlocated with rfl | hmem
      · exact hplace _ List.mem_cons_self
      · have htarget := Option.mem_toList.mp hmem
        rcases hannounced.target with ⟨-, heq⟩ | heq
        · rw [heq] at htarget
          exact hplace _ (List.mem_cons_of_mem _ (Option.mem_toList.mpr htarget))
        · rw [Option.mem_def.mp htarget, Option.map_some, Option.some.injEq] at heq
          exact absurd heq haway
    rw [FileTree.lookup_move_other _ hmove hsource hquarantine]
    exact hu

/-- What is not reclaimed after a call blocks the plans of its session and of
    the controller in that call. -/
theorem holder_blocks (hguarded : Guarded lease s.journal)
    (h : (takeSurvey (Disk.os world) lease call).run s = (.ok survey, t)) {holder : Record}
    (hmem : holder ∈ ((reclaim (Disk.os world) lease call).run s).2.journal.records)
    (hholder : holder.IsHolder) (hopen : holder.phase ≠ .reclaimed) {plan : Plan}
    (hplan : plan ∈ survey.safePlans) :
    plan.record.sessionId ≠ holder.sessionId ∧ plan.record.sessionId ≠ controllerSession := by
  have hsurveyed := surveyed_of_run h
  have hlater := reclaim_after_survey h
  have hcont : Continues s.journal ((reclaim (Disk.os world) lease call).run s).2.journal :=
    (Continues.of_evolves (fun _ _ _ hupdate => hupdate.same) hsurveyed.recovers).trans
      (Continues.of_evolves (fun _ _ _ hupdate => hupdate.same) hlater)
  rcases hcont _ _ (Journal.find?_of_mem hmem) with ⟨old, hold, hsame, hsettled⟩
  have holdMem := (Journal.mem_of_find? hold).1
  have holdHolder : old.IsHolder := by
    unfold Record.IsHolder at hholder ⊢
    rw [← hsame.kind]
    exact hholder
  have holdOpen : old.phase ≠ .reclaimed := by
    intro hreclaimed
    rw [hsettled (Or.inl hreclaimed)] at hopen
    exact hopen hreclaimed
  have hnotDirectory : ¬ old.IsDirectory := by
    rintro (hkind | hkind) <;> rcases holdHolder with hkind' | hkind' <;> rw [hkind] at hkind' <;>
      cases hkind'
  have hplanned := Survey.mem_plans_of_safe hplan
  rcases hsurveyed.visit_of_mem holdMem with ⟨v, hv, hreport⟩
  cases hreport with
  | planned _ hwork => exact absurd hwork.directory hnotDirectory
  | settled hreports hguard _ _ _ =>
    rcases hguard with ⟨protection, rfl, hclaim, hpath⟩ | ⟨hreclaimed, -⟩
    · by_cases hpathless : protection.path = none
      · -- A protection without a path is one for the session.
        have hfree := Survey.not_blocks hplan (Surveyed.mem_protections hv)
        unfold Protection.Blocks at hfree
        rw [hpathless, not_or, hclaim.sessionId, ← hsame.sessionId] at hfree
        exact hfree
      · rw [hpath] at hpathless
        split at hpathless
        · next hwhy =>
          rcases hwhy with hdirectory | hunworkable
          · exact absurd hdirectory hnotDirectory
          · have hapart := hguarded old holdMem holdHolder holdOpen hunworkable hpathless
              plan.record (hsurveyed.mem_records hplanned) (hsurveyed.plannable hplanned)
            rw [← hsame.sessionId] at hapart
            exact hapart
        · exact absurd rfl hpathless
    · -- Reclaimed in the first pass is reclaimed at the end.
      rcases (hreclaimed.evolves hlater) with ⟨current, hcurrent, hphase⟩
      rw [← hsame.resourceId, Journal.find?_of_mem hmem, Option.some.injEq] at hcurrent
      rw [hcurrent] at hopen
      exact absurd hphase hopen

/-- One call. -/
theorem reclaim_keeps_session_files (hguarded : Guarded lease s.journal)
    (hapart : Apart s.journal) {out : Except Exn (List RecoveryItem × Receipt)}
    (hrun : (reclaim (Disk.os world) lease call).run s = (out, t)) :
    KeepsSessionFiles ⟨s.journal, s.world.tree⟩ ⟨t.journal, t.world.tree⟩ := by
  intro holder hmem hholder hopen record hrecord hdirectory hsession place hplace
  have hleaves : ((reclaim (Disk.os world) lease call).run s).2.world.tree.lookup place =
      s.world.tree.lookup place := by
    have hsame : ∀ u v : Machine (Disk E), u.world.tree.lookup place = s.world.tree.lookup place →
        SameTree u v → v.world.tree.lookup place = s.world.tree.lookup place := by
      intro u v hu huv
      have htree : v.world.tree = u.world.tree := huv
      rw [htree]
      exact hu
    refine reclaim_leaves (I := fun u : Machine (Disk E) =>
      u.world.tree.lookup place = s.world.tree.lookup place) rfl
      (fun v _ htree => hsame s v rfl htree) (fun u v hu huv => hsame u v hu huv.2) ?_
    intro survey v hsurvey group hgroup u hu hheld
    have hsurveyed := surveyed_of_run hsurvey
    have hsafe : ∀ plan ∈ group.1 :: group.2, plan ∈ survey.safePlans :=
      fun plan hplan => Survey.mem_safePlans hgroup hplan
    have hroot := hsafe group.1 (by simp)
    have hrootMem := hsurveyed.mem_records (Survey.mem_plans_of_safe hroot)
    -- The root belongs to another session, and not to the controller.
    have hforeign := holder_blocks hguarded hsurvey (by rw [hrun]; exact hmem) hholder hopen hroot
    have hother : group.1.record.sessionId ≠ record.sessionId := by
      rcases hsession with heq | heq
      · rw [heq]
        exact hforeign.1
      · rw [heq]
        exact hforeign.2
    have hreach := hapart _ hrootMem _ hrecord
      (hsurveyed.plannable (Survey.mem_plans_of_safe hroot)).directory hdirectory hother hforeign.2
    refine reclaimGroup_leaves (fun u v hu huv => hsame u v hu huv.2) (fun _ hv _ => hv)
      (lookup_withstands (fun outer houter => hreach outer houter place hplace) _)
      (fun _ hv => hv) ?_ ?_ hheld hu
    · exact (List.Sublist.map _ (Forest.sublist_members hgroup)).nodup hsurveyed.nodup_members
    · exact fun plan hplan =>
        (hsurveyed.plannable (Survey.mem_plans_of_safe (hsafe plan hplan))).directory
  rw [hrun] at hleaves
  exact hleaves

end Call

/-- The state root meets both conditions when a call is made. -/
def SessionsGuarded (_ : Surroundings E F) (lease : Lease) (root : StateRoot)
    (_ : Except Exn (List RecoveryItem × Receipt)) : Prop :=
  Guarded lease root.journal ∧ Apart root.journal

/-- In every sequence of calls, each call leaves the directories of a session
    alone whose process or cgroup is not reclaimed when it returns. -/
theorem calls_keep_session_files (roots : List StateRoot)
    (h : roots.IsChain (Attempt E F SessionsGuarded)) : roots.IsChain KeepsSessionFiles := by
  refine h.imp (fun before after hcall => ?_)
  cases hcall with
  | call hrun hguarded => exact reclaim_keeps_session_files hguarded.1 hguarded.2 hrun

/-! ### A directory next to a cgroup -/

/-- The record of a cgroup in a phase. -/
def groupRecord (phase : Phase) : Record :=
  { Journal.claimRecord someLease "s" "g" .cgroup "allocate" false .v2
      (some (.cgroup emptiedIdentity)) with
    sequence := 3
    phase := phase }

/-- A cgroup and a directory of one session. -/
def heldJournal (phase : Phase) (hvalid : (groupRecord phase).Valid) : Journal where
  records := [groupRecord phase, ownedRecord "s" "a" basePath 11]
  invalid := []
  quarantined := []
  distinct := by simp [groupRecord, ownedRecord, Journal.claimRecord]
  valid := by
    intro record hrecord
    rcases List.mem_cons.mp hrecord with rfl | hrecord
    · exact hvalid
    · rw [List.mem_singleton] at hrecord
      rw [hrecord]
      exact validateRecord_eq_ok.mp (by decide +kernel)

def heldTree : Tree where
  entries := [(["resources"], ownedNode 10), (["quarantine"], ownedNode 20),
    (["resources", "a"], ownedNode 11)]
  distinct := by decide
  closed := by decide

/-- The cgroup is still in use. -/
def activeJournal : Journal := heldJournal .active (validateRecord_eq_ok.mp (by decide +kernel))

/-- The cgroup was given up. -/
def givenUpJournal : Journal :=
  heldJournal .ambiguous (validateRecord_eq_ok.mp (by decide +kernel))

/-- A cgroup that is still in use protects the directory of its session. -/
theorem active_keeps_session_files : Guarded someLease activeJournal ∧ Apart activeJournal ∧
    ∃ after, [⟨activeJournal, heldTree⟩, after].IsChain
        (Attempt Unit Unit SessionsGuarded) ∧
      [⟨activeJournal, heldTree⟩, after].IsChain KeepsSessionFiles := by
  have hguarded : Guarded someLease activeJournal := by decide +kernel
  have hapart : Apart activeJournal := by decide +kernel
  rcases hrun : (reclaim (Disk.os (.refusing (fun _ => false))) someLease
    ⟨"first", none, none⟩).run ⟨activeJournal, ⟨heldTree, ()⟩⟩ with ⟨out, t⟩
  have hchain : [⟨activeJournal, heldTree⟩, ⟨t.journal, t.world.tree⟩].IsChain
      (Attempt Unit Unit SessionsGuarded) := by
    simpa using Attempt.call (P := SessionsGuarded) hrun ⟨hguarded, hapart⟩
  exact ⟨hguarded, hapart, _, hchain, calls_keep_session_files _ hchain⟩

/-- The directory is gone, and the cgroup is not reclaimed. -/
def RemovedUnderGroup (s : Machine (Disk Unit)) : Prop :=
  s.world.tree.lookup ["resources", "a"] = none ∧
  (s.journal.find? "g").map (fun record => record.phase) = some .ambiguous

instance (s : Machine (Disk Unit)) : Decidable (RemovedUnderGroup s) :=
  inferInstanceAs (Decidable (_ ∧ _))

theorem removedUnderGroup_of_attempt : RemovedUnderGroup
    (attempted (.refusing (fun _ => false)) "first" ⟨givenUpJournal, ⟨heldTree, ()⟩⟩).2 := by
  decide +kernel

/-- A cgroup that was given up does not: the directory of its session is
    removed, and the cgroup is as unclear as before. -/
theorem removed_under_cgroup :
    ∃ after, Attempt Unit Unit (fun _ _ _ _ => True) ⟨givenUpJournal, heldTree⟩ after ∧
      ¬ KeepsSessionFiles ⟨givenUpJournal, heldTree⟩ after := by
  have hend := removedUnderGroup_of_attempt
  rcases hrun : attempted (.refusing (fun _ => false)) "first" ⟨givenUpJournal, ⟨heldTree, ()⟩⟩
    with ⟨out, t⟩
  rw [hrun] at hend
  rw [attempted] at hrun
  rcases hend with ⟨hgone, hphase⟩
  have hattempt := Attempt.call (P := fun _ _ _ _ => True) hrun trivial
  refine ⟨_, hattempt, fun hkeeps => ?_⟩
  rcases Option.map_eq_some_iff.mp hphase with ⟨holder, hfind, hambiguous⟩
  rcases reclaim_continues hrun "g" holder hfind with ⟨old, hold, hsame, -⟩
  have hgroup : old = groupRecord .ambiguous := (Option.some.inj hold).symm
  subst hgroup
  have hkept := hkeeps holder (Journal.mem_of_find? hfind).1 (Or.inr hsame.kind)
    (by rw [hambiguous]; decide) (ownedRecord "s" "a" basePath 11)
    (List.mem_cons_of_mem _ List.mem_cons_self) (Or.inl rfl) (Or.inl hsame.sessionId.symm)
    ["resources", "a"] (by decide)
  rw [hgone] at hkept
  exact absurd hkept (by decide)

end MirrorGate
