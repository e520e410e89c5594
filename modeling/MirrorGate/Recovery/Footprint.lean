import MirrorGate.Recovery.Disk
import MirrorGate.Recovery.Nesting

/-!
# What a Recovery Does to a Disk

The state root is changed by two kinds of calls, the rename and the removal of
a quarantined tree. Everything else, and with it the first two passes, leaves
the tree alone.

A property of journal and tree together survives a recovery if it survives
three things: publications that do not take a directory's cleanup target away
(`Follows`), losses at and below a quarantine name (`Trims`), and the one move
of a directory from where it was found to its quarantine name. `Withstands`
says so of a property, and the lemmas on `reclaimFilesystem` and
`reclaimGroup` show that this is enough on every exit.

## Main definitions

* `Still`, `SameTree`: Nothing has changed, or at least not the tree.
* `Follows`: The journal evolved, directories keep their targets, and the tree
  is the same.
* `Trims`: The tree lost entries in a region.
* `Withstands`: A property survives the recovery of a directory.
* `Attempts`: A sequence of recoveries of one state root.

## Theorems

* `takeSurvey_follows`: The first two passes on every exit.
* `removeTree_trims`: Bounded removal.
* `reclaimFilesystem_leaves`, `reclaimGroup_leaves`, `reclaimGroups_leaves`:
  What the third pass keeps.
* `reclaim_leaves`: What a whole recovery keeps.
-/

namespace MirrorGate

open Prog Disk List

variable {E F : Type}

/-! ### Calls that leave the tree alone -/

/-- The tree is the same before and after. -/
def SameTree (s t : Machine (Disk E)) : Prop := t.world.tree = s.world.tree

instance : Std.Refl (SameTree : Machine (Disk E) → Machine (Disk E) → Prop) := ⟨fun _ => rfl⟩

instance : IsTrans (Machine (Disk E)) SameTree := ⟨fun _ _ _ h1 h2 => h2.trans h1⟩

/-- Neither the journal nor the tree has changed. -/
def Still (s t : Machine (Disk E)) : Prop := t.journal = s.journal ∧ SameTree s t

instance : Std.Refl (Still : Machine (Disk E) → Machine (Disk E) → Prop) := ⟨fun _ => ⟨rfl, rfl⟩⟩

instance : IsTrans (Machine (Disk E)) Still :=
  ⟨fun _ _ _ h1 h2 => ⟨h2.1.trans h1.1, IsTrans.trans _ _ _ h1.2 h2.2⟩⟩

/-- The world after a call is what the call made of it. -/
theorem perform_world {W α : Type} (f : W → Except OsError α × W) (s : Machine W) :
    ((perform f).run s).2.world = (f s.world).2 := by
  unfold perform
  rcases hf : f s.world with ⟨e | a, w⟩
  · simp [hf]
  · simp [hf]

theorem perform_sameTree {α : Type} {f : Disk E → Except OsError α × Disk E}
    (h : ∀ disk, (f disk).2.tree = disk.tree) : Moves SameTree (perform f) := by
  intro s
  unfold SameTree
  rw [perform_world, h]

theorem perform_still {α : Type} {f : Disk E → Except OsError α × Disk E}
    (h : ∀ disk, (f disk).2.tree = disk.tree) : Moves Still (perform f) :=
  fun s => ⟨perform_same f s, perform_sameTree h s⟩

namespace Disk

theorem inquire_tree {α : Type} (world : Surroundings E F) (call : FileCall) (path : List String)
    (f : Tree → Except OsError α) (disk : Disk E) :
    (inquire world call path f disk).2.tree = disk.tree := by
  unfold inquire attempt
  split <;> rfl

end Disk

/-- Looking around changes nothing. -/
theorem looks_still (world : Surroundings E F) : Looks (Disk.os world) Still where
  dup fd := perform_still (fun disk => by
    rcases fd with path | fd
    · exact inquire_tree world _ _ _ disk
    · rfl)
  openDir fd name := perform_still (fun disk => by
    rcases fd with path | fd
    · exact inquire_tree world _ _ _ disk
    · rfl)
  fstat fd := perform_still (fun disk => by
    rcases fd with path | fd
    · exact inquire_tree world _ _ _ disk
    · rfl)
  getxattr fd := perform_still (fun disk => by
    rcases fd with path | fd
    · exact inquire_tree world _ _ _ disk
    · rfl)
  statAt fd name := perform_still (fun disk => by
    rcases fd with path | fd
    · exact inquire_tree world _ _ _ disk
    · rfl)
  readAt fd name := perform_still (fun disk => by cases fd <;> rfl)
  writeAt fd name data := perform_still (fun disk => by cases fd <;> rfl)
  monotonic _ := ⟨rfl, rfl⟩
  sleep _ := ⟨rfl, rfl⟩
  cut _ _ := ⟨rfl, rfl⟩
  openDelegation _ _ := ⟨rfl, rfl⟩

theorem listdir_still (world : Surroundings E F) (fd : Handle F) :
    Moves Still (perform ((Disk.os world).listdir fd)) :=
  perform_still (fun disk => by
    rcases fd with path | fd
    · exact inquire_tree world _ _ _ disk
    · rfl)

theorem fchmod_still (world : Surroundings E F) (fd : Handle F) :
    Moves Still (perform ((Disk.os world).fchmod fd)) :=
  perform_still (fun disk => by
    rcases fd with path | fd
    · exact inquire_tree world _ _ _ disk
    · rfl)

section Journal

variable (world : Surroundings E F)

theorem read_still (id : String) :
    Moves Still (Journal.read (Disk.os world).toJournalIo id) := by
  refine fun s => ⟨Journal.read_same _ id s, ?_⟩
  refine Moves.of_run (m := Journal.read (os world).toJournalIo id) ?_ rfl
  unfold Journal.read
  refine moves_bind (fun s => rfl) (fun _ => ?_)
  refine moves_bind (moves_gets _) (fun found => ?_)
  refine moves_bind (moves_handle (perform_sameTree (fun _ => rfl)) ?_) (fun _ => ?_)
  · intro e k hk
    split at hk
    · cases hk
      exact moves_raise _
    · cases hk
  · split
    · exact moves_raise _
    · exact fun s => rfl

theorem publish_sameTree (payload : Record) (create : Bool) :
    Moves SameTree (Journal.publish (Disk.os world).toJournalIo payload create) := by
  intro s
  have hworld : ((os world).publish s.world).2.tree = s.world.tree := rfl
  unfold SameTree Journal.publish
  dsimp only
  split
  · rfl
  split
  · rfl
  split
  all_goals
    next heq =>
    rw [heq] at hworld
    exact hworld

theorem replace_sameTree (id : String) (update : Record → Except String Record) :
    Moves SameTree (Journal.replace (Disk.os world).toJournalIo id update) := by
  have hread : ∀ id, Moves SameTree (Journal.read (os world).toJournalIo id) :=
    fun id s => (read_still world id s).2
  unfold Journal.replace
  refine moves_bind (hread id) (fun current => ?_)
  refine moves_bind (fun s => rfl) (fun updated => ?_)
  exact moves_bind (publish_sameTree world _ _) (fun _ => hread id)

end Journal

/-! ### Publications that keep the targets -/

/-- A publication keeps the place of a claim: an open claim with a cleanup
    target keeps that target. -/
structure KeepsPlace (old new : Record) : Prop where
  same : SameClaim old new
  target : new.phase.Terminal ∨ old.cleanupTarget = none ∨ new.cleanupTarget = old.cleanupTarget

/-- The journal evolved by publications that keep the places, and the tree has
    not changed. -/
def Follows (s t : Machine (Disk E)) : Prop :=
  Evolves (fun _ => KeepsPlace) s.journal t.journal ∧ SameTree s t

instance : Std.Refl (Follows : Machine (Disk E) → Machine (Disk E) → Prop) :=
  ⟨fun _ => ⟨.refl _, rfl⟩⟩

instance : IsTrans (Machine (Disk E)) Follows :=
  ⟨fun _ _ _ h1 h2 => ⟨h1.1.trans h2.1, IsTrans.trans _ _ _ h1.2 h2.2⟩⟩

variable {s t : Machine (Disk E)}

theorem Still.follows (h : Still s t) : Follows s t :=
  ⟨.of_eq h.1, h.2⟩

theorem looks_follows (world : Surroundings E F) : Looks (Disk.os world) Follows :=
  (looks_still world).mono (fun _ _ h => h.follows)

variable {current updated : Record}

theorem updateRecord_target {phase : Phase} {change : Change}
    (htarget : change.cleanupTarget = none) (h : updateRecord current phase change = .ok updated) :
    updated.cleanupTarget = current.cleanupTarget := by
  rcases updateRecord_eq_ok.mp h with ⟨-, -, -, target, hnew, rfl⟩
  rw [htarget] at hnew
  cases hnew
  rfl

variable {target : String}

section Publications

variable (world : Surroundings E F)

/-- A transition that says nothing about the target. -/
theorem transition_follows {id : String} {phase : Phase} {change : Change} (hplain : change.Plain)
    (htarget : change.cleanupTarget = none) :
    Moves Follows (Journal.transition (Disk.os world).toJournalIo id phase change) := by
  refine fun s => ⟨Journal.transition_evolves rfl (fun old new _ hnew => ?_),
    replace_sameTree world _ _ s⟩
  exact ⟨updateRecord_same hplain hnew, Or.inr (Or.inr (updateRecord_target htarget hnew))⟩

/-- A target is fixed only where there is none. -/
theorem setCleanupTarget_follows {id : String} :
    Moves Follows (Journal.setCleanupTarget (Disk.os world).toJournalIo id target) := by
  refine fun s => ⟨Journal.setCleanupTarget_evolves rfl (fun old new _ hnew => ?_),
    replace_sameTree world _ _ s⟩
  exact ⟨fixCleanupTarget_same hnew, Or.inr (Or.inl (fixCleanupTarget_eq_ok.mp hnew).2.1)⟩

theorem read_follows (id : String) :
    Moves Follows (Journal.read (Disk.os world).toJournalIo id) :=
  fun s => (read_still world id s).follows

theorem beginCleanup_follows (id : String) :
    Moves Follows (Journal.beginCleanup (Disk.os world).toJournalIo id) := by
  refine moves_bind (read_follows world id) (fun current => ?_)
  split
  · exact moves_pure _
  split
  · exact moves_raise _
  · exact transition_follows world ⟨rfl, rfl⟩ rfl

theorem finishCleanup_follows (id : String) (complete : Bool) :
    Moves Follows (Journal.finishCleanup (Disk.os world).toJournalIo id complete) := by
  refine moves_bind (read_follows world id) (fun current => ?_)
  split
  · exact moves_pure _
  split
  · exact moves_pure _
  split
  · exact moves_raise _
  · exact transition_follows world ⟨rfl, rfl⟩ rfl

theorem markAmbiguous_follows (record : Record) (attemptId reason : String) :
    Moves Follows
      (markAmbiguous (Disk.os world).toJournalIo record attemptId reason) := by
  refine moves_bind ?_ (fun current => moves_pure _)
  split
  · exact moves_pure _
  · exact transition_follows world ⟨rfl, rfl⟩ rfl

theorem cleanupFailed_follows (current : Record) (attemptId reason : String) :
    Moves Follows (cleanupFailed (Disk.os world) attemptId current reason) :=
  moves_bind (transition_follows world ⟨rfl, rfl⟩ rfl) (fun _ => moves_pure _)

end Publications

/-! ### The first two passes -/

section Survey

variable (world : Surroundings E F) (lease : Lease) (attemptId : String)

theorem cgroupUnconfirmed_follows (record : Record) :
    Moves Follows (cgroupUnconfirmed (Disk.os world) attemptId record) :=
  moves_bind (markAmbiguous_follows world _ _ _) (fun _ => moves_pure _)

theorem cgroupMissing_follows (record : Record) :
    Moves Follows (cgroupMissing (Disk.os world) attemptId record) := by
  unfold cgroupMissing
  split
  · split
    · refine moves_bind (beginCleanup_follows world _) (fun _ => ?_)
      exact moves_bind (transition_follows world ⟨rfl, rfl⟩ rfl) (fun _ => moves_pure _)
    · exact cgroupUnconfirmed_follows world attemptId record
  · exact cgroupUnconfirmed_follows world attemptId record

/-- A cgroup is removed below its delegation, which is not in the state root. -/
theorem cleanupCgroup_follows (record : Record) {session : CgroupSession (Handle F)} {fd : F}
    (hdelegation : session.delegation = .inr fd) (settings : Settings) :
    Moves Follows (cleanupCgroup (Disk.os world) attemptId record session settings) := by
  have hrmdir : Moves Follows
      (perform ((os world).rmdir session.delegation session.name)) := by
    rw [hdelegation]
    exact fun s => (perform_still (fun _ => rfl) s).follows
  have hpersist : ∀ counters, Moves Follows
      (persistEmpty (os world) record settings counters) := by
    intro counters
    unfold persistEmpty
    split
    · exact moves_pure _
    · exact moves_bind (transition_follows world ⟨rfl, rfl⟩ rfl) (fun _ => moves_pure _)
  have hcleanup : Moves Follows
      (session.cleanup (os world) (persistEmpty (os world) record settings)) :=
    fun s => ((session.cleanup_guarantees (P := fun _ => True) (looks_follows world) hrmdir
      (fun _ _ _ _ => trivial)
      (fun counters s _ => ⟨hpersist counters s, fun _ _ _ => trivial⟩)) s trivial).1
  refine moves_bind (beginCleanup_follows world _) (fun _ => ?_)
  refine moves_bind (moves_handle ?_ ?_) (fun outcome => ?_)
  · exact moves_bind hcleanup (fun _ => moves_pure _)
  · intro e k hk
    split at hk
    · cases hk
      exact moves_pure _
    · cases hk
  · rcases outcome with _ | counters
    · refine moves_bind (moves_handle (session.observe_moves (looks_follows world)) ?_)
        (fun _ => ?_)
      · intro e k hk
        split at hk
        · cases hk
          exact moves_pure _
        · cases hk
      · exact moves_bind (finishCleanup_follows world _ _) (fun _ => moves_pure _)
    · exact moves_bind (transition_follows world ⟨rfl, rfl⟩ rfl) (fun _ => moves_pure _)

/-- A pinned cgroup remembers the delegation it was found in. -/
theorem pinCgroup_delegation {W Fd : Type} {os : Os W Fd} {delegation : Fd} {record : Record}
    {identity : CgroupIdentity} {pinned : CgroupSession Fd × Settings} {s t : Machine W}
    (h : (pinCgroup os lease delegation record identity).run s = (.ok pinned, t)) :
    pinned.1.delegation = delegation := by
  unfold pinCgroup at h
  rcases bind_eq_ok_iff.mp h with ⟨_, _, -, h⟩
  rcases bind_eq_ok_iff.mp h with ⟨_, _, -, h⟩
  rcases bind_eq_ok_iff.mp h with ⟨_, _, -, h⟩
  rcases bind_eq_ok_iff.mp h with ⟨_, _, -, h⟩
  rcases bind_eq_ok_iff.mp h with ⟨_, _, -, h⟩
  rcases bind_eq_ok_iff.mp h with ⟨_, _, -, h⟩
  rcases bind_eq_ok_iff.mp h with ⟨settings, _, -, h⟩
  rcases pure_eq_ok_iff.mp h with ⟨rfl, -⟩
  rfl

theorem reclaimCgroup_follows (fd : F) (record : Record) :
    Moves Follows (reclaimCgroup (Disk.os world) lease attemptId (.inr fd) record) := by
  unfold reclaimCgroup
  split
  · next identity _ =>
    -- A pinned cgroup is known to be below the delegation.
    refine moves_bind_known
      (K := fun pinned => ∀ found, pinned = Sum.inr found → found.1.delegation = .inr fd)
      (moves_handle ?_ ?_) ?_ (fun pinned hpinned => ?_)
    · exact moves_bind (pinCgroup_moves (looks_follows world) lease _ record identity)
        (fun _ => moves_pure _)
    · intro e k hk
      split at hk
      all_goals cases hk
      · exact moves_bind (cgroupMissing_follows world attemptId record)
          (fun _ => moves_pure _)
      all_goals
        exact moves_bind (cgroupUnconfirmed_follows world attemptId record)
          (fun _ => moves_pure _)
    · intro s pinned t hrun found hfound
      rw [hfound] at hrun
      rcases handle_eq_ok_iff.mp hrun with hrun | ⟨e, u, k, -, hk, hrun⟩
      · rcases bind_eq_ok_iff.mp hrun with ⟨pair, u, hpin, hrun⟩
        cases (pure_eq_ok_iff.mp hrun).1
        exact pinCgroup_delegation lease hpin
      · -- A clause that catches returns an outcome.
        split at hk
        all_goals cases hk
        all_goals
          rcases bind_eq_ok_iff.mp hrun with ⟨outcome, v, -, hrun⟩
          cases (pure_eq_ok_iff.mp hrun).1
    · rcases pinned with outcome | ⟨session, settings⟩
      · exact moves_pure _
      · exact cleanupCgroup_follows world attemptId record (hpinned _ rfl) settings
  · exact cgroupUnconfirmed_follows world attemptId record

theorem coveringGroup_follows (record : Record) :
    Moves Follows (coveringGroup (Disk.os world) lease record) := by
  unfold coveringGroup
  split
  · exact moves_pure _
  · refine moves_handle (moves_bind (read_follows world _) (fun group => ?_)) ?_
    · split
      · exact moves_pure _
      · exact moves_raise _
    · intro e k hk
      split at hk
      all_goals first | cases hk; exact moves_pure _ | cases hk

theorem reclaimGroupProcess_follows (record : Record) :
    Moves Follows (reclaimGroupProcess (Disk.os world) lease attemptId record) := by
  refine moves_bind (coveringGroup_follows world lease record) (fun covering => ?_)
  split
  · exact markAmbiguous_follows world _ _ _
  split
  · exact markAmbiguous_follows world _ _ _
  split
  · refine moves_bind (beginCleanup_follows world _) (fun _ => ?_)
    exact moves_bind (finishCleanup_follows world _ _) (fun _ => moves_pure _)
  split
  · exact markAmbiguous_follows world _ _ _
  · refine moves_bind (beginCleanup_follows world _) (fun _ => ?_)
    exact moves_bind (transition_follows world ⟨rfl, rfl⟩ rfl) (fun _ => moves_pure _)

theorem visitAmbiguous_follows (record : Record) (reason : String) (path : Option RelativePath) :
    Moves Follows (visitAmbiguous (Disk.os world) attemptId record reason path) :=
  moves_bind (markAmbiguous_follows world _ _ _) (fun _ => moves_pure _)

theorem protectSession_follows (record : Record) (item : RecoveryItem) :
    Moves Follows (protectSession (Disk.os world) record item) := by
  unfold protectSession
  split
  · exact moves_pure _
  · exact moves_bind (read_follows world _) (fun _ => moves_pure _)

/-- A visit publishes and looks, and moves nothing. -/
theorem visit_follows (delegation : Option F) (record : Record) :
    Moves Follows
      (visit (Disk.os world) lease attemptId (delegation.map Sum.inr) record) := by
  unfold visit
  split
  · exact visitAmbiguous_follows world attemptId _ _ _
  split
  · exact moves_pure _
  split
  · exact moves_pure _
  split
  · unfold visitProcess
    split
    · refine moves_bind (reclaimGroupProcess_follows world lease attemptId _) (fun _ => ?_)
      exact moves_bind (protectSession_follows world _ _) (fun _ => moves_pure _)
    · exact visitAmbiguous_follows world attemptId _ _ _
  · rcases delegation with _ | fd
    · simp only [Option.map_none, visitCgroup]
      split
      · exact moves_pure _
      · exact visitAmbiguous_follows world attemptId _ _ _
    · refine moves_bind (reclaimCgroup_follows world lease attemptId fd _) (fun _ => ?_)
      exact moves_bind (protectSession_follows world _ _) (fun _ => moves_pure _)
  all_goals
    unfold visitFilesystem
    split
    · refine moves_bind (validateFilesystem_moves (looks_follows world) _ _) (fun _ => ?_)
      split
      · exact visitAmbiguous_follows world attemptId _ _ _
      · exact moves_pure _
    · exact visitAmbiguous_follows world attemptId _ _ _

theorem blockPlan_follows (protections : List Protection) (plan : Plan) :
    Moves Follows
      (blockPlan (Disk.os world).toJournalIo attemptId protections plan) := by
  unfold blockPlan
  split
  · exact moves_pure _
  split
  · refine moves_bind (beginCleanup_follows world _) (fun _ => ?_)
    exact moves_bind (finishCleanup_follows world _ _) (fun _ => moves_pure _)
  · exact moves_bind (markAmbiguous_follows world _ _ _) (fun _ => moves_pure _)

theorem inspect_still :
    Moves Still (Journal.inspect (Disk.os world).toJournalIo) := by
  refine fun s => ⟨Journal.inspect_same _ s, ?_⟩
  refine Moves.of_run (m := Journal.inspect (os world).toJournalIo) ?_ rfl
  unfold Journal.inspect
  refine moves_bind (perform_sameTree (fun _ => rfl)) (fun _ => ?_)
  refine moves_bind (moves_gets _) (fun entries => ?_)
  split
  · exact moves_raise _
  refine moves_bind (moves_mapList entries (fun entry _ => ?_)) (fun _ => moves_pure _)
  unfold Journal.inspectEntry
  split
  · exact moves_pure _
  · refine moves_handle (moves_bind (perform_sameTree (fun _ => rfl)) (fun _ => ?_)) ?_
    · exact moves_bind (fun s => rfl) (fun _ => moves_pure _)
    · intro e k hk
      split at hk
      all_goals first | cases hk; exact moves_pure _ | cases hk

theorem takeSnapshot_sameTree : Moves SameTree (takeSnapshot (Disk.os world)) := by
  refine moves_bind (perform_sameTree (fun _ => rfl)) (fun _ => ?_)
  refine moves_bind (moves_gets _) (fun aside => ?_)
  refine moves_bind ?_ (fun _ => ?_)
  · split
    · exact moves_raise _
    · exact moves_pure _
  refine moves_bind (fun s => (inspect_still world s).2) (fun snapshot => ?_)
  refine moves_bind ?_ (fun _ => moves_pure _)
  split
  · refine moves_bind (moves_bind (moves_mapList _ (fun name _ => ?_))
      (fun _ => moves_pure _)) (fun _ => moves_raise _)
    refine moves_bind (moves_handle (perform_sameTree (fun _ => rfl)) ?_) (fun moved => ?_)
    · intro e k hk
      split at hk
      · cases hk
        exact moves_pure _
      · cases hk
    · split
      · exact fun s => rfl
      · exact moves_pure _
  · exact moves_pure _

theorem openParentDelegation_outside {parent : Option String}
    {delegation : Option (Handle F)}
    (h : (openParentDelegation (Disk.os world) parent).run s = (.ok delegation, t)) :
    ∃ fd : Option F, delegation = fd.map Sum.inr := by
  rcases parent with _ | parent
  · rcases pure_eq_ok_iff.mp h with ⟨rfl, -⟩
    exact ⟨none, rfl⟩
  · rcases bind_eq_ok_iff.mp h with ⟨fd, u, hopen, h⟩
    rcases pure_eq_ok_iff.mp h with ⟨rfl, -⟩
    have hfd : (world.outside.openDelegation parent s.world.env).1.map Sum.inr = .ok fd :=
      congrArg Prod.fst hopen
    rcases hcases : (world.outside.openDelegation parent s.world.env).1 with e | inner
    · rw [hcases] at hfd
      cases hfd
    · rw [hcases] at hfd
      cases hfd
      exact ⟨some inner, rfl⟩

theorem openParentDelegation_still {parent : Option String}
    {out : Except Exn (Option (Handle F))}
    (h : (openParentDelegation (Disk.os world) parent).run s = (out, t)) : Still s t := by
  refine Moves.of_run ?_ h
  unfold openParentDelegation
  split
  · exact moves_pure _
  · exact moves_bind ((looks_still world).openDelegation _) (fun _ => moves_pure _)

/-- What the first two passes leave on every exit: either the listing was
    refused, and then invalid entries may have been taken out, or directories
    keep their places. -/
theorem takeSurvey_follows (call : Call) (s : Machine (Disk E)) :
    Withdraws s ((takeSurvey (Disk.os world) lease call).run s).2 ∧
        SameTree s ((takeSurvey (Disk.os world) lease call).run s).2 ∨
      Follows s ((takeSurvey (Disk.os world) lease call).run s).2 := by
  unfold takeSurvey
  rcases hopen : (openParentDelegation (os world) call.cgroupParent).run s with
    ⟨e | delegation, s1⟩
  all_goals have hs1 : Still s s1 := openParentDelegation_still world hopen
  · rw [bind_run_error hopen]
    exact Or.inr hs1.follows
  rcases openParentDelegation_outside world hopen with ⟨fd, rfl⟩
  rw [bind_run_ok hopen]
  rcases hlist : (takeSnapshot (os world)).run s1 with ⟨e | snapshot, s2⟩
  all_goals
    have htree : SameTree s s2 :=
      IsTrans.trans _ _ _ hs1.2 ((takeSnapshot_sameTree world).of_run hlist)
  · have hs2 : Withdraws s1 s2 := takeSnapshot_withdraws.of_run hlist
    rw [bind_run_error hlist]
    refine Or.inl ⟨fun id record hrecord => ?_, htree⟩
    rw [← hs1.1]
    exact hs2 id record hrecord
  rw [bind_run_ok hlist]
  have hs2 : Follows s s2 := ⟨.of_eq ((takeSnapshot_ok hlist).1.trans hs1.1), htree⟩
  -- From here on only visits and blocks follow.
  refine Or.inr (IsTrans.trans _ _ _ hs2 ?_)
  refine Moves.of_run (s := s2) (R := Follows) (moves_bind (moves_mapList _
    (fun record _ => visit_follows world lease call.attemptId fd record)) (fun visits => ?_)) rfl
  exact moves_bind (moves_mapList _
    (fun plan _ => blockPlan_follows world call.attemptId _ plan)) (fun _ => moves_pure _)

end Survey

/-! ### Removal -/

/-- The journal has not changed, and the tree has lost entries in a region. -/
def Trims (region : List String → Prop) (s t : Machine (Disk E)) : Prop :=
  t.journal = s.journal ∧ FileTree.Shrinks region s.world.tree t.world.tree

instance (region : List String → Prop) :
    Std.Refl (Trims region : Machine (Disk E) → Machine (Disk E) → Prop) :=
  ⟨fun _ => ⟨rfl, .refl _ _⟩⟩

instance (region : List String → Prop) : IsTrans (Machine (Disk E)) (Trims region) :=
  ⟨fun _ _ _ h1 h2 => ⟨h2.1.trans h1.1, h1.2.trans h2.2⟩⟩

theorem Still.trims {region : List String → Prop} (h : Still s t) :
    Trims region s t :=
  ⟨h.1, by rw [h.2]; exact .refl _ _⟩

theorem Trims.mono {region wider : List String → Prop}
    (hwider : ∀ path, region path → wider path) (h : Trims region s t) : Trims wider s t :=
  ⟨h.1, h.2.mono hwider⟩

/-- Properly below a path. -/
def Below (path other : List String) : Prop := path <+: other ∧ other ≠ path

section Removal

variable (world : Surroundings E F) {region : List String → Prop}

theorem looks_trims : Looks (Disk.os world) (Trims region) :=
  (looks_still world).mono (fun _ _ h => h.trims)

/-- A call that changes the tree moves along a relation if what it does to the
    tree does. -/
theorem attempt_trims {α : Type} {call : FileCall} {path : List String}
    {f : Tree → Except OsError α × Tree} (h : ∀ tree, FileTree.Shrinks region tree (f tree).2) :
    Moves (Trims region) (perform (Disk.attempt world call path f)) := by
  intro s
  refine ⟨perform_same _ s, ?_⟩
  rw [perform_world]
  unfold attempt
  split
  · exact .refl _ _
  · exact h _

theorem unlink_trims {path : List String} {name : String} (hregion : region (path ++ [name])) :
    Moves (Trims region) (perform ((Disk.os world).unlink (.inl path) name)) := by
  refine attempt_trims world (fun tree => ?_)
  unfold unlinkAt
  split
  · exact .refl _ _
  split
  · exact .refl _ _
  split
  · next hbare => exact FileTree.shrinks_erase hregion hbare
  · exact .refl _ _

theorem rmdir_trims {path : List String} {name : String} (hregion : region (path ++ [name])) :
    Moves (Trims region) (perform ((Disk.os world).rmdir (.inl path) name)) := by
  refine attempt_trims world (fun tree => ?_)
  unfold rmdirAt
  split
  · exact .refl _ _
  split
  · exact .refl _ _
  split
  · next hbare => exact FileTree.shrinks_erase hregion hbare
  · exact .refl _ _

/-- A call that only reads the tree and completes returns what the tree says. -/
theorem inquire_ok {α : Type} {call : FileCall} {path : List String}
    {f : Tree → Except OsError α} {a : α}
    (h : (perform (Disk.inquire world call path f)).run s = (.ok a, t)) :
    f s.world.tree = .ok a := by
  have hcall := (perform_eq_ok.mp h).1
  unfold inquire attempt at hcall
  split at hcall
  · simp at hcall
  · simp only [Prod.mk.injEq] at hcall
    exact hcall.1

/-- An opened directory of the state root is the path it was opened at. -/
theorem openDir_ok {path : List String} {name : String} {fd : Handle F}
    (h : (perform ((Disk.os world).openDir (.inl path) name)).run s = (.ok fd, t)) :
    fd = .inl (path ++ [name]) := by
  change (perform (inquire world .openDir (path ++ [name])
    (fun tree => openAt tree (path ++ [name])))).run s = _ at h
  have hopen := inquire_ok world h
  unfold openAt at hopen
  split at hopen
  · cases hopen
  · split at hopen
    · cases hopen
      rfl
    · cases hopen

theorem checkBudget_trims (deadline entries : Nat) :
    Moves (Trims region) (checkBudget (Disk.os world) deadline entries) := by
  unfold checkBudget
  split
  · exact moves_raise _
  · refine moves_bind (looks_trims world).monotonic (fun now => ?_)
    split
    · exact moves_raise _
    · exact moves_pure _

theorem checkBoundary_trims (device uid : Nat) (status : Stat) :
    Moves (Trims region) (checkBoundary device uid status : Py (Disk E) Unit) := by
  unfold checkBoundary
  split
  · exact moves_raise _
  · exact moves_pure _

/-- Removing the entries of a directory touches only what is below it. -/
theorem removeEntries_trims {device uid deadline : Nat} {path : List String}
    {removeDirectory : Handle F → String → Nat → Py (Disk E) Nat}
    (hremove : ∀ name entries, Moves (Trims (Below path))
      (removeDirectory (.inl path) name entries)) (children : List String) (entries : Nat) :
    Moves (Trims (Below path))
      (removeEntries (Disk.os world) device uid deadline removeDirectory (.inl path) children
        entries) := by
  induction children generalizing entries with
  | nil => exact moves_pure _
  | cons child children ih =>
    refine moves_bind (checkBudget_trims world deadline _) (fun _ => ?_)
    refine moves_bind ((looks_trims world).statAt _ _) (fun info => ?_)
    refine moves_bind (checkBoundary_trims device uid info) (fun _ => ?_)
    refine moves_bind ?_ (fun removed => ih removed)
    split
    · exact hremove child _
    · refine moves_bind (unlink_trims world ?_) (fun _ => moves_pure _)
      exact ⟨prefix_append _ _, by simp⟩

/-- The part of a removal before the directory itself goes. -/
theorem removeTree_trims (device uid deadline levels : Nat) (path : List String) (name : String)
    (entries : Nat) :
    Moves (Trims (path ++ [name] <+: ·))
      (removeTree (Disk.os world) device uid deadline levels (.inl path) name entries) := by
  induction levels generalizing path name entries with
  | zero => exact moves_raise _
  | succ levels ih =>
    refine moves_bind (checkBudget_trims world deadline _) (fun _ => ?_)
    refine moves_bind_known ((looks_trims world).openDir _ _)
      (fun _ _ _ hrun => openDir_ok world hrun) (fun fd hfd => ?_)
    subst hfd
    refine moves_bind ((looks_trims world).fstat _) (fun opened => ?_)
    refine moves_bind (checkBoundary_trims device uid opened) (fun _ => ?_)
    refine moves_bind (fun s => (fchmod_still world _ s).trims) (fun _ => ?_)
    refine moves_bind (fun s => (listdir_still world _ s).trims) (fun children => ?_)
    refine moves_bind (fun s => ?_) (fun removed => ?_)
    · refine Trims.mono (fun other hbelow => hbelow.1) (removeEntries_trims world
        (fun child entries => ?_) children entries s)
      -- A directory below the removed one is properly below it.
      refine fun s => Trims.mono (fun other hother => ?_)
        (ih (path ++ [name]) child entries s)
      refine ⟨(prefix_append _ _).trans hother, ?_⟩
      rintro rfl
      have := hother.length_le
      simp at this
    · exact moves_bind (rmdir_trims world (prefix_refl _)) (fun _ => moves_pure _)

theorem removeTreeAt_trims (device uid : Nat) (path : List String) (name : String) :
    Moves (Trims (path ++ [name] <+: ·))
      (removeTreeAt (Disk.os world) device uid (.inl path) name) := by
  refine moves_bind (looks_trims world).monotonic (fun now => ?_)
  exact moves_bind (removeTree_trims world device uid _ 65 path name 0)
    (fun _ => moves_pure _)

end Removal

/-! ### The move of a directory -/

/-- The place to which a directory is moved. -/
def quarantinePath (id : String) : List String := ["quarantine", quarantineName id]

theorem matchCandidates_sublist {W Fd : Type} {os : Os W Fd} {identity : FilesystemIdentity}
    (candidates : List RelativePath) {s t : Machine W} {found : List RelativePath}
    (h : (matchCandidates os identity candidates).run s = (.ok (.ok found), t)) :
    found.Sublist candidates := by
  induction candidates generalizing s t found with
  | nil =>
    cases (pure_eq_ok_iff.mp h).1
    exact .slnil
  | cons relative rest ih =>
    rcases bind_eq_ok_iff.mp h with ⟨object, u, -, h⟩
    rcases hjudge : judge identity object with reason | isThere
    · rw [hjudge] at h
      cases (pure_eq_ok_iff.mp h).1
    · rw [hjudge] at h
      rcases bind_eq_ok_iff.mp h with ⟨others, v, hothers, h⟩
      rcases others with reason | paths
      · cases (pure_eq_ok_iff.mp h).1
      · cases (pure_eq_ok_iff.mp h).1
        split
        · exact (ih hothers).cons_cons _
        · exact (ih hothers).cons _

/-- A directory that is found is below the resources, and it is found at its
    path or at its target. -/
theorem validateFilesystem_ok {W Fd : Type} {os : Os W Fd} {identity : FilesystemIdentity}
    {target : Option RelativePath} {s t : Machine W} {located : RelativePath}
    (h : (validateFilesystem os identity target).run s = (.ok (.ok located), t)) :
    resourcesStart.toList <+: identity.relativePath.text.toList ∧
      located ∈ identity.relativePath :: target.toList := by
  unfold validateFilesystem at h
  split at h
  · cases (pure_eq_ok_iff.mp h).1
  next hstart =>
  refine ⟨not_not.mp hstart, ?_⟩
  rcases bind_eq_ok_iff.mp h with ⟨found, u, hfound, h⟩
  split at h
  · cases (pure_eq_ok_iff.mp h).1
  · cases (pure_eq_ok_iff.mp h).1
  · cases (pure_eq_ok_iff.mp h).1
    exact (matchCandidates_sublist _ hfound).subset (by simp)
  · cases (pure_eq_ok_iff.mp h).1

/-- What the journal knows of a directory whose removal has been announced:
    the target it had before, or its own quarantine name. -/
structure Announced (plan : Plan) (current : Record) (journal : Journal) : Prop where
  found : journal.find? plan.resourceId = some current
  same : SameClaim plan.record current
  target : plan.record.cleanupTarget ≠ none ∧
      current.cleanupTarget = plan.record.cleanupTarget ∨
    current.cleanupTarget.map RelativePath.text = some (ownTarget plan.resourceId)

theorem updateRecord_new_target {phase : Phase} {change : Change} (htarget : change.cleanupTarget = some target)
    (h : updateRecord current phase change = .ok updated) :
    updated.cleanupTarget.map RelativePath.text = some target := by
  rcases updateRecord_eq_ok.mp h with ⟨-, -, -, path, hpath, rfl⟩
  rw [htarget, newCleanupTarget] at hpath
  rcases bind_eq_ok.mp hpath with ⟨relative, hrelative, heq⟩
  cases heq
  simp [checkedRelativePath_eq_ok.mp hrelative]

theorem fixCleanupTarget_target
    (h : fixCleanupTarget current target = .ok updated) :
    updated.cleanupTarget.map RelativePath.text = some target := by
  rcases fixCleanupTarget_eq_ok.mp h with ⟨-, -, path, hpath, rfl⟩
  simp [checkedRelativePath_eq_ok.mp hpath]

/-- After the announcement the journal has the record that is returned. -/
theorem enterCleanup_ok {W Fd : Type} {os : Os W Fd} {plan : Plan} {s t : Machine W} (hheld : s.journal.find? plan.resourceId = some plan.record)
    (h : (enterCleanup os plan.record).run s = (.ok (some current), t)) :
    Announced plan current t.journal := by
  have hmove : ∀ {u : Machine W},
      (do
        let updated ← Journal.transition os.toJournalIo plan.record.resourceId .cleanupIntent
          { cleanupTarget := some (ownTarget plan.record.resourceId) }
        pure (some updated) : Py W (Option Record)).run s = (.ok (some current), u) →
      Announced plan current u.journal := by
    intro u hrun
    rcases bind_eq_ok_iff.mp hrun with ⟨updated, v, hupdated, hrun⟩
    rcases pure_eq_ok_iff.mp hrun with ⟨heq, rfl⟩
    cases heq
    rcases Journal.transition_ok hupdated with ⟨old, hvalid, hold, hnew, hjournal⟩
    have hrecord : old = plan.record := by
      have hold' : s.journal.find? plan.resourceId = some old := hold
      rw [hheld, Option.some.injEq] at hold'
      exact hold'.symm
    subst hrecord
    have hsame := updateRecord_same ⟨rfl, rfl⟩ hnew
    refine ⟨?_, hsame, Or.inr (updateRecord_new_target rfl hnew)⟩
    rw [hjournal, Plan.resourceId, ← hsame.resourceId, Journal.find?_put_self]
  unfold enterCleanup at h
  split at h
  · split at h
    · rcases bind_eq_ok_iff.mp h with ⟨updated, v, hupdated, h⟩
      rcases pure_eq_ok_iff.mp h with ⟨heq, rfl⟩
      cases heq
      rcases Journal.setCleanupTarget_ok hupdated with ⟨old, hvalid, hold, hnew, hjournal⟩
      have hrecord : old = plan.record := by
        have hold' : s.journal.find? plan.resourceId = some old := hold
        rw [hheld, Option.some.injEq] at hold'
        exact hold'.symm
      subst hrecord
      have hsame := fixCleanupTarget_same hnew
      refine ⟨?_, hsame, Or.inr (fixCleanupTarget_target hnew)⟩
      rw [hjournal, Plan.resourceId, ← hsame.resourceId, Journal.find?_put_self]
    · next target htarget =>
      rcases pure_eq_ok_iff.mp h with ⟨heq, rfl⟩
      cases heq
      exact ⟨hheld, .refl _, Or.inl ⟨by simp [htarget], rfl⟩⟩
  all_goals first
    | exact hmove h
    | (rcases pure_eq_ok_iff.mp h with ⟨heq, -⟩; cases heq)
    | skip
  split at h
  · exact hmove h
  · cases (pure_eq_ok_iff.mp h).1

section Move

variable (world : Surroundings E F)
variable {s t : Machine (Disk E)}

/-- Opening a path of the state root leads to that path. -/
theorem openPath_ok {parts path : List String} {fd : Handle F}
    (h : (openPath (Disk.os world) (.inl path) parts).run s = (.ok fd, t)) :
    fd = .inl (path ++ parts) := by
  induction parts generalizing path s with
  | nil =>
    rcases pure_eq_ok_iff.mp h with ⟨rfl, -⟩
    rw [append_nil]
  | cons part parts ih =>
    rcases bind_eq_ok_iff.mp h with ⟨next, u, hnext, h⟩
    rw [openDir_ok world hnext] at h
    rw [ih h, append_assoc, singleton_append]

theorem dup_ok {path : List String} {fd : Handle F}
    (h : (perform ((Disk.os world).dup (.inl path))).run s = (.ok fd, t)) : fd = .inl path := by
  change (perform (inquire world .dup path
    (fun _ => .ok (Sum.inl path : Handle F)))).run s = _ at h
  have hdup := inquire_ok world h
  cases hdup
  rfl

variable {located : RelativePath}

theorem openParent_ok {place : Handle F × String}
    (h : (openParent (Disk.os world) located).run s = (.ok place, t)) :
    place = (.inl located.parts.dropLast, located.parts.getLast located.nonempty) := by
  rcases bind_eq_ok_iff.mp h with ⟨root, u, hroot, h⟩
  rcases bind_eq_ok_iff.mp h with ⟨parent, v, hparent, h⟩
  rcases pure_eq_ok_iff.mp h with ⟨rfl, -⟩
  rw [dup_ok world hroot] at hparent
  rw [openPath_ok world hparent, nil_append]

/-- What is known of a directory that is about to be moved. -/
structure Departs (plan : Plan) (located : RelativePath) (journal : Journal) : Prop where
  announced : ∃ current, Announced plan current journal ∧
    located ∈ plan.path :: current.cleanupTarget.toList
  away : located.text ≠ ownTarget plan.resourceId

/-- A property of the journal and the tree survives the recovery of a
    directory if it survives what the recovery can do. -/
structure Withstands (plan : Plan) (I : Machine (Disk E) → Prop) : Prop where
  follows : ∀ s t, I s → Follows s t → I t
  trims : ∀ s t, I s → Trims (quarantinePath plan.resourceId <+: ·) s t → I t
  enters : ∀ s, I s → s.journal.find? plan.resourceId = some plan.record →
    I ((enterCleanup (Disk.os world) plan.record).run s).2
  departs : ∀ s located env h, I s → resourcesStart.toList <+: plan.path.text.toList →
    Departs plan located s.journal →
    I ⟨s.journal, ⟨s.world.tree.move located.parts (quarantinePath plan.resourceId) h, env⟩⟩

variable {world} {plan : Plan} {I : Machine (Disk E) → Prop} {attemptId : String}

theorem Withstands.still (hI : Withstands world plan I) (hs : I s)
    (h : Still s t) : I t :=
  hI.follows s t hs h.follows

variable {s : Machine (Disk E)}

/-- The rename itself. -/
theorem rename_leaves (hI : Withstands world plan I) (hs : I s)
    (hstart : resourcesStart.toList <+: plan.path.text.toList)
    (hdeparts : Departs plan located s.journal) :
    I ((perform ((Disk.os world).rename (.inl located.parts.dropLast)
      (located.parts.getLast located.nonempty) (.inl ["quarantine"])
      (quarantineName plan.resourceId))).run s).2 := by
  have hsource : located.parts.dropLast ++ [located.parts.getLast located.nonempty] =
      located.parts := dropLast_append_getLast located.nonempty
  have hworld := perform_world ((os world).rename (.inl located.parts.dropLast)
    (located.parts.getLast located.nonempty) (.inl ["quarantine"])
    (quarantineName plan.resourceId)) s
  have hjournal := perform_same ((os world).rename (.inl located.parts.dropLast)
    (located.parts.getLast located.nonempty) (.inl ["quarantine"])
    (quarantineName plan.resourceId)) s
  rcases hout : (perform ((os world).rename (.inl located.parts.dropLast)
    (located.parts.getLast located.nonempty) (.inl ["quarantine"])
    (quarantineName plan.resourceId))).run s with ⟨out, t⟩
  rw [hout] at hworld hjournal
  have hjournal' : t.journal = s.journal := hjournal
  have hunmoved : t.world.tree = s.world.tree → I t := fun htree =>
    hI.still hs ⟨hjournal', htree⟩
  simp only [os] at hworld
  rw [hsource] at hworld
  unfold attempt at hworld
  split at hworld
  · exact hunmoved (by rw [hworld])
  next env _ =>
  unfold renameAt at hworld
  split at hworld
  · exact hunmoved (by rw [hworld])
  split at hworld
  · exact hunmoved (by rw [hworld])
  split at hworld
  · next hmove =>
    split at hworld
    · exact hunmoved (by rw [hworld])
    · have ht : t = ⟨s.journal, ⟨s.world.tree.move located.parts
          (quarantinePath plan.resourceId) hmove, env⟩⟩ := by
        rcases t with ⟨journal, w⟩
        simp only at hjournal' hworld
        rw [hjournal', hworld]
        rfl
      rw [ht]
      exact hI.departs s located env hmove hs hstart hdeparts
  · exact hunmoved (by rw [hworld])

variable {current : Record}

/-- Moving a directory to its quarantine name. -/
theorem quarantine_leaves (hI : Withstands world plan I) (hs : I s)
    (hstart : resourcesStart.toList <+: plan.path.text.toList) (hannounced : Announced plan current s.journal)
    (hlocated : located ∈ plan.path :: current.cleanupTarget.toList) :
    I ((quarantine (Disk.os world) attemptId current located (.inl located.parts.dropLast)
      (located.parts.getLast located.nonempty) (.inl ["quarantine"])).run s).2 := by
  have hid : current.resourceId = plan.resourceId := hannounced.same.resourceId
  unfold quarantine
  rw [hid]
  split
  · exact hs
  next haway =>
  refine leaves_bind (hI.still hs ((looks_still world).cut _ s)) (fun _ s1 hcut hs1 => ?_)
  have hdeparts : Departs plan located s1.journal := by
    rw [(((looks_still world).cut _).of_run hcut).1]
    exact ⟨⟨current, hannounced, hlocated⟩, haway⟩
  refine leaves_bind (leaves_handle ?_ ?_) ?_
  · exact leaves_bind (rename_leaves hI hs1 hstart hdeparts) (fun _ _ _ hs2 => hs2)
  · intro e k s2 hrun hk hs2
    split at hk
    · cases hk
      exact hI.follows _ _ hs2 (moves_bind (cleanupFailed_follows world _ _ _)
        (fun _ => moves_pure _) s2)
    · cases hk
  · intro failed s2 hrun hs2
    split
    · exact hs2
    · exact hI.still hs2 (moves_bind ((looks_still world).cut _)
        (fun _ => moves_pure _) s2)

/-- Removing a directory at its quarantine name. -/
theorem removeQuarantined_leaves (hI : Withstands world plan I) (hs : I s) (hid : current.resourceId = plan.resourceId)
    (identity : FilesystemIdentity) :
    I ((removeQuarantined (Disk.os world) attemptId current identity
      (.inl ["quarantine"])).run s).2 := by
  unfold removeQuarantined
  refine leaves_bind (hI.still hs ((looks_still world).statAt _ _ s))
    (fun moved s1 _ hs1 => ?_)
  split
  · have htrims := removeTreeAt_trims world identity.device current.principalUid ["quarantine"]
      (quarantineName current.resourceId)
    have hpath : ["quarantine"] ++ [quarantineName current.resourceId] =
        quarantinePath plan.resourceId := by
      rw [hid]
      rfl
    rw [hpath] at htrims
    refine leaves_bind (hI.trims _ _ hs1 (htrims s1)) (fun _ s2 _ hs2 => ?_)
    exact hI.still hs2 (moves_bind ((looks_still world).cut _)
      (fun _ => moves_pure _) s2)
  · exact hI.follows _ _ hs1 (moves_bind (markAmbiguous_follows world _ _ _)
      (fun _ => moves_pure _) s1)

theorem moveAndRemove_leaves (hI : Withstands world plan I) (hs : I s)
    (hstart : resourcesStart.toList <+: plan.path.text.toList) (hannounced : Announced plan current s.journal)
    (hlocated : located ∈ plan.path :: current.cleanupTarget.toList)
    (identity : FilesystemIdentity) :
    I ((moveAndRemove (Disk.os world) attemptId current identity located
      (.inl located.parts.dropLast) (located.parts.getLast located.nonempty)
      (.inl ["quarantine"])).run s).2 := by
  unfold moveAndRemove
  refine leaves_bind (hI.still hs ((looks_still world).openDir _ _ s))
    (fun pinned s1 h1 hs1 => ?_)
  refine leaves_bind (hI.still hs1 ((looks_still world).fstat _ s1))
    (fun observed s2 h2 hs2 => ?_)
  refine leaves_bind (hI.still hs2 ((looks_still world).getxattr _ s2))
    (fun data s3 h3 hs3 => ?_)
  refine leaves_bind hs3 (fun token s4 h4 _ => ?_)
  rcases ofExcept_eq_ok_iff.mp h4 with ⟨-, rfl⟩
  split
  · have hann : Announced plan current s3.journal := by
      rw [(((looks_still world).getxattr _).of_run h3).1,
        (((looks_still world).fstat _).of_run h2).1,
        (((looks_still world).openDir _ _).of_run h1).1]
      exact hannounced
    refine leaves_bind (quarantine_leaves hI hs3 hstart hann hlocated)
      (fun failed s5 _ hs5 => ?_)
    split
    · exact hs5
    · exact removeQuarantined_leaves hI hs5 hannounced.same.resourceId identity
  · exact hI.follows _ _ hs3 (moves_bind (markAmbiguous_follows world _ _ _)
      (fun _ => moves_pure _) s3)

theorem reclaimPrepared_leaves (hI : Withstands world plan I) (hs : I s) (hannounced : Announced plan current s.journal) :
    I ((reclaimPrepared (Disk.os world) attemptId current plan.identity).run s).2 := by
  unfold reclaimPrepared
  refine leaves_bind (hI.still hs ((looks_still world).cut _ s)) (fun _ s1 h1 hs1 => ?_)
  have hvalidate := validateFilesystem_moves (looks_still world) plan.identity current.cleanupTarget
  refine leaves_bind (hI.still hs1 (hvalidate s1)) (fun checked s2 h2 hs2 => ?_)
  rcases checked with reason | located
  · exact hI.follows _ _ hs2 (markAmbiguous_follows world _ _ _ s2)
  rcases validateFilesystem_ok h2 with ⟨hstart, hlocated⟩
  have hopen := openParent_moves (looks_still world) located
  refine leaves_bind (hI.still hs2 (hopen s2)) (fun place s3 h3 hs3 => ?_)
  have hplace := openParent_ok world h3
  refine leaves_bind (hI.still hs3 ((looks_still world).dup _ s3))
    (fun quarantineFd s4 h4 hs4 => ?_)
  have hfd : quarantineFd = .inl ["quarantine"] := dup_ok world h4
  have hann : Announced plan current s4.journal := by
    rw [(((looks_still world).dup _).of_run h4).1, (hopen.of_run h3).1, (hvalidate.of_run h2).1,
      (((looks_still world).cut _).of_run h1).1]
    exact hannounced
  subst hplace hfd
  refine leaves_bind (leaves_handle ?_ ?_) ?_
  · exact moveAndRemove_leaves hI hs4 hstart hann hlocated plan.identity
  · intro e k s5 hrun hk hs5
    split at hk
    · cases hk
      exact hI.follows _ _ hs5 (moves_bind (cleanupFailed_follows world _ _ _)
        (fun _ => moves_pure _) s5)
    · cases hk
  · intro outcome s5 hrun hs5
    split
    · exact hs5
    · refine hI.follows _ _ hs5 (moves_bind (transition_follows world ⟨rfl, rfl⟩ rfl)
        (fun terminal => ?_) s5)
      exact moves_bind ((looks_follows world).cut _) (fun _ => moves_pure _)

/-- The recovery of a directory leaves what withstands it, on every exit. -/
theorem reclaimFilesystem_leaves (hI : Withstands world plan I) (hs : I s)
    (hheld : s.journal.find? plan.resourceId = some plan.record) :
    I ((reclaimFilesystem (Disk.os world) attemptId plan).run s).2 := by
  unfold reclaimFilesystem
  have hvalidate := validateFilesystem_moves (looks_still world) plan.identity
    plan.record.cleanupTarget
  refine leaves_bind (hI.still hs (hvalidate s)) (fun checked s1 h1 hs1 => ?_)
  have hheld1 : s1.journal.find? plan.resourceId = some plan.record := by
    rw [(hvalidate.of_run h1).1]
    exact hheld
  rcases checked with reason | located
  · exact hI.follows _ _ hs1 (markAmbiguous_follows world _ _ _ s1)
  refine leaves_bind (hI.enters s1 hs1 hheld1) (fun entered s2 h2 hs2 => ?_)
  rcases entered with _ | current
  · exact hI.follows _ _ hs2 (markAmbiguous_follows world _ _ _ s2)
  · exact reclaimPrepared_leaves hI hs2 (enterCleanup_ok hheld1 h2)

end Move

/-! ### Groups -/

/-- The record says that its directory goes to a place, unless it is settled. -/
def Record.GoesTo (record : Record) (target : String) : Prop :=
  record.phase.Terminal ∨ record.cleanupTarget.map RelativePath.text = some target

theorem Record.GoesTo.keeps {old new : Record} (h : old.GoesTo target)
    (hopen : ¬ old.phase.Terminal) (hkeeps : KeepsPlace old new) : new.GoesTo target := by
  rcases h with hterminal | htarget
  · exact absurd hterminal hopen
  rcases hkeeps.target with hterminal | hnone | heq
  · exact Or.inl hterminal
  · rw [hnone] at htarget
    cases htarget
  · exact Or.inr (heq ▸ htarget)

/-- The journal knows where the root of its group takes a directory. -/
def Prepared (root descendant : Plan) (journal : Journal) : Prop :=
  ∃ current, journal.find? descendant.resourceId = some current ∧
    current.GoesTo (groupTarget root descendant)

theorem Prepared.evolves {root descendant : Plan} {j k : Journal} (h : Prepared root descendant j)
    (hevolves : Evolves (fun _ => KeepsPlace) j k) : Prepared root descendant k := by
  rcases h with ⟨current, hcurrent, hplace⟩
  have hlater := hevolves.find?_of
    (S := fun r r' => r.GoesTo (groupTarget root descendant) →
      r'.GoesTo (groupTarget root descendant)) (fun _ hr => hr)
    (fun _ _ _ _ hkeeps hsuccessor hold hrecord =>
      (hold hrecord).keeps hsuccessor.nonterminal hkeeps) hcurrent
  rcases hlater with ⟨later, hlater, hkept⟩
  exact ⟨later, hlater, hkept hplace⟩

variable {I : Machine (Disk E) → Prop}

section Group

variable {world : Surroundings E F} {attemptId : String} {lease : Lease}
variable {s : Machine (Disk E)}

/-- Announcing a directory with its group keeps its place, because it has no
    other target. -/
theorem prepareDescendant_prepares (world : Surroundings E F) {root descendant : Plan}
    (hheld : s.journal.find? descendant.resourceId = some descendant.record)
    (hfit : ¬ TargetConflict root descendant) :
    Follows s ((prepareDescendant (Disk.os world) root descendant).run s).2 ∧
      ∀ current t, (prepareDescendant (Disk.os world) root descendant).run s = (.ok current, t) →
        Prepared root descendant t.journal := by
  have htext : ∀ target, descendant.record.cleanupTarget = some target →
      target.text = groupTarget root descendant := by
    intro target htarget
    by_contra hne
    exact hfit ⟨target, by simp [htarget], hne⟩
  have hrecord : ∀ old, s.journal.find? descendant.resourceId = some old →
      old = descendant.record := by
    intro old hold
    rw [hheld, Option.some.injEq] at hold
    exact hold.symm
  unfold prepareDescendant
  split
  · refine ⟨⟨Journal.transition_evolves rfl (fun old new hold hnew => ?_),
      replace_sameTree world _ _ s⟩, fun current t hrun => ?_⟩
    · have hplace := updateRecord_new_target rfl hnew
      refine ⟨updateRecord_same ⟨rfl, rfl⟩ hnew, Or.inr ?_⟩
      rw [hrecord old hold]
      rcases htarget : descendant.record.cleanupTarget with _ | target
      · exact Or.inl rfl
      · -- A path is determined by its text.
        rcases Option.map_eq_some_iff.mp hplace with ⟨path, hpath, heq⟩
        rw [hpath, RelativePath.text_injective (heq.trans (htext target htarget).symm)]
        exact Or.inr rfl
    · rcases Journal.transition_ok hrun with ⟨old, hvalid, hold, hnew, hjournal⟩
      have hid : current.resourceId = descendant.resourceId := by
        rw [(updateRecord_same ⟨rfl, rfl⟩ hnew).resourceId, hrecord old hold]
        rfl
      refine ⟨current, ?_, Or.inr (updateRecord_new_target rfl hnew)⟩
      rw [hjournal, ← hid, Journal.find?_put_self]
  split
  · refine ⟨setCleanupTarget_follows world s, fun current t hrun => ?_⟩
    rcases Journal.setCleanupTarget_ok hrun with ⟨old, hvalid, hold, hnew, hjournal⟩
    have hid : current.resourceId = descendant.resourceId := by
      rw [(fixCleanupTarget_same hnew).resourceId, hrecord old hold]
      rfl
    refine ⟨current, ?_, Or.inr (fixCleanupTarget_target hnew)⟩
    rw [hjournal, ← hid, Journal.find?_put_self]
  · next hset =>
    refine ⟨Std.Refl.refl s, fun current t hrun => ?_⟩
    rcases pure_eq_ok_iff.mp hrun with ⟨rfl, rfl⟩
    rcases htarget : descendant.record.cleanupTarget with _ | target
    · exact absurd htarget hset
    · refine ⟨_, hheld, Or.inr ?_⟩
      rw [htarget, Option.map_some, htext target htarget]

/-- The directories of a group, one after the other. -/
theorem prepareDescendants_prepare (world : Surroundings E F) {root : Plan} {plans : List Plan}
    (hnodup : (plans.map Plan.resourceId).Nodup)
    (hdirectory : ∀ plan ∈ plans, plan.record.IsDirectory)
    (hfit : ∀ plan ∈ plans, ¬ TargetConflict root plan)
    (hheld : ∀ plan ∈ plans, s.journal.find? plan.resourceId = some plan.record) :
    Follows s ((Prog.mapList (prepareDescendant (Disk.os world) root) plans).run s).2 ∧
      ∀ prepared t,
        (Prog.mapList (prepareDescendant (Disk.os world) root) plans).run s = (.ok prepared, t) →
        (∀ plan ∈ plans, Prepared root plan t.journal) ∧
          ∀ id ∉ plans.map Plan.resourceId, t.journal.find? id = s.journal.find? id := by
  induction plans generalizing s with
  | nil =>
    refine ⟨Std.Refl.refl s, fun prepared t hrun => ?_⟩
    rcases pure_eq_ok_iff.mp hrun with ⟨-, rfl⟩
    exact ⟨by simp, fun _ _ => rfl⟩
  | cons plan plans ih =>
    have hplan := hheld plan (by simp)
    rcases nodup_cons.mp hnodup with ⟨hfresh, hrest⟩
    rcases prepareDescendant_prepares world hplan (hfit plan (by simp)) with
      ⟨hfollows, hprepares⟩
    unfold Prog.mapList
    rcases hrun : (prepareDescendant (os world) root plan).run s with ⟨e | current, s1⟩
    · rw [hrun] at hfollows
      rw [bind_run_error hrun]
      exact ⟨hfollows, fun _ _ h => by simp at h⟩
    rw [hrun] at hfollows
    have hprepared := hprepares current s1 hrun
    -- The others are still held: only one record was touched.
    have hframe : ∀ id, id ≠ plan.resourceId →
        s1.journal.find? id = s.journal.find? id := by
      intro id hid
      have hrecovers : Recovers (os world).sha256 someLease [plan.resourceId] s s1 :=
        (prepareDescendant_guarantees (mem_singleton.mpr rfl)).moves
          ⟨.of_find? hplan, (hdirectory plan (by simp)).ne_process⟩ hrun
      exact hrecovers.frame (by simpa using hid)
    have hheld1 : ∀ p ∈ plans, s1.journal.find? p.resourceId = some p.record := by
      intro p hp
      rw [hframe _ (fun heq => hfresh (heq ▸ mem_map_of_mem hp))]
      exact hheld p (by simp [hp])
    rcases ih hrest (fun p hp => hdirectory p (by simp [hp])) (fun p hp => hfit p (by simp [hp]))
      hheld1 with ⟨htail, hreturns⟩
    rw [bind_run_ok hrun]
    rcases hmap : (Prog.mapList (prepareDescendant (os world) root) plans).run s1 with
      ⟨e | others, s2⟩
    · rw [hmap] at htail
      rw [bind_run_error hmap]
      exact ⟨IsTrans.trans _ _ _ hfollows htail, fun _ _ h => by simp at h⟩
    rw [hmap] at htail
    rw [bind_run_ok hmap]
    refine ⟨IsTrans.trans _ _ _ hfollows htail, fun prepared t hdone => ?_⟩
    rcases pure_eq_ok_iff.mp hdone with ⟨-, rfl⟩
    rcases hreturns others s2 hmap with ⟨hall, hother⟩
    refine ⟨fun p hp => ?_, fun id hid => ?_⟩
    · rcases mem_cons.mp hp with rfl | hp
      · exact hprepared.evolves htail.1
      · exact hall p hp
    · rw [map_cons, mem_cons, not_or] at hid
      rw [hother id hid.2, hframe id hid.1]

/-- Settling directories keeps places. -/
theorem settleDescendant_follows (current : Record) :
    Moves Follows (settleDescendant (Disk.os world) attemptId current) :=
  moves_bind (transition_follows world ⟨rfl, rfl⟩ rfl) (fun _ => moves_pure _)

/-- What a group leaves: it is enough that some property withstands the removal
    of the root, once the directories below are announced. -/
theorem reclaimGroup_leaves {J : Machine (Disk E) → Prop} {group : PlanGroup}
    (hfollows : ∀ s t, I s → Follows s t → I t)
    (hprepare : ∀ s, I s → (∀ plan ∈ group.2, Prepared group.1 plan s.journal) → J s)
    (hroot : Withstands world group.1 J) (hback : ∀ s, J s → I s)
    (hnodup : ((group.1 :: group.2).map Plan.resourceId).Nodup)
    (hdirectory : ∀ plan ∈ group.1 :: group.2, plan.record.IsDirectory)
    (hheld : ∀ plan ∈ group.1 :: group.2, s.journal.find? plan.resourceId = some plan.record)
    (hs : I s) : I ((reclaimGroup (Disk.os world) attemptId group).run s).2 := by
  rcases nodup_cons.mp hnodup with ⟨hfresh, hrest⟩
  unfold reclaimGroup
  split
  · exact hfollows _ _ hs (moves_bind (markAmbiguous_follows world _ _ _)
      (fun _ => moves_pure _) s)
  next hfit =>
  have hfits : ∀ plan ∈ group.2, ¬ TargetConflict group.1 plan :=
    fun plan hplan hconflict => hfit ⟨plan, hplan, hconflict⟩
  rcases prepareDescendants_prepare world hrest
    (fun plan hplan => hdirectory plan (by simp [hplan])) hfits
    (fun plan hplan => hheld plan (by simp [hplan])) with ⟨hannounce, hreturns⟩
  refine leaves_bind (hfollows _ _ hs hannounce) (fun prepared s1 hrun hs1 => ?_)
  rcases hreturns prepared s1 hrun with ⟨hprepared, hframe⟩
  have hheld1 : s1.journal.find? group.1.resourceId = some group.1.record := by
    rw [hframe _ hfresh]
    exact hheld group.1 (by simp)
  refine leaves_bind (hback _ (reclaimFilesystem_leaves hroot (hprepare s1 hs1 hprepared)
    hheld1)) (fun item s2 _ hs2 => ?_)
  split
  · exact hfollows _ _ hs2 (moves_bind (moves_mapList _
      (fun current _ => settleDescendant_follows current)) (fun _ => moves_pure _) s2)
  · exact hs2

/-- What the third pass leaves: each group finds its records as they were
    planned, because the groups before it have touched their own only. -/
theorem reclaimGroups_leaves {groups : List PlanGroup}
    (hgroup : ∀ group ∈ groups, ∀ s, I s →
      (∀ plan ∈ group.1 :: group.2, s.journal.find? plan.resourceId = some plan.record) →
      I ((reclaimGroup (Disk.os world) attemptId group).run s).2)
    (hnodup : ((Forest.members groups).map Plan.resourceId).Nodup)
    (hdirectory : ∀ plan ∈ Forest.members groups, plan.record.IsDirectory)
    (hheld : ∀ plan ∈ Forest.members groups,
      s.journal.find? plan.resourceId = some plan.record) (hs : I s) :
    I ((Prog.mapList (reclaimGroup (Disk.os world) attemptId) groups).run s).2 := by
  induction groups generalizing s with
  | nil => exact hs
  | cons group groups ih =>
    have hmembers : Forest.members (group :: groups) =
        (group.1 :: group.2) ++ Forest.members groups := by simp [Forest.members]
    rw [hmembers] at hnodup hdirectory hheld
    rw [map_append] at hnodup
    rcases nodup_append.mp hnodup with ⟨-, hrest, hdisjoint⟩
    have hmine : ∀ plan ∈ group.1 :: group.2,
        s.journal.find? plan.resourceId = some plan.record :=
      fun plan hplan => hheld plan (mem_append_left _ hplan)
    refine leaves_bind (hgroup group (by simp) s hs hmine) (fun items s1 hrun hs1 => ?_)
    have hrecovers : Recovers (os world).sha256 someLease
        ((group.1 :: group.2).map Plan.resourceId) s s1 :=
      (reclaimGroup_guarantees (fun plan hplan => mem_map_of_mem hplan)).moves
        (fun plan hplan => ⟨.of_find? (hmine plan hplan),
          (hdirectory plan (mem_append_left _ hplan)).ne_process⟩) hrun
    have hlater : ∀ plan ∈ Forest.members groups,
        s1.journal.find? plan.resourceId = some plan.record := by
      intro plan hplan
      rw [hrecovers.frame]
      · exact hheld plan (mem_append_right _ hplan)
      · intro hid
        exact hdisjoint _ hid _ (mem_map_of_mem hplan) rfl
    refine leaves_bind (ih (fun g hg => hgroup g (by simp [hg])) hrest
      (fun plan hplan => hdirectory plan (mem_append_right _ hplan)) hlater hs1)
      (fun others s2 _ hs2 => hs2)

/-- Different members of groups are about different records. -/
theorem Surveyed.nodup_members {W : Type} {sha256 : List Char → Hex64} {survey : Survey}
    {s t : Machine W} (h : Surveyed sha256 lease survey s t) :
    ((Forest.members survey.groups).map Plan.resourceId).Nodup := by
  have hrecords : ((visitOrder survey.records).map Record.resourceId).Nodup :=
    ((((visitOrder_perm survey.records).trans h.records).map _).nodup_iff).mpr s.journal.distinct
  have hplans : (survey.plans.map Plan.resourceId).Nodup := by
    have hsub := ((plans_sublist h.visits).map Record.resourceId).nodup hrecords
    rw [map_map] at hsub
    exact hsub
  have hsafe : (survey.safePlans.map Plan.resourceId).Nodup :=
    (filter_sublist.map Plan.resourceId).nodup hplans
  exact ((survey.members_groups.map Plan.resourceId).nodup_iff).mpr hsafe

/-- What a whole recovery leaves on every exit. The groups are those of the
    survey the recovery has taken. -/
theorem reclaim_leaves {call : Call} (hs : I s)
    (hwithdraws : ∀ t, Withdraws s t → SameTree s t → I t)
    (hfollows : ∀ u t, I u → Follows u t → I t)
    (hgroup : ∀ survey t, (takeSurvey (Disk.os world) lease call).run s = (.ok survey, t) →
      ∀ group ∈ survey.groups, ∀ u, I u →
        (∀ plan ∈ group.1 :: group.2, u.journal.find? plan.resourceId = some plan.record) →
        I ((reclaimGroup (Disk.os world) call.attemptId group).run u).2) :
    I ((reclaim (Disk.os world) lease call).run s).2 := by
  have hsurvey : I ((takeSurvey (os world) lease call).run s).2 := by
    rcases takeSurvey_follows world lease call s with ⟨hw, htree⟩ | hf
    · exact hwithdraws _ hw htree
    · exact hfollows _ _ hs hf
  have hrecords : I ((reclaimRecords (os world) lease call).run s).2 := by
    refine leaves_bind hsurvey (fun survey t hrun ht => ?_)
    have hsurveyed := surveyed_of_run hrun
    have hsafe : ∀ plan ∈ Forest.members survey.groups, plan ∈ survey.safePlans :=
      fun plan hplan => survey.members_groups.subset hplan
    refine leaves_bind (reclaimGroups_leaves (hgroup survey t hrun) hsurveyed.nodup_members
      ?_ ?_ ht) (fun _ _ _ hu => hu)
    · exact fun plan hplan =>
        (hsurveyed.plannable (Survey.mem_plans_of_safe (hsafe plan hplan))).directory
    · exact fun plan hplan => hsurveyed.held plan (hsafe plan hplan)
  exact leaves_bind hrecords (fun recovered t _ ht =>
    leaves_bind (m := Prog.ofExcept _) ht (fun _ _ _ hu => hu))

end Group

/-! ### Sequences of recoveries -/

/-- What of a state root outlasts a controller: its journal and its tree. -/
structure StateRoot where
  journal : Journal
  tree : Tree

/-- One recovery of a state root, in any surroundings. It may stop at any
    point, and what it leaves counts. `P` restricts the surroundings, the lease
    and the state root it is started with, and the way it ends. -/
inductive Attempt (E F : Type)
    (P : Surroundings E F → Lease → StateRoot → Except Exn (List RecoveryItem × Receipt) → Prop) :
    StateRoot → StateRoot → Prop where
  | call {world : Surroundings E F} {lease : Lease} {call : Call} {journal : Journal}
    {tree : Tree} {env : E} {out : Except Exn (List RecoveryItem × Receipt)}
    {t : Machine (Disk E)}
    (hrun : (reclaim (Disk.os world) lease call).run ⟨journal, ⟨tree, env⟩⟩ = (out, t))
    (hP : P world lease ⟨journal, tree⟩ out) :
    Attempt E F P ⟨journal, tree⟩ ⟨t.journal, t.world.tree⟩

/-- A sequence of recoveries, each by a controller of its own. -/
def Attempts (E F : Type)
    (P : Surroundings E F → Lease → StateRoot → Except Exn (List RecoveryItem × Receipt) → Prop) :
    StateRoot → StateRoot → Prop :=
  Relation.ReflTransGen (Attempt E F P)

end MirrorGate
