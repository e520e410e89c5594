import MirrorGate.Recovery.Updates

/-!
# What Recovering a Directory Guarantees

The recovery of a directory is followed step by step, under any operating
system. Looking for the object and removing a tree leave the journal alone.
Everything else is a publication about the directory's own record, and the
item that is returned reports that record.

## Theorems

* `validateFilesystem_moves`: Looking for a directory does nothing but look.
* `removeTreeAt_same`: Removing a tree leaves the journal alone.
* `validateFilesystem_reason`: The reasons for giving up are reason codes.
* `reclaimFilesystem_guarantees`: Recovering a directory.
-/

namespace MirrorGate

open Prog

variable {W Fd : Type} {sha256 : List Char → Hex64} {lease : Lease} {ids : List String}
  {record : Record}

section Looking

variable {os : Os W Fd} {R : Machine W → Machine W → Prop} [Std.Refl R] [IsTrans (Machine W) R]

theorem openPath_moves (h : Looks os R) (fd : Fd) (parts : List String) :
    Moves R (openPath os fd parts) := by
  induction parts generalizing fd with
  | nil => exact moves_pure _
  | cons part parts ih => exact moves_bind (h.openDir fd part) (fun next => ih next)

theorem openParent_moves (h : Looks os R) (relative : RelativePath) :
    Moves R (openParent os relative) := by
  refine moves_bind (h.dup _) (fun root => ?_)
  exact moves_bind (openPath_moves h root _) (fun _ => moves_pure _)

theorem readObject_moves (h : Looks os R) (relative : RelativePath) :
    Moves R (readObject os relative) := by
  refine moves_bind (openParent_moves h relative) (fun place => ?_)
  refine moves_bind (h.openDir _ _) (fun object => ?_)
  refine moves_bind (h.fstat object) (fun status => ?_)
  refine moves_bind (h.getxattr object) (fun data => ?_)
  exact moves_bind (moves_ofExcept _) (fun _ => moves_pure _)

theorem probe_moves (h : Looks os R) (relative : RelativePath) :
    Moves R (probe os relative) := by
  refine moves_handle ?_ ?_
  · exact moves_bind (readObject_moves h relative) (fun _ => moves_pure _)
  · intro e k hk
    split at hk
    all_goals first | cases hk; exact moves_pure _ | cases hk

theorem matchCandidates_moves (h : Looks os R) (identity : FilesystemIdentity)
    (candidates : List RelativePath) :
    Moves R (matchCandidates os identity candidates) := by
  induction candidates with
  | nil => exact moves_pure _
  | cons relative rest ih =>
    refine moves_bind (probe_moves h relative) (fun found => ?_)
    split
    · exact moves_pure _
    · refine moves_bind ih (fun others => ?_)
      split
      · exact moves_pure _
      · exact moves_pure _

/-- Looking for a directory does nothing but look. -/
theorem validateFilesystem_moves (h : Looks os R) (identity : FilesystemIdentity)
    (target : Option RelativePath) :
    Moves R (validateFilesystem os identity target) := by
  unfold validateFilesystem
  split
  · exact moves_pure _
  · refine moves_bind (matchCandidates_moves h identity _) (fun found => ?_)
    split
    all_goals exact moves_pure _

end Looking

variable {reason : String}

/-- The reasons a probe can give. -/
theorem probe_reason {os : Os W Fd} {relative : RelativePath} {s t : Machine W}
    (h : (probe os relative).run s = (.ok (.error reason), t)) :
    reason = "path_validation_failed" := by
  unfold probe at h
  rcases handle_eq_ok_iff.mp h with h | ⟨e, u, k, -, hk, hrun⟩
  · rcases bind_eq_ok_iff.mp h with ⟨object, v, -, h⟩
    cases (pure_eq_ok_iff.mp h).1
  · split at hk
    · cases hk
      cases (pure_eq_ok_iff.mp hrun).1
    · cases hk
      cases (pure_eq_ok_iff.mp hrun).1
      rfl
    · cases hk
      cases (pure_eq_ok_iff.mp hrun).1
      rfl
    · cases hk

variable {identity : FilesystemIdentity}

theorem judge_reason
    {found : Except String (Option (Stat × String))}
    (hfound : ∀ r, found = .error r → IsReceiptId r)
    (h : judge identity found = .error reason) : IsReceiptId reason := by
  rcases found with r | _ | ⟨status, token⟩
  · cases h
    exact hfound _ rfl
  · cases h
  · simp only [judge] at h
    split at h
    · cases h
      decide
    · split at h
      · cases h
      · cases h
        decide

theorem matchCandidates_reason {os : Os W Fd}
    (candidates : List RelativePath) {s t : Machine W}
    (h : (matchCandidates os identity candidates).run s = (.ok (.error reason), t)) :
    IsReceiptId reason := by
  induction candidates generalizing s t with
  | nil =>
    cases (pure_eq_ok_iff.mp h).1
  | cons relative rest ih =>
    rcases bind_eq_ok_iff.mp h with ⟨found, u, hfound, h⟩
    rcases hjudge : judge identity found with r | isThere
    · rw [hjudge] at h
      cases (pure_eq_ok_iff.mp h).1
      refine judge_reason (fun r hr => ?_) hjudge
      rw [hr] at hfound
      rw [probe_reason hfound]
      decide
    · rw [hjudge] at h
      rcases bind_eq_ok_iff.mp h with ⟨others, v, hothers, h⟩
      rcases others with r | paths
      · cases (pure_eq_ok_iff.mp h).1
        exact ih hothers
      · cases (pure_eq_ok_iff.mp h).1

/-- The reasons for which a directory is not found are reason codes. -/
theorem validateFilesystem_reason {os : Os W Fd}
    {target : Option RelativePath} {s t : Machine W}
    (h : (validateFilesystem os identity target).run s = (.ok (.error reason), t)) :
    IsReceiptId reason := by
  unfold validateFilesystem at h
  split at h
  · cases (pure_eq_ok_iff.mp h).1
    decide
  · rcases bind_eq_ok_iff.mp h with ⟨found, u, hfound, h⟩
    split at h
    · cases (pure_eq_ok_iff.mp h).1
      exact matchCandidates_reason _ hfound
    · cases (pure_eq_ok_iff.mp h).1
      decide
    · cases (pure_eq_ok_iff.mp h).1
    · cases (pure_eq_ok_iff.mp h).1
      decide

theorem validateFilesystem_guarantees {os : Os W Fd}
    {target : Option RelativePath} {P : Machine W → Prop} :
    Guarantees P (Recovers sha256 lease ids) (validateFilesystem os identity target)
      (fun checked _ => ∀ reason, checked = .error reason → IsReceiptId reason) := by
  intro s _
  refine ⟨.of_eq (validateFilesystem_moves (looks_same os) identity target s), fun checked t hrun reason hr => ?_⟩
  rw [hr] at hrun
  exact validateFilesystem_reason hrun

theorem checkBudget_same (os : Os W Fd) (deadline entries : Nat) :
    Moves SameJournal (checkBudget os deadline entries) := by
  unfold checkBudget
  split
  · exact moves_raise _
  · refine moves_bind (looks_same os).monotonic (fun now => ?_)
    split
    · exact moves_raise _
    · exact moves_pure _

theorem checkBoundary_same (device uid : Nat) (status : Stat) :
    Moves SameJournal (checkBoundary device uid status : Py W Unit) := by
  unfold checkBoundary
  split
  · exact moves_raise _
  · exact moves_pure _

theorem removeEntries_same (os : Os W Fd) (device uid deadline : Nat)
    {removeDirectory : Fd → String → Nat → Py W Nat}
    (hremove : ∀ fd name entries, Moves SameJournal (removeDirectory fd name entries))
    (fd : Fd) (children : List String) (entries : Nat) :
    Moves SameJournal
      (removeEntries os device uid deadline removeDirectory fd children entries) := by
  induction children generalizing entries with
  | nil => exact moves_pure _
  | cons child children ih =>
    refine moves_bind (checkBudget_same os deadline _) (fun _ => ?_)
    refine moves_bind (perform_same _) (fun info => ?_)
    refine moves_bind (checkBoundary_same device uid info) (fun _ => ?_)
    refine moves_bind ?_ (fun removed => ih removed)
    split
    · exact hremove fd child _
    · exact moves_bind (perform_same _) (fun _ => moves_pure _)

theorem removeTree_same (os : Os W Fd) (device uid deadline levels : Nat) (parent : Fd)
    (name : String) (entries : Nat) :
    Moves SameJournal (removeTree os device uid deadline levels parent name entries) := by
  induction levels generalizing parent name entries with
  | zero => exact moves_raise _
  | succ levels ih =>
    refine moves_bind (checkBudget_same os deadline _) (fun _ => ?_)
    refine moves_bind (perform_same _) (fun fd => ?_)
    refine moves_bind (perform_same _) (fun opened => ?_)
    refine moves_bind (checkBoundary_same device uid opened) (fun _ => ?_)
    refine moves_bind (perform_same _) (fun _ => ?_)
    refine moves_bind (perform_same _) (fun children => ?_)
    refine moves_bind (removeEntries_same os device uid deadline
      (fun fd name entries => ih fd name entries) fd children entries) (fun removed => ?_)
    exact moves_bind (perform_same _) (fun _ => moves_pure _)

/-- Removing a tree leaves the journal alone. -/
theorem removeTreeAt_same (os : Os W Fd) (device uid : Nat) (parent : Fd) (name : String) :
    Moves SameJournal (removeTreeAt os device uid parent name) := by
  refine moves_bind (looks_same os).monotonic (fun now => ?_)
  exact moves_bind (removeTree_same os device uid _ 65 parent name 0)
    (fun _ => moves_pure _)

section Reclaim

variable {os : Os W Fd} {attemptId : String}

theorem enterCleanup_guarantees (hid : record.resourceId ∈ ids) :
    Guarantees (TracksOther record) (Recovers sha256 lease ids) (enterCleanup os record)
      (fun entered _ => ∀ current, entered = some current → SameClaim record current) := by
  have hdone : ∀ p : Phase → Prop, ∀ current : Record,
      Guarantees (fun s => TracksOther record s ∧ HasPhase record p current s)
        (Recovers sha256 lease ids) (pure (some current) : Py W (Option Record))
        (fun entered _ => ∀ latest, entered = some latest → SameClaim record latest) := by
    intro p current
    refine guarantees_pure _ (fun s hs latest hlatest => ?_)
    cases hlatest
    exact hs.2.2.1
  have hmove : Guarantees (TracksOther record) (Recovers sha256 lease ids)
      (do
        let current ← Journal.transition os.toJournalIo record.resourceId .cleanupIntent
          { cleanupTarget := some (ownTarget record.resourceId) }
        pure (some current))
      (fun entered _ => ∀ latest, entered = some latest → SameClaim record latest) :=
    guarantees_bind tracksOther_stable (transition_other_guarantees ⟨rfl, rfl⟩ hid) (hdone _)
  have hnone : Guarantees (TracksOther record) (Recovers sha256 lease ids)
      (pure none : Py W (Option Record))
      (fun entered _ => ∀ latest, entered = some latest → SameClaim record latest) :=
    guarantees_pure _ (fun s _ latest hlatest => by cases hlatest)
  unfold enterCleanup
  split
  · split
    · exact guarantees_bind tracksOther_stable (setCleanupTarget_guarantees hid) (hdone _)
    · refine guarantees_pure _ (fun s _ latest hlatest => ?_)
      cases hlatest
      exact .refl record
  all_goals first | exact hmove | exact hnone | skip
  split
  · exact hmove
  · exact hnone

variable {current : Record}

/-- Recording a failed removal. -/
theorem cleanupFailed_guarantees {reason : String}
    (hsame : SameClaim record current) (hid : record.resourceId ∈ ids)
    (hreason : IsReceiptId reason) :
    Guarantees (TracksOther record) (Recovers sha256 lease ids)
      (cleanupFailed os attemptId current reason)
      (fun item t => Reports record item t.journal ∧ item.disposition = .failed) := by
  unfold cleanupFailed
  rw [hsame.resourceId]
  refine guarantees_bind tracksOther_stable (transition_other_guarantees ⟨rfl, rfl⟩ hid)
    (fun latest => ?_)
  exact guarantees_pure _ (fun s hs =>
    ⟨reports_of_reason hs.2.2.1 (by decide) (by decide) hreason, rfl⟩)

/-- What the steps of a removal return: an item that reports the claim, if
    they end it. -/
def EndsWith (record : Record) (outcome : Option RecoveryItem) (s : Machine W) : Prop :=
  ∀ item, outcome = some item → Reports record item s.journal

theorem endsWith_item {m : Py W RecoveryItem} {d : Disposition}
    (h : Guarantees (TracksOther record) (Recovers sha256 lease ids) m
      (fun item t => Reports record item t.journal ∧ item.disposition = d)) :
    Guarantees (TracksOther record) (Recovers sha256 lease ids)
      (do
        let item ← m
        pure (some item))
      (EndsWith record) := by
  refine guarantees_bind tracksOther_stable h (fun item => ?_)
  refine guarantees_pure _ (fun s hs found hfound => ?_)
  cases hfound
  exact hs.2.1

/-- The end of a removal that is not over. -/
theorem endsWith_none {P : Machine W → Prop} :
    Guarantees P (Recovers sha256 lease ids) (pure none : Py W (Option RecoveryItem))
      (EndsWith record) :=
  guarantees_pure _ (fun _ _ item hitem => by cases hitem)

theorem endsWith_ambiguous {reason : String} (hsame : SameClaim record current)
    (hid : record.resourceId ∈ ids) (hreason : IsReceiptId reason) :
    Guarantees (TracksOther record) (Recovers sha256 lease ids)
      (do
        let item ← markAmbiguous os.toJournalIo current attemptId reason
        pure (some item))
      (EndsWith record) :=
  endsWith_item ((markAmbiguous_guarantees hsame hid hreason).pre (fun _ hs => hs.1))

theorem quarantine_guarantees {located : RelativePath} {parent quarantineFd : Fd}
    {leaf : String} (hsame : SameClaim record current) (hid : record.resourceId ∈ ids) :
    Guarantees (TracksOther record) (Recovers sha256 lease ids)
      (quarantine os attemptId current located parent leaf quarantineFd) (EndsWith record) := by
  unfold quarantine
  split
  · exact endsWith_none
  · refine guarantees_then tracksOther_stable ((looks_recovers os).cut _) (fun _ => ?_)
    refine guarantees_bind tracksOther_stable (Q := EndsWith record) ?_ (fun failed => ?_)
    · refine guarantees_handle tracksOther_stable ?_ ?_
      · exact guarantees_then tracksOther_stable (recovers_same (perform_same _))
          (fun _ => endsWith_none)
      · intro e k hk
        split at hk
        · cases hk
          exact endsWith_item (cleanupFailed_guarantees hsame hid (by decide))
        · cases hk
    · split
      · exact guarantees_pure _ (fun s hs => hs.2)
      · exact (guarantees_then tracksOther_stable ((looks_recovers os).cut _)
          (fun _ => endsWith_none)).pre (fun _ hs => hs.1)

variable {identity : FilesystemIdentity}

theorem removeQuarantined_guarantees
    {quarantineFd : Fd} (hsame : SameClaim record current) (hid : record.resourceId ∈ ids) :
    Guarantees (TracksOther record) (Recovers sha256 lease ids)
      (removeQuarantined os attemptId current identity quarantineFd) (EndsWith record) := by
  unfold removeQuarantined
  refine guarantees_then tracksOther_stable (recovers_same (perform_same _)) (fun moved => ?_)
  split
  · refine guarantees_then tracksOther_stable
      (recovers_same (removeTreeAt_same os _ _ _ _)) (fun _ => ?_)
    exact guarantees_then tracksOther_stable ((looks_recovers os).cut _)
      (fun _ => endsWith_none)
  · exact endsWith_ambiguous hsame hid (by decide)

theorem moveAndRemove_guarantees
    {located : RelativePath} {parent quarantineFd : Fd} {leaf : String}
    (hsame : SameClaim record current) (hid : record.resourceId ∈ ids) :
    Guarantees (TracksOther record) (Recovers sha256 lease ids)
      (moveAndRemove os attemptId current identity located parent leaf quarantineFd)
      (EndsWith record) := by
  unfold moveAndRemove
  refine guarantees_then tracksOther_stable (recovers_same (perform_same _)) (fun pinned => ?_)
  refine guarantees_then tracksOther_stable (recovers_same (perform_same _)) (fun status => ?_)
  refine guarantees_then tracksOther_stable (recovers_same (perform_same _)) (fun data => ?_)
  refine guarantees_then tracksOther_stable (moves_ofExcept _) (fun token => ?_)
  split
  · refine guarantees_bind tracksOther_stable (quarantine_guarantees hsame hid)
      (fun failed => ?_)
    split
    · exact guarantees_pure _ (fun s hs => hs.2)
    · exact (removeQuarantined_guarantees hsame hid).pre (fun _ hs => hs.1)
  · exact endsWith_ambiguous hsame hid (by decide)

theorem reclaimPrepared_guarantees
    (hsame : SameClaim record current) (hid : record.resourceId ∈ ids) :
    Guarantees (TracksOther record) (Recovers sha256 lease ids)
      (reclaimPrepared os attemptId current identity)
      (fun item t => Reports record item t.journal) := by
  unfold reclaimPrepared
  refine guarantees_then tracksOther_stable ((looks_recovers os).cut _) (fun _ => ?_)
  refine guarantees_bind tracksOther_stable validateFilesystem_guarantees (fun checked => ?_)
  rcases checked with reason | located
  · intro s hs
    exact ((markAmbiguous_guarantees hsame hid (hs.2 reason rfl)).post (fun _ _ h => h.1)) s hs.1.1
  refine Guarantees.pre (P := TracksOther record) ?_ (fun _ hs => hs.1)
  refine guarantees_then tracksOther_stable (openParent_moves (looks_recovers os) _)
    (fun place => ?_)
  refine guarantees_then tracksOther_stable (recovers_same (perform_same _))
    (fun quarantineFd => ?_)
  refine guarantees_bind tracksOther_stable (Q := EndsWith record) ?_ (fun outcome => ?_)
  · refine guarantees_handle tracksOther_stable (moveAndRemove_guarantees hsame hid) ?_
    intro e k hk
    split at hk
    · cases hk
      exact endsWith_item (cleanupFailed_guarantees hsame hid (by decide))
    · cases hk
  rcases outcome with _ | item
  · refine Guarantees.pre (P := TracksOther record) ?_ (fun _ hs => hs.1)
    rw [hsame.resourceId]
    refine guarantees_bind tracksOther_stable (transition_other_guarantees ⟨rfl, rfl⟩ hid)
      (fun terminal => ?_)
    -- The record is settled before the last cut point, and the report says so.
    have hreport : ∀ s : Machine W, TracksOther record s ∧ HasPhase record (· = .reclaimed) terminal s →
        Reports record (terminal.item .reclaimed none) s.journal :=
      fun s hs => reports_reclaimed hs.2.2.1 hs.2.1 hs.2.2.2
    refine Guarantees.pre (P := fun s : Machine W =>
      Reports record (terminal.item .reclaimed none) s.journal) ?_ hreport
    exact guarantees_then (fun s t hs ht => hs.evolves ht) ((looks_recovers os).cut _)
      (fun _ => guarantees_pure _ (fun _ hs => hs))
  · exact guarantees_pure _ (fun s hs => hs.2 item rfl)

/-- Recovering a directory. -/
theorem reclaimFilesystem_guarantees {plan : Plan} (hid : plan.resourceId ∈ ids) :
    Guarantees (TracksOther plan.record) (Recovers sha256 lease ids)
      (reclaimFilesystem os attemptId plan) (fun item t => Reports plan.record item t.journal) := by
  unfold reclaimFilesystem
  refine guarantees_bind tracksOther_stable validateFilesystem_guarantees (fun checked => ?_)
  rcases checked with reason | located
  · intro s hs
    exact ((markAmbiguous_guarantees (.refl _) hid (hs.2 reason rfl)).post (fun _ _ h => h.1)) s
      hs.1.1
  refine Guarantees.pre (P := TracksOther plan.record) ?_ (fun _ hs => hs.1)
  refine guarantees_bind tracksOther_stable (enterCleanup_guarantees hid) (fun entered => ?_)
  rcases entered with _ | current
  · exact ((markAmbiguous_guarantees (.refl _) hid (by decide)).pre (fun _ hs => hs.1.1)).post
      (fun _ _ h => h.1)
  · intro s hs
    exact reclaimPrepared_guarantees (hs.2 current rfl) hid s hs.1

end Reclaim

end MirrorGate
