import MirrorGate.Recovery.Updates

/-!
# What Recovering a Cgroup and Its Processes Guarantees

A cgroup is emptied and removed by calls that leave the journal alone, with
one publication in between for version 2. Whatever the operating system
answers, a version 2 cgroup is reported as reclaimed only with counters that
show it empty, because the journal accepts no others.

A process is settled by the cgroup that covers it. The evidence is read before
the first publication, and it is still there at the last one: a settled record
does not change.

## Main definitions

* `CgroupReport`: What recovering a cgroup returns.
* `TracksStarted`: The journal has a claim that was started.

## Theorems

* `reclaimCgroup_guarantees`: Recovering a cgroup.
* `coveringGroup_ok`: The covering cgroup that is found.
* `reclaimGroupProcess_guarantees`: Settling a process.
-/

namespace MirrorGate

open Prog

variable {W Fd : Type} {sha256 : List Char → Hex64} {lease : Lease} {ids : List String}
  {record : Record}

/-! ### Cgroups -/

section Cgroup

variable {os : Os W Fd} {R : Machine W → Machine W → Prop} [Std.Refl R] [IsTrans (Machine W) R]

theorem readAt_moves (h : Looks os R) (fd : Fd) (name : String) :
    Moves R (readAt os fd name) := by
  refine moves_bind (h.readAt fd name) (fun file => ?_)
  split
  · exact moves_raise _
  split
  · exact moves_raise _
  · exact moves_bind (moves_ofExcept _) (fun _ => moves_pure _)

theorem writeAt_moves (h : Looks os R) (fd : Fd) (name value : String) :
    Moves R (writeAt os fd name value) := by
  refine moves_bind (h.writeAt fd name _) (fun file => ?_)
  split
  · exact moves_raise _
  split
  · exact moves_raise _
  · exact moves_pure _

theorem existsAt_moves (h : Looks os R) (fd : Fd) (name : String) :
    Moves R (existsAt os fd name) := by
  refine moves_handle (moves_bind (h.statAt fd name) (fun _ => moves_pure _)) ?_
  intro e k hk
  split at hk
  · cases hk
    exact moves_pure _
  · cases hk

theorem readOptional_moves (h : Looks os R) (fd : Fd) (name : String) :
    Moves R (readOptional os fd name) := by
  refine moves_bind (existsAt_moves h fd name) (fun found => ?_)
  split
  · exact moves_bind (readAt_moves h fd name) (fun _ => moves_pure _)
  · exact moves_pure _

namespace CgroupSession

variable (session : CgroupSession Fd)

theorem validate_moves (h : Looks os R) : Moves R (session.validate os) := by
  refine moves_bind (h.fstat _) (fun info => ?_)
  refine moves_bind (h.statAt _ _) (fun current => ?_)
  split
  · exact moves_pure _
  · exact moves_raise _

theorem observe_moves (h : Looks os R) : Moves R (session.observe os) := by
  refine moves_bind (session.validate_moves h) (fun _ => ?_)
  refine moves_bind (moves_mapList _ (fun counter _ => ?_)) (fun _ => moves_pure _)
  exact moves_bind (readOptional_moves h _ _) (fun _ => moves_pure _)

theorem settings_moves (h : Looks os R) : Moves R (session.settings os) := by
  refine moves_bind (session.validate_moves h) (fun _ => ?_)
  refine moves_bind (readOptional_moves h _ _) (fun _ => ?_)
  refine moves_bind (readOptional_moves h _ _) (fun _ => ?_)
  refine moves_bind (readOptional_moves h _ _) (fun _ => ?_)
  exact moves_bind (readOptional_moves h _ _) (fun _ => moves_pure _)

section Cleanup

variable {P : Machine W → Prop} {beforeRemove : Counters → Py W Unit}

/-- Waiting for a cgroup to become empty does what is done before its removal,
    and nothing else apart from looking and removing. -/
theorem awaitEmpty_guarantees (h : Looks os R)
    (hrmdir : Moves R (perform (os.rmdir session.delegation session.name)))
    (hstable : ∀ s t, P s → R s t → P t)
    (hbefore : ∀ counters, Guarantees P R (beforeRemove counters) (fun _ _ => True))
    (deadline looks : Nat) :
    Guarantees P R (session.awaitEmpty os beforeRemove deadline looks)
      (fun _ _ => True) := by
  induction looks with
  | zero => exact guarantees_raise _
  | succ looks ih =>
    refine guarantees_then hstable h.monotonic (fun now => ?_)
    split
    · refine guarantees_then hstable (readAt_moves h _ _) (fun events => ?_)
      split
      · refine guarantees_then hstable (session.observe_moves h) (fun result => ?_)
        refine guarantees_bind hstable (hbefore result) (fun _ => ?_)
        refine Guarantees.pre (P := P) ?_ (fun _ hs => hs.1)
        exact guarantees_then hstable hrmdir
          (fun _ => guarantees_pure _ (fun _ _ => trivial))
      · exact guarantees_then hstable h.sleep (fun _ => ih)
    · exact guarantees_raise _

theorem cleanup_guarantees (h : Looks os R)
    (hrmdir : Moves R (perform (os.rmdir session.delegation session.name)))
    (hstable : ∀ s t, P s → R s t → P t)
    (hbefore : ∀ counters, Guarantees P R (beforeRemove counters) (fun _ _ => True)) :
    Guarantees P R (session.cleanup os beforeRemove) (fun _ _ => True) := by
  unfold cleanup
  refine guarantees_then hstable (session.validate_moves h) (fun _ => ?_)
  refine guarantees_then hstable (writeAt_moves h _ _ _) (fun _ => ?_)
  refine guarantees_then hstable h.monotonic (fun now => ?_)
  exact session.awaitEmpty_guarantees h hrmdir hstable hbefore (now + 5000000000) 251

end Cleanup

end CgroupSession

theorem pinCgroup_moves (h : Looks os R) (leaseNow : Lease) (delegation : Fd) (claim : Record)
    (identity : CgroupIdentity) :
    Moves R (pinCgroup os leaseNow delegation claim identity) := by
  have hcheck : ∀ (c : Prop) [Decidable c] (e : Exn),
      Moves R (if c then Prog.raise e else pure () : Py W Unit) := by
    intro c _ e
    split
    · exact moves_raise _
    · exact moves_pure _
  refine moves_bind (hcheck _ _) (fun _ => ?_)
  refine moves_bind ?_ (fun _ => ?_)
  · split
    · refine moves_bind (h.fstat _) (fun parent => ?_)
      split
      · exact moves_pure _
      · exact moves_raise _
    · exact moves_pure _
  refine moves_bind (h.openDir _ _) (fun fd => ?_)
  refine moves_bind (h.fstat _) (fun info => ?_)
  refine moves_bind ?_ (fun _ => ?_)
  · split
    · exact moves_pure _
    · exact moves_raise _
  refine moves_bind (h.fstat _) (fun pinned => ?_)
  exact moves_bind (CgroupSession.settings_moves _ h) (fun _ => moves_pure _)

end Cgroup

/-- Evidence in a valid record shows that no process was left. -/
theorem Record.Valid.quiet {record : Record} (h : record.Valid) {evidence : Evidence}
    (hevidence : record.cleanupEvidence = some evidence) : evidence.counters.Quiet := by
  have hcheck := h.evidence
  rw [hevidence, validateEvidence, unit_bind_eq_ok, require_eq_ok, require_eq_ok] at hcheck
  exact hcheck.2.2

/-- What recovering a cgroup returns: a report, and an observation of the same
    cgroup. A version 2 cgroup is reported as reclaimed only if it was seen
    empty. -/
def CgroupReport (record : Record) (outcome : RecoveryItem × CgroupObservation) (s : Machine W) :
    Prop :=
  Reports record outcome.1 s.journal ∧ outcome.2.resourceId = record.resourceId ∧
    (outcome.1.disposition = .reclaimed → record.schema = .v2 → outcome.2.counters.Quiet)

section ReclaimCgroup

variable {os : Os W Fd} {attemptId : String}

theorem cgroupUnconfirmed_guarantees (hid : record.resourceId ∈ ids) :
    Guarantees (TracksOther record) (Recovers sha256 lease ids)
      (cgroupUnconfirmed os attemptId record) (CgroupReport record) := by
  unfold cgroupUnconfirmed
  refine guarantees_bind tracksOther_stable
    ((markAmbiguous_guarantees (.refl record) hid (by decide)).pre (fun _ hs => hs.1))
    (fun item => ?_)
  refine guarantees_pure _ (fun s hs => ⟨hs.2.1, rfl, fun hreclaimed => ?_⟩)
  rw [hs.2.2] at hreclaimed
  cases hreclaimed

/-- The item of a settled cgroup, whatever phase it names. -/
theorem item_with_kind (hkind : record.kind = .cgroup) (phase : Phase) :
    { record.item .reclaimed none with kind := .cgroup, phase := phase } =
      { record.item .reclaimed none with phase := phase } := by
  simp [Record.item, hkind]

theorem cgroupMissing_guarantees (hkind : record.kind = .cgroup) (hvalid : record.Valid)
    (hid : record.resourceId ∈ ids) :
    Guarantees (TracksOther record) (Recovers sha256 lease ids)
      (cgroupMissing os attemptId record) (CgroupReport record) := by
  unfold cgroupMissing
  split
  · next evidence hevidence =>
    split
    · refine guarantees_bind tracksOther_stable
        (beginCleanup_guarantees (fun s hs => hs.maySettle _) tracksOther_stable hid) (fun _ => ?_)
      refine Guarantees.pre (P := TracksOther record) ?_ (fun _ hs => hs.1)
      refine guarantees_bind tracksOther_stable (transition_other_guarantees ⟨rfl, rfl⟩ hid)
        (fun terminal => ?_)
      refine guarantees_pure _ (fun s hs => ⟨?_, rfl, fun _ _ => hvalid.quiet hevidence⟩)
      rw [item_with_kind hkind]
      exact reports_reclaimed (.refl record) hs.2.1 hs.2.2.2
    · exact cgroupUnconfirmed_guarantees hid
  · exact cgroupUnconfirmed_guarantees hid

theorem persistEmpty_guarantees {settings : Settings} {counters : Counters}
    (hid : record.resourceId ∈ ids) :
    Guarantees (TracksOther record) (Recovers sha256 lease ids)
      (persistEmpty os record settings counters) (fun _ _ => True) := by
  unfold persistEmpty
  split
  · exact guarantees_pure _ (fun _ _ => trivial)
  · exact guarantees_bind tracksOther_stable (transition_other_guarantees ⟨rfl, rfl⟩ hid)
      (fun _ => guarantees_pure _ (fun _ _ => trivial))

/-- The final transition of a removed cgroup. The journal accepts it for
    version 2 only with counters that show the cgroup empty. -/
theorem cgroupTerminal_guarantees {settings : Settings} {counters : Counters}
    (hid : record.resourceId ∈ ids) :
    Guarantees (TracksOther record) (Recovers sha256 lease ids)
      (Journal.transition os.toJournalIo record.resourceId .reclaimed
        (cgroupTerminal attemptId record settings counters))
      (fun terminal s => HasPhase record (· = .reclaimed) terminal s ∧
        (record.schema = .v2 → counters.Quiet)) := by
  have hmove : Guarantees (TracksOther record) (Recovers sha256 lease ids)
      (Journal.transition os.toJournalIo record.resourceId .reclaimed
        (cgroupTerminal attemptId record settings counters))
      (HasPhase record (· = .reclaimed)) :=
    transition_other_guarantees ⟨rfl, rfl⟩ hid
  intro s hs
  refine ⟨(hmove s hs).1, fun terminal t hrun => ⟨hmove.returns hs hrun, fun hv2 => ?_⟩⟩
  rcases Journal.transition_ok hrun with ⟨old, hvalid, -, hupdate, -⟩
  rcases updateRecord_eq_ok.mp hupdate with ⟨-, -, -, target, -, hterminal⟩
  have hevidence : terminal.cleanupEvidence = some ⟨settings, counters⟩ := by
    rw [hterminal]
    simp [cgroupTerminal, hv2]
  have hquiet := hvalid.quiet hevidence
  exact hquiet

theorem cleanupCgroup_guarantees {session : CgroupSession Fd} {settings : Settings}
    (hid : record.resourceId ∈ ids) :
    Guarantees (TracksOther record) (Recovers sha256 lease ids)
      (cleanupCgroup os attemptId record session settings) (CgroupReport record) := by
  unfold cleanupCgroup
  refine guarantees_bind tracksOther_stable
    (beginCleanup_guarantees (fun s hs => hs.maySettle _) tracksOther_stable hid) (fun _ => ?_)
  refine Guarantees.pre (P := TracksOther record) ?_ (fun _ hs => hs.1)
  refine guarantees_bind tracksOther_stable (Q := fun _ _ => True) ?_ (fun outcome => ?_)
  · refine guarantees_handle tracksOther_stable ?_ ?_
    · refine guarantees_bind tracksOther_stable
        (session.cleanup_guarantees (looks_recovers os) (recovers_same (perform_same _))
          tracksOther_stable (fun _ => persistEmpty_guarantees hid))
        (fun _ => ?_)
      exact guarantees_pure _ (fun _ _ => trivial)
    · intro e k hk
      split at hk
      · cases hk
        exact guarantees_pure _ (fun _ _ => trivial)
      · cases hk
  refine Guarantees.pre (P := TracksOther record) ?_ (fun _ hs => hs.1)
  rcases outcome with _ | counters
  · -- The cgroup could not be emptied or removed, and the claim stays open.
    refine guarantees_then tracksOther_stable ?_ (fun counters => ?_)
    · refine moves_handle (session.observe_moves (looks_recovers os)) ?_
      intro e k hk
      split at hk
      · cases hk
        exact moves_pure _
      · cases hk
    · refine guarantees_bind tracksOther_stable
        (finishCleanup_guarantees (fun s hs => hs.maySettle _) tracksOther_stable hid)
        (fun failed => ?_)
      refine guarantees_pure _ (fun s hs => ⟨?_, rfl, fun hreclaimed => ?_⟩)
      · exact reports_of_reason hs.2.2.1 (by decide) (by decide) (by decide)
      · cases hreclaimed
  · refine guarantees_bind tracksOther_stable (cgroupTerminal_guarantees hid)
      (fun terminal => ?_)
    refine guarantees_pure _ (fun s hs => ⟨?_, rfl, fun _ hv2 => hs.2.2 hv2⟩)
    exact reports_reclaimed hs.2.1.2.1 hs.2.1.1 hs.2.1.2.2

/-- Recovering a cgroup. -/
theorem reclaimCgroup_guarantees {delegation : Fd} {leaseNow : Lease}
    (hkind : record.kind = .cgroup) (hvalid : record.Valid) (hid : record.resourceId ∈ ids) :
    Guarantees (TracksOther record) (Recovers sha256 lease ids)
      (reclaimCgroup os leaseNow attemptId delegation record) (CgroupReport record) := by
  unfold reclaimCgroup
  split
  · next identity hidentity =>
    refine guarantees_bind tracksOther_stable
      (Q := fun pinned s => ∀ outcome, pinned = Sum.inl outcome → CgroupReport record outcome s)
      ?_ (fun pinned => ?_)
    · refine guarantees_handle tracksOther_stable ?_ ?_
      · refine guarantees_then tracksOther_stable
          (pinCgroup_moves (looks_recovers os) leaseNow delegation record identity) (fun pinned => ?_)
        exact guarantees_pure _ (fun _ _ outcome houtcome => by cases houtcome)
      · intro e k hk
        have hreturn : ∀ m : Py W (RecoveryItem × CgroupObservation),
            Guarantees (TracksOther record) (Recovers sha256 lease ids) m
              (CgroupReport record) →
            Guarantees (TracksOther record) (Recovers sha256 lease ids)
              (do
                let outcome ← m
                pure (Sum.inl outcome :
                  (RecoveryItem × CgroupObservation) ⊕ (CgroupSession Fd × Settings)))
              (fun pinned s => ∀ outcome, pinned = Sum.inl outcome →
                CgroupReport record outcome s) := by
          intro m hm
          refine guarantees_bind tracksOther_stable hm (fun outcome => ?_)
          refine guarantees_pure _ (fun s hs found hfound => ?_)
          cases hfound
          exact hs.2
        split at hk
        all_goals cases hk
        · exact hreturn _ (cgroupMissing_guarantees hkind hvalid hid)
        all_goals exact hreturn _ (cgroupUnconfirmed_guarantees hid)
    · rcases pinned with outcome | ⟨session, settings⟩
      · exact guarantees_pure _ (fun s hs => hs.2 outcome rfl)
      · exact (cleanupCgroup_guarantees hid).pre (fun _ hs => hs.1)
  · exact cgroupUnconfirmed_guarantees hid

end ReclaimCgroup

/-! ### Processes -/

section Process

variable {os : Os W Fd} {attemptId : String}

/-- The covering cgroup that is found is in the journal and covers the
    process. -/
theorem coveringGroup_ok {s t : Machine W} {covering : Option Record}
    (h : (coveringGroup os lease record).run s = (.ok covering, t)) :
    t.journal = s.journal ∧ ∀ group, covering = some group →
      ∃ link, record.identity.groupLink = some link ∧
        s.journal.find? link.cgroupResourceId = some group ∧
        coveredBy os.sha256 lease record group := by
  unfold coveringGroup at h
  split at h
  · rcases pure_eq_ok_iff.mp h with ⟨rfl, rfl⟩
    exact ⟨rfl, fun group hgroup => by cases hgroup⟩
  next link hlink =>
  have hbody : Moves SameJournal
      (do
        let group ← Journal.read os.toJournalIo link.cgroupResourceId
        if coveredBy os.sha256 lease record group then pure (some group)
        else Prog.raise (.journal "process group ownership is unconfirmed") :
          Py W (Option Record)) := by
    refine moves_bind (Journal.read_same _ _) (fun group => ?_)
    split
    · exact moves_pure _
    · exact moves_raise _
  rcases handle_eq_ok_iff.mp h with h | ⟨e, u, k, hbad, hk, hrun⟩
  · rcases bind_eq_ok_iff.mp h with ⟨group, u, hread, h⟩
    rcases Journal.read_ok hread with ⟨hfind, hjournal, -⟩
    split at h
    · next hcovered =>
      rcases pure_eq_ok_iff.mp h with ⟨rfl, rfl⟩
      refine ⟨hjournal, fun group' hgroup' => ?_⟩
      cases hgroup'
      exact ⟨link, hlink, hfind, hcovered⟩
    · simp at h
  · have hu : u.journal = s.journal := hbody.of_run hbad
    have hnone : k = pure none := by
      split at hk
      all_goals cases hk
      all_goals rfl
    rw [hnone] at hrun
    rcases pure_eq_ok_iff.mp hrun with ⟨rfl, rfl⟩
    exact ⟨hu, fun group hgroup => by cases hgroup⟩

theorem coveringGroup_same : Moves SameJournal (coveringGroup os lease record) := by
  unfold coveringGroup
  split
  · exact moves_pure _
  · refine moves_handle ?_ ?_
    · refine moves_bind (Journal.read_same _ _) (fun group => ?_)
      split
      · exact moves_pure _
      · exact moves_raise _
    · intro e k hk
      split at hk
      all_goals first | cases hk; exact moves_pure _ | cases hk

/-- The journal has a record of this claim that was started. -/
def TracksStarted (record : Record) (s : Machine W) : Prop :=
  ∃ current, s.journal.find? record.resourceId = some current ∧ SameClaim record current ∧
    current.phase ≠ .allocationIntent

theorem tracksStarted_stable (s t : Machine W) (h : TracksStarted record s)
    (hrecovers : Recovers sha256 lease ids s t) : TracksStarted record t := by
  rcases h with ⟨current, hcurrent, hsame, hstarted⟩
  rcases Tracks.evolves ⟨current, hcurrent, hsame⟩ hrecovers with ⟨later, hlater, hsame'⟩
  rcases started_evolves hcurrent hstarted hrecovers with ⟨later', hlater', hstarted'⟩
  rw [hlater, Option.some.injEq] at hlater'
  exact ⟨later, hlater, hsame', hlater' ▸ hstarted'⟩

theorem TracksStarted.maySettle {s : Machine W} (h : TracksStarted record s) {phase : Phase}
    (hcovered : phase = .reclaimed → Covered sha256 lease s.journal record) :
    Tracks s.journal record ∧ MaySettle sha256 lease record phase s := by
  rcases h with ⟨current, hcurrent, hsame, hstarted⟩
  refine ⟨⟨current, hcurrent, hsame⟩, fun _ => Or.inr ⟨fun found hfound => ?_, hcovered⟩⟩
  rw [hcurrent, Option.some.injEq] at hfound
  rw [← hfound]
  exact hstarted

/-- Settling a process by its covering cgroup. -/
theorem reclaimGroupProcess_guarantees (hkind : record.kind = .process)
    (hv2 : record.schema = .v2) (hid : record.resourceId ∈ ids) :
    Guarantees (fun s => s.journal.find? record.resourceId = some record)
      (Recovers os.sha256 lease ids) (reclaimGroupProcess os lease attemptId record)
      (fun item t => Reports record item t.journal) := by
  have hitem : ∀ d reason phase, { record.item d reason with kind := .process, phase := phase } =
      { record.item d reason with phase := phase } := by
    intro d reason phase
    simp [Record.item, hkind]
  have hmark : ∀ reason, IsReceiptId reason →
      Guarantees (fun s => s.journal.find? record.resourceId = some record)
        (Recovers os.sha256 lease ids) (markAmbiguous os.toJournalIo record attemptId reason)
        (fun item t => Reports record item t.journal) := fun reason hreason =>
    ((markAmbiguous_guarantees (.refl record) hid hreason).pre
      (fun _ hs => .of_find? hs)).post (fun _ _ h => h.1)
  unfold reclaimGroupProcess
  intro s hs
  rcases hrun : (coveringGroup os lease record).run s with ⟨e | covering, t⟩
  · refine ⟨?_, fun item u hu => ?_⟩
    · rw [bind_run_error hrun]
      exact .of_eq (coveringGroup_same.of_run hrun)
    · rw [bind_run_error hrun] at hu
      simp at hu
  rcases coveringGroup_ok hrun with ⟨ht, hcovering⟩
  have hstart : t.journal.find? record.resourceId = some record := by rw [ht]; exact hs
  have hst : Recovers os.sha256 lease ids s t := .of_eq ht
  rw [bind_run_ok hrun]
  -- The rest starts from a journal that is still the one at the start.
  suffices hrest : ∀ m : Py W RecoveryItem,
      Guarantees (fun u : Machine W => u.journal = t.journal) (Recovers os.sha256 lease ids) m
        (fun item u => Reports record item u.journal) →
      Recovers os.sha256 lease ids s (m.run t).2 ∧
        ∀ item u, m.run t = (.ok item, u) → Reports record item u.journal by
    refine hrest _ ?_
    rcases covering with _ | group
    · exact (hmark _ (by decide)).pre (fun u hu => by rw [hu]; exact hstart)
    rcases hcovering group rfl with ⟨link, hlink, hgroup, hcovered⟩
    have hbegun : ∀ u : Machine W, u.journal = t.journal → TracksStarted record u := by
      intro u hu
      exact ⟨record, by rw [hu]; exact hstart, .refl record, hcovered.1⟩
    dsimp only
    split
    · exact (hmark _ (by decide)).pre (fun u hu => by rw [hu]; exact hstart)
    split
    · -- The covering cgroup is not settled, so the process stays open.
      refine Guarantees.pre (P := TracksStarted record) ?_ hbegun
      refine guarantees_bind tracksStarted_stable
        (beginCleanup_guarantees (fun u hu => hu.maySettle (fun h => absurd h (by decide))) tracksStarted_stable hid)
        (fun _ => ?_)
      refine Guarantees.pre (P := TracksStarted record) ?_ (fun _ hu => hu.1)
      refine guarantees_bind tracksStarted_stable
        (finishCleanup_guarantees (fun u hu => hu.maySettle (fun h => absurd h (by decide))) tracksStarted_stable hid)
        (fun failed => ?_)
      refine guarantees_pure _ (fun u _ => ?_)
      rw [hitem]
      exact reports_of_reason (.refl record) (by decide) (by decide) (by decide)
    split
    · exact (hmark _ (by decide)).pre (fun u hu => by rw [hu]; exact hstart)
    next hnotAmbiguous hreclaimed hseen =>
    -- The evidence is complete, and it lasts until the process is settled.
    have hevidence : ∀ u : Machine W, u.journal = t.journal →
        TracksStarted record u ∧ Covered os.sha256 lease u.journal record := by
      intro u hu
      refine ⟨hbegun u hu, hv2, link, group, hlink, ?_, hcovered, not_not.mp hreclaimed,
        not_not.mp hseen⟩
      rw [hu, ht]
      exact hgroup
    have hlasts : ∀ u v : Machine W, TracksStarted record u ∧ Covered os.sha256 lease u.journal record →
        Recovers os.sha256 lease ids u v →
        TracksStarted record v ∧ Covered os.sha256 lease v.journal record :=
      fun u v hu huv => ⟨tracksStarted_stable u v hu.1 huv, hu.2.evolves huv⟩
    refine Guarantees.pre (P := fun u : Machine W =>
      TracksStarted record u ∧ Covered os.sha256 lease u.journal record) ?_ hevidence
    refine guarantees_bind hlasts
      (beginCleanup_guarantees (fun u hu => hu.1.maySettle (fun h => absurd h (by decide))) hlasts hid) (fun _ => ?_)
    refine Guarantees.pre (P := fun u : Machine W =>
      TracksStarted record u ∧ Covered os.sha256 lease u.journal record) ?_ (fun _ hu => hu.1)
    refine guarantees_bind hlasts
      ((transition_guarantees ⟨rfl, rfl⟩ hid).pre (fun u hu => hu.1.maySettle (fun _ => hu.2)))
      (fun terminal => ?_)
    refine guarantees_pure _ (fun u hu => ?_)
    rw [hitem]
    exact reports_reclaimed (.refl record) hu.2.1 hu.2.2.2
  intro m hm
  have hboth := hm t rfl
  exact ⟨IsTrans.trans _ _ _ hst hboth.1, hboth.2⟩

end Process

end MirrorGate
