import MirrorGate.Recovery.Passes

/-!
# What Lies Below a Safe Directory

A directory may be removed only if nothing in it has to stay. The second pass
sees to that in two ways, by path and by session, and a plan that it blocks
protects nothing in turn. That this is enough rests on the layout of the
state root: directories of one session are inside one another, and only the
controller has directories with other sessions inside.

`Surveyed.below_safe` is the result. Below the path of a safe plan there are
only directories that are gone already and directories that are planned and
safe themselves. Grouping then puts the latter into one group with the plan.

## Main definitions

* `Layout`: Where sessions keep their directories.

## Theorems

* `Surveyed.visit_of_mem`: Every record was visited.
* `Surveyed.below_safe`: What lies below a safe plan.
* `Surveyed.mem_group_of_above`: It is in the same group.
-/

namespace MirrorGate

open List

variable {W : Type}

namespace RelativePath

theorem Above.trans {a b c : RelativePath} (h1 : a.Above b) (h2 : b.Above c) : a.Above c := by
  refine ⟨h1.1.trans h2.1, ?_⟩
  rintro rfl
  exact h1.2 (RelativePath.ext (h1.1.eq_of_length_le h2.1.length_le))

/-- A path above another one is shorter. -/
theorem Above.length_lt {a b : RelativePath} (h : a.Above b) :
    a.parts.length < b.parts.length := by
  have hle := h.1.length_le
  by_contra hge
  exact h.2 (RelativePath.ext (h.1.eq_of_length_le (by omega)))

/-- Two paths above a third one lie on one line. -/
theorem Above.comparable {a b c : RelativePath} (ha : a.Above c) (hb : b.Above c) :
    a.Above b ∨ b.Above a ∨ a = b := by
  by_cases heq : a = b
  · exact Or.inr (Or.inr heq)
  rcases prefix_or_prefix_of_prefix ha.1 hb.1 with h | h
  · exact Or.inl ⟨h, heq⟩
  · exact Or.inr (Or.inl ⟨h, Ne.symm heq⟩)

end RelativePath

/-- How a controller lays out its state root: every directory has its own
    path, and a directory with another one below it belongs to the same
    session or to the controller. -/
structure Layout (journal : Journal) : Prop where
  distinct : ∀ a ∈ journal.records, ∀ b ∈ journal.records, a.IsDirectory → b.IsDirectory →
    ∀ path, recordPath a = some path → recordPath b = some path → a = b
  nested : ∀ a ∈ journal.records, ∀ b ∈ journal.records, a.IsDirectory → b.IsDirectory →
    ∀ path below, recordPath a = some path → recordPath b = some below → path.Above below →
    a.sessionId = b.sessionId ∨ a.sessionId = controllerSession

/-- The layout as a condition on pairs of records. -/
theorem layout_iff {journal : Journal} :
    Layout journal ↔ ∀ a ∈ journal.records, ∀ b ∈ journal.records, a.IsDirectory → b.IsDirectory →
      ∀ path ∈ recordPath a, ∀ below ∈ recordPath b,
        (path = below → a.resourceId = b.resourceId) ∧
        (path.Above below → a.sessionId = b.sessionId ∨ a.sessionId = controllerSession) := by
  constructor
  · intro h a ha b hb hadir hbdir path hpath below hbelow
    refine ⟨fun heq => ?_, h.nested a ha b hb hadir hbdir path below hpath hbelow⟩
    rw [h.distinct a ha b hb hadir hbdir path hpath (heq ▸ hbelow)]
  · intro h
    refine ⟨fun a ha b hb hadir hbdir path hapath hbpath => ?_,
      fun a ha b hb hadir hbdir path below hpath hbelow =>
        (h a ha b hb hadir hbdir path hpath below hbelow).2⟩
    have hid := (h a ha b hb hadir hbdir path hapath path hbpath).1 rfl
    exact inj_on_of_nodup_map journal.distinct ha hb hid

instance (journal : Journal) : Decidable (Layout journal) := decidable_of_iff _ layout_iff.symm

theorem Plan.recordPath_record (plan : Plan) : recordPath plan.record = some plan.path := by
  unfold recordPath
  rw [plan.identity_eq]
  rfl

/-- A protection by path that blocks a directory blocks what is above it. -/
theorem Protection.blocks_above {protection : Protection} {path : RelativePath}
    (hpath : protection.path = some path) {plan : Plan}
    (h : plan.path = path ∨ plan.path.Above path) : protection.Blocks plan := by
  unfold Protection.Blocks
  rw [hpath]
  exact h

theorem blockers_ne_nil {protections : List Protection} {protection : Protection} {plan : Plan}
    (hmem : protection ∈ protections) (h : protection.Blocks plan) :
    blockers protections plan ≠ [] := by
  intro hnil
  unfold blockers at hnil
  rw [map_eq_nil_iff, filter_eq_nil_iff] at hnil
  exact hnil protection hmem (decide_eq_true h)

theorem exists_blocks {protections : List Protection} {plan : Plan}
    (h : blockers protections plan ≠ []) :
    ∃ protection ∈ protections, protection.Blocks plan := by
  by_contra hnone
  refine h ?_
  unfold blockers
  rw [map_eq_nil_iff, filter_eq_nil_iff]
  intro protection hmem hblocks
  exact hnone ⟨protection, hmem, of_decide_eq_true hblocks⟩

section Surveyed

variable {sha256 : List Char → Hex64} {lease : Lease} {survey : Survey} {s t : Machine W}

/-- Every record of the journal was visited. -/
theorem Surveyed.visit_of_mem (h : Surveyed sha256 lease survey s t) {record : Record}
    (hrecord : record ∈ s.journal.records) :
    ∃ v ∈ survey.visits, VisitReport lease record t.journal v := by
  have hmem : record ∈ visitOrder survey.records :=
    ((visitOrder_perm survey.records).trans h.records).mem_iff.mpr hrecord
  exact Fallible.exists_of_mem_left h.visits hmem

theorem Surveyed.mem_protections {protection : Protection} {item : RecoveryItem}
    {observation : Option CgroupObservation}
    (h : Visit.settled item observation (some protection) ∈ survey.visits) :
    protection ∈ survey.protections :=
  mem_filterMap.mpr ⟨_, h, rfl⟩

/-- Nothing blocks a safe plan. -/
theorem Survey.not_blocks {plan : Plan} (hplan : plan ∈ survey.safePlans) {protection : Protection}
    (hmem : protection ∈ survey.protections) : ¬ protection.Blocks plan := by
  intro hblocks
  have hsafe := (mem_filter.mp hplan).2
  exact blockers_ne_nil hmem hblocks (of_decide_eq_true hsafe)

/-- A directory was reclaimed before the recovery, and is reported so. -/
def FoundReclaimed (survey : Survey) (record : Record) : Prop :=
  record.phase = .reclaimed ∧
    ∃ item ∈ survey.items, item.resourceId = record.resourceId ∧ item.disposition = .reclaimed

/-- A directory that was visited and not planned is reclaimed, or protected by
    its path. -/
theorem Surveyed.settled_directory {record : Record} {journal : Journal} {v : Visit}
    (hv : v ∈ survey.visits) (hreport : VisitReport lease record journal v)
    (hdirectory : record.IsDirectory) :
    FoundReclaimed survey record ∨
      (∃ protection ∈ survey.protections, protection.path = recordPath record) ∨
      ∃ plan ∈ survey.plans, plan.record = record := by
  cases hreport with
  | settled hreports hguard hreclaimed hobserved hquiet =>
    rcases hguard with ⟨protection, rfl, -, hpath⟩ | ⟨-, hitem⟩
    · rw [if_pos (Or.inl hdirectory)] at hpath
      exact Or.inr (Or.inl ⟨protection, Surveyed.mem_protections hv, hpath⟩)
    · refine Or.inl ⟨hreclaimed hdirectory (hitem hdirectory), _, ?_, hreports.resourceId,
        hitem hdirectory⟩
      exact mem_append_left _ (mem_filterMap.mpr ⟨_, hv, rfl⟩)
  | @planned plan hrecord hplan =>
    exact Or.inr (Or.inr ⟨plan, mem_filterMap.mpr ⟨_, hv, rfl⟩, hrecord⟩)

/-- Below a safe plan there is nothing but what is reclaimed and what is
    planned and safe as well. -/
theorem Surveyed.below_safe (h : Surveyed sha256 lease survey s t) (hlayout : Layout s.journal)
    {plan : Plan} (hplan : plan ∈ survey.safePlans) {record : Record}
    (hrecord : record ∈ s.journal.records) (hdirectory : record.IsDirectory) {path : RelativePath}
    (hpath : recordPath record = some path) (habove : plan.path.Above path) :
    FoundReclaimed survey record ∨ ∃ below ∈ survey.safePlans, below.record = record := by
  rcases h.visit_of_mem hrecord with ⟨v, hv, hreport⟩
  rcases Surveyed.settled_directory hv hreport hdirectory with
    hreclaimed | ⟨protection, hprotection, hprotected⟩ | ⟨below, hbelow, rfl⟩
  · exact Or.inl hreclaimed
  · -- A protection below the plan would block it.
    refine absurd ?_ (Survey.not_blocks hplan hprotection)
    exact Protection.blocks_above (hprotected.trans hpath) (Or.inr habove)
  · refine Or.inr ⟨below, ?_, rfl⟩
    have hbelowPath : below.path = path := by
      rw [below.recordPath_record, Option.some.injEq] at hpath
      exact hpath
    refine mem_filter.mpr ⟨hbelow, decide_eq_true ?_⟩
    by_contra hblocked
    rcases exists_blocks hblocked with ⟨protection, hprotection, hblocks⟩
    refine Survey.not_blocks hplan hprotection ?_
    unfold Protection.Blocks at hblocks ⊢
    rcases hpath' : protection.path with _ | child
    · -- Blocked by its session: the plan belongs to it or to the controller.
      rw [hpath'] at hblocks
      have hplanMem := h.mem_records (Survey.mem_plans_of_safe hplan)
      have hplanDir := (h.plannable (Survey.mem_plans_of_safe hplan)).directory
      rcases hlayout.nested _ hplanMem _ hrecord hplanDir hdirectory _ _
        plan.recordPath_record hpath habove with hsame | hcontroller
      · simp only at hblocks ⊢
        rw [hsame]
        exact hblocks
      · exact Or.inr hcontroller
    · -- Blocked by a path at or below it, which is below the plan too.
      rw [hpath'] at hblocks
      simp only at hblocks ⊢
      rcases hblocks with heq | hchild
      · exact Or.inr (heq ▸ hbelowPath ▸ habove)
      · exact Or.inr (habove.trans (hbelowPath ▸ hchild))

theorem Surveyed.nodup_plans (h : Surveyed sha256 lease survey s t) : survey.plans.Nodup := by
  have hrecords : (visitOrder survey.records).Nodup :=
    ((visitOrder_perm survey.records).trans h.records).nodup_iff.mpr
      (List.Nodup.of_map Record.resourceId s.journal.distinct)
  exact List.Nodup.of_map Plan.record ((plans_sublist h.visits).nodup hrecords)

/-- Two plans for one record are the same. -/
theorem Plan.eq_of_record {a b : Plan} (h : a.record = b.record) : a = b := by
  rcases a with ⟨record, identity, hidentity⟩
  rcases b with ⟨record', identity', hidentity'⟩
  simp only at h
  subst h
  rw [hidentity] at hidentity'
  cases hidentity'
  rfl

/-- The groups of the safe plans: heads are unrelated, and each has below it
    all that lies below. -/
theorem Surveyed.grouped (h : Surveyed sha256 lease survey s t) (hlayout : Layout s.journal) :
    Forest.Grouped (fun a b : Plan => a.path.Above b.path)
      (survey.safePlans.insertionSort (fun a b => a.path.parts.length ≤ b.path.parts.length))
      survey.groups := by
  have hperm := perm_insertionSort
    (fun a b : Plan => a.path.parts.length ≤ b.path.parts.length) survey.safePlans
  refine Forest.grouped_group ⟨?_, ?_⟩ ?_ ?_
  · exact fun a _ => decide_eq_false (fun habove => habove.2 rfl)
  · intro a ha b hb c _ hac hbc
    have hplans : ∀ p ∈ survey.safePlans.insertionSort
        (fun a b : Plan => a.path.parts.length ≤ b.path.parts.length), p ∈ survey.plans :=
      fun p hp => Survey.mem_plans_of_safe (hperm.mem_iff.mp hp)
    rcases (of_decide_eq_true hac).comparable (of_decide_eq_true hbc) with hab | hba | heq
    · exact Or.inl (decide_eq_true hab)
    · exact Or.inr (Or.inl (decide_eq_true hba))
    · -- One path is one record, and one record is one plan.
      refine Or.inr (Or.inr (Plan.eq_of_record ?_))
      have hbpath : recordPath b.record = some a.path := by
        rw [heq]
        exact b.recordPath_record
      exact hlayout.distinct _ (h.mem_records (hplans a ha)) _ (h.mem_records (hplans b hb))
        (h.plannable (hplans a ha)).directory (h.plannable (hplans b hb)).directory a.path
        a.recordPath_record hbpath
  · exact hperm.nodup_iff.mpr (h.nodup_plans.filter _)
  · -- Shorter paths come first, so nothing is above what comes before it.
    have hsorted := pairwise_insertionSort
      (fun a b : Plan => a.path.parts.length ≤ b.path.parts.length) survey.safePlans
    refine hsorted.imp (fun {a b} hab => decide_eq_false (fun habove => ?_))
    have := habove.length_lt
    omega

/-- What lies below a member of a group is in the group. -/
theorem Surveyed.mem_group_of_above (h : Surveyed sha256 lease survey s t)
    (hlayout : Layout s.journal) {group : PlanGroup} (hgroup : group ∈ survey.groups) {plan : Plan}
    (hplan : plan ∈ group.1 :: group.2) {below : Plan} (hbelow : below ∈ survey.safePlans)
    (habove : plan.path.Above below.path) : below ∈ group.2 := by
  have hgrouped := h.grouped hlayout
  have hmem := (perm_insertionSort
    (fun a b : Plan => a.path.parts.length ≤ b.path.parts.length) survey.safePlans).mem_iff.mpr
    hbelow
  refine hgrouped.complete group hgroup below hmem (decide_eq_true ?_)
  rcases mem_cons.mp hplan with rfl | hplan
  · exact habove
  · exact (of_decide_eq_true (hgrouped.head_above group hgroup plan hplan)).trans habove

end Surveyed

end MirrorGate
