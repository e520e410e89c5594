import MirrorGate.Recovery.Accounting
import MirrorGate.Recovery.Lookup

/-!
# Interrupted Recoveries

A recovery may stop anywhere, and the next one has only the journal to find
the directories again. This works as long as every open directory record
names the place its directory is at: its own path, or its cleanup target. A
directory is moved in one step, so the journal must name both places before.

The journal does so when a directory is moved under its own quarantine name.
It does not when a directory was announced under the name of a group's root
and is moved by itself later, because its target is kept or overwritten before
the directory has left the old place. `Rejoins` says that this does not
happen: the directory the group belongs to will be recovered with it.
Under this condition `inPlace_of_attempts` holds for every sequence of
recoveries, wherever each of them stops.

## Main definitions

* `InPlace`: Every open record names the place of its directory.
* `Rejoins`, `Reunites`: Directories of an interrupted group are recovered as
  a group again.

## Theorems

* `reclaim_inPlace`: One recovery keeps directories in place.
* `inPlace_of_attempts`: So does every sequence of recoveries.
* `uprooted_member`: What happens to a group that is torn apart.
-/

namespace MirrorGate

open Option List Journal

variable {E F : Type}

/-! ### Paths below quarantine -/

theorem no_slash_of_isOpaque {value : String} (h : IsOpaque value) : '/' ∉ value.toList := by
  intro hmem
  have := all_eq_true.mp h.2.2 '/' hmem
  revert this
  decide

theorem no_slash_quarantineName {id : String} (h : IsOpaque id) :
    '/' ∉ (quarantineName id).toList := by
  unfold quarantineName
  rw [String.toList_append, mem_append]
  rintro (hmem | hmem)
  · revert hmem
    decide
  · exact no_slash_of_isOpaque h hmem

theorem ownTarget_eq (id : String) : ownTarget id = Text.joinPath (quarantinePath id) := by
  apply String.toList_inj.mp
  simp [ownTarget, quarantinePath, Text.joinPath, intercalate]

/-- The parts of a path that is written as given. -/
theorem RelativePath.parts_of_text {path : RelativePath} {parts : List String}
    (h : path.text = Text.joinPath parts) (hne : parts ≠ [])
    (hslash : ∀ part ∈ parts, '/' ∉ part.toList) : path.parts = parts := by
  rw [← path.splitPath_text, h, Text.splitPath_joinPath parts hne hslash]

variable {target : RelativePath}

theorem parts_of_ownTarget {id : String} (hid : IsOpaque id)
    (h : target.text = ownTarget id) : target.parts = quarantinePath id := by
  refine RelativePath.parts_of_text (h.trans (ownTarget_eq id)) (by simp [quarantinePath]) ?_
  intro part hpart
  simp only [quarantinePath, mem_cons, not_mem_nil, or_false] at hpart
  rcases hpart with rfl | rfl
  · decide
  · exact no_slash_quarantineName hid

theorem parts_of_groupTarget {root descendant : Plan} (hid : IsOpaque root.resourceId) (h : target.text = groupTarget root descendant) :
    target.parts = quarantinePath root.resourceId ++
      descendant.path.parts.drop root.path.parts.length := by
  refine RelativePath.parts_of_text h (by simp [quarantinePath]) ?_
  intro part hpart
  simp only [quarantinePath, cons_append, nil_append, mem_cons] at hpart
  rcases hpart with rfl | rfl | hpart
  · decide
  · exact no_slash_quarantineName hid
  · exact descendant.path.no_slash part (mem_of_mem_drop hpart)

/-- Targets are below quarantine, and what is recovered is below resources. -/
theorem target_ne_of_resources {record : Record} (hvalid : record.Valid)
    (htarget : target ∈ record.cleanupTarget) {path : RelativePath}
    (hpath : resourcesStart.toList <+: path.text.toList) {rest : List String} :
    path.parts ++ rest ≠ target.parts := by
  intro heq
  have hquarantine : "quarantine".toList ++ ['/'] <+: target.text.toList :=
    List.IsPrefix.trans (by decide) (hvalid.cleanupTarget target htarget)
  rcases Text.splitPath_start (by decide) hquarantine with ⟨tail, htail⟩
  have hresources : "resources".toList ++ ['/'] <+: path.text.toList := hpath
  rcases Text.splitPath_start (by decide) hresources with ⟨tail', htail'⟩
  rw [target.splitPath_text] at htail
  rw [path.splitPath_text] at htail'
  rw [htail, htail', cons_append, cons.injEq] at heq
  exact absurd heq.1 (by decide)

/-! ### What becomes of the records -/

/-- The records of a journal stem from those of another one, and settled ones
    are the same. -/
def Continues (j k : Journal) : Prop :=
  ∀ id new, k.find? id = some new → ∃ old, j.find? id = some old ∧ SameClaim old new ∧
    (old.phase.Terminal → new = old)

theorem Continues.refl (j : Journal) : Continues j j :=
  fun _ new h => ⟨new, h, .refl new, fun _ => rfl⟩

theorem Continues.trans {j k l : Journal} (h1 : Continues j k) (h2 : Continues k l) :
    Continues j l := by
  intro id new hnew
  rcases h2 id new hnew with ⟨mid, hmid, hsame, hsettled⟩
  rcases h1 id mid hmid with ⟨old, hold, hsame', hsettled'⟩
  refine ⟨old, hold, hsame'.trans hsame, fun hterminal => ?_⟩
  have heq := hsettled' hterminal
  rw [heq] at hsettled
  exact hsettled hterminal

theorem Continues.of_evolves {Q : Journal → Record → Record → Prop} {j k : Journal}
    (hq : ∀ l old new, Q l old new → SameClaim old new) (h : Evolves Q j k) : Continues j k := by
  intro id new hnew
  rcases h.find?_before hnew with ⟨old, hold⟩
  rcases h.find?_of SameClaim.refl (fun _ _ _ _ hpub _ hs => hs.trans (hq _ _ _ hpub)) hold with
    ⟨current, hcurrent, hsame⟩
  rw [hnew, some.injEq] at hcurrent
  subst hcurrent
  refine ⟨old, hold, hsame, fun hterminal => ?_⟩
  have hstays := h.terminal hold hterminal
  rw [hnew, some.injEq] at hstays
  exact hstays

theorem Continues.of_withdraws {W : Type} {s t : Machine W} (h : Withdraws s t) :
    Continues s.journal t.journal :=
  fun id new hnew => ⟨new, h id new hnew, .refl new, fun _ => rfl⟩

/-- Sessions keep their directories where they are. -/
theorem Layout.continues {j k : Journal} (h : Layout j) (hcont : Continues j k) : Layout k := by
  have hback : ∀ record ∈ k.records, ∃ old ∈ j.records, SameClaim old record := by
    intro record hrecord
    rcases hcont _ _ (find?_of_mem hrecord) with ⟨old, hold, hsame, -⟩
    exact ⟨old, (mem_of_find? hold).1, hsame⟩
  have hpath : ∀ {old new : Record}, SameClaim old new → recordPath new = recordPath old := by
    intro old new hsame
    unfold recordPath
    rw [hsame.identity]
  have hdirectory : ∀ {old new : Record}, SameClaim old new → new.IsDirectory →
      old.IsDirectory := by
    intro old new hsame hnew
    unfold Record.IsDirectory at hnew ⊢
    rw [← hsame.kind]
    exact hnew
  refine ⟨?_, ?_⟩
  · intro a ha b hb hadir hbdir path hapath hbpath
    rcases hback a ha with ⟨a', ha', hsamea⟩
    rcases hback b hb with ⟨b', hb', hsameb⟩
    have heq : a' = b' := h.distinct a' ha' b' hb' (hdirectory hsamea hadir)
      (hdirectory hsameb hbdir) path ((hpath hsamea).symm.trans hapath)
      ((hpath hsameb).symm.trans hbpath)
    have hid : a.resourceId = b.resourceId := by
      rw [hsamea.resourceId, hsameb.resourceId, heq]
    have hfind := find?_of_mem ha
    rw [hid, find?_of_mem hb, some.injEq] at hfind
    exact hfind.symm
  · intro a ha b hb hadir hbdir path below hapath hbpath habove
    rcases hback a ha with ⟨a', ha', hsamea⟩
    rcases hback b hb with ⟨b', hb', hsameb⟩
    rw [hsamea.sessionId, hsameb.sessionId]
    exact h.nested a' ha' b' hb' (hdirectory hsamea hadir) (hdirectory hsameb hbdir) path below
      ((hpath hsamea).symm.trans hapath) ((hpath hsameb).symm.trans hbpath) habove

variable {s t : Machine (Disk E)}

/-- What a publication that keeps places leaves of a record. -/
theorem Follows.before (h : Follows s t) {id : String} {new : Record}
    (hnew : t.journal.find? id = some new) :
    ∃ old, s.journal.find? id = some old ∧ KeepsPlace old new ∧
      (old.phase.Terminal → new = old) := by
  rcases Continues.of_evolves (fun _ _ _ hkeeps => hkeeps.same) h.1 id new hnew with
    ⟨old, hold, hsame, hsettled⟩
  have htarget := h.1.find?_of (S := fun r r' => r'.phase.Terminal ∨ r.cleanupTarget = none ∨
      r'.cleanupTarget = r.cleanupTarget) (fun _ => Or.inr (Or.inr rfl)) ?_ hold
  · rcases htarget with ⟨current, hcurrent, hkept⟩
    rw [hnew, some.injEq] at hcurrent
    subst hcurrent
    exact ⟨old, hold, ⟨hsame, hkept⟩, hsettled⟩
  · intro _ mid later record hkeeps hsuccessor hmid
    rcases hmid with hterminal | hnone | heq
    · exact absurd hterminal hsuccessor.nonterminal
    · exact Or.inr (Or.inl hnone)
    · rw [← heq]
      exact hkeeps.target

/-! ### Directories in their places -/

/-- The node is the object the identity describes. -/
def FilesystemIdentity.IsNode (identity : FilesystemIdentity) (node : Node) : Prop :=
  match node.read with
  | .ok object => identity.matchesObject object.1 object.2
  | .error _ => False

instance (identity : FilesystemIdentity) (node : Node) : Decidable (identity.IsNode node) := by
  unfold FilesystemIdentity.IsNode
  split <;> infer_instance

/-- If the directory of an open record exists, then at the path or at the
    cleanup target of the record. -/
def InPlace (journal : Journal) (tree : Tree) : Prop :=
  ∀ record ∈ journal.records, record.IsDirectory → ¬ record.phase.Terminal →
    ∀ identity, record.identity = .filesystem identity →
    ∀ path node, tree.lookup path = some node → identity.IsNode node →
      ∃ place ∈ identity.relativePath :: record.cleanupTarget.toList, path = place.parts

/-- The condition on one record, entry by entry. -/
def Record.PlacedIn (record : Record) (tree : Tree) : Prop :=
  match record.identity with
  | .filesystem identity => ∀ entry ∈ tree.entries, identity.IsNode entry.2 →
      ∃ place ∈ identity.relativePath :: record.cleanupTarget.toList, entry.1 = place.parts
  | _ => True

instance (record : Record) (tree : Tree) : Decidable (record.PlacedIn tree) :=
  Identity.casesOn
    (motive := fun identity => Decidable (Record.PlacedIn { record with identity } tree))
    record.identity instDecidableTrue (fun _ => List.decidableBAll _ _) (fun _ => instDecidableTrue)
    (fun _ => instDecidableTrue) (fun _ => instDecidableTrue)

theorem inPlace_iff {journal : Journal} {tree : Tree} :
    InPlace journal tree ↔ ∀ record ∈ journal.records, record.IsDirectory →
      ¬ record.phase.Terminal → record.PlacedIn tree := by
  refine forall_congr' (fun record => forall_congr' (fun _ => forall_congr' (fun _ =>
    forall_congr' (fun _ => ?_))))
  unfold Record.PlacedIn
  constructor
  · intro h
    split
    · next identity hidentity =>
      exact fun entry hentry hnode =>
        h identity hidentity entry.1 entry.2 (FileTree.lookup_eq_some.mpr hentry) hnode
    · trivial
  · intro h identity hidentity path node hlookup hnode
    rw [hidentity] at h
    exact h (path, node) (FileTree.lookup_eq_some.mp hlookup) hnode

instance (journal : Journal) (tree : Tree) : Decidable (InPlace journal tree) :=
  decidable_of_iff _ inPlace_iff.symm

theorem InPlace.follows (h : InPlace s.journal s.world.tree)
    (hfollows : Follows s t) : InPlace t.journal t.world.tree := by
  intro record hrecord hdirectory hopen identity hidentity path node hnode hshows
  rcases hfollows.before (find?_of_mem hrecord) with ⟨old, hold, hkeeps, hsettled⟩
  have htree : t.world.tree = s.world.tree := hfollows.2
  rw [htree] at hnode
  have holdOpen : ¬ old.phase.Terminal := by
    intro hterminal
    rw [hsettled hterminal] at hopen
    exact hopen hterminal
  have holdDirectory : old.IsDirectory := by
    unfold Record.IsDirectory at hdirectory ⊢
    rw [← hkeeps.same.kind]
    exact hdirectory
  rcases h old (mem_of_find? hold).1 holdDirectory holdOpen identity
    (hkeeps.same.identity.symm.trans hidentity) path node hnode hshows with ⟨place, hplace, rfl⟩
  refine ⟨place, ?_, rfl⟩
  rcases hkeeps.target with hterminal | hnone | heq
  · exact absurd hterminal hopen
  · rw [hnone, toList_none, mem_singleton] at hplace
    rw [hplace]
    exact mem_cons_self
  · rw [heq]
    exact hplace

theorem InPlace.trims {region : List String → Prop}
    (h : InPlace s.journal s.world.tree) (htrims : Trims region s t) :
    InPlace t.journal t.world.tree := by
  intro record hrecord hdirectory hopen identity hidentity path node hnode hshows
  rw [htrims.1] at hrecord
  exact h record hrecord hdirectory hopen identity hidentity path node
    (htrims.2.kept path node hnode) hshows

theorem InPlace.withdraws (h : InPlace s.journal s.world.tree)
    (hwithdraws : Withdraws s t) (htree : SameTree s t) : InPlace t.journal t.world.tree := by
  intro record hrecord hdirectory hopen identity hidentity path node hnode hshows
  have hold := hwithdraws _ _ (find?_of_mem hrecord)
  have htree' : t.world.tree = s.world.tree := htree
  rw [htree'] at hnode
  exact h record (mem_of_find? hold).1 hdirectory hopen identity hidentity path node hnode
    hshows

/-! ### The move of a root -/

/-- The record has no cleanup target, or its own quarantine name. -/
def Record.TargetsOwn (record : Record) : Prop :=
  ∀ target ∈ record.cleanupTarget, target.text = ownTarget record.resourceId

instance (record : Record) : Decidable record.TargetsOwn :=
  inferInstanceAs (Decidable (∀ target ∈ record.cleanupTarget, _))

/-- Announcing the removal of such a directory keeps its place. -/
theorem enterCleanup_follows (world : Surroundings E F) {record : Record}
    (hown : record.TargetsOwn)
    (hheld : s.journal.find? record.resourceId = some record) :
    Follows s ((enterCleanup (Disk.os world) record).run s).2 := by
  have hmove : Follows s ((do
      let updated ← transition (Disk.os world).toJournalIo record.resourceId .cleanupIntent
        { cleanupTarget := some (ownTarget record.resourceId) }
      pure (some updated) : Py (Disk E) (Option Record)).run s).2 := by
    refine Prog.leaves_bind (I := Follows s) ?_ (fun _ _ _ h => h)
    refine ⟨transition_evolves rfl (fun old new hold hnew => ?_),
      replace_sameTree world _ _ s⟩
    rw [hheld, some.injEq] at hold
    subst hold
    refine ⟨updateRecord_same ⟨rfl, rfl⟩ hnew, Or.inr ?_⟩
    rcases htarget : record.cleanupTarget with _ | target
    · exact Or.inl rfl
    · rcases map_eq_some_iff.mp (updateRecord_new_target rfl hnew) with ⟨path, hpath, heq⟩
      rw [hpath, RelativePath.text_injective (heq.trans (hown target htarget).symm)]
      exact Or.inr rfl
  unfold enterCleanup
  split
  · split
    · exact Prog.leaves_bind (I := Follows s) (setCleanupTarget_follows world s)
        (fun _ _ _ h => h)
    · exact Std.Refl.refl s
  all_goals first | exact hmove | exact Std.Refl.refl s | skip
  split
  · exact hmove
  · exact Std.Refl.refl s

section Root

variable {world : Surroundings E F} {lease : Lease} {call : Call} {s t : Machine (Disk E)}
  {survey : Survey}

/-- The move of a root. What was in the root is named at its new place: the
    root by its own target, and what lies below it by the target it was given
    with the group. -/
theorem InPlace.departs (hsurveyed : Surveyed (Disk.os world).sha256 lease survey s t)
    (hlayout : Layout s.journal) {group : PlanGroup} (hgroup : group ∈ survey.groups)
    (hown : group.1.record.TargetsOwn) {u : Machine (Disk E)}
    (hplaces : InPlace u.journal u.world.tree) (hcont : Continues s.journal u.journal)
    (hprepared : ∀ plan ∈ group.2, Prepared group.1 plan u.journal) {located : RelativePath}
    (hstart : resourcesStart.toList <+: group.1.path.text.toList)
    (hdeparts : Departs group.1 located u.journal)
    (h : u.world.tree.CanMove located.parts (quarantinePath group.1.resourceId)) :
    InPlace u.journal
      (u.world.tree.move located.parts (quarantinePath group.1.resourceId) h) := by
  rcases hdeparts with ⟨⟨current, hannounced, hlocated⟩, haway⟩
  have hsafe : group.1 ∈ survey.safePlans := Survey.mem_safePlans hgroup (by simp)
  have hplanMem := hsurveyed.mem_records (Survey.mem_plans_of_safe hsafe)
  have hid : IsOpaque group.1.resourceId := (s.journal.valid _ hplanMem).resourceId
  -- The announced target is the own one, so the directory is at its path.
  have htarget : ∀ target ∈ current.cleanupTarget,
      target.text = ownTarget group.1.resourceId := by
    intro target hmem
    rcases hannounced.target with ⟨-, heq⟩ | heq
    · rw [heq] at hmem
      exact hown target hmem
    · rw [mem_def.mp hmem, map_some, some.injEq] at heq
      exact heq
  have hset : ∃ target ∈ current.cleanupTarget,
      target.parts = quarantinePath group.1.resourceId := by
    rcases htargets : current.cleanupTarget with _ | target
    · rcases hannounced.target with ⟨hne, heq⟩ | heq
      · exact absurd (heq.symm.trans htargets) hne
      · rw [htargets] at heq
        cases heq
    · exact ⟨target, rfl, parts_of_ownTarget hid (htarget target htargets)⟩
  have hsource : located = group.1.path := by
    rcases mem_cons.mp hlocated with heq | hmem
    · exact heq
    · exact absurd (htarget located (mem_toList.mp hmem)) haway
  subst hsource
  intro record hrecord hdirectory hopen identity hidentity path node hnode hshows
  by_cases hinto : quarantinePath group.1.resourceId <+: path
  · rcases hinto with ⟨rest, rfl⟩
    rw [FileTree.lookup_move_into] at hnode
    rcases hplaces record hrecord hdirectory hopen identity hidentity _ node hnode hshows with
      ⟨place, hplace, heq⟩
    rcases mem_cons.mp hplace with rfl | hmem
    · -- The record is about the root or about something below it.
      rcases hcont _ _ (find?_of_mem hrecord) with ⟨old, hold, hsame, hsettled⟩
      have hrecordPath : recordPath old = some identity.relativePath := by
        unfold recordPath
        rw [← hsame.identity, hidentity]
      have holdDirectory : old.IsDirectory := by
        unfold Record.IsDirectory at hdirectory ⊢
        rw [← hsame.kind]
        exact hdirectory
      have holdMem := (mem_of_find? hold).1
      by_cases hself : group.1.path = identity.relativePath
      · have heqRecord : group.1.record = old :=
          hlayout.distinct _ hplanMem old holdMem
            (hsurveyed.plannable (Survey.mem_plans_of_safe hsafe)).directory holdDirectory
            identity.relativePath (hself ▸ group.1.recordPath_record) hrecordPath
        have hcurrent : record = current := by
          have hfind := hannounced.found
          rw [Plan.resourceId, heqRecord, ← hsame.resourceId, find?_of_mem hrecord,
            some.injEq] at hfind
          exact hfind
        rcases hset with ⟨target, hmem, hparts⟩
        have hrest : rest = [] := by
          rw [← hself] at heq
          exact append_right_eq_self.mp heq
        refine ⟨target, ?_, ?_⟩
        · rw [hcurrent]
          exact mem_cons_of_mem _ (mem_toList.mpr hmem)
        · rw [hrest, append_nil, hparts]
      · have habove : group.1.path.Above identity.relativePath :=
          ⟨⟨rest, heq⟩, hself⟩
        rcases hsurveyed.below_safe hlayout hsafe holdMem holdDirectory hrecordPath habove with
          hreclaimed | ⟨below, hbelow, hbelowRecord⟩
        · have hterminal : old.phase.Terminal := Or.inl hreclaimed.1
          rw [hsettled hterminal] at hopen
          exact absurd hterminal hopen
        · have hbelowPath : below.path = identity.relativePath := by
            have hp := below.recordPath_record
            rw [hbelowRecord, hrecordPath, some.injEq] at hp
            exact hp.symm
          have hmember : below ∈ group.2 :=
            hsurveyed.mem_group_of_above hlayout hgroup (by simp) hbelow (hbelowPath ▸ habove)
          rcases hprepared below hmember with ⟨found, hfound, hgoes⟩
          have hfoundRecord : found = record := by
            rw [Plan.resourceId, hbelowRecord, ← hsame.resourceId, find?_of_mem hrecord,
              some.injEq] at hfound
            exact hfound.symm
          subst hfoundRecord
          rcases hgoes with hterminal | hgoes
          · exact absurd hterminal hopen
          rcases map_eq_some_iff.mp hgoes with ⟨target, hmem, htext⟩
          refine ⟨target, mem_cons_of_mem _ (mem_toList.mpr hmem), ?_⟩
          rw [parts_of_groupTarget hid htext, hbelowPath, ← heq, drop_left]
    · -- Nothing below resources is somebody's target.
      exact absurd heq (target_ne_of_resources (u.journal.valid record hrecord)
        (mem_toList.mp hmem) hstart)
  · by_cases hfrom : group.1.path.parts <+: path
    · rw [FileTree.lookup_move_from _ h hfrom hinto] at hnode
      cases hnode
    · rw [FileTree.lookup_move_other _ h hfrom hinto] at hnode
      exact hplaces record hrecord hdirectory hopen identity hidentity path node hnode hshows

/-- No safe plan lies above the root of a group. -/
theorem Surveyed.head_outermost (hsurveyed : Surveyed (Disk.os world).sha256 lease survey s t)
    (hlayout : Layout s.journal) {group : PlanGroup} (hgroup : group ∈ survey.groups)
    {outer : Plan} (houter : outer ∈ survey.safePlans) : ¬ outer.path.Above group.1.path := by
  intro habove
  have hgrouped := hsurveyed.grouped hlayout
  rcases mem_flatMap.mp (survey.members_groups.mem_iff.mpr houter) with
    ⟨other, hother, hmember⟩
  have hhead : other.1.path.Above group.1.path := by
    rcases mem_cons.mp hmember with rfl | hmember
    · exact habove
    · exact (of_decide_eq_true (hgrouped.head_above other hother outer hmember)).trans habove
  by_cases heq : other = group
  · rw [heq] at hhead
    exact hhead.2 rfl
  · have := hgrouped.heads_unrelated hother hgroup heq
    exact of_decide_eq_false this hhead

end Root

/-! ### Groups that are recovered as groups -/

/-- The first record's path is at or above the second one's. -/
def Record.Holds (outer inner : Record) : Prop :=
  ∃ path ∈ recordPath outer, ∃ below ∈ recordPath inner, path = below ∨ path.Above below

instance (outer inner : Record) : Decidable (outer.Holds inner) :=
  inferInstanceAs (Decidable (∃ path ∈ recordPath outer, ∃ below ∈ recordPath inner, _))

/-- The directory is inside one of its session that can be recovered with
    everything in it: what has a path there is reclaimed, or it is a workable
    directory that is found. -/
def Rejoins (lease : Lease) (journal : Journal) (tree : Tree) (record : Record) : Prop :=
  ∃ outer ∈ journal.records, Plannable lease outer ∧ outer.sessionId = record.sessionId ∧
    outer.Holds record ∧ recordPath outer ≠ recordPath record ∧
    ∀ other ∈ journal.records, outer.Holds other →
      recordBelongsToRoot lease other ∧ other.phase = .reclaimed ∨
        Plannable lease other ∧ other.Found tree

instance (lease : Lease) (journal : Journal) (tree : Tree) (record : Record) :
    Decidable (Rejoins lease journal tree record) :=
  inferInstanceAs (Decidable (∃ outer ∈ journal.records, _))

/-- A directory that was announced under the quarantine name of another one is
    gone, or it rejoins. -/
def Reunites (lease : Lease) (journal : Journal) (tree : Tree) : Prop :=
  ∀ record ∈ journal.records, Plannable lease record → record.Found tree →
    record.TargetsOwn ∨ Rejoins lease journal tree record

instance (lease : Lease) (journal : Journal) (tree : Tree) :
    Decidable (Reunites lease journal tree) :=
  inferInstanceAs (Decidable (∀ record ∈ journal.records, _))

section Attempt

variable {world : Surroundings E F} {lease : Lease} {call : Call} {s t : Machine (Disk E)}
  {survey : Survey}

/-- Directories that rejoin are no roots. -/
theorem root_targetsOwn (hworld : world.Answers) (hlayout : Layout s.journal)
    (hreunites : Reunites lease s.journal s.world.tree)
    (h : (takeSurvey (Disk.os world) lease call).run s = (.ok survey, t)) {group : PlanGroup}
    (hgroup : group ∈ survey.groups) : group.1.record.TargetsOwn := by
  have hsurveyed := surveyed_of_run h
  have hsafe : group.1 ∈ survey.safePlans := Survey.mem_safePlans hgroup (by simp)
  have hplanned := Survey.mem_plans_of_safe hsafe
  have hmem := hsurveyed.mem_records hplanned
  have hplan := hsurveyed.plannable hplanned
  have hfound := (takeSurvey_planned_iff hworld h hmem hplan).mp ⟨_, hplanned, rfl⟩
  rcases hreunites _ hmem hplan hfound with hown | hrejoins
  · exact hown
  rcases hrejoins with ⟨outer, houter, houterPlan, hsession, hholds, hne, hall⟩
  rcases hholds with ⟨path, hpath, below, hbelow, hplace⟩
  have hpath' := mem_def.mp hpath
  have hbelow' := mem_def.mp hbelow
  have habove : path.Above below := by
    rcases hplace with rfl | habove
    · exact absurd (hpath'.trans hbelow'.symm) hne
    · exact habove
  -- The outer directory holds itself, so it is found and planned.
  have hself : outer.Holds outer := ⟨path, hpath, path, hpath, Or.inl rfl⟩
  have houterFound : outer.Found s.world.tree := by
    rcases hall outer houter hself with ⟨-, hreclaimed⟩ | ⟨-, hfound⟩
    · exact absurd (Or.inl hreclaimed) houterPlan.unsettled
    · exact hfound
  rcases (takeSurvey_planned_iff hworld h houter houterPlan).mpr houterFound with
    ⟨plan, hplanMem, rfl⟩
  have hplanPath : plan.path = path := by
    have hp := plan.recordPath_record
    rw [hpath', some.injEq] at hp
    exact hp.symm
  have hrootPath : group.1.path = below := by
    have hp := group.1.recordPath_record
    rw [hbelow', some.injEq] at hp
    exact hp.symm
  rw [← hplanPath, ← hrootPath] at habove
  refine absurd habove (hsurveyed.head_outermost hlayout hgroup ?_)
  refine mem_filter.mpr ⟨hplanMem, decide_eq_true ?_⟩
  by_contra hblocked
  rcases exists_blocks hblocked with ⟨protection, hprotection, hblocks⟩
  rcases hchild : protection.path with _ | child
  · -- A protection by session would block the root as well.
    refine Survey.not_blocks hsafe hprotection ?_
    unfold Protection.Blocks at hblocks ⊢
    rw [hchild] at hblocks ⊢
    rw [← hsession]
    exact hblocks
  · -- A protection by path comes from something that is not there or not ours.
    unfold Protection.Blocks at hblocks
    rw [hchild] at hblocks
    rcases takeSurvey_protection_path hworld h hprotection hchild with
      ⟨other, hother, hotherPath, hopen, hlost⟩
    have hotherHolds : plan.record.Holds other := by
      refine ⟨plan.path, plan.recordPath_record, child, hotherPath, ?_⟩
      exact hblocks
    rcases hall other hother hotherHolds with hreclaimed | hfound
    · exact hopen hreclaimed
    · exact hlost hfound

/-- One recovery keeps directories in place, wherever it stops. -/
theorem reclaim_inPlace (hworld : world.Answers) (hlayout : Layout s.journal)
    (hreunites : Reunites lease s.journal s.world.tree)
    (hplaces : InPlace s.journal s.world.tree) {out : Except Exn (List RecoveryItem × Receipt)}
    (hrun : (reclaim (Disk.os world) lease call).run s = (out, t)) :
    InPlace t.journal t.world.tree := by
  have hfollows : ∀ u v : Machine (Disk E),
      InPlace u.journal u.world.tree ∧ Continues s.journal u.journal → Follows u v →
      InPlace v.journal v.world.tree ∧ Continues s.journal v.journal := by
    rintro u v ⟨hu, hcont⟩ huv
    exact ⟨hu.follows huv,
      hcont.trans (Continues.of_evolves (fun _ _ _ hkeeps => hkeeps.same) huv.1)⟩
  have hleaves : (fun u : Machine (Disk E) =>
      InPlace u.journal u.world.tree ∧ Continues s.journal u.journal)
      ((reclaim (Disk.os world) lease call).run s).2 := by
    refine reclaim_leaves ⟨hplaces, .refl _⟩ ?_ hfollows ?_
    · exact fun v hwithdraws htree =>
        ⟨hplaces.withdraws hwithdraws htree, Continues.of_withdraws hwithdraws⟩
    intro survey t hsurvey group hgroup u hu hheld
    have hsurveyed := surveyed_of_run hsurvey
    have hown := root_targetsOwn hworld hlayout hreunites hsurvey hgroup
    have hsafe : ∀ plan ∈ group.1 :: group.2, plan ∈ survey.safePlans :=
      fun plan hplan => Survey.mem_safePlans hgroup hplan
    refine reclaimGroup_leaves (J := fun v => (InPlace v.journal v.world.tree ∧
        Continues s.journal v.journal) ∧ ∀ plan ∈ group.2, Prepared group.1 plan v.journal)
      hfollows (fun _ hv hprepared => ⟨hv, hprepared⟩) ?_ (fun _ hv => hv.1) ?_ ?_ hheld hu
    · -- The four things that may happen while the root is recovered.
      refine ⟨?_, ?_, ?_, ?_⟩
      · rintro v w ⟨hv, hprepared⟩ hvw
        exact ⟨hfollows v w hv hvw, fun plan hplan => (hprepared plan hplan).evolves hvw.1⟩
      · rintro v w ⟨⟨hv, hcont⟩, hprepared⟩ hvw
        refine ⟨⟨hv.trims hvw, ?_⟩, ?_⟩
        · rw [hvw.1]
          exact hcont
        · rw [hvw.1]
          exact hprepared
      · rintro v ⟨hv, hprepared⟩ hv'
        have henter := enterCleanup_follows world hown hv'
        exact ⟨hfollows v _ hv henter, fun plan hplan => (hprepared plan hplan).evolves henter.1⟩
      · rintro v located env hmove ⟨⟨hv, hcont⟩, hprepared⟩ hstart hdeparts
        exact ⟨⟨InPlace.departs hsurveyed hlayout hgroup hown hv hcont hprepared hstart hdeparts
          hmove, hcont⟩, hprepared⟩
    · have hnodup := hsurveyed.nodup_members
      exact (List.Sublist.map _ (Forest.sublist_members hgroup)).nodup hnodup
    · exact fun plan hplan =>
        (hsurveyed.plannable (Survey.mem_plans_of_safe (hsafe plan hplan))).directory
  rw [hrun] at hleaves
  exact hleaves.1

/-- The records of a state root are still those it had before a recovery. -/
theorem reclaim_continues {out : Except Exn (List RecoveryItem × Receipt)}
    (hrun : (reclaim (Disk.os world) lease call).run s = (out, t)) :
    Continues s.journal t.journal := by
  have hevolves := reclaim_evolves (Disk.os world) lease call s
  rw [hrun] at hevolves
  rcases hevolves with hwithdraws | hrecovers
  · exact Continues.of_withdraws hwithdraws
  · exact Continues.of_evolves (fun _ _ _ hupdate => hupdate.same) hrecovers

end Attempt

/-! ### Sequences of recoveries -/

/-- Searches are answered, and directories announced as a group are recovered
    as a group. -/
def StartsWhole (world : Surroundings E F) (lease : Lease) (root : StateRoot)
    (_ : Except Exn (List RecoveryItem × Receipt)) : Prop :=
  world.Answers ∧ Reunites lease root.journal root.tree

/-- Wherever recoveries stop, every open record names the place of its
    directory, provided that directories announced as a group are recovered as
    a group. -/
theorem inPlace_of_attempts {root root' : StateRoot} (h : Attempts E F StartsWhole root root')
    (hlayout : Layout root.journal) (hplaces : InPlace root.journal root.tree) :
    InPlace root'.journal root'.tree := by
  have hboth : Layout root'.journal ∧ InPlace root'.journal root'.tree := by
    induction h with
    | refl => exact ⟨hlayout, hplaces⟩
    | tail _ hlast ih =>
      rcases ih with ⟨hlayout', hplaces'⟩
      cases hlast with
      | call hrun hstart =>
        exact ⟨hlayout'.continues (reclaim_continues hrun),
          reclaim_inPlace hstart.1 hlayout' hstart.2 hplaces' hrun⟩
  exact hboth.2

def basePath : RelativePath := ⟨["resources", "a"], by decide, by decide, by decide +kernel⟩

def leftPath : RelativePath := ⟨["resources", "a", "b"], by decide, by decide, by decide +kernel⟩

/-- The record of a directory whose removal was announced. -/
def announcedRecord (sessionId resourceId : String) (path : RelativePath) (inode : Nat)
    (target : RelativePath) : Record :=
  { ownedRecord sessionId resourceId path inode with
    sequence := 3
    phase := .cleanupIntent
    cleanupTarget := some target }

/-- Two directories, one in the other, that a recovery has moved and not yet
    removed. -/
def movedJournal : Journal where
  records :=
    [announcedRecord "s" "a" basePath 11
      ⟨["quarantine", "reclaim-a"], by decide, by decide, by decide +kernel⟩,
    announcedRecord "s" "b" leftPath 12
      ⟨["quarantine", "reclaim-a", "b"], by decide, by decide, by decide +kernel⟩]
  invalid := []
  quarantined := []
  distinct := by decide
  valid := by
    intro record hrecord
    refine validateRecord_eq_ok.mp ?_
    revert record
    decide +kernel

def movedTree : Tree where
  entries := [(["resources"], ownedNode 10), (["quarantine"], ownedNode 20),
    (["quarantine", "reclaim-a"], ownedNode 11), (["quarantine", "reclaim-a", "b"], ownedNode 12)]
  distinct := by decide
  closed := by decide

/-- After such a stop the next recovery meets the condition, and leaves the
    directories in place wherever it stops itself. -/
theorem moved_inPlace : Reunites someLease movedJournal movedTree ∧
    ∃ root, Attempt Unit Unit StartsWhole ⟨movedJournal, movedTree⟩ root ∧
      InPlace root.journal root.tree := by
  have hreunites : Reunites someLease movedJournal movedTree := by decide +kernel
  rcases hrun : (reclaim (Disk.os (.refusing (· = .unlink))) someLease
    ⟨"next", none, none⟩).run ⟨movedJournal, ⟨movedTree, ()⟩⟩ with ⟨out, t⟩
  have hanswers : (Surroundings.refusing (· = .unlink)).Answers := by
    intro call hcall path env
    cases call <;> first | rfl | exact absurd hcall id
  have hattempt := Attempt.call (P := StartsWhole) hrun ⟨hanswers, hreunites⟩
  exact ⟨hreunites, _, hattempt,
    inPlace_of_attempts (.single hattempt) (by decide +kernel) (by decide +kernel)⟩

/-! ### A group that is torn apart -/

def rightPath : RelativePath := ⟨["resources", "a", "d"], by decide, by decide, by decide +kernel⟩

/-- Three directories of one session, two of them in the third. -/
def groupJournal : Journal where
  records := [ownedRecord "s" "a" basePath 11, ownedRecord "s" "b" leftPath 12,
    ownedRecord "s" "d" rightPath 13]
  invalid := []
  quarantined := []
  distinct := by decide
  valid := by
    intro record hrecord
    refine validateRecord_eq_ok.mp ?_
    revert record
    decide +kernel

def groupTree : Tree where
  entries := [(["resources"], ownedNode 10), (["quarantine"], ownedNode 20),
    (["resources", "a"], ownedNode 11), (["resources", "a", "d"], ownedNode 13),
    (["resources", "a", "b"], ownedNode 12)]
  distinct := by decide
  closed := by decide

/-- The second directory cannot be removed. -/
def clinging : Surroundings Unit Unit where
  outside := Os.idle zeroDigest
  refuses call path env :=
    (if call = .rmdir ∧ path = ["quarantine", "reclaim-a", "b"] then some (.other "busy") else none,
      env)

/-- The controller stops after a rename. -/
def stopping : Surroundings Unit Unit where
  outside := { Os.idle zeroDigest with
    interrupted := fun point env => (point = "after-rename", env) }
  refuses _ _ env := (none, env)

/-- A recovery of a state root in given surroundings. -/
def attempted (world : Surroundings Unit Unit) (attemptId : String) (s : Machine (Disk Unit)) :
    Except Exn (List RecoveryItem × Receipt) × Machine (Disk Unit) :=
  (reclaim (Disk.os world) someLease ⟨attemptId, none, none⟩).run
    ⟨s.journal, ⟨s.world.tree, ()⟩⟩

/-- A directory is at its own quarantine name while its record, which is
    still open, names a place below another directory. -/
def LeftAside (s : Machine (Disk Unit)) : Prop :=
  s.world.tree.lookup ["quarantine", "reclaim-b"] = some (ownedNode 12) ∧
  (s.journal.find? "b").map (fun record =>
      (record.phase, record.cleanupTarget.map RelativePath.parts)) =
    some (.cleanupIntent, some ["quarantine", "reclaim-a", "b"])

instance (s : Machine (Disk Unit)) : Decidable (LeftAside s) := inferInstanceAs (Decidable (_ ∧ _))

theorem leftAside_of_attempts : LeftAside (attempted stopping "second"
    (attempted clinging "first" ⟨groupJournal, ⟨groupTree, ()⟩⟩).2).2 := by
  decide +kernel

/-- The first recovery removes one of the two inner directories and fails on
    the other one. The second one gives up on the removed directory and
    with it on the outer one, and moves the remaining directory by itself. Its
    record still names the place below the outer directory. -/
theorem uprooted_member : Layout groupJournal ∧ InPlace groupJournal groupTree ∧
    ∃ root, Attempts Unit Unit (fun world _ _ _ => world.Answers) ⟨groupJournal, groupTree⟩ root ∧
      ¬ InPlace root.journal root.tree := by
  have hanswers : clinging.Answers := by
    intro call hcall path env
    cases call <;> first | rfl | exact absurd hcall id
  have hend := leftAside_of_attempts
  rcases hfirst : attempted clinging "first" ⟨groupJournal, ⟨groupTree, ()⟩⟩ with ⟨out, half⟩
  rw [hfirst] at hend
  rcases hsecond : attempted stopping "second" half with ⟨out', torn⟩
  rw [hsecond] at hend
  rw [attempted] at hfirst hsecond
  rcases hend with ⟨hnode, hfind⟩
  have hattempt := Attempt.call (P := fun world _ _ _ => world.Answers) hfirst hanswers
  have hattempt' := Attempt.call (P := fun world _ _ _ => world.Answers) hsecond
    (fun _ _ _ _ => rfl)
  refine ⟨by decide +kernel, by decide +kernel, _, (Relation.ReflTransGen.single hattempt).tail
    hattempt', fun hplaces => ?_⟩
  rcases Option.map_eq_some_iff.mp hfind with ⟨record, hrecord, hfields⟩
  simp only [Prod.mk.injEq] at hfields
  rcases hfields with ⟨hphase, htarget⟩
  -- The claim itself is the one that was made first.
  have hcont : Continues groupJournal torn.journal :=
    (reclaim_continues hfirst).trans (reclaim_continues hsecond)
  rcases hcont "b" record hrecord with ⟨old, hold, hsame, -⟩
  have hclaim : old = ownedRecord "s" "b" leftPath 12 := (Option.some.inj hold).symm
  subst hclaim
  rcases hplaces record (Journal.mem_of_find? hrecord).1 (Or.inl hsame.kind)
    (by rw [hphase]; decide) _ hsame.identity _ _ hnode (by decide +kernel) with
    ⟨place, hplace, heq⟩
  rcases List.mem_cons.mp hplace with rfl | hmem
  · exact absurd heq (by decide)
  · rcases Option.map_eq_some_iff.mp htarget with ⟨target, hsome, hparts⟩
    rw [hsome, Option.toList_some, List.mem_singleton] at hmem
    rw [hmem, hparts] at heq
    exact absurd heq (by decide)

end MirrorGate
