import MirrorGate.Recovery.Reclaim

/-!
# What a Recovery Publishes and Reports

Two things are said here about every part of a recovery, in one statement. On
every exit, also after an exception, the journal has evolved by publications
of a restricted kind: they concern the records in hand, they change neither
what a record claims nor whom it belongs to, and a process is settled as
reclaimed only while a reclaimed cgroup covers it. On a normal exit, the item
that is returned reports the record truthfully.

Both are statements about any operating system. The calls it answers leave
the journal alone, so nothing is assumed of the answers.

## Main definitions

* `SameClaim`: Two records of one claim, at different times.
* `RecoveryUpdate`: What one publication of a recovery may do.
* `Recovers`: The journal evolved by such publications.
* `Tracks`: The journal still has a record of a claim.
* `Reports`: An item says of a record what the journal says.

## Theorems

* `transition_guarantees`, `beginCleanup_guarantees`,
  `finishCleanup_guarantees`: The journal operations.
* `markAmbiguous_guarantees`: Giving up on a claim.
-/

namespace MirrorGate

open Prog Journal

/-! ### Publications of a recovery -/

/-- What no publication of a recovery changes. -/
structure SameClaim (old new : Record) : Prop where
  schema : new.schema = old.schema
  controllerInstance : new.controllerInstance = old.controllerInstance
  bootId : new.bootId = old.bootId
  principalUid : new.principalUid = old.principalUid
  sessionId : new.sessionId = old.sessionId
  resourceId : new.resourceId = old.resourceId
  kind : new.kind = old.kind
  stateRoot : new.stateRoot = old.stateRoot
  identity : new.identity = old.identity
  retainedRecoverable : new.retainedRecoverable = old.retainedRecoverable

theorem SameClaim.refl (record : Record) : SameClaim record record :=
  ⟨rfl, rfl, rfl, rfl, rfl, rfl, rfl, rfl, rfl, rfl⟩

theorem SameClaim.trans {a b c : Record} (h1 : SameClaim a b) (h2 : SameClaim b c) :
    SameClaim a c where
  schema := h2.schema.trans h1.schema
  controllerInstance := h2.controllerInstance.trans h1.controllerInstance
  bootId := h2.bootId.trans h1.bootId
  principalUid := h2.principalUid.trans h1.principalUid
  sessionId := h2.sessionId.trans h1.sessionId
  resourceId := h2.resourceId.trans h1.resourceId
  kind := h2.kind.trans h1.kind
  stateRoot := h2.stateRoot.trans h1.stateRoot
  identity := h2.identity.trans h1.identity
  retainedRecoverable := h2.retainedRecoverable.trans h1.retainedRecoverable

theorem SameClaim.symm {a b : Record} (h : SameClaim a b) : SameClaim b a where
  schema := h.schema.symm
  controllerInstance := h.controllerInstance.symm
  bootId := h.bootId.symm
  principalUid := h.principalUid.symm
  sessionId := h.sessionId.symm
  resourceId := h.resourceId.symm
  kind := h.kind.symm
  stateRoot := h.stateRoot.symm
  identity := h.identity.symm
  retainedRecoverable := h.retainedRecoverable.symm

/-- A change that leaves the claim as it is. -/
def Change.Plain (change : Change) : Prop :=
  change.identity = none ∧ change.retainedRecoverable = none

variable {current updated : Record} {phase : Phase}
variable {change : Change}

theorem updateRecord_same
    (hplain : change.Plain) (h : updateRecord current phase change = .ok updated) :
    SameClaim current updated := by
  rcases updateRecord_eq_ok.mp h with ⟨-, -, -, target, -, rfl⟩
  refine ⟨rfl, rfl, rfl, rfl, rfl, rfl, rfl, rfl, ?_, ?_⟩
  · simp [hplain.1]
  · simp [hplain.2]

theorem updateRecord_phase
    (h : updateRecord current phase change = .ok updated) : updated.phase = phase := by
  rcases updateRecord_eq_ok.mp h with ⟨-, -, -, target, -, rfl⟩
  rfl

/-- No transition leads back to the announcement. -/
theorem updateRecord_started
    (h : updateRecord current phase change = .ok updated) :
    updated.phase ≠ .allocationIntent := by
  rw [updateRecord_phase h]
  rcases (updateRecord_eq_ok.mp h).1 with hmem | ⟨-, hintent, -⟩
  · cases hcurrent : current.phase
    all_goals
      rw [hcurrent] at hmem
      rintro rfl
      simp [transitions] at hmem
  · rw [hintent]
    decide

theorem fixCleanupTarget_same {target : String}
    (h : fixCleanupTarget current target = .ok updated) : SameClaim current updated := by
  rcases fixCleanupTarget_eq_ok.mp h with ⟨-, -, path, -, rfl⟩
  exact ⟨rfl, rfl, rfl, rfl, rfl, rfl, rfl, rfl, rfl, rfl⟩

theorem fixCleanupTarget_phase {target : String}
    (h : fixCleanupTarget current target = .ok updated) : updated.phase = .cleanupIntent := by
  rcases fixCleanupTarget_eq_ok.mp h with ⟨hphase, -, path, -, rfl⟩
  exact hphase

/-- The evidence for settling a process: the journal has the cgroup that
    covers it, reclaimed, and some recovery saw that cgroup empty. -/
def Covered (sha256 : List Char → Hex64) (lease : Lease) (journal : Journal) (record : Record) :
    Prop :=
  record.schema = .v2 ∧ ∃ link group, record.identity.groupLink = some link ∧
    journal.find? link.cgroupResourceId = some group ∧ coveredBy sha256 lease record group ∧
    group.phase = .reclaimed ∧ seenEmpty group

/-- What one publication of a recovery may do. -/
structure RecoveryUpdate (sha256 : List Char → Hex64) (lease : Lease) (ids : List String)
    (journal : Journal) (old new : Record) : Prop where
  touched : old.resourceId ∈ ids
  same : SameClaim old new
  started : new.phase ≠ .allocationIntent
  process : old.kind = .process → new.phase = .ambiguous ∨
    old.phase ≠ .allocationIntent ∧
      (new.phase = .reclaimed → Covered sha256 lease journal old)

/-- The journal evolved by publications of a recovery. -/
def Recovers {W : Type} (sha256 : List Char → Hex64) (lease : Lease) (ids : List String) :
    Machine W → Machine W → Prop :=
  Grows (RecoveryUpdate sha256 lease ids)

instance {W : Type} (sha256 : List Char → Hex64) (lease : Lease) (ids : List String) :
    Std.Refl (Recovers sha256 lease ids : Machine W → Machine W → Prop) :=
  inferInstanceAs (Std.Refl (Grows _))

instance {W : Type} (sha256 : List Char → Hex64) (lease : Lease) (ids : List String) :
    IsTrans (Machine W) (Recovers sha256 lease ids) :=
  inferInstanceAs (IsTrans _ (Grows _))

/-- The journal has a record of this claim. -/
def Tracks (journal : Journal) (record : Record) : Prop :=
  ∃ current, journal.find? record.resourceId = some current ∧ SameClaim record current

variable {record : Record}

theorem Tracks.of_find? {journal : Journal}
    (h : journal.find? record.resourceId = some record) : Tracks journal record :=
  ⟨record, h, .refl record⟩

section Evolution

variable {sha256 : List Char → Hex64} {lease : Lease} {ids : List String} {j k : Journal}

theorem Tracks.evolves (h : Tracks j record)
    (hevolves : Evolves (RecoveryUpdate sha256 lease ids) j k) : Tracks k record := by
  rcases h with ⟨current, hcurrent, hsame⟩
  rcases hevolves.find?_of SameClaim.refl (fun _ _ _ _ hq _ hs => hs.trans hq.same) hcurrent with
    ⟨later, hlater, hsame'⟩
  exact ⟨later, hlater, hsame.trans hsame'⟩

/-- Once announced, a claim does not go back. -/
theorem started_evolves {id : String} (h : j.find? id = some record)
    (hstarted : record.phase ≠ .allocationIntent)
    (hevolves : Evolves (RecoveryUpdate sha256 lease ids) j k) :
    ∃ current, k.find? id = some current ∧ current.phase ≠ .allocationIntent := by
  rcases hevolves.find?_of
      (S := fun r r' => r.phase ≠ .allocationIntent → r'.phase ≠ .allocationIntent)
      (fun _ hr => hr) (fun _ _ _ _ hq _ _ _ => hq.started) h with ⟨current, hcurrent, hs⟩
  exact ⟨current, hcurrent, hs hstarted⟩

/-- The evidence for a process is not lost: a settled cgroup stays settled. -/
theorem Covered.evolves (h : Covered sha256 lease j record)
    (hevolves : Evolves (RecoveryUpdate sha256 lease ids) j k) : Covered sha256 lease k record := by
  rcases h with ⟨hv2, link, group, hlink, hgroup, hcovered, hphase, hseen⟩
  exact ⟨hv2, link, group, hlink, hevolves.terminal hgroup (Or.inl hphase), hcovered, hphase, hseen⟩

/-- The evidence is about what the claim says, not about its phase. -/
theorem Covered.same (h : Covered sha256 lease j record)
    (hsame : SameClaim record current) (hstarted : current.phase ≠ .allocationIntent) :
    Covered sha256 lease j current := by
  rcases h with ⟨hv2, link, group, hlink, hgroup, hcovered, hphase, hseen⟩
  refine ⟨hsame.schema.trans hv2, link, group, by rw [hsame.identity]; exact hlink, hgroup, ?_,
    hphase, hseen⟩
  unfold coveredBy sameOwner at hcovered ⊢
  rw [hsame.bootId, hsame.stateRoot, hsame.sessionId, hsame.controllerInstance,
    hsame.principalUid, hsame.identity]
  exact ⟨hstarted, hcovered.2⟩

theorem RecoveryUpdate.widen {ids' : List String} {old new : Record}
    (h : RecoveryUpdate sha256 lease ids j old new) (hids : ∀ id ∈ ids, id ∈ ids') :
    RecoveryUpdate sha256 lease ids' j old new :=
  ⟨hids _ h.touched, h.same, h.started, h.process⟩

theorem Recovers.widen {W : Type} {s t : Machine W} {ids' : List String}
    (h : Recovers sha256 lease ids s t) (hids : ∀ id ∈ ids, id ∈ ids') :
    Recovers sha256 lease ids' s t :=
  Evolves.mono (fun _ _ _ hq => hq.widen hids) h

/-- What is not in hand is left as it is. -/
theorem Recovers.frame {W : Type} {s t : Machine W} (h : Recovers sha256 lease ids s t)
    {id : String} (hid : id ∉ ids) : t.journal.find? id = s.journal.find? id := by
  refine Evolves.frame h (fun l old new hq heq => ?_)
  exact hid (heq ▸ hq.touched)

end Evolution

/-- A program that leaves the journal alone recovers nothing. -/
theorem recovers_same {W α : Type} {sha256 : List Char → Hex64} {lease : Lease}
    {ids : List String} {m : Py W α} (h : Moves SameJournal m) :
    Moves (Recovers sha256 lease ids) m :=
  fun s => .of_eq (h s)

theorem looks_recovers {W Fd : Type} (os : Os W Fd) {sha256 : List Char → Hex64} {lease : Lease}
    {ids : List String} : Looks os (Recovers sha256 lease ids) :=
  (looks_same os).mono (fun _ _ h => .of_eq h)

/-! ### Journal operations of a recovery -/

section Operations

variable {W : Type} {io : JournalIo W} {sha256 : List Char → Hex64} {lease : Lease}
  {ids : List String} {record : Record}

/-- The journal has this record of a claim, in a phase that satisfies `p`. -/
def HasPhase (record : Record) (p : Phase → Prop) (current : Record) (s : Machine W) : Prop :=
  s.journal.find? record.resourceId = some current ∧ SameClaim record current ∧ p current.phase

/-- The state in which a process may be settled as far as the phase says. -/
def MaySettle (sha256 : List Char → Hex64) (lease : Lease) (record : Record) (phase : Phase)
    (s : Machine W) : Prop :=
  record.kind = .process → phase = .ambiguous ∨
    (∀ current, s.journal.find? record.resourceId = some current →
      current.phase ≠ .allocationIntent) ∧
    (phase = .reclaimed → Covered sha256 lease s.journal record)

/-- A plain transition is a publication of a recovery, if the evidence for a
    process is there. -/
theorem transition_guarantees (hplain : change.Plain)
    (hid : record.resourceId ∈ ids) :
    Guarantees
      (fun s => Tracks s.journal record ∧ MaySettle sha256 lease record phase s)
      (Recovers sha256 lease ids) (Journal.transition io record.resourceId phase change)
      (HasPhase record (· = phase)) := by
  intro s hs
  rcases hs with ⟨⟨known, hknown, hsame⟩, hsettle⟩
  refine ⟨?_, fun current t hrun => ?_⟩
  · refine transition_evolves rfl (fun old new hold hnew => ?_)
    have heq : old = known := by
      rw [hknown, Option.some.injEq] at hold
      exact hold.symm
    rw [heq] at hold hnew ⊢
    refine ⟨?_, updateRecord_same hplain hnew, updateRecord_started hnew, fun hprocess => ?_⟩
    · rw [hsame.resourceId]
      exact hid
    · rw [updateRecord_phase hnew]
      rcases hsettle (hsame.kind ▸ hprocess) with hambiguous | ⟨hstarted, hcovered⟩
      · exact Or.inl hambiguous
      · exact Or.inr ⟨hstarted known hold, fun hreclaimed =>
          (hcovered hreclaimed).same hsame (hstarted known hold)⟩
  · rcases transition_ok hrun with ⟨old, hvalid, hold, hnew, hjournal⟩
    have hresult : SameClaim record current := by
      rw [hknown, Option.some.injEq] at hold
      rw [← hold] at hnew
      exact hsame.trans (updateRecord_same hplain hnew)
    refine ⟨?_, hresult, updateRecord_phase hnew⟩
    rw [hjournal, ← hresult.resourceId, find?_put_self]

/-- The precondition of the operations on a claim that is no process. -/
def TracksOther (record : Record) (s : Machine W) : Prop :=
  Tracks s.journal record ∧ record.kind ≠ .process

theorem TracksOther.maySettle {s : Machine W} (h : TracksOther record s) (phase : Phase) :
    Tracks s.journal record ∧ MaySettle sha256 lease record phase s :=
  ⟨h.1, fun hprocess => absurd hprocess h.2⟩

theorem tracksOther_stable (s t : Machine W) (h : TracksOther record s)
    (hrecovers : Recovers sha256 lease ids s t) : TracksOther record t :=
  ⟨h.1.evolves hrecovers, h.2⟩

theorem transition_other_guarantees (hplain : change.Plain)
    (hid : record.resourceId ∈ ids) :
    Guarantees (TracksOther record) (Recovers sha256 lease ids)
      (Journal.transition io record.resourceId phase change) (HasPhase record (· = phase)) :=
  (transition_guarantees hplain hid).pre (fun _ hs => hs.maySettle phase)

theorem setCleanupTarget_guarantees {target : String} (hid : record.resourceId ∈ ids) :
    Guarantees (TracksOther record) (Recovers sha256 lease ids)
      (Journal.setCleanupTarget io record.resourceId target)
      (HasPhase record (· = .cleanupIntent)) := by
  intro s hs
  rcases hs with ⟨⟨known, hknown, hsame⟩, hother⟩
  refine ⟨?_, fun current t hrun => ?_⟩
  · refine setCleanupTarget_evolves rfl (fun old new hold hnew => ?_)
    rw [hknown, Option.some.injEq] at hold
    rw [← hold] at hnew ⊢
    refine ⟨?_, fixCleanupTarget_same hnew, ?_, fun hprocess => ?_⟩
    · rw [hsame.resourceId]
      exact hid
    · rw [fixCleanupTarget_phase hnew]
      decide
    · exact absurd (hsame.kind ▸ hprocess) hother
  · rcases setCleanupTarget_ok hrun with ⟨old, hvalid, hold, hnew, hjournal⟩
    have hresult : SameClaim record current := by
      rw [hknown, Option.some.injEq] at hold
      rw [← hold] at hnew
      exact hsame.trans (fixCleanupTarget_same hnew)
    refine ⟨?_, hresult, fixCleanupTarget_phase hnew⟩
    rw [hjournal, ← hresult.resourceId, find?_put_self]

variable {P : Machine W → Prop}

/-- Reading back a claim. -/
theorem read_guarantees (htracks : ∀ s, P s → Tracks s.journal record) :
    Guarantees P (Recovers sha256 lease ids) (Journal.read io record.resourceId)
      (HasPhase record (fun _ => True)) := by
  intro s hs
  refine ⟨.of_eq (read_same io _ s), fun current t hrun => ?_⟩
  rcases read_ok hrun with ⟨hcurrent, hjournal, -⟩
  rcases htracks s hs with ⟨known, hknown, hsame⟩
  rw [hknown, Option.some.injEq] at hcurrent
  rw [← hcurrent]
  exact ⟨by rw [hjournal]; exact hknown, hsame, trivial⟩

/-- Cleanup begins: afterwards it is under way, or the claim was settled
    before. -/
theorem beginCleanup_guarantees
    (hP : ∀ s, P s → Tracks s.journal record ∧ MaySettle sha256 lease record .cleanupIntent s)
    (hstable : ∀ s t, P s → Recovers sha256 lease ids s t → P t)
    (hid : record.resourceId ∈ ids) :
    Guarantees P (Recovers sha256 lease ids) (Journal.beginCleanup io record.resourceId)
      (HasPhase record (fun phase => phase = .cleanupIntent ∨ phase.Terminal)) := by
  unfold beginCleanup
  refine guarantees_bind hstable (read_guarantees (fun s hs => (hP s hs).1)) (fun current => ?_)
  split
  · next hdone => exact guarantees_pure _ (fun s hs => ⟨hs.2.1, hs.2.2.1, hdone⟩)
  · split
    · exact guarantees_raise _
    · exact ((transition_guarantees ⟨rfl, rfl⟩ hid).pre (fun s hs => hP s hs.1)).post
        (fun _ _ h => ⟨h.1, h.2.1, Or.inl h.2.2⟩)

/-- Cleanup ends: afterwards the result is recorded, or the claim was settled
    before. -/
theorem finishCleanup_guarantees {complete : Bool}
    (hP : ∀ s, P s → Tracks s.journal record ∧
      MaySettle sha256 lease record (Journal.finishedPhase complete) s)
    (hstable : ∀ s t, P s → Recovers sha256 lease ids s t → P t)
    (hid : record.resourceId ∈ ids) :
    Guarantees P (Recovers sha256 lease ids)
      (Journal.finishCleanup io record.resourceId complete)
      (HasPhase record (fun phase => phase.Terminal ∨ phase = Journal.finishedPhase complete)) := by
  unfold finishCleanup
  refine guarantees_bind hstable (read_guarantees (fun s hs => (hP s hs).1)) (fun current => ?_)
  split
  · next hdone => exact guarantees_pure _ (fun s hs => ⟨hs.2.1, hs.2.2.1, Or.inl hdone⟩)
  split
  · next hsame => exact guarantees_pure _ (fun s hs => ⟨hs.2.1, hs.2.2.1, Or.inr hsame⟩)
  split
  · exact guarantees_raise _
  · exact ((transition_guarantees ⟨rfl, rfl⟩ hid).pre (fun s hs => hP s hs.1)).post
      (fun _ _ h => ⟨h.1, h.2.1, Or.inr h.2.2⟩)

end Operations

/-! ### Items -/

/-- An item reports a record of the journal: it names the claim, its result
    is one a receipt knows, a result other than success has a reason, and
    success is what the journal says. -/
structure Reports (record : Record) (item : RecoveryItem) (journal : Journal) : Prop where
  resourceId : item.resourceId = record.resourceId
  sessionId : item.sessionId = record.sessionId
  kind : item.kind = record.kind
  result : item.disposition.IsResult
  reason : ∀ reason ∈ item.reasonCode, IsReceiptId reason
  explained : item.disposition ≠ .reclaimed → item.reasonCode ≠ none
  settled : item.disposition = .reclaimed →
    ∃ current, journal.find? record.resourceId = some current ∧ current.phase = .reclaimed

theorem Reports.evolves {item : RecoveryItem} {j k : Journal}
    {Q : Journal → Record → Record → Prop} (h : Reports record item j) (hevolves : Evolves Q j k) :
    Reports record item k where
  resourceId := h.resourceId
  sessionId := h.sessionId
  kind := h.kind
  result := h.result
  reason := h.reason
  explained := h.explained
  settled := fun hreclaimed => by
    rcases h.settled hreclaimed with ⟨current, hcurrent, hphase⟩
    exact ⟨current, hevolves.terminal hcurrent (Or.inl hphase), hphase⟩

/-- The item of a record that is not reclaimed. -/
theorem reports_of_reason {journal : Journal}
    {disposition : Disposition} {reason : String} (hsame : SameClaim record current)
    (hresult : disposition.IsResult) (hne : disposition ≠ .reclaimed)
    (hreason : IsReceiptId reason) :
    Reports record { current.item disposition (some reason) with phase := phase } journal where
  resourceId := hsame.resourceId
  sessionId := hsame.sessionId
  kind := hsame.kind
  result := hresult
  reason := by simpa [Record.item] using hreason
  explained := fun _ => by simp [Record.item]
  settled := fun hreclaimed => absurd hreclaimed hne

/-- The item of a record that is reclaimed. -/
theorem reports_reclaimed {latest : Record} {journal : Journal}
    (hsame : SameClaim record current) (hlatest : journal.find? record.resourceId = some latest)
    (hphase : latest.phase = .reclaimed) :
    Reports record { current.item .reclaimed none with phase := phase } journal where
  resourceId := hsame.resourceId
  sessionId := hsame.sessionId
  kind := hsame.kind
  result := show Disposition.reclaimed.IsResult by decide
  reason := by simp [Record.item]
  explained := fun hne => absurd rfl hne
  settled := fun _ => ⟨latest, hlatest, hphase⟩

section Items

variable {W Fd : Type} {sha256 : List Char → Hex64} {lease : Lease} {ids : List String}
  {record : Record}

/-- Giving up on a claim. -/
theorem markAmbiguous_guarantees {io : JournalIo W} {attemptId reason : String}
    (hsame : SameClaim record current) (hid : record.resourceId ∈ ids)
    (hreason : IsReceiptId reason) :
    Guarantees (fun s => Tracks s.journal record) (Recovers sha256 lease ids)
      (markAmbiguous io current attemptId reason)
      (fun item t => Reports record item t.journal ∧ item.disposition = .ambiguous) := by
  have hresult : Disposition.ambiguous.IsResult := by decide
  unfold markAmbiguous
  split
  · exact guarantees_pure _ (fun s _ =>
      ⟨reports_of_reason hsame hresult (by decide) hreason, rfl⟩)
  · rw [hsame.resourceId]
    have hmove : Guarantees (fun s => Tracks s.journal record) (Recovers sha256 lease ids)
        (transition io record.resourceId .ambiguous
          (.note attemptId .ambiguous (some reason))) (HasPhase record (· = .ambiguous)) :=
      (transition_guarantees ⟨rfl, rfl⟩ hid).pre (fun s hs => ⟨hs, fun _ => Or.inl rfl⟩)
    refine guarantees_bind (fun s t hs ht => hs.evolves ht) hmove (fun latest => ?_)
    exact guarantees_pure _ (fun s hs =>
      ⟨reports_of_reason hs.2.2.1 hresult (by decide) hreason, rfl⟩)

end Items

end MirrorGate
