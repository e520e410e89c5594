import MirrorGate.Journal.History

/-!
# When a Transition Is Accepted

The transition table says which phase may follow which, but a transition that
the table permits can still be refused: the record it would publish has to
pass the validator, fit into 64 KiB, and be readable afterwards. All three
depend on what the record has accumulated, and nothing in the journal ever
makes a record smaller.

`transition_accepted_iff` is the exact condition, for a world in which files
can be written and read. Its clauses are the ways a record gets stuck: the
sixty-fifth observation, a sequence number beyond 63 bits, a text that is too
long, an identity that was never completed, a retained source without a
recovery policy, and evidence of an empty cgroup, which the validator refuses
in an ambiguous record. The last one needs no long history:
`ambiguous_refused_after_evidence` reaches it in five calls.

## Main definitions

* `Record.advanced`: The record a transition with an observation publishes.
* `Admits`: What a record needs for a permitted transition to be accepted.

## Theorems

* `advanced_valid_iff`: When the validator accepts the advanced record.
* `transition_accepted_iff`: When a permitted transition is accepted.
* `ambiguous_refused_after_evidence`: A reachable record that is stuck.
-/

namespace MirrorGate

/-- The record that a transition with an observation publishes. -/
def Record.advanced (record : Record) (phase : Phase) (observation : Observation) : Record :=
  { record with
    sequence := record.sequence + 1
    phase := phase
    observations := record.observations ++ [observation] }

/-- What a record needs for a transition that the table permits: room for one
    more observation and one more publication, a text that stays short, an
    identity unless it is given up on, no evidence if it is, and a recovery
    policy if it is a retained source that is cleaned up. -/
structure Admits (sha256 : List Char → Hex64) (record : Record) (phase : Phase)
    (observation : Observation) : Prop where
  room : record.observations.length < 64
  countable : record.sequence < maxInteger
  fits : (record.advanced phase observation).encodedLength sha256 ≤ maxRecordBytes
  identified : record.identity.Complete record.kind record.schema ∨ phase = .ambiguous
  unproved : phase = .ambiguous → record.cleanupEvidence = none
  policy : record.kind = .retainedSource → phase.IsCleanup → record.retainedRecoverable = true

/-! ### The validator on an advanced record -/

theorem ne_allocationIntent_of_mem {old new : Phase} (h : new ∈ transitions old) :
    new ≠ .allocationIntent := by
  rintro rfl
  cases old <;> simp [transitions] at h

/-- An announcement is not complete. -/
theorem not_complete_of_announced {value : Identity} {kind : Kind} {schema : Schema}
    (h : if schema = .v2 ∧ kind = .process then ∃ link, value = .announced link
      else value = .empty) : ¬ value.Complete kind schema := by
  intro hcomplete
  split at h
  · next hcovered =>
    rcases hcovered with ⟨rfl, rfl⟩
    rcases h with ⟨link, rfl⟩
    have := hcomplete .pid (by simp [identityFields])
    rw [keys_announced] at this
    simp at this
  · subst h
    have hfields : identityFields kind schema ≠ [] := by
      cases kind <;> cases schema <;> simp [identityFields]
    rcases List.exists_mem_of_ne_nil _ hfields with ⟨key, hkey⟩
    have := hcomplete key hkey
    rw [keys_empty] at this
    simp at this

variable {record : Record} {phase : Phase}

/-- A new phase asks of the identity that it is complete, unless the resource
    is given up on. -/
theorem validateIdentity_advanced (hvalid : record.Valid)
    (hphase : phase ∈ transitions record.phase) :
    validateIdentity record.kind phase record.identity record.schema = .ok () ↔
      record.identity.Complete record.kind record.schema ∨ phase = .ambiguous := by
  rcases validateIdentity_eq_ok.mp hvalid.identity with ⟨hschema, hkeys, hlink, hshape⟩
  rw [validateIdentity_eq_ok]
  constructor
  · rintro ⟨-, -, -, ⟨hunidentified, -⟩ | ⟨hcomplete, -⟩⟩
    · rcases hunidentified with hintent | hambiguous
      · exact absurd hintent (ne_allocationIntent_of_mem hphase)
      · exact Or.inr hambiguous
    · exact Or.inl hcomplete
  · intro h
    refine ⟨hschema, hkeys, hlink, ?_⟩
    rcases hshape with ⟨-, hannounced⟩ | hcomplete
    · rcases h with hcomplete | hambiguous
      · exact absurd hcomplete (not_complete_of_announced hannounced)
      · exact Or.inl ⟨Or.inr hambiguous, hannounced⟩
    · exact Or.inr hcomplete

/-- Evidence survives every permitted phase change but the one to
    `ambiguous`. -/
theorem validateEvidence_advanced (hvalid : record.Valid)
    (hphase : phase ∈ transitions record.phase) :
    validateEvidence record.kind phase record.cleanupEvidence = .ok () ↔
      (phase = .ambiguous → record.cleanupEvidence = none) := by
  have hold := hvalid.evidence
  rcases hevidence : record.cleanupEvidence with _ | evidence
  · simp [validateEvidence]
  · rw [hevidence] at hold
    simp only [validateEvidence, unit_bind_eq_ok, require_eq_ok] at hold ⊢
    rcases hold with ⟨⟨hkind, hcleanup⟩, hbounds⟩
    -- Only cleanup phases carry evidence, so the table leaves few cases.
    have hnext : phase.IsCleanup ↔ phase ≠ .ambiguous := by
      rcases hcleanup with h | h | h
      all_goals
        rw [h] at hphase
        simp only [transitions, List.mem_cons, List.not_mem_nil, or_false] at hphase
      · rcases hphase with rfl | rfl | rfl <;> decide
      · rcases hphase with rfl | rfl <;> decide
    rw [hnext]
    constructor
    · intro h hambiguous
      exact absurd hambiguous h.1.2
    · intro h
      exact ⟨⟨hkind, fun hambiguous => by simpa using h hambiguous⟩, hbounds⟩

/-- When the validator accepts the advanced record. -/
theorem advanced_valid_iff (hvalid : record.Valid)
    {observation : Observation} (hphase : phase ∈ transitions record.phase)
    (hformed : observation.WellFormed) :
    (record.advanced phase observation).Valid ↔
      record.observations.length < 64 ∧
      (record.identity.Complete record.kind record.schema ∨ phase = .ambiguous) ∧
      (phase = .ambiguous → record.cleanupEvidence = none) ∧
      (record.kind = .retainedSource → phase.IsCleanup → record.retainedRecoverable = true) := by
  constructor
  · intro h
    have hlength := h.observations_length
    simp only [Record.advanced, List.length_append, List.length_singleton] at hlength
    exact ⟨by omega, (validateIdentity_advanced hvalid hphase).mp h.identity,
      (validateEvidence_advanced hvalid hphase).mp h.evidence, h.retained⟩
  · rintro ⟨hroom, hidentified, hunproved, hpolicy⟩
    refine
      { closed := hvalid.closed
        sequence_pos := Nat.succ_pos _
        controllerInstance := hvalid.controllerInstance
        bootId := hvalid.bootId
        sessionId := hvalid.sessionId
        resourceId := hvalid.resourceId
        stage := hvalid.stage
        identity := (validateIdentity_advanced hvalid hphase).mpr hidentified
        evidence := (validateEvidence_advanced hvalid hphase).mpr hunproved
        cleanupTarget := hvalid.cleanupTarget
        retained := hpolicy
        observations_length := ?_
        observations := ?_ }
    · simp only [Record.advanced, List.length_append, List.length_singleton]
      omega
    · intro o ho
      rcases List.mem_append.mp ho with ho | ho
      · exact hvalid.observations o ho
      · rw [List.mem_singleton.mp ho]
        exact hformed

/-- An advanced record can be read back as long as its sequence number can. -/
theorem advanced_bounded_iff {sha256 : List Char → Hex64}
    (hvalid : record.Valid) (hbounded : record.Bounded sha256)
    {observation : Observation} (hnew : (record.advanced phase observation).Valid) :
    (record.advanced phase observation).Bounded sha256 ↔ record.sequence < maxInteger := by
  have hold := (bounded_iff sha256 hvalid).mp hbounded
  rw [bounded_iff sha256 hnew]
  simp only [Record.numbers, Record.advanced, List.cons_append, List.nil_append,
    List.forall_mem_cons] at hold ⊢
  constructor
  · intro h
    exact h.1
  · intro h
    exact ⟨h, hold.2⟩

/-! ### The transition -/

variable {W : Type}

/-- A world in which files can be written and read. -/
structure JournalIo.Writable (io : JournalIo W) : Prop where
  publish : ∀ w, (io.publish w).1 = .committed
  readFile : ∀ name w, (io.readFile name w).1 = .ok ()

namespace Journal

variable {io : JournalIo W} {s : Machine W}

/-- In a readable world, reading succeeds exactly on readable records. -/
theorem read_run (hio : io.Writable)
    (hfind : s.journal.find? record.resourceId = some record) :
    ∃ w, (read io record.resourceId).run s =
      ((decodeRecord io record).mapError .journal, ⟨s.journal, w⟩) := by
  have hopaque := (valid_of_find? hfind).resourceId
  have hcheck : (journalCheck (checkOpaque record.resourceId "resource ID") : Py W Unit).run s =
      (.ok (), s) :=
    journalCheck_eq_ok.mpr ⟨checkOpaque_eq_ok.mpr hopaque, rfl⟩
  rcases hfile : io.readFile (fileName record.resourceId) s.world with ⟨result, w⟩
  have hresult := hio.readFile (fileName record.resourceId) s.world
  rw [hfile] at hresult
  dsimp only at hresult
  subst hresult
  have hperform : (perform (io.readFile (fileName record.resourceId))).run s =
      (.ok (), ⟨s.journal, w⟩) :=
    perform_eq_ok.mpr ⟨hfile, rfl⟩
  refine ⟨w, ?_⟩
  unfold read
  rw [Prog.bind_run_ok hcheck, Prog.bind_run_ok (Prog.gets_run _ s), hfind,
    Prog.bind_run_ok (Prog.handle_run_ok hperform)]
  rfl

theorem read_eq_ok_iff (hio : io.Writable)
    (hfind : s.journal.find? record.resourceId = some record) :
    (∃ found t, (read io record.resourceId).run s = (.ok found, t)) ↔
      record.Bounded io.sha256 := by
  rcases read_run hio hfind with ⟨w, hrun⟩
  rw [hrun]
  constructor
  · rintro ⟨found, t, h⟩
    rcases hdecode : decodeRecord io record with message | decoded
    · rw [hdecode] at h
      simp [Except.mapError] at h
    · exact (decodeRecord_eq_ok.mp hdecode).1
  · intro hbounded
    refine ⟨record, ⟨s.journal, w⟩, ?_⟩
    rw [decodeRecord_eq_ok.mpr ⟨hbounded, rfl⟩]
    rfl

/-- In a writable world, publication succeeds exactly on records that encode. -/
theorem publish_run (hio : io.Writable) {payload : Record} (hvalid : payload.Valid)
    (hfits : payload.encodedLength io.sha256 ≤ maxRecordBytes) :
    ∃ w, (publish io payload false).run s = (.ok (), ⟨s.journal.put payload hvalid, w⟩) := by
  rcases hpublish : io.publish s.world with ⟨outcome, w⟩
  have houtcome := hio.publish s.world
  rw [hpublish] at houtcome
  dsimp only at houtcome
  subst houtcome
  refine ⟨w, ?_⟩
  unfold publish
  dsimp only
  split
  · next message h =>
    have := (encodeRecord_eq_ok io.sha256).mpr ⟨hvalid, hfits, rfl⟩
    rw [h] at this
    cases this
  · simp only [Bool.false_and, Bool.false_eq_true, if_false, hpublish]

end Journal

/-- A transition that the table permits, given with a well-formed observation,
    is accepted exactly if the record admits it. -/
theorem transition_accepted_iff (io : JournalIo W) (hio : io.Writable) (s : Machine W)
    (record : Record) (hfind : s.journal.find? record.resourceId = some record)
    (hbounded : record.Bounded io.sha256) (phase : Phase)
    (hphase : phase ∈ transitions record.phase) (observation : Observation)
    (hformed : observation.WellFormed) :
    (∃ updated t, (Journal.transition io record.resourceId phase
        { observation := some observation }).run s = (.ok updated, t)) ↔
      Admits io.sha256 record phase observation := by
  have hvalid := Journal.valid_of_find? hfind
  have hupdate : updateRecord record phase { observation := some observation } =
      .ok (record.advanced phase observation) := by
    refine updateRecord_eq_ok.mpr ⟨Or.inl hphase, ?_, ?_, record.cleanupTarget, rfl, rfl⟩
    · simp
    · simp
  constructor
  · rintro ⟨updated, t, h⟩
    -- An accepted transition published the advanced record and read it back.
    unfold Journal.transition Journal.replace at h
    rcases Prog.bind_eq_ok_iff.mp h with ⟨current, t1, hread, h⟩
    rcases Journal.read_ok hread with ⟨hcurrent, -, -⟩
    rw [hfind, Option.some.injEq] at hcurrent
    subst hcurrent
    rcases Prog.bind_eq_ok_iff.mp h with ⟨next, t2, hnext, h⟩
    rcases journalCheck_eq_ok.mp hnext with ⟨hcomputed, rfl⟩
    have hadvanced : record.advanced phase observation = next :=
      Except.ok.inj (hupdate.symm.trans hcomputed)
    subst hadvanced
    rcases Prog.bind_eq_ok_iff.mp h with ⟨_, t3, hpublish, hback⟩
    have hencoded : (record.advanced phase observation).Valid ∧
        (record.advanced phase observation).encodedLength io.sha256 ≤ maxRecordBytes := by
      unfold Journal.publish at hpublish
      dsimp only at hpublish
      split at hpublish
      · cases hpublish
      · next text htext =>
        rcases (encodeRecord_eq_ok io.sha256).mp htext with ⟨h1, h2, -⟩
        exact ⟨h1, h2⟩
    have hfound := (Journal.read_ok hback)
    have hput : t3.journal.find? record.resourceId =
        some (record.advanced phase observation) := by
      rcases Journal.publish_run (s := t1) hio hencoded.1 hencoded.2 with ⟨w, hrun⟩
      rw [hpublish] at hrun
      cases hrun
      exact Journal.find?_put_self _ (record.advanced phase observation) hencoded.1
    rw [hput, Option.some.injEq] at hfound
    rcases hfound with ⟨rfl, -, hreadable⟩
    rcases (advanced_valid_iff hvalid hphase hformed).mp hencoded.1 with
      ⟨hroom, hidentified, hunproved, hpolicy⟩
    exact ⟨hroom, (advanced_bounded_iff hvalid hbounded hencoded.1).mp hreadable, hencoded.2,
      hidentified, hunproved, hpolicy⟩
  · intro hadmits
    have hnew : (record.advanced phase observation).Valid :=
      (advanced_valid_iff hvalid hphase hformed).mpr
        ⟨hadmits.room, hadmits.identified, hadmits.unproved, hadmits.policy⟩
    have hreadable := (advanced_bounded_iff hvalid hbounded hnew).mpr hadmits.countable
    rcases (Journal.read_eq_ok_iff hio hfind).mpr hbounded with ⟨found, t1, hread⟩
    rcases Journal.read_ok hread with ⟨hfound, -, -⟩
    rw [hfind, Option.some.injEq] at hfound
    subst hfound
    have hcheck : (journalCheck (updateRecord record phase { observation := some observation }) :
        Py W Record).run t1 = (.ok (record.advanced phase observation), t1) :=
      journalCheck_eq_ok.mpr ⟨hupdate, rfl⟩
    rcases Journal.publish_run (s := t1) hio hnew hadmits.fits with ⟨w, hpublish⟩
    have hput : (Machine.mk (t1.journal.put _ hnew) w).journal.find?
        (record.advanced phase observation).resourceId =
          some (record.advanced phase observation) :=
      Journal.find?_put_self _ _ hnew
    rcases (Journal.read_eq_ok_iff hio hput).mpr hreadable with ⟨updated, t, hback⟩
    refine ⟨updated, t, ?_⟩
    unfold Journal.transition Journal.replace
    rw [Prog.bind_run_ok hread, Prog.bind_run_ok hcheck, Prog.bind_run_ok hpublish]
    exact hback

/-- A record as it is claimed for a directory. -/
def claimedDirectory : Record :=
  Journal.claimRecord someLease "session-1" "directory-1" .filesystem "allocate" false .v1 none

theorem claimedDirectory_valid : claimedDirectory.Valid :=
  validateRecord_eq_ok.mp (by decide +kernel)

/-- A directory that was only claimed can be given up on. -/
theorem transition_accepted_after_claim :
    ∃ updated t, (Journal.transition (JournalIo.obliging zeroDigest) "directory-1" .ambiguous
      { observation := some ⟨"attempt-1", .ambiguous, none⟩ }).run
        ⟨Journal.empty.put claimedDirectory claimedDirectory_valid, ()⟩ = (.ok updated, t) := by
  refine (transition_accepted_iff (JournalIo.obliging zeroDigest) ⟨fun _ => rfl, fun _ _ => rfl⟩
    ⟨Journal.empty.put claimedDirectory claimedDirectory_valid, ()⟩ claimedDirectory
    (Journal.find?_put_self _ _ claimedDirectory_valid)
    ((bounded_iff _ claimedDirectory_valid).mpr (by decide +kernel)) .ambiguous (by decide)
    ⟨"attempt-1", .ambiguous, none⟩ (by decide +kernel)).mpr ?_
  exact ⟨by decide, by decide +kernel, by decide +kernel, Or.inr rfl, fun _ => rfl, by decide⟩

/-! ### Reading back what was written -/

/-- `_decode_record` on the text of a record. The JSON library reads the value
    back that it has written. -/
def decodeWritten (sha256 : List Char → Hex64) (payload : Record) (name : String) :
    Except String Record := do
  require (payload.encodedLength sha256 ≤ maxRecordBytes)
    "journal record is truncated or oversized"
  let _ ← boundedJson 0 0 (payload.checksummed sha256)
  validateRecord payload
  require (Journal.fileName payload.resourceId = name)
    "record filename does not match resource identity"
  .ok payload

theorem decodeWritten_eq_ok {sha256 : List Char → Hex64} {payload : Record} {text : List Char}
    (h : encodeRecord sha256 payload = .ok text) :
    decodeWritten sha256 payload (Journal.fileName payload.resourceId) = .ok payload ↔
      payload.Bounded sha256 := by
  rcases (encodeRecord_eq_ok sha256).mp h with ⟨hvalid, hlength, -⟩
  rw [decodeWritten, unit_bind_eq_ok, require_eq_ok, bind_eq_ok]
  simp only [unit_bind_eq_ok, require_eq_ok, validateRecord_eq_ok, hvalid, hlength, and_true,
    true_and, Record.Bounded]

/-- A claimed directory whose owner has a number that does not fit. -/
def distantOwner : Record := { claimedDirectory with principalUid := 2 ^ 63 }

/-- The journal after a list of calls by one controller. -/
def journalAfter (io : JournalIo Unit) (lease : Lease) (calls : List Op) (journal : Journal) :
    Journal :=
  calls.foldl (fun journal op => ((op.perform io lease).run ⟨journal, ()⟩).2.journal) journal

/-- What a list of calls leads to has a history. -/
theorem history_journalAfter (io : JournalIo Unit) (lease : Lease) (id : String) (calls : List Op)
    {journal : Journal} {records : List Record} (h : History io id journal records) :
    ∃ records', History io id (journalAfter io lease calls journal) records' := by
  induction calls generalizing journal records with
  | nil => exact ⟨records, h⟩
  | cons op calls ih => exact ih (h.call lease op ())

/-- The calls that lead to a stuck record: a covered cgroup is claimed and
    identified, its cleanup starts, and its emptiness is recorded. -/
def stuckCalls : List Op :=
  [.claimIntent "session-1" "cgroup-1" .cgroup "allocate" false .v2 none,
    .transition "cgroup-1" .durableOwned
      { identity := some (.cgroup
          ⟨⟨["mirrorgate-1"], by decide, by decide, by decide +kernel⟩, 1, 7, 16384,
            some ⟨1, 5, 1000⟩⟩) },
    .beginCleanup "cgroup-1",
    .transition "cgroup-1" .cleanupIntent
      { cleanupEvidence := some
          ⟨.blank, ⟨[(.cgroupEvents, some "populated 0\nfrozen 0")], by decide⟩⟩ }]

/-- The journal the calls lead to. -/
def stuckJournal : Journal :=
  journalAfter (JournalIo.obliging zeroDigest) someLease stuckCalls Journal.empty

/-- The stuck record is reached by accepted calls from an empty journal. Its
    phase permits `ambiguous`, which is what a recovery asks for when it finds
    another cgroup in its place, and the journal refuses it. -/
theorem ambiguous_refused_after_evidence :
    (∃ records, History (JournalIo.obliging zeroDigest) "cgroup-1" stuckJournal records) ∧
    (stuckJournal.find? "cgroup-1").map (fun record => (record.sequence, record.phase)) =
      some (4, .cleanupIntent) ∧
    Phase.ambiguous ∈ transitions .cleanupIntent ∧
    Observation.WellFormed ⟨"attempt-1", .ambiguous, some "cgroup_identity_unconfirmed"⟩ ∧
    ((Journal.transition (JournalIo.obliging zeroDigest) "cgroup-1" .ambiguous
        { observation := some
            ⟨"attempt-1", .ambiguous, some "cgroup_identity_unconfirmed"⟩ }).run
        ⟨stuckJournal, ()⟩).1 = .error (.journal "invalid cgroup cleanup evidence") := by
  refine ⟨?_, by decide +kernel⟩
  exact history_journalAfter _ _ _ stuckCalls (.start Journal.empty rfl)

end MirrorGate
