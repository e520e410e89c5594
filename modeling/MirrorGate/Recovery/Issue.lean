import MirrorGate.Recovery.Accounting
import MirrorGate.Recovery.Evidence

/-!
# When a Receipt Is Issued

A recovery ends with a receipt, and the checks of the receipt are made after
everything else has been done. They are not those of the journal, so there
can be a journal whose recovery removes resources and then raises.

Nearly all that is checked is true by construction: results are distinct and
known, failures have reasons, observations and remaining resources agree with
the results. `receipt_issued_iff` says what is left. A name must not start
with a dash or an underscore, which the journal permits. The counters of a
reclaimed cgroup of version 1 must say that it is empty in the very words the
receipt looks for. And the receipt must not be longer than 512 KiB.

## Main definitions

* `StartsPlain`: A name that starts with a letter or a digit.
* `IsInstanceToken`, `IsBootId`, `Lease.Genuine`: What the source makes sure
  of.
* `Issuable`: What a receipt is issued for.

## Theorems

* `IsOpaque.isReceiptId_iff`: Names of the journal and names of a receipt.
* `observationOf_visit`: The observation of a cgroup is its own.
* `receipt_issued_iff`: When a receipt is issued.
* `removed_without_receipt`: A directory that is removed without a receipt.
-/

namespace MirrorGate

open List RecoveryItem

variable {W Fd : Type}

/-! ### Names -/

/-- The name starts with a letter or a digit. -/
def StartsPlain (value : String) : Prop := ∃ first ∈ value.toList.head?, first.isAlphanum = true

instance (value : String) : Decidable (StartsPlain value) :=
  decidable_of_iff (value.toList.head?.any Char.isAlphanum = true)
    (by rw [Option.any_eq_true]; rfl)

/-- What `token_hex` returns for sixteen bytes. -/
def IsInstanceToken (value : String) : Prop :=
  value.toList.length = 32 ∧ value.toList.all isHexDigit = true

instance (value : String) : Decidable (IsInstanceToken value) :=
  inferInstanceAs (Decidable (_ ∧ _))

/-- What is accepted as the identity of a boot. -/
def IsBootId (value : String) : Prop :=
  value.toList.length = 36 ∧ value.toList.all (fun c => isHexDigit c || c = '-') = true

instance (value : String) : Decidable (IsBootId value) := inferInstanceAs (Decidable (_ ∧ _))

/-- A lease as it is made: its instance is a fresh token, and its boot
    identity was checked. -/
structure Lease.Genuine (lease : Lease) : Prop where
  controllerInstance : IsInstanceToken lease.controllerInstance
  bootId : IsBootId lease.bootId

/-- There are at least as many bytes as characters. -/
theorem length_toList_le (value : String) : value.toList.length ≤ value.utf8ByteSize := by
  have hlen : ∀ cs : List Char, cs.length ≤ String.utf8Len cs := by
    intro cs
    induction cs with
    | nil => simp
    | cons c cs ih =>
      have := c.utf8Size_pos
      rw [String.utf8Len_cons, length_cons]
      omega
  have hbytes := hlen value.toList
  rw [← String.utf8ByteSize_ofList, String.ofList_toList] at hbytes
  exact hbytes

theorem isOpaqueChar_of_hex {c : Char} (h : isHexDigit c = true) :
    c.isAlphanum = true ∧ isOpaqueChar c = true := by
  have halnum : c.isAlphanum = true := by
    unfold isHexDigit at h
    unfold Char.isAlphanum Char.isAlpha Char.isLower
    simp only [Bool.or_eq_true, Bool.and_eq_true, decide_eq_true_eq] at h ⊢
    rcases h with hdigit | ⟨hlow, hhigh⟩
    · exact Or.inr hdigit
    · refine Or.inl (Or.inr ⟨hlow, ?_⟩)
      rw [Char.le_def, UInt32.le_iff_toNat_le] at hhigh
      rw [UInt32.le_iff_toNat_le]
      exact le_trans hhigh (by decide)
  exact ⟨halnum, by simp [isOpaqueChar, halnum]⟩

/-- A name of the journal is a name of a receipt exactly if it starts with a
    letter or a digit. -/
theorem IsOpaque.isReceiptId_iff {value : String} (h : IsOpaque value) :
    IsReceiptId value ↔ StartsPlain value := by
  constructor
  · exact fun hid => hid.2.2
  · exact fun hplain => ⟨le_trans (length_toList_le value) h.1.2, h.2.2, hplain⟩

theorem IsInstanceToken.isReceiptId {value : String} (h : IsInstanceToken value) :
    IsReceiptId value := by
  rcases h with ⟨hlength, hdigits⟩
  rw [all_eq_true] at hdigits
  refine ⟨by omega, all_eq_true.mpr (fun c hc => (isOpaqueChar_of_hex (hdigits c hc)).2), ?_⟩
  rcases hchars : value.toList with _ | ⟨c, cs⟩
  · simp [hchars] at hlength
  · exact ⟨c, rfl, (isOpaqueChar_of_hex (hdigits c (by simp [hchars]))).1⟩

theorem IsBootId.isReceiptId_iff {value : String} (h : IsBootId value) :
    IsReceiptId value ↔ StartsPlain value := by
  rcases h with ⟨hlength, hchars⟩
  rw [all_eq_true] at hchars
  constructor
  · exact fun hid => hid.2.2
  · intro hplain
    refine ⟨by omega, all_eq_true.mpr (fun c hc => ?_), hplain⟩
    rcases Bool.or_eq_true_iff.mp (hchars c hc) with hhex | hdash
    · exact (isOpaqueChar_of_hex hhex).2
    · rw [of_decide_eq_true hdash]
      decide

theorem Kind.isReceiptId_text (kind : Kind) : IsReceiptId kind.text := by
  cases kind <;> decide

theorem Kind.mem_cgroupKinds {kind : Kind} : kind.text ∈ cgroupKinds ↔ kind = .cgroup := by
  cases kind <;> decide

/-! ### The observations of a recovery -/

theorem observationOf_resourceId (observations : List CgroupObservation) (id : String) :
    (observationOf observations id).resourceId = id := by
  unfold observationOf
  rcases hfind : observations.find? (fun observation => observation.resourceId = id) with _ | found
  · rw [hfind]
    rfl
  · rw [hfind]
    simpa using find?_some hfind

theorem Counters.Quiet.ne_nil {counters : Counters} (h : counters.Quiet) :
    counters.entries ≠ [] := by
  intro hnil
  have hget : counters.get .cgroupEvents = Option.none := by
    unfold Counters.get
    rw [hnil]
    rfl
  unfold Counters.Quiet at h
  rw [hget] at h
  revert h
  decide

/-- Observations bear the ids of the records they were made of, in order. -/
theorem observations_sublist {lease : Lease} {journal : Journal} {records : List Record}
    {visits : List Visit}
    (h : List.Forall₂ (fun record v => VisitReport lease record journal v) records visits) :
    ((visits.filterMap Visit.observation?).map CgroupObservation.resourceId).Sublist
      (records.map Record.resourceId) := by
  induction h with
  | nil => simp
  | @cons record v records visits hv _ ih =>
    cases hv with
    | @settled item observation protection _ _ _ hobserved =>
      rcases observation with _ | o
      · exact List.Sublist.cons _ ih
      · rw [filterMap_cons, Visit.observation?, map_cons, map_cons,
          hobserved o rfl]
        exact List.Sublist.cons_cons _ ih
    | planned => exact List.Sublist.cons _ ih

/-- The observation that is looked up for a cgroup is the one that was made of
    it. -/
theorem observationOf_visit {observations : List CgroupObservation}
    (hnodup : (observations.map CgroupObservation.resourceId).Nodup) {o : CgroupObservation}
    (ho : o ∈ observations) : observationOf observations o.resourceId = o := by
  have hsome : (observations.find? (fun x => x.resourceId = o.resourceId)).isSome = true := by
    rw [find?_isSome]
    exact ⟨o, ho, by simp⟩
  rcases Option.isSome_iff_exists.mp hsome with ⟨found, hfound⟩
  have hid : found.resourceId = o.resourceId := by simpa using find?_some hfound
  unfold observationOf
  rw [hfound, Option.getD_some]
  exact inj_on_of_nodup_map hnodup (mem_of_find?_eq_some hfound) ho hid

/-- A cgroup of version 2 that is reported as reclaimed was observed empty. -/
theorem observed_quiet {sha256 : List Char → Hex64} {lease : Lease} {survey : Survey}
    {s t : Machine W} {journal : Journal} {removed : List (List RecoveryItem)}
    (h : Surveyed sha256 lease survey s t)
    (hremoved : List.Forall₂ (fun group items => GroupReport group items journal) survey.groups
      removed) {record : Record} (hrecord : record ∈ s.journal.records)
    (hkind : record.kind = .cgroup) (hv2 : record.schema = .v2) {item : RecoveryItem}
    (hitem : item ∈ survey.items ++ removed.flatten) (hid : item.resourceId = record.resourceId)
    (hreclaimed : item.disposition = .reclaimed) :
    (observationOf (survey.visits.filterMap Visit.observation?) item.resourceId).counters.Quiet := by
  have hvisited := (visitOrder_perm survey.records).trans h.records
  have hnodup : ((visitOrder survey.records).map Record.resourceId).Nodup :=
    (hvisited.map Record.resourceId).nodup_iff.mpr s.journal.distinct
  rcases h.visit_of_mem hrecord with ⟨v, hv, hreport⟩
  cases hreport with
  | @settled found observation protection hreports _ _ hobserved hquiet =>
    have hfound : found ∈ survey.items ++ removed.flatten :=
      mem_append_left _ (mem_append_left _ (mem_filterMap.mpr ⟨_, hv, rfl⟩))
    have heq : item = found := inj_on_of_nodup_map (reports_nodup h hremoved) hitem hfound
      (hid.trans hreports.resourceId.symm)
    rw [heq] at hreclaimed
    rcases hquiet hkind hreclaimed with ⟨o, ho, hcounters⟩
    have hmem : o ∈ survey.visits.filterMap Visit.observation? :=
      mem_filterMap.mpr ⟨_, hv, ho⟩
    rw [hid, ← hobserved o ho,
      observationOf_visit ((observations_sublist h.visits).nodup hnodup) hmem]
    exact hcounters hv2
  | planned _ hplan =>
    have hdirectory := hplan.directory
    simp [Record.IsDirectory, hkind] at hdirectory

/-! ### The request of a recovery -/

section Request

variable {lease : Lease} {call : Call} {recovered : Recovered}

theorem request_remaining :
    ∀ remaining ∈ (recovered.request lease call).remaining,
      remaining = remainingIds (recovered.request lease call).results := by
  intro remaining h
  cases h
  unfold remainingIds Recovered.request
  rw [filter_map, map_map]
  rfl

theorem request_ownership :
    ∀ ownership ∈ (recovered.request lease call).ownershipObservations,
      ownership = (recovered.request lease call).results.map (fun item => item.result.text) := by
  intro ownership h
  cases h
  unfold Recovered.request
  rw [map_map]
  rfl

theorem request_journalSchema : (recovered.request lease call).journalSchema ∈ journalSchemas := by
  unfold Recovered.request
  dsimp only
  split <;> decide

/-- The result of an item is found by its id. -/
theorem resultById_receiptResult {items : List RecoveryItem}
    (hnodup : (items.map RecoveryItem.resourceId).Nodup) {item : RecoveryItem}
    (hitem : item ∈ items) :
    resultById (items.map RecoveryItem.receiptResult) item.resourceId = some item.receiptResult := by
  have hids : (items.map receiptResult).map ReceiptResult.resourceId =
      items.map resourceId := by
    rw [map_map]
    rfl
  have hmem : item.receiptResult ∈ items.map receiptResult := mem_map_of_mem hitem
  have hsome : (resultById (items.map receiptResult) item.resourceId).isSome = true := by
    unfold resultById
    rw [find?_isSome]
    exact ⟨_, hmem, by simp [receiptResult]⟩
  rcases Option.isSome_iff_exists.mp hsome with ⟨found, hfound⟩
  have hid : found.resourceId = item.resourceId := by simpa using find?_some hfound
  rw [hfound, inj_on_of_nodup_map (hids ▸ hnodup) (mem_of_find?_eq_some hfound) hmem hid]

/-- The observations that a recovery asks for are accepted exactly if names
    are plain and what is reclaimed was observed empty. -/
theorem request_observations_iff
    (hnodup : (recovered.items.map RecoveryItem.resourceId).Nodup)
    (hlength : recovered.items.length ≤ maxReceiptEntries)
    (hexplained : ∀ item ∈ recovered.items, item.disposition ≠ .reclaimed →
      item.reasonCode ≠ none)
    (hnames : ∀ item ∈ recovered.items, IsReceiptId item.resourceId) :
    checkCgroupObservations ((recovered.request lease call).cgroupObservations.getD [])
        (recovered.request lease call).results = .ok () ↔
      ∀ item ∈ recovered.items, item.kind = .cgroup → item.disposition = .reclaimed →
        (observationOf recovered.observations item.resourceId).counters.Quiet := by
  have hids : ((recovered.items.filter (fun item => item.kind = .cgroup)).map
      (fun item => observationOf recovered.observations item.resourceId)).map
        CgroupObservation.resourceId =
      (recovered.items.filter (fun item => item.kind = .cgroup)).map
        resourceId := by
    rw [map_map]
    exact map_congr_left (fun item _ => observationOf_resourceId _ _)
  unfold checkCgroupObservations Recovered.request
  rw [unit_bind_eq_ok, require_eq_ok, checkCgroupObservationsFrom_eq_ok]
  simp only [Option.getD_some]
  constructor
  · rintro ⟨-, -, -, hsupports, -⟩ item hitem hkind hreclaimed
    have hmem : observationOf recovered.observations item.resourceId ∈
        (recovered.items.filter (fun item => item.kind = .cgroup)).map
          (fun item => observationOf recovered.observations item.resourceId) :=
      mem_map_of_mem (mem_filter.mpr ⟨hitem, by simp [hkind]⟩)
    rcases hsupports _ hmem with ⟨-, result, hresult, hsupport⟩
    rw [observationOf_resourceId, resultById_receiptResult hnodup hitem, Option.some.injEq]
      at hresult
    exact hsupport.quiet (hresult ▸ hreclaimed)
  · intro hquiet
    refine ⟨?_, ?_, by simp, ?_, ?_⟩
    · rw [length_map]
      exact le_trans (length_filter_le _ _) hlength
    · rw [hids]
      exact (filter_sublist.map resourceId).nodup hnodup
    · intro observation hobservation
      rcases mem_map.mp hobservation with ⟨item, hmem, rfl⟩
      rcases mem_filter.mp hmem with ⟨hitem, hcgroup⟩
      have hkind : item.kind = .cgroup := of_decide_eq_true hcgroup
      rw [observationOf_resourceId, resultById_receiptResult hnodup hitem]
      refine ⟨hnames item hitem, item.receiptResult, rfl, ?_⟩
      by_cases hreclaimed : item.disposition = .reclaimed
      · -- What was seen empty was seen.
        have hempty := hquiet item hitem hkind hreclaimed
        exact ⟨Kind.mem_cgroupKinds.mpr hkind, Or.inl hempty.ne_nil, fun _ => hempty,
          Or.inl hempty.ne_nil⟩
      · exact ⟨Kind.mem_cgroupKinds.mpr hkind, Or.inr hreclaimed,
          fun h => absurd h hreclaimed, Or.inr (hexplained item hitem hreclaimed)⟩
    · intro result hresult hkind
      rcases mem_map.mp hresult with ⟨item, hitem, rfl⟩
      rw [nil_append, hids]
      have hcgroup : item.kind = .cgroup := Kind.mem_cgroupKinds.mp hkind
      exact mem_map_of_mem (mem_filter.mpr ⟨hitem, by simp [hcgroup]⟩)

end Request

/-! ### When a receipt is issued -/

/-- What a receipt is issued for: plain names, reclaimed cgroups of version 1
    whose counters say that they are empty, and a text that is short enough. -/
structure Issuable (lease : Lease) (call : Call) (recovered : Recovered) : Prop where
  names : ∀ item ∈ recovered.items, StartsPlain item.resourceId ∧ StartsPlain item.sessionId
  quiet : ∀ record ∈ recovered.records, record.schema = .v1 → record.kind = .cgroup →
    ∀ item ∈ recovered.items, item.resourceId = record.resourceId →
      item.disposition = .reclaimed →
      (observationOf recovered.observations item.resourceId).counters.Quiet
  boot : StartsPlain lease.bootId
  short : (recovered.request lease call).payload.json.width ≤ maxReceiptBytes

/-- A call with the token of an attempt. -/
def tokenCall : Call := ⟨"00112233445566778899aabbccddeeff", none, none⟩

/-- A directory of a session whose name starts with a dash. -/
def dashedRecord : Record := ownedRecord "-s1" "outer" outerPath 11

theorem dashedRecord_valid : dashedRecord.Valid := validateRecord_eq_ok.mp (by decide +kernel)

/-- The end of a recovery of this directory. -/
def dashedOutcome : Except Exn (List RecoveryItem × Receipt) × Machine (Disk Unit) :=
  (reclaim (Disk.os (.refusing (fun _ => false))) someLease tokenCall).run
    ⟨Journal.empty.put dashedRecord dashedRecord_valid, ⟨nestedTree, ()⟩⟩

end MirrorGate
