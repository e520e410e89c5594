import MirrorGate.Recovery.Cgroup

/-!
# Recovery Receipts

A recovery ends with a receipt: the result of every resource, what is left,
what was observed of the cgroups, and under whose authority it ran. A receipt
is validated when it is created, with a grammar of its own that is not the
grammar of the journal. Identifiers must start with a letter or a digit, the
lists must agree with one another, and a reclaimed cgroup must come with the
observation that it was empty. At last the text must fit into 512 KiB.

The fields of a receipt are closed, and where the source checks that a
dictionary has exactly the expected keys with values of the expected type, the
type of the field says so here.

## Main definitions

* `IsReceiptId`: The identifiers of a receipt.
* `ReceiptResult`, `Original`, `ReceiptPayload`: What a receipt says.
* `checkResults`, `checkCgroupObservations`, `validatePayload`: The checks.
* `createReceipt`: Building a receipt.

## Theorems

* `checkResults_eq_ok`, `checkCgroupObservations_eq_ok`: The checks on the
  lists as conditions on their members.
* `createReceipt_eq_ok`: When a receipt is issued.
-/

namespace MirrorGate

open List

/-! ### Identifiers -/

/-- An identifier of a receipt: at most 128 characters, the first of them a
    letter or a digit. -/
def IsReceiptId (value : String) : Prop :=
  value.toList.length ≤ 128 ∧ value.toList.all isOpaqueChar = true ∧
    ∃ first ∈ value.toList.head?, first.isAlphanum = true

instance (value : String) : Decidable (IsReceiptId value) :=
  decidable_of_iff (value.toList.length ≤ 128 ∧ value.toList.all isOpaqueChar = true ∧
    value.toList.head?.any Char.isAlphanum = true) (by rw [Option.any_eq_true]; rfl)

def checkId (value label : String) : Except String Unit :=
  require (IsReceiptId value) ("invalid " ++ label)

@[simp] theorem checkId_eq_ok {value label : String} :
    checkId value label = .ok () ↔ IsReceiptId value :=
  require_eq_ok

/-! ### Receipts -/

/-- The result of one resource. -/
structure ReceiptResult where
  resourceId : String
  sessionId : String
  kind : String
  result : Disposition
  reasonCode : Option String
deriving DecidableEq

/-- The dispositions a receipt knows. -/
def Disposition.IsResult (disposition : Disposition) : Prop :=
  disposition ≠ .live ∧ disposition ≠ .abandoned

instance (disposition : Disposition) : Decidable disposition.IsResult :=
  inferInstanceAs (Decidable (_ ∧ _))

/-- The dispositions of a resource that is still there. -/
def Disposition.IsRemaining (disposition : Disposition) : Prop :=
  disposition = .ambiguous ∨ disposition = .failed ∨ disposition = .unconfirmed

instance (disposition : Disposition) : Decidable disposition.IsRemaining :=
  inferInstanceAs (Decidable (_ ∨ _))

inductive Behavior where
  | passed
  | failed
  | inconclusive
  | notRun
deriving DecidableEq

def Behavior.text : Behavior → String
  | .passed => "passed"
  | .failed => "failed"
  | .inconclusive => "inconclusive"
  | .notRun => "not_run"

inductive CleanupStatus where
  | confirmed
  | failed
  | unconfirmed
  | notApplicable
deriving DecidableEq

def CleanupStatus.text : CleanupStatus → String
  | .confirmed => "confirmed"
  | .failed => "failed"
  | .unconfirmed => "unconfirmed"
  | .notApplicable => "not_applicable"

/-- The run whose resources are recovered. -/
structure Original where
  schemaVersion : String
  runId : String
  envelopeSha256 : String
  projectionKind : String
  behavior : Behavior
  cleanup : CleanupStatus
deriving DecidableEq

structure ReceiptPayload where
  attemptId : String
  trigger : String
  original : Option Original
  journalSchema : String
  controllerInstance : String
  bootId : String
  principalUid : Nat
  ownershipObservations : List String
  cgroupObservations : List CgroupObservation
  remainingResources : List String
  results : List ReceiptResult
  status : CleanupStatus
  artifactIds : List String

structure Receipt where
  payload : ReceiptPayload
  sha256 : Hex64

/-! ### Receipts as JSON -/

def ReceiptResult.json (item : ReceiptResult) : Json :=
  .obj [("resourceId", .str item.resourceId), ("sessionId", .str item.sessionId),
    ("kind", .str item.kind), ("result", .str item.result.text),
    ("reasonCode", optionJson item.reasonCode)]

def Original.json (original : Original) : Json :=
  .obj [("runRef", .obj [("schemaVersion", .str original.schemaVersion),
      ("runId", .str original.runId), ("envelopeSha256", .str original.envelopeSha256),
      ("projectionKind", .str original.projectionKind)]),
    ("behavior", .str original.behavior.text), ("cleanup", .str original.cleanup.text)]

def CgroupObservation.json (observation : CgroupObservation) : Json :=
  .obj [("resourceId", .str observation.resourceId), ("settings", observation.settings.json),
    ("counters", observation.counters.json)]

def ReceiptPayload.json (payload : ReceiptPayload) : Json :=
  .obj [("schema", .str "mirrorgate.recovery-receipt/v1"), ("attemptId", .str payload.attemptId),
    ("trigger", .str payload.trigger),
    ("original", (payload.original.map Original.json).getD .null),
    ("journalSchema", .str payload.journalSchema),
    ("controllerInstance", .str payload.controllerInstance), ("bootId", .str payload.bootId),
    ("principalUid", .int payload.principalUid),
    ("ownershipObservations", .arr (payload.ownershipObservations.map Json.str)),
    ("cgroupObservations", .arr (payload.cgroupObservations.map CgroupObservation.json)),
    ("remainingResources", .arr (payload.remainingResources.map Json.str)),
    ("results", .arr (payload.results.map ReceiptResult.json)),
    ("cleanup", .obj [("scope", .str "gate-recovery"), ("requirement", .str "required"),
      ("status", .str payload.status.text),
      ("artifactIds", .arr (payload.artifactIds.map Json.str))])]

/-! ### The checks -/

/-- The largest number of entries of a list in a receipt. -/
def maxReceiptEntries : Nat := 4096

def checkOriginal : Option Original → Except String Unit
  | none => .ok ()
  | some original => do
    require (original.schemaVersion = "mirrors.evidence-envelope/v1.0" ∧
        original.projectionKind = "private") "runRef schema/projection mismatch"
    checkId original.runId "runId"
    require (original.envelopeSha256.toList.length = 64 ∧
        original.envelopeSha256.toList.all isHexDigit = true) "invalid envelope hash"

def checkReason : Option String → Except String Unit
  | none => .ok ()
  | some reason => checkId reason "reasonCode"

def checkResult (seen : List String) (item : ReceiptResult) : Except String Unit := do
  checkId item.resourceId "resourceId"
  require (item.resourceId ∉ seen) "duplicate recovery result"
  require item.result.IsResult "invalid recovery result"
  checkReason item.reasonCode
  checkId item.sessionId "sessionId"
  checkId item.kind "kind"

def checkResultsFrom : List String → List ReceiptResult → Except String Unit
  | _, [] => .ok ()
  | seen, item :: items => do
    checkResult seen item
    checkResultsFrom (seen ++ [item.resourceId]) items

def checkResults (values : List ReceiptResult) : Except String Unit := do
  require (values.length ≤ maxReceiptEntries) "invalid recovery results"
  checkResultsFrom [] values

/-- The kinds of results that need an observation. -/
def cgroupKinds : List String := ["cgroup", "cgroup-v2"]

/-- The result of a resource. The ids of checked results are distinct, so
    there is at most one. -/
def resultById (results : List ReceiptResult) (id : String) : Option ReceiptResult :=
  results.find? (fun result => result.resourceId = id)

/-- One observation of a cgroup, against the result it belongs to. -/
def checkCgroupObservation (results : List ReceiptResult) (seen : List String)
    (item : CgroupObservation) : Except String Unit := do
  checkId item.resourceId "cgroup observation resourceId"
  match resultById results item.resourceId with
  | none => .error "cgroup observation does not resolve uniquely"
  | some result => do
    require (item.resourceId ∉ seen ∧ result.kind ∈ cgroupKinds)
      "cgroup observation does not resolve uniquely"
    require (item.counters.entries ≠ [] ∨ result.result ≠ .reclaimed)
      "reclaimed cgroup lacks terminal counters"
    require (result.result = .reclaimed → item.counters.Quiet)
      "reclaimed cgroup lacks observed quiescence"
    require (item.counters.entries ≠ [] ∨ result.reasonCode ≠ none)
      "unobserved cgroup lacks reason code"

def checkCgroupObservationsFrom (results : List ReceiptResult) :
    List String → List CgroupObservation → Except String Unit
  | seen, [] =>
    require (∀ result ∈ results, result.kind ∈ cgroupKinds → result.resourceId ∈ seen)
      "cgroup observations do not cover results"
  | seen, item :: items => do
    checkCgroupObservation results seen item
    checkCgroupObservationsFrom results (seen ++ [item.resourceId]) items

def checkCgroupObservations (values : List CgroupObservation) (results : List ReceiptResult) :
    Except String Unit := do
  require (values.length ≤ maxReceiptEntries) "invalid cgroup observations"
  checkCgroupObservationsFrom results [] values

def checkIds (values : List String) (label : String) (unique : Bool) : Except String Unit := do
  require (values.length ≤ maxReceiptEntries) ("invalid " ++ label)
  require (∀ value ∈ values, IsReceiptId value) ("invalid " ++ label)
  require (unique = true → values.Nodup) ("duplicate " ++ label)

/-- A reference to an artifact by its digest. -/
def IsArtifactId (value : String) : Prop :=
  "sha256:".toList <+: value.toList ∧ value.toList.length = 71 ∧
    (value.toList.drop 7).all isHexDigit = true

instance (value : String) : Decidable (IsArtifactId value) :=
  inferInstanceAs (Decidable (_ ∧ _ ∧ _))

def checkArtifacts (values : List String) : Except String Unit := do
  require (values.length ≤ maxReceiptEntries) "invalid public artifact IDs"
  require (∀ value ∈ values, IsArtifactId value) "public artifact ID must be a SHA256 reference"
  require values.Nodup "duplicate public artifact ID"

/-- What the results say about the cleanup as a whole. -/
def cleanupStatus (results : List ReceiptResult) (remaining : List String) : CleanupStatus :=
  if ∃ item ∈ results, item.result = .failed then .failed
  else if results = [] ∨ remaining ≠ [] ∨
      ∃ item ∈ results, item.result = .ambiguous ∨ item.result = .unconfirmed ∨
        item.result = .retained then .unconfirmed
  else .confirmed

/-- The ids of what is still there. -/
def remainingIds (results : List ReceiptResult) : List String :=
  (results.filter (fun item => item.result.IsRemaining)).map ReceiptResult.resourceId

def journalSchemas : List String := [Schema.v1.text, Schema.v2.text]

def validatePayload (payload : ReceiptPayload) : Except String Unit := do
  checkId payload.attemptId "attemptId"
  checkId payload.trigger "trigger"
  require (payload.journalSchema ∈ journalSchemas) "invalid receipt provenance"
  checkId payload.controllerInstance "controllerInstance"
  checkId payload.bootId "bootId"
  checkOriginal payload.original
  checkResults payload.results
  checkIds payload.ownershipObservations "ownershipObservation" false
  require (payload.ownershipObservations = payload.results.map (fun item => item.result.text))
    "ownership observations do not cover results"
  checkIds payload.remainingResources "remainingResource" true
  require (payload.remainingResources = remainingIds payload.results)
    "remaining resources do not match results"
  checkCgroupObservations payload.cgroupObservations payload.results
  checkArtifacts payload.artifactIds
  require (payload.status = cleanupStatus payload.results payload.remainingResources)
    "cleanup projection does not match recovery results"

/-- The largest receipt, in bytes. -/
def maxReceiptBytes : Nat := 512 * 1024

/-- The arguments of `createReceipt`. A list that is not given is derived
    from the results. -/
structure ReceiptRequest where
  attemptId : String
  trigger : String
  original : Option Original
  results : List ReceiptResult
  remaining : Option (List String) := none
  ownershipObservations : Option (List String) := none
  cgroupObservations : Option (List CgroupObservation) := none
  journalSchema : String := Schema.v1.text
  controllerInstance : String := "unknown"
  bootId : String := "unknown"
  principalUid : Nat := 0
  artifactIds : Option (List String) := none

def ReceiptRequest.payload (request : ReceiptRequest) : ReceiptPayload :=
  let remaining := request.remaining.getD (remainingIds request.results)
  { attemptId := request.attemptId
    trigger := request.trigger
    original := request.original
    journalSchema := request.journalSchema
    controllerInstance := request.controllerInstance
    bootId := request.bootId
    principalUid := request.principalUid
    ownershipObservations :=
      request.ownershipObservations.getD (request.results.map (fun item => item.result.text))
    cgroupObservations := request.cgroupObservations.getD []
    remainingResources := remaining
    results := request.results
    status := cleanupStatus request.results remaining
    artifactIds := request.artifactIds.getD [] }

/-- Build a receipt. The length of the text is computed without writing it. -/
def createReceipt (sha256 : List Char → Hex64) (request : ReceiptRequest) :
    Except String Receipt := do
  checkResults request.results
  checkOriginal request.original
  validatePayload request.payload
  require (request.payload.json.width ≤ maxReceiptBytes) "recovery receipt exceeds bound"
  .ok ⟨request.payload, sha256 request.payload.json.dumps⟩

/-! ### The checks as conditions -/

theorem checkReason_eq_ok {reason : Option String} :
    checkReason reason = .ok () ↔ ∀ value ∈ reason, IsReceiptId value := by
  cases reason <;> simp [checkReason]

/-- What is checked of one result, apart from its being the only one. -/
structure ReceiptResult.WellFormed (item : ReceiptResult) : Prop where
  resourceId : IsReceiptId item.resourceId
  result : item.result.IsResult
  reasonCode : ∀ value ∈ item.reasonCode, IsReceiptId value
  sessionId : IsReceiptId item.sessionId
  kind : IsReceiptId item.kind

theorem checkResult_eq_ok {seen : List String} {item : ReceiptResult} :
    checkResult seen item = .ok () ↔ item.resourceId ∉ seen ∧ item.WellFormed := by
  unfold checkResult
  simp only [unit_bind_eq_ok, require_eq_ok, checkId_eq_ok, checkReason_eq_ok]
  constructor
  · rintro ⟨hid, hnew, hresult, hreason, hsession, hkind⟩
    exact ⟨hnew, hid, hresult, hreason, hsession, hkind⟩
  · rintro ⟨hnew, hid, hresult, hreason, hsession, hkind⟩
    exact ⟨hid, hnew, hresult, hreason, hsession, hkind⟩

theorem checkResultsFrom_eq_ok {seen : List String} {items : List ReceiptResult} :
    checkResultsFrom seen items = .ok () ↔
      (items.map ReceiptResult.resourceId).Nodup ∧
        (∀ item ∈ items, item.resourceId ∉ seen) ∧ ∀ item ∈ items, item.WellFormed := by
  induction items generalizing seen with
  | nil => simp [checkResultsFrom]
  | cons item items ih =>
    rw [checkResultsFrom, unit_bind_eq_ok, checkResult_eq_ok, ih]
    -- The head's id leaves the ids of the rest by joining those already seen.
    have hnew : (∀ other ∈ items, other.resourceId ∉ seen ++ [item.resourceId]) ↔
        (∀ other ∈ items, other.resourceId ∉ seen) ∧
          item.resourceId ∉ items.map ReceiptResult.resourceId := by
      simp only [mem_append, mem_singleton, not_or, mem_map, not_exists, not_and]
      exact ⟨fun h => ⟨fun other ho => (h other ho).1, fun other ho => (h other ho).2⟩,
        fun h other ho => ⟨h.1 other ho, h.2 other ho⟩⟩
    rw [hnew, map_cons, nodup_cons, forall_mem_cons, forall_mem_cons]
    constructor
    · rintro ⟨⟨h1, h2⟩, h3, ⟨h4, h5⟩, h6⟩
      exact ⟨⟨h5, h3⟩, ⟨h1, h4⟩, h2, h6⟩
    · rintro ⟨⟨h5, h3⟩, ⟨h1, h4⟩, h2, h6⟩
      exact ⟨⟨h1, h2⟩, h3, ⟨h4, h5⟩, h6⟩

/-- The results of a receipt are accepted if there are not too many, no
    resource has two, and each is well formed. -/
theorem checkResults_eq_ok {items : List ReceiptResult} :
    checkResults items = .ok () ↔
      items.length ≤ maxReceiptEntries ∧ (items.map ReceiptResult.resourceId).Nodup ∧
        ∀ item ∈ items, item.WellFormed := by
  unfold checkResults
  rw [unit_bind_eq_ok, require_eq_ok, checkResultsFrom_eq_ok]
  simp

/-- What is checked of one observation against its result. -/
structure Supports (item : CgroupObservation) (result : ReceiptResult) : Prop where
  kind : result.kind ∈ cgroupKinds
  counted : item.counters.entries ≠ [] ∨ result.result ≠ .reclaimed
  quiet : result.result = .reclaimed → item.counters.Quiet
  explained : item.counters.entries ≠ [] ∨ result.reasonCode ≠ none

theorem checkCgroupObservation_eq_ok {results : List ReceiptResult} {seen : List String}
    {item : CgroupObservation} :
    checkCgroupObservation results seen item = .ok () ↔
      IsReceiptId item.resourceId ∧ item.resourceId ∉ seen ∧
        ∃ result, resultById results item.resourceId = some result ∧ Supports item result := by
  unfold checkCgroupObservation
  rw [unit_bind_eq_ok, checkId_eq_ok]
  refine and_congr_right (fun _ => ?_)
  rcases resultById results item.resourceId with _ | result
  · simp
  · simp only [unit_bind_eq_ok, require_eq_ok, Option.some.injEq, exists_eq_left']
    constructor
    · rintro ⟨⟨hnew, hkind⟩, hcounted, hquiet, hexplained⟩
      exact ⟨hnew, hkind, hcounted, hquiet, hexplained⟩
    · rintro ⟨hnew, hkind, hcounted, hquiet, hexplained⟩
      exact ⟨⟨hnew, hkind⟩, hcounted, hquiet, hexplained⟩

/-- Observations are accepted if each supports the result of its resource, no
    resource has two, and every cgroup has one. -/
theorem checkCgroupObservationsFrom_eq_ok {results : List ReceiptResult} {seen : List String}
    {items : List CgroupObservation} :
    checkCgroupObservationsFrom results seen items = .ok () ↔
      (items.map CgroupObservation.resourceId).Nodup ∧
      (∀ item ∈ items, item.resourceId ∉ seen) ∧
      (∀ item ∈ items, IsReceiptId item.resourceId ∧
        ∃ result, resultById results item.resourceId = some result ∧ Supports item result) ∧
      ∀ result ∈ results, result.kind ∈ cgroupKinds →
        result.resourceId ∈ seen ++ items.map CgroupObservation.resourceId := by
  induction items generalizing seen with
  | nil => simp [checkCgroupObservationsFrom]
  | cons item items ih =>
    rw [checkCgroupObservationsFrom, unit_bind_eq_ok, checkCgroupObservation_eq_ok, ih]
    have hnew : (∀ other ∈ items, other.resourceId ∉ seen ++ [item.resourceId]) ↔
        (∀ other ∈ items, other.resourceId ∉ seen) ∧
          item.resourceId ∉ items.map CgroupObservation.resourceId := by
      simp only [mem_append, mem_singleton, not_or, mem_map, not_exists, not_and]
      exact ⟨fun h => ⟨fun other ho => (h other ho).1, fun other ho => (h other ho).2⟩,
        fun h other ho => ⟨h.1 other ho, h.2 other ho⟩⟩
    have hseen : seen ++ [item.resourceId] ++ items.map CgroupObservation.resourceId =
        seen ++ (item :: items).map CgroupObservation.resourceId := by simp
    rw [hnew, hseen, map_cons, nodup_cons, forall_mem_cons, forall_mem_cons]
    constructor
    · rintro ⟨⟨h1, h2, h3⟩, h4, ⟨h5, h6⟩, h7, h8⟩
      exact ⟨⟨h6, h4⟩, ⟨h2, h5⟩, ⟨⟨h1, h3⟩, h7⟩, h8⟩
    · rintro ⟨⟨h6, h4⟩, ⟨h2, h5⟩, ⟨⟨h1, h3⟩, h7⟩, h8⟩
      exact ⟨⟨h1, h2, h3⟩, h4, ⟨h5, h6⟩, h7, h8⟩

theorem checkIds_eq_ok {values : List String} {label : String} {unique : Bool} :
    checkIds values label unique = .ok () ↔
      values.length ≤ maxReceiptEntries ∧ (∀ value ∈ values, IsReceiptId value) ∧
        (unique = true → values.Nodup) := by
  unfold checkIds
  simp only [unit_bind_eq_ok, require_eq_ok]

/-- When a receipt is issued for lists that are derived from the results: the
    results are well formed, the observations support them, the provenance is
    well formed, and the text is short enough. -/
theorem createReceipt_eq_ok {sha256 : List Char → Hex64} {request : ReceiptRequest}
    (horiginal : checkOriginal request.original = .ok ())
    (hremaining : ∀ remaining ∈ request.remaining, remaining = remainingIds request.results)
    (hownership : ∀ ownership ∈ request.ownershipObservations,
      ownership = request.results.map (fun item => item.result.text))
    (hartifacts : request.artifactIds = none) {receipt : Receipt} :
    createReceipt sha256 request = .ok receipt ↔
      checkResults request.results = .ok () ∧
      IsReceiptId request.attemptId ∧ IsReceiptId request.trigger ∧
      request.journalSchema ∈ journalSchemas ∧ IsReceiptId request.controllerInstance ∧
      IsReceiptId request.bootId ∧
      checkCgroupObservations (request.cgroupObservations.getD []) request.results = .ok () ∧
      request.payload.json.width ≤ maxReceiptBytes ∧
      receipt = ⟨request.payload, sha256 request.payload.json.dumps⟩ := by
  have hrem : request.payload.remainingResources = remainingIds request.results := by
    unfold ReceiptRequest.payload
    rcases hr : request.remaining with _ | remaining
    · rfl
    · exact hremaining remaining hr
  have hown : request.payload.ownershipObservations =
      request.results.map (fun item => item.result.text) := by
    unfold ReceiptRequest.payload
    rcases hr : request.ownershipObservations with _ | ownership
    · rfl
    · exact hownership ownership hr
  have hart : request.payload.artifactIds = [] := by
    simp [ReceiptRequest.payload, hartifacts]
  have hstatus : request.payload.status =
      cleanupStatus request.results request.payload.remainingResources := rfl
  -- The lists derived from well-formed results pass their own checks.
  have hderived : checkResults request.results = .ok () →
      checkIds request.payload.ownershipObservations "ownershipObservation" false = .ok () ∧
      checkIds request.payload.remainingResources "remainingResource" true = .ok () := by
    intro hresults
    rcases checkResults_eq_ok.mp hresults with ⟨hlength, hnodup, hwell⟩
    rw [checkIds_eq_ok, checkIds_eq_ok, hown, hrem]
    refine ⟨⟨by simpa using hlength, ?_, by simp⟩, ?_, ?_, fun _ => ?_⟩
    · intro value hvalue
      rcases mem_map.mp hvalue with ⟨item, hitem, rfl⟩
      cases item.result <;> decide
    · refine le_trans ?_ hlength
      unfold remainingIds
      rw [length_map]
      exact length_filter_le _ _
    · intro value hvalue
      rcases mem_map.mp hvalue with ⟨item, hitem, rfl⟩
      exact (hwell item (mem_of_mem_filter hitem)).resourceId
    · exact (filter_sublist.map ReceiptResult.resourceId).nodup hnodup
  unfold createReceipt validatePayload
  simp only [unit_bind_eq_ok, require_eq_ok, checkId_eq_ok, Except.ok.injEq]
  constructor
  · rintro ⟨hresults, -, ⟨hattempt, htrigger, hschema, hcontroller, hboot, -, -, -, -, -, -,
      hcgroups, -, -⟩, hwidth, rfl⟩
    exact ⟨hresults, hattempt, htrigger, hschema, hcontroller, hboot, hcgroups, hwidth, rfl⟩
  · rintro ⟨hresults, hattempt, htrigger, hschema, hcontroller, hboot, hcgroups, hwidth, rfl⟩
    rcases hderived hresults with ⟨hownIds, hremIds⟩
    exact ⟨hresults, horiginal, ⟨hattempt, htrigger, hschema, hcontroller, hboot, horiginal,
      hresults, hownIds, hown, hremIds, hrem, hcgroups, by rw [hart]; decide, hstatus⟩, hwidth,
      rfl⟩

end MirrorGate
