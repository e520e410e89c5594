import MirrorGate.Journal.Record

/-!
# The Text of a Record

A record is written as canonical JSON with a checksum over everything else,
and is refused if the text is longer than 64 KiB. What is read back must in
addition stay within structural bounds: nesting, number of values, size of
integers and of strings.

The two limits are not the same. Writing checks the length only, and reading
checks the integers as well, so a record whose sequence number outgrows 63
bits can be written and never read again. `bounded_iff` says that the integers
are all there is to it: a valid record is never too deep, never has too many
values, and never has too long a string.

## Main definitions

* `Record.json`: A record as a JSON object, without the checksum.
* `encodeRecord`: The text that is written.
* `boundedJson`: The structural bounds on what is read.
* `Record.Bounded`: A record that can be read back.

## Theorems

* `boundedJson_eq_ok`: The bounds as a condition on a whole tree.
* `bounded_iff`: A valid record is readable when its integers are small.
-/

namespace MirrorGate

open Json List Option Record

/-! ### Records as JSON -/

def RootIdentity.json (root : RootIdentity) : Json :=
  .obj [("device", .int root.device), ("inode", .int root.inode), ("uid", .int root.uid)]

def IdentityValue.json : IdentityValue → Json
  | .number value => .int value
  | .text value => .str value
  | .root value => value.json

def Identity.json (identity : Identity) : Json :=
  .obj (identity.keys.filterMap (fun key =>
    (identity.get key).map (fun value => (key.text, value.json))))

/-- A text, or null. -/
def optionJson : Option String → Json
  | none => .null
  | some value => .str value

def Settings.json (settings : Settings) : Json :=
  .obj [("pids.max", optionJson settings.pidsMax), ("memory.max", optionJson settings.memoryMax),
    ("memory.swap.max", optionJson settings.memorySwapMax),
    ("cpu.max", optionJson settings.cpuMax)]

def Counters.json (counters : Counters) : Json :=
  .obj (counters.entries.map (fun entry => (entry.1.text, optionJson entry.2)))

def Evidence.json (evidence : Evidence) : Json :=
  .obj [("settings", evidence.settings.json), ("counters", evidence.counters.json)]

def Observation.json (observation : Observation) : Json :=
  .obj [("attemptId", .str observation.attemptId), ("status", .str observation.status.text),
    ("reasonCode", optionJson observation.reasonCode)]

/-- The fields every record has. -/
def Record.topFields (record : Record) : List (String × Json) :=
  [("schema", .str record.schema.text), ("sequence", .int record.sequence),
    ("controllerInstance", .str record.controllerInstance), ("bootId", .str record.bootId),
    ("principalUid", .int record.principalUid), ("sessionId", .str record.sessionId),
    ("resourceId", .str record.resourceId), ("kind", .str record.kind.text),
    ("phase", .str record.phase.text), ("stage", .str record.stage),
    ("identity", record.identity.json), ("retainedRecoverable", .bool record.retainedRecoverable),
    ("observations", .arr (record.observations.map Observation.json)),
    ("stateRoot", record.stateRoot.json),
    ("cleanupTarget", optionJson (record.cleanupTarget.map RelativePath.text))]

/-- The field that only version 2 has. -/
def Record.evidenceField (record : Record) : List (String × Json) :=
  match record.schema with
  | .v1 => []
  | .v2 =>
    match record.cleanupEvidence with
    | none => [("cleanupEvidence", .null)]
    | some evidence => [("cleanupEvidence", evidence.json)]

def Record.fields (record : Record) : List (String × Json) :=
  record.topFields ++ record.evidenceField

/-- A record without its checksum. -/
def Record.json (record : Record) : Json := .obj record.fields

/-! ### Writing -/

section Digest

variable (sha256 : List Char → Hex64)

/-- A record as it is written, with the checksum of all other fields. -/
def Record.checksummed (record : Record) : Json :=
  .obj (record.fields ++ [("checksum", .str (sha256 record.json.dumps).text)])

/-- The largest record, in bytes. -/
def maxRecordBytes : Nat := 64 * 1024

/-- The length of the text a record is written as, with its newline. -/
def Record.encodedLength (record : Record) : Nat := (record.checksummed sha256).width + 1

/-- The text of a record. The length is computed by `width`, without writing
    the text. -/
def encodeRecord (payload : Record) : Except String (List Char) := do
  validateRecord payload
  require (payload.encodedLength sha256 ≤ maxRecordBytes) "record exceeds byte limit"
  .ok ((payload.checksummed sha256).dumps ++ ['\n'])

/-- A record is written exactly if it is valid and short enough. -/
theorem encodeRecord_eq_ok {payload : Record} {text : List Char} :
    encodeRecord sha256 payload = .ok text ↔
      payload.Valid ∧ payload.encodedLength sha256 ≤ maxRecordBytes ∧
        text = (payload.checksummed sha256).dumps ++ ['\n'] := by
  unfold encodeRecord
  rw [unit_bind_eq_ok, validateRecord_eq_ok, unit_bind_eq_ok, require_eq_ok, Except.ok.injEq]
  exact ⟨fun ⟨h1, h2, h3⟩ => ⟨h1, h2, h3.symm⟩, fun ⟨h1, h2, h3⟩ => ⟨h1, h2, h3.symm⟩⟩

/-- The limit is on the text that is written. -/
theorem length_of_encodeRecord {payload : Record} {text : List Char}
    (h : encodeRecord sha256 payload = .ok text) : text.length ≤ maxRecordBytes := by
  rcases (encodeRecord_eq_ok sha256).mp h with ⟨-, hlength, rfl⟩
  rw [length_append, length_dumps]
  exact hlength

end Digest

/-! ### Reading -/

/-- The largest integer that is read. -/
def maxInteger : Nat := 2 ^ 63 - 1

/-- Integers of at most 63 bits. -/
def SmallInt (n : Int) : Prop := n.natAbs ≤ maxInteger

/-- Strings of at most 4096 bytes. -/
def SmallString (s : String) : Prop := s.utf8ByteSize ≤ 4096

instance (n : Int) : Decidable (SmallInt n) := inferInstanceAs (Decidable (_ ≤ _))

instance (s : String) : Decidable (SmallString s) := inferInstanceAs (Decidable (_ ≤ _))

/-- One more value of a document, `depth` levels down. -/
def spend (depth budget : Nat) : Except String Nat :=
  if depth > 10 ∨ budget + 1 > 2048 then .error "journal JSON exceeds structural bounds"
  else .ok (budget + 1)

mutual
/-- The structural bounds on a document. The budget counts the values seen so
    far and is handed on from each value to the next. -/
def boundedJson (depth budget : Nat) : Json → Except String Nat
  | .null | .bool _ => spend depth budget
  | .int n => do
    let budget ← spend depth budget
    require (SmallInt n) "journal integer exceeds bounds"
    .ok budget
  | .str s => do
    let budget ← spend depth budget
    require (SmallString s) "journal string exceeds bounds"
    .ok budget
  | .arr items => do
    let budget ← spend depth budget
    boundedItems (depth + 1) budget items
  | .obj members => do
    let budget ← spend depth budget
    boundedMembers (depth + 1) budget members

def boundedItems (depth budget : Nat) : List Json → Except String Nat
  | [] => .ok budget
  | item :: items => do
    let budget ← boundedJson depth budget item
    boundedItems depth budget items

def boundedMembers (depth budget : Nat) : List (String × Json) → Except String Nat
  | [] => .ok budget
  | (key, value) :: members => do
    let budget ← spend depth budget
    require (SmallString key) "journal string exceeds bounds"
    let budget ← boundedJson depth budget value
    boundedMembers depth budget members
end

theorem spend_eq_ok {depth budget total : Nat} :
    spend depth budget = .ok total ↔ total = budget + 1 ∧ total ≤ 2048 ∧ depth ≤ 10 := by
  unfold spend
  split
  · simp only [reduceCtorEq, false_iff]
    omega
  · simp only [Except.ok.injEq]
    omega

theorem bind_eq_ok {ε α β : Type} {x : Except ε α} {f : α → Except ε β} {b : β} :
    (x >>= f) = .ok b ↔ ∃ a, x = .ok a ∧ f a = .ok b := by
  cases x <;> simp [bind, Except.bind]

mutual
/-- The bounds as a condition on a whole tree: its nodes, its height, and
    every integer and string in it. -/
theorem boundedJson_eq_ok {depth budget total : Nat} (j : Json) :
    boundedJson depth budget j = .ok total ↔
      total = budget + j.nodes ∧ total ≤ 2048 ∧ depth + j.height ≤ 10 ∧
        j.All SmallInt SmallString := by
  cases j with
  | null => simp [boundedJson, spend_eq_ok, nodes, height, Json.All]
  | bool b => simp [boundedJson, spend_eq_ok, nodes, height, Json.All]
  | int n =>
    simp only [boundedJson, bind_eq_ok, spend_eq_ok, require_eq_ok, Except.ok.injEq, nodes,
      height, Json.All]
    constructor
    · rintro ⟨_, ⟨rfl, h1, h2⟩, _, h3, rfl⟩
      exact ⟨rfl, h1, h2, h3⟩
    · rintro ⟨rfl, h1, h2, h3⟩
      exact ⟨_, ⟨rfl, h1, h2⟩, (), h3, rfl⟩
  | str s =>
    simp only [boundedJson, bind_eq_ok, spend_eq_ok, require_eq_ok, Except.ok.injEq, nodes,
      height, Json.All]
    constructor
    · rintro ⟨_, ⟨rfl, h1, h2⟩, _, h3, rfl⟩
      exact ⟨rfl, h1, h2, h3⟩
    · rintro ⟨rfl, h1, h2, h3⟩
      exact ⟨_, ⟨rfl, h1, h2⟩, (), h3, rfl⟩
  | arr items =>
    simp only [boundedJson, bind_eq_ok, spend_eq_ok, nodes, height, Json.All]
    constructor
    · rintro ⟨_, ⟨rfl, h1, h2⟩, h3⟩
      rcases (boundedItems_eq_ok h2 h1 items).mp h3 with ⟨rfl, h4, h5, h6⟩
      exact ⟨by omega, h4, h5, h6⟩
    · rintro ⟨rfl, h1, h2, h3⟩
      refine ⟨_, ⟨rfl, by omega, by omega⟩, ?_⟩
      exact (boundedItems_eq_ok (by omega) (by omega) items).mpr ⟨by omega, h1, h2, h3⟩
  | obj members =>
    simp only [boundedJson, bind_eq_ok, spend_eq_ok, nodes, height, Json.All]
    constructor
    · rintro ⟨_, ⟨rfl, h1, h2⟩, h3⟩
      rcases (boundedMembers_eq_ok h2 h1 members).mp h3 with ⟨rfl, h4, h5, h6⟩
      exact ⟨by omega, h4, h5, h6⟩
    · rintro ⟨rfl, h1, h2, h3⟩
      refine ⟨_, ⟨rfl, by omega, by omega⟩, ?_⟩
      exact (boundedMembers_eq_ok (by omega) (by omega) members).mpr ⟨by omega, h1, h2, h3⟩

theorem boundedItems_eq_ok {depth budget total : Nat} (hdepth : depth ≤ 10) (hbudget : budget ≤ 2048)
    (items : List Json) :
    boundedItems (depth + 1) budget items = .ok total ↔
      total = budget + Json.nodesItems items ∧ total ≤ 2048 ∧
        depth + Json.heightItems items ≤ 10 ∧ Json.AllItems SmallInt SmallString items := by
  cases items with
  | nil =>
    simp only [boundedItems, Except.ok.injEq, nodesItems, heightItems, Json.AllItems,
      and_true]
    omega
  | cons item items =>
    simp only [boundedItems, bind_eq_ok, boundedJson_eq_ok item, nodesItems,
      heightItems, Json.AllItems]
    constructor
    · rintro ⟨_, ⟨rfl, h1, h2, h3⟩, h4⟩
      rcases (boundedItems_eq_ok hdepth h1 items).mp h4 with ⟨rfl, h5, h6, h7⟩
      exact ⟨by omega, h5, by omega, h3, h7⟩
    · rintro ⟨rfl, h1, h2, h3, h4⟩
      refine ⟨_, ⟨rfl, by omega, by omega, h3⟩, ?_⟩
      exact (boundedItems_eq_ok hdepth (by omega) items).mpr ⟨by omega, h1, by omega, h4⟩

theorem boundedMembers_eq_ok {depth budget total : Nat} (hdepth : depth ≤ 10)
    (hbudget : budget ≤ 2048) (members : List (String × Json)) :
    boundedMembers (depth + 1) budget members = .ok total ↔
      total = budget + Json.nodesMembers members ∧ total ≤ 2048 ∧
        depth + Json.heightMembers members ≤ 10 ∧
        Json.AllMembers SmallInt SmallString members := by
  cases members with
  | nil =>
    simp only [boundedMembers, Except.ok.injEq, nodesMembers, heightMembers,
      Json.AllMembers, and_true]
    omega
  | cons member members =>
    rcases member with ⟨key, value⟩
    simp only [boundedMembers, bind_eq_ok, spend_eq_ok, require_eq_ok, boundedJson_eq_ok value,
      nodesMembers, heightMembers, Json.AllMembers]
    constructor
    · rintro ⟨_, ⟨rfl, h1, h2⟩, _, h3, _, ⟨rfl, h4, h5, h6⟩, h7⟩
      rcases (boundedMembers_eq_ok hdepth h4 members).mp h7 with ⟨rfl, h8, h9, h10⟩
      exact ⟨by omega, h8, by omega, ⟨h3, h6⟩, h10⟩
    · rintro ⟨rfl, h1, h2, ⟨h3, h4⟩, h5⟩
      refine ⟨_, ⟨rfl, by omega, by omega⟩, (), h3, _, ⟨rfl, by omega, by omega, h4⟩, ?_⟩
      exact (boundedMembers_eq_ok hdepth (by omega) members).mpr ⟨by omega, h1, by omega, h5⟩
end

/-! ### Valid records are readable up to their integers -/

theorem Hex64.utf8ByteSize_text (digest : Hex64) : digest.text.utf8ByteSize = 64 := by
  have hlen : ∀ cs : List Char, cs.all isHexDigit = true → String.utf8Len cs = cs.length := by
    intro cs
    induction cs with
    | nil => simp
    | cons c cs ih =>
      intro h
      rw [all_cons, Bool.and_eq_true] at h
      have hc : c.utf8Size = 1 := by
        have hhex := h.1
        simp only [isHexDigit, Char.isDigit, Bool.or_eq_true, Bool.and_eq_true,
          decide_eq_true_eq, Char.le_def, ge_iff_le, UInt32.le_iff_toNat_le] at hhex
        rw [Char.utf8Size_eq_one_iff, UInt32.le_iff_toNat_le]
        rcases hhex with hdigit | hletter
        · exact le_trans hdigit.2 (by decide)
        · exact le_trans hletter.2 (by decide)
      rw [String.utf8Len_cons, ih h.2, hc, length_cons]
  have := hlen digest.text.toList digest.digits
  rw [← String.utf8ByteSize_ofList, String.ofList_toList, digest.length_eq] at this
  exact this

/-- A counter is recorded at most once, so there are at most seven. -/
theorem Counters.length_entries (counters : Counters) : counters.entries.length ≤ 7 := by
  have hsub : counters.entries.map Prod.fst ⊆
      [.pidsCurrent, .pidsEvents, .memoryCurrent, .memoryPeak, .memoryEvents, .cpuStat,
        .cgroupEvents] := by
    intro counter _
    cases counter <;> simp
  have hle := (subperm_of_subset counters.distinct hsub).length_le
  simpa using hle

def IdentityValue.numbers : IdentityValue → List Nat
  | .number value => [value]
  | .text _ => []
  | .root value => [value.device, value.inode, value.uid]

def Identity.numbers (identity : Identity) : List Nat :=
  identity.keys.flatMap (fun key => ((identity.get key).map IdentityValue.numbers).getD [])

/-- The integers of a record. -/
def Record.numbers (record : Record) : List Nat :=
  [record.sequence, record.principalUid, record.stateRoot.device, record.stateRoot.inode,
    record.stateRoot.uid] ++ record.identity.numbers

/-- A short text has a short string. -/
theorem IsText.small {maximum : Nat} {value : String} (h : IsText maximum value)
    (hle : maximum ≤ 4096) : SmallString value :=
  le_trans h.2 hle

theorem IsOpaque.small {value : String} (h : IsOpaque value) : SmallString value :=
  h.1.small (by decide)

theorem RelativePath.small (path : RelativePath) : SmallString path.text :=
  le_trans path.bounded (by decide)

theorem Hex64.small (digest : Hex64) : SmallString digest.text := by
  unfold SmallString
  rw [digest.utf8ByteSize_text]
  decide

theorem smallInt_natCast (n : Nat) : SmallInt (n : Int) ↔ n ≤ maxInteger := by
  unfold SmallInt
  rw [Int.natAbs_natCast]

theorem IdentityKey.small (key : IdentityKey) : SmallString key.text := by
  cases key <;> decide

theorem Counter.small (counter : Counter) : SmallString counter.text := by
  cases counter <;> decide

theorem optionJson_all {value : Option String} (h : ∀ s ∈ value, SmallString s) :
    (optionJson value).All SmallInt SmallString := by
  rcases value with _ | s
  · simp [optionJson, Json.All]
  · simpa [optionJson, Json.All] using h s rfl

/-- Every text of a validated identity is short. -/
theorem Record.Valid.identity_small {record : Record} (h : record.Valid) {key : IdentityKey}
    {value : String} (hget : record.identity.get key = some (.text value)) :
    SmallString value := by
  have hid := validateIdentity_eq_ok.mp h.identity
  -- A link is only allowed, and then checked, for a covered process.
  have hlink : ∀ link, record.identity.groupLink = some link →
      SmallString link.cgroupResourceId := by
    intro link hsome
    have hmem : IdentityKey.cgroupResourceId ∈ record.identity.keys := by
      rw [Identity.mem_keys]
      rcases hidentity : record.identity with _ | f | c | p | l
      all_goals simp_all [Identity.groupLink, Identity.get, GroupLink.get]
    have hcovered : record.schema = .v2 ∧ record.kind = .process := by
      have hallowed := hid.2.1 _ hmem
      rcases hkind : record.kind <;> rcases hschema : record.schema <;>
        simp_all [identityFields]
    rcases hid.2.2.1 hcovered.1 hcovered.2 with ⟨link', hsome', hopaque⟩
    rw [hsome, some.injEq] at hsome'
    rw [hsome']
    exact hopaque.small
  have hgroup : ∀ link, record.identity.groupLink = some link →
      link.get key = some (.text value) → SmallString value := by
    intro link hsome hlinkget
    cases key
    case cgroupResourceId =>
        simp only [GroupLink.get, some.injEq, IdentityValue.text.injEq] at hlinkget
        rw [← hlinkget]
        exact hlink link hsome
    case cgroupIdentityDigest =>
        simp only [GroupLink.get, some.injEq, IdentityValue.text.injEq] at hlinkget
        rw [← hlinkget]
        exact link.cgroupIdentityDigest.small
    all_goals simp [GroupLink.get] at hlinkget
  rcases hidentity : record.identity with _ | f | c | p | l
  · rw [hidentity] at hget
    simp [Identity.get] at hget
  · rw [hidentity] at hget
    cases key
    all_goals simp only [Identity.get, some.injEq, IdentityValue.text.injEq,
      reduceCtorEq] at hget
    · rw [← hget]
      exact f.relativePath.small
    · rw [← hget]
      exact f.ownershipToken.small
  · rw [hidentity] at hget
    cases key
    all_goals simp only [Identity.get, some.injEq, IdentityValue.text.injEq,
      reduceCtorEq, map_eq_some_iff, and_false, exists_false] at hget
    rw [← hget]
    exact c.relativePath.small
  · -- A process identity is complete, so its own texts were checked.
    have hvalues : validateIdentityValues record.identity = .ok () := by
      rcases hid.2.2.2 with ⟨-, hshape⟩ | ⟨-, hvalues⟩
      · split at hshape <;> simp [hidentity] at hshape
      · exact hvalues
    rw [hidentity] at hvalues
    simp only [validateIdentityValues, unit_bind_eq_ok, checkText_eq_ok] at hvalues
    by_cases hown : key = .pid ∨ key = .startTime ∨ key = .bootId ∨ key = .cgroup
    · rw [hidentity] at hget
      rcases hown with rfl | rfl | rfl | rfl
      all_goals simp only [Identity.get, some.injEq, IdentityValue.text.injEq,
        reduceCtorEq] at hget
      · exact hget ▸ hvalues.2.1.small (by decide)
      · exact hget ▸ hvalues.2.2.1.small (by decide)
      · exact hget ▸ hvalues.2.2.2.small (by decide)
    · rw [hidentity] at hget
      have hbind : p.link.bind (fun link => link.get key) = some (.text value) := by
        cases key <;> simp_all [Identity.get]
      rcases bind_eq_some_iff.mp hbind with ⟨link, hsome, hlinkget⟩
      exact hgroup link (by rw [hidentity]; exact hsome) hlinkget
  · rw [hidentity] at hget
    exact hgroup l (by rw [hidentity]; rfl) hget

theorem IdentityValue.nodes_json (value : IdentityValue) :
    value.json.nodes ≤ 7 ∧ value.json.height ≤ 1 := by
  cases value <;>
    simp [IdentityValue.json, RootIdentity.json, nodes, nodesMembers, height,
      heightMembers]

theorem Identity.mem_json {identity : Identity} {member : String × Json}
    (h : member ∈ identity.keys.filterMap (fun key =>
      (identity.get key).map (fun value => (key.text, value.json)))) :
    ∃ key value, identity.get key = some value ∧ member = (key.text, value.json) := by
  rcases mem_filterMap.mp h with ⟨key, -, hkey⟩
  rcases map_eq_some_iff.mp hkey with ⟨value, hget, rfl⟩
  exact ⟨key, value, hget, rfl⟩

theorem Identity.nodes_json (identity : Identity) :
    identity.json.nodes ≤ 105 ∧ identity.json.height ≤ 2 := by
  have hmember : ∀ member ∈ identity.keys.filterMap (fun key =>
      (identity.get key).map (fun value => (key.text, value.json))),
      member.2.nodes ≤ 7 ∧ member.2.height ≤ 1 := by
    intro member hmem
    rcases Identity.mem_json hmem with ⟨key, value, -, rfl⟩
    exact value.nodes_json
  have hlength : (identity.keys.filterMap (fun key =>
      (identity.get key).map (fun value => (key.text, value.json)))).length ≤ 13 :=
    le_trans (length_filterMap_le _ _) (length_filter_le _ _)
  have hnodes := nodesMembers_le 7 _ (fun member hmem => (hmember member hmem).1)
  have hheight := heightMembers_le 1 _ (fun member hmem => (hmember member hmem).2)
  constructor
  · rw [Identity.json, nodes]
    omega
  · rw [Identity.json, height]
    exact hheight

theorem optionJson_nodes (value : Option String) :
    (optionJson value).nodes = 1 ∧ (optionJson value).height = 0 := by
  cases value <;> simp [optionJson, nodes, height]

theorem Evidence.nodes_json (evidence : Evidence) :
    evidence.json.nodes ≤ 27 ∧ evidence.json.height ≤ 2 := by
  have hentry : ∀ member ∈ evidence.counters.entries.map
      (fun entry => (entry.1.text, optionJson entry.2)),
      member.2.nodes ≤ 1 ∧ member.2.height ≤ 0 := by
    intro member hmem
    rcases mem_map.mp hmem with ⟨entry, -, rfl⟩
    have := optionJson_nodes entry.2
    exact ⟨this.1.le, this.2.le⟩
  have hlength := evidence.counters.length_entries
  have hnodes := nodesMembers_le 1 _ (fun member hmem => (hentry member hmem).1)
  have hheight := heightMembers_le 0 _ (fun member hmem => (hentry member hmem).2)
  rw [length_map] at hnodes
  simp only [Evidence.json, Settings.json, Counters.json, nodes, nodesMembers,
    height, heightMembers, (optionJson_nodes _).1, (optionJson_nodes _).2]
  constructor <;> omega

theorem Observation.nodes_json (observation : Observation) :
    observation.json.nodes ≤ 7 ∧ observation.json.height ≤ 1 := by
  simp [Observation.json, nodes, nodesMembers, height, heightMembers,
    (optionJson_nodes _).1, (optionJson_nodes _).2]

theorem Record.evidenceField_nodes (record : Record) :
    Json.nodesMembers record.evidenceField ≤ 28 ∧ Json.heightMembers record.evidenceField ≤ 3 := by
  unfold evidenceField
  rcases record.schema with _ | _
  · simp [nodesMembers, heightMembers]
  · rcases record.cleanupEvidence with _ | evidence
    · simp [nodesMembers, heightMembers, nodes, height]
    · have := evidence.nodes_json
      simp only [nodesMembers, heightMembers]
      omega

/-- A valid record stays far below the structural bounds: it is the number of
    observations that counts, and there are at most 64. -/
theorem Record.Valid.shape {record : Record} (h : record.Valid) (sha256 : List Char → Hex64) :
    (record.checksummed sha256).nodes ≤ 2048 ∧ (record.checksummed sha256).height ≤ 10 := by
  have hobservation : ∀ j ∈ record.observations.map Observation.json, j.nodes ≤ 7 ∧ j.height ≤ 1 := by
    intro j hj
    rcases mem_map.mp hj with ⟨observation, -, rfl⟩
    exact observation.nodes_json
  have hnodes := nodesItems_le 7 _ (fun j hj => (hobservation j hj).1)
  have hheight := heightItems_le 1 _ (fun j hj => (hobservation j hj).2)
  have hlength := h.observations_length
  have hidentity := record.identity.nodes_json
  have hevidence := record.evidenceField_nodes
  rw [length_map] at hnodes
  constructor
  · rw [checksummed, nodes, fields, nodesMembers_append,
      nodesMembers_append]
    simp only [topFields, nodesMembers, nodes, RootIdentity.json,
      (optionJson_nodes _).1]
    omega
  · rw [checksummed, height, fields, heightMembers_append,
      heightMembers_append]
    simp only [topFields, heightMembers, height, RootIdentity.json,
      (optionJson_nodes _).2]
    omega

theorem Identity.json_all {identity : Identity}
    (htext : ∀ key value, identity.get key = some (.text value) → SmallString value) :
    identity.json.All SmallInt SmallString ↔ ∀ n ∈ identity.numbers, n ≤ maxInteger := by
  have hvalue : ∀ key value, identity.get key = some value →
      (value.json.All SmallInt SmallString ↔ ∀ n ∈ value.numbers, n ≤ maxInteger) := by
    intro key value hget
    cases value with
    | number n => simp [IdentityValue.json, IdentityValue.numbers, Json.All, smallInt_natCast]
    | text s => simpa [IdentityValue.json, IdentityValue.numbers, Json.All] using htext key s hget
    | root r =>
      have hkeys : SmallString "device" ∧ SmallString "inode" ∧ SmallString "uid" := by decide
      simp [IdentityValue.json, IdentityValue.numbers, RootIdentity.json, Json.All,
        Json.AllMembers, smallInt_natCast, hkeys]
  rw [Identity.json, Json.All, allMembers_iff]
  constructor
  · intro hall n hn
    rcases mem_flatMap.mp hn with ⟨key, hkey, hn⟩
    rcases isSome_iff_exists.mp ((identity.mem_keys key).mp hkey) with ⟨value, hget⟩
    rw [hget, map_some, getD_some] at hn
    have hmember := hall (key.text, value.json)
      (mem_filterMap.mpr ⟨key, hkey, by rw [hget, map_some]⟩)
    exact (hvalue key value hget).mp hmember.2 n hn
  · intro hall member hmem
    rcases Identity.mem_json hmem with ⟨key, value, hget, rfl⟩
    refine ⟨key.small, (hvalue key value hget).mpr ?_⟩
    intro n hn
    refine hall n (mem_flatMap.mpr ⟨key, ?_, by rw [hget]; exact hn⟩)
    rw [identity.mem_keys, hget]
    rfl

/-- The evidence a record carries has short texts only. -/
theorem Record.Valid.evidence_all {record : Record} (h : record.Valid) :
    Json.AllMembers SmallInt SmallString record.evidenceField := by
  unfold evidenceField
  rcases hschema : record.schema with _ | _
  · simp [Json.AllMembers]
  · have hname : SmallString "cleanupEvidence" := by decide
    rcases hevidence : record.cleanupEvidence with _ | evidence
    · simp [Json.AllMembers, Json.All, hname]
    · have hchecked := h.evidence
      rw [hevidence] at hchecked
      simp only [validateEvidence, unit_bind_eq_ok, require_eq_ok] at hchecked
      have hsmall : ∀ value ∈ evidence.values, ∀ s ∈ value, SmallString s := by
        rintro value hvalue s rfl
        exact hchecked.2.1 (some s) hvalue
      have hkeys : SmallString "settings" ∧ SmallString "counters" ∧ SmallString "pids.max" ∧
          SmallString "memory.max" ∧ SmallString "memory.swap.max" ∧ SmallString "cpu.max" := by
        decide
      have hsettings : evidence.settings.json.All SmallInt SmallString := by
        simp only [Settings.json, Json.All, Json.AllMembers, hkeys, true_and, and_true]
        refine ⟨?_, ?_, ?_, ?_⟩ <;>
          exact optionJson_all (hsmall _ (by simp [Evidence.values, Settings.values]))
      have hcounters : evidence.counters.json.All SmallInt SmallString := by
        rw [Counters.json, Json.All, allMembers_iff]
        intro member hmem
        rcases mem_map.mp hmem with ⟨entry, hentry, rfl⟩
        refine ⟨entry.1.small, optionJson_all (hsmall _ (mem_append_right _ ?_))⟩
        exact mem_map.mpr ⟨entry, hentry, rfl⟩
      simp [Json.AllMembers, Json.All, hname, Evidence.json, hkeys, hsettings, hcounters]

theorem Observation.WellFormed.json_all {observation : Observation} (h : observation.WellFormed) :
    observation.json.All SmallInt SmallString := by
  have hkeys : SmallString "attemptId" ∧ SmallString "status" ∧ SmallString "reasonCode" := by
    decide
  have hstatus : SmallString observation.status.text := by
    cases observation.status <;> decide
  have hreason : (optionJson observation.reasonCode).All SmallInt SmallString :=
    optionJson_all (fun reason hmem => (h.2 reason hmem).small (by decide))
  simp only [Observation.json, Json.All, Json.AllMembers, hkeys, hstatus, hreason, true_and,
    and_true]
  exact h.1.small (by decide)

theorem Record.Valid.topFields_all {record : Record} (h : record.Valid) :
    Json.AllMembers SmallInt SmallString record.topFields ↔
      (record.sequence ≤ maxInteger ∧ record.principalUid ≤ maxInteger ∧
        record.stateRoot.device ≤ maxInteger ∧ record.stateRoot.inode ≤ maxInteger ∧
        record.stateRoot.uid ≤ maxInteger) ∧
      record.identity.json.All SmallInt SmallString := by
  have hnames : ∀ name ∈ ["schema", "sequence", "controllerInstance", "bootId", "principalUid",
      "sessionId", "resourceId", "kind", "phase", "stage", "identity", "retainedRecoverable",
      "observations", "stateRoot", "cleanupTarget", "device", "inode", "uid"],
      SmallString name := by
    decide
  simp only [forall_mem_cons, not_mem_nil, false_implies, implies_true, and_true]
    at hnames
  have htexts : SmallString record.schema.text ∧ SmallString record.kind.text ∧
      SmallString record.phase.text := by
    refine ⟨?_, ?_, ?_⟩
    · cases record.schema <;> decide
    · cases record.kind <;> decide
    · cases record.phase <;> decide
  have hids : SmallString record.controllerInstance ∧ SmallString record.bootId ∧
      SmallString record.sessionId ∧ SmallString record.resourceId ∧ SmallString record.stage :=
    ⟨h.controllerInstance.small, h.bootId.small (by decide), h.sessionId.small,
      h.resourceId.small, h.stage.small⟩
  have hobservations : Json.AllItems SmallInt SmallString
      (record.observations.map Observation.json) := by
    rw [allItems_iff]
    intro j hj
    rcases mem_map.mp hj with ⟨observation, hmem, rfl⟩
    exact (h.observations observation hmem).json_all
  have htarget : (optionJson (record.cleanupTarget.map RelativePath.text)).All
      SmallInt SmallString := by
    refine optionJson_all (fun text hmem => ?_)
    rcases map_eq_some_iff.mp hmem with ⟨path, -, rfl⟩
    exact path.small
  simp only [topFields, RootIdentity.json, Json.AllMembers, Json.All, hnames, htexts, hids,
    hobservations, htarget, smallInt_natCast, true_and, and_true]
  constructor
  · rintro ⟨h1, h2, h3, h4, h5, h6⟩
    exact ⟨⟨h1, h2, h4, h5, h6⟩, h3⟩
  · rintro ⟨⟨h1, h2, h4, h5, h6⟩, h3⟩
    exact ⟨h1, h2, h3, h4, h5, h6⟩

/-- A record that can be read back. -/
def Record.Bounded (sha256 : List Char → Hex64) (record : Record) : Prop :=
  ∃ total, boundedJson 0 0 (record.checksummed sha256) = .ok total

/-- Whether a valid record can be read back depends on its integers only. -/
theorem bounded_iff (sha256 : List Char → Hex64) {record : Record} (h : record.Valid) :
    record.Bounded sha256 ↔ ∀ n ∈ record.numbers, n ≤ maxInteger := by
  have hshape := h.shape sha256
  have htree : record.Bounded sha256 ↔
      (record.checksummed sha256).All SmallInt SmallString := by
    unfold Record.Bounded
    simp only [boundedJson_eq_ok, Nat.zero_add]
    constructor
    · rintro ⟨_, -, -, -, hall⟩
      exact hall
    · intro hall
      exact ⟨_, rfl, hshape.1, hshape.2, hall⟩
  have hidentity := Identity.json_all (fun _ _ hget => h.identity_small hget)
  have hchecksum : ∀ digest : Hex64,
      Json.AllMembers SmallInt SmallString [("checksum", .str digest.text)] := by
    intro digest
    have hname : SmallString "checksum" := by decide
    simp [Json.AllMembers, Json.All, hname, digest.small]
  rw [htree, checksummed, Json.All, fields, allMembers_append,
    allMembers_append, h.topFields_all]
  simp only [h.evidence_all, hchecksum, and_true]
  rw [hidentity]
  simp only [numbers, cons_append, nil_append, forall_mem_cons, and_assoc]

end MirrorGate
