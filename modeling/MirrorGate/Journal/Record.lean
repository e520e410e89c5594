import MirrorGate.Lib.Json
import MirrorGate.Lib.Text

/-!
# Journal Records

The ownership journal keeps one record per resource: who allocated it, what
identifies it, how far its life has come, and what every recovery attempt
observed. This module has the record, the table of permitted phase changes,
and the validator that every record passes before it is written and again
whenever it is read.

A record on disk is a closed JSON object. Here it is a typed one, and some of
the validator's checks have moved into the types: a `RelativePath` is a path
that passed `checkedRelativePath`, a `Hex64` is a token or digest of 64
lower-case hexadecimal digits, numbers that must not be negative are `Nat`,
and closed vocabularies are inductive types. What the types do not say is
checked by `validateRecord`, with the messages of the source, and
`validateRecord_eq_ok` turns its success into the fields of `Record.Valid`.

An identity is a dictionary whose keys depend on the kind of resource and on
how much of it is known yet. `Identity` has one constructor for each shape a
validated dictionary can have, and `Identity.get` reads it as the dictionary
it stands for, so that "unknown fields" and "incomplete fields" are statements
about key sets as they are in the source.

## Main definitions

* `transitions`: The permitted phase changes.
* `RelativePath`, `checkedRelativePath`: Relative paths without dot
  components.
* `Identity`, `Record`: What the journal stores about a resource.
* `validateIdentity`, `validateRecord`: The validator.
* `Record.Valid`: What a validated record satisfies.

## Theorems

* `checkedRelativePath_eq_ok`: The check accepts exactly the texts of
  relative paths.
* `validateRecord_eq_ok`: The validator accepts exactly the valid records.
-/

namespace MirrorGate

/-! ### Vocabularies -/

/-- The journal versions. Version 2 is for resources covered by a cgroup. -/
inductive Schema where
  | v1
  | v2
deriving DecidableEq, Repr

def Schema.text : Schema → String
  | .v1 => "mirrorgate.recovery-journal/v1"
  | .v2 => "mirrorgate.recovery-journal/v2"

inductive Kind where
  | filesystem
  | process
  | cgroup
  | retainedSource
deriving DecidableEq, Repr

def Kind.text : Kind → String
  | .filesystem => "filesystem"
  | .process => "process"
  | .cgroup => "cgroup"
  | .retainedSource => "retained_source"

inductive Phase where
  | allocationIntent
  | durableOwned
  | active
  | cleanupIntent
  | reclaimed
  | retainedByPolicy
  | ambiguous
  | cleanupFailed
deriving DecidableEq, Repr

def Phase.text : Phase → String
  | .allocationIntent => "allocation_intent"
  | .durableOwned => "durable_owned"
  | .active => "active"
  | .cleanupIntent => "cleanup_intent"
  | .reclaimed => "reclaimed"
  | .retainedByPolicy => "retained_by_policy"
  | .ambiguous => "ambiguous"
  | .cleanupFailed => "cleanup_failed"

/-- The permitted phase changes. Nothing leads out of `ambiguous` and
    `reclaimed`. -/
def transitions : Phase → List Phase
  | .allocationIntent => [.durableOwned, .retainedByPolicy, .cleanupIntent, .ambiguous]
  | .durableOwned => [.active, .cleanupIntent, .retainedByPolicy, .ambiguous]
  | .active => [.cleanupIntent, .retainedByPolicy, .ambiguous]
  | .cleanupIntent => [.reclaimed, .cleanupFailed, .ambiguous]
  | .cleanupFailed => [.cleanupIntent, .ambiguous]
  | .retainedByPolicy => [.cleanupIntent, .ambiguous]
  | .ambiguous => []
  | .reclaimed => []

/-- The phases that nothing leads out of. -/
def Phase.Terminal (phase : Phase) : Prop := phase = .reclaimed ∨ phase = .ambiguous

instance (phase : Phase) : Decidable phase.Terminal :=
  inferInstanceAs (Decidable (_ ∨ _))

theorem transitions_eq_nil_iff (phase : Phase) : transitions phase = [] ↔ phase.Terminal := by
  cases phase <;> decide

/-- The phases in which a resource is being, or has been, removed. -/
def Phase.IsCleanup (phase : Phase) : Prop :=
  phase = .cleanupIntent ∨ phase = .cleanupFailed ∨ phase = .reclaimed

instance (phase : Phase) : Decidable phase.IsCleanup :=
  inferInstanceAs (Decidable (_ ∨ _))

inductive ObservationStatus where
  | unconfirmed
  | recovered
  | failed
  | ambiguous
deriving DecidableEq, Repr

def ObservationStatus.text : ObservationStatus → String
  | .unconfirmed => "unconfirmed"
  | .recovered => "recovered"
  | .failed => "failed"
  | .ambiguous => "ambiguous"

/-! ### Checks that raise -/

/-- Go on if the condition holds, fail with the message if not. -/
def require (condition : Prop) [Decidable condition] (message : String) : Except String Unit :=
  if condition then .ok () else .error message

@[simp] theorem require_eq_ok {condition : Prop} [Decidable condition] {message : String}
    {done : Unit} : require condition message = .ok done ↔ condition := by
  unfold require
  split <;> simp_all

theorem unit_bind_eq_ok {α : Type} {check : Except String Unit} {next : Unit → Except String α}
    {a : α} : (check >>= next) = .ok a ↔ check = .ok () ∧ next () = .ok a := by
  cases check <;> simp [bind, Except.bind]

/-- A nonempty text of at most `maximum` UTF-8 bytes. -/
def IsText (maximum : Nat) (value : String) : Prop := value ≠ "" ∧ value.utf8ByteSize ≤ maximum

instance (maximum : Nat) (value : String) : Decidable (IsText maximum value) :=
  inferInstanceAs (Decidable (_ ∧ _))

/-- The characters of an opaque identifier. -/
def isOpaqueChar (c : Char) : Bool := c.isAlphanum || c = '.' || c = '_' || c = '-'

/-- An identifier that is also a safe file name: at most 128 bytes, no
    leading dot. -/
def IsOpaque (value : String) : Prop :=
  IsText 128 value ∧ value.toList.head? ≠ some '.' ∧ value.toList.all isOpaqueChar = true

instance (value : String) : Decidable (IsOpaque value) :=
  inferInstanceAs (Decidable (_ ∧ _ ∧ _))

def checkText (value label : String) (maximum : Nat) : Except String Unit :=
  require (IsText maximum value) ("invalid " ++ label)

def checkOpaque (value label : String) : Except String Unit :=
  require (IsOpaque value) ("invalid " ++ label)

@[simp] theorem checkText_eq_ok {value label : String} {maximum : Nat} :
    checkText value label maximum = .ok () ↔ IsText maximum value :=
  require_eq_ok

@[simp] theorem checkOpaque_eq_ok {value label : String} :
    checkOpaque value label = .ok () ↔ IsOpaque value :=
  require_eq_ok

/-! ### Paths and digests -/

/-- A path component that names an entry of a directory. -/
def IsName (part : String) : Prop :=
  part ≠ "" ∧ part ≠ "." ∧ part ≠ ".." ∧ '/' ∉ part.toList

instance (part : String) : Decidable (IsName part) :=
  inferInstanceAs (Decidable (_ ∧ _ ∧ _ ∧ _))

/-- A relative path in normal form, at most 512 bytes long. -/
structure RelativePath where
  parts : List String
  names : ∀ part ∈ parts, IsName part
  nonempty : parts ≠ []
  bounded : (Text.joinPath parts).utf8ByteSize ≤ 512
deriving DecidableEq

namespace RelativePath

/-- The path as it is written. -/
def text (path : RelativePath) : String := Text.joinPath path.parts

theorem no_slash (path : RelativePath) : ∀ part ∈ path.parts, '/' ∉ part.toList :=
  fun part hpart => (path.names part hpart).2.2.2

theorem splitPath_text (path : RelativePath) : Text.splitPath path.text = path.parts :=
  Text.splitPath_joinPath path.parts path.nonempty path.no_slash

@[ext] theorem ext {path path' : RelativePath} (h : path.parts = path'.parts) : path = path' := by
  cases path
  cases path'
  simp_all

theorem text_injective {path path' : RelativePath} (h : path.text = path'.text) :
    path = path' :=
  ext (by rw [← path.splitPath_text, h, path'.splitPath_text])

theorem text_ne_empty (path : RelativePath) : path.text ≠ "" := by
  intro hempty
  have hsplit : [""] = path.parts := by
    rw [← path.splitPath_text, hempty]
    rfl
  exact (path.names "" (by simp [← hsplit])).1 rfl

theorem head_ne_slash (path : RelativePath) : path.text.toList.head? ≠ some '/' := by
  rcases path with ⟨parts, names, nonempty, bounded⟩
  rcases parts with _ | ⟨first, rest⟩
  · exact absurd rfl nonempty
  · have hfirst := names first (by simp)
    rcases hchars : first.toList with _ | ⟨c, cs⟩
    · exact absurd (String.toList_eq_nil_iff.mp hchars) hfirst.1
    · have hc : c ≠ '/' := by
        rintro rfl
        exact hfirst.2.2.2 (by simp [hchars])
      have hhead : (Text.joinPath (first :: rest)).toList.head? = some c := by
        unfold Text.joinPath
        rw [String.toList_ofList, List.map_cons, hchars]
        cases rest <;> simp [List.intercalate]
      simpa [text, hhead] using hc

end RelativePath

/-- Accept a relative path in normal form. -/
def checkedRelativePath (value : String) : Except String RelativePath :=
  if h : IsText 512 value ∧ value.toList.head? ≠ some '/' ∧
      ∀ part ∈ Text.splitPath value, part ≠ "" ∧ part ≠ "." ∧ part ≠ ".." then
    .ok
      { parts := Text.splitPath value
        names := fun part hpart =>
          have hname := h.2.2 part hpart
          ⟨hname.1, hname.2.1, hname.2.2, Text.not_mem_of_mem_splitPath value part hpart⟩
        nonempty := by simp [Text.splitPath]
        bounded := by rw [Text.joinPath_splitPath]; exact h.1.2 }
  else .error "invalid relative path"

/-- The check accepts exactly the texts of relative paths. -/
theorem checkedRelativePath_eq_ok {value : String} {path : RelativePath} :
    checkedRelativePath value = .ok path ↔ path.text = value := by
  constructor
  · intro h
    unfold checkedRelativePath at h
    split at h
    · cases h
      exact Text.joinPath_splitPath value
    · cases h
  · rintro rfl
    have hok : IsText 512 path.text ∧ path.text.toList.head? ≠ some '/' ∧
        ∀ part ∈ Text.splitPath path.text, part ≠ "" ∧ part ≠ "." ∧ part ≠ ".." := by
      refine ⟨⟨path.text_ne_empty, path.bounded⟩, path.head_ne_slash, ?_⟩
      rw [path.splitPath_text]
      intro part hpart
      have hname := path.names part hpart
      exact ⟨hname.1, hname.2.1, hname.2.2.1⟩
    unfold checkedRelativePath
    rw [dif_pos hok]
    exact congrArg Except.ok (RelativePath.ext path.splitPath_text)

/-- A lower-case hexadecimal digit. -/
def isHexDigit (c : Char) : Bool := c.isDigit || ('a' ≤ c && c ≤ 'f')

/-- A digest or token: 64 lower-case hexadecimal digits. -/
structure Hex64 where
  text : String
  length_eq : text.toList.length = 64
  digits : text.toList.all isHexDigit = true
deriving DecidableEq

/-! ### Identities -/

/-- A directory by device, inode and owner. -/
structure RootIdentity where
  device : Nat
  inode : Nat
  uid : Nat
deriving DecidableEq, Repr

/-- What identifies a directory of the state root. `mode` is the file type,
    and `ownershipToken` an attribute stored on the directory itself. -/
structure FilesystemIdentity where
  relativePath : RelativePath
  device : Nat
  inode : Nat
  mode : Nat
  ctimeNs : Nat
  ownershipToken : Hex64
deriving DecidableEq

/-- What identifies a cgroup below its delegation. -/
structure CgroupIdentity where
  relativePath : RelativePath
  device : Nat
  inode : Nat
  mode : Nat
  delegation : Option RootIdentity
deriving DecidableEq

/-- The cgroup that covers a process. -/
structure GroupLink where
  cgroupResourceId : String
  cgroupIdentityDigest : Hex64
deriving DecidableEq

/-- What was observed of a process when it was started. -/
structure ProcessIdentity where
  pid : Nat
  startTime : String
  bootId : String
  cgroup : String
  link : Option GroupLink
deriving DecidableEq

/-- The identity of a resource. `empty` is the dictionary without keys of a
    resource that is not identified yet, and `announced` that of a process of
    which only the covering cgroup is known. -/
inductive Identity where
  | empty
  | filesystem (identity : FilesystemIdentity)
  | cgroup (identity : CgroupIdentity)
  | process (identity : ProcessIdentity)
  | announced (link : GroupLink)
deriving DecidableEq

inductive IdentityKey where
  | relativePath
  | device
  | inode
  | mode
  | ctimeNs
  | ownershipToken
  | pid
  | startTime
  | bootId
  | cgroup
  | delegation
  | cgroupResourceId
  | cgroupIdentityDigest
deriving DecidableEq, Repr

def IdentityKey.text : IdentityKey → String
  | .relativePath => "relativePath"
  | .device => "device"
  | .inode => "inode"
  | .mode => "mode"
  | .ctimeNs => "ctimeNs"
  | .ownershipToken => "ownershipToken"
  | .pid => "pid"
  | .startTime => "startTime"
  | .bootId => "bootId"
  | .cgroup => "cgroup"
  | .delegation => "delegation"
  | .cgroupResourceId => "cgroupResourceId"
  | .cgroupIdentityDigest => "cgroupIdentityDigest"

def IdentityKey.all : List IdentityKey :=
  [.relativePath, .device, .inode, .mode, .ctimeNs, .ownershipToken, .pid, .startTime, .bootId,
    .cgroup, .delegation, .cgroupResourceId, .cgroupIdentityDigest]

inductive IdentityValue where
  | number (value : Nat)
  | text (value : String)
  | root (value : RootIdentity)
deriving DecidableEq

def GroupLink.get (link : GroupLink) : IdentityKey → Option IdentityValue
  | .cgroupResourceId => some (.text link.cgroupResourceId)
  | .cgroupIdentityDigest => some (.text link.cgroupIdentityDigest.text)
  | _ => none

/-- The value an identity has under a key, if the key is there. -/
def Identity.get : Identity → IdentityKey → Option IdentityValue
  | .empty, _ => none
  | .filesystem identity, key =>
    match key with
    | .relativePath => some (.text identity.relativePath.text)
    | .device => some (.number identity.device)
    | .inode => some (.number identity.inode)
    | .mode => some (.number identity.mode)
    | .ctimeNs => some (.number identity.ctimeNs)
    | .ownershipToken => some (.text identity.ownershipToken.text)
    | _ => none
  | .cgroup identity, key =>
    match key with
    | .relativePath => some (.text identity.relativePath.text)
    | .device => some (.number identity.device)
    | .inode => some (.number identity.inode)
    | .mode => some (.number identity.mode)
    | .delegation => identity.delegation.map .root
    | _ => none
  | .process identity, key =>
    match key with
    | .pid => some (.number identity.pid)
    | .startTime => some (.text identity.startTime)
    | .bootId => some (.text identity.bootId)
    | .cgroup => some (.text identity.cgroup)
    | _ => identity.link.bind (fun link => link.get key)
  | .announced link, key => link.get key

def Identity.keys (identity : Identity) : List IdentityKey :=
  IdentityKey.all.filter (fun key => (identity.get key).isSome)

theorem Identity.mem_keys (identity : Identity) (key : IdentityKey) :
    key ∈ identity.keys ↔ (identity.get key).isSome = true := by
  have hall : key ∈ IdentityKey.all := by cases key <;> decide
  simp [Identity.keys, hall]

/-! ### Evidence of an empty cgroup -/

inductive Counter where
  | pidsCurrent
  | pidsEvents
  | memoryCurrent
  | memoryPeak
  | memoryEvents
  | cpuStat
  | cgroupEvents
deriving DecidableEq, Repr

def Counter.text : Counter → String
  | .pidsCurrent => "pids.current"
  | .pidsEvents => "pids.events"
  | .memoryCurrent => "memory.current"
  | .memoryPeak => "memory.peak"
  | .memoryEvents => "memory.events"
  | .cpuStat => "cpu.stat"
  | .cgroupEvents => "cgroup.events"

/-- Counter files that were read, with their contents; a file that does not
    exist is recorded as such. -/
structure Counters where
  entries : List (Counter × Option String)
  distinct : (entries.map Prod.fst).Nodup
deriving DecidableEq

/-- No counter was read. -/
def Counters.none : Counters := ⟨[], by simp⟩

def Counters.get (counters : Counters) (counter : Counter) : Option String :=
  (counters.entries.lookup counter).join

/-- The event counter says that no process is left. -/
def Counters.Quiet (counters : Counters) : Prop :=
  "populated 0".toList ∈ Text.splitLines ((counters.get .cgroupEvents).getD "").toList

instance (counters : Counters) : Decidable counters.Quiet :=
  inferInstanceAs (Decidable (_ ∈ _))

/-- The aggregate limits of a cgroup as they were read. -/
structure Settings where
  pidsMax : Option String
  memoryMax : Option String
  memorySwapMax : Option String
  cpuMax : Option String
deriving DecidableEq, Repr

/-- Settings of which nothing was read. -/
def Settings.blank : Settings := ⟨none, none, none, none⟩

def Settings.values (settings : Settings) : List (Option String) :=
  [settings.pidsMax, settings.memoryMax, settings.memorySwapMax, settings.cpuMax]

structure Evidence where
  settings : Settings
  counters : Counters
deriving DecidableEq

def Evidence.values (evidence : Evidence) : List (Option String) :=
  evidence.settings.values ++ evidence.counters.entries.map Prod.snd

/-! ### Records -/

/-- What one recovery attempt found. -/
structure Observation where
  attemptId : String
  status : ObservationStatus
  reasonCode : Option String
deriving DecidableEq, Repr

structure Record where
  schema : Schema
  sequence : Nat
  controllerInstance : String
  bootId : String
  principalUid : Nat
  sessionId : String
  resourceId : String
  kind : Kind
  phase : Phase
  stage : String
  identity : Identity
  retainedRecoverable : Bool
  observations : List Observation
  stateRoot : RootIdentity
  cleanupTarget : Option RelativePath
  cleanupEvidence : Option Evidence
deriving DecidableEq

/-! ### The validator -/

/-- The keys a complete identity has. -/
def identityFields : Kind → Schema → List IdentityKey
  | .filesystem, _ | .retainedSource, _ =>
    [.relativePath, .device, .inode, .mode, .ctimeNs, .ownershipToken]
  | .process, .v1 => [.pid, .startTime, .bootId, .cgroup]
  | .process, .v2 =>
    [.pid, .startTime, .bootId, .cgroup, .cgroupResourceId, .cgroupIdentityDigest]
  | .cgroup, .v1 => [.relativePath, .device, .inode, .mode]
  | .cgroup, .v2 => [.relativePath, .device, .inode, .mode, .delegation]

/-- The covering cgroup an identity names. -/
def Identity.groupLink : Identity → Option GroupLink
  | .process identity => identity.link
  | .announced link => some link
  | _ => none

/-- A resource may be announced, or given up on, before it is identified. -/
def Phase.Unidentified (phase : Phase) : Prop := phase = .allocationIntent ∨ phase = .ambiguous

instance (phase : Phase) : Decidable phase.Unidentified :=
  inferInstanceAs (Decidable (_ ∨ _))

/-- The checks on the values of a complete identity. Those on paths, tokens
    and numbers are carried by the types. -/
def validateIdentityValues : Identity → Except String Unit
  | .process identity => do
    require (0 < identity.pid) "process PID observation is invalid"
    checkText identity.startTime "process start time" 512
    checkText identity.bootId "process boot identity" 512
    checkText identity.cgroup "process cgroup" 1024
  | _ => .ok ()

/-- The part of the check on identities that comes after the announcement
    shapes have been dealt with. -/
def validateCompleteIdentity (kind : Kind) (value : Identity) (schema : Schema) :
    Except String Unit := do
  require (∀ key ∈ identityFields kind schema, key ∈ value.keys) "identity fields are incomplete"
  validateIdentityValues value

/-- The check on a process identity of version 2, which names its covering
    cgroup from the start. -/
def validateCoveredIdentity (phase : Phase) (value : Identity) : Except String Unit :=
  match value.groupLink with
  | none => .error "invalid covering cgroup resource"
  | some link => do
    checkOpaque link.cgroupResourceId "covering cgroup resource"
    if phase.Unidentified ∧ value = .announced link then .ok ()
    else validateCompleteIdentity .process value .v2

def validateIdentity (kind : Kind) (phase : Phase) (value : Identity) (schema : Schema) :
    Except String Unit := do
  require (schema = .v1 ∨ kind = .cgroup ∨ kind = .process)
    "v2 is restricted to cgroup-covered resources"
  require (∀ key ∈ value.keys, key ∈ identityFields kind schema)
    "identity contains unknown fields"
  if schema = .v2 ∧ kind = .process then validateCoveredIdentity phase value
  else if phase.Unidentified ∧ value = .empty then .ok ()
  else validateCompleteIdentity kind value schema

/-- Evidence of emptiness belongs to a cgroup under cleanup, is bounded, and
    shows that no process was left. -/
def validateEvidence (kind : Kind) (phase : Phase) : Option Evidence → Except String Unit
  | none => .ok ()
  | some evidence => do
    require (kind = .cgroup ∧ phase.IsCleanup) "invalid cgroup cleanup evidence"
    require ((∀ value ∈ evidence.values, (value.getD "").utf8ByteSize ≤ 4096) ∧
        evidence.counters.Quiet)
      "cgroup cleanup evidence lacks observed quiescence"

/-- The start of every cleanup target. -/
def cleanupTargetStart : String := "quarantine/reclaim-"

def validateCleanupTarget : Option RelativePath → Except String Unit
  | none => .ok ()
  | some target =>
    require (cleanupTargetStart.toList <+: target.text.toList) "cleanup target is outside quarantine"

/-- A well-formed observation. -/
def Observation.WellFormed (observation : Observation) : Prop :=
  IsText 512 observation.attemptId ∧ ∀ reason ∈ observation.reasonCode, IsText 128 reason

instance (observation : Observation) : Decidable observation.WellFormed :=
  inferInstanceAs (Decidable (_ ∧ _))

def validateObservation (observation : Observation) : Except String Unit := do
  checkText observation.attemptId "recovery attempt" 512
  match observation.reasonCode with
  | none => .ok ()
  | some reason => checkText reason "reason code" 128

def validateObservations (observations : List Observation) : Except String Unit := do
  require (observations.length ≤ 64) "invalid observation list"
  observations.forM validateObservation

def validateRecord (value : Record) : Except String Unit := do
  require (value.schema = .v2 ∨ value.cleanupEvidence = none) "record fields are not closed"
  require (0 < value.sequence) "invalid record sequence"
  checkOpaque value.controllerInstance "controller instance"
  checkText value.bootId "bootId" 512
  checkOpaque value.sessionId "session ID"
  checkOpaque value.resourceId "resource ID"
  checkOpaque value.stage "stage"
  validateIdentity value.kind value.phase value.identity value.schema
  validateEvidence value.kind value.phase value.cleanupEvidence
  validateCleanupTarget value.cleanupTarget
  require (value.kind = .retainedSource → value.phase.IsCleanup → value.retainedRecoverable = true)
    "retained source cleanup lacks explicit policy"
  validateObservations value.observations

/-! ### What validation guarantees -/

/-- The conditions on a record, one field per check. -/
structure Record.Valid (record : Record) : Prop where
  closed : record.schema = .v2 ∨ record.cleanupEvidence = none
  sequence_pos : 0 < record.sequence
  controllerInstance : IsOpaque record.controllerInstance
  bootId : IsText 512 record.bootId
  sessionId : IsOpaque record.sessionId
  resourceId : IsOpaque record.resourceId
  stage : IsOpaque record.stage
  identity : validateIdentity record.kind record.phase record.identity record.schema = .ok ()
  evidence : validateEvidence record.kind record.phase record.cleanupEvidence = .ok ()
  cleanupTarget : ∀ target ∈ record.cleanupTarget, cleanupTargetStart.toList <+: target.text.toList
  retained : record.kind = .retainedSource → record.phase.IsCleanup →
    record.retainedRecoverable = true
  observations_length : record.observations.length ≤ 64
  observations : ∀ observation ∈ record.observations, observation.WellFormed

theorem validateCleanupTarget_eq_ok {target : Option RelativePath} :
    validateCleanupTarget target = .ok () ↔
      ∀ path ∈ target, cleanupTargetStart.toList <+: path.text.toList := by
  cases target <;> simp [validateCleanupTarget]

theorem validateObservation_eq_ok {observation : Observation} :
    validateObservation observation = .ok () ↔ observation.WellFormed := by
  rcases observation with ⟨attemptId, status, _ | reason⟩ <;>
    simp [validateObservation, Observation.WellFormed, unit_bind_eq_ok]

theorem validateObservations_eq_ok {observations : List Observation} :
    validateObservations observations = .ok () ↔
      observations.length ≤ 64 ∧ ∀ observation ∈ observations, observation.WellFormed := by
  have hall : observations.forM validateObservation = .ok () ↔
      ∀ observation ∈ observations, observation.WellFormed := by
    induction observations with
    | nil => simp [pure, Except.pure]
    | cons observation rest ih =>
      have hcons : (observation :: rest).forM validateObservation =
          (validateObservation observation >>= fun _ => rest.forM validateObservation) := rfl
      rw [hcons, unit_bind_eq_ok, validateObservation_eq_ok, ih]
      simp
  unfold validateObservations
  rw [unit_bind_eq_ok, require_eq_ok, hall]

/-- The validator accepts exactly the valid records. -/
theorem validateRecord_eq_ok {record : Record} :
    validateRecord record = .ok () ↔ record.Valid := by
  unfold validateRecord
  simp only [unit_bind_eq_ok, require_eq_ok, checkOpaque_eq_ok, checkText_eq_ok,
    validateCleanupTarget_eq_ok, validateObservations_eq_ok]
  constructor
  · rintro ⟨h1, h2, h3, h4, h5, h6, h7, h8, h9, h10, h11, h12, h13⟩
    exact ⟨h1, h2, h3, h4, h5, h6, h7, h8, h9, h10, h11, h12, h13⟩
  · rintro ⟨h1, h2, h3, h4, h5, h6, h7, h8, h9, h10, h11, h12, h13⟩
    exact ⟨h1, h2, h3, h4, h5, h6, h7, h8, h9, h10, h11, h12, h13⟩

/-! ### The shape of a validated identity -/

/-- A complete identity: every key the kind asks for is there. -/
def Identity.Complete (identity : Identity) (kind : Kind) (schema : Schema) : Prop :=
  ∀ key ∈ identityFields kind schema, key ∈ identity.keys

instance (identity : Identity) (kind : Kind) (schema : Schema) :
    Decidable (identity.Complete kind schema) :=
  inferInstanceAs (Decidable (∀ key ∈ _, _))

theorem keys_empty : Identity.empty.keys = [] := rfl

theorem keys_announced (link : GroupLink) :
    (Identity.announced link).keys = [.cgroupResourceId, .cgroupIdentityDigest] := rfl

/-- An identity passes the validator in two ways: as the announcement that
    comes before the resource is identified, or complete. Only the first
    depends on the phase. -/
theorem validateIdentity_eq_ok {kind : Kind} {phase : Phase} {value : Identity} {schema : Schema} :
    validateIdentity kind phase value schema = .ok () ↔
      (schema = .v1 ∨ kind = .cgroup ∨ kind = .process) ∧
      (∀ key ∈ value.keys, key ∈ identityFields kind schema) ∧
      (schema = .v2 → kind = .process →
        ∃ link, value.groupLink = some link ∧ IsOpaque link.cgroupResourceId) ∧
      (phase.Unidentified ∧
          (if schema = .v2 ∧ kind = .process then ∃ link, value = .announced link
            else value = .empty) ∨
        value.Complete kind schema ∧ validateIdentityValues value = .ok ()) := by
  unfold validateIdentity
  rw [unit_bind_eq_ok, require_eq_ok, unit_bind_eq_ok, require_eq_ok]
  refine and_congr_right (fun _ => and_congr_right (fun _ => ?_))
  have hcomplete : ∀ k s, validateCompleteIdentity k value s = .ok () ↔
      value.Complete k s ∧ validateIdentityValues value = .ok () := by
    intro k s
    unfold validateCompleteIdentity
    rw [unit_bind_eq_ok, require_eq_ok]
    rfl
  by_cases hcovered : schema = .v2 ∧ kind = .process
  · rcases hcovered with ⟨rfl, rfl⟩
    simp only [and_self, if_true, forall_const]
    unfold validateCoveredIdentity
    rcases hlink : value.groupLink with _ | link
    · simp
    · rw [unit_bind_eq_ok, checkOpaque_eq_ok]
      simp only [Option.some.injEq, exists_eq_left']
      refine and_congr_right (fun _ => ?_)
      have hannounced : value = .announced link ↔ ∃ link', value = .announced link' := by
        constructor
        · intro h
          exact ⟨link, h⟩
        · rintro ⟨link', rfl⟩
          simp_all [Identity.groupLink]
      rw [← hannounced]
      by_cases hshape : phase.Unidentified ∧ value = .announced link
      · simp [hshape]
      · simp [hshape, hcomplete]
  · rw [if_neg hcovered, if_neg hcovered]
    have hskip : (schema = .v2 → kind = .process →
        ∃ link, value.groupLink = some link ∧ IsOpaque link.cgroupResourceId) ↔ True := by
      simp only [iff_true]
      intro h1 h2
      exact absurd ⟨h1, h2⟩ hcovered
    rw [hskip, true_and]
    by_cases hshape : phase.Unidentified ∧ value = .empty
    · simp [hshape]
    · simp [hshape, hcomplete]

end MirrorGate
