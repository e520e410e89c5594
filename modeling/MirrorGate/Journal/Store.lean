import Mathlib.Logic.Relation
import MirrorGate.Lib.Fallible
import MirrorGate.Lib.Program
import MirrorGate.Journal.Encoding

/-!
# The Journal and Its Operations

A journal is a directory with one file per resource. Its contents are a list
of validated records with distinct resource ids, the names of entries that do
not decode, and the names that were moved aside by a recovery. The operations
are the source's: a claim creates a record, and every other operation reads
the current record, computes its successor and replaces the file.

The outside world decides what the source leaves to the operating system.
`JournalIo` is the part of it the journal needs: whether a directory can be
listed and a file read, how the replacement of a file ends, and the digest
function. A replacement can fail before the file is renamed into place, with
or without a temporary file left behind, or after it.

The pure part of an operation is `updateRecord` or `fixCleanupTarget`; both
give a `Successor` of the current record. Everything an operation does to the
journal is at most one `Step`, and what a longer program does is a chain of
steps, `Evolves`. The parameter of these relations is a condition on every
publication in the journal it is made in, and later modules choose it
according to what they want to know about a run.

## Main definitions

* `Journal`: The contents of a journal directory.
* `JournalIo`, `Exn`, `Py`: The outside world, exceptions and programs.
* `Journal.read`, `Journal.inspect`, `Journal.claimIntent`,
  `Journal.transition`, `Journal.setCleanupTarget`, `Journal.beginCleanup`,
  `Journal.finishCleanup`: The operations.
* `Successor`: What one publication may change.
* `Step`, `Evolves`: One publication, and a chain of them.

## Theorems

* `find?_put`: Looking up after a replacement.
* `updateRecord_successor`, `fixCleanupTarget_successor`: Every computed
  update is a successor.
* `transition_outcome`, `setCleanupTarget_outcome`: Everything an update does.
* `transition_ok`: What a completed update returns.
* `inspect_ok`: A listing without invalid entries is the whole journal.
-/

namespace MirrorGate

open Prog List

/-! ### The journal directory -/

structure Journal where
  records : List Record
  invalid : List String
  quarantined : List String
  distinct : (records.map Record.resourceId).Nodup
  valid : ∀ record ∈ records, record.Valid

namespace Journal

def empty : Journal := ⟨[], [], [], by simp, by simp⟩

/-- The record with a resource id. -/
def find? (journal : Journal) (id : String) : Option Record :=
  journal.records.find? (fun record => record.resourceId = id)

/-- The file name of a record. -/
def fileName (id : String) : String := id ++ ".json"

/-- Replace the record with the same resource id, or add one. -/
def put (journal : Journal) (record : Record) (hvalid : record.Valid) : Journal where
  records :=
    if record.resourceId ∈ journal.records.map Record.resourceId then
      journal.records.map (fun old => if old.resourceId = record.resourceId then record else old)
    else journal.records ++ [record]
  invalid := journal.invalid
  quarantined := journal.quarantined
  distinct := by
    split
    · have hids : (journal.records.map (fun old =>
          if old.resourceId = record.resourceId then record else old)).map Record.resourceId =
          journal.records.map Record.resourceId := by
        rw [List.map_map]
        refine List.map_congr_left (fun old _ => ?_)
        by_cases h : old.resourceId = record.resourceId
        · simp [h]
        · simp [h]
      rw [hids]
      exact journal.distinct
    · next hnew =>
      rw [List.map_append, List.map_singleton]
      exact List.Nodup.append journal.distinct (by simp) (by simpa using hnew)
  valid := by
    intro r hr
    split at hr
    · rcases List.mem_map.mp hr with ⟨old, hold, rfl⟩
      split
      · exact hvalid
      · exact journal.valid old hold
    · rcases List.mem_append.mp hr with hr | hr
      · exact journal.valid r hr
      · rw [List.mem_singleton.mp hr]
        exact hvalid

/-- Add an entry that does not decode. -/
def spoil (journal : Journal) (name : String) : Journal :=
  { journal with invalid := journal.invalid ++ [name] }

/-- Move an entry out of the directory. -/
def setAside (journal : Journal) (name : String) : Journal where
  records := journal.records.filter (fun record => fileName record.resourceId ≠ name)
  invalid := journal.invalid.filter (· ≠ name)
  quarantined := journal.quarantined ++ [name]
  distinct := (List.filter_sublist.map Record.resourceId).nodup journal.distinct
  valid := fun record hrecord => journal.valid record (List.mem_of_mem_filter hrecord)

variable {journal : Journal} {record : Record}

theorem mem_of_find? {id : String}
    (h : journal.find? id = some record) : record ∈ journal.records ∧ record.resourceId = id := by
  refine ⟨mem_of_find?_eq_some h, ?_⟩
  simpa using find?_some h

/-- With distinct ids, membership and lookup are the same. -/
theorem find?_of_mem (h : record ∈ journal.records) :
    journal.find? record.resourceId = some record := by
  have hsome : (journal.find? record.resourceId).isSome = true := by
    unfold find?
    rw [find?_isSome]
    exact ⟨record, h, by simp⟩
  rcases Option.isSome_iff_exists.mp hsome with ⟨found, hfound⟩
  have hmem := mem_of_find? hfound
  rw [hfound, inj_on_of_nodup_map journal.distinct hmem.1 h hmem.2]

theorem valid_of_find? {id : String}
    (h : journal.find? id = some record) : record.Valid :=
  journal.valid record (mem_of_find? h).1

/-- Looking up after a replacement. -/
theorem find?_put (journal : Journal) (record : Record) (hvalid : record.Valid) (id : String) :
    (journal.put record hvalid).find? id =
      if id = record.resourceId then some record else journal.find? id := by
  have hmap : ∀ records : List Record, id ≠ record.resourceId →
      (records.map (fun old => if old.resourceId = record.resourceId then record else old)).find?
        (fun r => r.resourceId = id) = records.find? (fun r => r.resourceId = id) := by
    intro records hne
    induction records with
    | nil => rfl
    | cons r rest ih =>
      rw [map_cons, find?_cons, find?_cons, ih]
      by_cases hr : r.resourceId = record.resourceId
      · simp [hr, Ne.symm hne]
      · simp [hr]
  by_cases hid : id = record.resourceId
  · have hmem : record ∈ (journal.put record hvalid).records := by
      unfold put
      split
      · next hold =>
        rcases mem_map.mp hold with ⟨old, hold, heq⟩
        exact mem_map.mpr ⟨old, hold, by simp [heq]⟩
      · simp
    rw [hid, find?_of_mem hmem, if_pos rfl]
  · rw [if_neg hid]
    unfold find? put
    split
    · exact hmap journal.records hid
    · simp [find?_append, Ne.symm hid]

@[simp] theorem find?_put_self (journal : Journal) (record : Record) (hvalid : record.Valid) :
    (journal.put record hvalid).find? record.resourceId = some record := by
  rw [find?_put, if_pos rfl]

theorem find?_put_of_ne (journal : Journal) (record : Record) (hvalid : record.Valid) {id : String}
    (h : id ≠ record.resourceId) : (journal.put record hvalid).find? id = journal.find? id := by
  rw [find?_put, if_neg h]

@[simp] theorem find?_spoil (journal : Journal) (name id : String) :
    (journal.spoil name).find? id = journal.find? id := rfl

/-- What is still there after an entry was moved away was there before. -/
theorem find?_setAside {name id : String}
    (h : (journal.setAside name).find? id = some record) : journal.find? id = some record := by
  rcases mem_of_find? h with ⟨hmem, rfl⟩
  exact find?_of_mem (mem_of_mem_filter hmem)

end Journal

/-! ### Programs -/

/-- An error of the operating system. A missing file is told apart. -/
inductive OsError where
  | notFound
  | other (message : String)
deriving DecidableEq, Repr

/-- The exceptions of the source. A journal error is an admission error, and
    a missing file an operating system error; handlers say which they catch.
    `fault` is what the caller's fault hook raises at a cut point. -/
inductive Exn where
  | os (error : OsError)
  | journal (message : String)
  | admission (message : String)
  | unicode
  | fault (point : String)
deriving DecidableEq, Repr

/-- The state a program runs in. -/
structure Machine (W : Type) where
  journal : Journal
  world : W

abbrev Py (W α : Type) : Type := Prog Exn (Machine W) α

section Programs

variable {W α : Type}

/-- A call to the outside world. -/
def perform (f : W → Except OsError α × W) : Py W α := ⟨fun s =>
  match f s.world with
  | (.ok a, w) => (.ok a, { s with world := w })
  | (.error e, w) => (.error (.os e), { s with world := w })⟩

@[simp] theorem perform_journal (f : W → Except OsError α × W) (s : Machine W) :
    ((perform f).run s).2.journal = s.journal := by
  unfold perform
  dsimp only
  split <;> rfl

/-- The journal is the same before and after. -/
def SameJournal (s t : Machine W) : Prop := t.journal = s.journal

instance : Std.Refl (SameJournal : Machine W → Machine W → Prop) := ⟨fun _ => rfl⟩

instance : IsTrans (Machine W) SameJournal := ⟨fun _ _ _ h1 h2 => h2.trans h1⟩

theorem perform_same (f : W → Except OsError α × W) : Moves SameJournal (perform f) :=
  fun s => perform_journal f s

/-- What follows a program that leaves the journal alone can be studied from
    the journal before it, provided a raise there is covered. -/
theorem bind_same {β : Type} {m : Py W α} {f : α → Py W β} {s : Machine W}
    {P : Except Exn β × Machine W → Prop} (hm : Moves SameJournal m)
    (herror : ∀ e t, t.journal = s.journal → P (.error e, t))
    (hok : ∀ a t, m.run s = (.ok a, t) → t.journal = s.journal → P ((f a).run t)) :
    P ((m >>= f).run s) := by
  rcases hrun : m.run s with ⟨e | a, t⟩
  · rw [bind_run_error hrun]
    exact herror e t (hm.of_run hrun)
  · rw [bind_run_ok hrun]
    exact hok a t hrun (hm.of_run hrun)

theorem perform_eq_ok {f : W → Except OsError α × W} {s t : Machine W} {a : α} :
    (perform f).run s = (.ok a, t) ↔ f s.world = (.ok a, t.world) ∧ t.journal = s.journal := by
  unfold perform
  dsimp only
  rcases hf : f s.world with ⟨e | b, w⟩
  · simp
  · constructor
    · intro h
      cases h
      exact ⟨rfl, rfl⟩
    · rintro ⟨hb, hj⟩
      cases hb
      rcases t with ⟨journal, world⟩
      simp_all

/-- A check of the journal; its message becomes a journal error. -/
def journalCheck (x : Except String α) : Py W α := Prog.ofExcept (x.mapError .journal)

@[simp] theorem journalCheck_run (x : Except String α) (s : Machine W) :
    (journalCheck x : Py W α).run s = (x.mapError .journal, s) := rfl

theorem journalCheck_same (x : Except String α) :
    Moves SameJournal (journalCheck x : Py W α) :=
  fun _ => rfl

theorem journalCheck_eq_ok {x : Except String α} {s t : Machine W} {a : α} :
    (journalCheck x : Py W α).run s = (.ok a, t) ↔ x = .ok a ∧ s = t := by
  cases x <;> simp [Except.mapError]

end Programs

/-! ### The operations -/

/-- How the replacement of a record file ends. -/
inductive PublishOutcome where
  | committed
  | failed (error : Exn) (leftover : Option String)
  | failedAfterRename (error : Exn)

/-- What the journal asks of the outside world. -/
structure JournalIo (W : Type) where
  sha256 : List Char → Hex64
  scandir : W → Except OsError Unit × W
  readFile : String → W → Except OsError Unit × W
  publish : W → PublishOutcome × W
  moveAside : String → W → Except OsError Bool × W

/-- An outside world in which every call succeeds, with a fixed digest. -/
def JournalIo.obliging (digest : Hex64) : JournalIo Unit where
  sha256 _ := digest
  scandir w := (.ok (), w)
  readFile _ w := (.ok (), w)
  publish w := (.committed, w)
  moveAside _ w := (.ok true, w)

/-- The digest of sixty-four zeros. -/
def zeroDigest : Hex64 where
  text := "0000000000000000000000000000000000000000000000000000000000000000"
  length_eq := by decide
  digits := by decide

/-- Who holds the lease on a state root. -/
structure Lease where
  controllerInstance : String
  bootId : String
  principalUid : Nat
  stateRoot : RootIdentity
deriving DecidableEq

/-- The lease of some controller. -/
def someLease : Lease where
  controllerInstance := "00112233445566778899aabbccddeeff"
  bootId := "6fd17b2e-6f2c-4a5c-9e0c-0f6d3a1b2c3d"
  principalUid := 1000
  stateRoot := ⟨1, 2, 1000⟩

/-- The largest number of entries of a journal. -/
def maxRecords : Nat := 4096

/-- What `inspect` found: the records in the order of their file names, and
    the names that do not decode. -/
structure Snapshot where
  records : List Record
  invalid : List String

/-- The optional arguments of a transition. -/
structure Change where
  identity : Option Identity := none
  retainedRecoverable : Option Bool := none
  observation : Option Observation := none
  cleanupTarget : Option String := none
  cleanupEvidence : Option Evidence := none

/-- A transition that only adds an observation. -/
def Change.note (attemptId : String) (status : ObservationStatus) (reasonCode : Option String) :
    Change :=
  { observation := some ⟨attemptId, status, reasonCode⟩ }

/-- Every key of the old identity has the same value in the new one. -/
def Identity.Keeps (old new : Identity) : Prop := ∀ key ∈ old.keys, new.get key = old.get key

instance (old new : Identity) : Decidable (old.Keeps new) :=
  inferInstanceAs (Decidable (∀ key ∈ _, _))

/-- The cleanup target after an update that may name one. -/
def newCleanupTarget (current : Record) : Option String → Except String (Option RelativePath)
  | none => .ok current.cleanupTarget
  | some target => do
    let path ← checkedRelativePath target
    .ok (some path)

/-- The record a transition publishes. Evidence may be added without a change
    of phase while cleanup is under way. -/
def updateRecord (current : Record) (phase : Phase) (change : Change) : Except String Record := do
  require (phase ∈ transitions current.phase ∨
      (phase = current.phase ∧ phase = .cleanupIntent ∧ change.cleanupEvidence ≠ none))
    "invalid journal transition"
  require (change.cleanupEvidence ≠ none →
      current.schema = .v2 ∧ current.kind = .cgroup ∧
        (phase = .cleanupIntent ∨ phase = .reclaimed))
    "cleanup evidence requires v2 cgroup cleanup"
  require (current.schema = .v2 → ∀ identity ∈ change.identity, current.identity.Keeps identity)
    "v2 ownership identity is immutable"
  let target ← newCleanupTarget current change.cleanupTarget
  .ok
    { current with
      sequence := current.sequence + 1
      phase := phase
      cleanupEvidence := change.cleanupEvidence.or current.cleanupEvidence
      identity := change.identity.getD current.identity
      retainedRecoverable := change.retainedRecoverable.getD current.retainedRecoverable
      observations := current.observations ++ change.observation.toList
      cleanupTarget := target }

/-- The record `setCleanupTarget` publishes. -/
def fixCleanupTarget (current : Record) (target : String) : Except String Record := do
  require (current.phase = .cleanupIntent ∧ current.cleanupTarget = none)
    "cleanup target can only be fixed once during cleanup intent"
  let path ← checkedRelativePath target
  .ok { current with sequence := current.sequence + 1, cleanupTarget := some path }

namespace Journal

variable {W : Type}

section Operations

variable (io : JournalIo W)

/-- The structural bounds on a file that is read. -/
def decodeRecord (record : Record) : Except String Record := do
  let _ ← boundedJson 0 0 (record.checksummed io.sha256)
  .ok record

def read (id : String) : Py W Record := do
  journalCheck (checkOpaque id "resource ID")
  let found ← Prog.gets (fun s => s.journal.find? id)
  Prog.handle (perform (io.readFile (fileName id))) (fun e =>
    match e with
    | .os _ => some (Prog.raise (.journal "journal record is unavailable"))
    | _ => none)
  match found with
  | none => Prog.raise (.journal "journal record is unavailable")
  | some record => journalCheck (decodeRecord io record)

/-- An entry of the directory: a record, or a name that does not decode. -/
inductive Entry where
  | decodes (record : Record)
  | malformed (name : String)

def Entry.name : Entry → String
  | .decodes record => fileName record.resourceId
  | .malformed name => name

def entries (journal : Journal) : List Entry :=
  (journal.records.map Entry.decodes ++ journal.invalid.map Entry.malformed).insertionSort
    (fun a b => a.name ≤ b.name)

/-- Decode one entry; failure is data here, not an exception. -/
def inspectEntry : Entry → Py W (Except String Record)
  | .malformed name => pure (.error name)
  | .decodes record =>
    Prog.handle
      (do
        perform (io.readFile (fileName record.resourceId))
        let decoded ← journalCheck (decodeRecord io record)
        pure (.ok decoded))
      (fun e =>
        match e with
        | .os _ | .journal _ => some (pure (.error (fileName record.resourceId)))
        | _ => none)

def inspect : Py W Snapshot := do
  perform io.scandir
  let entries ← Prog.gets (fun s => s.journal.entries)
  if entries.length > maxRecords then
    Prog.raise (.journal "journal record count exceeds limit")
  else do
    let decoded ← Prog.mapList (inspectEntry io) entries
    pure
      { records := decoded.filterMap (fun d => d.toOption)
        invalid := decoded.filterMap (fun d =>
          match d with
          | .ok _ => none
          | .error name => some name) }

/-- Move one malformed entry aside. A missing one is skipped. -/
def quarantineEntry (name : String) : Py W Unit := do
  let moved ← Prog.handle (perform (io.moveAside name)) (fun e =>
    match e with
    | .os .notFound => some (pure false)
    | _ => none)
  if moved then Prog.update (fun s => { s with journal := s.journal.setAside name }) else pure ()

def quarantineInvalid (invalid : List String) : Py W Unit := do
  let _ ← Prog.mapList (quarantineEntry io) invalid
  pure ()

/-- Write a record. The journal changes only if the new file is renamed into
    place; a failure before that can leave a temporary file. -/
def publish (payload : Record) (create : Bool) : Py W Unit := ⟨fun s =>
  match h : encodeRecord io.sha256 payload with
  | .error message => (.error (.journal message), s)
  | .ok _ =>
    if create && (s.journal.find? payload.resourceId).isSome then
      (.error (.journal "duplicate resource ID"), s)
    else
      match io.publish s.world with
      | (.committed, w) =>
        (.ok (), ⟨s.journal.put payload ((encodeRecord_eq_ok io.sha256).mp h).1, w⟩)
      | (.failed e none, w) => (.error e, ⟨s.journal, w⟩)
      | (.failed e (some name), w) => (.error e, ⟨s.journal.spoil name, w⟩)
      | (.failedAfterRename e, w) =>
        (.error e, ⟨s.journal.put payload ((encodeRecord_eq_ok io.sha256).mp h).1, w⟩)⟩

/-- The record a claim publishes. -/
def claimRecord (lease : Lease) (sessionId resourceId : String) (kind : Kind) (stage : String)
    (retainedRecoverable : Bool) (schema : Schema) (identity : Option Identity) : Record where
  schema := schema
  sequence := 1
  controllerInstance := lease.controllerInstance
  bootId := lease.bootId
  principalUid := lease.principalUid
  sessionId := sessionId
  resourceId := resourceId
  kind := kind
  phase := .allocationIntent
  stage := stage
  identity := identity.getD .empty
  retainedRecoverable := retainedRecoverable
  observations := []
  stateRoot := lease.stateRoot
  cleanupTarget := none
  cleanupEvidence := none

/-- The checks before a claim: well-formed names, no invalid entry, room for
    one more record, and no record under this id. -/
def checkClaim (sessionId resourceId stage : String) : Py W Unit := do
  journalCheck (checkOpaque sessionId "session ID")
  journalCheck (checkOpaque resourceId "resource ID")
  journalCheck (checkOpaque stage "stage")
  let snapshot ← inspect io
  journalCheck (require (snapshot.invalid = []) "invalid journal record blocks allocation")
  journalCheck (require (snapshot.records.length < maxRecords)
    "journal record count exceeds limit")
  let existing ← Prog.gets (fun s => s.journal.find? resourceId)
  journalCheck (require (existing = none) "duplicate resource ID")

def claimIntent (lease : Lease) (sessionId resourceId : String) (kind : Kind) (stage : String)
    (retainedRecoverable : Bool) (schema : Schema) (identity : Option Identity) :
    Py W Record := do
  checkClaim io sessionId resourceId stage
  publish io (claimRecord lease sessionId resourceId kind stage retainedRecoverable schema identity)
    true
  read io resourceId

/-- Publish what `update` makes of the current record, and read it back. -/
def replace (id : String) (update : Record → Except String Record) : Py W Record := do
  let current ← read io id
  let updated ← journalCheck (update current)
  publish io updated false
  read io id

def transition (id : String) (phase : Phase) (change : Change) : Py W Record :=
  replace io id (fun current => updateRecord current phase change)

def setCleanupTarget (id : String) (target : String) : Py W Record :=
  replace io id (fun current => fixCleanupTarget current target)

def beginCleanup (id : String) : Py W Record := do
  let current ← read io id
  if current.phase = .cleanupIntent ∨ current.phase.Terminal then pure current
  else if Phase.cleanupIntent ∉ transitions current.phase then
    Prog.raise (.journal "resource cannot enter cleanup")
  else transition io id .cleanupIntent {}

/-- The phase in which a cleanup ends. -/
def finishedPhase (complete : Bool) : Phase := if complete then .reclaimed else .cleanupFailed

def finishCleanup (id : String) (complete : Bool) : Py W Record := do
  let current ← read io id
  if current.phase.Terminal then pure current
  else if current.phase = finishedPhase complete then pure current
  else if current.phase ≠ .cleanupIntent then
    Prog.raise (.journal "cleanup result lacks durable intent")
  else transition io id (finishedPhase complete) {}

end Operations

end Journal

/-! ### What an update may change -/

/-- The relation between a record and any later one of the same resource. -/
structure Precedes (old new : Record) : Prop where
  observations : old.observations <+: new.observations
  nonterminal : ¬ old.phase.Terminal
  schema : new.schema = old.schema
  controllerInstance : new.controllerInstance = old.controllerInstance
  bootId : new.bootId = old.bootId
  principalUid : new.principalUid = old.principalUid
  sessionId : new.sessionId = old.sessionId
  resourceId : new.resourceId = old.resourceId
  kind : new.kind = old.kind
  stateRoot : new.stateRoot = old.stateRoot
  identity : old.schema = .v2 → ∀ key value, old.identity.get key = some value →
    new.identity.get key = some value

/-- The relation between a record and the one published right after it. -/
structure Successor (old new : Record) : Prop extends Precedes old new where
  sequence : new.sequence = old.sequence + 1

variable {current updated : Record}

/-- The fields of an updated record, and the checks it passed. -/
theorem updateRecord_eq_ok {phase : Phase} {change : Change} :
    updateRecord current phase change = .ok updated ↔
      (phase ∈ transitions current.phase ∨
        (phase = current.phase ∧ phase = .cleanupIntent ∧ change.cleanupEvidence ≠ none)) ∧
      (change.cleanupEvidence ≠ none →
        current.schema = .v2 ∧ current.kind = .cgroup ∧
          (phase = .cleanupIntent ∨ phase = .reclaimed)) ∧
      (current.schema = .v2 → ∀ identity ∈ change.identity, current.identity.Keeps identity) ∧
      ∃ target, newCleanupTarget current change.cleanupTarget = .ok target ∧
        updated =
          { current with
            sequence := current.sequence + 1
            phase := phase
            cleanupEvidence := change.cleanupEvidence.or current.cleanupEvidence
            identity := change.identity.getD current.identity
            retainedRecoverable := change.retainedRecoverable.getD current.retainedRecoverable
            observations := current.observations ++ change.observation.toList
            cleanupTarget := target } := by
  unfold updateRecord
  simp only [unit_bind_eq_ok, require_eq_ok]
  simp only [bind_eq_ok, Except.ok.injEq]
  constructor
  · rintro ⟨h1, h2, h3, target, htarget, rfl⟩
    exact ⟨h1, h2, h3, target, htarget, rfl⟩
  · rintro ⟨h1, h2, h3, target, htarget, rfl⟩
    exact ⟨h1, h2, h3, target, htarget, rfl⟩

/-- Every update a transition computes is a successor. -/
theorem updateRecord_successor {phase : Phase} {change : Change}
    (h : updateRecord current phase change = .ok updated) : Successor current updated := by
  rcases updateRecord_eq_ok.mp h with ⟨hphase, -, hkeeps, target, -, rfl⟩
  refine
    { sequence := rfl
      observations := prefix_append _ _
      nonterminal := ?_
      schema := rfl
      controllerInstance := rfl
      bootId := rfl
      principalUid := rfl
      sessionId := rfl
      resourceId := rfl
      kind := rfl
      stateRoot := rfl
      identity := ?_ }
  · intro hterminal
    rcases hphase with hmem | ⟨heq, hintent, -⟩
    · rw [(transitions_eq_nil_iff _).mpr hterminal] at hmem
      simp at hmem
    · rw [← heq, hintent] at hterminal
      exact absurd hterminal (by decide)
  · intro hv2 key value hget
    rcases hchange : change.identity with _ | identity
    · exact hget
    · have hkeep := hkeeps hv2 identity hchange key
        ((Identity.mem_keys _ key).mpr (by rw [hget]; rfl))
      simpa [hkeep] using hget

theorem fixCleanupTarget_eq_ok {target : String} :
    fixCleanupTarget current target = .ok updated ↔
      current.phase = .cleanupIntent ∧ current.cleanupTarget = none ∧
      ∃ path, checkedRelativePath target = .ok path ∧
        updated = { current with
          sequence := current.sequence + 1, cleanupTarget := some path } := by
  unfold fixCleanupTarget
  simp only [unit_bind_eq_ok, require_eq_ok]
  simp only [bind_eq_ok, Except.ok.injEq]
  constructor
  · rintro ⟨⟨h1, h2⟩, path, hpath, rfl⟩
    exact ⟨h1, h2, path, hpath, rfl⟩
  · rintro ⟨h1, h2, path, hpath, rfl⟩
    exact ⟨⟨h1, h2⟩, path, hpath, rfl⟩

/-- Fixing the cleanup target gives a successor. -/
theorem fixCleanupTarget_successor {target : String}
    (h : fixCleanupTarget current target = .ok updated) : Successor current updated := by
  rcases fixCleanupTarget_eq_ok.mp h with ⟨hphase, -, path, -, rfl⟩
  refine
    { sequence := rfl
      observations := prefix_rfl
      nonterminal := ?_
      schema := rfl
      controllerInstance := rfl
      bootId := rfl
      principalUid := rfl
      sessionId := rfl
      resourceId := rfl
      kind := rfl
      stateRoot := rfl
      identity := fun _ _ _ hget => hget }
  rw [hphase]
  decide

/-! ### What an operation does -/

namespace Journal

section Outcomes

variable {W : Type} {io : JournalIo W} {id : String} {s t : Machine W} {record : Record}

theorem decodeRecord_eq_ok {decoded : Record} :
    decodeRecord io record = .ok decoded ↔ record.Bounded io.sha256 ∧ record = decoded := by
  unfold decodeRecord Record.Bounded
  rw [bind_eq_ok]
  simp

/-- Reading leaves the journal alone. -/
theorem read_same (io : JournalIo W) (id : String) : Moves SameJournal (read io id) := by
  unfold read
  refine moves_bind (journalCheck_same _) (fun _ => ?_)
  refine moves_bind (moves_gets _) (fun found => ?_)
  refine moves_bind (moves_handle (perform_same _) ?_) (fun _ => ?_)
  · intro e k hk
    cases e
    all_goals simp only [reduceCtorEq, Option.some.injEq] at hk
    rw [← hk]
    exact moves_raise _
  · rcases found with _ | record
    · exact moves_raise _
    · exact journalCheck_same _

/-- A completed read returns the record that is there. -/
theorem read_ok (h : (read io id).run s = (.ok record, t)) :
    s.journal.find? id = some record ∧ t.journal = s.journal ∧ record.Bounded io.sha256 := by
  have hjournal : t.journal = s.journal := (read_same io id).of_run h
  unfold read at h
  rcases bind_eq_ok_iff.mp h with ⟨_, _, h1, h⟩
  rcases journalCheck_eq_ok.mp h1 with ⟨-, rfl⟩
  rcases bind_eq_ok_iff.mp h with ⟨found, _, h2, h⟩
  rcases gets_eq_ok_iff.mp h2 with ⟨rfl, rfl⟩
  rcases bind_eq_ok_iff.mp h with ⟨_, u, -, h⟩
  rcases hfound : s.journal.find? id with _ | current
  · rw [hfound] at h
    simp at h
  · rw [hfound] at h
    rcases journalCheck_eq_ok.mp h with ⟨hdecode, -⟩
    rcases decodeRecord_eq_ok.mp hdecode with ⟨hbounded, rfl⟩
    exact ⟨rfl, hjournal, hbounded⟩

/-- Everything `publish` can do to the journal. -/
theorem publish_cases (io : JournalIo W) (payload : Record) (create : Bool) (s : Machine W) :
    (∃ e, ((publish io payload create).run s).1 = .error e ∧
      ((publish io payload create).run s).2.journal = s.journal) ∨
    (∃ e name, ((publish io payload create).run s).1 = .error e ∧
      ((publish io payload create).run s).2.journal = s.journal.spoil name) ∨
    ∃ hvalid : payload.Valid,
      (create = true → s.journal.find? payload.resourceId = none) ∧
      ((publish io payload create).run s).2.journal = s.journal.put payload hvalid := by
  unfold publish
  dsimp only
  split
  · exact Or.inl ⟨_, rfl, rfl⟩
  · next h =>
    split
    · exact Or.inl ⟨_, rfl, rfl⟩
    · next hnew =>
      have hfree : create = true → s.journal.find? payload.resourceId = none := by
        intro hcreate
        simpa [hcreate] using hnew
      split
      · exact Or.inr (Or.inr ⟨((encodeRecord_eq_ok io.sha256).mp h).1, hfree, rfl⟩)
      · exact Or.inl ⟨_, rfl, rfl⟩
      · exact Or.inr (Or.inl ⟨_, _, rfl, rfl⟩)
      · exact Or.inr (Or.inr ⟨((encodeRecord_eq_ok io.sha256).mp h).1, hfree, rfl⟩)

/-- The three ways an update ends: refused with the journal as it was, refused
    with a leftover file, or written. A written update may still be followed
    by an exception, when a later step of the publication or the read-back
    fails. -/
inductive Outcome (id : String) (update : Record → Except String Record) (s : Machine W) :
    Except Exn Record × Machine W → Prop where
  | untouched {e : Exn} {t : Machine W} (hjournal : t.journal = s.journal) :
    Outcome id update s (.error e, t)
  | spoiled {e : Exn} {t : Machine W} (name : String) (hjournal : t.journal = s.journal.spoil name) :
    Outcome id update s (.error e, t)
  | written {out : Except Exn Record} {t : Machine W} (current updated : Record)
    (hvalid : updated.Valid) (hcurrent : s.journal.find? id = some current)
    (hupdate : update current = .ok updated)
    (hjournal : t.journal = s.journal.put updated hvalid)
    (hout : out = .ok updated ∨ ∃ e, out = .error e) : Outcome id update s (out, t)

/-- Everything `replace` does. -/
theorem replace_outcome (io : JournalIo W) (id : String) (update : Record → Except String Record)
    (hsame : ∀ current updated, update current = .ok updated →
      updated.resourceId = current.resourceId) (s : Machine W) :
    Outcome id update s ((replace io id update).run s) := by
  unfold replace
  rcases hread : (read io id).run s with ⟨e | current, t1⟩
  · rw [bind_run_error hread]
    exact .untouched ((read_same io id).of_run hread)
  rw [bind_run_ok hread]
  rcases read_ok hread with ⟨hcurrent, hj1, -⟩
  rcases hupdate : update current with message | updated
  · exact .untouched hj1
  have hcheck : (journalCheck (update current) : Py W Record).run t1 = (.ok updated, t1) := by
    rw [hupdate]
    rfl
  rw [bind_run_ok (by rw [← hupdate]; exact hcheck)]
  have hid : updated.resourceId = id := by
    rw [hsame current updated hupdate]
    exact (mem_of_find? hcurrent).2
  rcases hpublish : (publish io updated false).run t1 with ⟨out, t2⟩
  have hcases := publish_cases io updated false t1
  rw [hpublish] at hcases
  rcases hcases with ⟨e, hout, hj2⟩ | ⟨e, name, hout, hj2⟩ | ⟨hvalid, -, hj2⟩
  · simp only at hout hj2
    subst hout
    rw [bind_run_error hpublish]
    exact .untouched (hj2.trans hj1)
  · simp only at hout hj2
    subst hout
    rw [bind_run_error hpublish]
    exact .spoiled name (by rw [hj2, hj1])
  · simp only at hj2
    have hput : t2.journal = s.journal.put updated hvalid := by rw [hj2, hj1]
    rcases out with e | _
    · rw [bind_run_error hpublish]
      exact .written current updated hvalid hcurrent hupdate hput (Or.inr ⟨e, rfl⟩)
    · rw [bind_run_ok hpublish]
      rcases hback : (read io id).run t2 with ⟨e | found, t3⟩
      · have hj3 : t3.journal = t2.journal := (read_same io id).of_run hback
        exact .written current updated hvalid hcurrent hupdate (hj3.trans hput) (Or.inr ⟨e, rfl⟩)
      · rcases read_ok hback with ⟨hfound, hj3, -⟩
        rw [hput, ← hid, find?_put_self, Option.some.injEq] at hfound
        exact .written current updated hvalid hcurrent hupdate (hj3.trans hput)
          (Or.inl (by rw [hfound]))

theorem transition_outcome (io : JournalIo W) (id : String) (phase : Phase) (change : Change)
    (s : Machine W) :
    Outcome id (fun current => updateRecord current phase change) s
      ((transition io id phase change).run s) :=
  replace_outcome io id _ (fun _ _ h => (updateRecord_successor h).resourceId) s

theorem setCleanupTarget_outcome (io : JournalIo W) (id target : String) (s : Machine W) :
    Outcome id (fun current => fixCleanupTarget current target) s
      ((setCleanupTarget io id target).run s) :=
  replace_outcome io id _ (fun _ _ h => (fixCleanupTarget_successor h).resourceId) s

/-- A completed update was written and returns what was written. -/
theorem Outcome.ok {update : Record → Except String Record}
    (h : Outcome id update s (.ok record, t)) :
    ∃ (current : Record) (hvalid : record.Valid), s.journal.find? id = some current ∧
      update current = .ok record ∧ t.journal = s.journal.put record hvalid := by
  cases h with
  | written current updated hvalid hcurrent hupdate hjournal hout =>
    rcases hout with hout | ⟨e, hout⟩
    · cases hout
      exact ⟨current, hvalid, hcurrent, hupdate, hjournal⟩
    · cases hout

theorem transition_ok {phase : Phase} {change : Change}
    (h : (transition io id phase change).run s = (.ok record, t)) :
    ∃ (current : Record) (hvalid : record.Valid), s.journal.find? id = some current ∧
      updateRecord current phase change = .ok record ∧
      t.journal = s.journal.put record hvalid := by
  have hout := transition_outcome io id phase change s
  rw [h] at hout
  exact hout.ok

theorem setCleanupTarget_ok {target : String}
    (h : (setCleanupTarget io id target).run s = (.ok record, t)) :
    ∃ (current : Record) (hvalid : record.Valid), s.journal.find? id = some current ∧
      fixCleanupTarget current target = .ok record ∧
      t.journal = s.journal.put record hvalid := by
  have hout := setCleanupTarget_outcome io id target s
  rw [h] at hout
  exact hout.ok

/-! ### Listing -/

def Entry.record? : Entry → Option Record
  | .decodes record => some record
  | .malformed _ => none

/-- Listing leaves the journal alone. -/
theorem inspect_same (io : JournalIo W) : Moves SameJournal (inspect io) := by
  have hentry : ∀ entry, Moves SameJournal (inspectEntry io entry) := by
    intro entry
    rcases entry with record | name
    · refine moves_handle ?_ ?_
      · refine moves_bind (perform_same _) (fun _ => ?_)
        exact moves_bind (journalCheck_same _) (fun _ => moves_pure _)
      · intro e k hk
        cases e
        all_goals simp only [reduceCtorEq, Option.some.injEq] at hk
        all_goals
          rw [← hk]
          exact moves_pure _
    · exact moves_pure _
  unfold inspect
  refine moves_bind (perform_same _) (fun _ => moves_bind (moves_gets _) ?_)
  intro es
  split
  · exact moves_raise _
  · exact moves_bind (moves_mapList _ (fun entry _ => hentry entry))
      (fun _ => moves_pure _)

theorem checkClaim_same (io : JournalIo W) (sessionId resourceId stage : String) :
    Moves SameJournal (checkClaim io sessionId resourceId stage) := by
  unfold checkClaim
  refine moves_bind (journalCheck_same _) (fun _ => ?_)
  refine moves_bind (journalCheck_same _) (fun _ => ?_)
  refine moves_bind (journalCheck_same _) (fun _ => ?_)
  refine moves_bind (inspect_same io) (fun _ => ?_)
  refine moves_bind (journalCheck_same _) (fun _ => ?_)
  refine moves_bind (journalCheck_same _) (fun _ => ?_)
  exact moves_bind (moves_gets _) (fun _ => journalCheck_same _)

/-- Decoding an entry leaves the journal alone, and gives the record of the
    entry if it gives one. -/
theorem inspectEntry_ok {entry : Entry} {decoded : Except String Record}
    (h : (inspectEntry io entry).run s = (.ok decoded, t)) :
    t.journal = s.journal ∧
      ∀ record, decoded = .ok record →
        entry.record? = some record ∧ record.Bounded io.sha256 := by
  rcases entry with record | name
  · rcases handle_eq_ok_iff.mp h with h | ⟨e, u, k, h, hk, hrun⟩
    · rcases bind_eq_ok_iff.mp h with ⟨_, u, hread, h⟩
      rcases bind_eq_ok_iff.mp h with ⟨found, v, hdecode, h⟩
      rcases pure_eq_ok_iff.mp h with ⟨rfl, rfl⟩
      rcases journalCheck_eq_ok.mp hdecode with ⟨hfound, rfl⟩
      rcases decodeRecord_eq_ok.mp hfound with ⟨hbounded, rfl⟩
      refine ⟨(perform_eq_ok.mp hread).2, ?_⟩
      intro record' hrecord'
      cases hrecord'
      exact ⟨rfl, hbounded⟩
    · -- The clauses for a failed read return the name.
      have hu : u.journal = s.journal := by
        rcases hread : (perform (io.readFile (fileName record.resourceId))).run s with ⟨e' | _, v⟩
        · rw [bind_run_error hread] at h
          cases h
          have := perform_journal (io.readFile (fileName record.resourceId)) s
          rw [hread] at this
          exact this
        · rw [bind_run_ok hread] at h
          have hv := (perform_eq_ok.mp hread).2
          rcases hdecode : decodeRecord io record with message | found
          · rw [hdecode] at h
            cases h
            exact hv
          · rw [hdecode] at h
            cases h
      have hresult : decoded = .error (fileName record.resourceId) ∧ t = u := by
        cases e
        all_goals simp only [reduceCtorEq, Option.some.injEq] at hk
        all_goals
          rw [← hk] at hrun
          rcases pure_eq_ok_iff.mp hrun with ⟨rfl, rfl⟩
          exact ⟨rfl, rfl⟩
      rcases hresult with ⟨rfl, rfl⟩
      exact ⟨hu, fun _ hrecord => by cases hrecord⟩
  · rcases pure_eq_ok_iff.mp h with ⟨rfl, rfl⟩
    exact ⟨rfl, fun _ hrecord => by cases hrecord⟩

/-- If no entry failed to decode, the decoded records are those of the
    entries, in order. -/
theorem inspectEntries_ok (es : List Entry) {ds : List (Except String Record)} {s t : Machine W}
    (h : (Prog.mapList (inspectEntry io) es).run s = (.ok ds, t)) :
    t.journal = s.journal ∧
      ((∀ d ∈ ds, ∃ record, d = .ok record) →
        es = (ds.filterMap (fun d => d.toOption)).map Entry.decodes ∧
        ∀ record ∈ ds.filterMap (fun d => d.toOption), record.Bounded io.sha256) := by
  induction es generalizing s ds with
  | nil =>
    rcases pure_eq_ok_iff.mp h with ⟨rfl, rfl⟩
    exact ⟨rfl, fun _ => ⟨rfl, by simp⟩⟩
  | cons entry es ih =>
    rcases mapList_cons_eq_ok h with ⟨d, ds', u, hentry, hrest, rfl⟩
    rcases inspectEntry_ok hentry with ⟨hu, hdecoded⟩
    rcases ih hrest with ⟨ht, htail⟩
    refine ⟨ht.trans hu, fun hall => ?_⟩
    rcases hall d (by simp) with ⟨record, rfl⟩
    rcases hdecoded record rfl with ⟨hrecord, hbounded⟩
    rcases htail (fun d hd => hall d (by simp [hd])) with ⟨hes, hbounds⟩
    rcases entry with record' | name
    · cases hrecord
      refine ⟨?_, ?_⟩
      · rw [filterMap_cons, Except.toOption, map_cons, ← hes]
      · rw [filterMap_cons, Except.toOption]
        exact forall_mem_cons.mpr ⟨hbounded, hbounds⟩
    · cases hrecord

/-- A listing without invalid entries is the whole journal. -/
theorem inspect_ok {snapshot : Snapshot} (h : (inspect io).run s = (.ok snapshot, t)) :
    t.journal = s.journal ∧
      (snapshot.invalid = [] →
        snapshot.records.Perm s.journal.records ∧ s.journal.invalid = [] ∧
        (∀ record ∈ snapshot.records, record.Bounded io.sha256) ∧
        snapshot.records.length ≤ maxRecords) := by
  unfold inspect at h
  rcases bind_eq_ok_iff.mp h with ⟨_, u, hscan, h⟩
  have hu := (perform_eq_ok.mp hscan).2
  rcases bind_eq_ok_iff.mp h with ⟨es, _, hes, h⟩
  rcases gets_eq_ok_iff.mp hes with ⟨rfl, rfl⟩
  split at h
  · simp at h
  · next hcount =>
    rcases bind_eq_ok_iff.mp h with ⟨ds, v, hds, h⟩
    rcases pure_eq_ok_iff.mp h with ⟨rfl, rfl⟩
    rcases inspectEntries_ok _ hds with ⟨hv, hall⟩
    refine ⟨hv.trans hu, fun hinvalid => ?_⟩
    have hok : ∀ d ∈ ds, ∃ record, d = .ok record := by
      intro d hd
      rcases d with name | record
      · have : name ∈ ([] : List String) := by
          rw [← hinvalid]
          exact mem_filterMap.mpr ⟨_, hd, rfl⟩
        simp at this
      · exact ⟨record, rfl⟩
    rcases hall hok with ⟨hes, hbounds⟩
    have hperm := perm_insertionSort (fun a b : Entry => a.name ≤ b.name)
      (u.journal.records.map Entry.decodes ++ u.journal.invalid.map Entry.malformed)
    have hsplit : (ds.filterMap (fun d => d.toOption)).map Entry.decodes =
        u.journal.entries := hes.symm
    -- Every entry decodes, so none of them is a malformed name.
    have hnone : u.journal.invalid = [] := by
      rcases hi : u.journal.invalid with _ | ⟨name, rest⟩
      · rfl
      · have hmem : Entry.malformed name ∈ u.journal.entries :=
          hperm.mem_iff.mpr (by simp [hi])
        rw [← hsplit] at hmem
        simp at hmem
    refine ⟨?_, by rw [← hu]; exact hnone, hbounds, ?_⟩
    · rw [hnone, map_nil, append_nil] at hperm
      have hrecords := hperm.filterMap Entry.record?
      have hdecodes : ∀ rs : List Record, (rs.map Entry.decodes).filterMap Entry.record? = rs := by
        intro rs
        rw [filterMap_map]
        exact filterMap_some
      rw [hdecodes] at hrecords
      have hentries : u.journal.entries.filterMap Entry.record? =
          ds.filterMap (fun d => d.toOption) := by
        rw [← hsplit, hdecodes]
      unfold entries at hentries
      rw [hnone, map_nil, append_nil] at hentries
      rw [hentries, hu] at hrecords
      exact hrecords
    · have hlength : u.journal.entries.length ≤ maxRecords := Nat.le_of_not_lt hcount
      rw [← hsplit, length_map] at hlength
      exact hlength

end Outcomes

end Journal

/-! ### Chains of publications -/

/-- One change of a journal: a publication that satisfies `Q` in the journal
    it is made in, or a leftover file. -/
inductive Step (Q : Journal → Record → Record → Prop) : Journal → Journal → Prop where
  | publish (journal : Journal) (old new : Record) (hvalid : new.Valid)
    (hold : journal.find? old.resourceId = some old) (hsuccessor : Successor old new)
    (hq : Q journal old new) : Step Q journal (journal.put new hvalid)
  | spoil (journal : Journal) (name : String) : Step Q journal (journal.spoil name)

/-- A chain of changes. -/
def Evolves (Q : Journal → Record → Record → Prop) : Journal → Journal → Prop :=
  Relation.ReflTransGen (Step Q)

namespace Evolves

variable {Q Q' : Journal → Record → Record → Prop} {j k l : Journal}

theorem refl (j : Journal) : Evolves Q j j := Relation.ReflTransGen.refl

theorem trans (h1 : Evolves Q j k) (h2 : Evolves Q k l) : Evolves Q j l :=
  Relation.ReflTransGen.trans h1 h2

theorem of_eq (h : k = j) : Evolves Q j k := h ▸ refl k

theorem single (h : Step Q j k) : Evolves Q j k := Relation.ReflTransGen.single h

theorem mono (hq : ∀ j old new, Q j old new → Q' j old new) (h : Evolves Q j k) :
    Evolves Q' j k := by
  induction h with
  | refl => exact refl j
  | @tail a b _ hstep ih =>
    refine ih.trans (single ?_)
    cases hstep with
    | publish old new hvalid hold hsuccessor hpub =>
      exact .publish a old new hvalid hold hsuccessor (hq _ _ _ hpub)
    | spoil name => exact .spoil a name

/-- A record is never lost, and every relation that publications respect holds
    between a record and what becomes of it. -/
theorem find?_of {S : Record → Record → Prop} (hrefl : ∀ r, S r r)
    (hstep : ∀ l old new record, Q l old new → Successor old new → S record old → S record new)
    (h : Evolves Q j k) {id : String} {record : Record} (hrecord : j.find? id = some record) :
    ∃ current, k.find? id = some current ∧ S record current := by
  induction h with
  | refl => exact ⟨record, hrecord, hrefl record⟩
  | tail _ hlast ih =>
    rcases ih with ⟨current, hcurrent, hs⟩
    cases hlast with
    | publish old new hvalid hold hsuccessor hq =>
      by_cases hid : id = new.resourceId
      · -- The publication starts from what the record had become.
        have hsame : current = old := by
          rw [hid, hsuccessor.resourceId, hold, Option.some.injEq] at hcurrent
          exact hcurrent.symm
        rw [hsame] at hs
        exact ⟨new, by rw [hid, Journal.find?_put_self], hstep _ old new record hq hsuccessor hs⟩
      · exact ⟨current, by rw [Journal.find?_put_of_ne _ _ _ hid]; exact hcurrent, hs⟩
    | spoil name => exact ⟨current, hcurrent, hs⟩

/-- No record appears out of nothing. -/
theorem find?_before (h : Evolves Q j k) {id : String} {new : Record}
    (hnew : k.find? id = some new) : ∃ old, j.find? id = some old := by
  induction h generalizing new with
  | refl => exact ⟨new, hnew⟩
  | tail _ hlast ih =>
    cases hlast with
    | publish old' new' hvalid hold hsuccessor hq =>
      by_cases hid : id = new'.resourceId
      · rw [hid, hsuccessor.resourceId]
        rw [hid, hsuccessor.resourceId] at ih
        exact ih hold
      · rw [Journal.find?_put_of_ne _ _ _ hid] at hnew
        exact ih hnew
    | spoil name => exact ih hnew

/-- A settled record stays as it is. -/
theorem terminal (h : Evolves Q j k) {id : String} {old : Record}
    (hold : j.find? id = some old) (hterminal : old.phase.Terminal) : k.find? id = some old := by
  have hstays : ∃ current, k.find? id = some current ∧
      (old.phase.Terminal → current = old) := by
    refine find?_of (S := fun r r' => r.phase.Terminal → r' = r) (fun _ _ => rfl) ?_ h hold
    intro l old' new record _ hsuccessor hsame hrecord
    -- A publication would have had to start from the settled record.
    rw [hsame hrecord] at hsuccessor
    exact absurd hrecord hsuccessor.nonterminal
  rcases hstays with ⟨current, hcurrent, hsame⟩
  rw [hcurrent, hsame hterminal]

/-- What no publication touches is the same before and after. -/
theorem frame (h : Evolves Q j k) {id : String}
    (hq : ∀ l old new, Q l old new → old.resourceId ≠ id) : k.find? id = j.find? id := by
  induction h with
  | refl => rfl
  | tail _ hstep ih =>
    cases hstep with
    | publish old new hvalid hold hsuccessor hpub =>
      have hne : id ≠ new.resourceId := by
        rw [hsuccessor.resourceId]
        exact (hq _ old new hpub).symm
      rw [Journal.find?_put_of_ne _ _ _ hne, ih]
    | spoil name => exact ih

end Evolves

/-- The journal of the final state evolved from that of the initial one. -/
def Grows {W : Type} (Q : Journal → Record → Record → Prop) (s t : Machine W) : Prop :=
  Evolves Q s.journal t.journal

instance {W : Type} (Q : Journal → Record → Record → Prop) :
    Std.Refl (Grows Q : Machine W → Machine W → Prop) := ⟨fun s => Evolves.refl s.journal⟩

instance {W : Type} (Q : Journal → Record → Record → Prop) :
    IsTrans (Machine W) (Grows Q) := ⟨fun _ _ _ h1 h2 => Evolves.trans h1 h2⟩

namespace Journal

section Growth

variable {W : Type} {io : JournalIo W} {Q : Journal → Record → Record → Prop}

variable {out : Except Exn Record}

/-- What is written by an update is one publication. -/
theorem Outcome.evolves {id : String} {update : Record → Except String Record} {s t : Machine W} (h : Outcome id update s (out, t))
    (hq : ∀ old new, s.journal.find? id = some old → update old = .ok new →
      Successor old new ∧ Q s.journal old new) : Evolves Q s.journal t.journal := by
  cases h with
  | untouched hjournal => exact .of_eq hjournal
  | spoiled name hjournal =>
    rw [hjournal]
    exact .single (.spoil _ name)
  | written current updated hvalid hcurrent hupdate hjournal hout =>
    rcases hq current updated hcurrent hupdate with ⟨hsuccessor, hpub⟩
    have hid := (mem_of_find? hcurrent).2
    rw [hjournal]
    exact .single (.publish _ current updated hvalid (by rw [hid]; exact hcurrent) hsuccessor hpub)

theorem transition_evolves {id : String} {phase : Phase} {change : Change} {s t : Machine W} (h : (transition io id phase change).run s = (out, t))
    (hq : ∀ old new, s.journal.find? id = some old → updateRecord old phase change = .ok new →
      Q s.journal old new) : Evolves Q s.journal t.journal := by
  have hout := transition_outcome io id phase change s
  rw [h] at hout
  exact hout.evolves (fun old new hold hnew =>
    ⟨updateRecord_successor hnew, hq old new hold hnew⟩)

theorem setCleanupTarget_evolves {id target : String} {s t : Machine W}
    (h : (setCleanupTarget io id target).run s = (out, t))
    (hq : ∀ old new, s.journal.find? id = some old → fixCleanupTarget old target = .ok new →
      Q s.journal old new) : Evolves Q s.journal t.journal := by
  have hout := setCleanupTarget_outcome io id target s
  rw [h] at hout
  exact hout.evolves (fun old new hold hnew =>
    ⟨fixCleanupTarget_successor hnew, hq old new hold hnew⟩)

end Growth

end Journal

end MirrorGate
