import MirrorGate.Journal.Store

/-!
# The Operating System as Recovery Sees It

An offline recovery runs against an operating system about which it assumes
nothing: every call can fail, what one call reports need not agree with what
the next one reports, and the caller's fault hook can interrupt the recovery
at a cut point. `Os` has one field for each call of the source and leaves the
answer to the world, so a statement proved for every `Os` holds for every
file system state and for every outcome of the calls.

Descriptors are an abstract type. Closing one has no outcome that the source
reads, and is left out.

## Main definitions

* `Os`: The calls an offline recovery makes.
* `Stat`: What the source reads of a file's status.
* `RecoveryItem`, `Disposition`, `classify`: What a recovery reports about a
  resource.
* `markAmbiguous`: Giving up on a resource.
* `Looks`: What the calls that only look do to a state.

## Theorems

* `looks_same`: No call changes the journal.
* `markAmbiguous_ok`: What giving up on a resource returns and leaves.
-/

namespace MirrorGate

open Prog

/-- The status of a file, as far as it is read. `mode` is the file type. -/
structure Stat where
  device : Nat
  inode : Nat
  uid : Nat
  mode : Nat
deriving DecidableEq, Repr

/-- The file type of a directory. -/
def modeDirectory : Nat := 16384

/-- The calls a recovery makes. Directories are opened without following
    links, and status is read without following links. The clock counts
    nanoseconds. `interrupted` says whether the fault hook raises at a cut
    point, and `openDelegation` is the constructor of a cgroup delegation with
    all its checks. -/
structure Os (W Fd : Type) extends JournalIo W where
  rootFd : Fd
  quarantineFd : Fd
  dup : Fd → W → Except OsError Fd × W
  openDir : Fd → String → W → Except OsError Fd × W
  fstat : Fd → W → Except OsError Stat × W
  getxattr : Fd → W → Except OsError (List UInt8) × W
  statAt : Fd → String → W → Except OsError Stat × W
  rename : Fd → String → Fd → String → W → Except OsError Unit × W
  listdir : Fd → W → Except OsError (List String) × W
  unlink : Fd → String → W → Except OsError Unit × W
  rmdir : Fd → String → W → Except OsError Unit × W
  fchmod : Fd → W → Except OsError Unit × W
  readAt : Fd → String → W → Except OsError (Bool × List UInt8) × W
  writeAt : Fd → String → List UInt8 → W → Except OsError (Bool × Nat) × W
  monotonic : W → Nat × W
  sleep : W → W
  interrupted : String → W → Bool × W
  openDelegation : String → W → Except Exn Fd × W

/-- An operating system in which the journal works and every other call fails. -/
def Os.idle (digest : Hex64) : Os Unit Unit where
  toJournalIo := JournalIo.obliging digest
  rootFd := ()
  quarantineFd := ()
  dup _ w := (.error (.other "idle"), w)
  openDir _ _ w := (.error (.other "idle"), w)
  fstat _ w := (.error (.other "idle"), w)
  getxattr _ w := (.error (.other "idle"), w)
  statAt _ _ w := (.error (.other "idle"), w)
  rename _ _ _ _ w := (.error (.other "idle"), w)
  listdir _ w := (.error (.other "idle"), w)
  unlink _ _ w := (.error (.other "idle"), w)
  rmdir _ _ w := (.error (.other "idle"), w)
  fchmod _ w := (.error (.other "idle"), w)
  readAt _ _ w := (.error (.other "idle"), w)
  writeAt _ _ _ w := (.error (.other "idle"), w)
  monotonic w := (0, w)
  sleep w := w
  interrupted _ w := (false, w)
  openDelegation _ w := (.error (.os (.other "idle")), w)

variable {W Fd : Type}

section Calls

variable (os : Os W Fd)

/-- Read the clock. -/
def monotonic : Py W Nat := ⟨fun s =>
  (.ok (os.monotonic s.world).1, { s with world := (os.monotonic s.world).2 })⟩

/-- Wait for twenty milliseconds. -/
def sleep : Py W Unit := ⟨fun s => (.ok (), { s with world := os.sleep s.world })⟩

/-- A cut point: the fault hook may interrupt the program here. -/
def cut (point : String) : Py W Unit := ⟨fun s =>
  (if (os.interrupted point s.world).1 then .error (.fault point) else .ok (),
    { s with world := (os.interrupted point s.world).2 })⟩

/-- Open a cgroup delegation. -/
def openDelegation (parent : String) : Py W Fd := ⟨fun s =>
  ((os.openDelegation parent s.world).1, { s with world := (os.openDelegation parent s.world).2 })⟩

end Calls

/-- The calls a recovery looks around with move along a relation. -/
structure Looks (os : Os W Fd) (R : Machine W → Machine W → Prop) : Prop where
  dup : ∀ fd, Moves R (perform (os.dup fd))
  openDir : ∀ fd name, Moves R (perform (os.openDir fd name))
  fstat : ∀ fd, Moves R (perform (os.fstat fd))
  getxattr : ∀ fd, Moves R (perform (os.getxattr fd))
  statAt : ∀ fd name, Moves R (perform (os.statAt fd name))
  readAt : ∀ fd name, Moves R (perform (os.readAt fd name))
  writeAt : ∀ fd name data, Moves R (perform (os.writeAt fd name data))
  monotonic : Moves R (monotonic os)
  sleep : Moves R (sleep os)
  cut : ∀ point, Moves R (cut os point)
  openDelegation : ∀ parent, Moves R (openDelegation os parent)

/-- No call changes the journal. -/
theorem looks_same (os : Os W Fd) : Looks os SameJournal where
  dup _ := perform_same _
  openDir _ _ := perform_same _
  fstat _ := perform_same _
  getxattr _ := perform_same _
  statAt _ _ := perform_same _
  readAt _ _ := perform_same _
  writeAt _ _ _ := perform_same _
  monotonic _ := rfl
  sleep _ := rfl
  cut _ _ := rfl
  openDelegation _ _ := rfl

theorem Looks.mono {os : Os W Fd} {R S : Machine W → Machine W → Prop} (h : Looks os R)
    (hRS : ∀ s t, R s t → S s t) : Looks os S where
  dup fd s := hRS _ _ (h.dup fd s)
  openDir fd name s := hRS _ _ (h.openDir fd name s)
  fstat fd s := hRS _ _ (h.fstat fd s)
  getxattr fd s := hRS _ _ (h.getxattr fd s)
  statAt fd name s := hRS _ _ (h.statAt fd name s)
  readAt fd name s := hRS _ _ (h.readAt fd name s)
  writeAt fd name data s := hRS _ _ (h.writeAt fd name data s)
  monotonic s := hRS _ _ (h.monotonic s)
  sleep s := hRS _ _ (h.sleep s)
  cut point s := hRS _ _ (h.cut point s)
  openDelegation parent s := hRS _ _ (h.openDelegation parent s)

/-- Decode bytes that must be ASCII. -/
def decodeAscii (data : List UInt8) : Except Exn String :=
  if data.all (fun b => b < 128) then
    .ok (String.ofList (data.map (fun b => Char.ofNat b.toNat)))
  else .error .unicode

/-! ### What is reported -/

inductive Disposition where
  | live
  | abandoned
  | reclaimed
  | retained
  | failed
  | ambiguous
  | unconfirmed
deriving DecidableEq, Repr

def Disposition.text : Disposition → String
  | .live => "live"
  | .abandoned => "abandoned"
  | .reclaimed => "reclaimed"
  | .retained => "retained"
  | .failed => "failed"
  | .ambiguous => "ambiguous"
  | .unconfirmed => "unconfirmed"

/-- One line of a recovery's result. -/
structure RecoveryItem where
  resourceId : String
  sessionId : String
  kind : Kind
  phase : Phase
  disposition : Disposition
  reasonCode : Option String
deriving DecidableEq, Repr

/-- The item that reports a record. -/
def Record.item (record : Record) (disposition : Disposition) (reasonCode : Option String) :
    RecoveryItem where
  resourceId := record.resourceId
  sessionId := record.sessionId
  kind := record.kind
  phase := record.phase
  disposition := disposition
  reasonCode := reasonCode

/-- What can be said of a record before anything is done about it. `live` says
    that a controller still holds the state root. -/
def classify (record : Record) (live : Bool) : RecoveryItem :=
  if live = true ∧ ¬ record.phase.Terminal then record.item .live (some "live_owner")
  else if record.phase = .reclaimed then record.item .reclaimed none
  else if record.phase = .retainedByPolicy ∧ record.retainedRecoverable = false then
    record.item .retained (some "retained_by_policy")
  else if record.phase = .ambiguous then record.item .ambiguous (some "ownership_ambiguous")
  else if record.phase = .cleanupFailed then record.item .failed (some "prior_cleanup_failed")
  else if record.kind = .process ∨ record.kind = .cgroup then
    record.item .ambiguous (some "post_restart_identity_unavailable")
  else record.item .abandoned none

/-- The record was written for this state root by this user. -/
def recordBelongsToRoot (lease : Lease) (record : Record) : Prop :=
  record.principalUid = lease.principalUid ∧ record.stateRoot = lease.stateRoot

instance (lease : Lease) (record : Record) : Decidable (recordBelongsToRoot lease record) :=
  inferInstanceAs (Decidable (_ ∧ _))

/-- The path of an identity that has one. A cgroup has one too, but it is
    relative to the delegation and not to the state root. -/
def recordPath (record : Record) : Option RelativePath :=
  match record.identity with
  | .filesystem identity => some identity.relativePath
  | .cgroup identity => some identity.relativePath
  | _ => none

/-- Settle a resource as ambiguous, unless it is settled already. -/
def markAmbiguous (io : JournalIo W) (record : Record) (attemptId reason : String) :
    Py W RecoveryItem := do
  let current ← (if record.phase.Terminal then pure record
    else Journal.transition io record.resourceId .ambiguous
      (.note attemptId .ambiguous (some reason)))
  pure (current.item .ambiguous (some reason))

/-! ### Giving up on a resource -/

section MarkAmbiguous

variable {io : JournalIo W} {record : Record} {attemptId reason : String} {s t : Machine W}

/-- Giving up on a resource reports it as ambiguous. A record that is still
    open becomes ambiguous in the journal, and nothing else changes. -/
theorem markAmbiguous_ok {item : RecoveryItem}
    (h : (markAmbiguous io record attemptId reason).run s = (.ok item, t)) :
    item.disposition = .ambiguous ∧ item.reasonCode = some reason ∧
      (record.phase.Terminal ∧ item = record.item .ambiguous (some reason) ∧
          t.journal = s.journal ∨
        ¬ record.phase.Terminal ∧ ∃ (current updated : Record) (hvalid : updated.Valid),
          s.journal.find? record.resourceId = some current ∧
          updateRecord current .ambiguous (.note attemptId .ambiguous (some reason)) =
            .ok updated ∧
          t.journal = s.journal.put updated hvalid ∧
          item = updated.item .ambiguous (some reason)) := by
  unfold markAmbiguous at h
  rcases bind_eq_ok_iff.mp h with ⟨current, u, hcurrent, h⟩
  rcases pure_eq_ok_iff.mp h with ⟨rfl, rfl⟩
  refine ⟨rfl, rfl, ?_⟩
  split at hcurrent
  · next hterminal =>
    rcases pure_eq_ok_iff.mp hcurrent with ⟨rfl, rfl⟩
    exact Or.inl ⟨hterminal, rfl, rfl⟩
  · next hopen =>
    rcases Journal.transition_ok hcurrent with ⟨old, hvalid, hold, hupdate, hjournal⟩
    exact Or.inr ⟨hopen, old, current, hvalid, hold, hupdate, hjournal, rfl⟩

end MarkAmbiguous

end MirrorGate
