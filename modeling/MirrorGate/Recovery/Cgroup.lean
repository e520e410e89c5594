import MirrorGate.Recovery.System

/-!
# Recovering Cgroups and the Processes They Cover

A cgroup is recovered by pinning it through its delegation, comparing it with
the recorded identity, killing what is in it, and waiting until it reports
that nothing is left. For version 2 the report is put into the journal before
the cgroup is removed, so that a recovery which finds it gone can tell an
emptied cgroup from one that vanished.

A process is never recovered by its process number. A version 2 process is
settled by the settled cgroup that covers it, and every other one is
ambiguous.

## Main definitions

* `CgroupSession`, `CgroupSession.observe`, `CgroupSession.settings`,
  `CgroupSession.cleanup`: A pinned cgroup and what can be done with it.
* `reclaimCgroup`: Recovering a cgroup.
* `reclaimGroupProcess`: Settling a process by its covering cgroup.
-/

namespace MirrorGate

variable {W Fd : Type}

/-- The error kinds of `except (OSError, AdmissionError)`. -/
def Exn.isCleanupError : Exn → Bool
  | .os _ | .journal _ | .admission _ => true
  | .unicode | .fault _ => false

def Counter.all : List Counter :=
  [.pidsCurrent, .pidsEvents, .memoryCurrent, .memoryPeak, .memoryEvents, .cpuStat, .cgroupEvents]

/-- All counters, with what was read of them. -/
def Counters.observed (values : List (Counter × Option String)) : Counters where
  entries := Counter.all.map (fun counter => (counter, (values.lookup counter).join))
  distinct := by
    rw [List.map_map]
    exact List.Nodup.map (fun _ _ h => h) (by decide)

/-- A line of the event counter that says that nothing is left, however it is
    spaced. -/
def saysEmpty (line : List Char) : Prop :=
  Text.splitWords line = ["populated".toList, "0".toList]

instance (line : List Char) : Decidable (saysEmpty line) := inferInstanceAs (Decidable (_ = _))

/-- A pinned cgroup. -/
structure CgroupSession (Fd : Type) where
  delegation : Fd
  name : String
  fd : Fd
  device : Nat
  inode : Nat

/-- What a recovery observed of a cgroup. -/
structure CgroupObservation where
  resourceId : String
  settings : Settings
  counters : Counters
deriving DecidableEq

section Session

variable (os : Os W Fd)

/-- The contents of a controller file, at most 64 KiB of ASCII. -/
def readAt (fd : Fd) (name : String) : Py W String := do
  let file ← perform (os.readAt fd name)
  if file.1 = false then Prog.raise (.admission "cgroup controller is not regular")
  else if file.2.length > 65536 then Prog.raise (.admission "cgroup controller exceeds bound")
  else do
    let text ← Prog.ofExcept (decodeAscii file.2)
    pure (String.ofList (Text.strip text.toList))

/-- The bytes of an ASCII line. -/
def asciiLine (value : String) : List UInt8 :=
  (value ++ "\n").toList.map (fun c => UInt8.ofNat c.toNat)

/-- Write a controller file in one piece. -/
def writeAt (fd : Fd) (name value : String) : Py W Unit := do
  let file ← perform (os.writeAt fd name (asciiLine value))
  if file.1 = false then Prog.raise (.admission "cgroup controller is not regular")
  else if file.2 ≠ (asciiLine value).length then Prog.raise (.admission "short cgroup controller write")
  else pure ()

def existsAt (fd : Fd) (name : String) : Py W Bool :=
  Prog.handle
    (do
      let _ ← perform (os.statAt fd name)
      pure true)
    (fun e =>
      match e with
      | .os .notFound => some (pure false)
      | _ => none)

/-- The contents of a controller file, if there is one. -/
def readOptional (fd : Fd) (name : String) : Py W (Option String) := do
  let found ← existsAt os fd name
  (if found then (do
      let value ← readAt os fd name
      pure (some value))
    else pure none)

namespace CgroupSession

variable (session : CgroupSession Fd)

/-- The name still leads to the pinned cgroup. -/
def validate : Py W Unit := do
  let info ← perform (os.fstat session.fd)
  let current ← perform (os.statAt session.delegation session.name)
  if (info.device, info.inode) = (current.device, current.inode) ∧
      (info.device, info.inode) = (session.device, session.inode) then pure ()
  else Prog.raise (.admission "cgroup session identity changed")

def observe : Py W Counters := do
  session.validate os
  let values ← Prog.mapList
    (fun counter => do
      let value ← readOptional os session.fd counter.text
      pure (counter, value))
    Counter.all
  pure (.observed values)

def settings : Py W Settings := do
  session.validate os
  let pidsMax ← readOptional os session.fd "pids.max"
  let memoryMax ← readOptional os session.fd "memory.max"
  let memorySwapMax ← readOptional os session.fd "memory.swap.max"
  let cpuMax ← readOptional os session.fd "cpu.max"
  pure ⟨pidsMax, memoryMax, memorySwapMax, cpuMax⟩

/-- Wait until the cgroup is empty, tell `beforeRemove`, and remove it. There
    are twenty milliseconds between two looks and five seconds in all, which
    bounds the number of looks. -/
def awaitEmpty (beforeRemove : Counters → Py W Unit) (deadline : Nat) : Nat → Py W Counters
  | 0 => Prog.raise (.admission "cgroup population did not become empty before deadline")
  | looks + 1 => do
    let now ← monotonic os
    if now < deadline then do
      let events ← readAt os session.fd "cgroup.events"
      if (Text.splitLines events.toList).any (fun line => saysEmpty line) then do
        let result ← session.observe os
        beforeRemove result
        perform (os.rmdir session.delegation session.name)
        pure result
      else do
        sleep os
        awaitEmpty beforeRemove deadline looks
    else Prog.raise (.admission "cgroup population did not become empty before deadline")

/-- Kill the processes of the cgroup and remove it. -/
def cleanup (beforeRemove : Counters → Py W Unit) : Py W Counters := do
  session.validate os
  writeAt os session.fd "cgroup.kill" "1"
  let now ← monotonic os
  session.awaitEmpty os beforeRemove (now + 5000000000) 251

end CgroupSession

end Session

section Reclaim

variable (os : Os W Fd) (lease : Lease) (attemptId : String)

/-- Compare a cgroup with its recorded identity and pin it. -/
def pinCgroup (delegation : Fd) (record : Record) (identity : CgroupIdentity) :
    Py W (CgroupSession Fd × Settings) := do
  (if record.bootId ≠ lease.bootId then
      Prog.raise (.journal "cgroup belongs to another boot")
    else pure ())
  (if record.schema = .v2 then (do
      let parent ← perform (os.fstat delegation)
      if identity.delegation = some ⟨parent.device, parent.inode, parent.uid⟩ then pure ()
      else Prog.raise (.journal "cgroup delegation changed"))
    else pure ())
  let fd ← perform (os.openDir delegation identity.relativePath.text)
  let info ← perform (os.fstat fd)
  (if (info.device, info.inode, info.mode) = (identity.device, identity.inode, identity.mode) then
      pure ()
    else Prog.raise (.journal "cgroup identity changed"))
  let pinned ← perform (os.fstat fd)
  let session : CgroupSession Fd :=
    ⟨delegation, identity.relativePath.text, fd, pinned.device, pinned.inode⟩
  let settings ← session.settings os
  pure (session, settings)

/-- A cgroup that cannot be identified is ambiguous, and nothing was observed
    of it. -/
def cgroupUnconfirmed (record : Record) : Py W (RecoveryItem × CgroupObservation) := do
  let item ← markAmbiguous os.toJournalIo record attemptId "cgroup_identity_unconfirmed"
  pure (item, ⟨record.resourceId, .blank, .none⟩)

/-- Absence alone is no evidence. A cgroup that is gone counts as removed only
    if the journal holds the observation that it was empty. -/
def cgroupMissing (record : Record) : Py W (RecoveryItem × CgroupObservation) :=
  match record.cleanupEvidence with
  | some evidence =>
    if record.schema = .v2 ∧ (record.phase = .cleanupIntent ∨ record.phase = .cleanupFailed) then do
      let _ ← Journal.beginCleanup os.toJournalIo record.resourceId
      let terminal ← Journal.transition os.toJournalIo record.resourceId .reclaimed
        (.note attemptId .recovered (some "owned_cgroup_empty"))
      pure ({ record.item .reclaimed none with kind := .cgroup, phase := terminal.phase },
        ⟨record.resourceId, evidence.settings, evidence.counters⟩)
    else cgroupUnconfirmed os attemptId record
  | none => cgroupUnconfirmed os attemptId record

/-- What is put into the journal before an empty cgroup is removed. -/
def persistEmpty (record : Record) (settings : Settings) (observed : Counters) : Py W Unit :=
  match record.schema with
  | .v1 => pure ()
  | .v2 => do
    let _ ← Journal.transition os.toJournalIo record.resourceId .cleanupIntent
      { cleanupEvidence := some ⟨settings, observed⟩ }
    pure ()

/-- The final transition of a removed cgroup. -/
def cgroupTerminal (record : Record) (settings : Settings) (counters : Counters) : Change :=
  { observation := some ⟨attemptId, .recovered, some "owned_cgroup_empty"⟩
    cleanupEvidence := if record.schema = .v2 then some ⟨settings, counters⟩ else none }

/-- Empty and remove a pinned cgroup. -/
def cleanupCgroup (record : Record) (session : CgroupSession Fd) (settings : Settings) :
    Py W (RecoveryItem × CgroupObservation) := do
  let _ ← Journal.beginCleanup os.toJournalIo record.resourceId
  let outcome ← Prog.handle
    (do
      let counters ← session.cleanup os (persistEmpty os record settings)
      pure (some counters))
    (fun e => if e.isCleanupError then some (pure none) else none)
  match outcome with
  | none => do
    let counters ← Prog.handle (session.observe os)
      (fun e => if e.isCleanupError then some (pure .none) else none)
    let failed ← Journal.finishCleanup os.toJournalIo record.resourceId false
    pure (failed.item .failed (some "cgroup_cleanup_failed"),
      ⟨record.resourceId, settings, counters⟩)
  | some counters => do
    let terminal ← Journal.transition os.toJournalIo record.resourceId .reclaimed
      (cgroupTerminal attemptId record settings counters)
    pure (terminal.item .reclaimed none, ⟨record.resourceId, settings, counters⟩)

def reclaimCgroup (delegation : Fd) (record : Record) :
    Py W (RecoveryItem × CgroupObservation) :=
  match record.identity with
  | .cgroup identity => do
    let pinned ← Prog.handle
      (do
        let pinned ← pinCgroup os lease delegation record identity
        pure (Sum.inr pinned))
      (fun e =>
        match e with
        | .os .notFound => some (do
          let outcome ← cgroupMissing os attemptId record
          pure (Sum.inl outcome))
        | .os (.other _) | .journal _ | .admission _ => some (do
          let outcome ← cgroupUnconfirmed os attemptId record
          pure (Sum.inl outcome))
        | .unicode | .fault _ => none)
    match pinned with
    | .inl outcome => pure outcome
    | .inr (session, settings) => cleanupCgroup os attemptId record session settings
  | _ => cgroupUnconfirmed os attemptId record

/-- The digest by which a process names the cgroup that covers it. -/
def cgroupIdentityDigest (sha256 : List Char → Hex64) (identity : Identity) : Hex64 :=
  sha256 ("mirrorgate.cgroup-identity/v2".toList ++ Char.ofNat 0 :: identity.json.dumps)

/-- The covering cgroup was written by the same owner. -/
def sameOwner (record group : Record) : Prop :=
  record.stateRoot = group.stateRoot ∧ record.sessionId = group.sessionId ∧
    record.controllerInstance = group.controllerInstance ∧ record.bootId = group.bootId ∧
    record.principalUid = group.principalUid

instance (record group : Record) : Decidable (sameOwner record group) :=
  inferInstanceAs (Decidable (_ ∧ _ ∧ _ ∧ _ ∧ _))

/-- The record is a process that was started in this boot, and `group` is the
    version 2 cgroup that it names. -/
def coveredBy (sha256 : List Char → Hex64) (lease : Lease) (record group : Record) : Prop :=
  record.phase ≠ .allocationIntent ∧ record.bootId = lease.bootId ∧
    group.kind = .cgroup ∧ group.schema = .v2 ∧ sameOwner record group ∧
    match record.identity with
    | .process identity =>
      identity.bootId = lease.bootId ∧
        ∃ link ∈ identity.link,
          link.cgroupIdentityDigest = cgroupIdentityDigest sha256 group.identity
    | _ => False

instance (sha256 : List Char → Hex64) (lease : Lease) (record group : Record) :
    Decidable (coveredBy sha256 lease record group) := by
  unfold coveredBy
  cases record.identity <;> infer_instance

/-- The cgroup that covers a process, if the journal confirms it. -/
def coveringGroup (record : Record) : Py W (Option Record) :=
  match record.identity.groupLink with
  | none => pure none
  | some link =>
    Prog.handle
      (do
        let group ← Journal.read os.toJournalIo link.cgroupResourceId
        if coveredBy os.sha256 lease record group then pure (some group)
        else Prog.raise (.journal "process group ownership is unconfirmed"))
      (fun e =>
        match e with
        | .journal _ | .os _ => some (pure none)
        | _ => none)

/-- The covering cgroup was seen empty by a recovery. -/
def seenEmpty (group : Record) : Prop :=
  ∃ observation ∈ group.observations,
    observation.status = .recovered ∧ observation.reasonCode = some "owned_cgroup_empty"

instance (group : Record) : Decidable (seenEmpty group) :=
  inferInstanceAs (Decidable (∃ observation ∈ _, _))

def reclaimGroupProcess (record : Record) : Py W RecoveryItem := do
  let covering ← coveringGroup os lease record
  match covering with
  | none => markAmbiguous os.toJournalIo record attemptId "process_group_link_unconfirmed"
  | some group =>
    if group.phase = .ambiguous then
      markAmbiguous os.toJournalIo record attemptId "covering_cgroup_ambiguous"
    else if group.phase ≠ .reclaimed then do
      let _ ← Journal.beginCleanup os.toJournalIo record.resourceId
      let failed ← Journal.finishCleanup os.toJournalIo record.resourceId false
      pure { record.item .failed (some "covering_cgroup_not_reclaimed") with
        kind := .process, phase := failed.phase }
    else if ¬ seenEmpty group then
      markAmbiguous os.toJournalIo record attemptId "covering_cgroup_empty_unconfirmed"
    else do
      let _ ← Journal.beginCleanup os.toJournalIo record.resourceId
      let terminal ← Journal.transition os.toJournalIo record.resourceId .reclaimed
        (.note attemptId .recovered (some "covered_by_owned_cgroup"))
      pure { record.item .reclaimed none with kind := .process, phase := terminal.phase }

end Reclaim

end MirrorGate
