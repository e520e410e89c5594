import MirrorGate.Recovery.System

/-!
# Recovering Directories

A directory of the state root is recovered by finding the object the record
describes, moving it to a quarantine name of its own, and removing it there.
The object is looked for at the recorded path and at the cleanup target an
earlier attempt may have fixed, and it must be at exactly one of them, with
the recorded device, inode, type and ownership token.

Removal is bounded: ten thousand entries, sixty-four levels, ten seconds, and
never beyond the device and the owner it started with. A removal that stops
half way leaves what it did, and the record says so by its phase.

## Main definitions

* `validateFilesystem`: Finding the object a record describes.
* `removeTreeAt`: Bounded removal of a tree.
* `Plan`: A record together with its filesystem identity.
* `reclaimFilesystem`: Recovering a directory.
-/

namespace MirrorGate

variable {W Fd : Type}

/-- The quarantine name of a resource. -/
def quarantineName (id : String) : String := "reclaim-" ++ id

/-- The cleanup target a resource has when it is moved by itself. -/
def ownTarget (id : String) : String := "quarantine/" ++ quarantineName id

/-- The identity that an object on disk must show. -/
def FilesystemIdentity.matchesObject (identity : FilesystemIdentity) (status : Stat)
    (token : String) : Prop :=
  (identity.device, identity.inode, identity.mode, identity.ownershipToken.text) =
    (status.device, status.inode, status.mode, token)

instance (identity : FilesystemIdentity) (status : Stat) (token : String) :
    Decidable (identity.matchesObject status token) :=
  inferInstanceAs (Decidable (_ = _))

/-- Records are recovered below this directory only. -/
def resourcesStart : String := "resources/"

section Locate

variable (os : Os W Fd)

/-- Open a chain of directories, one component at a time. -/
def openPath : Fd → List String → Py W Fd
  | fd, [] => pure fd
  | fd, part :: parts => do
    let next ← perform (os.openDir fd part)
    openPath next parts

/-- Open the directory a path leads to, and give the name in it. -/
def openParent (relative : RelativePath) : Py W (Fd × String) := do
  let root ← perform (os.dup os.rootFd)
  let parent ← openPath os root relative.parts.dropLast
  pure (parent, relative.parts.getLast relative.nonempty)

/-- The status and ownership token of the directory at a path. -/
def readObject (relative : RelativePath) : Py W (Stat × String) := do
  let place ← openParent os relative
  let object ← perform (os.openDir place.1 place.2)
  let status ← perform (os.fstat object)
  let data ← perform (os.getxattr object)
  let token ← Prog.ofExcept (decodeAscii data)
  pure (status, token)

/-- What is at a path: nothing, an object, or a failure that ends the
    validation. -/
def probe (relative : RelativePath) : Py W (Except String (Option (Stat × String))) :=
  Prog.handle
    (do
      let object ← readObject os relative
      pure (.ok (some object)))
    (fun e =>
      match e with
      | .os .notFound => some (pure (.ok none))
      | .os (.other _) | .journal _ => some (pure (.error "path_validation_failed"))
      | _ => none)

/-- Whether what a probe found is the recorded object. -/
def judge (identity : FilesystemIdentity) :
    Except String (Option (Stat × String)) → Except String Bool
  | .error reason => .error reason
  | .ok none => .ok false
  | .ok (some (status, token)) =>
    if status.mode ≠ modeDirectory then .error "object_type_changed"
    else if identity.matchesObject status token then .ok true
    else .error "object_identity_changed"

/-- The candidates at which the recorded object is. -/
def matchCandidates (identity : FilesystemIdentity) :
    List RelativePath → Py W (Except String (List RelativePath))
  | [] => pure (.ok [])
  | relative :: rest => do
    let found ← probe os relative
    match judge identity found with
    | .error reason => pure (.error reason)
    | .ok isThere => do
      let others ← matchCandidates identity rest
      match others with
      | .error reason => pure (.error reason)
      | .ok paths => pure (.ok (if isThere then relative :: paths else paths))

/-- Find the recorded object, at the recorded path or at the cleanup target.
    The error is the reason why the record becomes ambiguous. -/
def validateFilesystem (identity : FilesystemIdentity) (cleanupTarget : Option RelativePath) :
    Py W (Except String RelativePath) :=
  if ¬ resourcesStart.toList <+: identity.relativePath.text.toList then
    pure (.error "path_outside_resources")
  else do
    let found ← matchCandidates os identity (identity.relativePath :: cleanupTarget.toList)
    match found with
    | .error reason => pure (.error reason)
    | .ok [] => pure (.error "object_missing_unconfirmed")
    | .ok [path] => pure (.ok path)
    | .ok (_ :: _ :: _) => pure (.error "duplicate_object_identity")

end Locate

section Remove

variable (os : Os W Fd) (device uid deadline : Nat)

/-- The largest number of entries a removal deletes. -/
def maxEntries : Nat := 10000

/-- Raise when the budget of a removal is used up. -/
def checkBudget (entries : Nat) : Py W Unit :=
  if entries > maxEntries then Prog.raise (.os (.other "bounded recovery removal exceeded"))
  else do
    let now ← monotonic os
    if now > deadline then Prog.raise (.os (.other "bounded recovery removal exceeded"))
    else pure ()

/-- Raise when a removal would leave its device or its owner. -/
def checkBoundary (status : Stat) : Py W Unit :=
  if status.device ≠ device ∨ status.uid ≠ uid then
    Prog.raise (.os (.other "recovery removal crossed ownership or mount boundary"))
  else pure ()

/-- Remove the entries of a directory; `removeDirectory` removes those that
    are directories. The number of entries so far is handed on. -/
def removeEntries (removeDirectory : Fd → String → Nat → Py W Nat) (fd : Fd) :
    List String → Nat → Py W Nat
  | [], entries => pure entries
  | child :: children, entries => do
    checkBudget os deadline (entries + 1)
    let info ← perform (os.statAt fd child)
    checkBoundary device uid info
    let removed ← (if info.mode = modeDirectory then removeDirectory fd child (entries + 1)
      else (do
        perform (os.unlink fd child)
        pure (entries + 1)))
    removeEntries removeDirectory fd children removed

/-- Remove a tree, going down at most `levels` levels. -/
def removeTree : Nat → Fd → String → Nat → Py W Nat
  | 0, _, _, _ => Prog.raise (.os (.other "bounded recovery removal exceeded"))
  | levels + 1, parent, name, entries => do
    checkBudget os deadline entries
    let fd ← perform (os.openDir parent name)
    let opened ← perform (os.fstat fd)
    checkBoundary device uid opened
    perform (os.fchmod fd)
    let children ← perform (os.listdir fd)
    let removed ← removeEntries os device uid deadline (removeTree levels) fd children entries
    perform (os.rmdir parent name)
    pure removed

/-- Remove a tree with a fresh budget. Depths from zero to sixty-four are
    allowed. -/
def removeTreeAt (parent : Fd) (name : String) : Py W Unit := do
  let now ← monotonic os
  let _ ← removeTree os device uid (now + 10000000000) 65 parent name 0
  pure ()

end Remove

/-- A record of a directory that is identified. -/
structure Plan where
  record : Record
  identity : FilesystemIdentity
  identity_eq : record.identity = .filesystem identity

namespace Plan

def resourceId (plan : Plan) : String := plan.record.resourceId

/-- The recorded path. -/
def path (plan : Plan) : RelativePath := plan.identity.relativePath

end Plan

section Reclaim

variable (os : Os W Fd) (attemptId : String)

/-- Bring a record into the phase in which its directory may be moved, with a
    cleanup target; `none` if its phase does not allow it. -/
def enterCleanup (record : Record) : Py W (Option Record) :=
  match record.phase with
  | .cleanupIntent =>
    match record.cleanupTarget with
    | none => do
      let current ← Journal.setCleanupTarget os.toJournalIo record.resourceId
        (ownTarget record.resourceId)
      pure (some current)
    | some _ => pure (some record)
  | .cleanupFailed | .allocationIntent | .durableOwned | .active => do
    let current ← Journal.transition os.toJournalIo record.resourceId .cleanupIntent
      { cleanupTarget := some (ownTarget record.resourceId) }
    pure (some current)
  | .retainedByPolicy =>
    if record.retainedRecoverable then do
      let current ← Journal.transition os.toJournalIo record.resourceId .cleanupIntent
        { cleanupTarget := some (ownTarget record.resourceId) }
      pure (some current)
    else pure none
  | .reclaimed | .ambiguous => pure none

/-- Record a failed removal. -/
def cleanupFailed (current : Record) (reason : String) : Py W RecoveryItem := do
  let failed ← Journal.transition os.toJournalIo current.resourceId .cleanupFailed
    (.note attemptId .failed (some reason))
  pure (failed.item .failed (some reason))

/-- Move the object to its quarantine name, unless it is there. An item is
    returned if the move failed. -/
def quarantine (current : Record) (located : RelativePath) (parent : Fd) (leaf : String)
    (quarantineFd : Fd) : Py W (Option RecoveryItem) :=
  if located.text = ownTarget current.resourceId then pure none
  else do
    cut os "before-rename"
    let failed ← Prog.handle
      (do
        perform (os.rename parent leaf quarantineFd (quarantineName current.resourceId))
        pure none)
      (fun e =>
        match e with
        | .os _ => some (do
          let item ← cleanupFailed os attemptId current "rename_failed"
          pure (some item))
        | _ => none)
    match failed with
    | some item => pure (some item)
    | none => do
      cut os "after-rename"
      pure none

/-- Remove the object at its quarantine name, if it is the one. -/
def removeQuarantined (current : Record) (identity : FilesystemIdentity) (quarantineFd : Fd) :
    Py W (Option RecoveryItem) := do
  let moved ← perform (os.statAt quarantineFd (quarantineName current.resourceId))
  if (moved.device, moved.inode, moved.mode) =
      (identity.device, identity.inode, identity.mode) then do
    removeTreeAt os identity.device current.principalUid quarantineFd
      (quarantineName current.resourceId)
    cut os "after-remove"
    pure none
  else do
    let item ← markAmbiguous os.toJournalIo current attemptId "quarantine_identity_changed"
    pure (some item)

/-- The part of the recovery in which an operating system error means a failed
    removal: pin the object, move it and remove it. -/
def moveAndRemove (current : Record) (identity : FilesystemIdentity) (located : RelativePath)
    (parent : Fd) (leaf : String) (quarantineFd : Fd) : Py W (Option RecoveryItem) := do
  let pinned ← perform (os.openDir parent leaf)
  let observed ← perform (os.fstat pinned)
  let data ← perform (os.getxattr pinned)
  let token ← Prog.ofExcept (decodeAscii data)
  if identity.matchesObject observed token then do
    let failed ← quarantine os attemptId current located parent leaf quarantineFd
    match failed with
    | some item => pure (some item)
    | none => removeQuarantined os attemptId current identity quarantineFd
  else do
    let item ← markAmbiguous os.toJournalIo current attemptId "object_identity_changed"
    pure (some item)

/-- Recover a directory whose record is in the cleanup phase. -/
def reclaimPrepared (current : Record) (identity : FilesystemIdentity) : Py W RecoveryItem := do
  cut os "after-cleanup-intent"
  let checked ← validateFilesystem os identity current.cleanupTarget
  match checked with
  | .error reason => markAmbiguous os.toJournalIo current attemptId reason
  | .ok located => do
    let place ← openParent os located
    let quarantineFd ← perform (os.dup os.quarantineFd)
    let outcome ← Prog.handle
      (moveAndRemove os attemptId current identity located place.1 place.2 quarantineFd)
      (fun e =>
        match e with
        | .os _ => some (do
          let item ← cleanupFailed os attemptId current "removal_failed"
          pure (some item))
        | _ => none)
    match outcome with
    | some item => pure item
    | none => do
      let terminal ← Journal.transition os.toJournalIo current.resourceId .reclaimed
        (.note attemptId .recovered none)
      cut os "after-terminal-record"
      pure (terminal.item .reclaimed none)

def reclaimFilesystem (plan : Plan) : Py W RecoveryItem := do
  let checked ← validateFilesystem os plan.identity plan.record.cleanupTarget
  match checked with
  | .error reason => markAmbiguous os.toJournalIo plan.record attemptId reason
  | .ok _ => do
    let entered ← enterCleanup os plan.record
    match entered with
    | none => markAmbiguous os.toJournalIo plan.record attemptId "transition_invalid"
    | some current => reclaimPrepared os attemptId current plan.identity

end Reclaim

end MirrorGate
