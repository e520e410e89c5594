import MirrorGate.Recovery.Footprint

/-!
# Finding a Directory

Whether a directory is found depends on the tree only, as long as the calls a
recovery looks around with are answered. This module says what is seen:
`objectAt` is the object a path leads to, and a directory is found if it is at
exactly one of its places and nothing is at the others.

The first pass plans exactly the workable directories that are found, and
every protection it collects comes from a record that it did not plan.

## Main definitions

* `Surroundings.Answers`: The calls of a search are never refused.
* `Sees`: A program that changes nothing and returns what the tree says.
* `objectAt`: The object a path leads to.
* `Located`, `Record.Found`: A directory is at one of its places.

## Theorems

* `validateFilesystem_iff`: The search succeeds if the directory is located.
* `takeSurvey_planned_iff`: What the first pass plans.
* `takeSurvey_protection_path`: Where protections by path come from.
-/

namespace MirrorGate

open Prog Disk

variable {E F : Type}

/-- The calls with which a directory is looked for. -/
def FileCall.IsSearch : FileCall → Prop
  | .dup | .openDir | .fstat | .getxattr => True
  | _ => False

/-- A search is never refused. -/
def Surroundings.Answers (world : Surroundings E F) : Prop :=
  ∀ call, call.IsSearch → ∀ path env, (world.refuses call path env).1 = none

/-- The program changes neither journal nor tree and returns what the tree
    says. -/
def Sees {α : Type} (m : Py (Disk E) α) (view : Tree → Except Exn α) : Prop :=
  ∀ s, (m.run s).1 = view s.world.tree ∧ Still s (m.run s).2

section Sees

variable {α β : Type}

theorem sees_pure (a : α) : Sees (pure a : Py (Disk E) α) (fun _ => .ok a) :=
  fun s => ⟨rfl, Std.Refl.refl s⟩

theorem sees_ofExcept (x : Except Exn α) : Sees (Prog.ofExcept x : Py (Disk E) α) (fun _ => x) :=
  fun s => ⟨rfl, Std.Refl.refl s⟩

/-- A sequence, where the second program is only run on what the first one
    can return. -/
theorem sees_bind {m : Py (Disk E) α} {f : α → Py (Disk E) β} {view : Tree → Except Exn α}
    {g : α → Tree → Except Exn β} (hm : Sees m view)
    (hf : ∀ a tree, view tree = .ok a → Sees (f a) (g a)) :
    Sees (m >>= f) (fun tree => view tree >>= fun a => g a tree) := by
  intro s
  rcases hm s with ⟨hview, hstill⟩
  dsimp only
  rcases hrun : m.run s with ⟨e | a, t⟩
  · rw [hrun] at hview hstill
    rw [bind_run_error hrun, ← hview]
    exact ⟨rfl, hstill⟩
  · rw [hrun] at hview hstill
    rw [bind_run_ok hrun, ← hview]
    rcases hf a s.world.tree hview.symm t with ⟨hnext, hstill'⟩
    have htree : t.world.tree = s.world.tree := hstill.2
    rw [htree] at hnext
    exact ⟨hnext, IsTrans.trans _ _ _ hstill hstill'⟩

theorem Sees.congr {m : Py (Disk E) α} {view view' : Tree → Except Exn α} (h : Sees m view)
    (heq : ∀ tree, view' tree = view tree) : Sees m view' := by
  intro s
  rw [heq]
  exact h s

theorem Sees.run {m : Py (Disk E) α} {view : Tree → Except Exn α} (h : Sees m view)
    {s t : Machine (Disk E)} {out : Except Exn α} (hrun : m.run s = (out, t)) :
    out = view s.world.tree ∧ Still s t := by
  have := h s
  rw [hrun] at this
  exact this

theorem sees_inquire {world : Surroundings E F} (hworld : world.Answers) {call : FileCall}
    (hcall : call.IsSearch) (path : List String) (f : Tree → Except OsError α) :
    Sees (perform (Disk.inquire world call path f)) (fun tree => (f tree).mapError .os) := by
  intro s
  refine ⟨?_, perform_still (inquire_tree world call path f) s⟩
  have hanswer := hworld call hcall path s.world.env
  unfold perform inquire attempt
  rcases hrefuses : world.refuses call path s.world.env with ⟨e, env⟩
  rw [hrefuses] at hanswer
  simp only at hanswer
  subst hanswer
  rcases hf : f s.world.tree with e | a
  · simp [hrefuses, hf, Except.mapError]
  · simp [hrefuses, hf, Except.mapError]

end Sees

/-! ### What is at a path -/

/-- The path of a directory, if there is one. -/
def openNode (tree : Tree) (path : List String) : Except Exn (List String) :=
  match tree.lookup path with
  | none => .error (.os .notFound)
  | some node => if node.IsDirectory then .ok path else .error (.os (.other "not a directory"))

/-- Go down a chain of directories. -/
def openAll (tree : Tree) : List String → List String → Except Exn (List String)
  | path, [] => .ok path
  | path, name :: rest => do
    let next ← openNode tree (path ++ [name])
    openAll tree next rest

/-- The status and the token of a node. -/
def Node.read (node : Node) : Except Exn (Stat × String) :=
  match node.token with
  | none => .error (.os (.other "no such attribute"))
  | some data => do
    let token ← decodeAscii data
    .ok (node.status, token)

/-- The object a path leads to. -/
def objectAt (tree : Tree) (path : List String) : Except Exn (Stat × String) := do
  let place ← openAll tree [] path
  match tree.lookup place with
  | none => .error (.os .notFound)
  | some node => node.read

theorem openNode_eq_ok {tree : Tree} {path place : List String}
    (h : openNode tree path = .ok place) : place = path := by
  unfold openNode at h
  split at h
  · cases h
  · split at h
    · cases h
      rfl
    · cases h

/-- The last step of a chain. -/
theorem openAll_concat (tree : Tree) (path parts : List String) (name : String) :
    openAll tree path (parts ++ [name]) =
      (openAll tree path parts >>= fun place => openNode tree (place ++ [name])) := by
  induction parts generalizing path with
  | nil =>
    change (openNode tree (path ++ [name]) >>= fun place => openAll tree place []) =
      openNode tree (path ++ [name])
    rcases openNode tree (path ++ [name]) with e | place
    · rfl
    · rfl
  | cons part rest ih =>
    rw [List.cons_append, openAll, openAll]
    rcases openNode tree (path ++ [part]) with e | place
    · rfl
    · exact ih place

section Search

variable {world : Surroundings E F}

theorem sees_openDir (hworld : world.Answers) (path : List String) (name : String) :
    Sees (perform ((Disk.os world).openDir (.inl path) name))
      (fun tree => (openNode tree (path ++ [name])).map Sum.inl) := by
  refine Sees.congr (sees_inquire hworld (by trivial : FileCall.openDir.IsSearch) (path ++ [name])
    (fun tree => (openAt tree (path ++ [name]) : Except OsError (Handle F))))
    (fun tree => ?_)
  unfold openNode openAt
  rcases tree.lookup (path ++ [name]) with _ | node
  · rfl
  · by_cases hnode : node.IsDirectory
    · simp [hnode, Except.map, Except.mapError]
    · simp [hnode, Except.map, Except.mapError]

theorem sees_openPath (hworld : world.Answers) (path parts : List String) :
    Sees (openPath (Disk.os world) (.inl path) parts)
      (fun tree => (openAll tree path parts).map Sum.inl) := by
  induction parts generalizing path with
  | nil => exact sees_pure _
  | cons name rest ih =>
    refine Sees.congr (sees_bind (sees_openDir hworld path name)
      (g := fun _ tree => (openAll tree (path ++ [name]) rest).map Sum.inl)
      (fun fd tree hfd => ?_)) (fun tree => ?_)
    · rcases hopen : openNode tree (path ++ [name]) with e | place
      · rw [hopen] at hfd
        cases hfd
      · rw [hopen] at hfd
        cases hfd
        rw [openNode_eq_ok hopen]
        exact ih _
    · rw [openAll]
      rcases hopen : openNode tree (path ++ [name]) with e | place
      · rfl
      · rw [openNode_eq_ok hopen]
        rfl

theorem sees_dup (hworld : world.Answers) (path : List String) :
    Sees (perform ((Disk.os world).dup (.inl path))) (fun _ => .ok (.inl path)) :=
  sees_inquire hworld (by trivial : FileCall.dup.IsSearch) path
    (fun _ => (.ok (.inl path) : Except OsError (Handle F)))

theorem sees_fstat (hworld : world.Answers) (path : List String) :
    Sees (perform ((Disk.os world).fstat (.inl path)))
      (fun tree => ((Disk.nodeAt tree path).map Node.status).mapError .os) :=
  sees_inquire hworld (by trivial : FileCall.fstat.IsSearch) path
    (fun tree => (nodeAt tree path).map Node.status)

theorem sees_getxattr (hworld : world.Answers) (path : List String) :
    Sees (perform ((Disk.os world).getxattr (.inl path)))
      (fun tree => (Disk.tokenAt tree path).mapError .os) :=
  sees_inquire hworld (by trivial : FileCall.getxattr.IsSearch) path
    (fun tree => tokenAt tree path)

theorem sees_openParent (hworld : world.Answers) (relative : RelativePath) :
    Sees (openParent (Disk.os world) relative) (fun tree =>
      (openAll tree [] relative.parts.dropLast).map
        (fun place => (Sum.inl place, relative.parts.getLast relative.nonempty))) := by
  refine Sees.congr (sees_bind (sees_dup hworld [])
    (g := fun _ tree => (openAll tree [] relative.parts.dropLast).map
      (fun place => (Sum.inl place, relative.parts.getLast relative.nonempty)))
    (fun root _ hroot => ?_)) (fun _ => rfl)
  cases hroot
  refine Sees.congr (sees_bind (sees_openPath hworld [] _)
    (g := fun parent _ => .ok (parent, relative.parts.getLast relative.nonempty))
    (fun parent _ _ => sees_pure _)) (fun tree => ?_)
  rcases openAll tree [] relative.parts.dropLast with e | place
  · rfl
  · rfl

/-- The object that is read is the one the path leads to. -/
theorem sees_readObject (hworld : world.Answers) (relative : RelativePath) :
    Sees (readObject (Disk.os world) relative) (fun tree => objectAt tree relative.parts) := by
  have hparts : relative.parts =
      relative.parts.dropLast ++ [relative.parts.getLast relative.nonempty] :=
    (List.dropLast_append_getLast relative.nonempty).symm
  -- From the opened directory on, everything is read at its path.
  have hbody : ∀ path, Sees
      (do
        let status ← perform ((os world).fstat (.inl path))
        let data ← perform ((os world).getxattr (.inl path))
        let token ← Prog.ofExcept (decodeAscii data)
        pure (status, token) : Py (Disk E) (Stat × String))
      (fun tree => (tree.lookup path).elim (.error (.os .notFound)) Node.read) := by
    intro path
    refine Sees.congr (sees_bind (sees_fstat hworld path) (fun status _ _ =>
      sees_bind (sees_getxattr hworld path) (fun data _ _ =>
        sees_bind (sees_ofExcept (decodeAscii data)) (fun token _ _ =>
          sees_pure (status, token))))) (fun tree => ?_)
    unfold nodeAt tokenAt
    rcases hlookup : tree.lookup path with _ | node
    · rfl
    · rcases htoken : node.token with _ | data
      · simp [htoken, Node.read]
        rfl
      · simp [htoken, Node.read]
        rfl
  refine Sees.congr (sees_bind (sees_openParent hworld relative)
    (g := fun place tree => place.1.elim
      (fun path => openNode tree (path ++ [place.2]) >>= fun object =>
        (tree.lookup object).elim (.error (.os .notFound)) Node.read)
      (fun _ => .error (.os .notFound))) (fun place tree hplace => ?_)) (fun tree => ?_)
  · rcases hopen : openAll tree [] relative.parts.dropLast with e | path
    · rw [hopen] at hplace
      cases hplace
    · rw [hopen] at hplace
      cases hplace
      refine Sees.congr (sees_bind (sees_openDir hworld path _)
        (g := fun object tree => object.elim
          (fun path => (tree.lookup path).elim (.error (.os .notFound)) Node.read)
          (fun _ => .error (.os .notFound))) (fun object tree' hobject => ?_)) (fun tree' => ?_)
      · rcases hnode : openNode tree' (path ++ [relative.parts.getLast relative.nonempty]) with e | q
        · rw [hnode] at hobject
          cases hobject
        · rw [hnode] at hobject
          cases hobject
          exact hbody q
      · rw [Sum.elim_inl]
        rcases openNode tree' (path ++ [relative.parts.getLast relative.nonempty]) with e | q
        · rfl
        · rfl
  · have hopen : openAll tree [] relative.parts =
        (openAll tree [] relative.parts.dropLast >>= fun place =>
          openNode tree (place ++ [relative.parts.getLast relative.nonempty])) := by
      rw [← openAll_concat, ← hparts]
    unfold objectAt
    rw [hopen]
    rcases openAll tree [] relative.parts.dropLast with e | path
    · rfl
    · refine congrArg (openNode tree (path ++ [_]) >>= ·) (funext fun object => ?_)
      rcases tree.lookup object with _ | node
      · rfl
      · rfl

/-- What a probe makes of what it sees. -/
def probed : Except Exn (Stat × String) → Except Exn (Except String (Option (Stat × String)))
  | .ok object => .ok (.ok (some object))
  | .error (.os .notFound) => .ok (.ok none)
  | .error (.os (.other _)) | .error (.journal _) => .ok (.error "path_validation_failed")
  | .error e => .error e

theorem sees_probe (hworld : world.Answers) (relative : RelativePath) :
    Sees (probe (Disk.os world) relative) (fun tree => probed (objectAt tree relative.parts)) := by
  intro s
  rcases hrun : (readObject (os world) relative).run s with ⟨out, t⟩
  rcases (sees_readObject hworld relative).run hrun with ⟨hview, hstill⟩
  dsimp only
  rw [← hview]
  unfold probe Prog.handle
  rcases out with e | object
  · dsimp only
    rw [bind_run_error hrun]
    rcases e with (_ | _) | _ | _ | _ | _ | _
    all_goals exact ⟨rfl, hstill⟩
  · dsimp only
    rw [bind_run_ok hrun]
    exact ⟨rfl, hstill⟩

end Search

/-! ### Where a directory is -/

/-- The path leads to the object the identity describes. -/
def ShowsAt (tree : Tree) (identity : FilesystemIdentity) (place : RelativePath) : Prop :=
  match objectAt tree place.parts with
  | .ok object => identity.matchesObject object.1 object.2
  | .error _ => False

instance (tree : Tree) (identity : FilesystemIdentity) (place : RelativePath) :
    Decidable (ShowsAt tree identity place) := by
  unfold ShowsAt
  split <;> infer_instance

/-- The path leads to nothing. -/
def VacantAt (tree : Tree) (place : RelativePath) : Prop :=
  match objectAt tree place.parts with
  | .error (.os .notFound) => True
  | _ => False

instance (tree : Tree) (place : RelativePath) : Decidable (VacantAt tree place) := by
  unfold VacantAt
  split <;> infer_instance

/-- The directory is at one of its places, and nothing is at the others. -/
structure Located (tree : Tree) (identity : FilesystemIdentity) (target : Option RelativePath)
    (located : RelativePath) : Prop where
  resources : resourcesStart.toList <+: identity.relativePath.text.toList
  clear : ∀ place ∈ identity.relativePath :: target.toList,
    ShowsAt tree identity place ∨ VacantAt tree place
  unique : (identity.relativePath :: target.toList).filter (fun place =>
    ShowsAt tree identity place) = [located]

theorem exists_located_iff {tree : Tree} {identity : FilesystemIdentity}
    {target : Option RelativePath} :
    (∃ located, Located tree identity target located) ↔
      resourcesStart.toList <+: identity.relativePath.text.toList ∧
      (∀ place ∈ identity.relativePath :: target.toList,
        ShowsAt tree identity place ∨ VacantAt tree place) ∧
      ((identity.relativePath :: target.toList).filter (fun place =>
        ShowsAt tree identity place)).length = 1 := by
  constructor
  · rintro ⟨located, h⟩
    exact ⟨h.resources, h.clear, by rw [h.unique]; rfl⟩
  · rintro ⟨hresources, hclear, hlength⟩
    rcases List.length_eq_one_iff.mp hlength with ⟨located, hunique⟩
    exact ⟨located, hresources, hclear, hunique⟩

/-- What can be opened is a directory. -/
theorem objectAt_directory {tree : Tree} {place : RelativePath} {object : Stat × String}
    (h : objectAt tree place.parts = .ok object) : object.1.mode = modeDirectory := by
  unfold objectAt at h
  rcases bind_eq_ok.mp h with ⟨path, hpath, h⟩
  rw [← List.dropLast_append_getLast place.nonempty, openAll_concat] at hpath
  rcases bind_eq_ok.mp hpath with ⟨parent, -, hnode⟩
  have heq := openNode_eq_ok hnode
  rw [← heq] at hnode
  unfold openNode at hnode
  rcases hlookup : tree.lookup path with _ | node
  · rw [hlookup] at h
    cases h
  · rw [hlookup] at h hnode
    simp only at h hnode
    split at hnode
    · next hdirectory =>
      unfold Node.read at h
      split at h
      · cases h
      · rcases bind_eq_ok.mp h with ⟨token, -, h⟩
        cases h
        exact hdirectory
    · cases hnode

/-- The verdict on a place: it shows the object or leads to nothing. -/
theorem judge_probed (tree : Tree) (identity : FilesystemIdentity) (place : RelativePath)
    (isThere : Bool) :
    (probed (objectAt tree place.parts)).map (judge identity) = .ok (.ok isThere) ↔
      (ShowsAt tree identity place ∨ VacantAt tree place) ∧
        isThere = decide (ShowsAt tree identity place) := by
  rw [Bool.eq_iff_iff, decide_eq_true_iff]
  unfold ShowsAt VacantAt
  rcases hobject : objectAt tree place.parts with e | object
  · rcases e with (_ | _) | _ | _ | _ | _ | _
    all_goals simp [probed, judge, Except.map, eq_comm]
  · have hmode := objectAt_directory hobject
    by_cases hmatch : identity.matchesObject object.1 object.2
    · simp [probed, judge, Except.map, hmode, hmatch, eq_comm]
    · simp [probed, judge, Except.map, hmode, hmatch]

section Validate

variable {world : Surroundings E F}

/-- The search goes through all places: none may show anything else, and the
    result are those that show the object. -/
theorem matchCandidates_iff (hworld : world.Answers) (identity : FilesystemIdentity)
    (candidates found : List RelativePath) (s : Machine (Disk E)) :
    ((matchCandidates (Disk.os world) identity candidates).run s).1 = .ok (.ok found) ↔
      (∀ place ∈ candidates,
        ShowsAt s.world.tree identity place ∨ VacantAt s.world.tree place) ∧
        candidates.filter (fun place => ShowsAt s.world.tree identity place) = found := by
  induction candidates generalizing s found with
  | nil =>
    constructor
    · intro h
      cases h
      simp
    · rintro ⟨-, rfl⟩
      rfl
  | cons place rest ih =>
    have hverdict := judge_probed s.world.tree identity place
    rcases hrun : (probe (os world) place).run s with ⟨out, t⟩
    rcases (sees_probe hworld place).run hrun with ⟨hview, hstill⟩
    have htree : t.world.tree = s.world.tree := hstill.2
    rw [← hview] at hverdict
    unfold matchCandidates
    rcases out with e | object
    · -- The probe has raised.
      have hbad : ¬ (ShowsAt s.world.tree identity place ∨ VacantAt s.world.tree place) :=
        fun h => by simpa [Except.map] using (hverdict _).mpr ⟨h, rfl⟩
      rw [bind_run_error hrun]
      constructor
      · intro h
        cases h
      · exact fun h => absurd (h.1 place (by simp)) hbad
    rw [bind_run_ok hrun]
    simp only [Except.map, Except.ok.injEq] at hverdict
    rcases hjudge : judge identity object with reason | isThere
    · have hbad : ¬ (ShowsAt s.world.tree identity place ∨ VacantAt s.world.tree place) :=
        fun h => by simpa [hjudge] using (hverdict _).mpr ⟨h, rfl⟩
      constructor
      · intro h
        cases h
      · exact fun h => absurd (h.1 place (by simp)) hbad
    rcases (hverdict isThere).mp hjudge with ⟨hplace, hthere⟩
    have hrest := ih (s := t)
    rw [htree] at hrest
    rcases hothers : (matchCandidates (os world) identity rest).run t with ⟨others, u⟩
    rw [hothers] at hrest
    dsimp only at hrest ⊢
    rcases others with e | (reason | paths)
    · rw [bind_run_error hothers]
      constructor
      · intro h
        cases h
      · rintro ⟨hclear, rfl⟩
        exact absurd ((hrest _).mpr ⟨fun p hp => hclear p (by simp [hp]), rfl⟩) (by simp)
    · rw [bind_run_ok hothers]
      constructor
      · intro h
        cases h
      · rintro ⟨hclear, rfl⟩
        exact absurd ((hrest _).mpr ⟨fun p hp => hclear p (by simp [hp]), rfl⟩) (by simp)
    · rw [bind_run_ok hothers]
      rcases (hrest paths).mp rfl with ⟨hclear, hpaths⟩
      have hfilter : (place :: rest).filter (fun p => ShowsAt s.world.tree identity p) =
          if isThere then place :: paths else paths := by
        rw [List.filter_cons, ← hthere, hpaths]
      rw [hfilter]
      simp only [Prog.pure_run, Except.ok.injEq, List.forall_mem_cons]
      exact ⟨fun h => ⟨⟨hplace, hclear⟩, h⟩, fun h => h.2⟩

/-- The search succeeds exactly if the directory is located. -/
theorem validateFilesystem_iff (hworld : world.Answers) (identity : FilesystemIdentity)
    (target : Option RelativePath) (located : RelativePath) (s : Machine (Disk E)) :
    ((validateFilesystem (Disk.os world) identity target).run s).1 = .ok (.ok located) ↔
      Located s.world.tree identity target located := by
  unfold validateFilesystem
  split
  · next hstart =>
    constructor
    · intro h
      cases h
    · exact fun h => absurd h.resources hstart
  next hstart =>
  have hmatch := matchCandidates_iff hworld identity (identity.relativePath :: target.toList)
  rcases hrun : (matchCandidates (os world) identity
    (identity.relativePath :: target.toList)).run s with ⟨out, t⟩
  have hfound := fun found => hmatch found s
  rw [hrun] at hfound
  rcases out with e | (reason | found)
  · rw [bind_run_error hrun]
    constructor
    · intro h
      cases h
    · exact fun h => absurd ((hfound _).mpr ⟨h.clear, h.unique⟩) (by simp)
  · rw [bind_run_ok hrun]
    constructor
    · intro h
      cases h
    · exact fun h => absurd ((hfound _).mpr ⟨h.clear, h.unique⟩) (by simp)
  · rcases (hfound found).mp rfl with ⟨hclear, hunique⟩
    rw [bind_run_ok hrun]
    constructor
    · intro h
      refine ⟨not_not.mp hstart, hclear, ?_⟩
      rw [hunique]
      rcases found with _ | ⟨path, _ | _⟩
      · cases h
      · cases h
        rfl
      · cases h
    · intro h
      rw [h.unique] at hunique
      subst hunique
      rfl

end Validate

/-! ### What the first pass plans -/

/-- The directory of a record is found. -/
def Record.Found (record : Record) (tree : Tree) : Prop :=
  match record.identity with
  | .filesystem identity => ∃ located, Located tree identity record.cleanupTarget located
  | _ => False

instance (record : Record) (tree : Tree) : Decidable (record.Found tree) :=
  Identity.casesOn (motive := fun identity => Decidable (Record.Found { record with identity } tree))
    record.identity instDecidableFalse (fun _ => decidable_of_iff _ exists_located_iff.symm)
    (fun _ => instDecidableFalse) (fun _ => instDecidableFalse) (fun _ => instDecidableFalse)

section Survey

variable {world : Surroundings E F} {lease : Lease}

/-- The visit of a workable directory is its search. -/
theorem visit_plannable {W Fd : Type} (os : Os W Fd) {attemptId : String} {delegation : Option Fd}
    {record : Record} (hplan : Plannable lease record) :
    visit os lease attemptId delegation record = visitFilesystem os attemptId record := by
  have hworkable := hplan.workable
  unfold Unworkable at hworkable
  push Not at hworkable
  unfold visit
  rw [if_neg (not_not.mpr hworkable.1), if_neg, if_neg]
  · rcases hplan.directory with hkind | hkind
    · rw [hkind]
    · rw [hkind]
  · rw [classify_retained]
    rintro (⟨hretained, hkept⟩ | hambiguous)
    · exact hworkable.2.1 hretained hkept
    · exact hworkable.2.2 hambiguous
  · rw [classify_reclaimed]
    exact fun hreclaimed => hplan.unsettled (Or.inl hreclaimed)

/-- The visit of a workable directory plans it if it is found. -/
theorem visit_planned_iff (hworld : world.Answers) {attemptId : String}
    {delegation : Option (Handle F)} {record : Record} (hplan : Plannable lease record)
    {s t : Machine (Disk E)} {v : Visit}
    (h : (visit (Disk.os world) lease attemptId delegation record).run s = (.ok v, t)) :
    (∃ plan, v = .planned plan) ↔ record.Found s.world.tree := by
  rw [visit_plannable _ hplan] at h
  unfold visitFilesystem at h
  unfold Record.Found
  split at h
  · next identity hidentity =>
    rw [hidentity]
    dsimp only
    rcases bind_eq_ok_iff.mp h with ⟨checked, u, hchecked, h⟩
    have hiff := fun located =>
      validateFilesystem_iff hworld identity record.cleanupTarget located s
    rw [hchecked] at hiff
    rcases checked with reason | located
    · rcases bind_eq_ok_iff.mp h with ⟨item, w, -, h⟩
      rcases pure_eq_ok_iff.mp h with ⟨rfl, -⟩
      constructor
      · rintro ⟨plan, hv⟩
        cases hv
      · rintro ⟨located, hlocated⟩
        exact absurd ((hiff located).mpr hlocated) (by simp)
    · rcases pure_eq_ok_iff.mp h with ⟨rfl, -⟩
      exact ⟨fun _ => ⟨located, (hiff located).mp rfl⟩, fun _ => ⟨_, rfl⟩⟩
  · next hother =>
    rcases bind_eq_ok_iff.mp h with ⟨item, w, -, h⟩
    rcases pure_eq_ok_iff.mp h with ⟨rfl, -⟩
    constructor
    · rintro ⟨plan, hv⟩
      cases hv
    · intro hfound
      split at hfound
      · next identity hidentity => exact absurd hidentity (hother identity)
      · exact absurd hfound id

/-- A plan is for the record that was visited. -/
theorem visit_planned_record {W Fd : Type} {os : Os W Fd} {attemptId : String}
    {delegation : Option Fd} {record : Record} {s t : Machine W} {plan : Plan}
    (h : (visit os lease attemptId delegation record).run s = (.ok (.planned plan), t)) :
    plan.record = record := by
  have hsettles : ∀ {reason : String} {path : Option RelativePath} {u : Machine W},
      (visitAmbiguous os attemptId record reason path).run u ≠ (.ok (.planned plan), t) := by
    intro reason path u hrun
    rcases bind_eq_ok_iff.mp hrun with ⟨item, w, -, hrun⟩
    cases (pure_eq_ok_iff.mp hrun).1
  unfold visit at h
  split at h
  · exact absurd h hsettles
  split at h
  · rcases pure_eq_ok_iff.mp h with ⟨hv, -⟩
    unfold visitReclaimed at hv
    split at hv
    · split at hv <;> cases hv
    · cases hv
  split at h
  · cases (pure_eq_ok_iff.mp h).1
  split at h
  · unfold visitProcess at h
    split at h
    · rcases bind_eq_ok_iff.mp h with ⟨item, w, -, h⟩
      rcases bind_eq_ok_iff.mp h with ⟨protection, w', -, h⟩
      cases (pure_eq_ok_iff.mp h).1
    · exact absurd h hsettles
  · unfold visitCgroup at h
    split at h
    · rcases bind_eq_ok_iff.mp h with ⟨item, w, -, h⟩
      rcases bind_eq_ok_iff.mp h with ⟨protection, w', -, h⟩
      cases (pure_eq_ok_iff.mp h).1
    · split at h
      · cases (pure_eq_ok_iff.mp h).1
      · exact absurd h hsettles
  all_goals
    unfold visitFilesystem at h
    split at h
    · rcases bind_eq_ok_iff.mp h with ⟨checked, w, -, h⟩
      rcases checked with reason | located
      · exact absurd h hsettles
      · cases (pure_eq_ok_iff.mp h).1
        rfl
    · exact absurd h hsettles

/-- A protection by path is for the path of the visited record, and a record
    that is reclaimed protects nothing. -/
theorem visit_protection_path {W Fd : Type} {os : Os W Fd} {attemptId : String}
    {delegation : Option Fd} {record : Record} {s t : Machine W} {v : Visit}
    (h : (visit os lease attemptId delegation record).run s = (.ok v, t))
    {protection : Protection} (hprotection : v.protection? = some protection)
    {path : RelativePath} (hpath : protection.path = some path) :
    recordPath record = some path ∧
      ¬ (recordBelongsToRoot lease record ∧ record.phase = .reclaimed) := by
  have hsettles : ∀ {reason : String} {place : Option RelativePath} {u : Machine W},
      (visitAmbiguous os attemptId record reason place).run u = (.ok v, t) →
      place = some path := by
    intro reason place u hrun
    rcases bind_eq_ok_iff.mp hrun with ⟨item, w, -, hrun⟩
    rcases pure_eq_ok_iff.mp hrun with ⟨rfl, -⟩
    cases hprotection
    exact hpath
  have hsession : ∀ {item : RecoveryItem} {u w : Machine W} {found : Option Protection},
      (protectSession os record item).run u = (.ok found, w) →
      found ≠ some protection := by
    intro item u w found hrun heq
    unfold protectSession at hrun
    split at hrun
    · rcases pure_eq_ok_iff.mp hrun with ⟨rfl, -⟩
      cases heq
    · rcases bind_eq_ok_iff.mp hrun with ⟨current, w', -, hrun⟩
      rcases pure_eq_ok_iff.mp hrun with ⟨rfl, -⟩
      cases heq
      cases hpath
  unfold visit at h
  split at h
  · next hforeign => exact ⟨hsettles h, fun hr => hforeign hr.1⟩
  split at h
  · rcases pure_eq_ok_iff.mp h with ⟨rfl, -⟩
    unfold visitReclaimed at hprotection
    split at hprotection
    · split at hprotection <;> cases hprotection
    · cases hprotection
  next hopen =>
  rw [classify_reclaimed] at hopen
  refine ⟨?_, fun hr => hopen hr.2⟩
  split at h
  · rcases pure_eq_ok_iff.mp h with ⟨rfl, -⟩
    cases hprotection
    exact hpath
  split at h
  · unfold visitProcess at h
    split at h
    · rcases bind_eq_ok_iff.mp h with ⟨item, w, -, h⟩
      rcases bind_eq_ok_iff.mp h with ⟨found, w', hfound, h⟩
      rcases pure_eq_ok_iff.mp h with ⟨rfl, -⟩
      exact absurd hprotection (hsession hfound)
    · cases hsettles h
  · unfold visitCgroup at h
    split at h
    · rcases bind_eq_ok_iff.mp h with ⟨item, w, -, h⟩
      rcases bind_eq_ok_iff.mp h with ⟨found, w', hfound, h⟩
      rcases pure_eq_ok_iff.mp h with ⟨rfl, -⟩
      exact absurd hprotection (hsession hfound)
    · split at h
      · rcases pure_eq_ok_iff.mp h with ⟨rfl, -⟩
        cases hprotection
        cases hpath
      · cases hsettles h
  all_goals
    unfold visitFilesystem at h
    split at h
    · rcases bind_eq_ok_iff.mp h with ⟨checked, w, -, h⟩
      rcases checked with reason | located
      · exact hsettles h
      · rcases pure_eq_ok_iff.mp h with ⟨rfl, -⟩
        cases hprotection
    · exact hsettles h

/-- The visits of a survey, each with the tree of the survey. -/
theorem takeSurvey_visits {call : Call} {s t : Machine (Disk E)} {survey : Survey}
    (h : (takeSurvey (Disk.os world) lease call).run s = (.ok survey, t)) :
    ∃ delegation, List.Forall₂ (fun record v => ∃ u u' : Machine (Disk E),
        u.world.tree = s.world.tree ∧
        (visit (Disk.os world) lease call.attemptId delegation record).run u = (.ok v, u'))
      (visitOrder survey.records) survey.visits := by
  unfold takeSurvey at h
  rcases bind_eq_ok_iff.mp h with ⟨delegation, s1, hopen, h⟩
  rcases bind_eq_ok_iff.mp h with ⟨snapshot, s2, hlist, h⟩
  rcases bind_eq_ok_iff.mp h with ⟨visits, s3, hvisits, h⟩
  rcases bind_eq_ok_iff.mp h with ⟨blocked, s4, hblocked, h⟩
  rcases pure_eq_ok_iff.mp h with ⟨rfl, -⟩
  rcases openParentDelegation_outside world hopen with ⟨fd, rfl⟩
  have htree : s2.world.tree = s.world.tree := by
    have hfirst : Still s s1 := openParentDelegation_still world hopen
    have hsecond : SameTree s1 s2 := (takeSnapshot_sameTree world).of_run hlist
    exact hsecond.trans hfirst.2
  refine ⟨fd.map Sum.inr, (mapList_runs (R := SameTree)
    (fun record s => (visit_follows world lease call.attemptId fd record s).2) hvisits).imp ?_⟩
  rintro record v ⟨u, u', hu, hrun⟩
  exact ⟨u, u', hu.trans htree, hrun⟩

variable {call : Call} {s t : Machine (Disk E)} {survey : Survey}

/-- The first pass plans exactly the workable directories that are found. -/
theorem takeSurvey_planned_iff (hworld : world.Answers)
    (h : (takeSurvey (Disk.os world) lease call).run s = (.ok survey, t)) {record : Record}
    (hrecord : record ∈ s.journal.records) (hplan : Plannable lease record) :
    (∃ plan ∈ survey.plans, plan.record = record) ↔ record.Found s.world.tree := by
  have hsurveyed := surveyed_of_run h
  rcases takeSurvey_visits h with ⟨delegation, hvisits⟩
  constructor
  · rintro ⟨plan, hmem, rfl⟩
    rcases List.mem_filterMap.mp hmem with ⟨v, hv, hplanned⟩
    rcases Fallible.exists_of_mem_right hvisits hv with ⟨record, -, u, u', htree, hrun⟩
    cases v with
    | settled item observation protection => cases hplanned
    | planned other =>
      cases hplanned
      rw [visit_planned_record hrun] at hplan ⊢
      rw [← htree]
      exact (visit_planned_iff hworld hplan hrun).mp ⟨plan, rfl⟩
  · intro hfound
    have hmem : record ∈ visitOrder survey.records :=
      ((visitOrder_perm survey.records).trans hsurveyed.records).mem_iff.mpr hrecord
    rcases Fallible.exists_of_mem_left hvisits hmem with ⟨v, hv, u, u', htree, hrun⟩
    rw [← htree] at hfound
    rcases (visit_planned_iff hworld hplan hrun).mpr hfound with ⟨plan, rfl⟩
    exact ⟨plan, List.mem_filterMap.mpr ⟨_, hv, rfl⟩, visit_planned_record hrun⟩

/-- A protection by path comes from a record with that path, which is neither
    reclaimed nor a workable directory that is found. -/
theorem takeSurvey_protection_path (hworld : world.Answers)
    (h : (takeSurvey (Disk.os world) lease call).run s = (.ok survey, t))
    {protection : Protection} (hprotection : protection ∈ survey.protections)
    {path : RelativePath} (hpath : protection.path = some path) :
    ∃ record ∈ s.journal.records, recordPath record = some path ∧
      ¬ (recordBelongsToRoot lease record ∧ record.phase = .reclaimed) ∧
      ¬ (Plannable lease record ∧ record.Found s.world.tree) := by
  have hsurveyed := surveyed_of_run h
  rcases takeSurvey_visits h with ⟨delegation, hvisits⟩
  rcases List.mem_filterMap.mp hprotection with ⟨v, hv, hsome⟩
  rcases Fallible.exists_of_mem_right hvisits hv with ⟨record, hmem, u, u', htree, hrun⟩
  rcases visit_protection_path hrun hsome hpath with ⟨hrecord, hopen⟩
  refine ⟨record, ?_, hrecord, hopen, ?_⟩
  · exact ((visitOrder_perm survey.records).trans hsurveyed.records).mem_iff.mp hmem
  · rintro ⟨hplan, hfound⟩
    rw [← htree] at hfound
    rcases (visit_planned_iff hworld hplan hrun).mpr hfound with ⟨plan, rfl⟩
    cases hsome

end Survey

end MirrorGate
