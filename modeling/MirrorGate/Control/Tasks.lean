import MirrorGate.Control.Protocol
import MirrorGate.Lib.Fallible
import MirrorGate.Lib.Text
import MirrorGate.Worker.Port

/-!
# Relative Paths and Public Tasks

A relative path is checked by the policy of the supervisor, by its control
protocol and by the Node library. The first normalizes the path and compares,
the second looks at the components, and the third does both. They accept the
same strings.

The task of a hosted agent is checked twice as well, when it comes off the wire
and when the agent is admitted. The second check refuses texts with a NUL, which
the first lets pass; nothing else that passes the first check is refused.

A string is the list of its code points, and a surrogate that stands alone is
one of them.

## Main definitions

* `checkedRelativePath`, `inputRefPath`, `relativePath`: The three checks.
* `validatePublicTask`, `publicTask`: The two checks of a task.

## Theorems

* `relativePaths_agree`: The checks of a path accept the same strings.
* `task_admitted_iff`: A task that passed the wire is admitted if its texts have
  no NUL.
-/

namespace MirrorGate.Control

open Fallible

/-! ### Strings -/

def isSurrogate (n : Nat) : Bool := 0xD800 ≤ n && n ≤ 0xDFFF

def utf8Width (n : Nat) : Nat :=
  if n < 0x80 then 1 else if n < 0x800 then 2 else if n < 0x10000 then 3 else 4

def utf8Length (value : List Nat) : Nat := (value.map utf8Width).sum

/-- The length in UTF-8, which a surrogate has no place in. -/
def encoded {ε : Type} (error : ε) (value : List Nat) : Except ε Nat :=
  if value.any isSurrogate then .error error else .ok (utf8Length value)

def slash : Nat := 47

def dot : List Nat := [46]

def dotDot : List Nat := [46, 46]

def components (value : List Nat) : List (List Nat) := value.splitOn slash

/-- A component that names something. -/
def Named (part : List Nat) : Prop := part ≠ [] ∧ part ≠ dot ∧ part ≠ dotDot

instance (part : List Nat) : Decidable (Named part) := inferInstanceAs (Decidable (_ ∧ _ ∧ _))

/-! ### The checks of a path -/

/-- `PurePosixPath`: two slashes at the start are a root of their own. -/
structure PurePosixPath where
  root : List Nat
  names : List (List Nat)

def namesOf (value : List Nat) : List (List Nat) :=
  (components value).filter fun part => part ≠ [] ∧ part ≠ dot

def PurePosixPath.ofText : List Nat → PurePosixPath
  | 47 :: 47 :: 47 :: rest => ⟨[slash], namesOf rest⟩
  | 47 :: 47 :: rest => ⟨[slash, slash], namesOf rest⟩
  | 47 :: rest => ⟨[slash], namesOf rest⟩
  | rest => ⟨[], namesOf rest⟩

def PurePosixPath.text (path : PurePosixPath) : List Nat :=
  if path.root = [] ∧ path.names = [] then dot
  else path.root ++ [slash].intercalate path.names

/-- `checked_relative_path`. -/
def checkedRelativePath (label : String) (value : List Nat) : Except String (List Nat) := do
  let length ← encoded (label ++ " must contain Unicode scalars") value
  let path := PurePosixPath.ofText value
  if 0 ∈ value ∨ 1024 < length then .error (label ++ " must be a bounded UTF-8 relative path")
  else if path.root ≠ [] ∨ dotDot ∈ path.names ∨ path.text ≠ value ∨ value = [] then
    .error (label ++ " must be canonical and relative")
  else .ok value

/-- `_scalar_string`. -/
def scalarString (label : String) (limit : Nat) (nonempty : Bool) (value : List Nat) :
    Except ControlError Nat :=
  if nonempty ∧ value = [] then .error ⟨.argumentInvalid, .bootstrap, label ++ " must be a string"⟩
  else do
    let length ← encoded
      ⟨.argumentInvalid, .bootstrap, label ++ " contains an invalid Unicode scalar"⟩ value
    if limit < length then .error ⟨.limitExceeded, .bootstrap, label ++ " exceeds its byte limit"⟩
    else .ok length

/-- The check of the path in `_input_ref`. -/
def inputRefPath (path : List Nat) : Except ControlError (List Nat) := do
  let _ ← scalarString "relativePath" 1024 true path
  if path.head? = some slash ∨ 0 ∈ path ∨ (path ≠ dot ∧ ∃ part ∈ components path, ¬ Named part) then
    .error ⟨.argumentInvalid, .policy, "relativePath is not canonical"⟩
  else .ok path

/-- A component after those that were kept. -/
def resolve (absolute : Bool) (kept : List (List Nat)) (part : List Nat) : List (List Nat) :=
  if part = [] ∨ part = dot then kept
  else if part = dotDot then
    if kept = [] ∧ absolute then []
    else if kept = [] ∨ kept.getLast? = some dotDot then kept ++ [dotDot]
    else kept.dropLast
  else kept ++ [part]

/-- `normalize` of the Node path module, component by component. -/
def normalize (value : List Nat) : List Nat :=
  let absolute : Bool := value.head? = some slash
  let trailing := if value.getLast? = some slash then [slash] else []
  let body := [slash].intercalate ((components value).foldl (resolve absolute) [])
  if body = [] then (if absolute then [slash] else dot ++ trailing)
  else (if absolute then [slash] else []) ++ (body ++ trailing)

/-- `relativePath` of the Node library. -/
def relativePath (label : String) (value : List Nat) : Except String (List Nat) := do
  let length ← encoded ("Invalid " ++ label) value
  if value = [] ∨ 1024 < length then .error ("Invalid " ++ label)
  else if 0 ∈ value ∨ value.head? = some slash ∨
      (value ≠ dot ∧ (normalize value ≠ value ∨ ∃ part ∈ components value, ¬ Named part)) then
    .error ("Invalid " ++ label)
  else .ok value

def Canonical (value : List Nat) : Prop := value = dot ∨ ∀ part ∈ components value, Named part

theorem nil_mem_of_slash {value : List Nat}
    (h : value.head? = some slash ∨ value.getLast? = some slash) : [] ∈ components value := by
  have hsplit : ∃ before after, value = before ++ slash :: after ∧ (before = [] ∨ after = []) := by
    rcases h with h | h
    · rcases List.head?_eq_some_iff.mp h with ⟨rest, rfl⟩
      exact ⟨[], rest, rfl, .inl rfl⟩
    · rcases List.getLast?_eq_some_iff.mp h with ⟨front, rfl⟩
      exact ⟨front, [], rfl, .inr rfl⟩
  rcases hsplit with ⟨before, after, rfl, hedge⟩
  rw [components, List.splitOn, List.splitOnP_append_cons _ _ (by simp)]
  rcases hedge with rfl | rfl <;> simp

theorem Canonical.edges {value : List Nat} (h : Canonical value) :
    value ≠ [] ∧ value.head? ≠ some slash ∧ value.getLast? ≠ some slash := by
  rcases h with rfl | h
  · decide
  · refine ⟨?_, fun hhead => ?_, fun hlast => ?_⟩
    · rintro rfl
      exact (h [] (by simp [components])).1 rfl
    · exact (h [] (nil_mem_of_slash (.inl hhead))).1 rfl
    · exact (h [] (nil_mem_of_slash (.inr hlast))).1 rfl

/-- A path without a root is canonical if nothing is lost when it is taken apart
    and put together again. -/
theorem ofText_canonical {value : List Nat} (hhead : value.head? ≠ some slash) :
    PurePosixPath.ofText value = ⟨[], namesOf value⟩ ∧
      ((dotDot ∉ namesOf value ∧ PurePosixPath.text ⟨[], namesOf value⟩ = value ∧ value ≠ []) ↔
        Canonical value) := by
  refine ⟨?_, ?_, fun h => ⟨fun hbad => ?_, ?_, h.edges.1⟩⟩
  · unfold PurePosixPath.ofText
    split <;> first | rfl | exact absurd rfl hhead
  · rintro ⟨hdots, htext, -⟩
    by_cases hnames : namesOf value = []
    · exact .inl (htext.symm.trans (if_pos ⟨rfl, hnames⟩))
    · -- The names, joined and split again, are the components.
      have hvalue : [slash].intercalate (namesOf value) = value :=
        (if_neg fun hbad => hnames hbad.2).symm.trans htext
      have hsame : components value = namesOf value := by
        conv_lhs => rw [← hvalue]
        refine List.splitOn_intercalate _ (fun part hpart hbad => ?_) hnames
        have hmem : part ∈ components value := List.mem_of_mem_filter hpart
        simpa using Text.eq_false_of_mem_splitOnP _ _ _ hmem slash hbad
      refine .inr fun part hpart => ?_
      rw [hsame] at hpart
      have hkept : part ≠ [] ∧ part ≠ dot := by simpa using List.of_mem_filter hpart
      exact ⟨hkept.1, hkept.2, fun hbad => hdots (hbad ▸ hpart)⟩
  · rcases h with rfl | h
    · revert hbad
      decide
    · exact (h _ (List.mem_of_mem_filter hbad)).2.2 rfl
  · rcases h with rfl | h
    · decide
    · have hall : namesOf value = components value :=
        List.filter_eq_self.mpr fun part hpart => by
          simpa using ⟨(h part hpart).1, (h part hpart).2.1⟩
      rw [hall, PurePosixPath.text, if_neg (by simp [components]), List.nil_append, components,
        List.intercalate_splitOn]

theorem foldl_resolve {absolute : Bool} (parts kept : List (List Nat))
    (h : ∀ part ∈ parts, Named part) : parts.foldl (resolve absolute) kept = kept ++ parts := by
  induction parts generalizing kept with
  | nil => simp
  | cons part parts ih =>
    rcases h part (by simp) with ⟨hne, hdot, hdots⟩
    rw [List.foldl_cons, resolve, if_neg (by simp [hne, hdot]), if_neg hdots,
      ih _ fun part hpart => h part (by simp [hpart]), List.append_assoc, List.singleton_append]

theorem normalize_canonical {value : List Nat} (h : Canonical value) (hdot : value ≠ dot) :
    normalize value = value := by
  rcases h.edges with ⟨hne, hhead, hlast⟩
  have hbody : [slash].intercalate ((components value).foldl (resolve false) []) = value := by
    rw [foldl_resolve _ _ (h.resolve_left hdot), List.nil_append, components,
      List.intercalate_splitOn]
  simp [normalize, hhead, hlast, hbody, hne]

/-- What all of them accept. -/
def Acceptable (value : List Nat) : Prop :=
  value.any isSurrogate = false ∧ utf8Length value ≤ 1024 ∧ 0 ∉ value ∧ Canonical value

section Checks

variable {ε : Type} {error : ε} {label : String} {value accepted : List Nat}

theorem encoded_eq_ok {length : Nat} :
    encoded error value = .ok length ↔
      value.any isSurrogate = false ∧ utf8Length value = length := by
  rw [encoded, guard_eq_ok, Bool.not_eq_true, Except.ok.injEq]

theorem scalarString_eq_ok {limit length : Nat} {nonempty : Bool} :
    scalarString label limit nonempty value = .ok length ↔
      (nonempty = true → value ≠ []) ∧ value.any isSurrogate = false ∧
        utf8Length value ≤ limit ∧ utf8Length value = length := by
  simp only [scalarString, guard_eq_ok, bind_eq_ok, encoded_eq_ok, Except.ok.injEq, not_and,
    not_lt]
  constructor
  · rintro ⟨hne, _, ⟨hscalar, rfl⟩, hle, rfl⟩
    exact ⟨hne, hscalar, hle, rfl⟩
  · rintro ⟨hne, hscalar, hle, rfl⟩
    exact ⟨hne, _, ⟨hscalar, rfl⟩, hle, rfl⟩

theorem checkedRelativePath_eq_ok :
    checkedRelativePath label value = .ok accepted ↔ Acceptable value ∧ value = accepted := by
  simp only [checkedRelativePath, bind_eq_ok, encoded_eq_ok, guard_eq_ok, Except.ok.injEq, not_or,
    not_not, not_lt]
  constructor
  · rintro ⟨_, ⟨hscalar, rfl⟩, ⟨hnul, hle⟩, ⟨hroot, hdots, htext, hne⟩, rfl⟩
    have hhead : value.head? ≠ some slash := by
      intro hhead
      rcases List.head?_eq_some_iff.mp hhead with ⟨rest, rfl⟩
      unfold PurePosixPath.ofText at hroot
      split at hroot
      · cases hroot
      · cases hroot
      · cases hroot
      · next h => exact h rest rfl
    rcases ofText_canonical hhead with ⟨hpath, hiff⟩
    rw [hpath] at hdots htext
    exact ⟨⟨hscalar, hle, hnul, hiff.mp ⟨hdots, htext, hne⟩⟩, rfl⟩
  · rintro ⟨⟨hscalar, hle, hnul, hcanonical⟩, rfl⟩
    rcases ofText_canonical hcanonical.edges.2.1 with ⟨hpath, hiff⟩
    rw [hpath]
    exact ⟨_, ⟨hscalar, rfl⟩, ⟨hnul, hle⟩, ⟨rfl, hiff.mpr hcanonical⟩, rfl⟩

theorem inputRefPath_eq_ok :
    inputRefPath value = .ok accepted ↔ Acceptable value ∧ value = accepted := by
  simp only [inputRefPath, bind_eq_ok, scalarString_eq_ok, guard_eq_ok, Except.ok.injEq, not_or,
    not_and, not_exists, not_not]
  constructor
  · rintro ⟨_, ⟨-, hscalar, hle, -⟩, ⟨-, hnul, hparts⟩, rfl⟩
    exact ⟨⟨hscalar, hle, hnul, (em (value = dot)).imp_right hparts⟩, rfl⟩
  · rintro ⟨⟨hscalar, hle, hnul, hcanonical⟩, rfl⟩
    rcases hcanonical.edges with ⟨hne, hhead, -⟩
    exact ⟨_, ⟨fun _ => hne, hscalar, hle, rfl⟩, ⟨hhead, hnul, hcanonical.resolve_left⟩, rfl⟩

theorem relativePath_eq_ok :
    relativePath label value = .ok accepted ↔ Acceptable value ∧ value = accepted := by
  simp only [relativePath, bind_eq_ok, encoded_eq_ok, guard_eq_ok, Except.ok.injEq, not_or,
    not_and, not_exists, not_not, not_lt]
  constructor
  · rintro ⟨_, ⟨hscalar, rfl⟩, ⟨-, hle⟩, ⟨hnul, -, hparts⟩, rfl⟩
    exact ⟨⟨hscalar, hle, hnul, (em (value = dot)).imp_right fun h => (hparts h).2⟩, rfl⟩
  · rintro ⟨⟨hscalar, hle, hnul, hcanonical⟩, rfl⟩
    rcases hcanonical.edges with ⟨hne, hhead, -⟩
    refine ⟨_, ⟨hscalar, rfl⟩, ⟨hne, hle⟩, ⟨hnul, hhead, fun hdot => ?_⟩, rfl⟩
    exact ⟨normalize_canonical hcanonical hdot, hcanonical.resolve_left hdot⟩

end Checks

/-- The checks accept the same strings, and none of them changes what it
    accepts. -/
theorem relativePaths_agree (label : String) (value accepted : List Nat) :
    (checkedRelativePath label value = .ok accepted ↔ inputRefPath value = .ok accepted) ∧
      (inputRefPath value = .ok accepted ↔ relativePath label value = .ok accepted) := by
  rw [checkedRelativePath_eq_ok, inputRefPath_eq_ok, relativePath_eq_ok]
  exact ⟨Iff.rfl, Iff.rfl⟩

/-! ### The checks of a task -/

def codePoints (text : String) : List Nat := text.toList.map Char.toNat

/-- The text of a field. -/
def textOf {ε : Type} (error : ε) (value : Json) (key : String) : Except ε String :=
  match value.member? key with
  | some (.str text) => .ok text
  | _ => .error error

def depthBudget : ControlError :=
  ⟨.limitExceeded, .bootstrap, "JSON depth or node budget exceeded"⟩

/-- The walk of `_bounds`, with the number of values that may still come. -/
def boundsFrom : Nat → List (Json × Nat) → Except ControlError Unit
  | _, [] => .ok ()
  | 0, _ :: _ => .error depthBudget
  | left + 1, (item, depth) :: stack =>
    if 128 < depth then .error depthBudget
    else
      match item with
      | .obj members => do
        members.forM fun m => discard (scalarString "object key" 1048576 false (codePoints m.1))
        boundsFrom left ((members.map fun m => (m.2, depth + 1)).reverse ++ stack)
      | .arr items => boundsFrom left ((items.map fun j => (j, depth + 1)).reverse ++ stack)
      | .str text => do
        let _ ← scalarString "string" 1048576 false (codePoints text)
        boundsFrom left stack
      | .int n =>
        if 9007199254740991 < |n| then .error ⟨.argumentInvalid, .bootstrap, "unsafe JSON integer"⟩
        else boundsFrom left stack
      | .null | .bool _ => boundsFrom left stack

/-- `_object`. -/
def objectOf {ε : Type} (error : ε) (fields : List String) (value : Json) : Except ε Unit :=
  if value.exact fields then .ok () else .error error

/-- `.mirrorgate`, which a task has no files in. -/
def reserved : List Nat := codePoints ".mirrorgate"

/-- One of the paths would be a directory above the other. -/
def Collides (path other : List Nat) : Prop :=
  other ++ [slash] <+: path ∨ path ++ [slash] <+: other

instance (path other : List Nat) : Decidable (Collides path other) :=
  inferInstanceAs (Decidable (_ ∨ _))

/-- The paths so far, and the bytes of their texts. -/
structure Seen where
  paths : List (List Nat) := []
  total : Nat := 0

def fieldsError (label : String) : ControlError :=
  ⟨.argumentInvalid, .bootstrap, label ++ " fields do not match contract"⟩

/-- A file in `validate_public_task`. -/
def validateFile (seen : Seen) (item : Json) : Except ControlError Seen := do
  objectOf (fieldsError "public file") ["path", "text"] item
  let path ← codePoints <$> textOf (fieldsError "public file path") item "path"
  let _ ← scalarString "public file path" 1024 true path
  if path.head? = some slash ∨ 92 ∈ path ∨ 0 ∈ path ∨ (∃ part ∈ components path, ¬ Named part) ∨
      (components path).head? = some reserved then
    .error ⟨.argumentInvalid, .hosting, "noncanonical or reserved public file path"⟩
  else if path ∈ seen.paths ∨ ∃ other ∈ seen.paths, Collides path other then
    .error ⟨.argumentInvalid, .hosting, "colliding public file paths"⟩
  else do
    let text ← textOf (fieldsError "public file text") item "text"
    let length ← scalarString "public file text" 262144 false (codePoints text)
    if 262144 < seen.total + length then
      .error ⟨.limitExceeded, .hosting, "public file text exceeds aggregate limit"⟩
    else .ok ⟨path :: seen.paths, seen.total + length⟩

/-- `validate_public_task`. -/
def validatePublicTask (value : Json) : Except ControlError Seen := do
  boundsFrom 16384 [(value, 0)]
  objectOf (fieldsError "public task") ["instructions", "files"] value
  let instructions ← textOf (fieldsError "instructions") value "instructions"
  let _ ← scalarString "instructions" 65536 true (codePoints instructions)
  match value.member? "files" with
  | some (.arr files) =>
    if 128 < files.length then
      .error ⟨.limitExceeded, .hosting, "public files exceed count limit"⟩
    else files.foldlM validateFile {}
  | _ => .error ⟨.limitExceeded, .hosting, "public files exceed count limit"⟩

/-- `utf8` of `public_task`. -/
def boundedText (limit : Nat) (text : String) : Except String Nat := do
  let length ← encoded "public task contains invalid Unicode" (codePoints text)
  if 0 ∈ codePoints text ∨ limit < length then .error "public task text exceeds its bound"
  else .ok length

structure PublicTask where
  instructions : String
  files : List (String × String)

/-- A file in `public_task`. -/
def publicFile (seen : Seen) (item : Json) : Except String (Seen × String × String) := do
  objectOf "public task file fields do not match the control policy schema" ["path", "text"] item
  let name ← textOf "path must be a bounded UTF-8 relative path" item "path"
  let path ← checkedRelativePath "path" (codePoints name)
  if path = dot ∨ (components path).head? = some reserved ∨ path ∈ seen.paths then
    .error "public task path is reserved or duplicated"
  else if ∃ other ∈ seen.paths, Collides path other then .error "public task paths conflict"
  else do
    let text ← textOf "public task text exceeds its bound" item "text"
    let length ← boundedText 262144 text
    if 262144 < seen.total + length then .error "public task files exceed their byte bound"
    else .ok (⟨path :: seen.paths, seen.total + length⟩, name, text)

def publicFiles : Seen → List Json → Except String (List (String × String))
  | _, [] => .ok []
  | seen, item :: items => do
    let (seen, file) ← publicFile seen item
    (file :: ·) <$> publicFiles seen items

/-- `public_task`. -/
def publicTask (value : Json) : Except String PublicTask := do
  objectOf "public task fields do not match the control policy schema" ["instructions", "files"]
    value
  let instructions ← textOf "public task text exceeds its bound" value "instructions"
  let _ ← boundedText 65536 instructions
  match value.member? "files" with
  | some (.arr files) =>
    if 128 < files.length then .error "public task files exceed their bound"
    else PublicTask.mk instructions <$> publicFiles {} files
  | _ => .error "public task files exceed their bound"

/-- The fields of a file. -/
def IsFile (item : Json) (file : String × String) : Prop :=
  item.exact ["path", "text"] = true ∧ item.member? "path" = some (.str file.1) ∧
    item.member? "text" = some (.str file.2)

/-- A value is the task, without anything changed. -/
def IsTask (value : Json) (task : PublicTask) : Prop :=
  value.exact ["instructions", "files"] = true ∧
    value.member? "instructions" = some (.str task.instructions) ∧
    ∃ items, value.member? "files" = some (.arr items) ∧ List.Forall₂ IsFile items task.files

/-- No text of the task has a NUL in it. -/
def PublicTask.NulFree (task : PublicTask) : Prop :=
  0 ∉ codePoints task.instructions ∧ ∀ file ∈ task.files, 0 ∉ codePoints file.2

theorem objectOf_eq_ok {ε : Type} {error : ε} {fields : List String} {value : Json} {u : Unit} :
    objectOf error fields value = .ok u ↔ value.exact fields = true := by
  unfold objectOf
  cases value.exact fields <;> simp

theorem textOf_eq_ok {ε : Type} {error : ε} {value : Json} {key text : String} :
    textOf error value key = .ok text ↔ value.member? key = some (.str text) := by
  unfold textOf
  split
  · next found heq => simp [heq]
  · next hother => simpa using hother text

theorem boundedText_eq_ok {limit length : Nat} {text : String} :
    boundedText limit text = .ok length ↔ (codePoints text).any isSurrogate = false ∧
      0 ∉ codePoints text ∧ utf8Length (codePoints text) ≤ limit ∧
      utf8Length (codePoints text) = length := by
  simp only [boundedText, bind_eq_ok, encoded_eq_ok, guard_eq_ok, Except.ok.injEq, not_or, not_lt]
  constructor
  · rintro ⟨_, ⟨hscalar, rfl⟩, ⟨hnul, hle⟩, rfl⟩
    exact ⟨hscalar, hnul, hle, rfl⟩
  · rintro ⟨hscalar, hnul, hle, rfl⟩
    exact ⟨_, ⟨hscalar, rfl⟩, ⟨hnul, hle⟩, rfl⟩

/-- A file that passed the first check passes the second one, if its text has no
    NUL. -/
theorem publicFile_iff {seen seen' : Seen} {item : Json}
    (h : validateFile seen item = .ok seen') :
    ∃ file, IsFile item file ∧
      ∀ r, publicFile seen item = .ok r ↔ 0 ∉ codePoints file.2 ∧ r = (seen', file) := by
  simp only [validateFile, bind_eq_ok, map_eq_ok, objectOf_eq_ok, textOf_eq_ok,
    scalarString_eq_ok, guard_eq_ok, Except.ok.injEq, not_or, not_exists, not_and, not_not,
    not_lt] at h
  rcases h with ⟨_, hexact, _, ⟨name, hname, rfl⟩, _, ⟨hne, hscalar, hle, -⟩,
    ⟨-, -, hnul, hparts, hreserved⟩, ⟨hfresh, hapart⟩, text, htext, _, ⟨-, htscalar, htle, rfl⟩,
    htotal, rfl⟩
  have hdot : codePoints name ≠ dot := by
    intro hbad
    exact (hparts dot (by rw [hbad]; decide)).2.1 rfl
  refine ⟨(name, text), ⟨hexact, hname, htext⟩, fun r => ?_⟩
  simp only [publicFile, bind_eq_ok, objectOf_eq_ok, textOf_eq_ok, checkedRelativePath_eq_ok,
    boundedText_eq_ok, guard_eq_ok, Except.ok.injEq, not_or, not_exists, not_and, not_lt]
  constructor
  · rintro ⟨_, -, name', hname', _, ⟨-, rfl⟩, -, -, text', htext', _, ⟨-, hfree, -, rfl⟩, -, rfl⟩
    cases hname'.symm.trans hname
    cases htext'.symm.trans htext
    exact ⟨hfree, rfl⟩
  · rintro ⟨hfree, rfl⟩
    exact ⟨(), hexact, name, hname, _, ⟨⟨hscalar, hle, hnul, .inr hparts⟩, rfl⟩,
      ⟨hdot, hreserved, hfresh⟩, hapart, text, htext, _, ⟨htscalar, hfree, htle, rfl⟩, htotal, rfl⟩

theorem publicFiles_iff {items : List Json} {seen seen' : Seen}
    (h : items.foldlM validateFile seen = .ok seen') :
    ∃ files, List.Forall₂ IsFile items files ∧ ∀ admitted, publicFiles seen items = .ok admitted ↔
      (∀ file ∈ files, 0 ∉ codePoints file.2) ∧ admitted = files := by
  induction items generalizing seen with
  | nil => exact ⟨[], .nil, fun admitted => by simp [publicFiles, eq_comm]⟩
  | cons item items ih =>
    rw [List.foldlM_cons] at h
    rcases bind_eq_ok.mp h with ⟨next, hfirst, hrest⟩
    rcases publicFile_iff hfirst with ⟨file, hfile, hadmitted⟩
    rcases ih hrest with ⟨files, hfiles, hothers⟩
    refine ⟨file :: files, .cons hfile hfiles, fun admitted => ?_⟩
    simp only [publicFiles, bind_eq_ok, map_eq_ok, hadmitted, List.forall_mem_cons]
    constructor
    · rintro ⟨_, ⟨hfree, rfl⟩, rest, hrest, rfl⟩
      rcases (hothers rest).mp hrest with ⟨hall, rfl⟩
      exact ⟨⟨hfree, hall⟩, rfl⟩
    · rintro ⟨⟨hfree, hall⟩, rfl⟩
      exact ⟨_, ⟨hfree, rfl⟩, _, (hothers files).mpr ⟨hall, rfl⟩, rfl⟩

/-- A value that passed the check of the wire is a task, and is admitted exactly
    if no text of it has a NUL, and then unchanged. -/
theorem task_admitted_iff (value : Json) (seen : Seen) (h : validatePublicTask value = .ok seen) :
    ∃ task, IsTask value task ∧
      ∀ admitted, publicTask value = .ok admitted ↔ task.NulFree ∧ admitted = task := by
  unfold validatePublicTask at h
  simp only [bind_eq_ok, objectOf_eq_ok, textOf_eq_ok, scalarString_eq_ok] at h
  rcases h with ⟨-, -, _, hexact, instructions, htext, _, ⟨-, hscalar, hle, -⟩, h⟩
  split at h
  · next items hitems =>
    rcases guard_eq_ok.mp h with ⟨hcount, h⟩
    rcases publicFiles_iff h with ⟨files, hfiles, hadmitted⟩
    refine ⟨⟨instructions, files⟩, ⟨hexact, htext, items, hitems, hfiles⟩, fun admitted => ?_⟩
    simp only [publicTask, bind_eq_ok, objectOf_eq_ok, textOf_eq_ok, boundedText_eq_ok, hitems,
      guard_eq_ok, map_eq_ok, hadmitted]
    constructor
    · rintro ⟨_, -, text, htext', _, ⟨-, hfree, -⟩, -, _, ⟨hall, rfl⟩, rfl⟩
      cases htext'.symm.trans htext
      exact ⟨⟨hfree, hall⟩, rfl⟩
    · rintro ⟨⟨hfree, hall⟩, rfl⟩
      exact ⟨(), hexact, _, htext, _, ⟨hscalar, hfree, hle, rfl⟩, hcount, _, ⟨hall, rfl⟩, rfl⟩
  · cases h

/-- A task with one file. -/
def oneFile (text : String) : Json :=
  .obj [("files", .arr [.obj [("path", .str "a/b"), ("text", .str text)]]),
    ("instructions", .str "run")]

theorem task_admitted_oneFile : ∃ task, IsTask (oneFile "ok") task ∧
    ∀ admitted, publicTask (oneFile "ok") = .ok admitted ↔ task.NulFree ∧ admitted = task :=
  task_admitted_iff (oneFile "ok") ⟨[[97, 47, 98]], 2⟩ rfl

/-- A text with a NUL passes the wire and is refused when the agent is
    admitted. -/
theorem nulText_refused : (validatePublicTask (oneFile "\x00")).isOk = true ∧
    (publicTask (oneFile "\x00")).isOk = false := by
  decide

end MirrorGate.Control
