import MirrorGate.Worker.Port
import Mathlib.Data.List.Perm.Subperm

/-!
# One Language of Requests

Three implementations check the requests to a worker: the supervisor before it
sends one, and the runtimes for Rust and for Node when they get it. All of them
start from the object that a valid frame holds.

The supervisor and the runtime for Rust first walk over the whole object once
more. It came from a frame that was within the limits, so that does nothing.
The supervisor compares sets of keys and the others their number, which is the
same for the keys of an object. In the end the two accept the same requests.

The runtime for Node does not look at the names of the inputs, and it tests the
digest of a hello without making sure that it is a string.

## Main definitions

* `boundsWith`: The walk over an object.
* `validateRequest`, `rustAccepts`, `nodeAccepts`: The three checks.
* `Received`: An object that a valid frame holds.
* `Lax`: The requests that only the runtime for Node accepts.

## Theorems

* `boundsWith_ok`: The walk finds nothing in a received object.
* `hasFields_eq_exact`: Comparing keys is counting them.
* `validateRequest_isOk`: The supervisor accepts what the runtime for Rust does.
* `nodeAccepts_iff`: The runtime for Node accepts the lax requests too.
* `requests_agree_iff`: When all three agree.
* `requests_disagree`: A hello and an invocation about which they do not.
-/

namespace Json

/-- The values that an array or an object holds. -/
def children : Json → List Json
  | .arr items => items
  | .obj members => members.map (·.2)
  | _ => []

theorem values_eq (j : Json) : j.values = 1 + (j.children.map values).sum := by
  have hitems (items : List Json) : valuesItems items = (items.map values).sum := by
    induction items with
    | nil => rfl
    | cons j items ih => rw [valuesItems, ih, List.map_cons, List.sum_cons]
  have hmembers (members : List (String × Json)) :
      valuesMembers members = ((members.map (·.2)).map values).sum := by
    induction members with
    | nil => rfl
    | cons m members ih => rw [valuesMembers, ih, List.map_cons, List.map_cons, List.sum_cons]
  cases j with
  | arr items => rw [values, hitems, children]
  | obj members => rw [values, hmembers, children]
  | _ => simp [values, children]

theorem height_children {j child : Json} (h : child ∈ j.children) :
    child.height + 1 ≤ j.height := by
  cases j with
  | arr items =>
    rw [height]
    change child ∈ items at h
    induction items with
    | nil => cases h
    | cons j items ih =>
      rw [heightItems]
      rcases List.mem_cons.mp h with rfl | h
      · omega
      · exact (ih h).trans (le_max_right _ _)
  | obj members =>
    rw [height]
    change child ∈ members.map (·.2) at h
    induction members with
    | nil => cases h
    | cons m members ih =>
      rw [heightMembers]
      rcases List.mem_cons.mp h with rfl | h
      · dsimp only
        omega
      · exact (ih h).trans (le_max_right _ _)
  | _ => cases h

theorem All.children {p : Int → Prop} {q : String → Prop} {j child : Json} (h : All p q j)
    (hchild : child ∈ j.children) : All p q child := by
  cases j with
  | arr items => exact (allItems_iff items).mp h child hchild
  | obj members =>
    obtain ⟨m, hm, rfl⟩ := List.mem_map.mp hchild
    exact ((allMembers_iff members).mp h m hm).2
  | _ => cases hchild

end Json

namespace MirrorGate.Codec

/-! ### The walk over an object -/

/-- The errors of a walk. Some implementations count the children of a value
    when they find them, and not only when they come to them. -/
structure BoundsErrors (ε : Type) where
  limit : ε
  early : Option ε
  number : ε

/-- The values are put on top of the stack, the last one first. -/
def push (items : List Json) (depth : Nat) (stack : List (Json × Nat)) : List (Json × Nat) :=
  (items.map fun j => (j, depth)).reverse ++ stack

theorem sum_push (items : List Json) (depth : Nat) (stack : List (Json × Nat)) :
    ((push items depth stack).map fun e => e.1.values).sum =
      (items.map Json.values).sum + (stack.map fun e => e.1.values).sum := by
  simp [push, List.sum_reverse, Function.comp_def]

section Walk

variable {ε : Type}

/-- What is wrong with a value, after so many were counted and while so many
    wait. -/
def boundsError (errors : BoundsErrors ε) (item : Json) (depth waiting count : Nat) : Option ε :=
  if 96 < depth ∨ 8192 < count then some errors.limit
  else
    match item with
    | .arr _ | .obj _ =>
      if 8192 < item.children.length + waiting + count then errors.early else none
    | .int n => if 9007199254740991 < |n| then some errors.number else none
    | .null | .bool _ | .str _ => none

/-- The walk over the values on a stack, with their depths. -/
def boundsWith (errors : BoundsErrors ε) : List (Json × Nat) → Nat → Except ε Unit
  | [], _ => .ok ()
  | (item, depth) :: stack, count =>
    match boundsError errors item depth stack.length (count + 1) with
    | some error => .error error
    | none => boundsWith errors (push item.children (depth + 1) stack) (count + 1)
termination_by stack => (stack.map fun e => e.1.values).sum
decreasing_by
  rw [sum_push, List.map_cons, List.sum_cons, Json.values_eq]
  dsimp only
  omega

/-- A number that all languages represent. -/
def SafeNumber (n : Int) : Prop := |n| ≤ 9007199254740991

theorem length_le_sum_values (stack : List (Json × Nat)) :
    stack.length ≤ (stack.map fun e => e.1.values).sum := by
  induction stack with
  | nil => rfl
  | cons e stack ih =>
    rw [List.length_cons, List.map_cons, List.sum_cons, Json.values_eq]
    omega

/-- The walk finds nothing when all is within the limits. -/
theorem boundsWith_ok (errors : BoundsErrors ε) (stack : List (Json × Nat)) (count : Nat)
    (hdepth : ∀ e ∈ stack, e.1.height + e.2 ≤ 96)
    (hsafe : ∀ e ∈ stack, e.1.All SafeNumber fun _ => True)
    (hcount : count + (stack.map fun e => e.1.values).sum ≤ 8192) :
    boundsWith errors stack count = .ok () := by
  -- By induction over the walk: what is left of the budget is what waits.
  induction stack, count using boundsWith.induct errors with
  | case1 count => rw [boundsWith]
  | case2 item depth stack count error herror =>
    have hitem := hdepth _ List.mem_cons_self
    have hnumber := hsafe _ List.mem_cons_self
    have hwaiting := length_le_sum_values (push item.children (depth + 1) stack)
    rw [sum_push] at hwaiting
    simp only [List.map_cons, List.sum_cons, Json.values_eq item] at hcount
    simp only [push, List.length_append, List.length_reverse, List.length_map] at hwaiting
    unfold boundsError at herror
    rw [if_neg (by simp only at hitem; omega)] at herror
    split at herror
    · rw [if_neg (by omega)] at herror
      cases herror
    · rw [if_neg (by omega)] at herror
      cases herror
    · rw [if_neg (not_lt.mpr hnumber)] at herror
      cases herror
    · cases herror
    · cases herror
    · cases herror
  | case3 item depth stack count herror ih =>
    rw [boundsWith, herror]
    refine ih ?_ ?_ ?_
    · intro e he
      rcases List.mem_append.mp he with he | he
      · obtain ⟨child, hchild, rfl⟩ := List.mem_map.mp (List.mem_reverse.mp he)
        have hitem := hdepth _ List.mem_cons_self
        have hbelow := Json.height_children hchild
        simp only at hitem ⊢
        omega
      · exact hdepth e (List.mem_cons_of_mem _ he)
    · intro e he
      rcases List.mem_append.mp he with he | he
      · obtain ⟨child, hchild, rfl⟩ := List.mem_map.mp (List.mem_reverse.mp he)
        exact (hsafe _ List.mem_cons_self).children hchild
      · exact hsafe e (List.mem_cons_of_mem _ he)
    · rw [sum_push]
      simp only [List.map_cons, List.sum_cons, Json.values_eq item] at hcount
      omega

end Walk

/-- An object that a valid frame holds. -/
structure Received (frame : Json) : Prop where
  object : frame.isObject = true
  depth : frame.height ≤ 96
  count : frame.values ≤ 8192
  safe : frame.All SafeNumber fun _ => True
  distinct : ∀ members, frame = .obj members → (members.map (·.1)).Nodup

theorem Received.bounds {ε : Type} {frame : Json} (h : Received frame) (errors : BoundsErrors ε) :
    boundsWith errors [(frame, 0)] 0 = .ok () := by
  refine boundsWith_ok errors _ _ ?_ ?_ ?_
  · intro e he
    rw [List.mem_singleton.mp he]
    exact h.depth
  · intro e he
    rw [List.mem_singleton.mp he]
    exact h.safe
  · simpa using h.count

/-! ### The supervisor -/

structure ProtocolError where
  code : String
  message : String
deriving DecidableEq, Repr

/-- A check that fails with an error. -/
def ensure (condition : Bool) (message : String) : Except ProtocolError Unit :=
  if condition then .ok () else .error ⟨"SCHEMA", message⟩

/-- `_json_bounds`. -/
def jsonBounds (message : Json) : Except ProtocolError Unit :=
  boundsWith ⟨⟨"LIMIT", "JSON depth or node budget exceeded"⟩, none,
    ⟨"SCHEMA", "JSON numbers must be safe integers"⟩⟩ [(message, 0)] 0

/-- `_object` with a set of keys. -/
def hasFields (message : Json) (keys : List String) : Bool :=
  match message with
  | .obj members => members.all (fun m => keys.contains m.1) &&
      keys.all fun k => members.any fun m => m.1 = k
  | _ => false

/-- `_request_id`. -/
def checkRequestId (value : Option Json) : Except ProtocolError RequestId :=
  match value.bind requestId with
  | some id => .ok id
  | none => .error ⟨"SCHEMA", "request ID must be a positive safe integer"⟩

def isIdentifierValue : Json → Bool
  | .str text => isIdentifier text
  | _ => false

def isDigestValue : Json → Bool
  | .str text => isDigestText text.toList
  | _ => false

/-- The fields of an operation. -/
def requestFields (op : String) : Option (List String) :=
  if op = "hello" then some ["interfaceDigest", "runtime"]
  else if op = "create" then some []
  else if op = "observe" then some []
  else if op = "dispose" then some []
  else if op = "invoke" then some ["action", "inputs"]
  else if op = "cancel" then some ["requestId"]
  else none

/-- The checks of the fields. -/
def checkRequestFields (message : Json) (id : RequestId) (op : String) :
    Except ProtocolError Unit :=
  if op = "hello" then do
    ensure ((message.member? "interfaceDigest").any isDigestValue) "invalid interface digest"
    ensure ((message.member? "runtime").any isIdentifierValue) "invalid public identifier"
  else if op = "invoke" then do
    ensure ((message.member? "action").any isIdentifierValue) "invalid public identifier"
    ensure ((message.member? "inputs").any Json.isObject) "expected object"
    ensure ((message.member? "inputs").any rustInputs) "invalid public identifier"
  else if op = "cancel" then do
    let target ← checkRequestId (message.member? "requestId")
    ensure (target.val < id.val) "cancel target must precede its request ID"
  else .ok ()

/-- The checks of an operation: its keys, then its fields. -/
def checkOperation (message : Json) (id : RequestId) (op : String) : Except ProtocolError Unit :=
  match requestFields op with
  | none => .error ⟨"SCHEMA", "unknown operation"⟩
  | some fields => do
    ensure (hasFields message (["v", "id", "op"] ++ fields)) "object fields do not match contract"
    checkRequestFields message id op

/-- `validate_request`. -/
def validateRequest (message : Json) : Except ProtocolError Unit := do
  jsonBounds message
  ensure message.isObject "expected object"
  ensure ((message.member? "v").any isVersionOne) "unsupported protocol version"
  let id ← checkRequestId (message.member? "id")
  match (message.member? "op").bind operationName with
  | none => .error ⟨"SCHEMA", "unknown operation"⟩
  | some op => checkOperation message id op

/-! ### The runtimes -/

/-- `check_bounds` of the runtime for Rust. -/
def checkBounds (value : Json) : Except String Unit :=
  boundsWith ⟨"JSON resource limit exceeded", some "JSON node limit exceeded",
    "JSON numbers must be safe integers"⟩ [(value, 0)] 0

def rustAccepts (frame : Json) : Bool :=
  (checkBounds frame).isOk && (rustValidateRequest frame).isSome

def nodeAccepts (frame : Json) : Bool := (nodeValidateRequest frame).isSome

/-! ### The supervisor and the runtime for Rust -/

theorem exact_keys_perm {keys keys' : List String} (h : keys.Nodup) (h' : keys'.Nodup) :
    (∀ k ∈ keys, k ∈ keys') ∧ (∀ k ∈ keys', k ∈ keys) ↔
      keys.length = keys'.length ∧ ∀ k ∈ keys', k ∈ keys := by
  constructor
  · rintro ⟨hsub, hsub'⟩
    exact ⟨le_antisymm (List.subperm_of_subset h hsub).length_le
      (List.subperm_of_subset h' hsub').length_le, hsub'⟩
  · rintro ⟨hlength, hsub'⟩
    -- As many keys as are wanted, and all of them there: no others are.
    have hperm := (List.subperm_of_subset h' hsub').perm_of_length_le hlength.le
    exact ⟨fun k hk => hperm.mem_iff.mpr hk, hsub'⟩

/-- Comparing keys is counting them. -/
theorem hasFields_eq_exact {frame : Json} {keys : List String}
    (hdistinct : ∀ members, frame = .obj members → (members.map (·.1)).Nodup)
    (hkeys : keys.Nodup) : hasFields frame keys = frame.exact keys := by
  cases frame with
  | obj members =>
    have hperm := exact_keys_perm (hdistinct members rfl) hkeys
    rw [Bool.eq_iff_iff]
    simp only [hasFields, Json.exact, Bool.and_eq_true, List.all_eq_true, List.any_eq_true,
      decide_eq_true_eq, List.contains_iff_mem]
    have hmem (k : String) : (∃ m ∈ members, m.1 = k) ↔ k ∈ members.map (·.1) :=
      List.mem_map.symm
    simp only [hmem]
    have hlength : (members.map (·.1)).length = members.length := List.length_map _
    rw [← hlength, ← hperm]
    simp only [List.mem_map, forall_exists_index, and_imp, forall_apply_eq_imp_iff₂]
  | _ => rfl

theorem isOk_ensure_bind {α : Type} (condition : Bool) (message : String)
    (f : Unit → Except ProtocolError α) :
    (ensure condition message >>= f).isOk = (condition && (f ()).isOk) := by
  cases condition <;> rfl

theorem isOk_ensure (condition : Bool) (message : String) :
    (ensure condition message).isOk = condition := by
  cases condition <;> rfl

theorem isOk_checkRequestId_bind {α : Type} (value : Option Json)
    (f : RequestId → Except ProtocolError α) :
    (checkRequestId value >>= f).isOk = (value.bind requestId).any fun id => (f id).isOk := by
  unfold checkRequestId
  cases value.bind requestId <;> rfl

theorem isSome_rustDigest (value : Json) : (rustDigest value).isSome = isDigestValue value := by
  cases value with
  | str text =>
    change (if isDigestText text.toList then some (some text) else none).isSome = _
    cases hdigest : isDigestText text.toList <;> simp [isDigestValue, hdigest]
  | _ => rfl

theorem isSome_identifier (value : Json) : (identifier value).isSome = isIdentifierValue value := by
  cases value with
  | str text =>
    change (if isIdentifier text then some text else none).isSome = _
    cases hname : isIdentifier text <;> simp [isIdentifierValue, hname]
  | _ => rfl

theorem isSome_bind_eq_any {α β : Type} (value : Option α) (f : α → Option β) :
    (value.bind f).isSome = value.any fun v => (f v).isSome := by
  cases value <;> rfl

/-- A hello. -/
theorem isSome_helloWith (digest : Json → Option (Option String)) (frame : Json) :
    (helloWith digest frame).isSome =
      (frame.exact ["v", "id", "op", "interfaceDigest", "runtime"] &&
        ((frame.member? "interfaceDigest").any (fun v => (digest v).isSome) &&
          (frame.member? "runtime").any isIdentifierValue)) := by
  unfold helloWith
  have hruntime : ((frame.member? "runtime").bind identifier).isSome =
      (frame.member? "runtime").any isIdentifierValue := by
    rw [isSome_bind_eq_any]
    simp only [isSome_identifier]
  by_cases hexact : frame.exact ["v", "id", "op", "interfaceDigest", "runtime"] = true
  · rw [if_pos hexact, hexact, Bool.true_and, ← hruntime, ← isSome_bind_eq_any]
    cases (frame.member? "interfaceDigest").bind digest with
    | none => rfl
    | some value =>
      rw [Option.bind_some, Option.isSome_map]
      rfl
  · rw [if_neg hexact]
    simp [hexact]

/-- An invocation. -/
theorem isSome_invokeWith (inputs : Json → Bool) (frame : Json) :
    (invokeWith inputs frame).isSome =
      (frame.exact ["v", "id", "op", "action", "inputs"] &&
        ((frame.member? "action").any isIdentifierValue &&
          (frame.member? "inputs").any inputs)) := by
  unfold invokeWith
  have haction : ((frame.member? "action").bind identifier).isSome =
      (frame.member? "action").any isIdentifierValue := by
    rw [isSome_bind_eq_any]
    simp only [isSome_identifier]
  by_cases hexact : frame.exact ["v", "id", "op", "action", "inputs"] = true
  · rw [if_pos hexact, hexact, Bool.true_and, ← haction]
    cases (frame.member? "action").bind identifier with
    | none => rfl
    | some action =>
      cases frame.member? "inputs" with
      | none => rfl
      | some value => cases hinputs : inputs value <;> simp [hinputs]
  · rw [if_neg hexact]
    simp [hexact]

theorem isSome_bareOperation (op : PortOp) (frame : Json) :
    (bareOperation op frame).isSome = frame.exact ["v", "id", "op"] := by
  unfold bareOperation
  cases frame.exact ["v", "id", "op"] <;> rfl

theorem isSome_cancelOperation (id : RequestId) (frame : Json) :
    (cancelOperation id frame).isSome =
      (frame.exact ["v", "id", "op", "requestId"] &&
        ((frame.member? "requestId").bind requestId).any fun target => target.val < id.val) := by
  unfold cancelOperation
  by_cases hexact : frame.exact ["v", "id", "op", "requestId"] = true
  · rw [if_pos hexact, hexact, Bool.true_and]
    cases (frame.member? "requestId").bind requestId with
    | none => rfl
    | some target =>
      rw [Option.bind_some, Option.any_some]
      by_cases hlt : target.val < id.val
      · rw [if_pos hlt, decide_eq_true hlt]
        rfl
      · rw [if_neg hlt, decide_eq_false hlt]
        rfl
  · rw [if_neg hexact]
    simp [hexact]

theorem any_rustInputs (value : Option Json) :
    (value.any Json.isObject && value.any rustInputs) = value.any rustInputs := by
  cases value with
  | none => rfl
  | some value =>
    cases hinputs : rustInputs value with
    | false => simp [hinputs]
    | true => simp [hinputs, rustInputs_isObject hinputs]

/-- The checks of an operation. -/
theorem isOk_operation {message : Json} (h : Received message) (id : RequestId) (op : String) :
    (checkOperation message id op).isOk =
      (operationWith rustDigest rustInputs message id op).isSome := by
  have hbare (hfields : requestFields op = some [])
      (hop : checkRequestFields message id op = .ok ()) (bare : PortOp) :
      (checkOperation message id op).isOk = (bareOperation bare message).isSome := by
    rw [checkOperation, hfields, isSome_bareOperation]
    simp only [isOk_ensure_bind, hop, List.append_nil]
    rw [hasFields_eq_exact h.distinct (by decide)]
    exact Bool.and_true _
  unfold operationWith
  by_cases hhello : op = "hello"
  · subst hhello
    rw [if_pos rfl, isSome_helloWith]
    simp only [checkOperation, requestFields, if_true, isOk_ensure_bind, checkRequestFields,
      isOk_ensure]
    rw [hasFields_eq_exact h.distinct (by decide)]
    simp only [isSome_rustDigest]
    rfl
  by_cases hcreate : op = "create"
  · subst hcreate
    exact hbare rfl rfl _
  by_cases hobserve : op = "observe"
  · subst hobserve
    exact hbare rfl rfl _
  by_cases hdispose : op = "dispose"
  · subst hdispose
    exact hbare rfl rfl _
  by_cases hinvoke : op = "invoke"
  · subst hinvoke
    rw [if_neg hhello, if_neg hcreate, if_neg hobserve, if_neg hdispose, if_pos rfl,
      isSome_invokeWith]
    simp only [checkOperation, requestFields, if_neg hhello, if_neg hcreate, if_neg hobserve,
      if_neg hdispose, if_true, isOk_ensure_bind, checkRequestFields, isOk_ensure]
    rw [hasFields_eq_exact h.distinct (by decide), any_rustInputs]
    rfl
  by_cases hcancel : op = "cancel"
  · subst hcancel
    rw [if_neg hhello, if_neg hcreate, if_neg hobserve, if_neg hdispose, if_neg hinvoke,
      if_pos rfl, isSome_cancelOperation]
    simp only [checkOperation, requestFields, if_neg hhello, if_neg hcreate, if_neg hobserve,
      if_neg hdispose, if_neg hinvoke, if_true, isOk_ensure_bind, checkRequestFields,
      isOk_checkRequestId_bind, isOk_ensure]
    rw [hasFields_eq_exact h.distinct (by decide)]
    rfl
  · rw [if_neg hhello, if_neg hcreate, if_neg hobserve, if_neg hdispose, if_neg hinvoke,
      if_neg hcancel]
    simp only [checkOperation, requestFields, if_neg hhello, if_neg hcreate, if_neg hobserve,
      if_neg hdispose, if_neg hinvoke, if_neg hcancel]
    rfl

/-- The supervisor accepts what the runtime for Rust accepts. -/
theorem validateRequest_isOk {message : Json} (h : Received message) :
    (validateRequest message).isOk = (rustValidateRequest message).isSome := by
  have hbounds : jsonBounds message = .ok () := h.bounds _
  have hunfold : (validateRequest message).isOk =
      ((message.member? "v").any isVersionOne &&
        ((message.member? "id").bind requestId).any fun id =>
          (match (message.member? "op").bind operationName with
            | none => .error ⟨"SCHEMA", "unknown operation"⟩
            | some op => checkOperation message id op : Except ProtocolError Unit).isOk) := by
    rw [validateRequest, hbounds]
    change (ensure message.isObject "expected object" >>= _).isOk = _
    rw [isOk_ensure_bind, h.object, Bool.true_and, isOk_ensure_bind, isOk_checkRequestId_bind]
  rw [hunfold, rustValidateRequest, validateWith]
  cases (message.member? "v").any isVersionOne with
  | false => rfl
  | true =>
    rw [if_pos rfl, Bool.true_and]
    cases (message.member? "id").bind requestId with
    | none => rfl
    | some id =>
      rw [Option.bind_some, Option.any_some]
      cases (message.member? "op").bind operationName with
      | none => rfl
      | some op =>
        rw [Option.bind_some, Option.isSome_map]
        exact isOk_operation h id op

theorem rustAccepts_eq {frame : Json} (h : Received frame) :
    rustAccepts frame = (rustValidateRequest frame).isSome := by
  rw [rustAccepts, checkBounds, h.bounds]
  rfl

/-! ### The runtime for Node -/

/-- A request that is in order, but for a hello whose digest is not a string and
    only converted to the text of a digest, or for an invocation with an input
    that is not named by an identifier. -/
structure Lax (frame : Json) : Prop where
  version : (frame.member? "v").any isVersionOne = true
  id : ((frame.member? "id").bind requestId).isSome = true
  lax : frame.member? "op" = some (.str "hello") ∧
      frame.exact ["v", "id", "op", "interfaceDigest", "runtime"] = true ∧
      (frame.member? "runtime").any isIdentifierValue = true ∧
      (∃ value, frame.member? "interfaceDigest" = some value ∧ (∀ text, value ≠ .str text) ∧
        isDigestText value.coerced = true) ∨
    frame.member? "op" = some (.str "invoke") ∧
      frame.exact ["v", "id", "op", "action", "inputs"] = true ∧
      (frame.member? "action").any isIdentifierValue = true ∧
      ∃ members, frame.member? "inputs" = some (.obj members) ∧
        ∃ m ∈ members, isIdentifier m.1 = false

theorem nodeDigest_eq_some_none {value : Json} :
    nodeDigest value = some none ↔
      (∀ text, value ≠ .str text) ∧ isDigestText value.coerced = true := by
  unfold nodeDigest
  by_cases hdigest : isDigestText value.coerced = true
  · rw [if_pos hdigest]
    cases value with
    | str text => exact ⟨nofun, fun h => absurd rfl (h.1 text)⟩
    | _ => exact ⟨fun _ => ⟨nofun, hdigest⟩, fun _ => rfl⟩
  · rw [if_neg hdigest]
    exact ⟨nofun, fun h => absurd h.2 hdigest⟩

/-- An operation that only the runtime for Node accepts is a hello without a
    digest or an invocation with a name that is no identifier. -/
theorem unportable_operation {frame : Json} {id : RequestId} {text : String} {op : PortOp}
    (h : operationWith nodeDigest Json.isObject frame id text = some op)
    (hport : op.portable = false) :
    text = "hello" ∧ helloWith nodeDigest frame = some op ∨
      text = "invoke" ∧ invokeWith Json.isObject frame = some op := by
  have hbare : ∀ bare : PortOp, bare.portable = true → bareOperation bare frame ≠ some op := by
    intro bare hbare hop
    unfold bareOperation at hop
    split at hop
    · cases hop
      rw [hbare] at hport
      cases hport
    · cases hop
  unfold operationWith at h
  split_ifs at h with hhello _ _ _ hinvoke
  · exact .inl ⟨hhello, h⟩
  · exact absurd h (hbare _ rfl)
  · exact absurd h (hbare _ rfl)
  · exact absurd h (hbare _ rfl)
  · exact .inr ⟨hinvoke, h⟩
  · -- A cancellation is portable.
    unfold cancelOperation at h
    split at h
    · obtain ⟨target, -, hop⟩ := Option.bind_eq_some_iff.mp h
      split at hop
      · cases hop
        cases hport
      · cases hop
    · cases h

theorem unportable_hello {frame : Json} {op : PortOp} :
    helloWith nodeDigest frame = some op ∧ op.portable = false ↔
      ∃ runtime, op = .hello none runtime ∧
        frame.exact ["v", "id", "op", "interfaceDigest", "runtime"] = true ∧
        (frame.member? "runtime").bind identifier = some runtime ∧
        ∃ value, frame.member? "interfaceDigest" = some value ∧ nodeDigest value = some none := by
  unfold helloWith
  by_cases hexact : frame.exact ["v", "id", "op", "interfaceDigest", "runtime"] = true
  · rw [if_pos hexact]
    constructor
    · rintro ⟨hop, hport⟩
      obtain ⟨digest, hdigest, hop⟩ := Option.bind_eq_some_iff.mp hop
      obtain ⟨runtime, hruntime, rfl⟩ := Option.map_eq_some_iff.mp hop
      obtain ⟨value, hvalue, hdigest⟩ := Option.bind_eq_some_iff.mp hdigest
      cases digest with
      | some text => cases hport
      | none => exact ⟨runtime, rfl, hexact, hruntime, value, hvalue, hdigest⟩
    · rintro ⟨runtime, rfl, -, hruntime, value, hvalue, hdigest⟩
      refine ⟨?_, rfl⟩
      rw [hvalue, hruntime, Option.bind_some, hdigest]
      rfl
  · rw [if_neg hexact]
    exact ⟨nofun, fun ⟨_, _, h, _⟩ => absurd h hexact⟩

theorem unportable_invoke {frame : Json} {op : PortOp} :
    invokeWith Json.isObject frame = some op ∧ op.portable = false ↔
      ∃ action members, op = .invoke action (.obj members) ∧
        frame.exact ["v", "id", "op", "action", "inputs"] = true ∧
        (frame.member? "action").bind identifier = some action ∧
        frame.member? "inputs" = some (.obj members) ∧
        ∃ m ∈ members, isIdentifier m.1 = false := by
  unfold invokeWith
  by_cases hexact : frame.exact ["v", "id", "op", "action", "inputs"] = true
  · rw [if_pos hexact]
    constructor
    · rintro ⟨hop, hport⟩
      obtain ⟨action, haction, hop⟩ := Option.bind_eq_some_iff.mp hop
      obtain ⟨value, hvalue, hop⟩ := Option.bind_eq_some_iff.mp hop
      cases value with
      | obj members =>
        cases hop
        refine ⟨action, members, rfl, hexact, haction, hvalue, ?_⟩
        simpa [PortOp.portable, rustInputs] using hport
      | _ => cases hop
    · rintro ⟨action, members, rfl, -, haction, hmembers, hname⟩
      refine ⟨?_, ?_⟩
      · rw [haction, hmembers]
        rfl
      · simpa [PortOp.portable, rustInputs] using hname
  · rw [if_neg hexact]
    constructor
    · rintro ⟨h, -⟩
      cases h
    · rintro ⟨_, _, _, h, _⟩
      exact absurd h hexact

theorem identifier_some_iff {value : Option Json} :
    (∃ name, value.bind identifier = some name) ↔ value.any isIdentifierValue = true := by
  rw [← Option.isSome_iff_exists, isSome_bind_eq_any]
  simp only [isSome_identifier]

/-- The requests that only the runtime for Node accepts are the lax ones. -/
theorem unportable_iff {frame : Json} :
    (∃ request, nodeValidateRequest frame = some request ∧ request.op.portable = false) ↔
      Lax frame := by
  unfold nodeValidateRequest validateWith
  constructor
  · rintro ⟨request, hrequest, hport⟩
    split at hrequest
    case isFalse => cases hrequest
    case isTrue hversion =>
      obtain ⟨id, hid, hrequest⟩ := Option.bind_eq_some_iff.mp hrequest
      obtain ⟨text, htext, hrequest⟩ := Option.bind_eq_some_iff.mp hrequest
      obtain ⟨op, hop, rfl⟩ := Option.map_eq_some_iff.mp hrequest
      have hname : frame.member? "op" = some (.str text) := by
        obtain ⟨value, hvalue, hvalueText⟩ := Option.bind_eq_some_iff.mp htext
        cases value with
        | str _ =>
          cases hvalueText
          exact hvalue
        | _ => cases hvalueText
      refine ⟨hversion, by rw [hid]; rfl, ?_⟩
      rcases unportable_operation hop hport with ⟨rfl, hhello⟩ | ⟨rfl, hinvoke⟩
      · obtain ⟨runtime, -, hexact, hruntime, value, hvalue, hdigest⟩ :=
          unportable_hello.mp ⟨hhello, hport⟩
        exact .inl ⟨hname, hexact, identifier_some_iff.mp ⟨runtime, hruntime⟩, value, hvalue,
          nodeDigest_eq_some_none.mp hdigest⟩
      · obtain ⟨action, members, -, hexact, haction, hmembers⟩ :=
          unportable_invoke.mp ⟨hinvoke, hport⟩
        exact .inr ⟨hname, hexact, identifier_some_iff.mp ⟨action, haction⟩, members, hmembers⟩
  · rintro ⟨hversion, hid, hlax⟩
    obtain ⟨id, hid⟩ := Option.isSome_iff_exists.mp hid
    rw [if_pos hversion, hid]
    rcases hlax with ⟨hname, hexact, hruntime, value, hvalue, hdigest⟩ |
      ⟨hname, hexact, haction, members, hmembers⟩
    · obtain ⟨runtime, hruntime⟩ := identifier_some_iff.mpr hruntime
      have hhello : helloWith nodeDigest frame = some (.hello none runtime) :=
        (unportable_hello.mpr ⟨runtime, rfl, hexact, hruntime, value, hvalue,
          nodeDigest_eq_some_none.mpr hdigest⟩).1
      refine ⟨⟨id, .hello none runtime⟩, ?_, rfl⟩
      rw [hname]
      change (helloWith nodeDigest frame).map _ = _
      rw [hhello]
      rfl
    · obtain ⟨action, haction⟩ := identifier_some_iff.mpr haction
      have hinvoke : invokeWith Json.isObject frame = some (.invoke action (.obj members)) ∧
          (PortOp.invoke action (.obj members)).portable = false :=
        unportable_invoke.mpr ⟨action, members, rfl, hexact, haction, hmembers⟩
      refine ⟨⟨id, .invoke action (.obj members)⟩, ?_, hinvoke.2⟩
      rw [hname]
      change (invokeWith Json.isObject frame).map _ = _
      rw [hinvoke.1]
      rfl

/-- Node and Rust differ on the lax requests. -/
theorem nodeAccepts_iff {frame : Json} :
    nodeAccepts frame = (rustValidateRequest frame).isSome ↔ ¬ Lax frame := by
  rw [← unportable_iff, nodeAccepts, rustValidateRequest_eq]
  cases nodeValidateRequest frame with
  | none => simp
  | some request => cases hport : request.op.portable <;> simp [Option.filter_some, hport]

/-- A request to observe. -/
def observeFrame : Json :=
  .obj [("v", .int 1), ("id", .int 1), ("op", .str "observe")]

/-- A hello whose digest stands in a list. -/
def listedHello : Json :=
  .obj [("v", .int 1), ("id", .int 1), ("op", .str "hello"),
    ("interfaceDigest", .arr [.str (String.ofList (List.replicate 64 'a'))]),
    ("runtime", .str "node")]

/-- An invocation with an input that has no name. -/
def namelessInvoke : Json :=
  .obj [("v", .int 1), ("id", .int 1), ("op", .str "invoke"), ("action", .str "act"),
    ("inputs", .obj [("", .null)])]

theorem received_observeFrame : Received observeFrame where
  object := rfl
  depth := by decide
  count := by decide
  safe := by
    simp only [observeFrame, Json.All, Json.AllMembers, SafeNumber]
    decide
  distinct := by
    rintro _ ⟨⟩
    decide

theorem received_listedHello : Received listedHello where
  object := rfl
  depth := by decide
  count := by decide
  safe := by
    simp only [listedHello, Json.All, Json.AllMembers, Json.AllItems, SafeNumber]
    decide
  distinct := by
    rintro _ ⟨⟩
    decide

theorem received_namelessInvoke : Received namelessInvoke where
  object := rfl
  depth := by decide
  count := by decide
  safe := by
    simp only [namelessInvoke, Json.All, Json.AllMembers, SafeNumber]
    decide
  distinct := by
    rintro _ ⟨⟩
    decide

/-- The supervisor and the two runtimes agree on a received request exactly if
    it is not lax. -/
theorem requests_agree_iff {frame : Json} (h : Received frame) :
    ((validateRequest frame).isOk = rustAccepts frame ∧ rustAccepts frame = nodeAccepts frame) ↔
      ¬ Lax frame := by
  rw [validateRequest_isOk h, rustAccepts_eq h, ← nodeAccepts_iff]
  exact ⟨fun hagree => hagree.2.symm, fun hnode => ⟨rfl, hnode.symm⟩⟩

theorem requests_agree_observe :
    (validateRequest observeFrame).isOk = rustAccepts observeFrame ∧
      rustAccepts observeFrame = nodeAccepts observeFrame := by
  refine (requests_agree_iff received_observeFrame).mpr ?_
  rintro ⟨-, -, ⟨hop, -⟩ | ⟨hop, -⟩⟩
  · exact absurd hop (by simp [observeFrame, Json.member?])
  · exact absurd hop (by simp [observeFrame, Json.member?])

/-- Node accepts a digest in a list and an input without a name, and the
    supervisor and the runtime for Rust refuse both. -/
theorem requests_disagree :
    (Received listedHello ∧ nodeAccepts listedHello = true ∧
      (validateRequest listedHello).isOk = false ∧ rustAccepts listedHello = false) ∧
    (Received namelessInvoke ∧ nodeAccepts namelessInvoke = true ∧
      (validateRequest namelessInvoke).isOk = false ∧ rustAccepts namelessInvoke = false) := by
  refine ⟨⟨received_listedHello, ?_, ?_, ?_⟩, received_namelessInvoke, ?_, ?_, ?_⟩
  · decide
  · rw [validateRequest_isOk received_listedHello]
    decide
  · rw [rustAccepts_eq received_listedHello]
    decide
  · decide
  · rw [validateRequest_isOk received_namelessInvoke]
    decide
  · rw [rustAccepts_eq received_namelessInvoke]
    decide

end MirrorGate.Codec
