import MirrorGate.Lib.Json
import MirrorGate.Journal.Record
import Mathlib.Data.Nat.Digits.Defs

/-!
# The Port of a Worker

What a worker offers is described by a manifest: operations with typed inputs,
some of them initializers, and typed observations. Values travel as JSON in
the portable profile, and requests and responses as JSON objects.

Two runtimes implement the port, one for Node and one in Rust. Both check a
request before they look at their own state. The checks are the same but for
two places. The Node runtime tests the digest of a hello with a regular
expression, which tests the text of whatever it is given, so an array holding
a digest passes. The Rust runtime also wants the names of the inputs to be
identifiers. `validateWith` has both places as parameters. A frame is the
object that the decoder made of a line; what the decoder rejects closes the
channel in both runtimes.

The value profile is one definition for both runtimes. They detect duplicate
elements of a set by comparing canonical texts of the elements, and those
texts agree exactly when `PortType.same` holds.

## Main definitions

* `PortType`, `PortType.check`, `PortType.same`: Portable types, their values,
  and when two values are the same.
* `Operation`, `Manifest`: A port.
* `PortRequest`: A request that passed the checks.
* `nodeValidateRequest`, `rustValidateRequest`: The checks of the runtimes.
* `PortResponse`, `fitsFrame`: Responses, and what can be sent.

## Theorems

* `rustValidateRequest_eq`: The Rust runtime accepts what the Node runtime
  accepts, if it is portable.
-/

namespace Json

/-- The value of a member of an object. -/
def member? (json : Json) (key : String) : Option Json :=
  match json with
  | .obj members => (members.find? fun m => m.1 = key).map (·.2)
  | _ => none

/-- An object with these keys and no others. -/
def exact (json : Json) (keys : List String) : Bool :=
  match json with
  | .obj members => members.length = keys.length && keys.all fun k => members.any fun m => m.1 = k
  | _ => false

def isObject : Json → Bool
  | .obj _ => true
  | _ => false

/-- The bytes of a character inside a string of compact JSON text. -/
def charBytes (c : Char) : Nat :=
  if c = '"' ∨ c = '\\' ∨ c = '\n' ∨ c = '\r' ∨ c = '\t' ∨ c.toNat = 8 ∨ c.toNat = 12 then 2
  else if c.toNat < 32 then 6
  else c.utf8Size

/-- The bytes of a string in compact JSON text. -/
def stringBytes (s : String) : Nat := 2 + (s.toList.map charBytes).sum

theorem charBytes_le (c : Char) : charBytes c ≤ 6 := by
  have := c.utf8Size_le_four
  unfold charBytes
  split_ifs <;> omega

theorem stringBytes_le (s : String) : stringBytes s ≤ 2 + 6 * s.toList.length := by
  have hsum : ∀ cs : List Char, (cs.map charBytes).sum ≤ 6 * cs.length := by
    intro cs
    induction cs with
    | nil => rfl
    | cons c cs ih =>
      have := charBytes_le c
      rw [List.map_cons, List.sum_cons, List.length_cons]
      omega
  exact Nat.add_le_add_left (hsum _) _

mutual
/-- The bytes of compact JSON text in UTF-8. -/
def bytes : Json → Nat
  | .null => 4
  | .bool true => 4
  | .bool false => 5
  | .int n => (decimal n).length
  | .str s => stringBytes s
  | .arr items => 2 + (bytesItems items + (items.length - 1))
  | .obj members => 2 + (bytesMembers members + (members.length - 1))

def bytesItems : List Json → Nat
  | [] => 0
  | j :: js => bytes j + bytesItems js

def bytesMembers : List (String × Json) → Nat
  | [] => 0
  | (k, j) :: ms => (stringBytes k + 1 + bytes j) + bytesMembers ms
end

mutual
/-- The number of values of a tree, keys not counted. -/
def values : Json → Nat
  | .null | .bool _ | .int _ | .str _ => 1
  | .arr items => 1 + valuesItems items
  | .obj members => 1 + valuesMembers members

def valuesItems : List Json → Nat
  | [] => 0
  | j :: js => values j + valuesItems js

def valuesMembers : List (String × Json) → Nat
  | [] => 0
  | (_, j) :: ms => values j + valuesMembers ms
end

/-- The text that every object is converted to. -/
def objectText : List Char := "[object Object]".toList

mutual
/-- The text that a value is converted to where text is wanted. Arrays are
    joined by commas, and a null inside an array is empty. -/
def coerced : Json → List Char
  | .null => ['n', 'u', 'l', 'l']
  | .bool true => ['t', 'r', 'u', 'e']
  | .bool false => ['f', 'a', 'l', 's', 'e']
  | .int n => decimal n
  | .str s => s.toList
  | .arr items => [','].intercalate (coercedItems items)
  | .obj _ => objectText

def coercedItems : List Json → List (List Char)
  | [] => []
  | .null :: js => [] :: coercedItems js
  | j :: js => coerced j :: coercedItems js
end

end Json

namespace MirrorGate

/-! ### Portable values -/

inductive PortType where
  | int
  | bool
  | str
  | null
  | seq (element : PortType)
  | set (element : PortType)
  | tuple (elements : List PortType)
  | record (fields : List (String × PortType))
  | map (value : PortType)
  | variant (cases : List (String × PortType))

/-- Canonical decimal notation. -/
def isCanonicalInteger (text : List Char) : Bool :=
  match text with
  | ['0'] => true
  | '-' :: c :: cs => ('1' ≤ c && c ≤ '9') && cs.all Char.isDigit
  | c :: cs => ('1' ≤ c && c ≤ '9') && cs.all Char.isDigit
  | [] => false

/-- The array under the only key of an object. -/
def tagged (json : Json) (tag : String) : Option (List Json) :=
  if json.exact [tag] then
    match json.member? tag with
    | some (.arr items) => some items
    | _ => none
  else none

/-- The entries of a map, if each is a key with a value. -/
def mapEntries : List Json → Option (List (String × Json))
  | [] => some []
  | .arr [.str key, value] :: entries => (mapEntries entries).map ((key, value) :: ·)
  | _ => none

/-- No element is the same as a later one. -/
def noDuplicates {α : Type} (same : α → α → Bool) : List α → Bool
  | [] => true
  | x :: xs => (xs.all fun y => !same x y) && noDuplicates same xs

namespace PortType

mutual
/-- Two values of a type are the same. The order of a set, of a map or of the
    members of a record does not matter. -/
def same : PortType → Json → Json → Bool
  | .int, a, b => (a.member? "#bigint").map Json.coerced = (b.member? "#bigint").map Json.coerced
  | .bool, a, b => a.coerced = b.coerced
  | .str, a, b => a.coerced = b.coerced
  | .null, _, _ => true
  | .seq t, .arr xs, .arr ys => xs.length = ys.length && (xs.zip ys).all fun p => same t p.1 p.2
  | .seq _, _, _ => false
  | .set t, a, b =>
    match tagged a "#set", tagged b "#set" with
    | some xs, some ys =>
      (xs.all fun x => ys.any fun y => same t x y) && ys.all fun y => xs.any fun x => same t x y
    | _, _ => false
  | .tuple ts, a, b =>
    match tagged a "#tup", tagged b "#tup" with
    | some xs, some ys => sameTuple ts xs ys
    | _, _ => false
  | .record fields, a, b => sameFields fields a b
  | .map t, a, b =>
    match (tagged a "#map").bind mapEntries, (tagged b "#map").bind mapEntries with
    | some xs, some ys =>
      (xs.all fun x => ys.any fun y => x.1 = y.1 && same t x.2 y.2) &&
        ys.all fun y => xs.any fun x => x.1 = y.1 && same t x.2 y.2
    | _, _ => false
  | .variant cases, a, b =>
    match a.member? "tag", b.member? "tag", a.member? "value", b.member? "value" with
    | some (.str tag), some (.str tag'), some x, some y => tag = tag' && sameCase cases tag x y
    | _, _, _, _ => false

def sameTuple : List PortType → List Json → List Json → Bool
  | [], [], [] => true
  | t :: ts, x :: xs, y :: ys => same t x y && sameTuple ts xs ys
  | _, _, _ => false

def sameFields : List (String × PortType) → Json → Json → Bool
  | [], _, _ => true
  | (name, t) :: fields, a, b =>
    (match a.member? name, b.member? name with
      | some x, some y => same t x y
      | _, _ => false) && sameFields fields a b

def sameCase : List (String × PortType) → String → Json → Json → Bool
  | [], _, _, _ => false
  | (name, t) :: cases, tag, x, y => if name = tag then same t x y else sameCase cases tag x y
end

mutual
/-- The value is of the type. -/
def check : PortType → Json → Bool
  | .int, v =>
    v.exact ["#bigint"] &&
      match v.member? "#bigint" with
      | some (.str text) => isCanonicalInteger text.toList
      | _ => false
  | .bool, .bool _ => true
  | .bool, _ => false
  | .str, .str _ => true
  | .str, _ => false
  | .null, .null => true
  | .null, _ => false
  | .seq t, .arr items => items.all fun item => check t item
  | .seq _, _ => false
  | .set t, v =>
    match tagged v "#set" with
    | some items => (items.all fun item => check t item) && noDuplicates (same t) items
    | none => false
  | .tuple ts, v =>
    match tagged v "#tup" with
    | some items => checkTuple ts items
    | none => false
  | .record fields, v => v.exact (fields.map (·.1)) && checkFields fields v
  | .map t, v =>
    match (tagged v "#map").bind mapEntries with
    | some entries =>
      (entries.all fun entry => check t entry.2) && noDuplicates (fun a b => a.1 = b.1) entries
    | none => false
  | .variant cases, v =>
    v.exact ["tag", "value"] &&
      match v.member? "tag", v.member? "value" with
      | some (.str tag), some value => checkCase cases tag value
      | _, _ => false

def checkTuple : List PortType → List Json → Bool
  | [], [] => true
  | t :: ts, x :: xs => check t x && checkTuple ts xs
  | _, _ => false

/-- Every field has a value of its type. -/
def checkFields : List (String × PortType) → Json → Bool
  | [], _ => true
  | (name, t) :: fields, v =>
    (match v.member? name with
      | some x => check t x
      | none => false) && checkFields fields v

def checkCase : List (String × PortType) → String → Json → Bool
  | [], _, _ => false
  | (name, t) :: cases, tag, value =>
    if name = tag then check t value else checkCase cases tag value
end

end PortType

/-- `decodeFields` and `validate_fields`: exactly these fields, each of its
    type. -/
def fieldsConform (fields : List (String × PortType)) (value : Json) : Bool :=
  value.exact (fields.map (·.1)) && PortType.checkFields fields value

/-! ### Ports -/

/-- The text of a digest. -/
def isDigestText (text : List Char) : Bool := text.length = 64 && text.all isHexDigit

structure Operation where
  id : String
  inputs : List (String × PortType)

/-- A port, as both runtimes accept it. -/
structure Manifest where
  interfaceDigest : String
  initializers : List Operation
  actions : List Operation
  observations : List (String × PortType)
  digest : isDigestText interfaceDigest.toList = true
  distinct : ((initializers ++ actions).map (·.id)).Nodup

namespace Manifest

def operation (manifest : Manifest) (id : String) : Option Operation :=
  (manifest.initializers ++ manifest.actions).find? fun operation => operation.id = id

def isInitializer (manifest : Manifest) (id : String) : Bool :=
  manifest.initializers.any fun operation => operation.id = id

end Manifest

/-! ### Requests -/

/-- The operation of a request that passed the checks. The digest of a hello
    is `none` when it is no string. -/
inductive PortOp where
  | hello (interfaceDigest : Option String) (runtime : String)
  | create
  | invoke (action : String) (inputs : Json)
  | observe
  | dispose
  | cancel (requestId : Nat)

/-- A positive number that floating point represents exactly. -/
abbrev RequestId := { id : Nat // 1 ≤ id ∧ id ≤ 9007199254740991 }

structure PortRequest where
  id : RequestId
  op : PortOp

/-- A stable identifier. -/
def isIdentifier (text : String) : Bool :=
  match text.toList with
  | [] => false
  | c :: cs => c.isAlpha && cs.length ≤ 127 && cs.all isOpaqueChar

def requestId : Json → Option RequestId
  | .int n =>
    if h : 0 < n ∧ n ≤ 9007199254740991 then some ⟨n.toNat, by omega⟩ else none
  | _ => none

/-- A string that is a stable identifier. -/
def identifier : Json → Option String
  | .str text => if isIdentifier text then some text else none
  | _ => none

/-- A hello, with the check of its digest as a parameter. -/
def helloWith (digest : Json → Option (Option String)) (frame : Json) : Option PortOp :=
  if frame.exact ["v", "id", "op", "interfaceDigest", "runtime"] then
    ((frame.member? "interfaceDigest").bind digest).bind fun digest =>
      ((frame.member? "runtime").bind identifier).map fun runtime => .hello digest runtime
  else none

/-- An invocation, with the check of its inputs as a parameter. -/
def invokeWith (inputs : Json → Bool) (frame : Json) : Option PortOp :=
  if frame.exact ["v", "id", "op", "action", "inputs"] then
    ((frame.member? "action").bind identifier).bind fun action =>
      (frame.member? "inputs").bind fun value =>
        if inputs value then some (.invoke action value) else none
  else none

/-- An operation without fields of its own. -/
def bareOperation (op : PortOp) (frame : Json) : Option PortOp :=
  if frame.exact ["v", "id", "op"] then some op else none

/-- A cancellation, which has to target an earlier request. -/
def cancelOperation (id : RequestId) (frame : Json) : Option PortOp :=
  if frame.exact ["v", "id", "op", "requestId"] then
    ((frame.member? "requestId").bind requestId).bind fun target =>
      if target.val < id.val then some (.cancel target) else none
  else none

/-- The checks of an operation, with those of the digest of a hello and of the
    inputs of an invocation as parameters. -/
def operationWith (digest : Json → Option (Option String)) (inputs : Json → Bool) (frame : Json)
    (id : RequestId) (op : String) : Option PortOp :=
  if op = "hello" then helloWith digest frame
  else if op = "create" then bareOperation .create frame
  else if op = "observe" then bareOperation .observe frame
  else if op = "dispose" then bareOperation .dispose frame
  else if op = "invoke" then invokeWith inputs frame
  else if op = "cancel" then cancelOperation id frame
  else none

def isVersionOne : Json → Bool
  | .int n => n = 1
  | _ => false

def operationName : Json → Option String
  | .str op => some op
  | _ => none

/-- The checks of a request. -/
def validateWith (digest : Json → Option (Option String)) (inputs : Json → Bool)
    (frame : Json) : Option PortRequest :=
  if (frame.member? "v").any isVersionOne then
    ((frame.member? "id").bind requestId).bind fun id =>
      ((frame.member? "op").bind operationName).bind fun op =>
        (operationWith digest inputs frame id op).map (⟨id, ·⟩)
  else none

/-- The Node runtime tests the text that the value is converted to. -/
def nodeDigest (value : Json) : Option (Option String) :=
  if isDigestText value.coerced then
    match value with
    | .str text => some (some text)
    | _ => some none
  else none

/-- The Rust runtime wants a string. -/
def rustDigest : Json → Option (Option String)
  | .str text => if isDigestText text.toList then some (some text) else none
  | _ => none

/-- The Rust runtime wants inputs to be named by identifiers. -/
def rustInputs : Json → Bool
  | .obj members => members.all fun m => isIdentifier m.1
  | _ => false

/-- `validateRequest` of the Node runtime. -/
def nodeValidateRequest : Json → Option PortRequest := validateWith nodeDigest Json.isObject

/-- `validate_request` of the Rust runtime. -/
def rustValidateRequest : Json → Option PortRequest := validateWith rustDigest rustInputs

/-- A request that both runtimes accept, of those that the Node runtime does. -/
def PortOp.portable : PortOp → Bool
  | .hello digest _ => digest.isSome
  | .invoke _ inputs => rustInputs inputs
  | _ => true

theorem rustDigest_eq (value : Json) : rustDigest value = (nodeDigest value).filter Option.isSome := by
  cases value with
  | str text =>
    have htext : (Json.str text).coerced = text.toList := by rw [Json.coerced]
    rw [rustDigest, nodeDigest, htext]
    by_cases hdigest : isDigestText text.toList = true
    · rw [if_pos hdigest]
      rfl
    · rw [if_neg hdigest]
      rfl
  | _ =>
    simp only [rustDigest, nodeDigest]
    split_ifs
    · simp only [Option.filter_some, Option.isSome_none, Bool.false_eq_true, if_false]
    · simp only [Option.filter_none]

theorem rustInputs_isObject {value : Json} (h : rustInputs value = true) :
    value.isObject = true := by
  cases value with
  | obj members => rfl
  | _ => cases h

/-- The Rust runtime accepts what the Node runtime accepts, if it is portable. -/
theorem rustValidateRequest_eq (frame : Json) :
    rustValidateRequest frame = (nodeValidateRequest frame).filter (·.op.portable) := by
  have hoperation : ∀ id op, operationWith rustDigest rustInputs frame id op =
      (operationWith nodeDigest Json.isObject frame id op).filter PortOp.portable := by
    intro id op
    unfold operationWith
    split_ifs
    · unfold helloWith
      split_ifs
      · cases frame.member? "interfaceDigest" with
        | none => rfl
        | some value =>
          cases (frame.member? "runtime").bind identifier with
          | none => simp [rustDigest_eq]
          | some runtime =>
            rw [Option.bind_some, Option.bind_some, rustDigest_eq]
            rcases nodeDigest value with _ | _ | digest <;> rfl
      · rfl
    · unfold bareOperation
      split_ifs <;> rfl
    · unfold bareOperation
      split_ifs <;> rfl
    · unfold bareOperation
      split_ifs <;> rfl
    · unfold invokeWith
      split_ifs
      · cases (frame.member? "action").bind identifier with
        | none => rfl
        | some action =>
          cases frame.member? "inputs" with
          | none => rfl
          | some value =>
            cases hinputs : rustInputs value with
            | true =>
              simp [hinputs, rustInputs_isObject hinputs, Option.filter_some, PortOp.portable]
            | false =>
              cases hobject : value.isObject <;>
                simp [hinputs, hobject, Option.filter_some, PortOp.portable]
      · rfl
    · unfold cancelOperation
      split_ifs
      · cases (frame.member? "requestId").bind requestId with
        | none => rfl
        | some target =>
          rw [Option.bind_some]
          split_ifs <;> rfl
      · rfl
    · rfl
  unfold rustValidateRequest nodeValidateRequest validateWith
  split_ifs
  · cases (frame.member? "id").bind requestId with
    | none => rfl
    | some id =>
      cases (frame.member? "op").bind operationName with
      | none => rfl
      | some op =>
        rw [Option.bind_some, Option.bind_some, Option.bind_some, Option.bind_some, hoperation]
        rcases operationWith nodeDigest Json.isObject frame id op with _ | op
        · rfl
        · cases hop : op.portable <;> simp [hop, Option.filter_some]
  · rfl

/-! ### Responses -/

/-- The codes of the errors a worker answers with. -/
inductive PortCode where
  | limit
  | value
  | handshake
  | lifecycle
  | application
  | cancelled
deriving DecidableEq, Repr

def PortCode.text : PortCode → String
  | .limit => "LIMIT"
  | .value => "VALUE"
  | .handshake => "HANDSHAKE"
  | .lifecycle => "LIFECYCLE"
  | .application => "APPLICATION"
  | .cancelled => "CANCELLED"

/-- What a response says. -/
inductive PortReply where
  | ok (result : Json)
  | failed (code : PortCode)

structure PortResponse where
  id : RequestId
  reply : PortReply

/-- The JSON of a successful response. -/
def successJson (id : RequestId) (result : Json) : Json :=
  .obj [("v", .int 1), ("id", .int id.val), ("ok", .bool true), ("result", result)]

/-- The value is small enough to be sent as a frame. -/
def fitsFrame (json : Json) : Bool :=
  json.bytes ≤ 65535 && json.height ≤ 96 && json.values ≤ 8192

/-- The result of a hello. -/
def identityJson (digest runtime : String) : Json :=
  .obj [("interfaceDigest", .str digest), ("runtime", .str runtime)]

/-- A small result can be sent. -/
theorem fitsFrame_success (id : RequestId) {result : Json} (hbytes : result.bytes ≤ 1000)
    (hheight : result.height ≤ 1) (hvalues : result.values ≤ 10) :
    fitsFrame (successJson id result) = true := by
  have hdigits : (Json.decimal (id.val : Int)).length ≤ 16 :=
    Nat.toDigits_length 10 id.val 16 (by omega) (by have := id.2; omega)
  have hone : (Json.decimal 1).length = 1 := rfl
  have hv := Json.stringBytes_le "v"
  have hid := Json.stringBytes_le "id"
  have hok := Json.stringBytes_le "ok"
  have hresult := Json.stringBytes_le "result"
  have hlengths : "v".toList.length = 1 ∧ "id".toList.length = 2 ∧ "ok".toList.length = 2 ∧
      "result".toList.length = 6 := by decide
  obtain ⟨h1, h2, h3, h4⟩ := hlengths
  rw [h1] at hv
  rw [h2] at hid
  rw [h3] at hok
  rw [h4] at hresult
  simp only [fitsFrame, successJson, Json.bytes, Json.bytesMembers, Json.height,
    Json.heightMembers, Json.values, Json.valuesMembers, List.length_cons, List.length_nil,
    Bool.and_eq_true, decide_eq_true_eq]
  omega

theorem fitsFrame_null (id : RequestId) : fitsFrame (successJson id .null) = true :=
  fitsFrame_success id (by simp [Json.bytes]) (by simp [Json.height]) (by simp [Json.values])

/-- The identity of a worker can be sent. -/
theorem fitsFrame_identity (id : RequestId) (manifest : Manifest) {runtime : String}
    (hruntime : runtime.toList.length ≤ 64) :
    fitsFrame (successJson id (identityJson manifest.interfaceDigest runtime)) = true := by
  have hdigest : manifest.interfaceDigest.toList.length = 64 := by
    have := manifest.digest
    rw [isDigestText, Bool.and_eq_true] at this
    exact of_decide_eq_true this.1
  have h1 := Json.stringBytes_le "interfaceDigest"
  have h2 := Json.stringBytes_le "runtime"
  have h3 := Json.stringBytes_le manifest.interfaceDigest
  have h4 := Json.stringBytes_le runtime
  have h5 : "interfaceDigest".toList.length = 15 ∧ "runtime".toList.length = 7 := by decide
  rw [h5.1] at h1
  rw [h5.2] at h2
  apply fitsFrame_success
  · simp only [identityJson, Json.bytes, Json.bytesMembers, List.length_cons, List.length_nil]
    omega
  · simp [identityJson, Json.height, Json.heightMembers]
  · simp [identityJson, Json.values, Json.valuesMembers]

end MirrorGate
