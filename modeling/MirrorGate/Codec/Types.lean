import MirrorGate.Codec.Requests
import MirrorGate.Lib.Fallible

/-!
# Portable Types

A manifest describes a port with types that are written as JSON objects. The
supervisor checks every manifest before any runtime gets it, so a runtime only
ever meets types that passed `_type`.

Everything that the four implementations do with a type follows its structure:
they look at the kind and go on with the types inside. `Reader` is that
recursion, with one field for every kind. What an implementation does at a kind
is a field of its own reader, given what it does with the types inside.

## Main definitions

* `typeAt`: The check of a type, with the number of levels that are left.
* `PortType.Valid`: A type that passed.
* `Reader`, `Reader.read`: Recursion over a type.
* `Json.Distinct`, `Fits`: Values that fit a frame.

## Theorems

* `typeAt_valid`: What passes is valid.
* `Fits.item`, `Fits.member`: What is inside a value that fits a frame fits one.
-/

namespace MirrorGate.Codec

open Fallible

/-! ### The check of a type -/

/-- `_object` with a set of keys. -/
def checkObject (code : String) (keys : List String) (value : Json) :
    Except ProtocolError Unit :=
  if value.isObject = false then .error ⟨code, "expected object"⟩
  else if hasFields value keys = false then .error ⟨code, "object fields do not match contract"⟩
  else .ok ()

/-- A member of an object whose keys were checked. -/
def memberOf (value : Json) (key : String) : Except ProtocolError Json :=
  match value.member? key with
  | some member => .ok member
  | none => .error ⟨"SCHEMA", "object fields do not match contract"⟩

/-- `_array`. -/
def checkArray (nonempty : Bool) : Json → Except ProtocolError (List Json)
  | .arr items =>
    if nonempty && items.isEmpty then .error ⟨"SCHEMA", "expected array with at least one item"⟩
    else .ok items
  | _ =>
    .error ⟨"SCHEMA", "expected array" ++ if nonempty then " with at least one item" else ""⟩

/-- The bytes of a text. -/
def textBytes (text : String) : Nat := (text.toList.map Char.utf8Size).sum

/-- `_string` for a name. -/
def checkName : Json → Except ProtocolError String
  | .str text =>
    if textBytes text = 0 ∨ 128 < textBytes text then
      .error ⟨"SCHEMA", "string length outside permitted bounds"⟩
    else .ok text
  | _ => .error ⟨"SCHEMA", "expected string"⟩

/-- A field of a record or a case of a variant. -/
def namedType (nameKey typeKey : String) (type : Json → Except ProtocolError PortType)
    (item : Json) : Except ProtocolError (String × PortType) := do
  checkObject "SCHEMA" [nameKey, typeKey] item
  let name ← memberOf item nameKey >>= checkName
  let inner ← memberOf item typeKey >>= type
  .ok (name, inner)

/-- The fields of a record or the cases of a variant. -/
def namedTypes (nameKey typeKey : String) (nonempty : Bool) (label : String)
    (type : Json → Except ProtocolError PortType) (value : Json) :
    Except ProtocolError (List (String × PortType)) := do
  let items ← checkArray nonempty value
  let named ← items.mapM (namedType nameKey typeKey type)
  ensure (decide (named.map (·.1)).Nodup) ("duplicate " ++ label)
  .ok named

/-- The type of the keys of a map. -/
def isStringKind : Json → Bool
  | .obj [("kind", .str "str")] => true
  | _ => false

def kindOf (shape : Json) : Option String :=
  match shape.member? "kind" with
  | some (.str kind) => some kind
  | _ => none

/-- `_type`, with the number of levels that are left. -/
def typeAt : Nat → Json → Except ProtocolError PortType
  | 0, _ => .error ⟨"LIMIT", "type depth budget exceeded"⟩
  | left + 1, shape => do
    ensure shape.isObject "expected object"
    if kindOf shape = some "int" then do
      checkObject "SCHEMA" ["kind"] shape
      .ok .int
    else if kindOf shape = some "bool" then do
      checkObject "SCHEMA" ["kind"] shape
      .ok .bool
    else if kindOf shape = some "str" then do
      checkObject "SCHEMA" ["kind"] shape
      .ok .str
    else if kindOf shape = some "null" then do
      checkObject "SCHEMA" ["kind"] shape
      .ok .null
    else if kindOf shape = some "set" then do
      checkObject "SCHEMA" ["kind", "element"] shape
      .set <$> (memberOf shape "element" >>= typeAt left)
    else if kindOf shape = some "seq" then do
      checkObject "SCHEMA" ["kind", "element"] shape
      .seq <$> (memberOf shape "element" >>= typeAt left)
    else if kindOf shape = some "tuple" then do
      checkObject "SCHEMA" ["kind", "elements"] shape
      let items ← memberOf shape "elements" >>= checkArray false
      .tuple <$> items.mapM (typeAt left)
    else if kindOf shape = some "record" then do
      checkObject "SCHEMA" ["kind", "fields"] shape
      .record <$> (memberOf shape "fields" >>=
        namedTypes "wireName" "type" false "record field" (typeAt left))
    else if kindOf shape = some "map" then do
      checkObject "SCHEMA" ["kind", "key", "value"] shape
      let key ← memberOf shape "key"
      ensure (isStringKind key) "portable maps require string keys"
      let _ ← typeAt left key
      .map <$> (memberOf shape "value" >>= typeAt left)
    else if kindOf shape = some "variant" then do
      checkObject "SCHEMA" ["kind", "cases"] shape
      .variant <$> (memberOf shape "cases" >>=
        namedTypes "tag" "payload" true "variant tag" (typeAt left))
    else .error ⟨"SCHEMA", "unsupported portable type"⟩

/-- A type that ends within some levels, with different names for different
    fields and cases. -/
inductive ValidType : Nat → PortType → Prop where
  | int {n : Nat} : ValidType (n + 1) .int
  | bool {n : Nat} : ValidType (n + 1) .bool
  | str {n : Nat} : ValidType (n + 1) .str
  | null {n : Nat} : ValidType (n + 1) .null
  | seq {n : Nat} {t : PortType} (element : ValidType n t) : ValidType (n + 1) (.seq t)
  | set {n : Nat} {t : PortType} (element : ValidType n t) : ValidType (n + 1) (.set t)
  | tuple {n : Nat} {ts : List PortType} (elements : ∀ t ∈ ts, ValidType n t) :
      ValidType (n + 1) (.tuple ts)
  | record {n : Nat} {fields : List (String × PortType)} (names : (fields.map (·.1)).Nodup)
      (types : ∀ f ∈ fields, ValidType n f.2) : ValidType (n + 1) (.record fields)
  | map {n : Nat} {t : PortType} (value : ValidType n t) : ValidType (n + 1) (.map t)
  | variant {n : Nat} {cases : List (String × PortType)} (names : (cases.map (·.1)).Nodup)
      (types : ∀ c ∈ cases, ValidType n c.2) : ValidType (n + 1) (.variant cases)

theorem ensure_eq_ok {condition : Bool} {message : String} {u : Unit} :
    ensure condition message = .ok u ↔ condition = true := by
  cases condition
  · exact ⟨nofun, nofun⟩
  · exact ⟨fun _ => rfl, fun _ => rfl⟩

theorem forall_mem_of_forall₂ {α β : Type} {R : α → β → Prop} {P : β → Prop} {xs : List α}
    {ys : List β} (h : List.Forall₂ R xs ys) (hP : ∀ x y, R x y → P y) : ∀ y ∈ ys, P y := by
  induction h with
  | nil => exact nofun
  | cons hxy _ ih =>
    intro y hy
    rcases List.mem_cons.mp hy with rfl | hy
    · exact hP _ _ hxy
    · exact ih y hy

theorem namedTypes_valid {nameKey typeKey label : String} {nonempty : Bool} {n : Nat} {value : Json}
    {type : Json → Except ProtocolError PortType} {named : List (String × PortType)}
    (htype : ∀ shape t, type shape = .ok t → ValidType n t)
    (h : namedTypes nameKey typeKey nonempty label type value = .ok named) :
    (named.map (·.1)).Nodup ∧ ∀ f ∈ named, ValidType n f.2 := by
  obtain ⟨items, -, h⟩ := bind_eq_ok.mp h
  obtain ⟨named', hnamed, h⟩ := bind_eq_ok.mp h
  obtain ⟨_, hnodup, h⟩ := bind_eq_ok.mp h
  cases h
  refine ⟨?_, forall_mem_of_forall₂ (mapM_eq_ok.mp hnamed) ?_⟩
  · simpa using ensure_eq_ok.mp hnodup
  · intro item f hf
    obtain ⟨-, -, hf⟩ := bind_eq_ok.mp hf
    obtain ⟨name, -, hf⟩ := bind_eq_ok.mp hf
    obtain ⟨inner, hinner, hf⟩ := bind_eq_ok.mp hf
    obtain ⟨shape, -, hinner⟩ := bind_eq_ok.mp hinner
    cases hf
    exact htype shape inner hinner

/-- What passes the check is valid. -/
theorem typeAt_valid {n : Nat} {shape : Json} {t : PortType} (h : typeAt n shape = .ok t) :
    ValidType n t := by
  induction n generalizing shape t with
  | zero => cases h
  | succ n ih =>
    rw [typeAt] at h
    obtain ⟨-, -, h⟩ := bind_eq_ok.mp h
    -- One case for every kind; each goes on with the types inside.
    by_cases hint : kindOf shape = some "int"
    · rw [if_pos hint] at h
      obtain ⟨-, -, h⟩ := bind_eq_ok.mp h
      cases h
      exact .int
    rw [if_neg hint] at h
    by_cases hbool : kindOf shape = some "bool"
    · rw [if_pos hbool] at h
      obtain ⟨-, -, h⟩ := bind_eq_ok.mp h
      cases h
      exact .bool
    rw [if_neg hbool] at h
    by_cases hstr : kindOf shape = some "str"
    · rw [if_pos hstr] at h
      obtain ⟨-, -, h⟩ := bind_eq_ok.mp h
      cases h
      exact .str
    rw [if_neg hstr] at h
    by_cases hnull : kindOf shape = some "null"
    · rw [if_pos hnull] at h
      obtain ⟨-, -, h⟩ := bind_eq_ok.mp h
      cases h
      exact .null
    rw [if_neg hnull] at h
    by_cases hset : kindOf shape = some "set"
    · rw [if_pos hset] at h
      obtain ⟨-, -, h⟩ := bind_eq_ok.mp h
      obtain ⟨inner, hinner, rfl⟩ := map_eq_ok.mp h
      obtain ⟨element, -, hinner⟩ := bind_eq_ok.mp hinner
      exact .set (ih hinner)
    rw [if_neg hset] at h
    by_cases hseq : kindOf shape = some "seq"
    · rw [if_pos hseq] at h
      obtain ⟨-, -, h⟩ := bind_eq_ok.mp h
      obtain ⟨inner, hinner, rfl⟩ := map_eq_ok.mp h
      obtain ⟨element, -, hinner⟩ := bind_eq_ok.mp hinner
      exact .seq (ih hinner)
    rw [if_neg hseq] at h
    by_cases htuple : kindOf shape = some "tuple"
    · rw [if_pos htuple] at h
      obtain ⟨-, -, h⟩ := bind_eq_ok.mp h
      obtain ⟨items, -, h⟩ := bind_eq_ok.mp h
      obtain ⟨inner, hinner, rfl⟩ := map_eq_ok.mp h
      exact .tuple (forall_mem_of_forall₂ (mapM_eq_ok.mp hinner) fun _ _ => ih)
    rw [if_neg htuple] at h
    by_cases hrecord : kindOf shape = some "record"
    · rw [if_pos hrecord] at h
      obtain ⟨-, -, h⟩ := bind_eq_ok.mp h
      obtain ⟨fields, hfields, rfl⟩ := map_eq_ok.mp h
      obtain ⟨value, -, hfields⟩ := bind_eq_ok.mp hfields
      have hvalid := namedTypes_valid (fun _ _ => ih) hfields
      exact .record hvalid.1 hvalid.2
    rw [if_neg hrecord] at h
    by_cases hmap : kindOf shape = some "map"
    · rw [if_pos hmap] at h
      obtain ⟨-, -, h⟩ := bind_eq_ok.mp h
      obtain ⟨key, -, h⟩ := bind_eq_ok.mp h
      obtain ⟨-, -, h⟩ := bind_eq_ok.mp h
      obtain ⟨-, -, h⟩ := bind_eq_ok.mp h
      obtain ⟨inner, hinner, rfl⟩ := map_eq_ok.mp h
      obtain ⟨value, -, hinner⟩ := bind_eq_ok.mp hinner
      exact .map (ih hinner)
    rw [if_neg hmap] at h
    by_cases hvariant : kindOf shape = some "variant"
    · rw [if_pos hvariant] at h
      obtain ⟨-, -, h⟩ := bind_eq_ok.mp h
      obtain ⟨cases, hcases, rfl⟩ := map_eq_ok.mp h
      obtain ⟨value, -, hcases⟩ := bind_eq_ok.mp hcases
      have hvalid := namedTypes_valid (fun _ _ => ih) hcases
      exact .variant hvalid.1 hvalid.2
    rw [if_neg hvariant] at h
    cases h

/-! ### Recursion over a type -/

/-- What to do at every kind of type, given what is done with the types inside.
    Where the elements are compared, the type of the elements is given as well. -/
structure Reader (ρ : Type) where
  int : ρ
  bool : ρ
  str : ρ
  null : ρ
  seq : ρ → ρ
  set : PortType → ρ → ρ
  tuple : List ρ → ρ
  record : List (String × ρ) → ρ
  map : ρ → ρ
  variant : List (String × ρ) → ρ

namespace Reader

variable {ρ : Type} (R : Reader ρ)

mutual
def read : PortType → ρ
  | .int => R.int
  | .bool => R.bool
  | .str => R.str
  | .null => R.null
  | .seq t => R.seq (read t)
  | .set t => R.set t (read t)
  | .tuple ts => R.tuple (readAll ts)
  | .record fields => R.record (readNamed fields)
  | .map t => R.map (read t)
  | .variant cases => R.variant (readNamed cases)

def readAll : List PortType → List ρ
  | [] => []
  | t :: ts => read t :: readAll ts

def readNamed : List (String × PortType) → List (String × ρ)
  | [] => []
  | (name, t) :: fields => (name, read t) :: readNamed fields
end

theorem readAll_eq (ts : List PortType) : R.readAll ts = ts.map R.read := by
  induction ts with
  | nil => rfl
  | cons t ts ih => rw [readAll, ih, List.map_cons]

theorem readNamed_eq (fields : List (String × PortType)) :
    R.readNamed fields = fields.map fun f => (f.1, R.read f.2) := by
  induction fields with
  | nil => rfl
  | cons f fields ih => rw [readNamed, ih, List.map_cons]

end Reader

end MirrorGate.Codec

/-! ### Values that fit a frame -/

namespace Json

mutual
/-- No object has a key twice. -/
def Distinct : Json → Prop
  | .null | .bool _ | .int _ | .str _ => True
  | .arr items => DistinctItems items
  | .obj members => (members.map (·.1)).Nodup ∧ DistinctMembers members

def DistinctItems : List Json → Prop
  | [] => True
  | j :: js => Distinct j ∧ DistinctItems js

def DistinctMembers : List (String × Json) → Prop
  | [] => True
  | (_, j) :: ms => Distinct j ∧ DistinctMembers ms
end

theorem distinctItems_iff (items : List Json) :
    DistinctItems items ↔ ∀ j ∈ items, j.Distinct := by
  induction items with
  | nil => simp [DistinctItems]
  | cons j js ih => simp [DistinctItems, ih]

theorem distinctMembers_iff (members : List (String × Json)) :
    DistinctMembers members ↔ ∀ m ∈ members, m.2.Distinct := by
  induction members with
  | nil => simp [DistinctMembers]
  | cons m ms ih => simp [DistinctMembers, ih]

theorem bytes_item_le {j : Json} {items : List Json} (h : j ∈ items) :
    j.bytes ≤ (Json.arr items).bytes := by
  have hle : j.bytes ≤ bytesItems items := by
    induction items with
    | nil => cases h
    | cons j' js ih =>
      rw [bytesItems]
      rcases List.mem_cons.mp h with rfl | h
      · omega
      · have := ih h
        omega
  rw [bytes]
  omega

theorem bytes_member_le {m : String × Json} {members : List (String × Json)} (h : m ∈ members) :
    m.2.bytes ≤ (Json.obj members).bytes := by
  have hle : m.2.bytes ≤ bytesMembers members := by
    induction members with
    | nil => cases h
    | cons m' ms ih =>
      rw [bytesMembers]
      rcases List.mem_cons.mp h with rfl | h
      · omega
      · have := ih h
        omega
  rw [bytes]
  omega

theorem mem_of_member? {value x : Json} {key : String} (h : value.member? key = some x) :
    ∃ members, value = .obj members ∧ (key, x) ∈ members := by
  cases value with
  | obj members =>
    obtain ⟨m, hm, rfl⟩ := Option.map_eq_some_iff.mp h
    have hkey : m.1 = key := by simpa using List.find?_some hm
    exact ⟨members, rfl, hkey ▸ List.mem_of_find?_eq_some hm⟩
  | _ => cases h

end Json

namespace MirrorGate.Codec

/-- A value that has no key twice in an object and that fits a frame. -/
structure Fits (value : Json) : Prop where
  distinct : value.Distinct
  bytes : value.bytes ≤ 65535

theorem Fits.keys {value : Json} (h : Fits value) :
    ∀ members, value = .obj members → (members.map (·.1)).Nodup := by
  rintro members rfl
  exact h.distinct.1

/-- What is inside a value that fits a frame fits one. -/
theorem Fits.item {items : List Json} (h : Fits (.arr items)) : ∀ j ∈ items, Fits j := by
  intro j hj
  exact ⟨(Json.distinctItems_iff items).mp h.distinct j hj,
    (Json.bytes_item_le hj).trans h.bytes⟩

theorem Fits.member {value x : Json} {key : String} (h : Fits value)
    (hx : value.member? key = some x) : Fits x := by
  obtain ⟨members, rfl, hmem⟩ := Json.mem_of_member? hx
  exact ⟨(Json.distinctMembers_iff members).mp h.distinct.2 (key, x) hmem,
    (Json.bytes_member_le hmem).trans h.bytes⟩

end MirrorGate.Codec
