import MirrorGate.Codec.KeyTexts
import MirrorGate.Lib.Decimal

/-!
# Four Checks of a Portable Value

The supervisor, the runtimes for Rust and for Node and the library for C++ each
check that a value is of a type. They go over the value along the type. The
supervisor and Rust return a key for every part, and Node and C++ decode the
parts to values of their language and compute keys where they need them.

They differ in many small things. The supervisor builds a frozen set and
compares sizes; Rust finds a repeated key when it comes to the element; Node
decodes all elements before it compares keys; C++ computes the key of an element
before it has checked the element. Rust goes over the fields of a record in the
order of their names, and looks at the value of an entry of a map before it
looks for its key among those before.

An object of the language behind a runtime is met only in decoded values. C++
can fail with an exception of the JSON library, where a key is computed from a
value that is not of the type.

## Main definitions

* `pythonValue`: `_value` of the supervisor.
* `rustCanonical`, `rustValidate`: `Type::canonical` and `Type::validate`.
* `Native`, `natives`: Decoded values.
* `nodeCanonical`, `nodeDecode`: `canonical` and `decodeValue` of Node.
* `cppCanonical`, `cppDecode`: `canonical` and `decode_value` of C++.
-/

namespace MirrorGate.Codec

open Fallible

/-! ### What the implementations share -/

/-- All of them look at the depth first. -/
def limited {ε ρ : Type} (deep : ε) (body : Nat → Json → Except ε ρ) (depth : Nat) (v : Json) :
    Except ε ρ :=
  if 32 < depth then .error deep else body depth v

/-- The array under the only key of an object. -/
def collection {ε : Type} (fields : List String → Json → Except ε Unit) (failure : ε)
    (tag : String) (v : Json) : Except ε (List Json) := do
  fields [tag] v
  match v.member? tag with
  | some (.arr items) => .ok items
  | _ => .error failure

/-- The elements of a tuple. -/
def elements {ε ρ : Type} (children : List (Nat → Json → Except ε ρ)) (depth : Nat)
    (items : List Json) : Except ε (List ρ) :=
  (children.zip items).mapM fun p => p.1 depth p.2

/-- A field of a record. -/
def field {ε ρ : Type} (missing : ε) (depth : Nat) (v : Json)
    (f : String × (Nat → Json → Except ε ρ)) : Except ε (String × ρ) :=
  match v.member? f.1 with
  | some x => (f.1, ·) <$> f.2 depth x
  | none => .error missing

/-- The value of a variant. -/
def caseOf {ε ρ : Type} (unknown : ε) (cases : List (String × (Nat → Json → Except ε ρ)))
    (tag : String) (depth : Nat) (value : Json) : Except ε ρ :=
  match cases.find? fun c => c.1 = tag with
  | some c => c.2 depth value
  | none => .error unknown

/-- An entry of a map. -/
def entryOf {ε : Type} (failure : ε) : Json → Except ε (String × Json)
  | .arr [.str key, value] => .ok (key, value)
  | _ => .error failure

/-! ### The supervisor -/

namespace PyKey

def insertAll (seen : List PyKey) : List PyKey → List PyKey
  | [] => seen
  | k :: ks =>
    if seen.any fun x => x.eq k then insertAll seen ks else insertAll (seen ++ [k]) ks

/-- The elements of a frozen set that is made of these keys. -/
def distinct (keys : List PyKey) : List PyKey := insertAll [] keys

end PyKey

def pythonDeep : ProtocolError := ⟨"LIMIT", "value depth budget exceeded"⟩

def valueError (message : String) : ProtocolError := ⟨"VALUE", message⟩

/-- The elements of a set, which must not make a smaller frozen set. -/
def pythonSet (child : Json → Except ProtocolError PyKey) (values : List Json) :
    Except ProtocolError PyKey := do
  let keys ← values.mapM child
  if (PyKey.distinct keys).length = keys.length then .ok (pythonKeys.set keys)
  else .error (valueError "duplicate set member")

def pythonReader : Reader (Nat → Json → Except ProtocolError PyKey) where
  int := limited pythonDeep fun _ v => do
    checkObject "VALUE" ["#bigint"] v
    match v.member? "#bigint" with
    | some (.str number) =>
      if isCanonicalInteger number.toList then .ok (pythonKeys.int number)
      else .error (valueError "integer must be a canonical decimal string")
    | _ => .error (valueError "integer must be a canonical decimal string")
  bool := limited pythonDeep fun _ v =>
    match v with
    | .bool value => .ok (pythonKeys.bool value)
    | _ => .error (valueError "expected boolean")
  str := limited pythonDeep fun _ v =>
    match v with
    | .str value => .ok (pythonKeys.str value)
    | _ => .error (valueError "expected string")
  null := limited pythonDeep fun _ v =>
    match v with
    | .null => .ok pythonKeys.null
    | _ => .error (valueError "expected null")
  seq child := limited pythonDeep fun depth v =>
    match v with
    | .arr values => pythonKeys.seq <$> values.mapM (child (depth + 1))
    | _ => .error (valueError "expected collection array")
  set _ child := limited pythonDeep fun depth v => do
    let values ← collection (checkObject "VALUE") (valueError "expected collection array") "#set" v
    pythonSet (child (depth + 1)) values
  tuple children := limited pythonDeep fun depth v => do
    let values ← collection (checkObject "VALUE") (valueError "expected collection array") "#tup" v
    if values.length = children.length then
      pythonKeys.tuple <$> elements children (depth + 1) values
    else .error (valueError "tuple arity does not match")
  record fields := limited pythonDeep fun depth v => do
    checkObject "VALUE" (fields.map (·.1)) v
    pythonKeys.record <$>
      fields.mapM (field (valueError "object fields do not match contract") (depth + 1) v)
  map child := limited pythonDeep fun depth v => do
    let entries ← collection (checkObject "VALUE") (valueError "expected map entry array") "#map" v
    pythonKeys.map <$> distinctBy (entryOf (valueError "expected string-key map pair"))
      (valueError "duplicate map key") (child (depth + 1)) [] entries
  variant cases := limited pythonDeep fun depth v => do
    checkObject "VALUE" ["tag", "value"] v
    match v.member? "tag", v.member? "value" with
    | some (.str tag), some value =>
      pythonKeys.variant tag <$>
        caseOf (valueError "unknown variant tag") cases tag (depth + 1) value
    | _, _ => .error (valueError "unknown variant tag")

/-- `_value`. -/
def pythonValue : PortType → Nat → Json → Except ProtocolError PyKey := pythonReader.read

/-! ### Rust -/

/-- `exact`. -/
def rustExact (keys : List String) (v : Json) : Except String Unit :=
  if v.isObject = false then .error "expected object"
  else if v.exact keys = false then .error "unexpected or missing object field"
  else .ok ()

/-- A text without its sign. -/
def unsigned : List Char → List Char
  | '-' :: digits => digits
  | digits => digits

/-- `canonical_integer`. -/
def rustCanonicalInteger (text : List Char) : Bool :=
  text = ['0'] ||
    match unsigned text with
    | [] => false
    | c :: cs => ('1' ≤ c && c ≤ '9') && cs.all Char.isDigit

def rustEntry : Json → Except String (String × Json)
  | .arr [.str key, value] => .ok (key, value)
  | .arr [_, _] => .error "map key requires string"
  | .arr _ => .error "map entry arity mismatch"
  | _ => .error "map entry requires pair"

/-- The key of an entry together with the key of its value. -/
def rustEntryKey (child : Json → Except String String) (entry : Json) :
    Except String (String × String) := do
  let (key, value) ← rustEntry entry
  (key, ·) <$> child value

/-- The elements of a set, whose keys are inserted one after the other. -/
def rustSet (child : Json → Except String String) (values : List Json) :
    Except String String := do
  let keys ← distinctBy (fun x => (·, ()) <$> child x) "duplicate set element" .ok [] values
  .ok (rustKeys.set (keys.map (·.1)))

/-- The fields of a record. They are kept in the order of their names, and so
    are their keys. -/
def rustRecord (fields : List (String × (Nat → Json → Except String String))) (depth : Nat)
    (v : Json) : Except String String := do
  let keys ← (fields.insertionSort fun a b => a.1 ≤ b.1).mapM
    (field "missing record field" depth v)
  .ok ("record:" ++ keyText (members keys))

def rustReader : Reader (Nat → Json → Except String String) where
  int := limited "value depth exceeded" fun _ v => do
    rustExact ["#bigint"] v
    match v.member? "#bigint" with
    | some (.str text) =>
      if rustCanonicalInteger text.toList then .ok (rustKeys.int text)
      else .error "noncanonical integer"
    | _ => .error "integer requires decimal string"
  bool := limited "value depth exceeded" fun _ v =>
    match v with
    | .bool value => .ok (rustKeys.bool value)
    | _ => .error "value type mismatch"
  str := limited "value depth exceeded" fun _ v =>
    match v with
    | .str value => .ok (rustKeys.str value)
    | _ => .error "value type mismatch"
  null := limited "value depth exceeded" fun _ v =>
    match v with
    | .null => .ok rustKeys.null
    | _ => .error "value type mismatch"
  seq child := limited "value depth exceeded" fun depth v =>
    match v with
    | .arr values => rustKeys.seq <$> values.mapM (child (depth + 1))
    | _ => .error "sequence requires array"
  set _ child := limited "value depth exceeded" fun depth v => do
    let values ← collection rustExact "set requires array" "#set" v
    rustSet (child (depth + 1)) values
  tuple children := limited "value depth exceeded" fun depth v => do
    let values ← collection rustExact "tuple requires array" "#tup" v
    if values.length = children.length then
      rustKeys.tuple <$> elements children (depth + 1) values
    else .error "tuple arity mismatch"
  record fields := limited "value depth exceeded" fun depth v =>
    match v with
    | .obj entries =>
      if entries.length = fields.length then rustRecord fields (depth + 1) v
      else .error "record field mismatch"
    | _ => .error "record requires object"
  map child := limited "value depth exceeded" fun depth v => do
    let entries ← collection rustExact "map requires array" "#map" v
    rustKeys.map <$>
      distinctBy (rustEntryKey (child (depth + 1))) "duplicate map key" .ok [] entries
  variant cases := limited "value depth exceeded" fun depth v => do
    rustExact ["tag", "value"] v
    match v.member? "tag", v.member? "value" with
    | some (.str tag), some value =>
      rustKeys.variant tag <$> caseOf "unknown variant tag" cases tag (depth + 1) value
    | _, _ => .error "variant tag requires string"

/-- `Type::canonical`. -/
def rustCanonical : PortType → Nat → Json → Except String String := rustReader.read

/-- `Type::validate`. -/
def rustValidate (t : PortType) (v : Json) : Except String Unit := do
  checkBounds v
  let _ ← rustCanonical t 0 v
  .ok ()

/-! ### Decoded values -/

/-- A value of a language, with the integers it has. -/
inductive Native (ι : Type) where
  | bigint (value : ι)
  | boolean (value : Bool)
  | string (value : String)
  | null
  | sequence (items : List (Native ι))
  | set (items : List (Native ι))
  | tuple (items : List (Native ι))
  | record (fields : List (String × Native ι))
  | map (entries : List (String × Native ι))
  | variant (tag : String) (value : Native ι)

def natives {ι : Type} (integer : String → ι) : Builder (Native ι) where
  int text := .bigint (integer text)
  bool := .boolean
  str := .string
  null := .null
  seq := .sequence
  set := .set
  tuple := .tuple
  record := .record
  map := .map
  variant := .variant

/-- A failure with a code, or an exception of the language or of a library. -/
inductive Failure where
  | coded (error : ProtocolError)
  | thrown

def valueFailure (message : String) : Failure := .coded (valueError message)

def deepFailure : Failure := .coded ⟨"LIMIT", "Value depth limit exceeded"⟩

/-! ### Node -/

/-- `exact`. -/
def nodeExact (keys : List String) (v : Json) : Except Failure Unit :=
  if v.exact keys then .ok () else .error (valueFailure "Unexpected object fields")

/-- A decimal number as an integer. -/
def bigInt (text : String) : Int :=
  match text.toList with
  | '-' :: digits => -(Decimal.number digits)
  | digits => Decimal.number digits

/-- A property of an object, or an exception. -/
def propertyOf (v : Json) (key : String) : Except Failure Json :=
  match v.member? key with
  | some x => .ok x
  | none => .error .thrown

/-- A field with its key. -/
def fieldText (v : Json) (f : String × (Json → Except Failure String)) :
    Except Failure (String × String) := do
  let x ← propertyOf v f.1
  (f.1, ·) <$> f.2 x

/-- The key of an entry with the key of its value. -/
def entryText (child : Json → Except Failure String) : Json → Except Failure (String × String)
  | .arr (.str key :: value :: _) => (key, ·) <$> child value
  | _ => .error .thrown

/-- The keys of a tuple. Without elements nothing is looked at. -/
def tupleText (children : List (Json → Except Failure String)) (v : Json) :
    Except Failure String :=
  if children.isEmpty then .ok (keyText (strings []))
  else
    match v.member? "#tup" with
    | some (.arr items) =>
      if items.length < children.length then .error .thrown
      else do
        let keys ← (children.zip items).mapM fun p => p.1 p.2
        .ok (keyText (strings keys))
    | _ => .error .thrown

/-- The tag of a variant with the key of its value. -/
def variantText (unknown : Failure) (cases : List (String × (Json → Except Failure String)))
    (v : Json) : Except Failure String :=
  match v.member? "tag" with
  | some (.str tag) =>
    match cases.find? fun c => c.1 = tag with
    | some c => do
      let key ← propertyOf v "value" >>= c.2
      .ok (keyText (strings [tag, key]))
    | none => .error unknown
  | _ => .error .thrown

/-- The texts that Node and C++ compute. They differ in the order, in what a
    loop over a value runs over, in the failure for a tag that is not known and
    in when the fields of a record are sorted. -/
def textReader (O : TextOrder) (listOf : Json → Except Failure (List Json)) (unknown : Failure)
    (record : List (String × (Json → Except Failure String)) → Json → Except Failure String) :
    Reader (Json → Except Failure String) where
  int v := .ok (keyText v)
  bool v := .ok (keyText v)
  str v := .ok (keyText v)
  null v := .ok (keyText v)
  seq child v := do
    let items ← listOf v
    let keys ← items.mapM child
    .ok (keyText (strings keys))
  set _ child v := do
    let items ← propertyOf v "#set" >>= listOf
    let keys ← items.mapM child
    .ok (keyText (strings (O.sort keys)))
  tuple := tupleText
  record := record
  map child v := do
    let items ← propertyOf v "#map" >>= listOf
    let keys ← items.mapM (entryText child)
    .ok (keyText (pairs (O.sortPairs keys)))
  variant := variantText unknown

/-- The elements of an array. -/
def arrayOf : Json → Except Failure (List Json)
  | .arr items => .ok items
  | _ => .error .thrown

/-- Node sorts the fields before it computes their keys. -/
def nodeRecordText (fields : List (String × (Json → Except Failure String))) (v : Json) :
    Except Failure String := do
  let keys ← (fields.insertionSort fun a b => Utf16.units a.1 ≤ Utf16.units b.1).mapM
    (fieldText v)
  .ok (keyText (pairs keys))

def nodeTextReader : Reader (Json → Except Failure String) :=
  textReader unitOrder arrayOf .thrown nodeRecordText

/-- `canonical`, which is applied to decoded values only. -/
def nodeCanonical : PortType → Json → Except Failure String := nodeTextReader.read

/-- `duplicates`. -/
def nodeDuplicates (t : PortType) (values : List Json) : Except Failure Unit := do
  let _ ← distinctBy (fun x => (·, ()) <$> nodeCanonical t x)
    (valueFailure "Duplicate collection element") .ok [] values
  .ok ()

def nodeNatives : Builder (Native Int) := natives bigInt

/-- The elements of a set, all of which are decoded first. -/
def nodeSet (element : PortType) (child : Json → Except Failure (Native Int))
    (values : List Json) : Except Failure (Native Int) := do
  let decoded ← values.mapM child
  nodeDuplicates element values
  .ok (nodeNatives.set decoded)

def nodeReader : Reader (Nat → Json → Except Failure (Native Int)) where
  int := limited deepFailure fun _ v => do
    nodeExact ["#bigint"] v
    match v.member? "#bigint" with
    | some (.str text) =>
      if isCanonicalInteger text.toList then .ok (nodeNatives.int text)
      else .error (valueFailure "Invalid integer encoding")
    | _ => .error (valueFailure "Invalid integer encoding")
  bool := limited deepFailure fun _ v =>
    match v with
    | .bool value => .ok (nodeNatives.bool value)
    | _ => .error (valueFailure "Expected boolean")
  str := limited deepFailure fun _ v =>
    match v with
    | .str value => .ok (nodeNatives.str value)
    | _ => .error (valueFailure "Expected Unicode string")
  null := limited deepFailure fun _ v =>
    match v with
    | .null => .ok nodeNatives.null
    | _ => .error (valueFailure "Expected null")
  seq child := limited deepFailure fun depth v =>
    match v with
    | .arr values => nodeNatives.seq <$> values.mapM (child (depth + 1))
    | _ => .error (valueFailure "Expected sequence")
  set element child := limited deepFailure fun depth v => do
    let values ← collection nodeExact (valueFailure "Expected set elements") "#set" v
    nodeSet element (child (depth + 1)) values
  tuple children := limited deepFailure fun depth v => do
    let values ← collection nodeExact (valueFailure "Tuple arity mismatch") "#tup" v
    if values.length = children.length then
      nodeNatives.tuple <$> elements children (depth + 1) values
    else .error (valueFailure "Tuple arity mismatch")
  record fields := limited deepFailure fun depth v => do
    nodeExact (fields.map (·.1)) v
    nodeNatives.record <$> fields.mapM (field .thrown (depth + 1) v)
  map child := limited deepFailure fun depth v => do
    let entries ← collection nodeExact (valueFailure "Expected map entries") "#map" v
    nodeNatives.map <$> distinctBy (entryOf (valueFailure "Invalid or duplicate map key"))
      (valueFailure "Invalid or duplicate map key") (child (depth + 1)) [] entries
  variant cases := limited deepFailure fun depth v => do
    nodeExact ["tag", "value"] v
    match v.member? "tag", v.member? "value" with
    | some (.str tag), some value =>
      nodeNatives.variant tag <$>
        caseOf (valueFailure "Unknown variant tag") cases tag (depth + 1) value
    | _, _ => .error (valueFailure "Unknown variant tag")

/-- `decodeValue`. -/
def nodeDecode : PortType → Nat → Json → Except Failure (Native Int) := nodeReader.read

/-! ### C++ -/

/-- `require_exact_fields`. -/
def cppExact (keys : List String) (v : Json) : Except Failure Unit :=
  match v with
  | .obj entries =>
    match keys.find? fun k => !(entries.any fun m => m.1 = k) with
    | some key => .error (valueFailure ("Missing field: " ++ key))
    | none =>
      match ((entries.map (·.1)).insertionSort (· ≤ ·)).find? fun k => !keys.contains k with
      | some key => .error (valueFailure ("Unexpected field: " ++ key))
      | none => .ok ()
  | _ => .error (valueFailure "Expected JSON object")

/-- `require_string` for an integer. -/
def cppString (v : Json) : Except Failure String :=
  match v.member? "#bigint" with
  | some (.str text) =>
    if 65535 < textBytes text then
      .error (valueFailure "String field exceeds limit: #bigint")
    else .ok text
  | _ => .error (valueFailure "Invalid string field: #bigint")

/-- What a loop over a JSON value runs over. -/
def iterate : Json → List Json
  | .null => []
  | .arr items => items
  | .obj entries => (entries.insertionSort fun a b => a.1 ≤ b.1).map (·.2)
  | v => [v]

/-- C++ sorts the fields together with their keys. -/
def cppRecordText (fields : List (String × (Json → Except Failure String))) (v : Json) :
    Except Failure String := do
  let keys ← fields.mapM (fieldText v)
  .ok (keyText (pairs (pairOrder.sortPairs keys)))

def cppTextReader : Reader (Json → Except Failure String) :=
  textReader pairOrder (fun v => .ok (iterate v)) (valueFailure "Unknown variant tag")
    cppRecordText

/-- `canonical`. An integer is the only leaf that is an object, and it has one
    member, so that the order of members does not matter. -/
def cppCanonical : PortType → Json → Except Failure String := cppTextReader.read

def cppNatives : Builder (Native String) := natives id

/-- The elements of a set, each of which is decoded after its key was
    inserted. -/
def cppSet (element : PortType) (child : Json → Except Failure (Native String))
    (values : List Json) : Except Failure (Native String) := do
  let decoded ← distinctBy (fun x => (·, x) <$> cppCanonical element x)
    (valueFailure "Duplicate set element") child [] values
  .ok (cppNatives.set (decoded.map (·.2)))

def cppReader : Reader (Nat → Json → Except Failure (Native String)) where
  int := limited deepFailure fun _ v => do
    cppExact ["#bigint"] v
    let value ← cppString v
    if isCanonicalInteger value.toList then .ok (cppNatives.int value)
    else .error (valueFailure "Invalid integer encoding")
  bool := limited deepFailure fun _ v =>
    match v with
    | .bool value => .ok (cppNatives.bool value)
    | _ => .error (valueFailure "Expected boolean")
  str := limited deepFailure fun _ v =>
    match v with
    | .str value => .ok (cppNatives.str value)
    | _ => .error (valueFailure "Expected string")
  null := limited deepFailure fun _ v =>
    match v with
    | .null => .ok cppNatives.null
    | _ => .error (valueFailure "Expected null")
  seq child := limited deepFailure fun depth v =>
    match v with
    | .arr values => cppNatives.seq <$> values.mapM (child (depth + 1))
    | _ => .error (valueFailure "Expected sequence")
  set element child := limited deepFailure fun depth v => do
    let values ← collection cppExact (valueFailure "Expected set") "#set" v
    cppSet element (child (depth + 1)) values
  tuple children := limited deepFailure fun depth v => do
    let values ← collection cppExact (valueFailure "Tuple arity mismatch") "#tup" v
    if values.length = children.length then
      cppNatives.tuple <$> elements children (depth + 1) values
    else .error (valueFailure "Tuple arity mismatch")
  record fields := limited deepFailure fun depth v => do
    cppExact (fields.map (·.1)) v
    cppNatives.record <$> fields.mapM (field .thrown (depth + 1) v)
  map child := limited deepFailure fun depth v => do
    let entries ← collection cppExact (valueFailure "Expected map") "#map" v
    cppNatives.map <$> distinctBy (entryOf (valueFailure "Invalid map entry"))
      (valueFailure "Duplicate map key") (child (depth + 1)) [] entries
  variant cases := limited deepFailure fun depth v => do
    cppExact ["tag", "value"] v
    match v.member? "tag", v.member? "value" with
    | some (.str tag), some value =>
      cppNatives.variant tag <$>
        caseOf (valueFailure "Unknown variant tag") cases tag (depth + 1) value
    | _, _ => .error (valueFailure "Invalid variant tag")

/-- `decode_value`. -/
def cppDecode : PortType → Nat → Json → Except Failure (Native String) := cppReader.read

end MirrorGate.Codec
