import MirrorGate.Codec.Values

/-!
# Accepting the Values of a Type

`Conforms` is what a check of values has to satisfy. A value is accepted exactly
if it is of the type, and then the result is what the implementation builds from
such a value.

At most kinds the supervisor, the runtimes for Rust and for Node and the library
for C++ do the same with other messages, so that one lemma serves all of them.
What a lemma asks for is that the keys of objects are checked, however that is
done, and that the loop over the entries of a map or the elements of a set
finds the right ones.

## Main definitions

* `Conforms`: Accepting the values of a type and no others.
* `Exactly`: Checking the keys of an object.

## Theorems

* `exactly_python`, `exactly_rust`, `exactly_node`, `exactly_cpp`: All four check
  the keys of an object.
* `Conforms.items`, `Conforms.elements`, `Conforms.fields`, `Conforms.entries`:
  Loops over the parts of a value.
* `conforms_seq` and others: One kind after the other.
-/

namespace MirrorGate.Codec

open PortType Fallible List Builder

variable {ε κ : Type}

/-- Accepting the values of a type and no others. -/
def Conforms (B : Builder κ) (n : Nat) (t : PortType) (r : Nat → Json → Except ε κ) : Prop :=
  ∀ depth v, depth + n ≤ 33 → Fits v →
    ∀ k, r depth v = .ok k ↔ check t v = true ∧ B.build t v = some k

/-- A check of the keys of an object. -/
def Exactly (fields : List String → Json → Except ε Unit) : Prop :=
  ∀ keys v u, keys.Nodup → Fits v → (fields keys v = .ok u ↔ v.exact keys = true)

/-! ### Objects -/

variable {v : Json}

theorem exact_isObject {keys : List String} (h : v.exact keys = true) :
    v.isObject = true := by
  cases v with
  | obj members => rfl
  | _ => cases h

theorem exactly_python : Exactly (checkObject "VALUE") := by
  intro keys v u hkeys hv
  rw [checkObject, hasFields_eq_exact hv.keys hkeys]
  by_cases hexact : v.exact keys = true
  · simp [exact_isObject hexact, hexact]
  · simp only [Bool.not_eq_true] at hexact
    cases v.isObject <;> simp [hexact]

theorem exactly_rust : Exactly rustExact := by
  intro keys v u _ _
  rw [rustExact]
  by_cases hexact : v.exact keys = true
  · simp [exact_isObject hexact, hexact]
  · simp only [Bool.not_eq_true] at hexact
    cases v.isObject <;> simp [hexact]

theorem exactly_node : Exactly nodeExact := by
  intro keys v u _ _
  rw [nodeExact]
  cases v.exact keys <;> simp

theorem exactly_cpp : Exactly cppExact := by
  intro keys v u hkeys hv
  rw [← hasFields_eq_exact hv.keys hkeys]
  cases v with
  | obj members =>
    -- First a key that is missing, then one that should not be there.
    have hmissing : (keys.find? fun k => !(members.any fun m => m.1 = k)) = none ↔
        ∀ k ∈ keys, members.any (fun m => m.1 = k) = true := by
      rw [find?_eq_none]
      simp
    have hunexpected :
        (((members.map (·.1)).insertionSort (· ≤ ·)).find? fun k => !keys.contains k) = none ↔
          ∀ m ∈ members, keys.contains m.1 = true := by
      rw [find?_eq_none]
      simp [mem_insertionSort]
    have hfields : hasFields (.obj members) keys = true ↔
        (∀ m ∈ members, keys.contains m.1 = true) ∧
          ∀ k ∈ keys, members.any (fun m => m.1 = k) = true := by
      rw [hasFields, Bool.and_eq_true, all_eq_true, all_eq_true]
    rw [hfields, ← hmissing, ← hunexpected, cppExact]
    cases keys.find? fun k => !(members.any fun m => m.1 = k) with
    | some key => simp
    | none =>
      cases ((members.map (·.1)).insertionSort (· ≤ ·)).find? fun k => !keys.contains k with
      | some key => simp
      | none => simp
  | _ => simp [cppExact, hasFields]

theorem collection_eq_ok {fields : List String → Json → Except ε Unit} (hfields : Exactly fields)
    {failure : ε} {tag : String} (hv : Fits v) {items : List Json} :
    collection fields failure tag v = .ok items ↔ tagged v tag = some items := by
  rw [collection, bind_eq_ok, tagged]
  by_cases hexact : v.exact [tag] = true
  · have hok : ∃ u, fields [tag] v = .ok u :=
      ⟨(), (hfields [tag] v () (nodup_singleton tag) hv).mpr hexact⟩
    rw [if_pos hexact]
    cases v.member? tag with
    | none => simp
    | some x => cases x <;> simp [hok]
  · rw [if_neg hexact]
    refine ⟨?_, nofun⟩
    rintro ⟨u, hu, -⟩
    exact absurd ((hfields [tag] v u (nodup_singleton tag) hv).mp hu) hexact

theorem Fits.tagged (hv : Fits v) {tag : String} {items : List Json}
    (h : tagged v tag = some items) : ∀ x ∈ items, Fits x := by
  rw [MirrorGate.tagged] at h
  split at h
  · split at h
    · next items' hitems =>
        cases h
        exact (hv.member hitems).item
    · cases h
  · cases h

/-! ### Loops over the parts of a value -/

variable {B : Builder κ} {n : Nat} {r : Nat → Json → Except ε κ} {depth : Nat}
variable {t : PortType}

theorem Conforms.items
    (h : Conforms B n t r) (hdepth : depth + n ≤ 33) {items : List Json}
    (hitems : ∀ x ∈ items, Fits x) {ks : List κ} :
    items.mapM (r depth) = .ok ks ↔
      (∀ x ∈ items, check t x = true) ∧ items.mapM (B.build t) = some ks := by
  rw [mapM_eq_ok, mapM_eq_some, ← forall₂_and_left]
  exact forall₂_congr_left fun x hx k => h depth x hdepth (hitems x hx) k

theorem elements_cons {rs : List (Nat → Json → Except ε κ)} {x : Json} {xs : List Json} {ks : List κ} :
    elements (r :: rs) depth (x :: xs) = .ok ks ↔
      ∃ k ks', r depth x = .ok k ∧ elements rs depth xs = .ok ks' ∧ ks = k :: ks' := by
  rw [elements, zip_cons_cons, mapM_eq_ok, forall₂_cons_left_iff]
  simp only [elements, mapM_eq_ok]

variable {R : Reader (Nat → Json → Except ε κ)}

theorem Conforms.elements
    {ts : List PortType} (h : ∀ t ∈ ts, Conforms B n t (R.read t))
    (hdepth : depth + n ≤ 33) {items : List Json} (hitems : ∀ x ∈ items, Fits x)
    (hlength : items.length = ts.length) {ks : List κ} :
    elements (ts.map R.read) depth items = .ok ks ↔
      List.Forall₂ (fun t x => check t x = true) ts items ∧
        Builder.buildAll (ts.map B.build) items = some ks := by
  induction ts generalizing items ks with
  | nil =>
    have hnil : items = [] := length_eq_zero_iff.mp hlength
    subst hnil
    constructor
    · intro hks
      cases hks
      exact ⟨.nil, rfl⟩
    · rintro ⟨-, hks⟩
      cases hks
      rfl
  | cons t ts ih =>
    cases items with
    | nil => cases hlength
    | cons x xs =>
      have hhead := h t mem_cons_self depth x hdepth (hitems x mem_cons_self)
      have htail : ∀ ks', Codec.elements (ts.map R.read) depth xs = .ok ks' ↔
          List.Forall₂ (fun t x => check t x = true) ts xs ∧
            buildAll (ts.map B.build) xs = some ks' :=
        fun _ => ih (fun t ht => h t (mem_cons_of_mem _ ht))
          (fun x hx => hitems x (mem_cons_of_mem _ hx)) (Nat.succ.inj hlength)
      rw [map_cons, map_cons, elements_cons, forall₂_cons, buildAll,
        Option.bind_eq_some_iff]
      simp only [Option.map_eq_some_iff, hhead, htail]
      constructor
      · rintro ⟨k, ks', ⟨hx, hk⟩, ⟨hxs, hks'⟩, rfl⟩
        exact ⟨⟨hx, hxs⟩, k, hk, ks', hks', rfl⟩
      · rintro ⟨⟨hx, hxs⟩, k, hk, ks', hks', rfl⟩
        exact ⟨k, ks', ⟨hx, hk⟩, ⟨hxs, hks'⟩, rfl⟩

/-- One field of a record. -/
theorem Conforms.field {f : String × PortType} (h : Conforms B n f.2 r) (hdepth : depth + n ≤ 33) (hv : Fits v) {missing : ε} {k : String × κ} :
    field missing depth v (f.1, r) = .ok k ↔
      (∃ x, v.member? f.1 = some x ∧ check f.2 x = true) ∧ B.buildField v f = some k := by
  rw [Codec.field, buildField_eq_some]
  cases hx : v.member? f.1 with
  | none => simp
  | some x =>
    have hread := h depth x hdepth (hv.member hx)
    simp only [map_eq_ok, hread, Option.some.injEq, exists_eq_left']
    constructor
    · rintro ⟨k', ⟨hcheck, hk'⟩, rfl⟩
      exact ⟨hcheck, rfl, hk'⟩
    · rintro ⟨hcheck, hname, hk⟩
      exact ⟨k.2, ⟨hcheck, hk⟩, by rw [hname]⟩

theorem Conforms.fields
    {fields : List (String × PortType)} (h : ∀ f ∈ fields, Conforms B n f.2 (R.read f.2)) (hdepth : depth + n ≤ 33) (hv : Fits v) {missing : ε}
    {ks : List (String × κ)} :
    (fields.map fun f => (f.1, R.read f.2)).mapM (Codec.field missing depth v) = .ok ks ↔
      (∀ f ∈ fields, ∃ x, v.member? f.1 = some x ∧ check f.2 x = true) ∧
        fields.mapM (B.buildField v) = some ks := by
  rw [mapM_eq_ok, mapM_eq_some, forall₂_map_left_iff, ← forall₂_and_left]
  exact forall₂_congr_left fun f hf k => (h f hf).field hdepth hv

theorem mapEntries_eq_some {items : List Json} {entries : List (String × Json)} :
    mapEntries items = some entries ↔
      List.Forall₂ (fun x e => x = .arr [.str e.1, e.2]) items entries := by
  induction items generalizing entries with
  | nil =>
    rw [mapEntries, forall₂_nil_left_iff]
    exact ⟨fun h => (Option.some.inj h).symm, fun h => by rw [h]⟩
  | cons x items ih =>
    rw [forall₂_cons_left_iff]
    constructor
    · intro h
      unfold mapEntries at h
      split at h
      · next heq => cases heq
      · next key value items' heq =>
          cases heq
          rcases Option.map_eq_some_iff.mp h with ⟨entries', hentries', rfl⟩
          exact ⟨(key, value), entries', rfl, ih.mp hentries', rfl⟩
      · cases h
    · rintro ⟨e, entries', rfl, hentries', rfl⟩
      rw [mapEntries, ih.mpr hentries']
      rfl

/-- Entries that were found one by one are the entries of the map. -/
theorem Conforms.entries
    (h : Conforms B n t r) (hdepth : depth + n ≤ 33) {items : List Json}
    (hitems : ∀ x ∈ items, Fits x) {out : List (String × κ)} :
    List.Forall₂ (fun x o => ∃ value, x = .arr [.str o.1, value] ∧ r depth value = .ok o.2)
        items out ↔
      ∃ entries, mapEntries items = some entries ∧ (∀ e ∈ entries, check t e.2 = true) ∧
        entries.mapM (B.buildEntry t) = some out := by
  simp only [mapEntries_eq_some, mapM_eq_some]
  induction items generalizing out with
  | nil =>
    simp only [forall₂_nil_left_iff, exists_eq_left]
    simp
  | cons x items ih =>
    rw [forall₂_cons_left_iff]
    simp only [ih fun x hx => hitems x (mem_cons_of_mem _ hx), forall₂_cons_left_iff]
    constructor
    · rintro ⟨o, out', ⟨value, rfl, hvalue⟩, ⟨entries, hentries, hchecks, hout⟩, rfl⟩
      have hfits : Fits value := (hitems _ mem_cons_self).item _ (by simp)
      have hread := (h depth value hdepth hfits o.2).mp hvalue
      refine ⟨(o.1, value) :: entries, ⟨(o.1, value), entries, rfl, hentries, rfl⟩, ?_, ?_⟩
      · exact forall_mem_cons.mpr ⟨hread.1, hchecks⟩
      · exact .cons (buildEntry_eq_some.mpr ⟨rfl, hread.2⟩) hout
    · rintro ⟨_, ⟨e, entries, rfl, hentries, rfl⟩, hchecks, hout⟩
      rcases forall₂_cons_left_iff.mp hout with ⟨o, out', ho, hout', rfl⟩
      rcases forall_mem_cons.mp hchecks with ⟨hcheck, hchecks'⟩
      rcases buildEntry_eq_some.mp ho with ⟨hname, hbuild⟩
      have hfits : Fits e.2 := (hitems _ mem_cons_self).item _ (by simp)
      exact ⟨o, out', ⟨e.2, by rw [hname], (h depth e.2 hdepth hfits o.2).mpr ⟨hcheck, hbuild⟩⟩,
        ⟨entries, hentries, hchecks', hout'⟩, rfl⟩

theorem Conforms.caseOf
    {cases : List (String × PortType)} (h : ∀ c ∈ cases, Conforms B n c.2 (R.read c.2)) (hdepth : depth + n ≤ 33) {value : Json} (hvalue : Fits value) {unknown : ε}
    {tag : String} {k : κ} :
    Codec.caseOf unknown (cases.map fun c => (c.1, R.read c.2)) tag depth value = .ok k ↔
      ∃ c, (cases.find? fun c => c.1 = tag) = some c ∧ check c.2 value = true ∧
        B.build c.2 value = some k := by
  have hfind : ((cases.map fun c => (c.1, R.read c.2)).find? fun c => c.1 = tag) =
      (cases.find? fun c => c.1 = tag).map fun c => (c.1, R.read c.2) := by
    rw [find?_map]
    rfl
  rw [Codec.caseOf, hfind]
  cases hc : cases.find? fun c => c.1 = tag with
  | none => simp
  | some c =>
    have hread := h c (mem_of_find?_eq_some hc) depth value hdepth hvalue k
    simpa using hread

/-! ### The kinds at which the implementations do the same -/

variable {e : ε}

section Kinds

variable {B : Builder κ} {R : Reader (Nat → Json → Except ε κ)} {n : Nat} {deep : ε}

theorem limited_eq {body : Nat → Json → Except ε κ}
    (h : depth + (n + 1) ≤ 33) : limited deep body depth v = body depth v :=
  if_neg (by omega)

theorem conforms_bool : Conforms B (n + 1) .bool (limited deep fun _ v =>
    match v with
    | .bool value => .ok (B.bool value)
    | _ => .error e) := by
  intro depth v hdepth _ k
  rw [limited_eq hdepth]
  cases v with
  | bool value => simp [check, build, Reader.read, reader]
  | _ => simp [check]

theorem conforms_str : Conforms B (n + 1) .str (limited deep fun _ v =>
    match v with
    | .str value => .ok (B.str value)
    | _ => .error e) := by
  intro depth v hdepth _ k
  rw [limited_eq hdepth]
  cases v with
  | str value => simp [check, build, Reader.read, reader]
  | _ => simp [check]

theorem conforms_null : Conforms B (n + 1) .null (limited deep fun _ v =>
    match v with
    | .null => .ok B.null
    | _ => .error e) := by
  intro depth v hdepth _ k
  rw [limited_eq hdepth]
  cases v with
  | null => simp [check, build, Reader.read, reader]
  | _ => simp [check]

theorem build_int {text : String} (h : v.member? "#bigint" = some (.str text)) :
    B.build .int v = some (B.int text) := by
  simp only [build, Reader.read, reader, h]

theorem conforms_int {fields : List String → Json → Except ε Unit} (hfields : Exactly fields)
    {valid : List Char → Bool} (hvalid : ∀ text, valid text = isCanonicalInteger text)
    {e' : ε} : Conforms B (n + 1) .int (limited deep fun _ v => do
      fields ["#bigint"] v
      match v.member? "#bigint" with
      | some (.str text) => if valid text.toList then .ok (B.int text) else .error e
      | _ => .error e') := by
  intro depth v hdepth hv k
  rw [limited_eq hdepth, bind_eq_ok, check_int_iff]
  constructor
  · rintro ⟨u, hu, h⟩
    have hexact := (hfields _ v u (nodup_singleton _) hv).mp hu
    split at h
    · next text htext =>
        by_cases htextvalid : valid text.toList = true
        · rw [if_pos htextvalid] at h
          refine ⟨⟨hexact, text, htext, hvalid _ ▸ htextvalid⟩, ?_⟩
          rw [build_int htext, Except.ok.inj h]
        · rw [if_neg htextvalid] at h
          cases h
    · cases h
  · rintro ⟨⟨hexact, text, htext, htextvalid⟩, hk⟩
    rw [build_int htext] at hk
    refine ⟨(), (hfields _ v () (nodup_singleton _) hv).mpr hexact, ?_⟩
    simp only [htext]
    rw [if_pos (hvalid _ ▸ htextvalid), Option.some.inj hk]

variable {child : Nat → Json → Except ε κ}

theorem conforms_seq
    (h : Conforms B n t child) : Conforms B (n + 1) (.seq t) (limited deep fun depth v =>
      match v with
      | .arr values => B.seq <$> values.mapM (child (depth + 1))
      | _ => .error e) := by
  intro depth v hdepth hv k
  rw [limited_eq hdepth, check_seq_iff]
  cases v with
  | arr items =>
    have hbuild : B.build (.seq t) (.arr items) = (items.mapM (B.build t)).map B.seq := rfl
    simp only [map_eq_ok, h.items (show depth + 1 + n ≤ 33 by omega) hv.item, hbuild,
      Option.map_eq_some_iff, Json.arr.injEq, exists_eq_left']
    constructor
    · rintro ⟨ks, ⟨hchecks, hks⟩, rfl⟩
      exact ⟨hchecks, ks, hks, rfl⟩
    · rintro ⟨hchecks, ks, hks, rfl⟩
      exact ⟨ks, ⟨hchecks, hks⟩, rfl⟩
  | _ => simp

theorem conforms_tuple {fields : List String → Json → Except ε Unit} (hfields : Exactly fields)
    {ts : List PortType} {e' : ε} (h : ∀ t ∈ ts, Conforms B n t (R.read t)) :
    Conforms B (n + 1) (.tuple ts) (limited deep fun depth v => do
      let values ← collection fields e "#tup" v
      if values.length = (R.readAll ts).length then
        B.tuple <$> elements (R.readAll ts) (depth + 1) values
      else .error e') := by
  intro depth v hdepth hv k
  rw [limited_eq hdepth, bind_eq_ok, check_tuple_iff, build_tuple, R.readAll_eq]
  simp only [collection_eq_ok hfields hv, length_map]
  constructor
  · rintro ⟨values, hvalues, hk⟩
    by_cases hlength : values.length = ts.length
    · rw [if_pos hlength] at hk
      rcases map_eq_ok.mp hk with ⟨ks, hks, rfl⟩
      rcases (Conforms.elements h (by omega) (hv.tagged hvalues) hlength).mp hks with
        ⟨hchecks, hbuild⟩
      exact ⟨⟨values, hvalues, hchecks⟩, by rw [hvalues, Option.bind_some, hbuild]; rfl⟩
    · rw [if_neg hlength] at hk
      cases hk
  · rintro ⟨⟨values, hvalues, hchecks⟩, hk⟩
    rw [hvalues, Option.bind_some] at hk
    rcases Option.map_eq_some_iff.mp hk with ⟨ks, hks, rfl⟩
    have hlength : values.length = ts.length := hchecks.length_eq.symm
    refine ⟨values, hvalues, ?_⟩
    rw [if_pos hlength]
    exact map_eq_ok.mpr
      ⟨ks, (Conforms.elements h (by omega) (hv.tagged hvalues) hlength).mpr ⟨hchecks, hks⟩, rfl⟩

theorem conforms_record {check : List String → Json → Except ε Unit} (hcheck : Exactly check)
    {fields : List (String × PortType)} (hnames : (fields.map (·.1)).Nodup) {missing : ε}
    (h : ∀ f ∈ fields, Conforms B n f.2 (R.read f.2)) :
    Conforms B (n + 1) (.record fields) (limited deep fun depth v => do
      check ((R.readNamed fields).map (·.1)) v
      B.record <$> (R.readNamed fields).mapM (field missing (depth + 1) v)) := by
  intro depth v hdepth hv k
  have hkeys : (R.readNamed fields).map (·.1) = fields.map (·.1) := by
    rw [R.readNamed_eq, map_map]
    rfl
  rw [limited_eq hdepth, bind_eq_ok, check_record_iff, build_record, hkeys,
    R.readNamed_eq]
  simp only [hcheck _ v _ hnames hv, map_eq_ok, Option.map_eq_some_iff,
    Conforms.fields h (show depth + 1 + n ≤ 33 by omega) hv]
  constructor
  · rintro ⟨_, hexact, ks, ⟨hchecks, hks⟩, rfl⟩
    exact ⟨⟨hexact, hchecks⟩, ks, hks, rfl⟩
  · rintro ⟨⟨hexact, hchecks⟩, ks, hks, rfl⟩
    exact ⟨(), hexact, ks, ⟨hchecks, hks⟩, rfl⟩

theorem entryOf_eq_ok {failure : ε} {x : Json} {p : String × Json} :
    entryOf failure x = .ok p ↔ x = .arr [.str p.1, p.2] := by
  constructor
  · intro h
    unfold entryOf at h
    split at h
    · cases h
      rfl
    · cases h
  · rintro rfl
    rfl

/-- A map, given how its loop finds the entries. -/
theorem conforms_map_of {fields : List String → Json → Except ε Unit} (hfields : Exactly fields) (h : Conforms B n t child)
    {L : Nat → List Json → Except ε (List (String × κ))}
    (hloop : ∀ depth items out, L depth items = .ok out ↔
      List.Forall₂ (fun x o => ∃ value, x = .arr [.str o.1, value] ∧ child depth value = .ok o.2)
        items out ∧ (out.map (·.1)).Nodup) :
    Conforms B (n + 1) (.map t) (limited deep fun depth v => do
      let entries ← collection fields e "#map" v
      B.map <$> L (depth + 1) entries) := by
  intro depth v hdepth hv k
  have hdepth' : depth + 1 + n ≤ 33 := by omega
  rw [limited_eq hdepth, bind_eq_ok, check_map_iff, build_map]
  simp only [collection_eq_ok hfields hv, map_eq_ok, hloop]
  have hnames {entries : List (String × Json)} {out : List (String × κ)}
      (hout : entries.mapM (B.buildEntry t) = some out) : entries.map (·.1) = out.map (·.1) :=
    forall₂_map_eq (mapM_eq_some.mp hout) fun _ _ hk => (buildEntry_eq_some.mp hk).1
  constructor
  · rintro ⟨items, hitems, out, ⟨hfound, hnodup⟩, rfl⟩
    rcases (h.entries hdepth' (hv.tagged hitems)).mp hfound with
      ⟨entries, hentries, hchecks, hout⟩
    have hbind : (tagged v "#map").bind mapEntries = some entries := by
      rw [hitems, Option.bind_some, hentries]
    refine ⟨⟨entries, hbind, hchecks, hnames hout ▸ hnodup⟩, ?_⟩
    rw [hbind, Option.bind_some, hout]
    rfl
  · rintro ⟨⟨entries, hbind, hchecks, hnodup⟩, hk⟩
    rw [hbind, Option.bind_some] at hk
    rcases Option.map_eq_some_iff.mp hk with ⟨out, hout, rfl⟩
    rcases Option.bind_eq_some_iff.mp hbind with ⟨items, hitems, hentries⟩
    exact ⟨items, hitems, out, ⟨(h.entries hdepth' (hv.tagged hitems)).mpr
      ⟨entries, hentries, hchecks, hout⟩, hnames hout ▸ hnodup⟩, rfl⟩

theorem conforms_map {fields : List String → Json → Except ε Unit} (hfields : Exactly fields) {e' e'' : ε} (h : Conforms B n t child) :
    Conforms B (n + 1) (.map t) (limited deep fun depth v => do
      let entries ← collection fields e "#map" v
      B.map <$> distinctBy (entryOf e') e'' (child (depth + 1)) [] entries) := by
  refine conforms_map_of (L := fun depth => distinctBy (entryOf e') e'' (child depth) [])
    hfields h ?_
  intro depth items out
  rw [distinctBy_eq_ok]
  simp only [entryOf_eq_ok, not_mem_nil, not_false_eq_true, implies_true, and_true]

theorem conforms_variant {fields : List String → Json → Except ε Unit} (hfields : Exactly fields)
    {cases : List (String × PortType)} {e' : ε}
    (h : ∀ c ∈ cases, Conforms B n c.2 (R.read c.2)) :
    Conforms B (n + 1) (.variant cases) (limited deep fun depth v => do
      fields ["tag", "value"] v
      match v.member? "tag", v.member? "value" with
      | some (.str tag), some value =>
        B.variant tag <$> caseOf e (R.readNamed cases) tag (depth + 1) value
      | _, _ => .error e') := by
  intro depth v hdepth hv k
  rw [limited_eq hdepth, bind_eq_ok, check_variant_iff, R.readNamed_eq]
  simp only [hfields _ v _ (show ["tag", "value"].Nodup by decide) hv]
  constructor
  · rintro ⟨_, hexact, hk⟩
    split at hk
    · next tag value htag hvalue =>
        rcases map_eq_ok.mp hk with ⟨k', hk', rfl⟩
        rcases (Conforms.caseOf h (by omega) (hv.member hvalue)).mp hk' with
          ⟨c, hc, hcheck, hbuild⟩
        refine ⟨⟨hexact, tag, value, c, htag, hvalue, hc, hcheck⟩, ?_⟩
        rw [build_variant htag hvalue, hc, Option.bind_some, hbuild]
        rfl
    · cases hk
  · rintro ⟨⟨hexact, tag, value, c, htag, hvalue, hc, hcheck⟩, hk⟩
    rw [build_variant htag hvalue, hc, Option.bind_some] at hk
    rcases Option.map_eq_some_iff.mp hk with ⟨k', hk', rfl⟩
    refine ⟨(), hexact, ?_⟩
    simp only [htag, hvalue]
    exact map_eq_ok.mpr ⟨k', (Conforms.caseOf h (by omega) (hv.member hvalue)).mpr
      ⟨c, hc, hcheck, hk'⟩, rfl⟩

end Kinds

/-! ### Sets -/

/-- A set, given that the loop over its elements finds what is built from them
    and refuses elements that are the same. -/
theorem conforms_set {deep : ε}
    {fields : List String → Json → Except ε Unit} (hfields : Exactly fields)
    {L : Nat → List Json → Except ε κ}
    (hloop : ∀ depth items k, depth + n ≤ 33 → (∀ x ∈ items, Fits x) →
      (L depth items = .ok k ↔ (∀ x ∈ items, check t x = true) ∧
        (items.Pairwise fun x y => ¬ same t x y = true) ∧
          ∃ ks, items.mapM (B.build t) = some ks ∧ B.set ks = k)) :
    Conforms B (n + 1) (.set t) (limited deep fun depth v => do
      let values ← collection fields e "#set" v
      L (depth + 1) values) := by
  intro depth v hdepth hv k
  have hbuild : B.build (.set t) v =
      (tagged v "#set").bind fun items => (items.mapM (B.build t)).map B.set := rfl
  rw [limited_eq hdepth, bind_eq_ok, check_set_iff, hbuild]
  simp only [collection_eq_ok hfields hv]
  constructor
  · rintro ⟨items, hitems, hk⟩
    rcases (hloop (depth + 1) items k (by omega) (hv.tagged hitems)).mp hk with
      ⟨hchecks, hpairwise, ks, hks, rfl⟩
    refine ⟨⟨items, hitems, hchecks, hpairwise⟩, ?_⟩
    rw [hitems, Option.bind_some, hks]
    rfl
  · rintro ⟨⟨items, hitems, hchecks, hpairwise⟩, hk⟩
    rw [hitems, Option.bind_some] at hk
    refine ⟨items, hitems, ?_⟩
    exact (hloop (depth + 1) items k (by omega) (hv.tagged hitems)).mpr
      ⟨hchecks, hpairwise, Option.map_eq_some_iff.mp hk⟩

end MirrorGate.Codec
