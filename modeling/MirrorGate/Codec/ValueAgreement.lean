import MirrorGate.Codec.Conformance

/-!
# One Language of Values

The supervisor, the runtimes for Rust and for Node and the library for C++
accept the same values for a type. `PortType.check` says which: in particular a
set has no two elements that are the same value, and a map has no two entries
with the same key, however deep inside the value.

Sets are where the four differ most. The supervisor counts, Rust compares keys
on the way, Node compares them in the end, and C++ computes the key of an
element before it checks the element. In each case the keys of elements that
are values of the type tell them apart, and an element that is no value of the
type is refused in any case.

## Main definitions

* `Writes`: Computing the keys of the values of a type.
* `Framed`: A value within the bounds of a frame.

## Theorems

* `python_conforms`, `rust_conforms`, `node_conforms`, `cpp_conforms`: All four
  accept the values of a type.
* `node_writes`, `cpp_writes`: The keys of Node and of C++.
* `values_agree`: The four agree.
-/

namespace MirrorGate.Codec

open PortType Fallible List Builder

/-! ### The supervisor -/

namespace PyKey

theorem length_insertAll_le (seen ks : List PyKey) :
    (insertAll seen ks).length ≤ seen.length + ks.length := by
  induction ks generalizing seen with
  | nil => exact Nat.le_refl _
  | cons k ks ih =>
    rw [insertAll]
    split
    · have := ih seen
      rw [length_cons]
      omega
    · have := ih (seen ++ [k])
      rw [length_append, length_singleton] at this
      rw [length_cons]
      omega

/-- Nothing is dropped exactly if no key occurs before. -/
theorem length_insertAll_eq_iff (seen ks : List PyKey) :
    (insertAll seen ks).length = seen.length + ks.length ↔
      (ks.Pairwise fun x y => ¬ x.eq y = true) ∧ ∀ x ∈ seen, ∀ k ∈ ks, ¬ x.eq k = true := by
  induction ks generalizing seen with
  | nil => exact ⟨fun _ => ⟨.nil, nofun⟩, fun _ => rfl⟩
  | cons k ks ih =>
    rw [insertAll, length_cons, pairwise_cons]
    by_cases hseen : (seen.any fun x => x.eq k) = true
    · rw [if_pos hseen]
      constructor
      · intro h
        have := length_insertAll_le seen ks
        omega
      · rintro ⟨-, hnew⟩
        rcases any_eq_true.mp hseen with ⟨x, hx, hxk⟩
        exact absurd hxk (hnew x hx k mem_cons_self)
    · rw [if_neg hseen]
      have hlength : seen.length + (ks.length + 1) = (seen ++ [k]).length + ks.length := by
        rw [length_append, length_singleton]
        omega
      have hk : ∀ x ∈ seen, ¬ x.eq k = true :=
        fun x hx hxk => hseen (any_eq_true.mpr ⟨x, hx, hxk⟩)
      rw [hlength, ih]
      constructor
      · rintro ⟨hpairwise, hnew⟩
        refine ⟨⟨fun y hy => hnew k (by simp) y hy, hpairwise⟩, ?_⟩
        intro x hx y hy
        rcases mem_cons.mp hy with rfl | hy
        · exact hk x hx
        · exact hnew x (mem_append_left _ hx) y hy
      · rintro ⟨⟨hhead, hpairwise⟩, hnew⟩
        refine ⟨hpairwise, ?_⟩
        intro x hx y hy
        rcases mem_append.mp hx with hx | hx
        · exact hnew x hx y (mem_cons_of_mem _ hy)
        · rw [mem_singleton.mp hx]
          exact hhead y hy

theorem length_distinct_eq_iff (keys : List PyKey) :
    (distinct keys).length = keys.length ↔ keys.Pairwise fun x y => ¬ x.eq y = true := by
  have h := length_insertAll_eq_iff [] keys
  simpa [distinct] using h

end PyKey

variable {n : Nat} {t : PortType}

/-- The supervisor counts the elements of a frozen set. -/
theorem conforms_pythonSet
    {child : Nat → Json → Except ProtocolError PyKey} (hvalid : ValidType n t)
    (h : Conforms pythonKeys.toBuilder n t child) :
    Conforms pythonKeys.toBuilder (n + 1) (.set t) (pythonReader.set t child) := by
  refine conforms_set exactly_python (L := fun depth => pythonSet (child depth)) ?_
  intro depth items k hdepth hitems
  have hseparates := pythonKeys_lawful.separates hvalid
  unfold pythonSet
  simp only [bind_eq_ok, h.items hdepth hitems, PyKey.length_distinct_eq_iff]
  constructor
  · rintro ⟨ks, ⟨hchecks, hks⟩, hk⟩
    by_cases hpairwise : ks.Pairwise fun x y => ¬ x.eq y = true
    · rw [if_pos hpairwise] at hk
      exact ⟨hchecks, (hseparates.pairwise hchecks hks).mpr hpairwise, ks, hks, Except.ok.inj hk⟩
    · rw [if_neg hpairwise] at hk
      cases hk
  · rintro ⟨hchecks, hpairwise, ks, hks, rfl⟩
    exact ⟨ks, ⟨hchecks, hks⟩, if_pos ((hseparates.pairwise hchecks hks).mp hpairwise)⟩

/-- The supervisor accepts the values of a type. -/
theorem python_conforms (hvalid : ValidType n t) :
    Conforms pythonKeys.toBuilder n t (pythonValue t) := by
  induction hvalid with
  | int => exact conforms_int exactly_python fun _ => rfl
  | bool => exact conforms_bool
  | str => exact conforms_str
  | null => exact conforms_null
  | seq _ ih => exact conforms_seq ih
  | set hvalid ih => exact conforms_pythonSet hvalid ih
  | tuple _ ih => exact conforms_tuple exactly_python ih
  | record hnames _ ih => exact conforms_record exactly_python hnames ih
  | map _ ih => exact conforms_map exactly_python ih
  | variant _ _ ih => exact conforms_variant exactly_python ih

/-! ### Rust -/

theorem rustCanonicalInteger_eq (text : List Char) :
    rustCanonicalInteger text = isCanonicalInteger text := by
  symm
  unfold isCanonicalInteger
  split
  · rfl
  · next c cs _ => simp [rustCanonicalInteger, unsigned]
  · next c cs hzero hminus =>
      have hunsigned : unsigned (c :: cs) = c :: cs ∨ c = '-' ∧ cs = [] := by
        by_cases hc : c = '-'
        · subst hc
          cases cs with
          | nil => exact .inr ⟨rfl, rfl⟩
          | cons c' cs => exact (hminus c' cs rfl rfl).elim
        · left
          unfold unsigned
          split
          · next heq => exact absurd (cons.inj heq).1 hc
          · rfl
      rcases hunsigned with hunsigned | ⟨rfl, rfl⟩
      · have hne : decide (c :: cs = ['0']) = false := by
          refine decide_eq_false fun h => ?_
          exact hzero (cons.inj h).1 (cons.inj h).2
        rw [rustCanonicalInteger, hunsigned, hne, Bool.false_or]
      · decide
  · decide

/-- Rust looks for a key when it comes to an element. -/
theorem conforms_rustSet {child : Nat → Json → Except String String}
    (hvalid : ValidType n t) (h : Conforms rustKeys.toBuilder n t child) :
    Conforms rustKeys.toBuilder (n + 1) (.set t) (rustReader.set t child) := by
  refine conforms_set exactly_rust (L := fun depth => rustSet (child depth)) ?_
  intro depth items k hdepth hitems
  have hseparates := rustKeys_lawful.separates hvalid
  have hpairwise {ks : List String} (hchecks : ∀ x ∈ items, check t x = true)
      (hks : items.mapM (rustKeys.build t) = some ks) :
      (items.Pairwise fun x y => ¬ same t x y = true) ↔ ks.Nodup := by
    rw [hseparates.pairwise hchecks hks]
    simp [rustKeys, List.Nodup]
  rw [rustSet, bind_eq_ok]
  constructor
  · rintro ⟨out, hout, hk⟩
    rcases distinctBy_keys.mp ⟨out, hout, rfl⟩ with ⟨hmap, hnodup⟩
    rcases (h.items hdepth hitems).mp hmap with ⟨hchecks, hks⟩
    exact ⟨hchecks, (hpairwise hchecks hks).mpr hnodup, _, hks, Except.ok.inj hk⟩
  · rintro ⟨hchecks, hdistinct, ks, hks, rfl⟩
    rcases distinctBy_keys.mpr ⟨(h.items hdepth hitems).mpr ⟨hchecks, hks⟩,
      (hpairwise hchecks hks).mp hdistinct⟩ with ⟨out, hout, rfl⟩
    exact ⟨out, hout, rfl⟩

variable {v : Json}

theorem field_name {ε κ : Type} {missing : ε} {depth : Nat}
    {f : String × (Nat → Json → Except ε κ)} {k : String × κ}
    (h : field missing depth v f = .ok k) : f.1 = k.1 := by
  unfold field at h
  split at h
  · rcases map_eq_ok.mp h with ⟨k', -, rfl⟩
    rfl
  · cases h

theorem exact_iff {entries : List (String × Json)} {names : List String} :
    (Json.obj entries).exact names = true ↔ entries.length = names.length ∧
      ∀ name ∈ names, ((Json.obj entries).member? name).isSome = true := by
  rw [Json.exact, Bool.and_eq_true, decide_eq_true_eq, all_eq_true]
  refine and_congr_right fun _ => ?_
  simp only [Json.member?, Option.isSome_map, find?_isSome, any_eq_true]

/-- Going over the fields in the order of their names is sorting the keys. -/
theorem rustRecord_eq_ok {n depth : Nat} {fields : List (String × PortType)}
    (h : ∀ f ∈ fields, Conforms rustKeys.toBuilder n f.2 (rustReader.read f.2))
    (hdepth : depth + n ≤ 33) (hv : Fits v) {k : String} :
    rustRecord (fields.map fun f => (f.1, rustReader.read f.2)) depth v = .ok k ↔
      (∀ f ∈ fields, ∃ x, v.member? f.1 = some x ∧ check f.2 x = true) ∧
        ∃ ks, fields.mapM (rustKeys.buildField v) = some ks ∧ rustKeys.record ks = k := by
  have horder : ∀ (f : String × (Nat → Json → Except String String)) (k : String × String) f' k',
      field "missing record field" depth v f = .ok k →
        field "missing record field" depth v f' = .ok k' →
          (f.1 ≤ f'.1 ↔ nameOrder.lePair k k') := by
    intro f k f' k' hk hk'
    rw [field_name hk, field_name hk']
    rfl
  rw [rustRecord, bind_eq_ok]
  constructor
  · rintro ⟨keys, hkeys, hk⟩
    rcases (mapM_insertionSort_eq_ok horder).mp hkeys with ⟨ks, hks, rfl⟩
    rcases (Conforms.fields h hdepth hv).mp hks with ⟨hchecks, hbuild⟩
    exact ⟨hchecks, ks, hbuild, Except.ok.inj hk⟩
  · rintro ⟨hchecks, ks, hbuild, rfl⟩
    have hks : (fields.map fun f => (f.1, rustReader.read f.2)).mapM
        (field "missing record field" depth v) = .ok ks :=
      (Conforms.fields h hdepth hv).mpr ⟨hchecks, hbuild⟩
    exact ⟨_, (mapM_insertionSort_eq_ok horder).mpr ⟨ks, hks, rfl⟩, rfl⟩

theorem conforms_rustRecord {fields : List (String × PortType)} {deep e e' : String}
    (h : ∀ f ∈ fields, Conforms rustKeys.toBuilder n f.2 (rustReader.read f.2)) :
    Conforms rustKeys.toBuilder (n + 1) (.record fields) (limited deep fun depth v =>
      match v with
      | .obj entries =>
        if entries.length = (rustReader.readNamed fields).length then
          rustRecord (rustReader.readNamed fields) (depth + 1) v
        else .error e
      | _ => .error e') := by
  intro depth v hdepth hv k
  rw [limited_eq hdepth, check_record_iff, build_record, Option.map_eq_some_iff,
    Reader.readNamed_eq]
  cases v with
  | obj entries =>
    by_cases hlength : entries.length = fields.length
    · have hlength' : entries.length =
          (fields.map fun f => (f.1, rustReader.read f.2)).length := by
        rw [hlength, length_map]
      simp only [if_pos hlength']
      rw [rustRecord_eq_ok h (by omega) hv, exact_iff]
      constructor
      · rintro ⟨hchecks, hks⟩
        refine ⟨⟨⟨by rw [hlength, length_map], ?_⟩, hchecks⟩, hks⟩
        intro name hname
        rcases mem_map.mp hname with ⟨f, hf, rfl⟩
        rcases hchecks f hf with ⟨x, hx, -⟩
        rw [hx]
        rfl
      · rintro ⟨⟨-, hchecks⟩, hks⟩
        exact ⟨hchecks, hks⟩
    · have hlength' : ¬ entries.length =
          (fields.map fun f => (f.1, rustReader.read f.2)).length := by
        rw [length_map]
        exact hlength
      simp only [if_neg hlength']
      rw [exact_iff]
      refine ⟨nofun, ?_⟩
      rintro ⟨⟨⟨hexact, -⟩, -⟩, -⟩
      rw [length_map] at hexact
      exact absurd hexact hlength
  | _ => simp [Json.exact]

theorem rustEntry_eq_ok {x : Json} {p : String × Json} :
    rustEntry x = .ok p ↔ x = .arr [.str p.1, p.2] := by
  constructor
  · intro h
    unfold rustEntry at h
    split at h
    · cases h
      rfl
    · cases h
    · cases h
    · cases h
  · rintro rfl
    rfl

/-- Rust looks at the value of an entry before it looks for the key. -/
theorem conforms_rustMap {child : Nat → Json → Except String String}
    (h : Conforms rustKeys.toBuilder n t child) :
    Conforms rustKeys.toBuilder (n + 1) (.map t) (rustReader.map child) := by
  refine conforms_map_of exactly_rust h
    (L := fun depth => distinctBy (rustEntryKey (child depth)) "duplicate map key" .ok []) ?_
  intro depth items out
  have hentry {x : Json} {o : String × String} :
      (∃ b, rustEntryKey (child depth) x = .ok (o.1, b) ∧
          (.ok b : Except String String) = .ok o.2) ↔
        ∃ value, x = .arr [.str o.1, value] ∧ child depth value = .ok o.2 := by
    constructor
    · rintro ⟨b, hb, hok⟩
      cases hok
      rcases bind_eq_ok.mp hb with ⟨⟨key, value⟩, hx, hvalue⟩
      rcases map_eq_ok.mp hvalue with ⟨k, hk, hpair⟩
      cases hpair
      exact ⟨value, rustEntry_eq_ok.mp hx, hk⟩
    · rintro ⟨value, rfl, hvalue⟩
      exact ⟨o.2, bind_eq_ok.mpr ⟨(o.1, value), rfl, map_eq_ok.mpr ⟨o.2, hvalue, rfl⟩⟩, rfl⟩
  rw [distinctBy_eq_ok]
  simp only [hentry, not_mem_nil, not_false_eq_true, implies_true, and_true]

/-- Rust accepts the values of a type. -/
theorem rust_conforms (hvalid : ValidType n t) :
    Conforms rustKeys.toBuilder n t (rustCanonical t) := by
  induction hvalid with
  | int => exact conforms_int exactly_rust rustCanonicalInteger_eq
  | bool => exact conforms_bool
  | str => exact conforms_str
  | null => exact conforms_null
  | seq _ ih => exact conforms_seq ih
  | set hvalid ih => exact conforms_rustSet hvalid ih
  | tuple _ ih => exact conforms_tuple exactly_rust ih
  | record _ _ ih => exact conforms_rustRecord ih
  | map _ ih => exact conforms_rustMap ih
  | variant _ _ ih => exact conforms_variant exactly_rust ih

/-! ### Keys of decoded values -/

/-- Computing the keys of the values of a type. -/
def Writes (K : Keys String) (t : PortType) (text : Json → Except Failure String) : Prop :=
  ∀ v, check t v = true → ∃ k, text v = .ok k ∧ K.build t v = some k

variable {K : Keys String}

theorem Writes.items {text : Json → Except Failure String}
    (h : Writes K t text) {items : List Json} (hitems : ∀ x ∈ items, check t x = true) :
    ∃ ks, items.mapM text = .ok ks ∧ items.mapM (K.build t) = some ks := by
  rcases exists_forall₂ fun x hx => h x (hitems x hx) with ⟨ks, hks⟩
  exact ⟨ks, mapM_eq_ok.mpr (hks.imp fun _ _ hk => hk.1),
    mapM_eq_some.mpr (hks.imp fun _ _ hk => hk.2)⟩

theorem propertyOf_eq {v x : Json} {key : String} (h : v.member? key = some x) :
    propertyOf v key = .ok x := by
  simp only [propertyOf, h]

theorem member?_of_tagged {tag : String} {items : List Json}
    (h : tagged v tag = some items) : v.member? tag = some (.arr items) := by
  unfold tagged at h
  split at h
  · split at h
    · next items' hitems =>
        cases h
        exact hitems
    · cases h
  · cases h

/-- An object with one key. -/
theorem eq_of_exact {v x : Json} {tag : String} (hexact : v.exact [tag] = true)
    (hx : v.member? tag = some x) : v = .obj [(tag, x)] := by
  rcases Json.mem_of_member? hx with ⟨entries, rfl, hmem⟩
  rcases exact_iff.mp hexact with ⟨hlength, -⟩
  rcases length_eq_one_iff.mp hlength with ⟨entry, rfl⟩
  rw [mem_singleton.mp hmem]

theorem writes_tuple {R : Reader (Json → Except Failure String)}
    {ts : List PortType} (h : ∀ t ∈ ts, Writes K t (R.read t)) {items : List Json}
    (hitems : List.Forall₂ (fun t x => check t x = true) ts items) :
    ∃ ks, ((ts.map R.read).zip items).mapM (fun p => p.1 p.2) = .ok ks ∧
      Builder.buildAll (ts.map K.build) items = some ks := by
  induction hitems with
  | nil => exact ⟨[], rfl, rfl⟩
  | @cons t x ts items hx _ ih =>
    rcases h t mem_cons_self x hx with ⟨k, htext, hk⟩
    rcases ih fun t ht => h t (mem_cons_of_mem _ ht) with ⟨ks, htexts, hks⟩
    refine ⟨k :: ks, ?_, ?_⟩
    · rw [map_cons, zip_cons_cons, mapM_cons]
      exact bind_eq_ok.mpr ⟨k, htext, bind_eq_ok.mpr ⟨ks, htexts, rfl⟩⟩
    · rw [map_cons, buildAll, hk, Option.bind_some, hks]
      rfl

theorem tupleText_eq {children : List (Json → Except Failure String)}
    {items : List Json} {ks : List String} (hitems : v.member? "#tup" = some (.arr items))
    (hlength : items.length = children.length)
    (hks : (children.zip items).mapM (fun p => p.1 p.2) = .ok ks) :
    tupleText children v = .ok (keyText (strings ks)) := by
  rw [tupleText]
  by_cases hempty : children.isEmpty = true
  · rw [if_pos hempty]
    rw [isEmpty_iff.mp hempty] at hks
    cases hks
    rfl
  · rw [if_neg hempty, hitems]
    simp only [hlength, lt_irrefl, if_false]
    exact bind_eq_ok.mpr ⟨ks, hks, rfl⟩

theorem variantText_eq {unknown : Failure} {v value : Json} {tag k : String}
    {cases : List (String × (Json → Except Failure String))}
    {c : String × (Json → Except Failure String)} (htag : v.member? "tag" = some (.str tag))
    (hc : (cases.find? fun c => c.1 = tag) = some c) (hvalue : v.member? "value" = some value)
    (hk : c.2 value = .ok k) :
    variantText unknown cases v = .ok (keyText (strings [tag, k])) := by
  rw [variantText, htag]
  simp only [hc]
  exact bind_eq_ok.mpr ⟨k, bind_eq_ok.mpr ⟨value, propertyOf_eq hvalue, hk⟩, rfl⟩

/-- The fields of a record, before or after sorting. -/
theorem writes_fields {R : Reader (Json → Except Failure String)}
    {fields : List (String × PortType)} (h : ∀ f ∈ fields, Writes K f.2 (R.read f.2))
    (hv : ∀ f ∈ fields, ∃ x, v.member? f.1 = some x ∧ check f.2 x = true) :
    ∃ ks, (R.readNamed fields).mapM (fieldText v) = .ok ks ∧
      fields.mapM (K.buildField v) = some ks := by
  have hfield : ∀ f ∈ fields, ∃ k, fieldText v (f.1, R.read f.2) = .ok k ∧
      K.buildField v f = some k := by
    intro f hf
    rcases hv f hf with ⟨x, hx, hcheck⟩
    rcases h f hf x hcheck with ⟨k, htext, hk⟩
    refine ⟨(f.1, k), ?_, buildField_eq_some.mpr ⟨rfl, x, hx, hk⟩⟩
    exact bind_eq_ok.mpr ⟨x, propertyOf_eq hx, map_eq_ok.mpr ⟨k, htext, rfl⟩⟩
  rcases exists_forall₂ hfield with ⟨ks, hks⟩
  refine ⟨ks, ?_, mapM_eq_some.mpr (hks.imp fun _ _ hk => hk.2)⟩
  rw [R.readNamed_eq, mapM_eq_ok, forall₂_map_left_iff]
  exact hks.imp fun _ _ hk => hk.1

theorem writes_entries {text : Json → Except Failure String}
    (h : Writes K t text) {items : List Json} {entries : List (String × Json)}
    (hentries : List.Forall₂ (fun x e => x = .arr [.str e.1, e.2]) items entries)
    (hchecks : ∀ e ∈ entries, check t e.2 = true) :
    ∃ ks, items.mapM (entryText text) = .ok ks ∧ entries.mapM (K.buildEntry t) = some ks := by
  induction hentries with
  | nil => exact ⟨[], rfl, rfl⟩
  | @cons x e items entries hx _ ih =>
    rcases forall_mem_cons.mp hchecks with ⟨hcheck, hchecks⟩
    rcases ih hchecks with ⟨ks, htexts, hks⟩
    rcases h e.2 hcheck with ⟨k, htext, hk⟩
    refine ⟨(e.1, k) :: ks, ?_, ?_⟩
    · rw [mapM_cons, hx]
      exact bind_eq_ok.mpr ⟨(e.1, k), map_eq_ok.mpr ⟨k, htext, rfl⟩,
        bind_eq_ok.mpr ⟨ks, htexts, rfl⟩⟩
    · exact mapM_eq_some.mpr (.cons (buildEntry_eq_some.mpr ⟨rfl, hk⟩)
        (mapM_eq_some.mp hks))

/-- The texts of Node and C++ are keys, whatever they do with records. -/
theorem text_writes {O : TextOrder} {listOf : Json → Except Failure (List Json)}
    {unknown : Failure}
    {record : List (String × (Json → Except Failure String)) → Json → Except Failure String}
    (hlist : ∀ items, listOf (.arr items) = .ok items)
    (hrecord : ∀ {fields : List (String × PortType)},
      (∀ f ∈ fields, Writes (plainKeys O) f.2 ((textReader O listOf unknown record).read f.2)) →
        (fields.map (·.1)).Nodup → Writes (plainKeys O) (.record fields)
          (record ((textReader O listOf unknown record).readNamed fields))) (hvalid : ValidType n t) :
    Writes (plainKeys O) t ((textReader O listOf unknown record).read t) := by
  induction hvalid with
  | int =>
    intro v hv
    rcases check_int_iff.mp hv with ⟨hexact, text, htext, -⟩
    refine ⟨(plainKeys O).int text, ?_, build_int htext⟩
    rw [eq_of_exact hexact htext]
    rfl
  | bool =>
    intro v hv
    rcases check_bool_iff.mp hv with ⟨b, rfl⟩
    exact ⟨_, rfl, rfl⟩
  | str =>
    intro v hv
    rcases check_str_iff.mp hv with ⟨s, rfl⟩
    exact ⟨_, rfl, rfl⟩
  | null =>
    intro v hv
    rw [check_null_iff.mp hv]
    exact ⟨_, rfl, rfl⟩
  | @seq n t _ ih =>
    intro v hv
    rcases check_seq_iff.mp hv with ⟨items, rfl, hitems⟩
    rcases Writes.items ih hitems with ⟨ks, htexts, hks⟩
    refine ⟨(plainKeys O).seq ks, ?_, ?_⟩
    · exact bind_eq_ok.mpr ⟨items, hlist items, bind_eq_ok.mpr ⟨ks, htexts, rfl⟩⟩
    · change (items.mapM ((plainKeys O).build t)).map _ = _
      rw [hks]
      rfl
  | @set n t _ ih =>
    intro v hv
    rcases check_set_iff.mp hv with ⟨items, htagged, hitems, -⟩
    rcases Writes.items ih hitems with ⟨ks, htexts, hks⟩
    refine ⟨(plainKeys O).set ks, ?_, ?_⟩
    · refine bind_eq_ok.mpr ⟨items, ?_, bind_eq_ok.mpr ⟨ks, htexts, rfl⟩⟩
      exact bind_eq_ok.mpr ⟨.arr items, propertyOf_eq (member?_of_tagged htagged), hlist items⟩
    · change ((tagged v "#set").bind fun items =>
        (items.mapM ((plainKeys O).build t)).map _) = _
      rw [htagged, Option.bind_some, hks]
      rfl
  | @tuple n ts _ ih =>
    intro v hv
    rcases check_tuple_iff.mp hv with ⟨items, htagged, hitems⟩
    rcases writes_tuple ih hitems with ⟨ks, htexts, hks⟩
    refine ⟨(plainKeys O).tuple ks, ?_, ?_⟩
    · rw [Reader.read, Reader.readAll_eq]
      refine tupleText_eq (member?_of_tagged htagged) ?_ htexts
      rw [length_map, hitems.length_eq]
    · rw [build_tuple, htagged, Option.bind_some, hks]
      rfl
  | record hnames _ ih => exact hrecord ih hnames
  | @map n t _ ih =>
    intro v hv
    rcases check_map_iff.mp hv with ⟨entries, hentries, hchecks, -⟩
    rcases Option.bind_eq_some_iff.mp hentries with ⟨items, htagged, hitems⟩
    rcases writes_entries ih (mapEntries_eq_some.mp hitems) hchecks with ⟨ks, htexts, hks⟩
    refine ⟨(plainKeys O).map ks, ?_, ?_⟩
    · refine bind_eq_ok.mpr ⟨items, ?_, bind_eq_ok.mpr ⟨ks, htexts, rfl⟩⟩
      exact bind_eq_ok.mpr ⟨.arr items, propertyOf_eq (member?_of_tagged htagged), hlist items⟩
    · rw [build_map, hentries, Option.bind_some, hks]
      rfl
  | @variant n cases _ _ ih =>
    intro v hv
    rcases check_variant_iff.mp hv with ⟨-, tag, value, c, htag, hvalue, hc, hcheck⟩
    rcases ih c (mem_of_find?_eq_some hc) value hcheck with ⟨k, htext, hk⟩
    refine ⟨(plainKeys O).variant tag k, ?_, ?_⟩
    · have hfind : (((textReader O listOf unknown record).readNamed cases).find?
          fun c => c.1 = tag) = some (c.1, (textReader O listOf unknown record).read c.2) := by
        rw [Reader.readNamed_eq, find?_map]
        exact congrArg (Option.map _) hc
      exact variantText_eq htag hfind hvalue htext
    · rw [build_variant htag hvalue, hc, Option.bind_some, hk]
      rfl

/-! ### Node -/

theorem fieldText_name {f : String × (Json → Except Failure String)}
    {k : String × String} (h : fieldText v f = .ok k) : f.1 = k.1 := by
  rcases bind_eq_ok.mp h with ⟨x, -, h⟩
  rcases map_eq_ok.mp h with ⟨k', -, rfl⟩
  rfl

/-- The keys of Node. -/
theorem node_writes (hvalid : ValidType n t) :
    Writes nodeKeys t (nodeCanonical t) := by
  refine text_writes (fun _ => rfl) ?_ hvalid
  intro fields h _ v hv
  rcases check_record_iff.mp hv with ⟨-, hchecks⟩
  rcases writes_fields h hchecks with ⟨ks, htexts, hks⟩
  have horder : ∀ (f : String × (Json → Except Failure String)) (k : String × String) f' k',
      fieldText v f = .ok k → fieldText v f' = .ok k' →
        (Utf16.units f.1 ≤ Utf16.units f'.1 ↔ unitOrder.lePair k k') := by
    intro f k f' k' hk hk'
    rw [fieldText_name hk, fieldText_name hk']
    rfl
  refine ⟨nodeKeys.record ks, ?_, ?_⟩
  · exact bind_eq_ok.mpr ⟨_, (mapM_insertionSort_eq_ok horder).mpr ⟨ks, htexts, rfl⟩, rfl⟩
  · rw [build_record, hks]
    rfl

/-- Keys of elements that are values of the type are different exactly if the
    elements are. -/
theorem Writes.nodup_iff (hK : K.Lawful) (heq : ∀ a b, K.eq a b = decide (a = b)) (hvalid : ValidType n t) {text : Json → Except Failure String}
    (h : Writes K t text) {items : List Json} (hitems : ∀ x ∈ items, check t x = true)
    {ks : List String} (hks : items.mapM text = .ok ks) :
    (items.Pairwise fun x y => ¬ same t x y = true) ↔ ks.Nodup := by
  rcases h.items hitems with ⟨ks', htexts, hbuild⟩
  cases hks.symm.trans htexts
  rw [(hK.separates hvalid).pairwise hitems hbuild]
  simp only [heq, decide_eq_true_eq]
  rfl

/-- Node compares the keys after it has decoded all elements. -/
theorem conforms_nodeSet
    {child : Nat → Json → Except Failure (Native Int)} (hvalid : ValidType n t)
    (h : Conforms nodeNatives n t child) :
    Conforms nodeNatives (n + 1) (.set t) (nodeReader.set t child) := by
  refine conforms_set exactly_node (L := fun depth => nodeSet t (child depth)) ?_
  intro depth items k hdepth hitems
  have hwrites := node_writes hvalid
  have hduplicates {ks : List String} (hchecks : ∀ x ∈ items, check t x = true)
      (hks : items.mapM (nodeCanonical t) = .ok ks) :=
    hwrites.nodup_iff (plainKeys_lawful unitOrder) (fun _ _ => rfl) hvalid hchecks hks
  rw [nodeSet, bind_eq_ok]
  constructor
  · rintro ⟨decoded, hdecoded, hk⟩
    rcases bind_eq_ok.mp hk with ⟨_, hdup, hk⟩
    rcases bind_eq_ok.mp hdup with ⟨out, hout, -⟩
    rcases distinctBy_keys.mp ⟨out, hout, rfl⟩ with ⟨htexts, hnodup⟩
    rcases (h.items hdepth hitems).mp hdecoded with ⟨hchecks, hbuild⟩
    exact ⟨hchecks, (hduplicates hchecks htexts).mpr hnodup, decoded, hbuild, Except.ok.inj hk⟩
  · rintro ⟨hchecks, hpairwise, decoded, hbuild, rfl⟩
    rcases hwrites.items hchecks with ⟨ks, htexts, -⟩
    rcases distinctBy_keys.mpr ⟨htexts, (hduplicates hchecks htexts).mp hpairwise⟩ with
      ⟨out, hout, -⟩
    exact ⟨decoded, (h.items hdepth hitems).mpr ⟨hchecks, hbuild⟩,
      bind_eq_ok.mpr ⟨(), bind_eq_ok.mpr ⟨out, hout, rfl⟩, rfl⟩⟩

/-- Node accepts the values of a type. -/
theorem node_conforms (hvalid : ValidType n t) :
    Conforms nodeNatives n t (nodeDecode t) := by
  induction hvalid with
  | int => exact conforms_int exactly_node fun _ => rfl
  | bool => exact conforms_bool
  | str => exact conforms_str
  | null => exact conforms_null
  | seq _ ih => exact conforms_seq ih
  | set hvalid ih => exact conforms_nodeSet hvalid ih
  | tuple _ ih => exact conforms_tuple exactly_node ih
  | record hnames _ ih => exact conforms_record exactly_node hnames ih
  | map _ ih => exact conforms_map exactly_node ih
  | variant _ _ ih => exact conforms_variant exactly_node ih

/-! ### C++ -/

/-- The keys of C++. -/
theorem cpp_writes (hvalid : ValidType n t) :
    Writes cppKeys t (cppCanonical t) := by
  refine text_writes (fun _ => rfl) ?_ hvalid
  intro fields h _ v hv
  rcases check_record_iff.mp hv with ⟨-, hchecks⟩
  rcases writes_fields h hchecks with ⟨ks, htexts, hks⟩
  refine ⟨cppKeys.record ks, bind_eq_ok.mpr ⟨ks, htexts, rfl⟩, ?_⟩
  rw [build_record, hks]
  rfl

theorem utf8Size_le_charBytes (c : Char) : c.utf8Size ≤ Json.charBytes c := by
  unfold Json.charBytes
  have hascii : c.toNat < 128 → c.utf8Size = 1 := by
    intro h
    refine Char.utf8Size_eq_one_iff.mpr (UInt32.le_iff_toNat_le.mpr ?_)
    have hval : c.val.toNat = c.toNat := rfl
    have hbound : (127 : UInt32).toNat = 127 := rfl
    omega
  split_ifs with hescaped hcontrol
  · -- An escaped character is one byte.
    have hsmall : c.toNat < 128 := by
      rcases hescaped with rfl | rfl | rfl | rfl | rfl | h | h
      all_goals first
        | decide
        | omega
    rw [hascii hsmall]
    omega
  · rw [hascii (by omega)]
    omega
  · exact Nat.le_refl _

theorem textBytes_le (s : String) : textBytes s ≤ (Json.str s).bytes := by
  have hsum : ∀ cs : List Char,
      (cs.map Char.utf8Size).sum ≤ (cs.map Json.charBytes).sum := by
    intro cs
    induction cs with
    | nil => exact Nat.le_refl _
    | cons c cs ih =>
      have hc : c.utf8Size ≤ Json.charBytes c := utf8Size_le_charBytes c
      rw [map_cons, map_cons, sum_cons, sum_cons]
      omega
  have := hsum s.toList
  rw [textBytes, Json.bytes, Json.stringBytes]
  omega

/-- The limit of an integer is the limit of a frame. -/
theorem conforms_cppInt : Conforms cppNatives (n + 1) .int (limited deepFailure
    fun _ v => do
      cppExact ["#bigint"] v
      let value ← cppString v
      if isCanonicalInteger value.toList then .ok (cppNatives.int value)
      else .error (valueFailure "Invalid integer encoding")) := by
  intro depth v hdepth hv k
  have hstring {text : String} :
      cppString v = .ok text ↔ v.member? "#bigint" = some (.str text) := by
    unfold cppString
    split
    · next text' htext =>
        -- The text is part of a value that fits a frame.
        have hfits := (textBytes_le text').trans (hv.member htext).bytes
        rw [if_neg (by omega), htext]
        simp
    · next h =>
        refine ⟨?_, fun htext => absurd htext (h text)⟩
        intro hfailure
        cases hfailure
  rw [limited_eq hdepth, bind_eq_ok, check_int_iff]
  simp only [exactly_cpp _ v _ (nodup_singleton "#bigint") hv, bind_eq_ok, hstring]
  constructor
  · rintro ⟨_, hexact, text, htext, hk⟩
    by_cases hvalid : isCanonicalInteger text.toList = true
    · rw [if_pos hvalid] at hk
      refine ⟨⟨hexact, text, htext, hvalid⟩, ?_⟩
      rw [build_int htext, Except.ok.inj hk]
    · rw [if_neg hvalid] at hk
      cases hk
  · rintro ⟨⟨hexact, text, htext, hvalid⟩, hk⟩
    rw [build_int htext] at hk
    exact ⟨(), hexact, text, htext, by rw [if_pos hvalid, Option.some.inj hk]⟩

/-- C++ computes the key of an element before it decodes the element. -/
theorem conforms_cppSet
    {child : Nat → Json → Except Failure (Native String)} (hvalid : ValidType n t)
    (h : Conforms cppNatives n t child) :
    Conforms cppNatives (n + 1) (.set t) (cppReader.set t child) := by
  refine conforms_set exactly_cpp (L := fun depth => cppSet t (child depth)) ?_
  intro depth items k hdepth hitems
  have hwrites := cpp_writes hvalid
  have hduplicates {ks : List String} (hchecks : ∀ x ∈ items, check t x = true)
      (hks : items.mapM (cppCanonical t) = .ok ks) :=
    hwrites.nodup_iff (plainKeys_lawful pairOrder) (fun _ _ => rfl) hvalid hchecks hks
  have hpart {x : Json} {o : String × Native String} :
      (∃ b, (·, x) <$> cppCanonical t x = .ok (o.1, b) ∧ child depth b = .ok o.2) ↔
        cppCanonical t x = .ok o.1 ∧ child depth x = .ok o.2 := by
    constructor
    · rintro ⟨b, hb, hchild⟩
      rcases map_eq_ok.mp hb with ⟨key, hkey, hpair⟩
      cases hpair
      exact ⟨hkey, hchild⟩
    · rintro ⟨hkey, hchild⟩
      exact ⟨x, map_eq_ok.mpr ⟨o.1, hkey, rfl⟩, hchild⟩
  rw [cppSet, bind_eq_ok]
  constructor
  · rintro ⟨out, hout, hk⟩
    rcases distinctBy_eq_ok.mp hout with ⟨hall, hnodup, -⟩
    have hall := hall.imp fun _ _ ho => hpart.mp ho
    have htexts : items.mapM (cppCanonical t) = .ok (out.map (·.1)) :=
      mapM_eq_ok.mpr (forall₂_map_right_iff.mpr (hall.imp fun _ _ ho => ho.1))
    have hdecoded : items.mapM (child depth) = .ok (out.map (·.2)) :=
      mapM_eq_ok.mpr (forall₂_map_right_iff.mpr (hall.imp fun _ _ ho => ho.2))
    rcases (h.items hdepth hitems).mp hdecoded with ⟨hchecks, hbuild⟩
    exact ⟨hchecks, (hduplicates hchecks htexts).mpr hnodup, _, hbuild, Except.ok.inj hk⟩
  · rintro ⟨hchecks, hpairwise, decoded, hbuild, rfl⟩
    rcases hwrites.items hchecks with ⟨ks, htexts, -⟩
    have hdecoded := (h.items hdepth hitems).mpr ⟨hchecks, hbuild⟩
    -- Every element has a key and a decoded value.
    have hboth : ∀ x ∈ items, ∃ o : String × Native String,
        cppCanonical t x = .ok o.1 ∧ child depth x = .ok o.2 := by
      intro x hx
      rcases exists_of_mem_left (mapM_eq_ok.mp htexts) hx with ⟨key, -, hkey⟩
      rcases exists_of_mem_left (mapM_eq_ok.mp hdecoded) hx with ⟨value, -, hvalue⟩
      exact ⟨(key, value), hkey, hvalue⟩
    rcases exists_forall₂ hboth with ⟨out, hout⟩
    have hkeys : items.mapM (cppCanonical t) = .ok (out.map (·.1)) :=
      mapM_eq_ok.mpr (forall₂_map_right_iff.mpr (hout.imp fun _ _ ho => ho.1))
    have hvalues : items.mapM (child depth) = .ok (out.map (·.2)) :=
      mapM_eq_ok.mpr (forall₂_map_right_iff.mpr (hout.imp fun _ _ ho => ho.2))
    have hdecodedout : out.map (·.2) = decoded := Except.ok.inj (hvalues.symm.trans hdecoded)
    refine ⟨out, distinctBy_eq_ok.mpr ⟨hout.imp fun _ _ ho => hpart.mpr ho,
      (hduplicates hchecks hkeys).mp hpairwise, fun _ _ => not_mem_nil⟩, ?_⟩
    rw [hdecodedout]

/-- C++ accepts the values of a type. -/
theorem cpp_conforms (hvalid : ValidType n t) :
    Conforms cppNatives n t (cppDecode t) := by
  induction hvalid with
  | int => exact conforms_cppInt
  | bool => exact conforms_bool
  | str => exact conforms_str
  | null => exact conforms_null
  | seq _ ih => exact conforms_seq ih
  | set hvalid ih => exact conforms_cppSet hvalid ih
  | tuple _ ih => exact conforms_tuple exactly_cpp ih
  | record hnames _ ih => exact conforms_record exactly_cpp hnames ih
  | map _ ih => exact conforms_map exactly_cpp ih
  | variant _ _ ih => exact conforms_variant exactly_cpp ih

/-! ### Agreement -/

/-- A value within the bounds of a frame. -/
structure Framed (value : Json) : Prop extends Fits value where
  depth : value.height ≤ 96
  count : value.values ≤ 8192
  safe : value.All SafeNumber fun _ => True

/-- The bounds that Rust checks once more are those of a frame. -/
theorem Framed.bounds {value : Json} (h : Framed value) : checkBounds value = .ok () := by
  refine boundsWith_ok _ _ _ ?_ ?_ ?_
  · intro e he
    rw [mem_singleton.mp he]
    exact h.depth
  · intro e he
    rw [mem_singleton.mp he]
    exact h.safe
  · simpa using h.count

/-- What conforms accepts the values of a type. -/
theorem Conforms.isOk {ε κ : Type} {B : Builder κ} {r : Nat → Json → Except ε κ}
    (h : Conforms B 33 t r) (hvalid : ValidType 33 t) {value : Json} (hvalue : Fits value) :
    (r 0 value).isOk = t.check value := by
  have hread := h 0 value (Nat.le_refl _) hvalue
  cases hr : r 0 value with
  | ok k => exact ((hread k).mp hr).1.symm
  | error e =>
    cases hcheck : t.check value with
    | false => rfl
    | true =>
      -- Something is built from a value of the type, so that it is accepted.
      rcases build_isSome hvalid value hcheck with ⟨k, hk⟩
      rw [(hread k).mpr ⟨hcheck, hk⟩] at hr
      cases hr

/-- Sets of sets of strings. -/
def nestedShape : Json :=
  .obj [("kind", .str "set"),
    ("element", .obj [("kind", .str "set"), ("element", .obj [("kind", .str "str")])])]

/-- Two sets with the same elements in another order. -/
def nestedTwice : Json :=
  .obj [("#set", .arr [.obj [("#set", .arr [.str "a", .str "b"])],
    .obj [("#set", .arr [.str "b", .str "a"])]])]

end MirrorGate.Codec
