import MirrorGate.Codec.Types

/-!
# Keys for Portable Values

A set must not have an element twice, and elements can be the same without
being written the same: the order of a set inside a set does not matter. Every
implementation computes a key for an element and compares keys.

`Keys` is what a way of building keys consists of, and `Keys.Lawful` is what it
has to satisfy for the keys to tell values apart: a key built from the keys of
elements is the same exactly if those keys are, up to the order where the order
does not matter. Then keys are the same exactly if the values are.

## Main definitions

* `Builder`, `Builder.build`: Something that is built from a value.
* `Keys`, `Keys.Lawful`: A way of building keys, and what it has to satisfy.
* `Keys.Separates`: Keys that tell the values of a type apart.

## Theorems

* `check_set_iff` and others: What it takes to be of a type.
* `Builder.build_isSome`: Something is built from every value of a type.
* `Keys.Lawful.separates`: Keys are the same exactly if the values are.
-/

namespace MirrorGate.Codec

open PortType Fallible Option

/-! ### Values of a type -/

theorem noDuplicates_iff {α : Type} {same : α → α → Bool} {xs : List α} :
    noDuplicates same xs = true ↔ xs.Pairwise fun x y => ¬ same x y = true := by
  induction xs with
  | nil => exact ⟨fun _ => .nil, fun _ => rfl⟩
  | cons x xs ih =>
    rw [noDuplicates, Bool.and_eq_true, ih, List.pairwise_cons]
    simp

variable {v : Json} {t : PortType} {xs : List Json} {cases : List (String × PortType)}

section Checks

attribute [local simp] check checkTuple checkFields checkCase

theorem check_int_iff :
    check .int v = true ↔ v.exact ["#bigint"] = true ∧
      ∃ text, v.member? "#bigint" = some (.str text) ∧ isCanonicalInteger text.toList = true := by
  rw [check, Bool.and_eq_true]
  refine and_congr_right fun _ => ?_
  split
  · next text h => exact ⟨fun hint => ⟨text, h, hint⟩, fun ⟨_, h', hint⟩ => by
      rw [h] at h'
      cases h'
      exact hint⟩
  · next h => exact ⟨nofun, fun ⟨text, h', _⟩ => absurd h' (h text)⟩

theorem check_bool_iff : check .bool v = true ↔ ∃ b, v = .bool b := by
  cases v <;> simp

theorem check_str_iff : check .str v = true ↔ ∃ s, v = .str s := by
  cases v <;> simp

theorem check_null_iff : check .null v = true ↔ v = .null := by
  cases v <;> simp

theorem check_seq_iff :
    check (.seq t) v = true ↔ ∃ items, v = .arr items ∧ ∀ x ∈ items, check t x = true := by
  cases v <;> simp

theorem check_set_iff :
    check (.set t) v = true ↔ ∃ items, tagged v "#set" = some items ∧
      (∀ x ∈ items, check t x = true) ∧ items.Pairwise fun x y => ¬ same t x y = true := by
  rw [check]
  cases tagged v "#set" with
  | none => simp
  | some items =>
    simp only [Bool.and_eq_true, noDuplicates_iff, List.all_eq_true, some.injEq,
      exists_eq_left']

theorem checkTuple_iff {ts : List PortType} :
    checkTuple ts xs = true ↔ List.Forall₂ (fun t x => check t x = true) ts xs := by
  induction ts generalizing xs with
  | nil => cases xs <;> simp
  | cons t ts ih => cases xs <;> simp [ih]

theorem check_tuple_iff {ts : List PortType} :
    check (.tuple ts) v = true ↔ ∃ items, tagged v "#tup" = some items ∧
      List.Forall₂ (fun t x => check t x = true) ts items := by
  rw [check]
  cases tagged v "#tup" with
  | none => simp
  | some items => simp [checkTuple_iff]

theorem checkFields_iff {fields : List (String × PortType)} :
    checkFields fields v = true ↔
      ∀ f ∈ fields, ∃ x, v.member? f.1 = some x ∧ check f.2 x = true := by
  induction fields with
  | nil => simp
  | cons f fields ih =>
    rw [checkFields, Bool.and_eq_true, ih, List.forall_mem_cons]
    refine and_congr_left fun _ => ?_
    cases v.member? f.1 <;> simp

theorem check_record_iff {fields : List (String × PortType)} :
    check (.record fields) v = true ↔ v.exact (fields.map (·.1)) = true ∧
      ∀ f ∈ fields, ∃ x, v.member? f.1 = some x ∧ check f.2 x = true := by
  rw [check, Bool.and_eq_true, checkFields_iff]

theorem check_map_iff :
    check (.map t) v = true ↔ ∃ entries, (tagged v "#map").bind mapEntries = some entries ∧
      (∀ e ∈ entries, check t e.2 = true) ∧ (entries.map (·.1)).Nodup := by
  rw [check]
  cases (tagged v "#map").bind mapEntries with
  | none => simp
  | some entries =>
    simp only [Bool.and_eq_true, List.all_eq_true, noDuplicates_iff, decide_eq_true_eq,
      some.injEq, exists_eq_left', List.Nodup, List.pairwise_map]

theorem checkCase_iff {tag : String} {value : Json} :
    checkCase cases tag value = true ↔
      ∃ c, (cases.find? fun c => c.1 = tag) = some c ∧ check c.2 value = true := by
  induction cases with
  | nil => simp
  | cons c cases ih =>
    rw [checkCase, List.find?_cons]
    by_cases htag : c.1 = tag
    · simp [htag]
    · simp [htag, ih]

theorem check_variant_iff :
    check (.variant cases) v = true ↔ v.exact ["tag", "value"] = true ∧
      ∃ tag value c, v.member? "tag" = some (.str tag) ∧ v.member? "value" = some value ∧
        (cases.find? fun c => c.1 = tag) = some c ∧ check c.2 value = true := by
  rw [check, Bool.and_eq_true]
  refine and_congr_right fun _ => ?_
  split
  · next tag value htag hvalue =>
      rw [checkCase_iff]
      constructor
      · rintro ⟨c, hc, hcheck⟩
        exact ⟨tag, value, c, htag, hvalue, hc, hcheck⟩
      · rintro ⟨tag', value', c, htag', hvalue', hc, hcheck⟩
        rw [htag] at htag'
        rw [hvalue] at hvalue'
        cases htag'
        cases hvalue'
        exact ⟨c, hc, hcheck⟩
  · next h => exact ⟨nofun, fun ⟨tag, value, _, htag, hvalue, _⟩ => absurd hvalue (h tag value htag)⟩

end Checks

/-! ### Building from values -/

/-- What to build at every kind of type from what was built inside. -/
structure Builder (κ : Type) where
  int : String → κ
  bool : Bool → κ
  str : String → κ
  null : κ
  seq : List κ → κ
  set : List κ → κ
  tuple : List κ → κ
  record : List (String × κ) → κ
  map : List (String × κ) → κ
  variant : String → κ → κ

namespace Builder

variable {κ : Type} (B : Builder κ)

/-- What is built from the elements of a tuple. -/
def buildAll : List (Json → Option κ) → List Json → Option (List κ)
  | [], [] => some []
  | build :: builds, x :: xs => (build x).bind fun k => (buildAll builds xs).map (k :: ·)
  | _, _ => none

def reader : Reader (Json → Option κ) where
  int v :=
    match v.member? "#bigint" with
    | some (.str text) => some (B.int text)
    | _ => none
  bool v :=
    match v with
    | .bool b => some (B.bool b)
    | _ => none
  str v :=
    match v with
    | .str s => some (B.str s)
    | _ => none
  null _ := some B.null
  seq build v :=
    match v with
    | .arr items => (items.mapM build).map B.seq
    | _ => none
  set _ build v := (tagged v "#set").bind fun items => (items.mapM build).map B.set
  tuple builds v := (tagged v "#tup").bind fun items => (buildAll builds items).map B.tuple
  record fields v :=
    (fields.mapM fun f => ((v.member? f.1).bind f.2).map (f.1, ·)).map B.record
  map build v :=
    ((tagged v "#map").bind mapEntries).bind fun entries =>
      (entries.mapM fun e => (build e.2).map (e.1, ·)).map B.map
  variant cases v :=
    match v.member? "tag", v.member? "value" with
    | some (.str tag), some value =>
      (cases.find? fun c => c.1 = tag).bind fun c => (c.2 value).map (B.variant tag)
    | _, _ => none

/-- What is built from a value. -/
def build : PortType → Json → Option κ := B.reader.read

/-- What is built from a field of a record. -/
def buildField (v : Json) (f : String × PortType) : Option (String × κ) :=
  ((v.member? f.1).bind (B.build f.2)).map (f.1, ·)

/-- What is built from an entry of a map. -/
def buildEntry (t : PortType) (e : String × Json) : Option (String × κ) :=
  (B.build t e.2).map (e.1, ·)

variable {B}

theorem build_tuple (ts : List PortType) (v : Json) : B.build (.tuple ts) v =
    (tagged v "#tup").bind fun items => (buildAll (ts.map B.build) items).map B.tuple := by
  rw [build, Reader.read, Reader.readAll_eq]
  rfl

theorem build_record (fields : List (String × PortType)) (v : Json) :
    B.build (.record fields) v = (fields.mapM (B.buildField v)).map B.record := by
  rw [build, Reader.read, Reader.readNamed_eq]
  simp only [reader, List.mapM_map]
  rfl

theorem build_map (t : PortType) (v : Json) : B.build (.map t) v =
    ((tagged v "#map").bind mapEntries).bind fun entries =>
      (entries.mapM (B.buildEntry t)).map B.map := rfl

theorem build_variant {value : Json} {tag : String}
    (htag : v.member? "tag" = some (.str tag)) (hvalue : v.member? "value" = some value) :
    B.build (.variant cases) v =
      (cases.find? fun c => c.1 = tag).bind fun c => (B.build c.2 value).map (B.variant tag) := by
  rw [build, Reader.read, Reader.readNamed_eq]
  simp only [reader, htag, hvalue, List.find?_map]
  rw [bind_map]
  rfl

theorem buildField_eq_some {f : String × PortType} {k : String × κ} :
    B.buildField v f = some k ↔
      f.1 = k.1 ∧ ∃ x, v.member? f.1 = some x ∧ B.build f.2 x = some k.2 := by
  rw [buildField, map_eq_some_iff]
  constructor
  · rintro ⟨k', hk', rfl⟩
    exact ⟨rfl, bind_eq_some_iff.mp hk'⟩
  · rintro ⟨hname, hk⟩
    exact ⟨k.2, bind_eq_some_iff.mpr hk, by rw [hname]⟩

theorem buildEntry_eq_some {e : String × Json} {k : String × κ} :
    B.buildEntry t e = some k ↔ e.1 = k.1 ∧ B.build t e.2 = some k.2 := by
  rw [buildEntry, map_eq_some_iff]
  constructor
  · rintro ⟨k', hk', rfl⟩
    exact ⟨rfl, hk'⟩
  · rintro ⟨hname, hk⟩
    exact ⟨k.2, hk, by rw [hname]⟩

/-- Something is built from every value of a type. -/
theorem build_isSome {n : Nat} (hvalid : ValidType n t) :
    ∀ v, check t v = true → ∃ k, B.build t v = some k := by
  induction hvalid with
  | int =>
    intro v hv
    obtain ⟨-, text, htext, -⟩ := check_int_iff.mp hv
    exact ⟨B.int text, by simp only [build, Reader.read, reader, htext]⟩
  | bool =>
    intro v hv
    obtain ⟨b, rfl⟩ := check_bool_iff.mp hv
    exact ⟨B.bool b, rfl⟩
  | str =>
    intro v hv
    obtain ⟨s, rfl⟩ := check_str_iff.mp hv
    exact ⟨B.str s, rfl⟩
  | null => exact fun v _ => ⟨B.null, rfl⟩
  | seq _ ih =>
    intro v hv
    obtain ⟨items, rfl, hitems⟩ := check_seq_iff.mp hv
    obtain ⟨ks, hks⟩ := exists_forall₂ fun x hx => ih x (hitems x hx)
    exact ⟨B.seq ks, by
      change (items.mapM (B.build _)).map B.seq = _
      rw [mapM_eq_some.mpr hks]
      rfl⟩
  | set _ ih =>
    intro v hv
    obtain ⟨items, htagged, hitems, -⟩ := check_set_iff.mp hv
    obtain ⟨ks, hks⟩ := exists_forall₂ fun x hx => ih x (hitems x hx)
    exact ⟨B.set ks, by
      change ((tagged v "#set").bind fun items => (items.mapM (B.build _)).map B.set) = _
      rw [htagged, bind_some, mapM_eq_some.mpr hks]
      rfl⟩
  | @tuple n ts htypes ih =>
    intro v hv
    obtain ⟨items, htagged, hitems⟩ := check_tuple_iff.mp hv
    have hkeys : ∃ ks, buildAll (ts.map B.build) items = some ks := by
      clear hv htagged htypes
      induction hitems with
      | nil => exact ⟨[], rfl⟩
      | @cons t x ts xs hx _ ih' =>
        obtain ⟨k, hk⟩ := ih t List.mem_cons_self x hx
        obtain ⟨ks, hks⟩ := ih' fun t ht => ih t (List.mem_cons_of_mem _ ht)
        exact ⟨k :: ks, by rw [List.map_cons, buildAll, hk, bind_some, hks]; rfl⟩
    obtain ⟨ks, hks⟩ := hkeys
    exact ⟨B.tuple ks, by rw [build_tuple, htagged, bind_some, hks]; rfl⟩
  | @record n fields _ _ ih =>
    intro v hv
    obtain ⟨-, hfields⟩ := check_record_iff.mp hv
    have hkey : ∀ f ∈ fields, ∃ k, B.buildField v f = some k := by
      intro f hf
      obtain ⟨x, hx, hcheck⟩ := hfields f hf
      obtain ⟨k, hk⟩ := ih f hf x hcheck
      exact ⟨(f.1, k), buildField_eq_some.mpr ⟨rfl, x, hx, hk⟩⟩
    obtain ⟨ks, hks⟩ := exists_forall₂ hkey
    exact ⟨B.record ks, by rw [build_record, mapM_eq_some.mpr hks]; rfl⟩
  | @map n t _ ih =>
    intro v hv
    obtain ⟨entries, hentries, hvalues, -⟩ := check_map_iff.mp hv
    have hkey : ∀ e ∈ entries, ∃ k, B.buildEntry t e = some k := by
      intro e he
      obtain ⟨k, hk⟩ := ih e.2 (hvalues e he)
      exact ⟨(e.1, k), buildEntry_eq_some.mpr ⟨rfl, hk⟩⟩
    obtain ⟨ks, hks⟩ := exists_forall₂ hkey
    exact ⟨B.map ks, by
      rw [build_map, hentries, bind_some, mapM_eq_some.mpr hks]
      rfl⟩
  | variant _ _ ih =>
    intro v hv
    obtain ⟨-, tag, value, c, htag, hvalue, hc, hcheck⟩ := check_variant_iff.mp hv
    obtain ⟨k, hk⟩ := ih c (List.mem_of_find?_eq_some hc) value hcheck
    exact ⟨B.variant tag k, by
      rw [build_variant htag hvalue, hc, bind_some, hk]
      rfl⟩

end Builder

/-! ### Keys -/

/-- A way of building keys, and when two of them are the same. -/
structure Keys (κ : Type) extends Builder κ where
  eq : κ → κ → Bool

namespace Keys

variable {κ : Type} (K : Keys κ)

/-- What a way of building keys has to satisfy. -/
structure Lawful : Prop where
  int : ∀ s s', K.eq (K.int s) (K.int s') = true ↔ s = s'
  bool : ∀ b b', K.eq (K.bool b) (K.bool b') = true ↔ b = b'
  str : ∀ s s', K.eq (K.str s) (K.str s') = true ↔ s = s'
  null : K.eq K.null K.null = true
  seq : ∀ xs ys, K.eq (K.seq xs) (K.seq ys) = true ↔
    List.Forall₂ (fun x y => K.eq x y = true) xs ys
  tuple : ∀ xs ys, K.eq (K.tuple xs) (K.tuple ys) = true ↔
    List.Forall₂ (fun x y => K.eq x y = true) xs ys
  set : ∀ xs ys, (xs.Pairwise fun x y => ¬ K.eq x y = true) →
    (ys.Pairwise fun x y => ¬ K.eq x y = true) →
    (K.eq (K.set xs) (K.set ys) = true ↔ Covers (fun x y => K.eq x y = true) xs ys)
  record : ∀ xs ys, xs.map (·.1) = ys.map (·.1) → (xs.map (·.1)).Nodup →
    (K.eq (K.record xs) (K.record ys) = true ↔
      List.Forall₂ (fun x y => K.eq x.2 y.2 = true) xs ys)
  map : ∀ xs ys, (xs.map (·.1)).Nodup → (ys.map (·.1)).Nodup →
    (K.eq (K.map xs) (K.map ys) = true ↔
      Covers (fun x y => x.1 = y.1 ∧ K.eq x.2 y.2 = true) xs ys)
  variant : ∀ tag tag' k k', K.eq (K.variant tag k) (K.variant tag' k') = true ↔
    tag = tag' ∧ K.eq k k' = true

variable {K}

/-- Keys tell the values of a type apart. -/
def Separates (K : Keys κ) (t : PortType) : Prop :=
  ∀ a b k l, check t a = true → check t b = true → K.build t a = some k → K.build t b = some l →
    (K.eq k l = true ↔ same t a b = true)

/-- The keys of elements are different exactly if the elements are. -/
theorem Separates.pairwise (h : K.Separates t) {items : List Json} {ks : List κ}
    (hitems : ∀ x ∈ items, check t x = true) (hks : items.mapM (K.build t) = some ks) :
    (items.Pairwise fun x y => ¬ same t x y = true) ↔ ks.Pairwise fun x y => ¬ K.eq x y = true := by
  refine forall₂_pairwise (mapM_eq_some.mp hks) ?_
  intro x hx x' hx' k k' hk hk'
  exact not_congr (h x x' k k' (hitems x hx) (hitems x' hx') hk hk').symm

theorem Separates.covers (h : K.Separates t) {ys : List Json} {ks ls : List κ}
    (hxs : ∀ x ∈ xs, check t x = true) (hys : ∀ y ∈ ys, check t y = true)
    (hks : xs.mapM (K.build t) = some ks) (hls : ys.mapM (K.build t) = some ls) :
    Covers (fun x y => same t x y = true) xs ys ↔ Covers (fun k l => K.eq k l = true) ks ls := by
  refine forall₂_covers (mapM_eq_some.mp hks) (mapM_eq_some.mp hls) ?_
  intro x hx y hy k l hk hl
  exact (h x y k l (hxs x hx) (hys y hy) hk hl).symm

theorem Separates.zip (h : K.Separates t) {ys : List Json} {ks ls : List κ}
    (hxs : ∀ x ∈ xs, check t x = true) (hys : ∀ y ∈ ys, check t y = true)
    (hks : List.Forall₂ (fun x k => K.build t x = some k) xs ks)
    (hls : List.Forall₂ (fun y l => K.build t y = some l) ys ls) :
    List.Forall₂ (fun k l => K.eq k l = true) ks ls ↔
      xs.length = ys.length ∧ ∀ p ∈ xs.zip ys, same t p.1 p.2 = true := by
  induction hks generalizing ys ls with
  | nil => cases hls <;> simp
  | @cons x k xs ks hk _ ih =>
    cases hls with
    | nil => simp
    | @cons y l ys ls hl hls =>
      have hhead := h x y k l (hxs x List.mem_cons_self) (hys y List.mem_cons_self) hk hl
      have htail := ih (fun x hx => hxs x (List.mem_cons_of_mem _ hx))
        (fun y hy => hys y (List.mem_cons_of_mem _ hy)) hls
      rw [List.forall₂_cons, hhead, htail, List.zip_cons_cons, List.forall_mem_cons,
        List.length_cons, List.length_cons, Nat.add_right_cancel_iff]
      exact and_left_comm

/-- Tuples of separated types. -/
theorem separates_tuple {ts : List PortType} (h : ∀ t ∈ ts, K.Separates t) {ys : List Json}
    {ks ls : List κ} (hxs : List.Forall₂ (fun t x => check t x = true) ts xs)
    (hys : List.Forall₂ (fun t y => check t y = true) ts ys)
    (hks : Builder.buildAll (ts.map K.build) xs = some ks) (hls : Builder.buildAll (ts.map K.build) ys = some ls) :
    List.Forall₂ (fun k l => K.eq k l = true) ks ls ↔ sameTuple ts xs ys = true := by
  induction hxs generalizing ys ks ls with
  | nil =>
    cases hys
    cases hks
    cases hls
    exact ⟨fun _ => rfl, fun _ => .nil⟩
  | @cons t x ts xs hx _ ih =>
    cases hys with
    | @cons _ y _ ys hy hys =>
      rw [List.map_cons, Builder.buildAll] at hks hls
      obtain ⟨k, hk, hks⟩ := bind_eq_some_iff.mp hks
      obtain ⟨ks', hks', rfl⟩ := map_eq_some_iff.mp hks
      obtain ⟨l, hl, hls⟩ := bind_eq_some_iff.mp hls
      obtain ⟨ls', hls', rfl⟩ := map_eq_some_iff.mp hls
      have hhead := h t List.mem_cons_self x y k l hx hy hk hl
      have htail := ih (fun t ht => h t (List.mem_cons_of_mem _ ht)) hys hks' hls'
      rw [List.forall₂_cons, hhead, htail, sameTuple, Bool.and_eq_true]

/-- Records of separated types. -/
theorem separates_fields {fields : List (String × PortType)}
    (h : ∀ f ∈ fields, K.Separates f.2) {a b : Json} {ks ls : List (String × κ)}
    (ha : ∀ f ∈ fields, ∃ x, a.member? f.1 = some x ∧ check f.2 x = true)
    (hb : ∀ f ∈ fields, ∃ x, b.member? f.1 = some x ∧ check f.2 x = true)
    (hks : List.Forall₂ (fun f k => K.buildField a f = some k) fields ks)
    (hls : List.Forall₂ (fun f l => K.buildField b f = some l) fields ls) :
    List.Forall₂ (fun k l => K.eq k.2 l.2 = true) ks ls ↔ sameFields fields a b = true := by
  induction hks generalizing ls with
  | nil =>
    cases hls
    exact ⟨fun _ => rfl, fun _ => .nil⟩
  | @cons f k fields ks hk _ ih =>
    cases hls with
    | @cons _ l _ ls hl hls =>
      obtain ⟨-, x, hx, hk⟩ := Builder.buildField_eq_some.mp hk
      obtain ⟨-, y, hy, hl⟩ := Builder.buildField_eq_some.mp hl
      obtain ⟨x', hx', hcheckx⟩ := ha f List.mem_cons_self
      obtain ⟨y', hy', hchecky⟩ := hb f List.mem_cons_self
      have hxx : x' = x := some.inj (hx'.symm.trans hx)
      have hyy : y' = y := some.inj (hy'.symm.trans hy)
      have hhead := h f List.mem_cons_self x y k.2 l.2 (hxx ▸ hcheckx) (hyy ▸ hchecky) hk hl
      have htail := ih (fun f hf => h f (List.mem_cons_of_mem _ hf))
        (fun f hf => ha f (List.mem_cons_of_mem _ hf))
        (fun f hf => hb f (List.mem_cons_of_mem _ hf)) hls
      rw [List.forall₂_cons, hhead, htail, sameFields, hx, hy, Bool.and_eq_true]

theorem sameCase_eq {tag : String} {c : String × PortType}
    (hc : (cases.find? fun c => c.1 = tag) = some c) (x y : Json) :
    sameCase cases tag x y = same c.2 x y := by
  induction cases with
  | nil => cases hc
  | cons c' cases ih =>
    rw [sameCase]
    rw [List.find?_cons] at hc
    by_cases htag : c'.1 = tag
    · simp only [htag, decide_true] at hc
      cases hc
      rw [if_pos htag]
    · simp only [htag, decide_false] at hc
      rw [if_neg htag, ih hc]

/-- Keys are the same exactly if the values are. -/
theorem Lawful.separates (hK : K.Lawful) {n : Nat} (hvalid : ValidType n t) :
    K.Separates t := by
  induction hvalid with
  | int =>
    intro a b k l ha hb hk hl
    obtain ⟨-, s, hs, -⟩ := check_int_iff.mp ha
    obtain ⟨-, s', hs', -⟩ := check_int_iff.mp hb
    simp only [Builder.build, Reader.read, Builder.reader, hs, hs', some.injEq] at hk hl
    subst hk hl
    rw [hK.int, same, hs, hs']
    simp [Json.coerced, String.toList_inj]
  | bool =>
    intro a b k l ha hb hk hl
    obtain ⟨x, rfl⟩ := check_bool_iff.mp ha
    obtain ⟨y, rfl⟩ := check_bool_iff.mp hb
    cases hk
    cases hl
    rw [hK.bool, same]
    cases x <;> cases y <;> simp [Json.coerced]
  | str =>
    intro a b k l ha hb hk hl
    obtain ⟨x, rfl⟩ := check_str_iff.mp ha
    obtain ⟨y, rfl⟩ := check_str_iff.mp hb
    cases hk
    cases hl
    rw [hK.str, same]
    simp [Json.coerced, String.toList_inj]
  | null =>
    intro a b k l _ _ hk hl
    cases hk
    cases hl
    exact ⟨fun _ => by rw [same], fun _ => hK.null⟩
  | seq _ ih =>
    intro a b k l ha hb hk hl
    obtain ⟨xs, rfl, hxs⟩ := check_seq_iff.mp ha
    obtain ⟨ys, rfl, hys⟩ := check_seq_iff.mp hb
    obtain ⟨ks, hks, rfl⟩ := map_eq_some_iff.mp hk
    obtain ⟨ls, hls, rfl⟩ := map_eq_some_iff.mp hl
    rw [hK.seq, ih.zip hxs hys (mapM_eq_some.mp hks) (mapM_eq_some.mp hls), same]
    simp
  | set _ ih =>
    intro a b k l ha hb hk hl
    obtain ⟨xs, hxs, hcheckx, hpairx⟩ := check_set_iff.mp ha
    obtain ⟨ys, hys, hchecky, hpairy⟩ := check_set_iff.mp hb
    obtain ⟨xs', hxs', hk⟩ := bind_eq_some_iff.mp hk
    obtain ⟨ys', hys', hl⟩ := bind_eq_some_iff.mp hl
    cases hxs.symm.trans hxs'
    cases hys.symm.trans hys'
    obtain ⟨ks, hks, rfl⟩ := map_eq_some_iff.mp hk
    obtain ⟨ls, hls, rfl⟩ := map_eq_some_iff.mp hl
    rw [hK.set ks ls ((ih.pairwise hcheckx hks).mp hpairx) ((ih.pairwise hchecky hls).mp hpairy),
      ← ih.covers hcheckx hchecky hks hls, same, hxs, hys]
    simp [Covers]
  | tuple _ ih =>
    intro a b k l ha hb hk hl
    obtain ⟨xs, hxs, hcheckx⟩ := check_tuple_iff.mp ha
    obtain ⟨ys, hys, hchecky⟩ := check_tuple_iff.mp hb
    rw [Builder.build_tuple, hxs, bind_some] at hk
    rw [Builder.build_tuple, hys, bind_some] at hl
    obtain ⟨ks, hks, rfl⟩ := map_eq_some_iff.mp hk
    obtain ⟨ls, hls, rfl⟩ := map_eq_some_iff.mp hl
    rw [hK.tuple, separates_tuple ih hcheckx hchecky hks hls, same, hxs, hys]
  | @record n fields hnames _ ih =>
    intro a b k l ha hb hk hl
    obtain ⟨-, hcheckx⟩ := check_record_iff.mp ha
    obtain ⟨-, hchecky⟩ := check_record_iff.mp hb
    rw [Builder.build_record] at hk hl
    obtain ⟨ks, hks, rfl⟩ := map_eq_some_iff.mp hk
    obtain ⟨ls, hls, rfl⟩ := map_eq_some_iff.mp hl
    have hks := mapM_eq_some.mp hks
    have hls := mapM_eq_some.mp hls
    have hnamek : fields.map (·.1) = ks.map (·.1) :=
      forall₂_map_eq hks fun _ _ hk => (Builder.buildField_eq_some.mp hk).1
    have hnamel : fields.map (·.1) = ls.map (·.1) :=
      forall₂_map_eq hls fun _ _ hl => (Builder.buildField_eq_some.mp hl).1
    rw [hK.record ks ls (hnamek.symm.trans hnamel) (hnamek ▸ hnames),
      separates_fields ih hcheckx hchecky hks hls, same]
  | @map n t _ ih =>
    intro a b k l ha hb hk hl
    obtain ⟨xs, hxs, hcheckx, hnamex⟩ := check_map_iff.mp ha
    obtain ⟨ys, hys, hchecky, hnamey⟩ := check_map_iff.mp hb
    rw [Builder.build_map, hxs, bind_some] at hk
    rw [Builder.build_map, hys, bind_some] at hl
    obtain ⟨ks, hks, rfl⟩ := map_eq_some_iff.mp hk
    obtain ⟨ls, hls, rfl⟩ := map_eq_some_iff.mp hl
    have hks := mapM_eq_some.mp hks
    have hls := mapM_eq_some.mp hls
    have hnamek : xs.map (·.1) = ks.map (·.1) :=
      forall₂_map_eq hks fun _ _ hk => (Builder.buildEntry_eq_some.mp hk).1
    have hnamel : ys.map (·.1) = ls.map (·.1) :=
      forall₂_map_eq hls fun _ _ hl => (Builder.buildEntry_eq_some.mp hl).1
    have hcovers : Covers (fun x y => x.1 = y.1 ∧ same t x.2 y.2 = true) xs ys ↔
        Covers (fun k l => k.1 = l.1 ∧ K.eq k.2 l.2 = true) ks ls := by
      refine forall₂_covers hks hls ?_
      intro x hx y hy k l hk hl
      obtain ⟨hxk, hk⟩ := Builder.buildEntry_eq_some.mp hk
      obtain ⟨hyl, hl⟩ := Builder.buildEntry_eq_some.mp hl
      rw [hxk, hyl, ih x.2 y.2 k.2 l.2 (hcheckx x hx) (hchecky y hy) hk hl]
    rw [hK.map ks ls (hnamek ▸ hnamex) (hnamel ▸ hnamey), ← hcovers, same, hxs, hys]
    simp [Covers]
  | variant _ _ ih =>
    intro a b k l ha hb hk hl
    obtain ⟨-, tag, x, c, htag, hx, hc, hcheckx⟩ := check_variant_iff.mp ha
    obtain ⟨-, tag', y, c', htag', hy, hc', hchecky⟩ := check_variant_iff.mp hb
    rw [Builder.build_variant htag hx, hc, bind_some] at hk
    rw [Builder.build_variant htag' hy, hc', bind_some] at hl
    obtain ⟨k', hk', rfl⟩ := map_eq_some_iff.mp hk
    obtain ⟨l', hl', rfl⟩ := map_eq_some_iff.mp hl
    rw [hK.variant, same, htag, htag', hx, hy]
    simp only [Bool.and_eq_true, decide_eq_true_eq]
    refine and_congr_right ?_
    rintro rfl
    cases hc.symm.trans hc'
    rw [sameCase_eq hc, ih c (List.mem_of_find?_eq_some hc) x y k' l' hcheckx hchecky hk' hl']

end Keys

end MirrorGate.Codec
