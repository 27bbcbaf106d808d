/- module: Standalone/Flatten
   source: standalone_test/marstek_basic_info.py
   digest: `flatten_metrics`, and when it gives every leaf of nested data a row of its own. -/

import Mathlib.Data.List.Nodup
import Mathlib.Data.List.Pairwise
import MarstekBle.Standalone.Payloads

set_option autoImplicit false
set_option relaxedAutoImplicit false

namespace MarstekBle.Standalone

open MarstekBle.Data MarstekBle.Lib.Dictionary

/-- `str()` of floats and of containers. -/
structure Printer where
  float : ℚ → Text
  container : Metric → Text

/-- `str(value)`. -/
def Metric.toText (printer : Printer) : Metric → Text
  | .none => "None".toList
  | .bool b => (if b then "True" else "False").toList
  | .int n => (toString n).toList
  | .float q => printer.float q
  | .str text => text
  | .list members => printer.container (.list members)
  | .dict entries => printer.container (.dict entries)

/-- What a leaf is printed as. -/
def Metric.leafText (printer : Printer) : Metric → Text
  | .none => []
  | .list members => (", ".toList).intercalate (members.map (Metric.toText printer))
  | value => value.toText printer

/-- `value and isinstance(value[0], dict)`. -/
def startsWithDict : List Metric → Bool
  | .dict _ :: _ => true
  | _ => false

/-- The key of an entry below a prefix. -/
def entryKey (keyPrefix key : Text) : Text :=
  if keyPrefix = [] then key else keyPrefix ++ '.' :: key

def itemKey (keyPrefix : Text) (idx : Nat) : Text :=
  keyPrefix ++ '[' :: Nat.toDigits 10 idx ++ [']']

section Flatten

variable (printer : Printer)

mutual

/-- The assignments to `flat`, in order. -/
def flattenWrites (keyPrefix : Text) : Metric → List (Text × Text)
  | .dict entries => flattenEntries keyPrefix entries
  | .list members =>
    if startsWithDict members then flattenItems keyPrefix 0 members
    else [(keyPrefix, (Metric.list members).leafText printer)]
  | value => [(keyPrefix, value.leafText printer)]
termination_by structural value => value

def flattenEntries (keyPrefix : Text) : List (Text × Metric) → List (Text × Text)
  | [] => []
  | (key, value) :: rest =>
    flattenWrites (entryKey keyPrefix key) value ++ flattenEntries keyPrefix rest
termination_by structural entries => entries

def flattenItems (keyPrefix : Text) (idx : Nat) : List Metric → List (Text × Text)
  | [] => []
  | item :: rest =>
    flattenWrites (itemKey keyPrefix idx) item ++ flattenItems keyPrefix (idx + 1) rest
termination_by structural items => items

end

/-- `text.lstrip(".")`. -/
def lstripDots (text : Text) : Text := text.dropWhile (· == '.')

def flattenMetrics (data : Metric) : List (Text × Text) :=
  stored ((stored (flattenWrites printer [] data)).map fun e => (lstripDots e.1, e.2))

end Flatten

/-! ### Keys below keys -/

/-- The key goes on where the other one ends, with an entry or an item of it. -/
def Below (key other : Text) : Prop :=
  ∃ c rest, (c = '.' ∨ c = '[') ∧ other = key ++ c :: rest

/-- The value is flattened by parts. -/
def Metric.isContainer : Metric → Bool
  | .dict _ => true
  | .list members => startsWithDict members
  | _ => false

/-- The keys that a value may be flattened to. -/
def Covers (keyPrefix : Text) (value : Metric) (key : Text) : Prop :=
  key = keyPrefix ∨ value.isContainer = true ∧ Below keyPrefix key

/-- Two children whose keys cannot meet below them. -/
def Apart (a b : Text × Metric) : Prop :=
  a.1 ≠ b.1 ∧ (a.2.isContainer = true → ¬ Below a.1 b.1) ∧
    (b.2.isContainer = true → ¬ Below b.1 a.1)

/-- The keys of every dictionary are apart. -/
inductive Separated : Metric → Prop where
  | dict (entries : List (Text × Metric)) (apart : entries.Pairwise Apart)
      (inner : ∀ e ∈ entries, Separated e.2) : Separated (.dict entries)
  | items (members : List Metric) (inner : ∀ item ∈ members, Separated item) :
      Separated (.list members)
  | leaf (value : Metric) (leaf : value.isContainer = false) : Separated value

theorem Covers.exists_append {lead key target : Text} {value : Metric}
    (h : Covers (lead ++ key) value target) :
    ∃ more, target = lead ++ (key ++ more) ∧
      (more = [] ∨
        value.isContainer = true ∧ ∃ c rest, (c = '.' ∨ c = '[') ∧ more = c :: rest) := by
  rcases h with rfl | ⟨container, c, rest, step, rfl⟩
  · exact ⟨[], by simp, .inl rfl⟩
  · exact ⟨c :: rest, by simp, .inr ⟨container, c, rest, step, rfl⟩⟩

/-- No key lies below two children that are apart. -/
theorem Apart.disjoint {a b : Text × Metric} (apart : Apart a b) {lead target : Text}
    (first : Covers (lead ++ a.1) a.2 target) (second : Covers (lead ++ b.1) b.2 target) :
    False := by
  obtain ⟨different, below, above⟩ := apart
  obtain ⟨more, same, ends⟩ := first.exists_append
  obtain ⟨more', same', ends'⟩ := second.exists_append
  have meet : a.1 ++ more = b.1 ++ more' := List.append_cancel_left (same.symm.trans same')
  rcases List.append_eq_append_iff.mp meet with ⟨t, longer, rest⟩ | ⟨t, longer, rest⟩
  · cases t with
    | nil => exact different (by rw [longer, List.append_nil])
    | cons c t =>
      rcases ends with rfl | ⟨container, d, tail, step, rfl⟩
      · cases rest
      · obtain ⟨rfl, _⟩ := List.cons.inj rest
        exact below container ⟨d, t, step, longer⟩
  · cases t with
    | nil => exact different (by rw [longer, List.append_nil])
    | cons c t =>
      rcases ends' with rfl | ⟨container, d, tail, step, rfl⟩
      · cases rest
      · obtain ⟨rfl, _⟩ := List.cons.inj rest
        exact above container ⟨d, t, step, longer⟩

/-! ### Children -/

/-- Children that are apart, each with different keys of its own. -/
theorem nodup_children (lead : Text) (children : List (Text × Metric))
    (writes : Text × Metric → List (Text × Text))
    (covers : ∀ child ∈ children, ∀ e ∈ writes child, Covers (lead ++ child.1) child.2 e.1)
    (once : ∀ child ∈ children, ((writes child).map Prod.fst).Nodup)
    (apart : children.Pairwise Apart) :
    ((children.flatMap writes).map Prod.fst).Nodup := by
  induction children with
  | nil => exact List.nodup_nil
  | cons child children ih =>
    rw [List.pairwise_cons] at apart
    have later := ih (fun c hc => covers c (List.mem_cons_of_mem child hc))
      (fun c hc => once c (List.mem_cons_of_mem child hc)) apart.2
    rw [List.flatMap_cons, List.map_append, List.nodup_append]
    refine ⟨once child List.mem_cons_self, later, fun key here key' there same => ?_⟩
    subst same
    obtain ⟨e, inside, rfl⟩ := List.mem_map.mp here
    obtain ⟨e', member, named⟩ := List.mem_map.mp there
    obtain ⟨other, listed, inside'⟩ := List.mem_flatMap.mp member
    have first := covers child List.mem_cons_self e inside
    have second := covers other (List.mem_cons_of_mem child listed) e' inside'
    rw [named] at second
    exact (apart.1 other listed).disjoint first second

theorem flattenEntries_eq (printer : Printer) (keyPrefix : Text)
    (entries : List (Text × Metric)) : flattenEntries printer keyPrefix entries =
      entries.flatMap fun e => flattenWrites printer (entryKey keyPrefix e.1) e.2 := by
  induction entries with
  | nil => rw [flattenEntries, List.flatMap_nil]
  | cons e entries ih =>
    obtain ⟨key, value⟩ := e
    rw [flattenEntries, List.flatMap_cons, ih]

/-- The key of an item without what all items share. -/
def indexKey (idx : Nat) : Text := Nat.toDigits 10 idx ++ [']']

theorem itemKey_eq (keyPrefix : Text) (idx : Nat) :
    itemKey keyPrefix idx = keyPrefix ++ ['['] ++ indexKey idx := by
  simp [itemKey, indexKey]

theorem flattenItems_eq (printer : Printer) (keyPrefix : Text) (idx : Nat)
    (items : List Metric) : flattenItems printer keyPrefix idx items =
      ((items.zipIdx idx).map fun e => (indexKey e.2, e.1)).flatMap fun e =>
        flattenWrites printer (keyPrefix ++ ['['] ++ e.1) e.2 := by
  induction items generalizing idx with
  | nil => rw [flattenItems]; rfl
  | cons item items ih =>
    rw [flattenItems, List.zipIdx_cons, List.map_cons, List.flatMap_cons, ih, itemKey_eq]

theorem bracket_not_mem_digits (idx : Nat) : ']' ∉ Nat.toDigits 10 idx := fun inside =>
  absurd (Nat.isDigit_of_mem_toDigits (by decide) (by decide) inside) (by decide)

theorem apart_indexKey {i j : Nat} (different : i ≠ j) (a b : Metric) :
    Apart (indexKey i, a) (indexKey j, b) := by
  have longer : ∀ i j : Nat, ¬ Below (indexKey i) (indexKey j) := by
    rintro i j ⟨c, rest, _, same⟩
    have shorter := congrArg List.dropLast same
    rw [indexKey, indexKey, List.dropLast_concat, List.append_assoc,
      List.dropLast_append_of_ne_nil (by simp), List.singleton_append,
      List.dropLast_cons_of_ne_nil (by simp)] at shorter
    refine bracket_not_mem_digits j ?_
    rw [shorter]
    exact List.mem_append_right _ List.mem_cons_self
  refine ⟨fun same => different ?_, fun _ => longer i j, fun _ => longer j i⟩
  have digits : Nat.toDigits 10 i = Nat.toDigits 10 j := List.append_cancel_right same
  have value := congrArg (fun cs => Nat.ofDigitChars 10 cs 0) digits
  simpa only [Nat.ofDigitChars_ten_toDigits] using value

theorem apart_items (items : List Metric) (idx : Nat) :
    ((items.zipIdx idx).map fun e => (indexKey e.2, e.1)).Pairwise Apart := by
  induction items generalizing idx with
  | nil => exact List.Pairwise.nil
  | cons item items ih =>
    rw [List.zipIdx_cons, List.map_cons, List.pairwise_cons]
    refine ⟨fun e member => ?_, ih (idx + 1)⟩
    obtain ⟨⟨other, j⟩, listed, rfl⟩ := List.mem_map.mp member
    have later : idx + 1 ≤ j := List.le_snd_of_mem_zipIdx listed
    exact apart_indexKey (by omega) item other

/-! ### Addresses -/

inductive MetricStep where
  | entry (key : Text)
  | item (idx : Nat)

/-- What the nested data holds at an address; the members of a list of scalars have none. -/
def Metric.at : Metric → List MetricStep → Option Metric
  | value, [] => some value
  | .dict entries, .entry key :: path => (entries.lookup key).bind fun value => value.at path
  | .list members, .item idx :: path =>
    if startsWithDict members then (members[idx]?).bind fun value => value.at path else Option.none
  | _, _ => Option.none

def stepKey (key : Text) : MetricStep → Text
  | .entry name => entryKey key name
  | .item idx => itemKey key idx

/-- The key of an address below a prefix. -/
def pathKey (keyPrefix : Text) (path : List MetricStep) : Text := path.foldl stepKey keyPrefix

def LeafAt (value : Metric) (path : List MetricStep) (leaf : Metric) : Prop :=
  value.at path = some leaf ∧ leaf.isContainer = false

/-- The row of the leaf at an address. -/
def LeafRow (printer : Printer) (keyPrefix : Text) (value : Metric) (row : Text × Text) : Prop :=
  ∃ path leaf, LeafAt value path leaf ∧ row = (pathKey keyPrefix path, leaf.leafText printer)

theorem keys_nodup_of_apart {entries : List (Text × Metric)} (apart : entries.Pairwise Apart) :
    (entries.map Prod.fst).Nodup := by
  rw [List.Nodup, List.pairwise_map]
  exact apart.imp fun h => h.1

/-! Where the leaves of a value stand, by the kind of value. -/

theorem leafAt_scalar {value : Metric} (scalar : value.isContainer = false)
    (path : List MetricStep) (leaf : Metric) :
    LeafAt value path leaf ↔ path = [] ∧ leaf = value := by
  constructor
  · rintro ⟨there, _⟩
    cases path with
    | nil =>
      rw [Metric.at] at there
      exact ⟨rfl, (Option.some.inj there).symm⟩
    | cons step path =>
      cases value with
      | dict entries => cases scalar
      | list members =>
        have scalars : startsWithDict members = false := scalar
        cases step with
        | entry key => simp [Metric.at] at there
        | item idx => simp [Metric.at, scalars] at there
      | none | bool _ | int _ | float _ | str _ => simp [Metric.at] at there
  · rintro ⟨rfl, rfl⟩
    exact ⟨by rw [Metric.at], scalar⟩

theorem leafAt_dict {entries : List (Text × Metric)} (once : (entries.map Prod.fst).Nodup)
    (path : List MetricStep) (leaf : Metric) :
    LeafAt (.dict entries) path leaf ↔ ∃ key value rest,
      path = .entry key :: rest ∧ (key, value) ∈ entries ∧ LeafAt value rest leaf := by
  constructor
  · rintro ⟨found, scalar⟩
    cases path with
    | nil =>
      rw [Metric.at] at found
      obtain rfl := Option.some.inj found
      cases scalar
    | cons step rest =>
      cases step with
      | item idx => simp [Metric.at] at found
      | entry key =>
        rw [Metric.at, Option.bind_eq_some_iff] at found
        obtain ⟨value, listed, below⟩ := found
        exact ⟨key, value, rest, rfl, (lookup_eq_some_iff once key value).mp listed, below, scalar⟩
  · rintro ⟨key, value, rest, rfl, listed, below, scalar⟩
    refine ⟨?_, scalar⟩
    rw [Metric.at, (lookup_eq_some_iff once key value).mpr listed]
    exact below

theorem leafAt_items {members : List Metric} (dicts : startsWithDict members = true)
    (path : List MetricStep) (leaf : Metric) :
    LeafAt (.list members) path leaf ↔ ∃ idx item rest,
      path = .item idx :: rest ∧ members[idx]? = some item ∧ LeafAt item rest leaf := by
  constructor
  · rintro ⟨found, scalar⟩
    cases path with
    | nil =>
      rw [Metric.at] at found
      obtain rfl := Option.some.inj found
      rw [show (Metric.list members).isContainer = startsWithDict members from rfl, dicts]
        at scalar
      cases scalar
    | cons step rest =>
      cases step with
      | entry key => simp [Metric.at] at found
      | item idx =>
        rw [Metric.at, if_pos dicts, Option.bind_eq_some_iff] at found
        obtain ⟨item, placed, below⟩ := found
        exact ⟨idx, item, rest, rfl, placed, below, scalar⟩
  · rintro ⟨idx, item, rest, rfl, placed, below, scalar⟩
    refine ⟨?_, scalar⟩
    rw [Metric.at, if_pos dicts, placed]
    exact below

theorem flattenWrites_leaf (printer : Printer) (keyPrefix : Text) {value : Metric}
    (leaf : value.isContainer = false) :
    flattenWrites printer keyPrefix value = [(keyPrefix, value.leafText printer)] := by
  cases value with
  | dict entries => cases leaf
  | list members =>
    rw [flattenWrites, if_neg]
    simpa [Metric.isContainer] using leaf
  | none | bool _ | int _ | float _ | str _ => rw [flattenWrites] <;> simp

theorem mem_flattenWrites_scalar (printer : Printer) (keyPrefix : Text) {value : Metric}
    (scalar : value.isContainer = false) (row : Text × Text) :
    row ∈ flattenWrites printer keyPrefix value ↔ LeafRow printer keyPrefix value row := by
  rw [flattenWrites_leaf printer keyPrefix scalar, List.mem_singleton]
  constructor
  · rintro rfl
    exact ⟨[], value, (leafAt_scalar scalar _ _).mpr ⟨rfl, rfl⟩, rfl⟩
  · rintro ⟨path, leaf, there, rfl⟩
    obtain ⟨rfl, rfl⟩ := (leafAt_scalar scalar _ _).mp there
    rfl

/-- Flattening writes one row for the leaf at each address. -/
theorem mem_flattenWrites_iff (printer : Printer) {value : Metric} (h : Separated value) :
    ∀ (keyPrefix : Text) (row : Text × Text),
      row ∈ flattenWrites printer keyPrefix value ↔ LeafRow printer keyPrefix value row := by
  induction h with
  | leaf value scalar =>
    intro keyPrefix row
    exact mem_flattenWrites_scalar printer keyPrefix scalar row
  | dict entries apart inner ih =>
    intro keyPrefix row
    have leaves := leafAt_dict (keys_nodup_of_apart apart)
    rw [flattenWrites, flattenEntries_eq, List.mem_flatMap]
    constructor
    · rintro ⟨⟨key, value⟩, listed, member⟩
      obtain ⟨path, leaf, there, rfl⟩ := (ih _ listed _ row).mp member
      exact ⟨.entry key :: path, leaf, (leaves _ _).mpr ⟨key, value, path, rfl, listed, there⟩, rfl⟩
    · rintro ⟨path, leaf, there, rfl⟩
      obtain ⟨key, value, rest, rfl, listed, below⟩ := (leaves _ _).mp there
      exact ⟨(key, value), listed, (ih _ listed _ _).mpr ⟨rest, leaf, below, rfl⟩⟩
  | items members inner ih =>
    intro keyPrefix row
    cases dicts : startsWithDict members with
    | false =>
      have scalar : (Metric.list members).isContainer = false := dicts
      exact mem_flattenWrites_scalar printer keyPrefix scalar row
    | true =>
      have leaves := leafAt_items dicts
      rw [flattenWrites, if_pos dicts, flattenItems_eq, List.mem_flatMap]
      constructor
      · rintro ⟨child, listed, member⟩
        obtain ⟨⟨item, idx⟩, place, rfl⟩ := List.mem_map.mp listed
        have found := List.mem_zipIdx_iff_getElem?.mp place
        rw [← itemKey_eq] at member
        obtain ⟨path, leaf, there, rfl⟩ := (ih item (List.mem_of_getElem? found) _ row).mp member
        exact ⟨.item idx :: path, leaf, (leaves _ _).mpr ⟨idx, item, path, rfl, found, there⟩, rfl⟩
      · rintro ⟨path, leaf, there, rfl⟩
        obtain ⟨idx, item, rest, rfl, found, below⟩ := (leaves _ _).mp there
        refine ⟨(indexKey idx, item), List.mem_map.mpr
          ⟨(item, idx), List.mem_zipIdx_iff_getElem?.mpr found, rfl⟩, ?_⟩
        rw [← itemKey_eq]
        exact (ih item (List.mem_of_getElem? found) _ _).mpr ⟨rest, leaf, below, rfl⟩

/-! ### No two rows share a key -/

theorem entryKey_eq {keyPrefix : Text} (named : keyPrefix ≠ []) (key : Text) :
    entryKey keyPrefix key = keyPrefix ++ ['.'] ++ key := by
  rw [entryKey, if_neg named, List.append_assoc]
  rfl

theorem separated_rows (printer : Printer) {value : Metric} (h : Separated value) :
    ∀ keyPrefix, keyPrefix ≠ [] →
      (∀ e ∈ flattenWrites printer keyPrefix value, Covers keyPrefix value e.1) ∧
        ((flattenWrites printer keyPrefix value).map Prod.fst).Nodup := by
  induction h with
  | leaf value leaf =>
    intro keyPrefix _
    rw [flattenWrites_leaf printer keyPrefix leaf]
    refine ⟨fun e member => ?_, List.nodup_singleton _⟩
    rw [List.mem_singleton.mp member]
    exact .inl rfl
  | dict entries apart inner ih =>
    intro keyPrefix named
    rw [flattenWrites, flattenEntries_eq]
    have keyed : ∀ key, entryKey keyPrefix key ≠ [] := by
      intro key
      rw [entryKey_eq named]
      simp
    have covers : ∀ child ∈ entries,
        ∀ e ∈ flattenWrites printer (entryKey keyPrefix child.1) child.2,
          Covers (keyPrefix ++ ['.'] ++ child.1) child.2 e.1 := by
      intro child listed e member
      rw [← entryKey_eq named]
      exact (ih child listed _ (keyed child.1)).1 e member
    refine ⟨fun e member => ?_, nodup_children (keyPrefix ++ ['.']) entries _ covers
      (fun child listed => (ih child listed _ (keyed child.1)).2) apart⟩
    obtain ⟨child, listed, inside⟩ := List.mem_flatMap.mp member
    obtain ⟨more, same, _⟩ := (covers child listed e inside).exists_append
    exact .inr ⟨rfl, '.', child.1 ++ more, .inl rfl, by rw [same]; simp⟩
  | items members inner ih =>
    intro keyPrefix named
    cases dicts : startsWithDict members with
    | false =>
      have leaf : (Metric.list members).isContainer = false := dicts
      rw [flattenWrites_leaf printer keyPrefix leaf]
      refine ⟨fun e member => ?_, List.nodup_singleton _⟩
      rw [List.mem_singleton.mp member]
      exact .inl rfl
    | true =>
      rw [flattenWrites, if_pos dicts, flattenItems_eq]
      have keyed : ∀ key, keyPrefix ++ ['['] ++ key ≠ [] := by simp
      have covers : ∀ child ∈ (members.zipIdx 0).map fun e => (indexKey e.2, e.1),
          ∀ e ∈ flattenWrites printer (keyPrefix ++ ['['] ++ child.1) child.2,
            Covers (keyPrefix ++ ['['] ++ child.1) child.2 e.1 := by
        intro child listed e member
        obtain ⟨⟨item, idx⟩, place, rfl⟩ := List.mem_map.mp listed
        have found := List.mem_of_getElem? (List.mem_zipIdx_iff_getElem?.mp place)
        exact (ih item found _ (keyed _)).1 e member
      refine ⟨fun e member => ?_, nodup_children (keyPrefix ++ ['[']) _ _ covers
        (fun child listed => ?_) (apart_items members 0)⟩
      · obtain ⟨child, listed, inside⟩ := List.mem_flatMap.mp member
        obtain ⟨more, same, _⟩ := (covers child listed e inside).exists_append
        exact .inr ⟨dicts, '[', child.1 ++ more, .inr rfl, by rw [same]; simp⟩
      · obtain ⟨⟨item, idx⟩, place, rfl⟩ := List.mem_map.mp listed
        have found := List.mem_of_getElem? (List.mem_zipIdx_iff_getElem?.mp place)
        exact (ih item found _ (keyed _)).2

/-! ### No two leaves share a key -/

/-- The key of a leaf tells where it stands. -/
def UniquePaths (keyPrefix : Text) (value : Metric) : Prop :=
  ∀ p q a b, LeafAt value p a → LeafAt value q b →
    pathKey keyPrefix p = pathKey keyPrefix q → p = q

theorem leafAt_covers (printer : Printer) {value leaf : Metric} (h : Separated value)
    {keyPrefix : Text} (named : keyPrefix ≠ []) {path : List MetricStep}
    (there : LeafAt value path leaf) : Covers keyPrefix value (pathKey keyPrefix path) := by
  have row : (pathKey keyPrefix path, leaf.leafText printer) ∈
      flattenWrites printer keyPrefix value :=
    (mem_flattenWrites_iff printer h _ _).mpr ⟨path, leaf, there, rfl⟩
  exact (separated_rows printer h keyPrefix named).1 _ row

theorem uniquePaths_scalar {keyPrefix : Text} {value : Metric}
    (scalar : value.isContainer = false) : UniquePaths keyPrefix value := by
  intro p q a b first second _
  rw [((leafAt_scalar scalar p a).mp first).1, ((leafAt_scalar scalar q b).mp second).1]

instance : Std.Symm Apart where
  symm _ _ apart := ⟨apart.1.symm, apart.2.2, apart.2.1⟩

/-- The entries of a dictionary, whose keys follow what they share. -/
theorem uniquePaths_dict (printer : Printer) {entries : List (Text × Metric)}
    (apart : entries.Pairwise Apart) (inner : ∀ e ∈ entries, Separated e.2)
    (keyPrefix lead : Text) (keyed : ∀ key, entryKey keyPrefix key = lead ++ key)
    (named : ∀ e ∈ entries, entryKey keyPrefix e.1 ≠ [])
    (unique : ∀ e ∈ entries, UniquePaths (entryKey keyPrefix e.1) e.2) :
    UniquePaths keyPrefix (.dict entries) := by
  have leaves := leafAt_dict (keys_nodup_of_apart apart)
  intro p q a b first second same
  obtain ⟨key, value, rest, rfl, listed, below⟩ := (leaves _ _).mp first
  obtain ⟨key', value', rest', rfl, listed', below'⟩ := (leaves _ _).mp second
  change pathKey (entryKey keyPrefix key) rest = pathKey (entryKey keyPrefix key') rest' at same
  by_cases equal : (key, value) = (key', value')
  · obtain ⟨rfl, rfl⟩ := Prod.mk.inj equal
    rw [unique _ listed rest rest' a b below below' same]
  · have covers := leafAt_covers printer (inner _ listed) (named _ listed) below
    have covers' := leafAt_covers printer (inner _ listed') (named _ listed') below'
    have separate : Apart (key, value) (key', value') := apart.forall listed listed' equal
    rw [same, keyed] at covers
    rw [keyed] at covers' same
    rw [keyed] at covers
    exact (separate.disjoint covers covers').elim

theorem uniquePaths_separated (printer : Printer) {value : Metric} (h : Separated value) :
    ∀ keyPrefix, keyPrefix ≠ [] → UniquePaths keyPrefix value := by
  induction h with
  | leaf value scalar => exact fun _ _ => uniquePaths_scalar scalar
  | dict entries apart inner ih =>
    intro keyPrefix named
    have keyed : ∀ key, entryKey keyPrefix key ≠ [] := by
      intro key
      rw [entryKey_eq named]
      simp
    exact uniquePaths_dict printer apart inner keyPrefix (keyPrefix ++ ['.']) (entryKey_eq named)
      (fun e _ => keyed e.1) (fun e listed => ih e listed _ (keyed e.1))
  | items members inner ih =>
    intro keyPrefix named
    cases dicts : startsWithDict members with
    | false =>
      have scalar : (Metric.list members).isContainer = false := dicts
      exact uniquePaths_scalar scalar
    | true =>
      have leaves := leafAt_items dicts
      have keyed : ∀ idx, itemKey keyPrefix idx ≠ [] := by simp [itemKey]
      intro p q a b first second same
      obtain ⟨idx, item, rest, rfl, placed, below⟩ := (leaves _ _).mp first
      obtain ⟨idx', item', rest', rfl, placed', below'⟩ := (leaves _ _).mp second
      change pathKey (itemKey keyPrefix idx) rest = pathKey (itemKey keyPrefix idx') rest' at same
      have listed := List.mem_of_getElem? placed
      by_cases equal : idx = idx'
      · subst equal
        obtain rfl := Option.some.inj (placed.symm.trans placed')
        rw [ih item listed _ (keyed idx) rest rest' a b below below' same]
      · have covers := leafAt_covers printer (inner _ listed) (keyed idx) below
        have covers' := leafAt_covers printer (inner _ (List.mem_of_getElem? placed'))
          (keyed idx') below'
        rw [same, itemKey_eq, itemKey_eq] at covers
        rw [itemKey_eq] at covers'
        exact ((apart_indexKey equal item item').disjoint covers covers').elim

/-- A dictionary whose own keys are not empty and do not start with a dot. -/
structure WellKeyed (entries : List (Text × Metric)) : Prop where
  separated : Separated (.dict entries)
  named : ∀ e ∈ entries, ∃ c rest, e.1 = c :: rest ∧ c ≠ '.'

theorem WellKeyed.parts {entries : List (Text × Metric)} (h : WellKeyed entries) :
    entries.Pairwise Apart ∧ ∀ e ∈ entries, Separated e.2 := by
  cases h.separated with
  | dict _ apart inner => exact ⟨apart, inner⟩
  | leaf _ leaf => cases leaf

theorem WellKeyed.keyed {entries : List (Text × Metric)} (h : WellKeyed entries) :
    ∀ child ∈ entries, entryKey [] child.1 ≠ [] := by
  intro child listed
  obtain ⟨c, rest, same, _⟩ := h.named child listed
  rw [entryKey, if_pos rfl, same]
  exact List.cons_ne_nil c rest

theorem WellKeyed.rows (printer : Printer) {entries : List (Text × Metric)}
    (h : WellKeyed entries) :
    ((flattenWrites printer [] (.dict entries)).map Prod.fst).Nodup ∧
      ∀ e ∈ flattenWrites printer [] (.dict entries), lstripDots e.1 = e.1 := by
  have parts := h.parts
  have keyed := h.keyed
  have covers : ∀ child ∈ entries, ∀ e ∈ flattenWrites printer (entryKey [] child.1) child.2,
      Covers ([] ++ child.1) child.2 e.1 := fun child listed e member =>
    (separated_rows printer (parts.2 child listed) _ (keyed child listed)).1 e member
  rw [flattenWrites, flattenEntries_eq]
  refine ⟨nodup_children [] entries _ covers (fun child listed =>
    (separated_rows printer (parts.2 child listed) _ (keyed child listed)).2) parts.1,
    fun e member => ?_⟩
  obtain ⟨child, listed, inside⟩ := List.mem_flatMap.mp member
  obtain ⟨more, same, _⟩ := (covers child listed e inside).exists_append
  obtain ⟨c, rest, first, other⟩ := h.named child listed
  rw [same, first]
  exact List.dropWhile_cons_of_neg (by simpa using other)

theorem WellKeyed.flattenMetrics_eq (printer : Printer) {entries : List (Text × Metric)}
    (h : WellKeyed entries) :
    flattenMetrics printer (.dict entries) = flattenWrites printer [] (.dict entries) := by
  obtain ⟨once, stripped⟩ := h.rows printer
  have same : (flattenWrites printer [] (.dict entries)).map
      (fun e => (lstripDots e.1, e.2)) = flattenWrites printer [] (.dict entries) := by
    refine (List.map_congr_left fun e member => ?_).trans (List.map_id _)
    rw [stripped e member]
    rfl
  rw [flattenMetrics, stored_of_nodup once, same, stored_of_nodup once]

/-- Every leaf has a row of its own under the key of its address, and there are no others. -/
structure RowForEachLeaf (printer : Printer) (data : Metric) : Prop where
  once : ((flattenMetrics printer data).map Prod.fst).Nodup
  rows : ∀ row, row ∈ flattenMetrics printer data ↔ LeafRow printer [] data row
  own : UniquePaths [] data

theorem WellKeyed.rowForEachLeaf (printer : Printer) {entries : List (Text × Metric)}
    (h : WellKeyed entries) : RowForEachLeaf printer (.dict entries) where
  once := by
    rw [h.flattenMetrics_eq]
    exact (h.rows printer).1
  rows := by
    rw [h.flattenMetrics_eq]
    exact mem_flattenWrites_iff printer h.separated []
  own := uniquePaths_dict printer h.parts.1 h.parts.2 [] [] (fun _ => if_pos rfl) h.keyed
    fun e listed => uniquePaths_separated printer (h.parts.2 e listed) _ (h.keyed e listed)

end MarstekBle.Standalone
