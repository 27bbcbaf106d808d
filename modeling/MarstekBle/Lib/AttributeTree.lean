/- module: Lib/AttributeTree
   digest: Trees of named attributes and list items; reading, writing and frame laws. -/

import Mathlib.Data.List.Basic

/-!
A tree carries values at its leaves. A record node lists its attributes in
declaration order, each with an annotation of type `F`; an item node is a
list. A path names one node. Writing a value at a leaf changes exactly that
leaf, and a sequence of writes leaves at every leaf the latest value written.
-/

set_option autoImplicit false
set_option relaxedAutoImplicit false

namespace MarstekBle.Lib.AttributeTree

universe u v w x

/-- One step of a path: an attribute name or a position in a list. -/
inductive PathElement (N : Type u) where
  | attr (name : N)
  | index (position : Nat)
  deriving DecidableEq

abbrev Path (N : Type u) := List (PathElement N)

/-- Annotations of record attributes carry the attribute's name. -/
class Named (F : Type v) (N : outParam (Type u)) where
  nameOf : F → N

export Named (nameOf)

inductive Node (F : Type v) (V : Type w) where
  | value (content : V)
  | items (members : List (Node F V))
  | record (fields : List (F × Node F V))

variable {N : Type u} {F : Type v} {V : Type w} {W : Type x}

section Induction

variable {P : Node F V → Prop} {Q : List (F × Node F V) → Prop}
  {R : List (Node F V) → Prop}
  (value : ∀ c, P (.value c)) (items : ∀ ts, R ts → P (.items ts))
  (record : ∀ fs, Q fs → P (.record fs)) (noFields : Q [])
  (field : ∀ f t fs, P t → Q fs → Q ((f, t) :: fs))
  (noItems : R []) (item : ∀ t ts, P t → R ts → R (t :: ts))

include value items record noFields field noItems item in
/-- Induction over a tree together with its field lists and item lists. -/
theorem Node.induct (t : Node F V) : P t :=
  @Node.rec F V P R Q (fun p => P p.2) value items record noItems item
    noFields (fun p fs hp hfs => field p.1 p.2 fs hp hfs) (fun _ _ ht => ht) t

/-- The same for a property of objects, where a record looks into the lists it holds. -/
theorem Node.induct_items {O : Node F V → Prop} {I : List (Node F V) → Prop}
    (value : ∀ c, O (.value c)) (items : ∀ ts, O (.items ts)) (record : ∀ fs, Q fs → O (.record fs))
    (noFields : Q [])
    (field : ∀ f t fs, O t → (∀ ts, t = .items ts → I ts) → Q fs → Q ((f, t) :: fs))
    (noItems : I []) (item : ∀ t ts, O t → I ts → I (t :: ts)) (t : Node F V) :
    O t ∧ ∀ ts, t = .items ts → I ts := by
  refine Node.induct (P := fun t => O t ∧ ∀ ts, t = .items ts → I ts) (Q := Q) (R := I)
    ?value ?items ?record noFields ?field noItems ?item t
  case value => exact fun c => ⟨value c, fun ts same => by cases same⟩
  case items =>
    intro members inside
    refine ⟨items members, fun ts same => ?_⟩
    obtain rfl := Node.items.inj same
    exact inside
  case record => exact fun fs inside => ⟨record fs inside, fun ts same => by cases same⟩
  case field => exact fun f t fs here rest => field f t fs here.1 here.2 rest
  case item => exact fun t ts here rest => item t ts here.1 rest

end Induction

/-- An item of a longer list is its first item or an item of the rest. -/
theorem exists_getElem?_cons {A : Type u} {p : Nat → A → Prop} {first : A} {rest : List A} :
    (∃ i item, (first :: rest)[i]? = some item ∧ p i item) ↔
      p 0 first ∨ ∃ i item, rest[i]? = some item ∧ p (i + 1) item := by
  constructor
  · rintro ⟨i, item, found, holds⟩
    cases i with
    | zero =>
      obtain rfl := Option.some.inj found
      exact .inl holds
    | succ i => exact .inr ⟨i, item, found, holds⟩
  · rintro (holds | ⟨i, item, found, holds⟩)
    · exact ⟨0, first, rfl, holds⟩
    · exact ⟨i + 1, item, found, holds⟩

/-- What a dictionary holds under a key is one of its entries. -/
theorem mem_of_lookup {K : Type u} {V : Type w} [BEq K] [LawfulBEq K] {entries : List (K × V)}
    {k : K} {v : V} (found : entries.lookup k = some v) : (k, v) ∈ entries := by
  obtain ⟨before, after, rfl, _⟩ := List.lookup_eq_some_iff.mp found
  exact List.mem_append_right before List.mem_cons_self

section Writes

variable {K : Type u} {L : Type x} [DecidableEq K] [DecidableEq L]

/-- The value the last write to a key leaves there. -/
def latest (k : K) : List (K × V) → Option V
  | [] => none
  | (k', c) :: us => (latest k us).or (if k' = k then some c else none)

theorem latest_eq_none_iff (k : K) (us : List (K × V)) :
    latest k us = none ↔ ∀ u ∈ us, u.1 ≠ k := by
  induction us with
  | nil => simp [latest]
  | cons u us ih =>
    by_cases h : u.1 = k
    · cases hl : latest k us <;> simp [latest, h, hl]
    · simp [latest, h, ih]

theorem latest_isSome_iff (k : K) (us : List (K × V)) :
    (latest k us).isSome ↔ ∃ u ∈ us, u.1 = k := by
  rw [Option.isSome_iff_ne_none, ne_eq, latest_eq_none_iff]
  simp

/-- What was written last was written. -/
theorem mem_of_latest {k : K} {us : List (K × V)} {c : V} (h : latest k us = some c) :
    (k, c) ∈ us := by
  induction us with
  | nil => cases h
  | cons u us ih =>
    rw [latest] at h
    cases later : latest k us with
    | some d =>
      obtain rfl : d = c := by simpa [later] using h
      exact List.mem_cons_of_mem _ (ih later)
    | none =>
      obtain ⟨rfl, rfl⟩ : u.1 = k ∧ u.2 = c := by simpa [later] using h
      exact List.mem_cons_self

theorem latest_append (k : K) (us ws : List (K × V)) :
    latest k (us ++ ws) = (latest k ws).or (latest k us) := by
  induction us with
  | nil => simp [latest]
  | cons u us ih => simp [latest, ih, Option.or_assoc]

/-- Where no key is written twice, every write is the last one to its key. -/
theorem latest_of_nodup {us : List (K × V)} (once : (us.map Prod.fst).Nodup) {u : K × V}
    (h : u ∈ us) : latest u.1 us = some u.2 := by
  induction us with
  | nil => cases h
  | cons w us ih =>
    rw [List.map_cons, List.nodup_cons] at once
    rcases List.mem_cons.mp h with rfl | later
    · have unwritten : latest u.1 us = none := by
        rw [latest_eq_none_iff]
        exact fun w hw same => once.1 (List.mem_map.mpr ⟨w, hw, same⟩)
      simp [latest, unwritten]
    · simp [latest, ih once.2 later]

/-- Renaming the keys injectively renames what was written last. -/
theorem latest_map {r : K → L} (injective : Function.Injective r) (k : K)
    (us : List (K × V)) : latest (r k) (us.map fun u => (r u.1, u.2)) = latest k us := by
  induction us with
  | nil => rfl
  | cons u us ih => simp [latest, ih, injective.eq_iff]

end Writes

section Access
variable [DecidableEq N] [Named F N]

/-- The first attribute with the given name. -/
def attr? : List (F × Node F V) → N → Option (Node F V)
  | [], _ => none
  | (f, t) :: fs, n => if nameOf f = n then some t else attr? fs n

def modifyAttr (n : N) (g : Node F V → Node F V) : List (F × Node F V) → List (F × Node F V)
  | [] => []
  | (f, t) :: fs => if nameOf f = n then (f, g t) :: fs else (f, t) :: modifyAttr n g fs

namespace Node

def child? : Node F V → PathElement N → Option (Node F V)
  | .record fs, .attr n => attr? fs n
  | .items ts, .index i => ts[i]?
  | _, _ => none

def get? : Node F V → Path N → Option (Node F V)
  | t, [] => some t
  | t, e :: p => (t.child? e).bind (fun c => c.get? p)

def modifyChild : Node F V → PathElement N → (Node F V → Node F V) → Node F V
  | .record fs, .attr n, g => .record (modifyAttr n g fs)
  | .items ts, .index i, g => .items (ts.modify i g)
  | t, _, _ => t

/-- Replace the node a path leads to; a path that leads nowhere changes nothing. -/
def set (new : Node F V) : Path N → Node F V → Node F V
  | [], _ => new
  | e :: p, t => t.modifyChild e (set new p)

def content? : Node F V → Option V
  | .value c => some c
  | _ => none

def isRecord : Node F V → Bool
  | .record _ => true
  | _ => false

/-- The value at a leaf; `none` where the path leads to no leaf. -/
def valueAt (t : Node F V) (p : Path N) : Option V :=
  (t.get? p).bind content?

/-- A leaf path of the tree. -/
def IsLeaf (t : Node F V) (p : Path N) : Prop := (t.valueAt p).isSome

instance (t : Node F V) (p : Path N) : Decidable (t.IsLeaf p) :=
  inferInstanceAs (Decidable ((t.valueAt p).isSome = true))

/-- Write a value at a path. -/
def assign (t : Node F V) (p : Path N) (c : V) : Node F V := set (.value c) p t

/-- Write a sequence of values, in order. -/
def assignAll (t : Node F V) (us : List (Path N × V)) : Node F V :=
  us.foldl (fun t u => t.assign u.1 u.2) t

end Node

private theorem attr?_modifyAttr_self (fs : List (F × Node F V)) (n : N)
    (g : Node F V → Node F V) : attr? (modifyAttr n g fs) n = (attr? fs n).map g := by
  induction fs with
  | nil => rfl
  | cons a fs ih =>
    by_cases h : nameOf a.1 = n
    · simp [attr?, modifyAttr, h]
    · simp [attr?, modifyAttr, h, ih]

private theorem attr?_modifyAttr_ne (fs : List (F × Node F V)) {n m : N} (hne : n ≠ m)
    (g : Node F V → Node F V) : attr? (modifyAttr n g fs) m = attr? fs m := by
  induction fs with
  | nil => rfl
  | cons a fs ih =>
    by_cases h : nameOf a.1 = n
    · have hm : nameOf a.1 ≠ m := fun hm => hne (h.symm.trans hm)
      simp [attr?, modifyAttr, h, hne]
    · simp [attr?, modifyAttr, h, ih]

namespace Node

theorem child?_modifyChild_self (t : Node F V) (e : PathElement N) (g : Node F V → Node F V) :
    (t.modifyChild e g).child? e = (t.child? e).map g := by
  cases t with
  | value c => cases e <;> rfl
  | items ts => cases e <;> simp [modifyChild, child?]
  | record fs => cases e <;> simp [modifyChild, child?, attr?_modifyAttr_self]

theorem child?_modifyChild_ne (t : Node F V) {e e' : PathElement N} (hne : e ≠ e')
    (g : Node F V → Node F V) : (t.modifyChild e g).child? e' = t.child? e' := by
  cases t with
  | value c => cases e <;> rfl
  | items ts =>
    cases e with
    | attr n => rfl
    | index i =>
      cases e' with
      | attr n => rfl
      | index j =>
        have hij : i ≠ j := fun h => hne (congrArg PathElement.index h)
        simp [modifyChild, child?, hij]
  | record fs =>
    cases e with
    | index i => rfl
    | attr n =>
      cases e' with
      | index j => rfl
      | attr m => exact attr?_modifyAttr_ne fs (fun h => hne (congrArg PathElement.attr h)) g

@[simp] theorem content?_modifyChild (t : Node F V) (e : PathElement N)
    (g : Node F V → Node F V) : (t.modifyChild e g).content? = t.content? := by
  cases t <;> cases e <;> rfl

@[simp] theorem valueAt_nil (t : Node F V) : t.valueAt ([] : Path N) = t.content? := rfl

theorem valueAt_cons (t : Node F V) (e : PathElement N) (p : Path N) :
    t.valueAt (e :: p) = (t.child? e).bind (fun c => c.valueAt p) := by
  cases h : t.child? e <;> simp [valueAt, get?, h]

/-- Writing at a leaf leaves the written value there and every other leaf alone. -/
theorem valueAt_assign {t : Node F V} {p : Path N} (leaf : t.IsLeaf p) (c : V) (q : Path N) :
    (t.assign p c).valueAt q = if p = q then some c else t.valueAt q := by
  induction p generalizing t q with
  | nil =>
    cases t with
    | items ts => simp [IsLeaf, content?] at leaf
    | record fs => simp [IsLeaf, content?] at leaf
    | value d =>
      cases q with
      | nil => rfl
      | cons e q => cases e <;> simp [assign, set, valueAt_cons, child?]
  | cons e p ih =>
    simp only [IsLeaf, valueAt_cons] at leaf
    cases hc : t.child? e with
    | none => simp [hc] at leaf
    | some s =>
      rw [hc] at leaf
      cases q with
      | nil => simp [assign, set]
      | cons e' q =>
        simp only [assign, set, valueAt_cons]
        by_cases he : e = e'
        · subst he
          have step := ih (t := s) leaf q
          simp only [assign] at step
          simp [child?_modifyChild_self, hc, step]
        · simp [child?_modifyChild_ne t he, he]

theorem isLeaf_assign {t : Node F V} {p : Path N} (leaf : t.IsLeaf p) (c : V) (q : Path N) :
    (t.assign p c).IsLeaf q ↔ t.IsLeaf q := by
  unfold IsLeaf
  rw [valueAt_assign leaf]
  split
  · rename_i h
    subst h
    exact iff_of_true rfl leaf
  · exact Iff.rfl

/-- After a sequence of writes to leaves, a leaf holds the latest value written to it. -/
theorem valueAt_assignAll {t : Node F V} {us : List (Path N × V)}
    (leaves : ∀ u ∈ us, t.IsLeaf u.1) (q : Path N) :
    (t.assignAll us).valueAt q = (latest q us).or (t.valueAt q) := by
  induction us generalizing t with
  | nil => simp [assignAll, latest]
  | cons u us ih =>
    have first := leaves u List.mem_cons_self
    have rest : ∀ w ∈ us, (t.assign u.1 u.2).IsLeaf w.1 := fun w hw =>
      (isLeaf_assign first u.2 w.1).mpr (leaves w (List.mem_cons_of_mem u hw))
    have tail := ih rest
    simp only [assignAll, List.foldl_cons] at tail ⊢
    rw [tail, valueAt_assign first]
    cases h : latest q us with
    | some c => simp [latest, h]
    | none => by_cases he : u.1 = q <;> simp [latest, h, he]

theorem assignAll_append (t : Node F V) (us ws : List (Path N × V)) :
    t.assignAll (us ++ ws) = (t.assignAll us).assignAll ws := List.foldl_append

end Node

end Access

section Shape

mutual

/-- Apply a function to every value of the tree. -/
def Node.map (g : V → W) : Node F V → Node F W
  | .value c => .value (g c)
  | .items ts => .items (mapItems g ts)
  | .record fs => .record (mapFields g fs)

def mapItems (g : V → W) : List (Node F V) → List (Node F W)
  | [] => []
  | t :: ts => t.map g :: mapItems g ts

def mapFields (g : V → W) : List (F × Node F V) → List (F × Node F W)
  | [] => []
  | (f, t) :: fs => (f, t.map g) :: mapFields g fs

end

/-- The tree with its values forgotten. -/
def Node.shape (t : Node F V) : Node F Unit := t.map (fun _ => ())

theorem mapItems_eq (g : V → W) (ts : List (Node F V)) : mapItems g ts = ts.map (Node.map g) := by
  induction ts with
  | nil => rfl
  | cons t ts ih => simp [mapItems, ih]

@[simp] theorem length_mapItems (g : V → W) (ts : List (Node F V)) :
    (mapItems g ts).length = ts.length := by
  simp [mapItems_eq]

theorem mapFields_eq (g : V → W) (fs : List (F × Node F V)) :
    mapFields g fs = fs.map fun e => (e.1, e.2.map g) := by
  induction fs with
  | nil => rfl
  | cons a fs ih => simp [mapFields, ih]

/-- A tree of the shape of a record is a record with the same attributes. -/
theorem exists_field_of_shape {fs : List (F × Node F V)} {u : Node F V}
    (same : (Node.record fs).shape = u.shape) : ∃ fs', u = .record fs' ∧
      ∀ (f : F) (t : Node F V), (f, t) ∈ fs →
        ∃ t' : Node F V, (f, t') ∈ fs' ∧ t.shape = t'.shape := by
  cases u with
  | value c => simp [Node.shape, Node.map] at same
  | items ts => simp [Node.shape, Node.map] at same
  | record fs' =>
    simp only [Node.shape, Node.map, Node.record.injEq, mapFields_eq] at same
    refine ⟨fs', rfl, fun f t member => ?_⟩
    have listed := List.mem_map_of_mem (f := fun e => (e.1, e.2.map fun _ => ())) member
    rw [same] at listed
    obtain ⟨⟨f', t'⟩, member', pair⟩ := List.mem_map.mp listed
    obtain ⟨rfl, shapes⟩ := Prod.mk.inj pair
    exact ⟨t', member', shapes.symm⟩

/-- A tree of the shape of a list is a list of as many items. -/
theorem exists_item_of_shape {ts : List (Node F V)} {u : Node F V}
    (same : (Node.items ts : Node F V).shape = u.shape) : ∃ ts', u = .items ts' ∧
      ∀ (i : Nat) (t : Node F V), ts[i]? = some t →
        ∃ t' : Node F V, ts'[i]? = some t' ∧ t.shape = t'.shape := by
  cases u with
  | value c => simp [Node.shape, Node.map] at same
  | record fs => simp [Node.shape, Node.map] at same
  | items ts' =>
    simp only [Node.shape, Node.map, Node.items.injEq, mapItems_eq] at same
    refine ⟨ts', rfl, fun i t found => ?_⟩
    have shapes := congrArg (·[i]?) same
    simp only [List.getElem?_map, found, Option.map_some] at shapes
    obtain ⟨t', found', shape⟩ := Option.map_eq_some_iff.mp shapes.symm
    exact ⟨t', found', shape.symm⟩

variable [DecidableEq N] [Named F N]

private theorem attr?_mapFields (g : V → W) (fs : List (F × Node F V)) (n : N) :
    attr? (mapFields g fs) n = (attr? fs n).map (Node.map g) := by
  induction fs with
  | nil => rfl
  | cons a fs ih =>
    by_cases h : nameOf a.1 = n <;> simp [mapFields, attr?, h, ih]

namespace Node

theorem child?_map (g : V → W) (t : Node F V) (e : PathElement N) :
    (t.map g).child? e = (t.child? e).map (Node.map g) := by
  cases t with
  | value c => cases e <;> rfl
  | items ts => cases e <;> simp [Node.map, child?, mapItems_eq]
  | record fs => cases e <;> simp [Node.map, child?, attr?_mapFields]

theorem get?_map (g : V → W) (t : Node F V) (p : Path N) :
    (t.map g).get? p = (t.get? p).map (Node.map g) := by
  induction p generalizing t with
  | nil => rfl
  | cons e p ih =>
    rw [get?, get?, child?_map]
    cases t.child? e with
    | none => rfl
    | some s => exact ih s

theorem valueAt_map (g : V → W) (t : Node F V) (p : Path N) :
    (t.map g).valueAt p = (t.valueAt p).map g := by
  rw [valueAt, valueAt, get?_map]
  cases t.get? p with
  | none => rfl
  | some s => cases s <;> rfl

theorem isLeaf_shape (t : Node F V) (p : Path N) : t.shape.IsLeaf p ↔ t.IsLeaf p := by
  simp [IsLeaf, shape, valueAt_map]

private theorem mapFields_modifyAttr (g : V → W) (n : N) {k : Node F V → Node F V}
    {k' : Node F W → Node F W} {fs : List (F × Node F V)}
    (hk : ∀ t, attr? fs n = some t → (k t).map g = k' (t.map g)) :
    mapFields g (modifyAttr n k fs) = modifyAttr n k' (mapFields g fs) := by
  induction fs with
  | nil => rfl
  | cons a fs ih =>
    by_cases h : nameOf a.1 = n
    · have hh := hk a.2 (by simp [attr?, h])
      simp [modifyAttr, mapFields, h, hh]
    · have hh := ih (fun t ht => hk t (by simpa [attr?, h] using ht))
      simp [modifyAttr, mapFields, h, hh]

private theorem modifyAttr_of_fixed {n : N} {k : Node F V → Node F V} {fs : List (F × Node F V)}
    (hk : ∀ t, attr? fs n = some t → k t = t) : modifyAttr n k fs = fs := by
  induction fs with
  | nil => rfl
  | cons a fs ih =>
    by_cases h : nameOf a.1 = n
    · have hh := hk a.2 (by simp [attr?, h])
      simp [modifyAttr, h, hh]
    · have hh := ih (fun t ht => hk t (by simpa [attr?, h] using ht))
      simp [modifyAttr, h, hh]

private theorem modifyChild_of_fixed {t : Node F V} {e : PathElement N}
    {k : Node F V → Node F V} (hk : ∀ s, t.child? e = some s → k s = s) :
    t.modifyChild e k = t := by
  cases t with
  | value c => cases e <;> rfl
  | items ts =>
    cases e with
    | attr n => rfl
    | index i =>
      have same : ts.modify i k = ts := by
        apply List.ext_getElem? fun j => ?_
        rw [List.getElem?_modify]
        split
        · rename_i h
          subst h
          cases hj : ts[i]? with
          | none => rfl
          | some s => simp [hk s hj]
        · simp
      simp [modifyChild, same]
  | record fs =>
    cases e with
    | index i => rfl
    | attr n =>
      have same : modifyAttr n k fs = fs := modifyAttr_of_fixed hk
      simp [modifyChild, same]

private theorem map_modifyChild (g : V → W) {t : Node F V} {e : PathElement N}
    {k : Node F V → Node F V} {k' : Node F W → Node F W}
    (hk : ∀ s, t.child? e = some s → (k s).map g = k' (s.map g)) :
    (t.modifyChild e k).map g = (t.map g).modifyChild e k' := by
  cases t with
  | value c => cases e <;> rfl
  | items ts =>
    cases e with
    | attr n => rfl
    | index i =>
      simp only [modifyChild, Node.map, mapItems_eq]
      congr 1
      apply List.ext_getElem? fun j => ?_
      simp only [List.getElem?_map, List.getElem?_modify]
      by_cases h : i = j
      · subst h
        cases hj : ts[i]? with
        | none => simp
        | some s => simp [hk s hj]
      · simp [h]
  | record fs =>
    cases e with
    | index i => rfl
    | attr n =>
      simp only [modifyChild, Node.map]
      rw [mapFields_modifyAttr g n hk]

/-- Writing at a leaf a content with the same image keeps the image of the tree. -/
theorem map_assign {g : V → W} {t : Node F V} {p : Path N} (leaf : t.IsLeaf p) {c : V}
    (same : ∀ d, t.valueAt p = some d → g c = g d) : (t.assign p c).map g = t.map g := by
  induction p generalizing t with
  | nil =>
    cases t with
    | value d => exact congrArg Node.value (same d rfl)
    | items ts => simp [IsLeaf, content?] at leaf
    | record fs => simp [IsLeaf, content?] at leaf
  | cons e p ih =>
    have below : ∀ s, t.child? e = some s → (set (.value c) p s).map g = s.map g := by
      intro s hs
      exact ih (by simpa [IsLeaf, valueAt_cons, hs] using leaf)
        (fun d hd => same d (by simpa [valueAt_cons, hs] using hd))
    have lifted : (t.modifyChild e (set (.value c) p)).map g = (t.map g).modifyChild e id :=
      map_modifyChild g below
    exact lifted.trans (modifyChild_of_fixed fun s _ => rfl)

/-- Writing at a leaf keeps the shape of the tree. -/
theorem shape_assign {t : Node F V} {p : Path N} (leaf : t.IsLeaf p) (c : V) :
    (t.assign p c).shape = t.shape :=
  map_assign leaf fun _ _ => rfl

theorem shape_assignAll {t : Node F V} {us : List (Path N × V)}
    (leaves : ∀ u ∈ us, t.IsLeaf u.1) : (t.assignAll us).shape = t.shape := by
  induction us generalizing t with
  | nil => rfl
  | cons u us ih =>
    have first := leaves u List.mem_cons_self
    have rest : ∀ w ∈ us, (t.assign u.1 u.2).IsLeaf w.1 := fun w hw =>
      (isLeaf_assign first u.2 w.1).mpr (leaves w (List.mem_cons_of_mem u hw))
    exact (ih rest).trans (shape_assign first u.2)

/-- Every leaf holds what the condition allows at its place. -/
def Obeys (K : Path N → V → Prop) (t : Node F V) : Prop := ∀ p c, t.valueAt p = some c → K p c

theorem Obeys.assign {K : Path N → V → Prop} {t : Node F V} (obeys : t.Obeys K) {p : Path N}
    (leaf : t.IsLeaf p) {c : V} (allowed : K p c) : (t.assign p c).Obeys K := by
  intro q d held
  rw [valueAt_assign leaf c q] at held
  split at held
  · rename_i same
    obtain rfl := Option.some.inj held
    exact same ▸ allowed
  · exact obeys q d held

/-- Allowed writes to leaves keep a condition, and keep an image of the tree that the
condition determines. -/
theorem Obeys.assignAll {K : Path N → V → Prop} {g : V → W}
    (determined : ∀ p c d, K p c → K p d → g c = g d) {us : List (Path N × V)} :
    ∀ {t : Node F V}, t.Obeys K → (∀ u ∈ us, t.IsLeaf u.1 ∧ K u.1 u.2) →
      (t.assignAll us).Obeys K ∧ (t.assignAll us).map g = t.map g := by
  induction us with
  | nil => exact fun obeys _ => ⟨obeys, rfl⟩
  | cons u us ih =>
    intro t obeys writes
    obtain ⟨leaf, allowed⟩ := writes u List.mem_cons_self
    have rest : ∀ w ∈ us, (t.assign u.1 u.2).IsLeaf w.1 ∧ K w.1 w.2 := by
      intro w hw
      obtain ⟨leaf', allowed'⟩ := writes w (List.mem_cons_of_mem u hw)
      exact ⟨(isLeaf_assign leaf u.2 w.1).mpr leaf', allowed'⟩
    obtain ⟨kept, image⟩ := ih (obeys.assign leaf allowed) rest
    have first : (t.assign u.1 u.2).map g = t.map g :=
      map_assign leaf fun d held => determined u.1 u.2 d allowed (obeys u.1 d held)
    exact ⟨kept, image.trans first⟩

end Node
end Shape

section Leaves

variable [Named F N]

mutual

/-- The leaf paths of a tree, in declaration order. -/
def Node.leaves : Node F V → List (Path N)
  | .value _ => [[]]
  | .items ts => itemLeaves 0 ts
  | .record fs => fieldLeaves fs
termination_by structural t => t

def fieldLeaves : List (F × Node F V) → List (Path N)
  | [] => []
  | (f, t) :: fs => t.leaves.map (.attr (nameOf f) :: ·) ++ fieldLeaves fs
termination_by structural fs => fs

def itemLeaves (index : Nat) : List (Node F V) → List (Path N)
  | [] => []
  | t :: ts => t.leaves.map (.index index :: ·) ++ itemLeaves (index + 1) ts
termination_by structural ts => ts

end

/-- A leaf path of a record starts with the name of one of its attributes. -/
theorem attr_of_mem_fieldLeaves {fs : List (F × Node F V)} {p : Path N}
    (h : p ∈ fieldLeaves fs) : ∃ e ∈ fs, ∃ q, p = .attr (nameOf e.1) :: q := by
  induction fs with
  | nil => simp [fieldLeaves] at h
  | cons e fs ih =>
    rw [fieldLeaves, List.mem_append] at h
    rcases h with here | later
    · obtain ⟨q, _, rfl⟩ := List.mem_map.mp here
      exact ⟨e, List.mem_cons_self, q, rfl⟩
    · obtain ⟨e', he, q, rfl⟩ := ih later
      exact ⟨e', List.mem_cons_of_mem e he, q, rfl⟩

/-- A leaf path of a list starts with a position in it. -/
theorem index_of_mem_itemLeaves {ts : List (Node F V)} {index : Nat} {p : Path N}
    (h : p ∈ itemLeaves index ts) : ∃ i q, index ≤ i ∧ p = .index i :: q := by
  induction ts generalizing index with
  | nil => simp [itemLeaves] at h
  | cons t ts ih =>
    rw [itemLeaves, List.mem_append] at h
    rcases h with here | later
    · obtain ⟨q, _, rfl⟩ := List.mem_map.mp here
      exact ⟨index, q, Nat.le_refl index, rfl⟩
    · obtain ⟨i, q, hi, rfl⟩ := ih later
      exact ⟨i, q, Nat.le_of_succ_le hi, rfl⟩

theorem nodup_fieldLeaves_cons {f : F} {t : Node F V} {fs : List (F × Node F V)}
    (apart : ∀ e ∈ fs, nameOf e.1 ≠ nameOf f) (here : t.leaves.Nodup)
    (later : (fieldLeaves fs).Nodup) : (fieldLeaves ((f, t) :: fs)).Nodup := by
  rw [fieldLeaves, List.nodup_append]
  refine ⟨List.Pairwise.map _ (fun _ _ ne same => ne (List.tail_eq_of_cons_eq same)) here,
    later, ?_⟩
  rintro p hp q hq rfl
  obtain ⟨r, _, rfl⟩ := List.mem_map.mp hp
  obtain ⟨e, he, q, same⟩ := attr_of_mem_fieldLeaves hq
  exact apart e he (by simpa using (List.head_eq_of_cons_eq same).symm)

theorem nodup_itemLeaves_cons {t : Node F V} {ts : List (Node F V)} {index : Nat}
    (here : t.leaves.Nodup) (later : (itemLeaves (index + 1) ts).Nodup) :
    (itemLeaves index (t :: ts)).Nodup := by
  rw [itemLeaves, List.nodup_append]
  refine ⟨List.Pairwise.map _ (fun _ _ ne same => ne (List.tail_eq_of_cons_eq same)) here,
    later, ?_⟩
  rintro p hp q hq rfl
  obtain ⟨r, _, rfl⟩ := List.mem_map.mp hp
  obtain ⟨i, q, hi, same⟩ := index_of_mem_itemLeaves hq
  have position : index = i := by simpa using List.head_eq_of_cons_eq same
  omega

private theorem mem_itemLeaves_of_getElem? {ts : List (Node F V)} {i : Nat} {t : Node F V}
    (h : ts[i]? = some t) {p : Path N} (hp : p ∈ t.leaves) (first : Nat) :
    .index (first + i) :: p ∈ itemLeaves first ts := by
  induction ts generalizing i first with
  | nil => simp at h
  | cons s ts ih =>
    rw [itemLeaves, List.mem_append]
    cases i with
    | zero =>
      obtain rfl : s = t := by simpa using h
      exact .inl (List.mem_map.mpr ⟨p, hp, rfl⟩)
    | succ i =>
      have later := ih (by simpa using h) (first + 1)
      rw [Nat.add_right_comm] at later
      exact .inr later

section Access

variable [DecidableEq N]

private theorem mem_fieldLeaves_of_attr? {fs : List (F × Node F V)} {n : N} {t : Node F V}
    (h : attr? fs n = some t) {p : Path N} (hp : p ∈ t.leaves) :
    .attr n :: p ∈ fieldLeaves fs := by
  induction fs with
  | nil => simp [attr?] at h
  | cons e fs ih =>
    rw [fieldLeaves, List.mem_append]
    by_cases here : nameOf e.1 = n
    · obtain rfl : e.2 = t := by simpa [attr?, here] using h
      exact .inl (List.mem_map.mpr ⟨p, hp, by rw [here]⟩)
    · exact .inr (ih (by simpa [attr?, here] using h))

/-- Every leaf path is listed. -/
theorem Node.mem_leaves_of_isLeaf {t : Node F V} {p : Path N} (leaf : t.IsLeaf p) :
    p ∈ t.leaves := by
  induction p generalizing t with
  | nil =>
    cases t with
    | value c => simp [leaves]
    | items ts => simp [IsLeaf, content?] at leaf
    | record fs => simp [IsLeaf, content?] at leaf
  | cons e p ih =>
    rw [IsLeaf, valueAt_cons] at leaf
    cases hc : t.child? e with
    | none => simp [hc] at leaf
    | some s =>
      have below : p ∈ s.leaves := ih (by simpa [IsLeaf, hc] using leaf)
      cases t with
      | value c => cases e <;> simp [child?] at hc
      | items ts =>
        cases e with
        | attr n => simp [child?] at hc
        | index i =>
          have listed := mem_itemLeaves_of_getElem? (by simpa [child?] using hc) below 0
          rw [Nat.zero_add] at listed
          simpa [leaves] using listed
      | record fs =>
        cases e with
        | index i => simp [child?] at hc
        | attr n =>
          have listed := mem_fieldLeaves_of_attr? (by simpa [child?] using hc) below
          simpa [leaves] using listed

end Access

end Leaves

end MarstekBle.Lib.AttributeTree
