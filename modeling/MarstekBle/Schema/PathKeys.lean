/- module: Schema/PathKeys
   source: custom_components/marstek_ble/schema.py
   digest: Dotted path strings name one leaf each. -/

import MarstekBle.Schema.Model

set_option autoImplicit false
set_option relaxedAutoImplicit false

namespace MarstekBle.Schema

open MarstekBle.Data MarstekBle.Lib.AttributeTree

universe u v

variable {V : Type u} {W : Type v}

/-- A nonempty name without dots that does not start with a digit. -/
def plainName (name : String) : Bool :=
  match name.toList with
  | [] => false
  | c :: cs => !c.isDigit && !(c :: cs).contains '.'

def plainElement : PathElement String → Bool
  | .attr name => plainName name
  | .index _ => true

private theorem not_dot_of_plainName {name : String} (h : plainName name = true) :
    '.' ∉ name.toList := by
  unfold plainName at h
  split at h
  · cases h
  · rename_i c cs hcs
    rw [Bool.and_eq_true] at h
    rw [hcs]
    simpa using h.2

private theorem digit_of_mem_repr {n : Nat} {c : Char} (h : c ∈ (Nat.repr n).toList) :
    c.isDigit = true := by
  rw [Nat.toList_repr] at h
  exact Nat.isDigit_of_mem_toDigits (by decide) (by decide) h

theorem not_dot_of_plain {e : PathElement String} (h : plainElement e = true) :
    '.' ∉ (partString e).toList := by
  cases e with
  | attr name => exact not_dot_of_plainName h
  | index i => exact fun dot => absurd (digit_of_mem_repr dot) (by decide)

private theorem repr_injective {m n : Nat} (h : Nat.repr m = Nat.repr n) : m = n := by
  have digits := congrArg String.toList h
  rw [Nat.toList_repr, Nat.toList_repr] at digits
  have value := congrArg (fun cs => Nat.ofDigitChars 10 cs 0) digits
  simpa only [Nat.ofDigitChars_ten_toDigits] using value

private theorem repr_ne_plain {name : String} (h : plainName name = true) (i : Nat) :
    name ≠ Nat.repr i := by
  rintro rfl
  unfold plainName at h
  split at h
  · cases h
  · rename_i c cs hcs
    have digit : c.isDigit = true := digit_of_mem_repr (hcs ▸ List.mem_cons_self)
    simp [digit] at h

theorem partString_injective {e e' : PathElement String} (h : plainElement e = true)
    (h' : plainElement e' = true) (same : partString e = partString e') : e = e' := by
  cases e with
  | attr name =>
    cases e' with
    | attr name' => exact congrArg PathElement.attr same
    | index i => exact absurd same (repr_ne_plain h i)
  | index i =>
    cases e' with
    | attr name' => exact absurd same.symm (repr_ne_plain h' i)
    | index j => exact congrArg PathElement.index (repr_injective same)

private theorem toList_pathString (path : DataPath) :
    (pathString path).toList = ['.'].intercalate (path.map fun e => (partString e).toList) := by
  rw [pathString, String.toList_intercalate]
  simp [Function.comp_def]

/-- Distinct nonempty paths of plain elements have distinct strings. -/
theorem pathString_injective {p q : DataPath} (hp : p.all plainElement = true)
    (hq : q.all plainElement = true) (pne : p ≠ []) (qne : q ≠ [])
    (same : pathString p = pathString q) : p = q := by
  have split : ∀ path : DataPath, path.all plainElement = true → path ≠ [] →
      (pathString path).toList.splitOn '.' = path.map fun e => (partString e).toList := by
    intro path plain ne
    rw [toList_pathString]
    refine List.splitOn_intercalate '.' ?_ (by simpa using ne)
    intro part hpart
    obtain ⟨e, he, rfl⟩ := List.mem_map.mp hpart
    exact not_dot_of_plain (List.all_eq_true.mp plain e he)
  have parts : p.map (fun e => (partString e).toList) = q.map fun e => (partString e).toList := by
    rw [← split p hp pne, ← split q hq qne, same]
  clear same split pne qne
  induction p generalizing q with
  | nil => cases q with
    | nil => rfl
    | cons e q => simp at parts
  | cons e p ih => cases q with
    | nil => simp at parts
    | cons e' q =>
      simp only [List.map_cons, List.cons.injEq, String.toList_inj] at parts
      simp only [List.all_cons, Bool.and_eq_true] at hp hq
      rw [partString_injective hp.1 hq.1 parts.1, ih hp.2 hq.2 parts.2]

theorem dot_mem_pathString {p : DataPath} (h : 2 ≤ p.length) : '.' ∈ (pathString p).toList := by
  match p, h with
  | e :: e' :: p, _ =>
    rw [toList_pathString]
    simp [List.intercalate]

mutual

/-- Every attribute name of the tree is plain. -/
def plainNames : Node FieldDef V → Bool
  | .value _ => true
  | .items members => plainItems members
  | .record fields => plainFields fields
termination_by structural result => result

def plainFields : List (FieldDef × Node FieldDef V) → Bool
  | [] => true
  | (field, current) :: rest =>
    plainName field.name && plainNames current && plainFields rest
termination_by structural fields => fields

def plainItems : List (Node FieldDef V) → Bool
  | [] => true
  | item :: rest => plainNames item && plainItems rest
termination_by structural items => items

end

private theorem plainNames_map (g : V → W) (t : Node FieldDef V) :
    plainNames (t.map g) = plainNames t := by
  refine Node.induct (P := fun t => plainNames (t.map g) = plainNames t)
    (Q := fun fs => plainFields (mapFields g fs) = plainFields fs)
    (R := fun ts => plainItems (mapItems g ts) = plainItems ts)
    ?value ?items ?record ?noFields ?field ?noItems ?item t
  case value => exact fun _ => rfl
  case items => exact fun _ hts => hts
  case record => exact fun _ hfs => hfs
  case noFields => rfl
  case field => exact fun f t fs ht hfs => by rw [mapFields, plainFields, plainFields, ht, hfs]
  case noItems => rfl
  case item => exact fun t ts ht hts => by rw [mapItems, plainItems, plainItems, ht, hts]

/-- Plainness of the names is a matter of shape. -/
theorem plainNames_congr {t s : Node FieldDef V} (same : t.shape = s.shape) :
    plainNames t = plainNames s := by
  have left := plainNames_map (fun _ => ()) t
  have right := plainNames_map (fun _ => ()) s
  exact left.symm.trans ((congrArg plainNames same).trans right)

theorem plain_of_mem {fs : List (FieldDef × Node FieldDef V)} {field : FieldDef}
    {current : Node FieldDef V} (plain : plainFields fs = true) (member : (field, current) ∈ fs) :
    plainName field.name = true ∧ plainNames current = true := by
  induction fs with
  | nil => cases member
  | cons e fs ih =>
    obtain ⟨first, content⟩ := e
    simp only [plainFields, Bool.and_eq_true] at plain
    rcases List.mem_cons.mp member with same | later
    · obtain ⟨rfl, rfl⟩ := Prod.mk.inj same
      exact plain.1
    · exact ih plain.2 later

theorem plain_of_attr? {fs : List (FieldDef × Node FieldDef V)} {name : String}
    {child : Node FieldDef V} (plain : plainFields fs = true) (h : attr? fs name = some child) :
    plainName name = true ∧ plainNames child = true := by
  induction fs with
  | nil => simp [attr?] at h
  | cons a fs ih =>
    obtain ⟨field, current⟩ := a
    simp only [plainFields, Bool.and_eq_true] at plain
    by_cases hn : field.name = name
    · obtain rfl : current = child := by simpa [attr?, nameOf, hn] using h
      exact ⟨hn ▸ plain.1.1, plain.1.2⟩
    · exact ih plain.2 (by simpa [attr?, nameOf, hn] using h)

theorem plain_of_getElem? {ts : List (Node FieldDef V)} {i : Nat}
    {child : Node FieldDef V} (plain : plainItems ts = true) (h : ts[i]? = some child) :
    plainNames child = true := by
  induction ts generalizing i with
  | nil => simp at h
  | cons t ts ih =>
    simp only [plainItems, Bool.and_eq_true] at plain
    cases i with
    | zero =>
      obtain rfl : t = child := by simpa using h
      exact plain.1
    | succ i => exact ih plain.2 (by simpa using h)

theorem plain_of_isLeaf {t : Node FieldDef V} (plain : plainNames t = true) {p : DataPath}
    (leaf : t.IsLeaf p) : p.all plainElement = true := by
  induction p generalizing t with
  | nil => rfl
  | cons e p ih =>
    simp only [Node.IsLeaf, Node.valueAt_cons] at leaf
    cases hc : t.child? e with
    | none => simp [hc] at leaf
    | some child =>
      rw [hc] at leaf
      have below : plainElement e = true ∧ plainNames child = true := by
        cases t with
        | value c => cases e <;> simp [Node.child?] at hc
        | items ts =>
          cases e with
          | attr name => simp [Node.child?] at hc
          | index i => exact ⟨rfl, plain_of_getElem? plain hc⟩
        | record fs =>
          cases e with
          | index i => simp [Node.child?] at hc
          | attr name => exact plain_of_attr? plain hc
      simp only [List.all_cons, Bool.and_eq_true]
      exact ⟨below.1, ih below.2 leaf⟩

/-- No attribute of the record is itself a value. -/
def nestedOnly (fields : List (FieldDef × Node FieldDef V)) : Bool :=
  fields.all fun e => e.2.content?.isNone

private theorem content?_of_attr? {fields : List (FieldDef × Node FieldDef V)} {name : String}
    {child : Node FieldDef V} (nested : nestedOnly fields = true)
    (h : attr? fields name = some child) : child.content? = none := by
  induction fields with
  | nil => simp [attr?] at h
  | cons a fields ih =>
    simp only [nestedOnly, List.all_cons, Bool.and_eq_true, Option.isNone_iff_eq_none] at nested
    by_cases hn : nameOf a.1 = name
    · obtain rfl : a.2 = child := by simpa [attr?, hn] using h
      exact nested.1
    · exact ih nested.2 (by simpa [attr?, hn] using h)

/-- Where the outermost record holds no value itself, leaf paths have two elements at least. -/
theorem two_le_of_isLeaf (fields : List (FieldDef × Node FieldDef V))
    (nested : nestedOnly fields = true) {p : DataPath}
    (leaf : (Node.record fields).IsLeaf p) : 2 ≤ p.length := by
  match p, leaf with
  | [], leaf => simp [Node.IsLeaf, Node.content?] at leaf
  | [.index i], leaf => simp [Node.IsLeaf, Node.valueAt_cons, Node.child?] at leaf
  | [.attr name], leaf =>
    simp only [Node.IsLeaf, Node.valueAt_cons, Node.child?, Node.valueAt_nil] at leaf
    cases h : attr? fields name with
    | none => simp [h] at leaf
    | some child => simp [h, content?_of_attr? nested h] at leaf
  | _ :: _ :: _, _ => simp

/-- A leaf's string names that leaf only. -/
theorem leafKey_injective (fields : List (FieldDef × Node FieldDef V))
    (plain : plainFields fields = true) (nested : nestedOnly fields = true) {p q : DataPath}
    (leafP : (Node.record fields).IsLeaf p) (leafQ : (Node.record fields).IsLeaf q)
    (same : pathString p = pathString q) : p = q := by
  have longP := two_le_of_isLeaf fields nested leafP
  have longQ := two_le_of_isLeaf fields nested leafQ
  refine pathString_injective (plain_of_isLeaf (t := .record fields) plain leafP)
    (plain_of_isLeaf (t := .record fields) plain leafQ) ?_ ?_ same
  · rintro rfl
    simp at longP
  · rintro rfl
    simp at longQ

end MarstekBle.Schema
