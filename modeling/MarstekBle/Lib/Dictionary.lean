/- module: Lib/Dictionary
   digest: Dictionaries that keep the order in which their keys were first stored. -/

import Mathlib.Data.List.Nodup
import MarstekBle.Lib.Occurrences

set_option autoImplicit false
set_option relaxedAutoImplicit false

namespace MarstekBle.Lib.Dictionary

open MarstekBle.Lib.AttributeTree

universe u v w

variable {K : Type u} {V : Type v} {W : Type w} [DecidableEq K]

/-- `dictionary[key] = value`: a known key keeps its place. -/
def store (dictionary : List (K × V)) (key : K) (value : V) : List (K × V) :=
  if key ∈ dictionary.map Prod.fst then
    dictionary.map fun e => if e.1 = key then (key, value) else e
  else dictionary ++ [(key, value)]

/-- The dictionary that a sequence of writes leaves. -/
def stored (writes : List (K × V)) : List (K × V) :=
  writes.foldl (fun dictionary e => store dictionary e.1 e.2) []

theorem stored_snoc (writes : List (K × V)) (e : K × V) :
    stored (writes ++ [e]) = store (stored writes) e.1 e.2 := by
  rw [stored, List.foldl_append]
  rfl

theorem keys_store (dictionary : List (K × V)) (key : K) (value : V) :
    (store dictionary key value).map Prod.fst =
      if key ∈ dictionary.map Prod.fst then dictionary.map Prod.fst
      else dictionary.map Prod.fst ++ [key] := by
  unfold store
  split
  · rw [List.map_map]
    apply List.map_congr_left
    intro e _
    by_cases same : e.1 = key
    · simp [same]
    · simp [same]
  · rw [List.map_append]
    rfl

theorem nodup_keys_store {dictionary : List (K × V)} (once : (dictionary.map Prod.fst).Nodup)
    (key : K) (value : V) : ((store dictionary key value).map Prod.fst).Nodup := by
  rw [keys_store]
  split
  · exact once
  · rename_i unknown
    rw [← List.concat_eq_append]
    exact List.Nodup.concat unknown once

/-- The keys stand in the order of their first writes. -/
theorem keys_stored (writes : List (K × V)) :
    (stored writes).map Prod.fst = firstsFrom [] (writes.map Prod.fst) := by
  induction writes using List.reverseRecOn with
  | nil => rfl
  | append_singleton writes e ih =>
    rw [stored_snoc, keys_store, ih, List.map_append, List.map_singleton, firstsFrom_snoc]

theorem nodup_keys_stored (writes : List (K × V)) : ((stored writes).map Prod.fst).Nodup := by
  rw [keys_stored]
  exact nodup_firstsFrom _

theorem mem_store_iff (dictionary : List (K × V)) (key : K) (value : V) (e : K × V) :
    e ∈ store dictionary key value ↔ e = (key, value) ∨ e ∈ dictionary ∧ e.1 ≠ key := by
  unfold store
  split
  · rename_i known
    rw [List.mem_map]
    constructor
    · rintro ⟨old, listed, rfl⟩
      by_cases same : old.1 = key
      · exact .inl (if_pos same)
      · rw [if_neg same]
        exact .inr ⟨listed, same⟩
    · rintro (rfl | ⟨listed, other⟩)
      · obtain ⟨old, listed, same⟩ := List.mem_map.mp known
        exact ⟨old, listed, if_pos same⟩
      · exact ⟨e, listed, if_neg other⟩
  · rename_i unknown
    rw [List.mem_append, List.mem_singleton, or_comm]
    apply or_congr_right
    refine (and_iff_left_of_imp fun listed same => unknown ?_).symm
    exact same ▸ List.mem_map_of_mem listed

/-- An entry holds the value written last under its key. -/
theorem mem_stored_iff (writes : List (K × V)) (key : K) (value : V) :
    (key, value) ∈ stored writes ↔ latest key writes = some value := by
  induction writes using List.reverseRecOn with
  | nil => simp [stored, latest]
  | append_singleton writes e ih =>
    rw [stored_snoc, mem_store_iff, ih, latest_append]
    by_cases same : e.1 = key
    · subst same
      simp [latest, Prod.ext_iff, eq_comm]
    · have other : key ≠ e.1 := fun h => same h.symm
      simp [latest, Prod.ext_iff, same, other]

theorem store_of_not_mem {dictionary : List (K × V)} {key : K} (value : V)
    (unknown : key ∉ dictionary.map Prod.fst) :
    store dictionary key value = dictionary ++ [(key, value)] := if_neg unknown

/-- Writes to different keys are the dictionary. -/
theorem stored_of_nodup {writes : List (K × V)} (once : (writes.map Prod.fst).Nodup) :
    stored writes = writes := by
  induction writes using List.reverseRecOn with
  | nil => rfl
  | append_singleton writes e ih =>
    rw [List.map_append, List.nodup_append] at once
    obtain ⟨before, _, apart⟩ := once
    have unknown : e.1 ∉ (stored writes).map Prod.fst := by
      rw [ih before]
      exact fun known => apart _ known _ (List.mem_singleton.mpr rfl) rfl
    rw [stored_snoc, store_of_not_mem _ unknown, ih before]

private theorem store_cons_of_ne {e : K × V} {key : K} (other : e.1 ≠ key)
    (dictionary : List (K × V)) (value : V) :
    store (e :: dictionary) key value = e :: store dictionary key value := by
  have elsewhere : key ∈ (e :: dictionary).map Prod.fst ↔ key ∈ dictionary.map Prod.fst := by
    rw [List.map_cons, List.mem_cons, or_iff_right fun same => other same.symm]
  unfold store
  by_cases known : key ∈ dictionary.map Prod.fst
  · rw [if_pos (elsewhere.mpr known), if_pos known, List.map_cons, if_neg other]
  · rw [if_neg (mt elsewhere.mp known), if_neg known, List.cons_append]

/-- An entry whose key is not stored again stays first. -/
theorem stored_cons {e : K × V} {writes : List (K × V)} (absent : e.1 ∉ writes.map Prod.fst) :
    stored (e :: writes) = e :: stored writes := by
  induction writes using List.reverseRecOn with
  | nil => rfl
  | append_singleton writes last ih =>
    rw [List.map_append, List.mem_append, not_or] at absent
    have other : e.1 ≠ last.1 := fun same => absent.2 (List.mem_singleton.mpr same)
    rw [← List.cons_append, stored_snoc, stored_snoc, ih absent.1, store_cons_of_ne other]

/-! ### Look-up -/

theorem lookup_eq_some_iff {K : Type u} [BEq K] [LawfulBEq K] {dictionary : List (K × V)}
    (once : (dictionary.map Prod.fst).Nodup) (key : K) (value : V) :
    dictionary.lookup key = some value ↔ (key, value) ∈ dictionary := by
  induction dictionary with
  | nil => simp
  | cons e dictionary ih =>
    obtain ⟨name, first⟩ := e
    rw [List.map_cons, List.nodup_cons] at once
    rw [List.lookup_cons, List.mem_cons]
    by_cases same : key = name
    · subst same
      have absent : (key, value) ∉ dictionary := fun h =>
        once.1 (List.mem_map.mpr ⟨(key, value), h, rfl⟩)
      simp [absent, eq_comm]
    · have other : (key == name) = false := by simpa using same
      rw [other, ih once.2]
      simp [same]

theorem lookup_stored [BEq K] [LawfulBEq K] (writes : List (K × V)) (key : K) :
    (stored writes).lookup key = latest key writes := by
  apply Option.ext
  intro value
  rw [lookup_eq_some_iff (nodup_keys_stored writes), mem_stored_iff]

/-- Renaming the keys apart does not change what is found. -/
theorem lookup_map_keys {K : Type u} {L : Type w} [BEq K] [LawfulBEq K] [BEq L] [LawfulBEq L]
    {rename : K → L} (injective : Function.Injective rename) (dictionary : List (K × V)) (key : K) :
    (dictionary.map fun e => (rename e.1, e.2)).lookup (rename key) = dictionary.lookup key := by
  induction dictionary with
  | nil => rfl
  | cons e dictionary ih =>
    obtain ⟨name, value⟩ := e
    rw [List.map_cons, List.lookup_cons, List.lookup_cons, ih]
    by_cases same : key = name
    · simp [same]
    · have other : rename key ≠ rename name := fun h => same (injective h)
      rw [beq_false_of_ne same, beq_false_of_ne other]

theorem lookup_store [BEq K] [LawfulBEq K] (dictionary : List (K × V)) (key : K) (value : V) :
    (store dictionary key value).lookup key = some value := by
  unfold store
  split
  · rename_i known
    induction dictionary with
    | nil => cases known
    | cons e dictionary ih =>
      rw [List.map_cons]
      by_cases same : e.1 = key
      · rw [if_pos same, List.lookup_cons_self]
      · have later : key ∈ dictionary.map Prod.fst :=
          (List.mem_cons.mp known).resolve_left fun h => same h.symm
        rw [if_neg same, List.lookup_cons, beq_false_of_ne (Ne.symm same)]
        exact ih later
  · rename_i unknown
    have absent : dictionary.lookup key = none := by
      rw [List.lookup_eq_none_iff]
      intro e member
      rw [bne_iff_ne]
      rintro rfl
      exact unknown (List.mem_map_of_mem member)
    rw [List.lookup_append, absent, Option.none_or, List.lookup_cons_self]

end MarstekBle.Lib.Dictionary
