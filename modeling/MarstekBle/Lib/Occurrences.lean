/- module: Lib/Occurrences
   digest: The last write to a key of a list, and each key once in the order of first occurrence. -/

import Mathlib.Data.List.Induction
import MarstekBle.Lib.AttributeTree

set_option autoImplicit false
set_option relaxedAutoImplicit false

namespace MarstekBle.Lib.AttributeTree

universe u v w x

variable {K : Type u} {V : Type v} {A : Type w} {L : Type x} {W : Type w}

/-! ### The order of occurrences -/

/-- The first key occurs before the other one does. -/
def OccursBefore (keys : List K) (a b : K) : Prop :=
  ∃ before after, keys = before ++ a :: after ∧ b ∉ before ++ [a]

theorem OccursBefore.append {keys : List K} {a b : K} (earlier : OccursBefore keys a b)
    (more : List K) : OccursBefore (keys ++ more) a b := by
  obtain ⟨before, after, rfl, unseen⟩ := earlier
  exact ⟨before, after ++ more, by simp, unseen⟩

theorem OccursBefore.ne {keys : List K} {a b : K} (earlier : OccursBefore keys a b) : a ≠ b := by
  obtain ⟨before, after, _, unseen⟩ := earlier
  rintro rfl
  exact unseen (List.mem_append_right before List.mem_cons_self)

/-- A key occurs before every key that does not occur. -/
theorem occursBefore_of_not_mem {keys : List K} {a b : K} (occurs : a ∈ keys) (never : b ∉ keys) :
    OccursBefore keys a b := by
  obtain ⟨before, after, rfl⟩ := List.append_of_mem occurs
  refine ⟨before, after, rfl, fun seen => never ?_⟩
  rcases List.mem_append.mp seen with earlier | same
  · exact List.mem_append_left _ earlier
  · rw [List.mem_singleton] at same
    exact same ▸ List.mem_append_right before List.mem_cons_self

variable [DecidableEq K]

/-! ### First occurrences -/

/-- The keys not seen before, each once, in the order of their first occurrence. -/
def firstsFrom (seen keys : List K) : List K :=
  keys.foldl (fun ks k => if k ∈ ks then ks else ks ++ [k]) seen

theorem firstsFrom_snoc (seen keys : List K) (k : K) : firstsFrom seen (keys ++ [k]) =
    if k ∈ firstsFrom seen keys then firstsFrom seen keys else firstsFrom seen keys ++ [k] := by
  rw [firstsFrom, List.foldl_append]
  rfl

theorem mem_firstsFrom (seen keys : List K) (k : K) :
    k ∈ firstsFrom seen keys ↔ k ∈ seen ∨ k ∈ keys := by
  induction keys using List.reverseRecOn with
  | nil => simp [firstsFrom]
  | append_singleton keys last ih =>
    rw [firstsFrom_snoc, List.mem_append, List.mem_singleton, ← or_assoc, ← ih]
    by_cases known : last ∈ firstsFrom seen keys
    · rw [if_pos known]
      exact ⟨.inl, fun either => either.elim id fun same => same ▸ known⟩
    · rw [if_neg known, List.mem_append, List.mem_singleton]

/-- A key that never occurs stays in front. -/
theorem firstsFrom_cons {k : K} {keys : List K} (absent : k ∉ keys) (seen : List K) :
    firstsFrom (k :: seen) keys = k :: firstsFrom seen keys := by
  induction keys using List.reverseRecOn with
  | nil => rfl
  | append_singleton keys last ih =>
    rw [List.mem_append, List.mem_singleton, not_or] at absent
    obtain ⟨before, other⟩ := absent
    have same : last ∈ k :: firstsFrom seen keys ↔ last ∈ firstsFrom seen keys := by
      rw [List.mem_cons, or_iff_right fun equal => other equal.symm]
    rw [firstsFrom_snoc, firstsFrom_snoc, ih before]
    by_cases known : last ∈ firstsFrom seen keys
    · rw [if_pos (same.mpr known), if_pos known]
    · rw [if_neg fun listed => known (same.mp listed), if_neg known, List.cons_append]

/-- Renaming the keys injectively renames their first occurrences. -/
theorem firstsFrom_map [DecidableEq L] {r : K → L} (injective : Function.Injective r)
    (seen keys : List K) :
    firstsFrom (seen.map r) (keys.map r) = (firstsFrom seen keys).map r := by
  induction keys using List.reverseRecOn with
  | nil => rfl
  | append_singleton keys last ih =>
    have same : r last ∈ (firstsFrom seen keys).map r ↔ last ∈ firstsFrom seen keys :=
      List.mem_map_of_injective injective
    rw [List.map_append, List.map_singleton, firstsFrom_snoc, firstsFrom_snoc, ih]
    by_cases known : last ∈ firstsFrom seen keys
    · rw [if_pos (same.mpr known), if_pos known]
    · rw [if_neg fun listed => known (same.mp listed), if_neg known, List.map_append,
        List.map_singleton]

theorem firstsFrom_pairwise (keys : List K) :
    (firstsFrom [] keys).Pairwise (OccursBefore keys) := by
  induction keys using List.reverseRecOn with
  | nil => exact .nil
  | append_singleton keys last ih =>
    have kept : (firstsFrom [] keys).Pairwise (OccursBefore (keys ++ [last])) :=
      ih.imp fun earlier => earlier.append [last]
    rw [firstsFrom_snoc]
    by_cases known : last ∈ firstsFrom [] keys
    · rw [if_pos known]
      exact kept
    · rw [if_neg known]
      have fresh : last ∉ keys := fun member =>
        known ((mem_firstsFrom [] keys last).mpr (.inr member))
      refine List.pairwise_append.mpr ⟨kept, List.pairwise_singleton _ _, fun a member b same => ?_⟩
      have occurs : a ∈ keys := by simpa using (mem_firstsFrom [] keys a).mp member
      rw [List.mem_singleton] at same
      exact same ▸ (occursBefore_of_not_mem occurs fresh).append [last]

theorem nodup_firstsFrom (keys : List K) : (firstsFrom [] keys).Nodup :=
  (firstsFrom_pairwise keys).imp OccursBefore.ne

/-! ### The last write -/

/-- The value written last to a key stands before writes to other keys only. -/
theorem latest_eq_some_iff (k : K) (c : V) (us : List (K × V)) :
    latest k us = some c ↔
      ∃ before after, us = before ++ (k, c) :: after ∧ ∀ u ∈ after, u.1 ≠ k := by
  constructor
  · intro last
    induction us with
    | nil => cases last
    | cons u us ih =>
      rw [latest] at last
      cases later : latest k us with
      | some d =>
        rw [later, Option.some_or] at last
        obtain ⟨before, after, parts, others⟩ := ih (later.trans last)
        exact ⟨u :: before, after, by rw [parts, List.cons_append], others⟩
      | none =>
        rw [later, Option.none_or] at last
        have here : u.1 = k := by
          by_contra other
          rw [if_neg other] at last
          cases last
        rw [if_pos here, Option.some.injEq] at last
        refine ⟨[], us, ?_, (latest_eq_none_iff k us).mp later⟩
        rw [List.nil_append, ← here, ← last]
  · rintro ⟨before, after, rfl, others⟩
    have later : latest k after = none := (latest_eq_none_iff k after).mpr others
    rw [latest_append, latest, later, Option.none_or, if_pos rfl, Option.some_or]

/-- Renaming the keys injectively and mapping the values maps what was written last. -/
theorem latest_map_map [DecidableEq L] {r : K → L} (injective : Function.Injective r) (g : V → W)
    (k : K) (us : List (K × V)) :
    latest (r k) (us.map fun u => (r u.1, g u.2)) = (latest k us).map g := by
  induction us with
  | nil => rfl
  | cons u us ih =>
    rw [List.map_cons, latest, latest, ih, Option.map_or]
    by_cases here : u.1 = k
    · rw [if_pos (congrArg r here), if_pos here, Option.map_some]
    · rw [if_neg fun same => here (injective same), if_neg here, Option.map_none]

/-- The same for the writes that the items of a list give. -/
theorem latest_filterMap_eq_some_iff (k : K) (c : V) (f : A → Option (K × V)) (items : List A) :
    latest k (items.filterMap f) = some c ↔
      ∃ before item after, items = before ++ item :: after ∧ f item = some (k, c) ∧
        ∀ later ∈ after, ∀ other, f later ≠ some (k, other) := by
  rw [latest_eq_some_iff]
  constructor
  · rintro ⟨before, after, parts, others⟩
    obtain ⟨first, rest, rfl, _, hrest⟩ := List.filterMap_eq_append_iff.mp parts
    obtain ⟨skipped, item, last, rfl, _, given, hlast⟩ := List.filterMap_eq_cons_iff.mp hrest
    refine ⟨first ++ skipped, item, last, by simp, given, fun later member other same => ?_⟩
    have written : (k, other) ∈ after := hlast ▸ List.mem_filterMap.mpr ⟨later, member, same⟩
    exact others _ written rfl
  · rintro ⟨before, item, after, rfl, given, others⟩
    refine ⟨before.filterMap f, after.filterMap f, ?_, fun u member same => ?_⟩
    · rw [List.filterMap_append, List.filterMap_cons_some given]
    · obtain ⟨later, inside, gives⟩ := List.mem_filterMap.mp member
      exact others later inside u.2 (gives.trans (congrArg some (Prod.ext same rfl)))

end MarstekBle.Lib.AttributeTree
