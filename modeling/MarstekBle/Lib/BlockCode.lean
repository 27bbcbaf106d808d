/- module: Lib/BlockCode
   digest: Codes as sets of words; prefix-freeness, distance and running check sums. -/

import Mathlib.Data.List.Basic

/-!
A code is a set of words over an alphabet. A word is corrupted by replacing one
letter, by dropping a nonempty suffix or by appending letters. A code detects
such errors if no word of it corrupts to another word of it.
-/

set_option autoImplicit false
set_option relaxedAutoImplicit false

namespace MarstekBle.Lib.BlockCode

universe u v

variable {α : Type u} {β : Type v}

abbrev Code (α : Type u) := List α → Prop

def PrefixFree (C : Code α) : Prop := ∀ x y, C x → C y → x <+: y → x = y

/-- One change of a word in transmission. -/
inductive Corrupts (x : List α) : List α → Prop
  | substituted (i : Nat) (b : α) (inside : i < x.length) (other : b ≠ x[i]) :
      Corrupts x (x.set i b)
  | truncated (n : Nat) (short : n < x.length) : Corrupts x (x.take n)
  | extended (tail : List α) (some_letter : tail ≠ []) : Corrupts x (x ++ tail)

/-- Replacing one letter of a word leads out of the code. -/
def DetectsSubstitution (C : Code α) : Prop :=
  ∀ x (i : Nat) (b : α), C x → (inside : i < x.length) → b ≠ x[i] → ¬ C (x.set i b)

/-- A code that is prefix-free and detects substitutions detects every corruption. -/
theorem not_mem_of_corrupts {C : Code α} (free : PrefixFree C) (detects : DetectsSubstitution C)
    {x y : List α} (member : C x) (corrupted : Corrupts x y) : ¬ C y := by
  cases corrupted with
  | substituted i b inside other => exact detects x i b member inside other
  | truncated n short =>
    intro accepted
    have same : x.take n = x := free _ _ accepted member (x.take_prefix n)
    have length := congrArg List.length same
    rw [List.length_take] at length
    omega
  | extended tail some_letter =>
    intro accepted
    have same : x = x ++ tail := free _ _ member accepted (List.prefix_append x tail)
    exact some_letter (by simpa using same)

section Distance

variable [DecidableEq α]

/-- The number of positions at which two words differ. -/
def distance : List α → List α → Nat
  | a :: x, b :: y => (if a = b then 0 else 1) + distance x y
  | _, _ => 0

/-- Distinct words of one length differ at two positions or more. -/
def DistanceTwo (C : Code α) : Prop :=
  ∀ x y, C x → C y → x.length = y.length → x ≠ y → 2 ≤ distance x y

theorem eq_of_distance_zero {x y : List α} (same : x.length = y.length)
    (zero : distance x y = 0) : x = y := by
  induction x generalizing y with
  | nil => exact (List.length_eq_zero_iff.mp same.symm).symm
  | cons a x ih => cases y with
    | nil => simp at same
    | cons b y =>
      rw [distance] at zero
      by_cases hab : a = b
      · rw [hab, ih (by simpa using same) (by omega)]
      · rw [if_neg hab] at zero
        omega

/-- Words at distance one differ by a substitution. -/
theorem substituted_of_distance_one {x y : List α} (same : x.length = y.length)
    (one : distance x y = 1) :
    ∃ (i : Nat) (b : α) (inside : i < x.length), b ≠ x[i] ∧ y = x.set i b := by
  induction x generalizing y with
  | nil => simp [distance] at one
  | cons a x ih => cases y with
    | nil => simp at same
    | cons b y =>
      rw [distance] at one
      have rest : x.length = y.length := by simpa using same
      by_cases hab : a = b
      · obtain ⟨i, c, inside, other, rfl⟩ := ih rest (by rw [if_pos hab] at one; omega)
        exact ⟨i + 1, c, by simpa using inside, by simpa using other, by simp [hab]⟩
      · have later : x = y := eq_of_distance_zero rest (by rw [if_neg hab] at one; omega)
        exact ⟨0, b, by simp, fun h => hab h.symm, by simp [later]⟩

theorem distanceTwo_of_detects {C : Code α} (detects : DetectsSubstitution C) :
    DistanceTwo C := by
  intro x y hx hy same differ
  by_contra near
  have cases : distance x y = 0 ∨ distance x y = 1 := by omega
  rcases cases with zero | one
  · exact differ (eq_of_distance_zero same zero)
  · obtain ⟨i, b, inside, other, rfl⟩ := substituted_of_distance_one same one
    exact detects x i b hx inside other hy

end Distance

/-! ### Running check sums -/

section Fold

variable {op : β → α → β}

theorem foldl_injective (cancels : ∀ a, Function.Injective (op · a)) (xs : List α) :
    Function.Injective (List.foldl op · xs) := by
  induction xs with
  | nil => exact fun _ _ same => same
  | cons a xs ih => exact fun c d same => cancels a (ih same)

/-- A running check sum that cancels on both sides changes with every single letter. -/
theorem foldl_set_ne (cancels : ∀ a, Function.Injective (op · a))
    (separates : ∀ c, Function.Injective (op c)) (c : β) {xs : List α} {i : Nat} {b : α}
    (inside : i < xs.length) (other : b ≠ xs[i]) :
    (xs.set i b).foldl op c ≠ xs.foldl op c := by
  induction xs generalizing c i with
  | nil => simp at inside
  | cons a xs ih =>
    cases i with
    | zero =>
      intro same
      exact other (separates c (foldl_injective cancels xs same))
    | succ i =>
      rw [List.set_cons_succ, List.foldl_cons, List.foldl_cons]
      exact ih (op c a) (by simpa using inside) (by simpa using other)

end Fold

end MarstekBle.Lib.BlockCode
