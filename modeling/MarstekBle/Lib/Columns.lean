/- module: Lib/Columns
   digest: Rows of padded cells with a separator between them, read back by position. -/

import Mathlib.Algebra.GroupWithZero.Nat
import Mathlib.Data.List.Basic

set_option autoImplicit false
set_option relaxedAutoImplicit false

namespace MarstekBle.Lib.Columns

universe u

variable {α : Type u}

/-- Where a column starts. -/
def columnStart (gap : Nat) (widths : List Nat) (j : Nat) : Nat :=
  (widths.take j).sum + gap * j

/-- What a line holds in a column. -/
def column (gap : Nat) (widths : List Nat) (j : Nat) (line : List α) : List α :=
  (line.drop (columnStart gap widths j)).take (widths[j]?.getD 0)

/-- The width of a line. -/
def lineWidth (gap : Nat) (widths : List Nat) : Nat := widths.sum + gap * (widths.length - 1)

theorem length_intercalate (sep : List α) (cells : List (List α)) :
    (sep.intercalate cells).length = lineWidth sep.length (cells.map List.length) := by
  induction cells with
  | nil => simp [lineWidth]
  | cons cell cells ih =>
    cases cells with
    | nil => simp [lineWidth]
    | cons next cells =>
      rw [List.intercalate_cons_cons, List.length_append, List.length_append, ih]
      simp only [lineWidth, List.map_cons, List.sum_cons, List.length_cons, List.length_map,
        Nat.add_sub_cancel]
      rw [Nat.mul_add, Nat.mul_one]
      omega

theorem mem_intercalate {sep : List α} {cells : List (List α)} {x : α}
    (member : x ∈ sep.intercalate cells) : x ∈ sep ∨ ∃ cell ∈ cells, x ∈ cell := by
  induction cells with
  | nil => simp at member
  | cons cell cells ih =>
    cases cells with
    | nil =>
      rw [List.intercalate_singleton] at member
      exact .inr ⟨cell, List.mem_cons_self, member⟩
    | cons next cells =>
      rw [List.intercalate_cons_cons, List.mem_append, List.mem_append] at member
      rcases member with (here | between) | later
      · exact .inr ⟨cell, List.mem_cons_self, here⟩
      · exact .inl between
      · rcases ih later with inside | ⟨other, listed, inside⟩
        · exact .inl inside
        · exact .inr ⟨other, List.mem_cons_of_mem _ listed, inside⟩

/-- Each cell stands in its own column. -/
theorem column_intercalate (sep : List α) (cells : List (List α)) {j : Nat} {cell : List α}
    (placed : cells[j]? = some cell) :
    column sep.length (cells.map List.length) j (sep.intercalate cells) = cell := by
  have width : ((cells.map List.length)[j]?).getD 0 = cell.length := by
    rw [List.getElem?_map, placed]
    rfl
  rw [column, width]
  clear width
  induction cells generalizing j with
  | nil => cases placed
  | cons first cells ih =>
    cases j with
    | zero =>
      obtain rfl := Option.some.inj placed
      have start : columnStart sep.length ((first :: cells).map List.length) 0 = 0 := by
        simp [columnStart]
      rw [start, List.drop_zero]
      cases cells with
      | nil => rw [List.intercalate_singleton, List.take_length]
      | cons next cells => rw [List.intercalate_cons_cons, List.append_assoc, List.take_left']; rfl
    | succ j =>
      have rest : cells[j]? = some cell := placed
      cases cells with
      | nil => cases rest
      | cons next cells =>
        have start : columnStart sep.length ((first :: next :: cells).map List.length) (j + 1) =
            (first ++ sep).length + columnStart sep.length ((next :: cells).map List.length) j := by
          simp only [columnStart, List.map_cons, List.take_succ_cons, List.sum_cons,
            List.length_append, Nat.mul_add, Nat.mul_one]
          omega
        rw [start, List.intercalate_cons_cons, List.drop_length_add_append, ih rest]

end MarstekBle.Lib.Columns
