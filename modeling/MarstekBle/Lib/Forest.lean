/- module: Lib/Forest
   digest: Lists in which every item names a parent that comes before it. -/

import Mathlib.Logic.Relation

set_option autoImplicit false
set_option relaxedAutoImplicit false

namespace MarstekBle.Lib.Forest

universe u v

variable {α : Type u} {K : Type v} (key : α → K) (parent : α → Option K)

/-- Every item names as its parent a known key or the key of an item before it. -/
def ParentsFirst : List K → List α → Prop
  | _, [] => True
  | known, a :: rest => (∃ k ∈ known, parent a = some k) ∧ ParentsFirst (key a :: known) rest

/-- Some item of the list has this key and that parent. -/
def Hangs (items : List α) (above below : K) : Prop :=
  ∃ a ∈ items, key a = below ∧ parent a = some above

variable {key parent} {known more : List K} {items later : List α}

theorem ParentsFirst.mono (h : ParentsFirst key parent known items)
    (inside : ∀ k ∈ known, k ∈ more) : ParentsFirst key parent more items := by
  induction items generalizing known more with
  | nil => trivial
  | cons a items ih =>
    obtain ⟨⟨k, member, named⟩, rest⟩ := h
    refine ⟨⟨k, inside k member, named⟩, ih rest fun k' member' => ?_⟩
    rcases List.mem_cons.mp member' with same | below
    · exact same ▸ List.mem_cons_self
    · exact List.mem_cons_of_mem _ (inside k' below)

theorem ParentsFirst.append (here : ParentsFirst key parent known items)
    (there : ParentsFirst key parent known later) :
    ParentsFirst key parent known (items ++ later) := by
  induction items generalizing known with
  | nil => exact there
  | cons a items ih =>
    exact ⟨here.1, ih here.2 (there.mono fun k member => List.mem_cons_of_mem _ member)⟩

/-- Items below one new item. -/
theorem ParentsFirst.cons {a : α} {k : K} (member : k ∈ known) (named : parent a = some k)
    (inner : ParentsFirst key parent [key a] items) :
    ParentsFirst key parent known (a :: items) := by
  refine ⟨⟨k, member, named⟩, inner.mono fun k' only => ?_⟩
  exact List.mem_singleton.mp only ▸ List.mem_cons_self

theorem ParentsFirst.parent_mem (h : ParentsFirst key parent known items) {a : α}
    (member : a ∈ items) : ∃ k, parent a = some k ∧ (k ∈ known ∨ k ∈ items.map key) := by
  induction items generalizing known with
  | nil => cases member
  | cons first items ih =>
    rcases List.mem_cons.mp member with rfl | below
    · obtain ⟨k, inside, named⟩ := h.1
      exact ⟨k, named, .inl inside⟩
    · obtain ⟨k, named, inside⟩ := ih h.2 below
      refine ⟨k, named, ?_⟩
      rw [List.map_cons, List.mem_cons]
      rcases inside with inside | inside
      · exact (List.mem_cons.mp inside).elim (fun same => .inr (.inl same)) .inl
      · exact .inr (.inr inside)

/-- From every item the parents lead up to a known key. -/
theorem ParentsFirst.reaches (h : ParentsFirst key parent known items) {a : α}
    (member : a ∈ items) :
    ∃ k ∈ known, Relation.TransGen (Hangs key parent items) k (key a) := by
  induction items generalizing known with
  | nil => cases member
  | cons first items ih =>
    have wider : ∀ above below, Hangs key parent items above below →
        Hangs key parent (first :: items) above below := by
      rintro above below ⟨b, inside, names⟩
      exact ⟨b, List.mem_cons_of_mem _ inside, names⟩
    obtain ⟨k, inside, named⟩ := h.1
    have step : Hangs key parent (first :: items) k (key first) :=
      ⟨first, List.mem_cons_self, rfl, named⟩
    rcases List.mem_cons.mp member with rfl | below
    · exact ⟨k, inside, .single step⟩
    · obtain ⟨k', inside', chain⟩ := ih h.2 below
      have lifted := Relation.TransGen.mono wider _ _ chain
      rcases List.mem_cons.mp inside' with rfl | known'
      · exact ⟨k, inside, .head step lifted⟩
      · exact ⟨k', known', lifted⟩

end MarstekBle.Lib.Forest
