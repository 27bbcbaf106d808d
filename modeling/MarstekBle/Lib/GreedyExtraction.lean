/- module: Lib/GreedyExtraction
   digest: Leftmost, non-overlapping items of a sequence, and when noise around them is harmless. -/

import MarstekBle.Lib.BlockCode

/-!
An item is a word of a code. Extraction takes the item at the least offset at
which one starts and goes on right after it. For a prefix-free code the
extraction is unique, and letters at which no item starts may be dropped.
-/

set_option autoImplicit false
set_option relaxedAutoImplicit false

namespace MarstekBle.Lib.BlockCode

universe u

variable {α : Type u} (P : Code α)

/-- An item starts at the offset. -/
def StartsAt (stream : List α) (offset : Nat) : Prop :=
  ∃ item, P item ∧ item <+: stream.drop offset

/-- The leftmost, non-overlapping items of a stream. -/
inductive Greedy : List α → List (List α) → Prop
  /-- No item starts anywhere. -/
  | done {stream : List α} (clear : ∀ offset, ¬ StartsAt P stream offset) : Greedy stream []
  /-- The item at the least offset, and the extraction right after it. -/
  | take {skipped item rest : List α} {items : List (List α)} (isItem : P item)
      (least : ∀ offset, offset < skipped.length →
        ¬ StartsAt P (skipped ++ (item ++ rest)) offset)
      (later : Greedy rest items) : Greedy (skipped ++ (item ++ rest)) (item :: items)

/-- Gaps and the items after them, in order. -/
def weave (parts : List (List α × List α)) : List α := parts.flatMap fun part => part.1 ++ part.2

variable {P}

theorem startsAt_drop {stream : List α} {dropped offset : Nat} :
    StartsAt P (stream.drop dropped) offset ↔ StartsAt P stream (dropped + offset) := by
  simp only [StartsAt, List.drop_drop]

/-- The item of a step starts where the skipped letters end. -/
theorem startsAt_skipped {item : List α} (isItem : P item) (skipped rest : List α) :
    StartsAt P (skipped ++ (item ++ rest)) skipped.length := by
  refine ⟨item, isItem, ?_⟩
  rw [List.drop_left]
  exact List.prefix_append item rest

/-- Two items that start at one place are the same. -/
theorem PrefixFree.eq_of_append (free : PrefixFree P) {a b rest other : List α} (ha : P a)
    (hb : P b) (same : a ++ rest = b ++ other) : a = b ∧ rest = other := by
  have equal : a = b := by
    have prefixes : a <+: b ∨ b <+: a :=
      List.prefix_or_prefix_of_prefix (List.prefix_append a rest)
        (same ▸ List.prefix_append b other)
    rcases prefixes with h | h
    · exact free a b ha hb h
    · exact (free b a hb ha h).symm
  subst equal
  exact ⟨rfl, List.append_cancel_left same⟩

/-- A stream has one extraction. -/
theorem Greedy.unique (free : PrefixFree P) {stream : List α} {items others : List (List α)}
    (first : Greedy P stream items) (second : Greedy P stream others) : items = others := by
  induction first generalizing others with
  | done clear =>
    cases second with
    | done _ => rfl
    | take isItem _ _ => exact absurd (startsAt_skipped isItem _ _) (clear _)
  | @take skipped item rest items isItem least later ih =>
    generalize hstream : skipped ++ (item ++ rest) = stream at second least
    cases second with
    | done clear => exact absurd (hstream ▸ startsAt_skipped isItem skipped rest) (clear _)
    | @take skipped' item' rest' items' isItem' least' later' =>
      have here : StartsAt P (skipped' ++ (item' ++ rest')) skipped.length :=
        hstream ▸ startsAt_skipped isItem skipped rest
      have there := startsAt_skipped isItem' skipped' rest'
      have sameLength : skipped.length = skipped'.length := by
        rcases Nat.lt_trichotomy skipped.length skipped'.length with low | same | high
        · exact absurd here (least' _ low)
        · exact same
        · exact absurd there (least _ high)
      obtain ⟨rfl, tails⟩ := List.append_inj hstream sameLength
      obtain ⟨rfl, rfl⟩ := free.eq_of_append isItem isItem' tails
      rw [ih later']

/-- Letters at which no item starts may be dropped. -/
theorem Greedy.of_drop {stream : List α} {items : List (List α)} {dropped : Nat}
    (clear : ∀ offset, offset < dropped → ¬ StartsAt P stream offset)
    (extracted : Greedy P (stream.drop dropped) items) : Greedy P stream items := by
  generalize hrest : stream.drop dropped = remaining at extracted
  cases extracted with
  | done none =>
    refine .done fun offset => ?_
    rcases Nat.lt_or_ge offset dropped with low | high
    · exact clear offset low
    · intro starts
      have place : dropped + (offset - dropped) = offset := by omega
      refine none (offset - dropped) ?_
      rw [← hrest, startsAt_drop, place]
      exact starts
  | @take skipped item rest items isItem least later =>
    have parts : stream = (stream.take dropped ++ skipped) ++ (item ++ rest) := by
      rw [List.append_assoc, ← hrest, List.take_append_drop]
    rw [parts]
    refine .take isItem (fun offset low => ?_) later
    rw [← parts]
    rcases Nat.lt_or_ge offset dropped with before | after
    · exact clear offset before
    · intro starts
      have place : dropped + (offset - dropped) = offset := by omega
      have short : (stream.take dropped).length ≤ dropped := List.length_take_le _ _
      rw [List.length_append] at low
      refine least (offset - dropped) ?_ ?_
      · have whole : dropped ≤ stream.length := by
          by_contra beyond
          have empty : stream.drop dropped = [] := List.drop_eq_nil_of_le (by omega)
          rw [hrest, List.append_eq_nil_iff] at empty
          rw [empty.1, List.length_nil] at low
          omega
        rw [List.length_take_of_le whole] at low
        omega
      · rw [← hrest, startsAt_drop, place]
        exact starts

/-- An item at the front is taken. -/
theorem Greedy.cons {item rest : List α} {items : List (List α)} (isItem : P item)
    (later : Greedy P rest items) : Greedy P (item ++ rest) (item :: items) := by
  have none : ∀ offset, offset < ([] : List α).length →
      ¬ StartsAt P ([] ++ (item ++ rest)) offset := by
    intro offset low
    exact absurd low (Nat.not_lt_zero offset)
  exact Greedy.take isItem none later

theorem Greedy.forall_mem {stream : List α} {items : List (List α)}
    (extracted : Greedy P stream items) : ∀ item ∈ items, P item := by
  induction extracted with
  | done _ => simp
  | take isItem _ _ ih =>
    intro item member
    rcases List.mem_cons.mp member with rfl | later
    · exact isItem
    · exact ih item later

/-- The items are disjoint parts of the stream, in its order. -/
theorem Greedy.exists_weave {stream : List α} {items : List (List α)}
    (extracted : Greedy P stream items) :
    ∃ parts tail, items = parts.map Prod.snd ∧ stream = weave parts ++ tail := by
  induction extracted with
  | @done stream _ => exact ⟨[], stream, rfl, rfl⟩
  | @take skipped item rest items _ _ _ ih =>
    obtain ⟨parts, tail, rfl, rfl⟩ := ih
    refine ⟨(skipped, item) :: parts, tail, rfl, ?_⟩
    simp [weave, List.append_assoc]

/-- Where every item begins with one letter, none starts inside letters that lack it. -/
theorem not_startsAt_gap {marker : α} (marked : ∀ item, P item → item.head? = some marker)
    {gap rest : List α} (free : marker ∉ gap) {offset : Nat} (low : offset < gap.length) :
    ¬ StartsAt P (gap ++ rest) offset := by
  rintro ⟨item, isItem, more, found⟩
  have first : (item ++ more).head? = some marker := by
    rw [List.head?_append, marked item isItem]
    rfl
  rw [found, List.head?_drop, List.getElem?_append_left low] at first
  exact free (List.mem_of_getElem? first)

/-- Items with letters between them that lack the marker are extracted unchanged. -/
theorem Greedy.of_weave {marker : α} (marked : ∀ item, P item → item.head? = some marker)
    {parts : List (List α × List α)} (items : ∀ part ∈ parts, P part.2)
    (free : ∀ part ∈ parts, marker ∉ part.1) {tail : List α} (tailFree : marker ∉ tail) :
    Greedy P (weave parts ++ tail) (parts.map Prod.snd) := by
  induction parts with
  | nil =>
    refine .done fun offset => ?_
    rcases Nat.lt_or_ge offset tail.length with low | high
    · have inside : ¬ StartsAt P (tail ++ []) offset := not_startsAt_gap marked tailFree low
      rw [List.append_nil] at inside
      exact inside
    · rintro ⟨item, isItem, prefixed⟩
      have empty : item = [] := by
        rw [weave, List.flatMap_nil, List.nil_append, List.drop_eq_nil_of_le high] at prefixed
        exact List.prefix_nil.mp prefixed
      have first := marked item isItem
      rw [empty] at first
      cases first
  | cons part parts ih =>
    have later := ih (fun p hp => items p (List.mem_cons_of_mem _ hp))
      (fun p hp => free p (List.mem_cons_of_mem _ hp))
    have layout : weave (part :: parts) ++ tail = part.1 ++ (part.2 ++ (weave parts ++ tail)) := by
      simp [weave, List.append_assoc]
    rw [layout, List.map_cons]
    have gapFree : marker ∉ part.1 := free part List.mem_cons_self
    exact .take (items part List.mem_cons_self)
      (fun offset low => not_startsAt_gap marked gapFree low) later

end MarstekBle.Lib.BlockCode
