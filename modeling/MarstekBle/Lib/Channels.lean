/- module: Lib/Channels
   digest: A register that one channel alone writes does not see how channels interleave. -/

import Mathlib.Data.List.Basic
import Mathlib.Data.Option.Basic

/-!
Messages arrive over channels, and the content of a message is written to registers.
Where every register is written over one channel only, its content after a run
depends on what that channel said, in order, and on nothing else: not on the
other channels, and not on what a message carries besides, such as its time.
-/

set_option autoImplicit false
set_option relaxedAutoImplicit false

namespace MarstekBle.Lib.Channels

universe u v w x y z

variable {S : Type u} {M : Type v} {A : Type w} {K : Type x} {V : Type y} {C : Type z}

/-- On the states of interest, a step leaves in a register what the message writes
to it, and where it writes nothing what was there before. -/
structure Registers (I : S → Prop) (step : S → M → S) (read : S → K → V) (content : M → A)
    (write : A → K → Option V) : Prop where
  keeps : ∀ s m, I s → I (step s m)
  reads : ∀ s m k, I s → read (step s m) k = (write (content m) k).getD (read s k)

/-- Every register has a channel all of whose writes come from. -/
def SingleWriter (write : A → K → Option V) (channel : A → Option C) : Prop :=
  ∀ k, ∃ c, ∀ a, (write a k).isSome → channel a = some c

variable {I : S → Prop} {step : S → M → S} {read : S → K → V} {content : M → A}
  {write : A → K → Option V}

/-- What a register holds after the given messages. -/
def settled (write : A → K → Option V) (k : K) (before : V) (said : List A) : V :=
  (said.filterMap fun a => write a k).getLast?.getD before

theorem settled_cons (k : K) (before : V) (a : A) (said : List A) :
    settled write k before (a :: said) =
      settled write k ((write a k).getD before) said := by
  cases hw : write a k with
  | none => simp [settled, hw]
  | some v => simp [settled, hw, List.getLast?_cons]

/-- After a run a register holds the last write to it. -/
theorem Registers.read_foldl (registers : Registers I step read content write) (k : K)
    (ms : List M) : ∀ s, I s →
      read (ms.foldl step s) k = settled write k (read s k) (ms.map content) := by
  induction ms with
  | nil => exact fun s _ => rfl
  | cons m ms ih =>
    intro s hs
    have first := registers.reads s m k hs
    have later := ih (step s m) (registers.keeps s m hs)
    rw [List.foldl_cons, later, first, List.map_cons, settled_cons]

variable [DecidableEq C] {channel : A → Option C}

/-- Only what its channel content reaches a register. -/
theorem settled_filter {k : K} {c : C} (owned : ∀ a, (write a k).isSome → channel a = some c)
    (before : V) (said : List A) :
    settled write k before (said.filter (channel · = some c)) = settled write k before said := by
  have relevant : (said.filter (channel · = some c)).filterMap (write · k) =
      said.filterMap (write · k) := by
    rw [List.filterMap_filter]
    congr 1
    funext a
    by_cases h : channel a = some c
    · simp [h]
    · have unwritten : write a k = none := by
        rw [← Option.not_isSome_iff_eq_none]
        exact fun written => h (owned a written)
      simp [h, unwritten]
  rw [settled, relevant]
  rfl

/-- Two runs in which every channel content the same leave the same registers. -/
theorem read_eq_of_channels (registers : Registers I step read content write)
    (single : SingleWriter write channel) {ms ns : List M}
    (same : ∀ c, (ms.map content).filter (channel · = some c) =
      (ns.map content).filter (channel · = some c))
    {s : S} (hs : I s) (k : K) : read (ms.foldl step s) k = read (ns.foldl step s) k := by
  obtain ⟨c, owned⟩ := single k
  calc read (ms.foldl step s) k
      = settled write k (read s k) (ms.map content) := registers.read_foldl k ms s hs
    _ = settled write k (read s k) (ns.map content) := by
      rw [← settled_filter owned, same c, settled_filter owned]
    _ = read (ns.foldl step s) k := (registers.read_foldl k ns s hs).symm

end MarstekBle.Lib.Channels
