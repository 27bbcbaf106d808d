/- module: Legacy/Writes
   source: custom_components/marstek_ble/marstek_device.py
   digest: The hand-written parsers reduced to the assignments they make. -/

import Mathlib.Data.Nat.Bitwise
import MarstekBle.Legacy.MarstekProtocol
import MarstekBle.Lib.AttributeTree

/-!
On a data object whose cell list has its sixteen entries no admitted payload
raises, and the assignments depend on the payload alone. They are listed per
packet in the order of the packet's declared fields.
-/

set_option autoImplicit false
set_option relaxedAutoImplicit false

namespace MarstekBle.Legacy

open MarstekBle.Data MarstekBle.Protocol MarstekBle.Lib.AttributeTree

/-- The cell list has kept its sixteen entries. -/
def Ready (data : MarstekData) : Prop :=
  ∃ cells, data.attrs .cellVoltages = .list cells ∧ cells.length = 16

/-- The attributes after a sequence of assignments. -/
def overwrite (attrs : LegacyField → Value) (us : List (LegacyField × Value)) :
    LegacyField → Value :=
  fun f => (latest f us).getD (attrs f)

theorem overwrite_append (attrs : LegacyField → Value) (us ws : List (LegacyField × Value)) :
    overwrite attrs (us ++ ws) = overwrite (overwrite attrs us) ws := by
  funext f
  simp only [overwrite, latest_append]
  cases latest f ws <;> rfl

theorem overwrite_congr {us ws : List (LegacyField × Value)}
    (same : ∀ f, latest f us = latest f ws) (attrs : LegacyField → Value) :
    overwrite attrs us = overwrite attrs ws := by
  funext f
  rw [overwrite, overwrite, same f]

/-- The statement succeeds on every ready object and makes these assignments. -/
def Assigns (s : Statement) (us : List (LegacyField × Value)) : Prop :=
  ∀ data, Ready data → ∃ after, s data = (.ok (), after) ∧
    after.attrs = overwrite data.attrs us ∧ Ready after

/-- The parser returns this answer on every ready object and makes these assignments. -/
def Yields (p : Parsing) (answer : Bool) (us : List (LegacyField × Value)) : Prop :=
  ∀ data, Ready data → ∃ after, p data = (.ok answer, after) ∧
    after.attrs = overwrite data.attrs us ∧ Ready after

/-! ### Statements -/

theorem block_append (ss ts : List Statement) (data : MarstekData) :
    block (ss ++ ts) data = match block ss data with
      | (.ok (), data) => block ts data
      | (.error e, data) => (.error e, data) := by
  induction ss generalizing data with
  | nil => rfl
  | cons s ss ih =>
    rw [List.cons_append, block, block]
    rcases s data with ⟨e | _, after⟩
    · rfl
    · exact ih after

theorem assigns_nil : Assigns (block []) [] := fun data ready => ⟨data, rfl, rfl, ready⟩

theorem Assigns.cons {s : Statement} {rest : List Statement}
    {us ws : List (LegacyField × Value)} (first : Assigns s us)
    (later : Assigns (block rest) ws) : Assigns (block (s :: rest)) (us ++ ws) := by
  intro data ready
  obtain ⟨middle, ran, assigned, readyMiddle⟩ := first data ready
  obtain ⟨after, ranLater, assignedLater, readyAfter⟩ := later middle readyMiddle
  refine ⟨after, ?_, ?_, readyAfter⟩
  · rw [block, ran]
    exact ranLater
  · rw [assignedLater, assigned, overwrite_append]

theorem Assigns.congr {s : Statement} {us ws : List (LegacyField × Value)}
    (h : Assigns s us) (same : ∀ f, latest f us = latest f ws) : Assigns s ws := by
  intro data ready
  rw [← overwrite_congr same]
  exact h data ready

/-- A loop makes the assignments of its turns. -/
theorem assigns_map {α : Type} {s : α → Statement} {writes : α → List (LegacyField × Value)}
    (turn : ∀ a, Assigns (s a) (writes a)) (items : List α) :
    Assigns (block (items.map s)) (items.flatMap writes) := by
  induction items with
  | nil => exact assigns_nil
  | cons a items ih => exact (turn a).cons ih

theorem assigns_assign {f : LegacyField} (notCells : f ≠ .cellVoltages) (v : Value) :
    Assigns (assign f (.ok v)) [(f, v)] := by
  rintro data ⟨cells, hcells, length⟩
  refine ⟨data.set f v, rfl, ?_, cells, ?_, length⟩
  · funext g
    by_cases h : g = f
    · simp [MarstekData.set, overwrite, latest, h]
    · simp [MarstekData.set, overwrite, latest, h, Ne.symm h]
  · simp [MarstekData.set, notCells.symm, hcells]

theorem assigns_trackName (origin : Origin) (field : String) :
    Assigns (trackName origin field) [] := fun _ ready => ⟨_, rfl, rfl, ready⟩

theorem assigns_trackIfSet (origin : Origin) (field : LegacyField) :
    Assigns (trackIfSet origin field) [] := by
  intro data ready
  unfold trackIfSet
  split
  · exact ⟨data, rfl, rfl, ready⟩
  · exact assigns_trackName origin field.name data ready

private theorem assigns_none {α : Type} {s : α → Statement} (turn : ∀ a, Assigns (s a) [])
    (items : List α) : Assigns (block (items.map s)) [] := by
  have all := assigns_map turn items
  rwa [List.flatMap_eq_nil_iff.mpr fun _ _ => rfl] at all

/-- Book-keeping at the end of a parser assigns nothing. -/
theorem assigns_tracks (origin : Origin) (fields : List LegacyField) :
    Assigns (block (fields.map (track origin))) [] :=
  assigns_none (s := track origin) (fun f => assigns_trackName origin f.name) fields

theorem assigns_tracksIfSet (origin : Origin) (fields : List LegacyField) :
    Assigns (block (fields.map (trackIfSet origin))) [] :=
  assigns_none (assigns_trackIfSet origin) fields

theorem assigns_when {condition : Prop} [Decidable condition] (holds : condition)
    {s : Statement} {us : List (LegacyField × Value)} (h : Assigns s us) :
    Assigns (when condition s) us := by
  rwa [when, if_pos holds]

/-- A run of plain assignments, followed by the rest of the block. -/
theorem assigns_entries {rest : List Statement} {ws : List (LegacyField × Value)}
    (us : List (LegacyField × Value)) (notCells : ∀ u ∈ us, u.1 ≠ .cellVoltages)
    (later : Assigns (block rest) ws) :
    Assigns (block (us.map (fun u => assign u.1 (.ok u.2)) ++ rest)) (us ++ ws) := by
  induction us with
  | nil => exact later
  | cons u us ih =>
    have first := assigns_assign (notCells u List.mem_cons_self) u.2
    exact first.cons (ih fun w hw => notCells w (List.mem_cons_of_mem u hw))

theorem Assigns.returning {s : Statement} {us : List (LegacyField × Value)}
    (h : Assigns s us) : Yields (returning s) true us := by
  intro data ready
  obtain ⟨after, ran, rest⟩ := h data ready
  exact ⟨after, by rw [Legacy.returning, ran], rest⟩

theorem Assigns.trying {s : Statement} {us : List (LegacyField × Value)}
    (h : Assigns s us) : Yields (trying s) true us := by
  intro data ready
  obtain ⟨after, ran, rest⟩ := h data ready
  exact ⟨after, by rw [Legacy.trying, ran], rest⟩

theorem yields_reject : Yields reject false [] := fun data ready => ⟨data, rfl, rfl, ready⟩

/-! ### Expressions -/

/-- What a converter makes of an integer. -/
def convert (converter : Converter) (n : Int) : Value :=
  match converter (.int n) with
  | .ok v => v
  | .error _ => .none

section Expressions

variable {code : IntegerCode} {payload : Bytes} {start stop i : Nat}

theorem unpackAt_eq (width : stop = start + code.width) (fits : stop ≤ payload.length) :
    unpackAt code payload start stop = .ok (integerAt code payload start) := by
  subst width
  exact unpackInteger_slice fits

theorem slice_single (inside : i < payload.length) : slice payload i (i + 1) = [payload[i]] := by
  rw [slice, Nat.add_sub_cancel_left, List.drop_eq_getElem_cons inside]
  rfl

theorem integerAt_B (inside : i < payload.length) :
    integerAt .B payload i = (payload[i].toNat : Int) := by
  show ((unsignedOf (slice payload i (i + 1)) : Nat) : Int) = _
  rw [slice_single inside]
  simp [unsignedOf]

theorem asInt_unpackAt (width : stop = start + code.width) (fits : stop ≤ payload.length) :
    asInt (unpackAt code payload start stop) =
      .ok (convert identity (integerAt code payload start)) := by
  rw [unpackAt_eq width fits]
  rfl

theorem asFloat_unpackAt (width : stop = start + code.width) (fits : stop ≤ payload.length) :
    asFloat (unpackAt code payload start stop) =
      .ok (convert toFloat (integerAt code payload start)) := by
  rw [unpackAt_eq width fits]
  rfl

theorem scaled_unpackAt (divisor : ℚ) (width : stop = start + code.width)
    (fits : stop ≤ payload.length) :
    scaled divisor (unpackAt code payload start stop) =
      .ok (convert (divideBy divisor) (integerAt code payload start)) := by
  rw [unpackAt_eq width fits]
  rfl

theorem asInt_byteValue (inside : i < payload.length) :
    asInt (byteValue payload i) = .ok (convert identity (integerAt .B payload i)) := by
  rw [byteValue, byteAt_of_lt inside, integerAt_B inside]
  rfl

theorem byteNonzero_eq (inside : i < payload.length) :
    byteNonzero payload i = .ok (convert nonzero (integerAt .B payload i)) := by
  rw [byteNonzero, byteAt_of_lt inside, integerAt_B inside, convert, nonzero_int]
  simp [Except.map]

/-- A one-bit mask reads the bit the schema names by its number. -/
private theorem byteMasked_pow (k : Nat) (inside : i < payload.length) :
    byteMasked payload i (2 ^ k) = .ok (convert (bit k) (integerAt .B payload i)) := by
  have masked : ∀ n : Nat, n &&& 2 ^ k ≠ 0 ↔ (n : Int) / 2 ^ k % 2 = 1 := by
    intro n
    have power : (2 : Nat) ^ k ≠ 0 := by positivity
    have cast : (n : Int) / 2 ^ k % 2 = ((n / 2 ^ k % 2 : Nat) : Int) := by push_cast; rfl
    rw [Nat.and_two_pow, Nat.testBit_eq_decide_div_mod_eq, cast]
    rcases Nat.mod_two_eq_zero_or_one (n / 2 ^ k) with zero | one
    · simp [zero]
    · simp [one]
  rw [byteMasked, byteAt_of_lt inside, integerAt_B inside, convert, bit_int]
  simp only [Except.map, hasBit, masked]

theorem byteMasked_one (inside : i < payload.length) :
    byteMasked payload i 0x01 = .ok (convert (bit 0) (integerAt .B payload i)) :=
  byteMasked_pow 0 inside

theorem byteMasked_two (inside : i < payload.length) :
    byteMasked payload i 0x02 = .ok (convert (bit 1) (integerAt .B payload i)) :=
  byteMasked_pow 1 inside

end Expressions

end MarstekBle.Legacy
