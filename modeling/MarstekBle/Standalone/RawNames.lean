/- module: Standalone/RawNames
   source: standalone_test/marstek_basic_info.py
   digest: The name in a raw advertisement: the loop over its structures, and what it finds. -/

import MarstekBle.Data.Utf8
import MarstekBle.Protocol.Frame

set_option autoImplicit false
set_option relaxedAutoImplicit false

namespace MarstekBle.Standalone

open MarstekBle.Data MarstekBle.Protocol

/-- How one turn of the loop in `decode_name_from_raw` ends: with `break`, with
the value of a name, or at the next index. -/
inductive NameTurn where
  | stop
  | name (fieldValue : Bytes)
  | next (idx : Nat)

def isNameType (fieldType : Byte) : Bool := fieldType == 0x08 || fieldType == 0x09

/-- The body of the loop. -/
def nameTurn (data : Bytes) (idx : Nat) : Raises NameTurn := do
  let length ← byteAt data idx
  if length = 0 then pure .stop
  else if data.length ≤ idx + length.toNat then pure .stop
  else do
    let fieldType ← byteAt data (idx + 1)
    let fieldValue := slice data (idx + 2) (idx + 1 + length.toNat)
    if isNameType fieldType then pure (.name fieldValue)
    else pure (.next (idx + 1 + length.toNat))

def nameLoop (data : Bytes) : Nat → Nat → Raises Text
  | 0, _ => .ok []
  | turns + 1, idx =>
    if idx < data.length then do
      match ← nameTurn data idx with
      | .stop => pure []
      -- with `errors="ignore"` the decoder does not raise
      | .name fieldValue => pure (decodeUtf8Ignore fieldValue)
      | .next idx => nameLoop data turns idx
    else pure []

/-- `decode_name_from_raw`. -/
def decodeNameFromRaw (data : Bytes) : Raises Text := nameLoop data data.length 0

/-- A run of the loop from an index to its end. -/
inductive NameRuns (data : Bytes) : Nat → Raises Text → Prop
  | past {idx : Nat} (past : data.length ≤ idx) : NameRuns data idx (.ok [])
  | stop {idx : Nat} (inside : idx < data.length) (here : nameTurn data idx = .ok .stop) :
      NameRuns data idx (.ok [])
  | name {idx : Nat} {fieldValue : Bytes} (inside : idx < data.length)
      (here : nameTurn data idx = .ok (.name fieldValue)) :
      NameRuns data idx (.ok (decodeUtf8Ignore fieldValue))
  | next {idx later : Nat} {result : Raises Text} (inside : idx < data.length)
      (here : nameTurn data idx = .ok (.next later)) (rest : NameRuns data later result) :
      NameRuns data idx result
  | raises {idx : Nat} {error : PyError} (inside : idx < data.length)
      (here : nameTurn data idx = .error error) : NameRuns data idx (.error error)

/-! ### The loop ends -/

/-- A turn within the data raises nothing, and goes on by at least two bytes. -/
theorem nameTurn_cases {data : Bytes} {idx : Nat} (inside : idx < data.length) :
    nameTurn data idx = .ok .stop ∨
    (∃ fieldValue, nameTurn data idx = .ok (.name fieldValue)) ∨
    ∃ later, nameTurn data idx = .ok (.next later) ∧ idx + 2 ≤ later ∧ later ≤ data.length := by
  unfold nameTurn
  rw [byteAt_of_lt inside]
  dsimp only [bind, Except.bind]
  by_cases zero : data[idx] = 0
  · rw [if_pos zero]
    exact .inl rfl
  rw [if_neg zero]
  by_cases truncated : data.length ≤ idx + data[idx].toNat
  · rw [if_pos truncated]
    exact .inl rfl
  rw [if_neg truncated]
  have positive : 0 < data[idx].toNat := by
    have nonzero : data[idx].toNat ≠ 0 := fun none => zero (UInt8.toNat_inj.mp none)
    omega
  have typed : idx + 1 < data.length := by omega
  rw [byteAt_of_lt typed]
  dsimp only
  by_cases named : isNameType data[idx + 1] = true
  · rw [if_pos named]
    exact .inr (.inl ⟨_, rfl⟩)
  · rw [if_neg named]
    exact .inr (.inr ⟨_, rfl, by omega, by omega⟩)

theorem nameRuns_nameLoop {data : Bytes} {turns idx : Nat} (enough : data.length ≤ turns + idx) :
    NameRuns data idx (nameLoop data turns idx) := by
  induction turns generalizing idx with
  | zero => exact .past (by omega)
  | succ turns ih =>
    rw [nameLoop]
    by_cases inside : idx < data.length
    · rw [if_pos inside]
      rcases nameTurn_cases inside with here | ⟨fieldValue, here⟩ | ⟨later, here, moved, _⟩
      · rw [here]
        exact .stop inside here
      · rw [here]
        exact .name inside here
      · rw [here]
        have fewer : data.length ≤ turns + later := by omega
        exact .next inside here (ih fewer)
    · rw [if_neg inside]
      exact .past (Nat.le_of_not_lt inside)

theorem nameRuns_unique {data : Bytes} {idx : Nat} {a b : Raises Text}
    (run : NameRuns data idx a) (other : NameRuns data idx b) : a = b := by
  induction run with
  | past past =>
    cases other with
    | past _ => rfl
    | _ inside => omega
  | stop inside here =>
    cases other with
    | past past => omega
    | stop _ _ => rfl
    | name _ there | next _ there | raises _ there =>
      rw [here] at there
      cases there
  | name inside here =>
    cases other with
    | past past => omega
    | name _ there =>
      rw [here] at there
      cases there
      rfl
    | stop _ there | next _ there | raises _ there =>
      rw [here] at there
      cases there
  | next inside here _ ih =>
    cases other with
    | past past => omega
    | next _ there rest =>
      rw [here] at there
      cases there
      exact ih rest
    | stop _ there | name _ there | raises _ there =>
      rw [here] at there
      cases there
  | raises inside here =>
    cases other with
    | past past => omega
    | raises _ there =>
      rw [here] at there
      cases there
      rfl
    | stop _ there | name _ there | next _ there =>
      rw [here] at there
      cases there

theorem nameRuns_iff (data : Bytes) (result : Raises Text) :
    NameRuns data 0 result ↔ decodeNameFromRaw data = result := by
  have run : NameRuns data 0 (decodeNameFromRaw data) := nameRuns_nameLoop (Nat.le_add_right _ _)
  constructor
  · exact fun other => nameRuns_unique run other
  · rintro rfl
    exact run

/-- No run of the loop raises. -/
theorem NameRuns.exists_ok {data : Bytes} {idx : Nat} {result : Raises Text}
    (run : NameRuns data idx result) : ∃ name, result = .ok name := by
  induction run with
  | past _ => exact ⟨_, rfl⟩
  | stop _ _ => exact ⟨_, rfl⟩
  | name _ _ => exact ⟨_, rfl⟩
  | next _ _ _ ih => exact ih
  | raises inside here =>
    rcases nameTurn_cases inside with there | ⟨_, there⟩ | ⟨_, there, _⟩ <;>
      rw [here] at there <;> cases there

theorem decodeNameFromRaw_ok (data : Bytes) : ∃ name, decodeNameFromRaw data = .ok name :=
  ((nameRuns_iff data _).mpr rfl).exists_ok

/-! ### Advertising data -/

/-- A well-formed advertising-data structure. -/
structure AdStructure where
  fieldType : Byte
  value : Bytes
  fits : value.length ≤ 254

/-- The length byte counts the type and the value. -/
def AdStructure.length (s : AdStructure) : Byte := UInt8.ofNat (s.value.length + 1)

def AdStructure.bytes (s : AdStructure) : Bytes := s.length :: s.fieldType :: s.value

/-- What may follow the last structure. -/
inductive AdTail where
  | nothing
  | padding (zeros : Nat)
  | truncated (s : AdStructure) (kept : Nat) (short : kept < s.bytes.length)

def AdTail.bytes : AdTail → Bytes
  | .nothing => []
  | .padding zeros => List.replicate zeros 0
  | .truncated s kept _ => s.bytes.take kept

/-- The name the structures give. -/
def firstName (structures : List AdStructure) : Text :=
  match structures.find? fun s => isNameType s.fieldType with
  | some s => decodeUtf8Ignore s.value
  | none => []

theorem AdStructure.toNat_length (s : AdStructure) : s.length.toNat = s.value.length + 1 := by
  have fits := s.fits
  rw [AdStructure.length, UInt8.toNat_ofNat']
  omega

theorem AdStructure.length_ne_zero (s : AdStructure) : s.length ≠ 0 := by
  intro zero
  have declared := s.toNat_length
  rw [zero] at declared
  simp at declared

theorem AdStructure.length_bytes (s : AdStructure) : s.bytes.length = s.value.length + 2 := rfl

theorem byteAt_append (before : Bytes) (b : Byte) (after : Bytes) :
    byteAt (before ++ b :: after) before.length = .ok b := by
  have found : (before ++ b :: after)[before.length]? = some b := by simp
  rw [byteAt, found]

/-- A whole structure is read: its value is the name, or the loop goes on after it. -/
theorem nameTurn_structure (before : Bytes) (s : AdStructure) (after : Bytes) :
    nameTurn (before ++ s.bytes ++ after) before.length =
      if isNameType s.fieldType then .ok (.name s.value)
      else .ok (.next (before ++ s.bytes).length) := by
  have parts : before ++ s.bytes ++ after =
      before ++ s.length :: s.fieldType :: (s.value ++ after) := by
    simp [AdStructure.bytes]
  have typed : before ++ s.length :: s.fieldType :: (s.value ++ after) =
      (before ++ [s.length]) ++ s.fieldType :: (s.value ++ after) := by simp
  have valued : before ++ s.length :: s.fieldType :: (s.value ++ after) =
      (before ++ [s.length, s.fieldType]) ++ s.value ++ after := by simp
  have declared := s.toNat_length
  have whole : ¬ (before ++ s.length :: s.fieldType :: (s.value ++ after)).length ≤
      before.length + s.length.toNat := by
    simp only [List.length_append, List.length_cons, declared]
    omega
  have fieldType : byteAt (before ++ s.length :: s.fieldType :: (s.value ++ after))
      (before.length + 1) = .ok s.fieldType := by
    rw [typed]
    simpa using byteAt_append (before ++ [s.length]) s.fieldType (s.value ++ after)
  have fieldValue : slice (before ++ s.length :: s.fieldType :: (s.value ++ after))
      (before.length + 2) (before.length + 1 + s.length.toNat) = s.value := by
    have size : before.length + 1 + s.length.toNat - (before.length + 2) = s.value.length := by
      omega
    have start : before.length + 2 = (before ++ [s.length, s.fieldType]).length := by simp
    rw [slice, size, valued, List.append_assoc, start, List.drop_left, List.take_left]
  have later : before.length + 1 + s.length.toNat = (before ++ s.bytes).length := by
    rw [List.length_append, s.length_bytes]
    omega
  rw [parts]
  unfold nameTurn
  rw [byteAt_append]
  dsimp only [bind, Except.bind]
  rw [if_neg s.length_ne_zero, if_neg whole, fieldType]
  dsimp only
  rw [fieldValue, later]
  rfl

/-- Nothing after the structures is taken for one. -/
theorem nameRuns_tail (before : Bytes) (tail : AdTail) :
    NameRuns (before ++ tail.bytes) before.length (.ok []) := by
  rcases tail with _ | zeros | ⟨s, kept, short⟩
  · exact .past (by simp [AdTail.bytes])
  · cases zeros with
    | zero => exact .past (by simp [AdTail.bytes])
    | succ zeros =>
      have stopped : nameTurn (before ++ 0 :: List.replicate zeros 0) before.length =
          .ok .stop := by
        unfold nameTurn
        rw [byteAt_append]
        rfl
      exact .stop (by simp [AdTail.bytes]) stopped
  · cases kept with
    | zero => exact .past (by simp [AdTail.bytes])
    | succ kept =>
      have declared := s.toNat_length
      have missing : (before ++ s.length :: (s.fieldType :: s.value).take kept).length ≤
          before.length + s.length.toNat := by
        rw [s.length_bytes] at short
        simp only [List.length_append, List.length_cons, List.length_take, declared]
        omega
      have stopped : nameTurn (before ++ s.length :: (s.fieldType :: s.value).take kept)
          before.length = .ok .stop := by
        unfold nameTurn
        rw [byteAt_append]
        dsimp only [bind, Except.bind]
        rw [if_neg s.length_ne_zero, if_pos missing]
        rfl
      exact .stop (by simp [AdTail.bytes, AdStructure.bytes]) stopped

theorem nameRuns_structures (before : Bytes) (structures : List AdStructure) (tail : AdTail) :
    NameRuns (before ++ (structures.flatMap AdStructure.bytes ++ tail.bytes)) before.length
      (.ok (firstName structures)) := by
  induction structures generalizing before with
  | nil => exact nameRuns_tail before tail
  | cons s structures ih =>
    have parts : before ++ ((s :: structures).flatMap AdStructure.bytes ++ tail.bytes) =
        before ++ s.bytes ++ (structures.flatMap AdStructure.bytes ++ tail.bytes) := by simp
    have here := nameTurn_structure before s (structures.flatMap AdStructure.bytes ++ tail.bytes)
    have inside : before.length <
        (before ++ s.bytes ++ (structures.flatMap AdStructure.bytes ++ tail.bytes)).length := by
      simp only [List.length_append, s.length_bytes]
      omega
    rw [parts]
    cases named : isNameType s.fieldType with
    | true =>
      rw [named, if_pos rfl] at here
      have first : firstName (s :: structures) = decodeUtf8Ignore s.value := by
        simp [firstName, named]
      rw [first]
      exact .name inside here
    | false =>
      rw [named] at here
      have first : firstName (s :: structures) = firstName structures := by
        simp [firstName, named]
      rw [first]
      exact .next inside here (ih (before ++ s.bytes))

/-- The loop reads the first name among well-formed structures, whatever follows
them; and on any bytes it ends, with a name, after no index past the end. -/
theorem decodes_first_name :
    (∀ (structures : List AdStructure) (tail : AdTail),
      decodeNameFromRaw (structures.flatMap AdStructure.bytes ++ tail.bytes) =
        .ok (firstName structures)) ∧
    ∀ data, ∃ name, decodeNameFromRaw data = .ok name ∧
      ∀ result, NameRuns data 0 result ↔ result = .ok name := by
  constructor
  · intro structures tail
    rw [← nameRuns_iff]
    exact nameRuns_structures [] structures tail
  · intro data
    obtain ⟨name, named⟩ := decodeNameFromRaw_ok data
    refine ⟨name, named, fun result => ?_⟩
    rw [nameRuns_iff, named, eq_comm]

/-- Flags, a short name with a stray byte, and a structure cut off. -/
example : decodeNameFromRaw [2, 0x01, 0x06, 4, 0x08, 0x4D, 0xFF, 0x53, 9, 0x09, 0x41] =
    .ok ['M', 'S'] := by decide

end MarstekBle.Standalone
