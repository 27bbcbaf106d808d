/- module: Protocol/Frame
   source: custom_components/marstek_ble/marstek_device.py, product_runtime.py;
           standalone_test/marstek_basic_info.py
   digest: Building frames, the checks that open a received one, and what they accept. -/

import MarstekBle.Data.Value

set_option autoImplicit false
set_option relaxedAutoImplicit false

namespace MarstekBle.Protocol

open MarstekBle.Data

def startByte : Byte := 0x73
def identifierByte : Byte := 0x23

/-- Header, command and payload, with the declared length still zero. -/
def unsealed (command : Byte) (payload : Bytes) : Bytes :=
  startByte :: 0x00 :: identifierByte :: command :: payload

/-- `[0x73][len][0x23][cmd][payload...][xor]`; the length byte holds at most 255. -/
def buildCommand (command : Byte) (payload : Bytes := []) : Raises Bytes :=
  let frame := unsealed command payload
  let declared := frame.length + 1
  if declared < 256 then
    let frame := frame.set 1 (UInt8.ofNat declared)
    .ok (frame ++ [checksum frame])
  else .error ⟨.valueError, "byte must be in range(0, 256)"⟩

/-- `frame[i]`. -/
def byteAt (frame : Bytes) (i : Nat) : Raises Byte :=
  match frame[i]? with
  | some b => .ok b
  | none => .error ⟨.indexError, "index out of range"⟩

/-- The checks both notification parsers begin with: the command and the payload
of a well-formed frame, and `none` where the parser returns `False`. -/
def openFrame (frame : Bytes) : Raises (Option (Byte × Bytes)) :=
  if frame.length < 5 then .ok none
  else do
    let start ← byteAt frame 0
    let identifier ← byteAt frame 2
    if start ≠ startByte ∨ identifier ≠ identifierByte then pure none
    else do
      let declared ← byteAt frame 1
      if declared.toNat ≠ frame.length then pure none
      else do
        let last ← byteAt frame (frame.length - 1)
        if last ≠ checksum frame.dropLast then pure none
        else do
          let command ← byteAt frame 3
          pure (some (command, slice frame 4 (frame.length - 1)))

/-- The frame of a command whose payload fits. -/
def frameOf (command : Byte) (payload : Bytes) : Bytes :=
  let frame := (unsealed command payload).set 1 (UInt8.ofNat (payload.length + 5))
  frame ++ [checksum frame]

/-- A byte string that some command builds. -/
def IsFrame (frame : Bytes) : Prop :=
  ∃ command payload, payload.length ≤ 250 ∧ frame = frameOf command payload

theorem buildCommand_of_le {payload : Bytes} (fits : payload.length ≤ 250) (command : Byte) :
    buildCommand command payload = .ok (frameOf command payload) := by
  have small : (unsealed command payload).length + 1 < 256 := by simp [unsealed]; omega
  exact if_pos small

theorem buildCommand_eq_ok_iff (command : Byte) (payload frame : Bytes) :
    buildCommand command payload = .ok frame ↔
      payload.length ≤ 250 ∧ frame = frameOf command payload := by
  by_cases fits : payload.length ≤ 250
  · rw [buildCommand_of_le fits]
    simp [fits, eq_comm]
  · have large : ¬ (unsealed command payload).length + 1 < 256 := by simp [unsealed]; omega
    have raised : buildCommand command payload =
        .error ⟨.valueError, "byte must be in range(0, 256)"⟩ := if_neg large
    simp [raised, fits]

@[simp] theorem length_frameOf (command : Byte) (payload : Bytes) :
    (frameOf command payload).length = payload.length + 5 := by
  simp [frameOf, unsealed]

theorem IsFrame.length_le {frame : Bytes} (h : IsFrame frame) :
    5 ≤ frame.length ∧ frame.length ≤ 255 := by
  obtain ⟨command, payload, fits, rfl⟩ := h
  simp
  omega

private theorem frameOf_eq (command : Byte) (payload : Bytes) :
    frameOf command payload =
      startByte :: UInt8.ofNat (payload.length + 5) :: identifierByte :: command ::
        (payload ++ [checksum (startByte :: UInt8.ofNat (payload.length + 5) :: identifierByte ::
          command :: payload)]) := rfl

/-- What the receiving checks look at. -/
theorem isFrame_iff (frame : Bytes) :
    IsFrame frame ↔ 5 ≤ frame.length ∧ frame[0]? = some startByte ∧
      frame[1]?.map UInt8.toNat = some frame.length ∧ frame[2]? = some identifierByte ∧
      frame[frame.length - 1]? = some (checksum frame.dropLast) := by
  constructor
  · rintro ⟨command, payload, fits, rfl⟩
    have declared : (UInt8.ofNat (payload.length + 5)).toNat = payload.length + 5 := by
      rw [UInt8.toNat_ofNat']
      omega
    refine ⟨by simp, rfl, ?_, rfl, ?_⟩
    · rw [length_frameOf, ← declared]
      rfl
    · simp only [frameOf, List.dropLast_concat, List.length_append, List.length_singleton,
        Nat.add_sub_cancel, List.getElem?_concat_length]
  · rintro ⟨long, start, declared, identifier, last⟩
    obtain ⟨a, b, c, d, rest, rfl⟩ : ∃ a b c d rest, frame = a :: b :: c :: d :: rest := by
      match frame, long with
      | a :: b :: c :: d :: rest, _ => exact ⟨a, b, c, d, rest, rfl⟩
    obtain ⟨payload, e, rfl⟩ : ∃ payload e, rest = payload ++ [e] := by
      rcases List.eq_nil_or_concat rest with rfl | ⟨payload, e, rfl⟩
      · simp at long
      · exact ⟨payload, e, by simp⟩
    obtain rfl : a = startByte := by simpa using start
    obtain rfl : c = identifierByte := by simpa using identifier
    have length : b.toNat = payload.length + 5 := by simpa using declared
    have fits := b.toNat_lt
    obtain rfl : b = UInt8.ofNat (payload.length + 5) := by rw [← length]; simp
    have whole : startByte :: UInt8.ofNat (payload.length + 5) :: identifierByte :: d ::
        (payload ++ [e]) = (startByte :: UInt8.ofNat (payload.length + 5) :: identifierByte ::
          d :: payload) ++ [e] := rfl
    rw [whole] at last
    simp only [List.dropLast_concat, List.length_append, List.length_singleton,
      Nat.add_sub_cancel, List.getElem?_concat_length, Option.some.injEq] at last
    refine ⟨d, payload, by omega, ?_⟩
    rw [frameOf_eq, last]

/-- The bytes the receiving checks look at, in a frame that was built. -/
structure Layout (frame : Bytes) (command : Byte) (payload : Bytes) : Prop where
  start : byteAt frame 0 = .ok startByte
  declared : byteAt frame 1 = .ok (UInt8.ofNat frame.length)
  sized : (UInt8.ofNat frame.length).toNat = frame.length
  identifier : byteAt frame 2 = .ok identifierByte
  command : byteAt frame 3 = .ok command
  payload : slice frame 4 (frame.length - 1) = payload
  last : byteAt frame (frame.length - 1) = .ok (checksum frame.dropLast)

theorem layout_frameOf {payload : Bytes} (fits : payload.length ≤ 250) (command : Byte) :
    Layout (frameOf command payload) command payload where
  start := rfl
  declared := by
    rw [length_frameOf]
    rfl
  sized := by
    rw [length_frameOf, UInt8.toNat_ofNat']
    omega
  identifier := rfl
  command := rfl
  payload := by
    rw [length_frameOf]
    simp [slice, frameOf_eq]
  last := by
    have sealed := ((isFrame_iff _).mp ⟨command, payload, fits, rfl⟩).2.2.2.2
    rw [byteAt, sealed]

/-- A frame opens to the command and the payload it was built from. -/
theorem openFrame_frameOf {payload : Bytes} (fits : payload.length ≤ 250) (command : Byte) :
    openFrame (frameOf command payload) = .ok (some (command, payload)) := by
  have layout := layout_frameOf fits command
  have long : ¬ (frameOf command payload).length < 5 := by simp
  simp only [openFrame, long, if_false, layout.start, layout.declared, layout.identifier,
    layout.command, layout.last, layout.sized, layout.payload, ok_bind, ne_eq,
    not_true_eq_false, or_self]
  rfl

theorem byteAt_of_lt {frame : Bytes} {i : Nat} (h : i < frame.length) :
    byteAt frame i = .ok frame[i] := by
  simp [byteAt, h]

/-- Anything else opens to nothing, and no check raises. -/
theorem openFrame_of_not_isFrame {frame : Bytes} (h : ¬ IsFrame frame) :
    openFrame frame = .ok none := by
  by_cases short : frame.length < 5
  · exact if_pos short
  · have long : 5 ≤ frame.length := Nat.le_of_not_lt short
    have inside0 : 0 < frame.length := by omega
    have inside1 : 1 < frame.length := by omega
    have inside2 : 2 < frame.length := by omega
    have inside3 : 3 < frame.length := by omega
    have insideLast : frame.length - 1 < frame.length := by omega
    simp only [openFrame, short, if_false, byteAt_of_lt inside0, byteAt_of_lt inside1,
      byteAt_of_lt inside2, byteAt_of_lt inside3, byteAt_of_lt insideLast, ok_bind]
    split
    · rfl
    · rename_i header
      split
      · rfl
      · rename_i declared
        split
        · rfl
        · rename_i last
          push Not at header declared last
          refine absurd ((isFrame_iff frame).mpr ⟨long, ?_, ?_, ?_, ?_⟩) h
          · rw [List.getElem?_eq_getElem inside0, header.1]
          · rw [List.getElem?_eq_getElem inside1, Option.map_some, declared]
          · rw [List.getElem?_eq_getElem inside2, header.2]
          · rw [List.getElem?_eq_getElem insideLast, last]

/-- The receiving checks never raise, and what they let through was built by some command. -/
theorem openFrame_eq (frame : Bytes) :
    (∃ command payload, buildCommand command payload = .ok frame ∧
      openFrame frame = .ok (some (command, payload))) ∨
    ((∀ command payload, buildCommand command payload ≠ .ok frame) ∧
      openFrame frame = .ok none) := by
  by_cases h : IsFrame frame
  · obtain ⟨command, payload, fits, rfl⟩ := h
    exact .inl ⟨command, payload, buildCommand_of_le fits command, openFrame_frameOf fits command⟩
  · refine .inr ⟨fun command payload built => h ?_, openFrame_of_not_isFrame h⟩
    exact ⟨command, payload, (buildCommand_eq_ok_iff command payload frame).mp built⟩

end MarstekBle.Protocol
