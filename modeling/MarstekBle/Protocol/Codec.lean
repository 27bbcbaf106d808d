/- module: Protocol/Codec
   source: custom_components/marstek_ble/marstek_device.py, product_runtime.py;
           standalone_test/marstek_basic_info.py
   digest: The three frame builders on any integer command, and the tool's decoder. -/

import MarstekBle.Lib.BlockCode
import MarstekBle.Protocol.Frame

set_option autoImplicit false
set_option relaxedAutoImplicit false

namespace MarstekBle.Protocol

open MarstekBle.Data MarstekBle.Lib.BlockCode

def rangeError : PyError := ⟨.valueError, "byte must be in range(0, 256)"⟩

/-- An integer stored in a `bytearray`. -/
def byteOf (value : Int) : Raises Byte :=
  if 0 ≤ value ∧ value ≤ 255 then .ok (UInt8.ofNat value.toNat) else .error rangeError

/-- `bytearray(values)`. -/
def bytearray (values : List Int) : Raises Bytes := values.mapM byteOf

/-- `frame[i] = value`. -/
def setByte (frame : Bytes) (i : Nat) (value : Int) : Raises Bytes := do
  let b ← byteOf value
  if i < frame.length then pure (frame.set i b)
  else .error ⟨.indexError, "bytearray index out of range"⟩

/-- `MarstekProtocol.build_command`. -/
def MarstekProtocol.buildCommand (cmd : Int) (payload : Bytes := []) : Raises Bytes := do
  let frame ← bytearray [0x73, 0x00, 0x23, cmd]
  let frame := frame ++ payload
  let frame ← setByte frame 1 (frame.length + 1)
  pure (frame ++ [checksum frame])

/-- `ProductProtocol.build_command`. -/
def ProductProtocol.buildCommand (command : Int) (payload : Bytes := []) : Raises Bytes := do
  let frame ← bytearray [0x73, 0x00, 0x23, command]
  let frame := frame ++ payload
  let frame ← setByte frame 1 (frame.length + 1)
  pure (frame ++ [checksum frame])

/-- The standalone tool's `create_command_frame`; its payload may be `None`. -/
def Standalone.createCommandFrame (command : Int) (payload : Option Bytes := none) :
    Raises Bytes := do
  let payloadBytes := payload.getD []
  let totalLength := payloadBytes.length + 5
  let frame ← bytearray [startByte.toNat, totalLength, identifierByte.toNat, command]
  let frame := frame ++ payloadBytes
  pure (frame ++ [checksum frame])

/-- The standalone tool's `parse_frame`. -/
def parseFrame (frame : Bytes) : Raises (Byte × Bytes) :=
  if frame.length < 5 then
    .error ⟨.valueError, "Frame too short (" ++ toString frame.length ++ " bytes)"⟩
  else do
    let start ← byteAt frame 0
    if start ≠ startByte then .error ⟨.valueError, "Frame missing start byte 0x73"⟩
    else do
      let expectedLen ← byteAt frame 1
      if expectedLen.toNat ≠ frame.length then
        .error ⟨.valueError, "Length mismatch (header " ++ toString expectedLen.toNat ++
          " vs " ++ toString frame.length ++ ")"⟩
      else do
        let last ← byteAt frame (frame.length - 1)
        if checksum frame.dropLast ≠ last then .error ⟨.valueError, "Checksum mismatch"⟩
        else do
          let identifier ← byteAt frame 2
          if identifier ≠ identifierByte then
            .error ⟨.valueError, "Unexpected identifier byte " ++ commandHex identifier⟩
          else do
            let command ← byteAt frame 3
            pure (command, slice frame 4 (frame.length - 1))

/-! ### Builders -/

/-- What a builder accepts: a one-byte command and a payload that fits. -/
def Fits (command : Int) (payload : Bytes) : Prop :=
  (0 ≤ command ∧ command ≤ 255) ∧ payload.length ≤ 250

instance (command : Int) (payload : Bytes) : Decidable (Fits command payload) :=
  inferInstanceAs (Decidable (_ ∧ _))

private theorem byteOf_nat {n : Nat} (small : n ≤ 255) : byteOf n = .ok (UInt8.ofNat n) := by
  have range : (0 : Int) ≤ n ∧ (n : Int) ≤ 255 := by omega
  rw [byteOf, if_pos range, Int.toNat_natCast]

private theorem byteOf_outside {value : Int} (outside : ¬ (0 ≤ value ∧ value ≤ 255)) :
    byteOf value = .error rangeError := if_neg outside

private theorem bytearray_header (declared command : Int) :
    bytearray [0x73, declared, 0x23, command] =
      if (0 ≤ declared ∧ declared ≤ 255) ∧ 0 ≤ command ∧ command ≤ 255 then
        .ok [startByte, UInt8.ofNat declared.toNat, identifierByte, UInt8.ofNat command.toNat]
      else .error rangeError := by
  have start : byteOf 0x73 = .ok startByte := rfl
  have identifier : byteOf 0x23 = .ok identifierByte := rfl
  simp only [bytearray, List.mapM_cons, List.mapM_nil, start, identifier, ok_bind]
  by_cases first : 0 ≤ declared ∧ declared ≤ 255
  · have stored : byteOf declared = .ok (UInt8.ofNat declared.toNat) := if_pos first
    by_cases second : 0 ≤ command ∧ command ≤ 255
    · have command_stored : byteOf command = .ok (UInt8.ofNat command.toNat) := if_pos second
      rw [stored, command_stored, if_pos ⟨first, second⟩]
      rfl
    · rw [stored, byteOf_outside second, if_neg fun h => second h.2]
      rfl
  · rw [byteOf_outside first, if_neg fun h => first h.1]
    rfl

/-- The integration's builder accepts what fits and returns its frame. -/
theorem marstekBuild_eq (command : Int) (payload : Bytes) :
    MarstekProtocol.buildCommand command payload =
      if Fits command payload then .ok (frameOf (UInt8.ofNat command.toNat) payload)
      else .error rangeError := by
  unfold MarstekProtocol.buildCommand
  rw [bytearray_header]
  by_cases inRange : 0 ≤ command ∧ command ≤ 255
  · rw [if_pos ⟨by decide, inRange⟩, ok_bind]
    let frame := startByte :: UInt8.ofNat 0 :: identifierByte ::
      UInt8.ofNat command.toNat :: payload
    have length : ((frame.length : Int) + 1) = (payload.length + 5 : Nat) := by
      simp [frame]
      omega
    by_cases fits : payload.length ≤ 250
    · have stored : setByte frame 1 (frame.length + 1) =
          .ok (frame.set 1 (UInt8.ofNat (payload.length + 5))) := by
        rw [setByte, length, byteOf_nat (by omega), ok_bind]
        exact if_pos (by simp [frame])
      rw [if_pos (show Fits command payload from ⟨inRange, fits⟩)]
      show (do let sealed ← setByte frame 1 (frame.length + 1)
               pure (sealed ++ [checksum sealed])) = _
      rw [stored]
      rfl
    · have raised : setByte frame 1 (frame.length + 1) = .error rangeError := by
        rw [setByte, length, byteOf_outside (by omega)]
        rfl
      rw [if_neg fun h : Fits command payload => fits h.2]
      show (do let sealed ← setByte frame 1 (frame.length + 1)
               pure (sealed ++ [checksum sealed])) = _
      rw [raised]
      rfl
  · rw [if_neg fun h => inRange h.2, if_neg fun h : Fits command payload => inRange h.1]
    rfl

/-- So does the product runtimes' builder. -/
theorem productBuild_eq (command : Int) (payload : Bytes) :
    ProductProtocol.buildCommand command payload =
      if Fits command payload then .ok (frameOf (UInt8.ofNat command.toNat) payload)
      else .error rangeError := marstekBuild_eq command payload

/-- So does the tool's builder, for which no payload is the empty one. -/
theorem createCommandFrame_eq_frameOf (command : Int) (payload : Option Bytes) :
    Standalone.createCommandFrame command payload =
      if Fits command (payload.getD []) then
        .ok (frameOf (UInt8.ofNat command.toNat) (payload.getD []))
      else .error rangeError := by
  unfold Standalone.createCommandFrame
  generalize payload.getD [] = body
  have header := bytearray_header (body.length + 5 : Nat) command
  rw [show ((startByte.toNat : Nat) : Int) = 0x73 from rfl,
    show ((identifierByte.toNat : Nat) : Int) = 0x23 from rfl]
  dsimp only
  rw [header]
  by_cases fits : Fits command body
  · obtain ⟨inRange, short⟩ := fits
    have declared : (0 : Int) ≤ (body.length + 5 : Nat) ∧
        ((body.length + 5 : Nat) : Int) ≤ 255 := by
      omega
    rw [if_pos ⟨declared, inRange⟩, if_pos (show Fits command body from ⟨inRange, short⟩)]
    rfl
  · have refused : ¬ (((0 : Int) ≤ (body.length + 5 : Nat) ∧
        ((body.length + 5 : Nat) : Int) ≤ 255) ∧ 0 ≤ command ∧ command ≤ 255) := by
      rintro ⟨declared, inRange⟩
      exact fits ⟨inRange, by omega⟩
    rw [if_neg refused, if_neg fits]
    rfl

/-! ### The decoder -/

/-- A frame decodes to the command and the payload it was built from. -/
theorem parseFrame_frameOf {payload : Bytes} (fits : payload.length ≤ 250) (command : Byte) :
    parseFrame (frameOf command payload) = .ok (command, payload) := by
  have layout := layout_frameOf fits command
  have long : ¬ (frameOf command payload).length < 5 := by simp
  simp only [parseFrame, long, if_false, layout.start, layout.declared, layout.identifier,
    layout.command, layout.last, layout.sized, layout.payload, ok_bind, ne_eq, not_true_eq_false]
  rfl

/-- Anything else makes the decoder raise `ValueError`. -/
theorem parseFrame_of_not_isFrame {frame : Bytes} (h : ¬ IsFrame frame) :
    ∃ message, parseFrame frame = .error ⟨.valueError, message⟩ := by
  by_cases short : frame.length < 5
  · exact ⟨_, if_pos short⟩
  · have long : 5 ≤ frame.length := Nat.le_of_not_lt short
    have inside0 : 0 < frame.length := by omega
    have inside1 : 1 < frame.length := by omega
    have inside2 : 2 < frame.length := by omega
    have inside3 : 3 < frame.length := by omega
    have insideLast : frame.length - 1 < frame.length := by omega
    simp only [parseFrame, short, if_false, byteAt_of_lt inside0, byteAt_of_lt inside1,
      byteAt_of_lt inside2, byteAt_of_lt inside3, byteAt_of_lt insideLast, ok_bind]
    split
    · exact ⟨_, rfl⟩
    · rename_i start
      split
      · exact ⟨_, rfl⟩
      · rename_i declared
        split
        · exact ⟨_, rfl⟩
        · rename_i last
          split
          · exact ⟨_, rfl⟩
          · rename_i identifier
            push Not at start declared last identifier
            refine absurd ((isFrame_iff frame).mpr ⟨long, ?_, ?_, ?_, ?_⟩) h
            · rw [List.getElem?_eq_getElem inside0, start]
            · rw [List.getElem?_eq_getElem inside1, Option.map_some, declared]
            · rw [List.getElem?_eq_getElem inside2, identifier]
            · rw [List.getElem?_eq_getElem insideLast, last]

theorem parseFrame_eq_ok_iff (frame : Bytes) (command : Byte) (payload : Bytes) :
    parseFrame frame = .ok (command, payload) ↔
      payload.length ≤ 250 ∧ frame = frameOf command payload := by
  constructor
  · intro decoded
    by_cases h : IsFrame frame
    · obtain ⟨command', payload', fits, rfl⟩ := h
      rw [parseFrame_frameOf fits command'] at decoded
      cases decoded
      exact ⟨fits, rfl⟩
    · obtain ⟨message, raised⟩ := parseFrame_of_not_isFrame h
      rw [raised] at decoded
      cases decoded
  · rintro ⟨fits, rfl⟩
    exact parseFrame_frameOf fits command

/-- The checks of the notification parsers let through what the decoder accepts. -/
theorem openFrame_eq_parseFrame (frame : Bytes) :
    openFrame frame = .ok (parseFrame frame).toOption := by
  by_cases h : IsFrame frame
  · obtain ⟨command, payload, fits, rfl⟩ := h
    rw [openFrame_frameOf fits, parseFrame_frameOf fits]
    rfl
  · obtain ⟨message, raised⟩ := parseFrame_of_not_isFrame h
    rw [openFrame_of_not_isFrame h, raised]
    rfl

theorem isFrame_iff_accepted (frame : Bytes) :
    IsFrame frame ↔ ∃ decoded, parseFrame frame = .ok decoded := by
  constructor
  · rintro ⟨command, payload, fits, rfl⟩
    exact ⟨_, parseFrame_frameOf fits command⟩
  · rintro ⟨⟨command, payload⟩, decoded⟩
    exact ⟨command, payload, (parseFrame_eq_ok_iff frame command payload).mp decoded⟩

/-! ### Frames as a code -/

/-- The declared length makes the frames prefix-free. -/
theorem isFrame_prefixFree : PrefixFree IsFrame := by
  rintro x y hx hy ⟨tail, rfl⟩
  obtain ⟨long, _, declared, _⟩ := (isFrame_iff x).mp hx
  obtain ⟨_, _, whole, _⟩ := (isFrame_iff (x ++ tail)).mp hy
  have second : (x ++ tail)[1]? = x[1]? := List.getElem?_append_left (by omega)
  rw [second, declared, Option.some.injEq, List.length_append] at whole
  obtain rfl : tail = [] := List.length_eq_zero_iff.mp (by omega)
  exact (List.append_nil x).symm

private theorem checksum_set_ne {data : Bytes} {i : Nat} {b : Byte} (inside : i < data.length)
    (other : b ≠ data[i]) : checksum (data.set i b) ≠ checksum data := by
  have cancels : ∀ a : Byte, Function.Injective (fun acc : Byte => acc ^^^ a) := by
    intro a c d same
    exact (UInt8.xor_left_inj a).mp same
  have separates : ∀ acc : Byte, Function.Injective (fun a : Byte => acc ^^^ a) := by
    intro acc a c same
    exact (UInt8.xor_right_inj acc).mp same
  exact foldl_set_ne cancels separates 0 inside other

/-- The check sum makes every substitution visible, that of the check sum included. -/
theorem isFrame_detectsSubstitution : DetectsSubstitution IsFrame := by
  intro x i b hx inside other hy
  obtain ⟨long, _, _, _, last⟩ := (isFrame_iff x).mp hx
  obtain ⟨_, _, _, _, summed⟩ := (isFrame_iff _).mp hy
  rw [List.length_set] at summed
  by_cases final : i = x.length - 1
  · subst final
    have body : (x.set (x.length - 1) b).dropLast = x.dropLast := by
      rw [List.dropLast_eq_take, List.dropLast_eq_take, List.length_set,
        List.take_set_of_le (Nat.le_refl _)]
    rw [body, List.getElem?_set_self inside] at summed
    rw [List.getElem?_eq_getElem inside] at last
    exact other (Option.some.inj (summed.trans last.symm))
  · have kept : (x.set i b)[x.length - 1]? = x[x.length - 1]? :=
      List.getElem?_set_ne final
    have body : (x.set i b).dropLast = x.dropLast.set i b := by
      rw [List.dropLast_eq_take, List.dropLast_eq_take, List.length_set, List.take_set]
    have early : i < x.dropLast.length := by
      rw [List.length_dropLast]
      omega
    rw [kept, last, body] at summed
    refine checksum_set_ne early ?_ (Option.some.inj summed).symm
    rwa [List.getElem_dropLast]

end MarstekBle.Protocol
