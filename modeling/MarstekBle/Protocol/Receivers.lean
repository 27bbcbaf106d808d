/- module: Protocol/Receivers
   source: custom_components/marstek_ble/marstek_device.py, product_runtime.py;
           standalone_test/marstek_basic_info.py
   digest: Three builders, three receivers and one code that detects single errors. -/

import MarstekBle.Legacy.MarstekProtocol
import MarstekBle.Protocol.Codec

set_option autoImplicit false
set_option relaxedAutoImplicit false

namespace MarstekBle.Protocol

open MarstekBle.Data MarstekBle.Lib.BlockCode MarstekBle.Product

/-- What `MarstekProtocol.parse_notification` does after its checks. -/
def legacyDispatch (command : Byte) (payload : Bytes) (timestamp : ℚ)
    (data : Legacy.MarstekData) : Raises Bool × Legacy.MarstekData :=
  match Legacy.parseCommand command payload timestamp data with
  | (.error _, data) => (.ok false, data)
  | (.ok parsed, data) => (.ok parsed, data)

/-- What `ProductProtocol.parse_notification` does after its checks. -/
def productDispatch (runtime : ProductRuntime) (command : Byte) (payload : Bytes)
    (timestamp : ℚ) (data : TrackedProductData) : Raises Bool × TrackedProductData :=
  match runtime.parsePayload command payload data with
  | (.error _, data) => (.ok false, data)
  | (.ok none, data) => (.ok false, data)
  | (.ok (some paths), data) =>
    (.ok true, paths.foldl
      (fun d path => d.markFieldUpdate (.path path) command timestamp payload) data)

/-- The legacy parser dispatches what the tool's decoder accepts and refuses the rest. -/
theorem legacyParse_eq (frame : Bytes) (timestamp : ℚ) (data : Legacy.MarstekData) :
    Legacy.parseNotification frame timestamp data = match parseFrame frame with
      | .ok (command, payload) => legacyDispatch command payload timestamp data
      | .error _ => (.ok false, data) := by
  rw [Legacy.parseNotification, openFrame_eq_parseFrame]
  cases parseFrame frame <;> rfl

/-- So does the product parser, for any runtime. -/
theorem productParse_eq (runtime : ProductRuntime) (frame : Bytes) (timestamp : ℚ)
    (data : TrackedProductData) :
    runtime.parseNotification frame timestamp data = match parseFrame frame with
      | .ok (command, payload) => productDispatch runtime command payload timestamp data
      | .error _ => (.ok false, data) := by
  rw [ProductRuntime.parseNotification, openFrame_eq_parseFrame]
  cases parseFrame frame <;> rfl

/-- The builders agree and accept one-byte commands with at most 250 bytes of
payload; the decoder inverts them on exactly the frames they build; and both
notification parsers let through exactly what the decoder accepts. -/
theorem frame_codec :
    (∀ (command : Int) (payload : Bytes),
      MarstekProtocol.buildCommand command payload =
        ProductProtocol.buildCommand command payload ∧
      Standalone.createCommandFrame command (some payload) =
        ProductProtocol.buildCommand command payload ∧
      Standalone.createCommandFrame command none = ProductProtocol.buildCommand command [] ∧
      ((∃ frame, ProductProtocol.buildCommand command payload = .ok frame) ↔
        (0 ≤ command ∧ command ≤ 255) ∧ payload.length ≤ 250)) ∧
    (∀ (command : Int) (payload frame : Bytes),
      ProductProtocol.buildCommand command payload = .ok frame →
      ∃ b : Byte, (b.toNat : Int) = command ∧ parseFrame frame = .ok (b, payload)) ∧
    (∀ (frame : Bytes) (command : Byte) (payload : Bytes),
      parseFrame frame = .ok (command, payload) →
      ProductProtocol.buildCommand command.toNat payload = .ok frame) ∧
    (∀ frame : Bytes, openFrame frame = .ok (parseFrame frame).toOption) ∧
    (∀ (frame : Bytes) (timestamp : ℚ) (data : Legacy.MarstekData),
      Legacy.parseNotification frame timestamp data = match parseFrame frame with
        | .ok (command, payload) => legacyDispatch command payload timestamp data
        | .error _ => (.ok false, data)) ∧
    ∀ (runtime : ProductRuntime) (frame : Bytes) (timestamp : ℚ) (data : TrackedProductData),
      runtime.parseNotification frame timestamp data = match parseFrame frame with
        | .ok (command, payload) => productDispatch runtime command payload timestamp data
        | .error _ => (.ok false, data) := by
  refine ⟨fun command payload => ⟨rfl, ?_, ?_, ?_⟩, fun command payload frame built => ?_,
    fun frame command payload decoded => ?_, openFrame_eq_parseFrame, legacyParse_eq,
    productParse_eq⟩
  · rw [createCommandFrame_eq_frameOf, productBuild_eq]
    rfl
  · rw [createCommandFrame_eq_frameOf, productBuild_eq]
    rfl
  · rw [productBuild_eq]
    by_cases fits : Fits command payload
    · rw [if_pos fits]
      exact iff_of_true ⟨_, rfl⟩ fits
    · rw [if_neg fits]
      exact iff_of_false (fun ⟨_, h⟩ => by cases h) fits
  · rw [productBuild_eq] at built
    split at built
    · rename_i fits
      obtain rfl : frameOf (UInt8.ofNat command.toNat) payload = frame := by simpa using built
      refine ⟨UInt8.ofNat command.toNat, ?_, parseFrame_frameOf fits.2 _⟩
      have range := fits.1
      rw [UInt8.toNat_ofNat']
      omega
    · cases built
  · obtain ⟨fits, rfl⟩ := (parseFrame_eq_ok_iff frame command payload).mp decoded
    have below := command.toNat_lt
    have accepted : Fits command.toNat payload := ⟨by omega, fits⟩
    rw [productBuild_eq, if_pos accepted]
    simp

/-- All three receivers refuse the byte string and leave their data as it was. -/
structure Rejected (received : Bytes) : Prop where
  standalone : ∃ message, parseFrame received = .error ⟨.valueError, message⟩
  legacy : ∀ (timestamp : ℚ) (data : Legacy.MarstekData),
    Legacy.parseNotification received timestamp data = (.ok false, data)
  product : ∀ (runtime : ProductRuntime) (timestamp : ℚ) (data : TrackedProductData),
    runtime.parseNotification received timestamp data = (.ok false, data)

theorem rejected_of_not_isFrame {received : Bytes} (h : ¬ IsFrame received) :
    Rejected received := by
  obtain ⟨message, raised⟩ := parseFrame_of_not_isFrame h
  refine ⟨⟨message, raised⟩, fun timestamp data => ?_, fun runtime timestamp data => ?_⟩
  · rw [legacyParse_eq, raised]
  · rw [productParse_eq, raised]

/-- What the receivers accept as a frame. -/
def Accepted (frame : Bytes) : Prop := ∃ decoded, parseFrame frame = .ok decoded

/-- Accepted frames are a prefix-free code in which distinct words of one length
differ at two positions or more, and every receiver refuses an accepted frame
after a change of one byte, without a suffix, or with bytes appended. -/
theorem single_errors_detected :
    PrefixFree Accepted ∧ DistanceTwo Accepted ∧
    ∀ frame received, Accepted frame → Corrupts frame received → Rejected received := by
  have same : Accepted = IsFrame := funext fun frame => propext (isFrame_iff_accepted frame).symm
  rw [same]
  refine ⟨isFrame_prefixFree, distanceTwo_of_detects isFrame_detectsSubstitution,
    fun frame received accepted corrupted => rejected_of_not_isFrame ?_⟩
  exact not_mem_of_corrupts isFrame_prefixFree isFrame_detectsSubstitution accepted corrupted

end MarstekBle.Protocol
