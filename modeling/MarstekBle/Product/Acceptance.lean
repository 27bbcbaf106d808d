/- module: Product/Acceptance
   source: custom_components/marstek_ble/product_runtime.py
   digest: Which byte strings a runtime accepts; the others leave the data object alone. -/

import MarstekBle.Product.Lawful

set_option autoImplicit false
set_option relaxedAutoImplicit false

namespace MarstekBle.Product

open MarstekBle.Data MarstekBle.Schema MarstekBle.Protocol MarstekBle.Lib.AttributeTree

/-- A frame built for a packet of the profile, with a payload the packet admits. -/
def BuiltFor (runtime : ProductRuntime) (frame : Bytes) : Prop :=
  ∃ packet ∈ runtime.profile.packets, ∃ payload : Bytes, payload.length ≤ 250 ∧
    packet.Admits payload.length ∧ buildCommand packet.command payload = .ok frame

private theorem builtFor_of_accepts {runtime : ProductRuntime} {command : Byte}
    {payload frame : Bytes} (built : buildCommand command payload = .ok frame)
    (accepts : Accepts runtime command payload) : BuiltFor runtime frame := by
  obtain ⟨packet, found, admits⟩ := accepts
  obtain ⟨member, rfl⟩ := (packetFor_eq_some_iff runtime command packet).mp found
  exact ⟨packet, member, payload, ((buildCommand_eq_ok_iff _ _ _).mp built).1, admits, built⟩

private theorem accepts_of_builtFor {runtime : ProductRuntime} {frame : Bytes}
    (h : BuiltFor runtime frame) : ∃ command payload,
      buildCommand command payload = .ok frame ∧ Accepts runtime command payload := by
  obtain ⟨packet, member, payload, _, admits, built⟩ := h
  exact ⟨packet.command, payload, built, packet,
    (packetFor_eq_some_iff runtime _ packet).mpr ⟨member, rfl⟩, admits⟩

/-- Exact acceptance and atomic rejection, for every lawful runtime. -/
theorem parseNotification_exact {runtime : ProductRuntime} (lawful : Lawful runtime)
    {data : TrackedProductData} (inShape : InShape runtime data) (frame : Bytes) (time : ℚ) :
    (BuiltFor runtime frame ∧ (runtime.parseNotification frame time data).1 = .ok true) ∨
    (¬ BuiltFor runtime frame ∧ runtime.parseNotification frame time data = (.ok false, data)) := by
  rcases parseNotification_cases lawful frame with
    ⟨command, payload, built, _, accepts, effect, heffect⟩ | ⟨notAccepted, hrejected⟩
  · exact .inl ⟨builtFor_of_accepts built accepts, by rw [(heffect data inShape).2 time]⟩
  · refine .inr ⟨fun h => ?_, (hrejected data inShape).2 time⟩
    obtain ⟨command, payload, built, accepts⟩ := accepts_of_builtFor h
    exact notAccepted command payload built accepts

/-- After any notifications, a registered runtime accepts exactly the frames built
for its packets; it raises on nothing, and a rejected byte string changes nothing. -/
theorem notification_accepted_iff_built {runtime : ProductRuntime}
    (registered : runtime ∈ runtimeProducts) (ns : List Notification) (frame : Bytes) (time : ℚ) :
    let data := runtime.receiveAll runtime.createData ns
    let result := runtime.parseNotification frame time data
    (∃ accepted, result.1 = .ok accepted) ∧
    (result.1 = .ok true ↔ BuiltFor runtime frame) ∧
    (result.1 = .ok false → result.2 = data) := by
  have lawful := lawful_of_mem registered
  have inShape := inShape_receiveAll lawful (inShape_createData runtime) ns
  rcases parseNotification_exact lawful inShape frame time with ⟨built, h⟩ | ⟨notBuilt, h⟩
  · exact ⟨⟨true, h⟩, iff_of_true h built, fun refused => by simp [h] at refused⟩
  · exact ⟨⟨false, by rw [h]⟩, iff_of_false (by simp [h]) notBuilt, fun _ => by rw [h]⟩

/-- The Jupiter has shown its network and one status when the next status arrives. -/
theorem notification_accepted_iff_built_jupiter :
    let runtime := Jupiter.jupiterRuntime
    let ns : List Notification :=
      [⟨frameOf 0x08 [0x61, 0x62], 1⟩, ⟨frameOf 0x0D (List.replicate 12 0), 2⟩]
    let frame := frameOf 0x0D (List.replicate 12 1)
    let data := runtime.receiveAll runtime.createData ns
    let result := runtime.parseNotification frame 3 data
    (∃ accepted, result.1 = .ok accepted) ∧
    (result.1 = .ok true ↔ BuiltFor runtime frame) ∧
    (result.1 = .ok false → result.2 = data) ∧ result.1 = .ok true := by
  have accepted := notification_accepted_iff_built
    (List.mem_cons_of_mem _ List.mem_cons_self : Jupiter.jupiterRuntime ∈ runtimeProducts)
    [⟨frameOf 0x08 [0x61, 0x62], 1⟩, ⟨frameOf 0x0D (List.replicate 12 0), 2⟩]
    (frameOf 0x0D (List.replicate 12 1)) 3
  have built : BuiltFor Jupiter.jupiterRuntime (frameOf 0x0D (List.replicate 12 1)) :=
    ⟨Jupiter.unresolvedStatus, by simp [Jupiter.jupiterRuntime, Jupiter.jupiterRuntimeProfile],
      List.replicate 12 1, by decide, by decide, rfl⟩
  exact ⟨accepted.1, accepted.2.1, accepted.2.2, accepted.2.1.mpr built⟩

end MarstekBle.Product
