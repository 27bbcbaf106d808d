/- module: Product/FlatNames
   source: custom_components/marstek_ble/products/jupiter_runtime.py
   digest: A flat name shows the metadata of its field unless another error code was heard last. -/

import Mathlib.Data.List.Induction
import MarstekBle.Product.Reporters

/-!
The inverter, the charge controller and the battery each call a leaf
`error_code` or keep one under that flat name. The detailed telemetry reports
all of them; the runtime information reports the inverter's alone, and from then
on the flat name carries an entry that is not the battery's.
-/

set_option autoImplicit false
set_option relaxedAutoImplicit false

namespace MarstekBle.Product.Jupiter

open MarstekBle.Data MarstekBle.Schema MarstekBle.Protocol MarstekBle.Lib.AttributeTree

private abbrev root : DataTree := jupiterRuntime.createData.tree

private theorem flat_isLeaf : ∀ e ∈ flatPaths, root.IsLeaf e.2 := by decide

/-- The leaves named `error_code`, and the leaf that the flat name stands for. -/
def errorCodes : List DataPath :=
  [[.attr "inverter", .attr "error_code"], [.attr "mppt", .attr "error_code"],
    [.attr "battery", .attr "error_code_1"]]

/-- The leaves named `warning_code`, and the leaf that the flat name stands for. -/
def warningCodes : List DataPath :=
  [[.attr "inverter", .attr "warning_code"], [.attr "mppt", .attr "warning_code"],
    [.attr "battery", .attr "warning_code_1"]]

/-- A flat name is recorded with its field and with the leaves of that name. -/
private theorem mem_metadataAliases_iff {e : String × DataPath} (listed : e ∈ flatPaths)
    (q : DataPath) : e.1 ∈ metadataAliases q ↔ e.1 ∈ baseAliases q ∨ q = e.2 := by
  have distinct : ∀ e ∈ flatPaths, ∀ e' ∈ flatPaths, e'.1 = e.1 → e'.2 = e.2 := by decide
  have unmapped : ∀ e ∈ flatPaths,
      e.1 ∉ ["solar_power", "remaining_capacity", "available_capacity"] := by decide
  have apart := unmapped e listed
  simp only [List.mem_cons, List.not_mem_nil, or_false, not_or] at apart
  have mapped : e.1 ∈ (flatPaths.filter (·.2 = q)).map Prod.fst ↔ q = e.2 := by
    rw [List.mem_map]
    constructor
    · rintro ⟨e', he', same⟩
      obtain ⟨member, path⟩ := List.mem_filter.mp he'
      exact (of_decide_eq_true path).symm.trans (distinct e listed e' member same)
    · rintro rfl
      exact ⟨e, List.mem_filter.mpr ⟨listed, decide_eq_true rfl⟩, rfl⟩
  have summed : e.1 ∉ (if q.head? = some (.attr "pv_inputs") ∧ q.getLast? = some (.attr "power")
      then ["solar_power"] else []) := by
    split <;> simp [apart.1]
  have measured : e.1 ∉ (if q = [.attr "runtime", .attr "battery_soc"] ∨
      q = [.attr "battery", .attr "rated_capacity"]
      then ["remaining_capacity", "available_capacity"] else []) := by
    split <;> simp [apart.2]
  simp only [metadataAliases, List.mem_eraseDups, List.mem_append, mapped, summed, measured,
    or_false]

/-- Only the error and the warning codes share their flat name with other leaves. -/
private theorem base_flat : ∀ q ∈ root.leaves, ∀ e ∈ flatPaths, e.1 ∈ baseAliases q →
    q = e.2 ∨ (e.1 = "error_code" ∧ q ∈ errorCodes) ∨
      (e.1 = "warning_code" ∧ q ∈ warningCodes) := by
  decide +kernel

private theorem claims_of_named {e : String × DataPath} (listed : e ∈ flatPaths) {q : DataPath}
    (leaf : root.IsLeaf q) (named : e.1 ∈ baseAliases q ∨ q = e.2) :
    q ∈ jupiterRuntime.claimants e.1 :=
  List.mem_filter.mpr ⟨Node.mem_leaves_of_isLeaf leaf,
    decide_eq_true ((mem_metadataAliases_iff listed q).mpr named)⟩

/-- The leaves recorded under a flat name. -/
private theorem claimants_flat {e : String × DataPath} (listed : e ∈ flatPaths) :
    e.2 ∈ jupiterRuntime.claimants e.1 ∧ ∀ q ∈ jupiterRuntime.claimants e.1,
      q = e.2 ∨ (e.1 = "error_code" ∧ q ∈ errorCodes) ∨
        (e.1 = "warning_code" ∧ q ∈ warningCodes) := by
  constructor
  · exact claims_of_named listed (flat_isLeaf e listed) (.inr rfl)
  · intro q claims
    obtain ⟨leaf, named⟩ := List.mem_filter.mp claims
    rcases (mem_metadataAliases_iff listed q).mp (of_decide_eq_true named) with base | own
    · exact base_flat q leaf e listed base
    · exact .inl own

/-- A flat name has no dot in it, and every leaf's own key has. -/
private theorem flat_apart {e : String × DataPath} (listed : e ∈ flatPaths) (q : DataPath)
    (leaf : root.IsLeaf q) : pathString q ≠ e.1 := by
  intro same
  refine jupiterRuntime_lawful.aliasesApart q e.2 leaf (flat_isLeaf e listed) ?_
  rw [same]
  exact (mem_metadataAliases_iff listed e.2).mpr (.inr rfl)

/-! ### Who reports the codes -/

private theorem notDecoded_codes : NotDecoded jupiterRuntime (errorCodes ++ warningCodes) := by
  intro e registered payload tree reported parsed p member hp
  have outside : ∀ q ∈ decodedPaths, q ∉ errorCodes ++ warningCodes := by decide
  exact outside p ((decodesPlainly e registered payload).mem_of_reported parsed member) hp

private theorem steady_codes : ∀ p ∈ errorCodes ++ warningCodes,
    SteadilyRead jupiterRuntime p := by decide +kernel

/-- The commands that report a code. -/
private def codeCommands (p : DataPath) : List Byte :=
  if p = [.attr "inverter", .attr "error_code"] then [0x03, 0x14] else [0x14]

private theorem reads_codes : ∀ p ∈ errorCodes ++ warningCodes,
    ∀ packet ∈ jupiterRuntime.profile.packets,
      (jupiterRuntime.parserFor packet.command = none ∧ AlwaysReads root packet p) ↔
        packet.command ∈ codeCommands p := by decide +kernel

private theorem reported_code {p : DataPath} (code : p ∈ errorCodes ++ warningCodes)
    {data : TrackedProductData} (inShape : InShape jupiterRuntime data) (n : Notification) :
    p ∈ jupiterRuntime.reportedPaths data n ↔ ∃ packet ∈ jupiterRuntime.profile.packets,
      Carries packet n.frame ∧ packet.command ∈ codeCommands p := by
  rw [mem_reportedPaths_iff jupiterRuntime_lawful inShape n (steady_codes p code)
    (notDecoded_codes.of_mem code)]
  refine exists_congr fun packet => and_congr_right fun declared => and_congr_right fun _ => ?_
  exact reads_codes p code packet declared

/-- A packet of the profile is known by its command. -/
private theorem packet_eq {packet known : PacketSchema}
    (declared : packet ∈ jupiterRuntime.profile.packets)
    (found : jupiterRuntime.packetFor packet.command = some known) : packet = known := by
  have own : jupiterRuntime.packetFor packet.command = some packet :=
    (packetFor_eq_some_iff jupiterRuntime _ packet).mpr ⟨declared, rfl⟩
  exact Option.some.inj (own.symm.trans found)

private theorem telemetry_declared : detailedTelemetry ∈ jupiterRuntime.profile.packets :=
  ((packetFor_eq_some_iff jupiterRuntime 0x14 detailedTelemetry).mp rfl).1

private theorem information_declared : runtimeInformation ∈ jupiterRuntime.profile.packets :=
  ((packetFor_eq_some_iff jupiterRuntime 0x03 runtimeInformation).mp rfl).1

/-- The detailed telemetry alone reports a code other than the inverter's error code. -/
private theorem reported_by_telemetry {p : DataPath} (code : p ∈ errorCodes ++ warningCodes)
    (other : p ≠ [.attr "inverter", .attr "error_code"])
    {data : TrackedProductData} (inShape : InShape jupiterRuntime data) (n : Notification) :
    p ∈ jupiterRuntime.reportedPaths data n ↔ Carries detailedTelemetry n.frame := by
  rw [reported_code code inShape n, codeCommands, if_neg other]
  constructor
  · rintro ⟨packet, declared, carries, reads⟩
    have found : jupiterRuntime.packetFor packet.command = some detailedTelemetry := by
      rw [List.mem_singleton.mp reads]
      rfl
    exact packet_eq declared found ▸ carries
  · exact fun carries => ⟨detailedTelemetry, telemetry_declared, carries, List.mem_cons_self⟩

/-- Both packets report the error code of the inverter. -/
private theorem reported_inverter {data : TrackedProductData}
    (inShape : InShape jupiterRuntime data) (n : Notification) :
    [.attr "inverter", .attr "error_code"] ∈ jupiterRuntime.reportedPaths data n ↔
      Carries runtimeInformation n.frame ∨ Carries detailedTelemetry n.frame := by
  rw [reported_code (by decide) inShape n, codeCommands, if_pos rfl]
  constructor
  · rintro ⟨packet, declared, carries, reads⟩
    rcases List.mem_cons.mp reads with information | telemetry
    · have found : jupiterRuntime.packetFor packet.command = some runtimeInformation := by
        rw [information]
        rfl
      exact .inl (packet_eq declared found ▸ carries)
    · have found : jupiterRuntime.packetFor packet.command = some detailedTelemetry := by
        rw [List.mem_singleton.mp telemetry]
        rfl
      exact .inr (packet_eq declared found ▸ carries)
  · rintro (carries | carries)
    · exact ⟨runtimeInformation, information_declared, carries, List.mem_cons_self⟩
    · exact ⟨detailedTelemetry, telemetry_declared, carries,
        List.mem_cons_of_mem _ List.mem_cons_self⟩

/-! ### The metadata of a flat name -/

private theorem getFieldMetadata_eq_iff (data : TrackedProductData) (name : String)
    (p : DataPath) (now : ℚ) :
    data.getFieldMetadata (.name name) now = data.getFieldMetadata (.path p) now ↔
      data.fieldUpdates name = data.fieldUpdates (pathString p) := by
  refine (Option.map_injective fun a b same => ?_).eq_iff
  have fields := FieldMetadata.mk.inj same
  cases a
  cases b
  simp_all

/-- Any name but `error_code` carries the entry of its field. -/
theorem fieldUpdates_flat (ns : List Notification) {e : String × DataPath}
    (listed : e ∈ flatPaths) (other : e.1 ≠ "error_code") :
    let data := jupiterRuntime.receiveAll jupiterRuntime.createData ns
    data.fieldUpdates e.1 = data.fieldUpdates (pathString e.2) := by
  obtain ⟨own, claims⟩ := claimants_flat listed
  refine fieldUpdates_alias jupiterRuntime_lawful (flat_apart listed) (flat_isLeaf e listed)
    (fun data inShape n => ⟨?_, fun reported => ⟨e.2, own, reported⟩⟩) ns
    (inShape_createData jupiterRuntime) rfl
  rintro ⟨q, hq, reported⟩
  rcases claims q hq with rfl | ⟨named, _⟩ | ⟨named, code⟩
  · exact reported
  · exact absurd named other
  · have warnings : ∀ q ∈ warningCodes, q ∈ errorCodes ++ warningCodes ∧
        q ≠ [.attr "inverter", .attr "error_code"] := by decide
    have canonical : ∀ e ∈ flatPaths, e.1 = "warning_code" → e.2 ∈ warningCodes := by decide
    obtain ⟨code', other'⟩ := warnings e.2 (canonical e listed named)
    rw [reported_by_telemetry code' other' inShape n]
    exact (reported_by_telemetry (warnings q code).1 (warnings q code).2 inShape n).mp reported

/-! ### The error code -/

/-- Each runtime information of the run has a detailed telemetry after it. -/
def FollowedByTelemetry (ns : List Notification) : Prop :=
  ∀ before n after, ns = before ++ n :: after → Carries runtimeInformation n.frame →
    ∃ later ∈ after, Carries detailedTelemetry later.frame

private theorem followed_append {ns : List Notification} {n : Notification} :
    FollowedByTelemetry (ns ++ [n]) ↔ ¬ Carries runtimeInformation n.frame ∧
      (Carries detailedTelemetry n.frame ∨ FollowedByTelemetry ns) := by
  constructor
  · intro followed
    refine ⟨fun carries => ?_,
      or_iff_not_imp_left.mpr fun silent before m after split carries => ?_⟩
    · obtain ⟨later, member, _⟩ := followed ns n [] rfl carries
      cases member
    · have longer : ns ++ [n] = before ++ m :: (after ++ [n]) := by simp [split]
      obtain ⟨later, member, telemetry⟩ := followed before m (after ++ [n]) longer carries
      rcases List.mem_append.mp member with inside | last
      · exact ⟨later, inside, telemetry⟩
      · exact absurd (List.mem_singleton.mp last ▸ telemetry) silent
  · rintro ⟨quiet, ending⟩ before m after split carries
    rcases List.eq_nil_or_concat after with rfl | ⟨rest, last, rfl⟩
    · obtain ⟨_, same⟩ := List.append_inj' split rfl
      exact absurd ((List.cons.inj same).1 ▸ carries) quiet
    · have parts : ns ++ [n] = (before ++ m :: rest) ++ [last] := by simp [split]
      obtain ⟨shorter, same⟩ := List.append_inj' parts rfl
      obtain rfl := (List.cons.inj same).1
      rcases ending with telemetry | followed
      · exact ⟨n, by simp, telemetry⟩
      · obtain ⟨later, member, telemetry⟩ := followed before m rest shorter carries
        exact ⟨later, by simp [member], telemetry⟩

private theorem entry_of_carries {packet : PacketSchema} {n : Notification}
    (carries : Carries packet n.frame) :
    ∃ payload, n.entry = some (entryOf packet.command n.time payload) := by
  obtain ⟨payload, fits, _, same⟩ := carries
  refine ⟨payload, ?_⟩
  simp only [Notification.entry, same, openFrame_frameOf fits packet.command]

private theorem not_information_of_telemetry {n : Notification}
    (carries : Carries detailedTelemetry n.frame) : ¬ Carries runtimeInformation n.frame := by
  intro both
  obtain ⟨_, telemetry⟩ := entry_of_carries carries
  obtain ⟨_, information⟩ := entry_of_carries both
  have same : detailedTelemetry.command = runtimeInformation.command :=
    congrArg UpdateEntry.command (Option.some.inj (telemetry.symm.trans information))
  exact absurd same (by decide)

private theorem claimed_error_code {data : TrackedProductData}
    (inShape : InShape jupiterRuntime data) (n : Notification) :
    (∃ q ∈ jupiterRuntime.claimants "error_code", q ∈ jupiterRuntime.reportedPaths data n) ↔
      Carries runtimeInformation n.frame ∨ Carries detailedTelemetry n.frame := by
  have flat : ("error_code", [.attr "battery", .attr "error_code_1"]) ∈ flatPaths := by decide
  constructor
  · rintro ⟨q, claims, reported⟩
    have code : q ∈ errorCodes := by
      rcases (claimants_flat flat).2 q claims with rfl | ⟨_, code⟩ | ⟨named, _⟩
      · decide
      · exact code
      · exact absurd named (by decide)
    by_cases inverter : q = [.attr "inverter", .attr "error_code"]
    · exact (reported_inverter inShape n).mp (inverter ▸ reported)
    · exact .inr ((reported_by_telemetry (List.mem_append_left _ code) inverter inShape n).mp
        reported)
  · intro carries
    have inverter : root.IsLeaf [.attr "inverter", .attr "error_code"] := by decide
    exact ⟨_, claims_of_named flat inverter (.inl (by decide)),
      (reported_inverter inShape n).mpr carries⟩

/-- The key of the battery's error code. -/
def batteryErrorKey : String := pathString [.attr "battery", .attr "error_code_1"]

/-- One notification: the runtime information rewrites the flat entry alone, the
telemetry both entries, and nothing else either. -/
private theorem receive_error_code {data : TrackedProductData}
    (inShape : InShape jupiterRuntime data) (n : Notification) :
    let after := jupiterRuntime.receive data n
    (Carries runtimeInformation n.frame ∧ after.fieldUpdates "error_code" = n.entry ∧
      after.fieldUpdates batteryErrorKey = data.fieldUpdates batteryErrorKey) ∨
    (Carries detailedTelemetry n.frame ∧ after.fieldUpdates "error_code" = n.entry ∧
      after.fieldUpdates batteryErrorKey = n.entry) ∨
    (¬ Carries runtimeInformation n.frame ∧ ¬ Carries detailedTelemetry n.frame ∧
      after.fieldUpdates "error_code" = data.fieldUpdates "error_code" ∧
      after.fieldUpdates batteryErrorKey = data.fieldUpdates batteryErrorKey) := by
  have flat : ("error_code", [.attr "battery", .attr "error_code_1"]) ∈ flatPaths := by decide
  have aliased := receive_alias jupiterRuntime_lawful inShape n (flat_apart flat)
  have own := receive_leaf jupiterRuntime_lawful inShape n (flat_isLeaf _ flat)
  dsimp only at aliased own ⊢
  have claimed := claimed_error_code inShape n
  have heard : [.attr "battery", .attr "error_code_1"] ∈ jupiterRuntime.reportedPaths data n ↔
      Carries detailedTelemetry n.frame := reported_by_telemetry (by decide) (by decide) inShape n
  by_cases telemetry : Carries detailedTelemetry n.frame
  · rw [if_pos (claimed.mpr (.inr telemetry))] at aliased
    rw [if_pos (heard.mpr telemetry)] at own
    exact .inr (.inl ⟨telemetry, aliased, own.2⟩)
  · rw [if_neg (fun reported => telemetry (heard.mp reported))] at own
    by_cases information : Carries runtimeInformation n.frame
    · rw [if_pos (claimed.mpr (.inl information))] at aliased
      exact .inl ⟨information, aliased, own.2⟩
    · rw [if_neg (fun claims => (claimed.mp claims).elim information telemetry)] at aliased
      exact .inr (.inr ⟨information, telemetry, aliased, own.2⟩)

/-- The battery's entry always comes from a telemetry, and the flat error code carries
it exactly if a telemetry follows each runtime information of the run. -/
theorem fieldUpdates_error_code (ns : List Notification) :
    let data := jupiterRuntime.receiveAll jupiterRuntime.createData ns
    (∀ entry, data.fieldUpdates batteryErrorKey = some entry → entry.command = 0x14) ∧
      (data.fieldUpdates "error_code" = data.fieldUpdates batteryErrorKey ↔
        FollowedByTelemetry ns) := by
  induction ns using List.reverseRecOn with
  | nil => exact ⟨nofun, iff_of_true rfl (by simp [FollowedByTelemetry])⟩
  | append_singleton ns n ih =>
    have inShape := inShape_receiveAll jupiterRuntime_lawful
      (inShape_createData jupiterRuntime) ns
    obtain ⟨commands, agree⟩ := ih
    have last : jupiterRuntime.receiveAll jupiterRuntime.createData (ns ++ [n]) =
        jupiterRuntime.receive
          (jupiterRuntime.receiveAll jupiterRuntime.createData ns) n := by
      simp [ProductRuntime.receiveAll]
    rw [last, followed_append]
    rcases receive_error_code inShape n with ⟨information, flat, kept⟩ |
      ⟨telemetry, flat, own⟩ | ⟨quiet, silent, flat, kept⟩
    · -- the flat entry has the command 0x03, which no entry of the battery has
      refine ⟨fun entry stored => commands entry (kept ▸ stored), ?_⟩
      refine iff_of_false (fun same => ?_) (fun h => h.1 information)
      obtain ⟨payload, written⟩ := entry_of_carries information
      have stored := (kept.symm.trans same.symm).trans (flat.trans written)
      have command : runtimeInformation.command = 0x14 := commands _ stored
      exact absurd command (by decide)
    · refine ⟨fun entry stored => ?_, iff_of_true (flat.trans own.symm)
        ⟨not_information_of_telemetry telemetry, .inl telemetry⟩⟩
      obtain ⟨payload, written⟩ := entry_of_carries telemetry
      rw [← Option.some.inj ((own.trans written).symm.trans stored)]
      rfl
    · refine ⟨fun entry stored => commands entry (kept ▸ stored), ?_⟩
      rw [flat, kept, agree]
      simp [quiet, silent]

/-- The metadata under every flat name is that of the field the name returns, at
any clock reading, exactly after the runs in which a detailed telemetry follows each
runtime information. -/
theorem flat_metadata_coherent_iff (ns : List Notification) :
    let data := jupiterRuntime.receiveAll jupiterRuntime.createData ns
    (∀ e ∈ flatPaths, ∀ now : ℚ,
      data.getFieldMetadata (.name e.1) now = data.getFieldMetadata (.path e.2) now) ↔
      FollowedByTelemetry ns := by
  have flat : ("error_code", [.attr "battery", .attr "error_code_1"]) ∈ flatPaths := by decide
  have code := (fieldUpdates_error_code ns).2
  constructor
  · intro coherent
    exact code.mp ((getFieldMetadata_eq_iff _ _ _ 0).mp (coherent _ flat 0))
  · intro followed e listed now
    refine (getFieldMetadata_eq_iff _ _ _ now).mpr ?_
    by_cases named : e.1 = "error_code"
    · have canonical : ∀ e ∈ flatPaths, e.1 = "error_code" →
          e.2 = [.attr "battery", .attr "error_code_1"] := by decide
      rw [named, canonical e listed named]
      exact code.mpr followed
    · exact fieldUpdates_flat ns listed named

/-- One runtime information, and the flat error code shows when it came although no
error code of the battery was ever heard. -/
theorem error_code_without_battery :
    let data := jupiterRuntime.receiveAll jupiterRuntime.createData
      [⟨frameOf 0x03 (List.replicate 74 0), 5⟩]
    ("error_code", [.attr "battery", .attr "error_code_1"]) ∈ flatPaths ∧
    (data.getFieldMetadata (.name "error_code") 7).isSome = true ∧
    data.getFieldMetadata (.path [.attr "battery", .attr "error_code_1"]) 7 = none := by
  decide +kernel

end MarstekBle.Product.Jupiter
