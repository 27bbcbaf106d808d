/- module: Product/RedundantViews
   source: custom_components/marstek_ble/products/jupiter.py, schema.py
   digest: The Jupiter views of the same payload bytes agree in every reachable state. -/

import MarstekBle.Product.PacketGroups

set_option autoImplicit false
set_option relaxedAutoImplicit false

namespace MarstekBle.Product.Jupiter

open MarstekBle.Data MarstekBle.Schema MarstekBle.Protocol MarstekBle.Lib.AttributeTree

/-! ### The groups -/

def eventFields : List String :=
  ["summary", "year", "month", "day", "hour", "minute", "event_code", "event_value", "event_state"]

def eventPath (i : Nat) (name : String) : DataPath := [.attr "events", .index i, .attr name]

def eventPaths (i : Nat) : List DataPath := eventFields.map (eventPath i)

def mpptPath (name : String) : DataPath := [.attr "mppt", .attr name]

/-- The flags of the MPPT controller with the bits they are read from. -/
def mpptBits : List (String × Nat) := [
  ("controller_ready", 2),
  ("pv_input_1_active", 4),
  ("pv_input_2_active", 5),
  ("pv_input_3_active", 6),
  ("pv_input_4_active", 7)]

def mpptPaths : List DataPath := mpptPath "state_flags" :: mpptBits.map fun e => mpptPath e.1

def runtimePath (name : String) : DataPath := [.attr "runtime", .attr name]

def statusPaths : List DataPath :=
  [runtimePath "operational_status", runtimePath "surplus_feed_in_active"]

def gridPaths : List DataPath :=
  [runtimePath "grid_connection_valid", runtimePath "ac_output_active"]

/-- Neither text decoder reports one of the leaves. -/
private theorem notDecoded_of_apart {paths : List DataPath}
    (apart : ∀ p ∈ paths, p ∉ decodedPaths) : NotDecoded jupiterRuntime paths := by
  intro e registered payload tree reported parsed p member listed
  exact apart p listed ((decodesPlainly e registered payload).mem_of_reported parsed member)

/-- The conditions on a group that can be computed. -/
def ownsPlainly (packet : PacketSchema) (paths : List DataPath) : Prop :=
  (∀ p ∈ paths, p ∉ decodedPaths ∧ jupiterRuntime.createData.tree.IsLeaf p ∧
    ReadsAlways jupiterRuntime.createData.tree packet p) ∧
  ∀ other ∈ jupiterRuntime.profile.packets, other ≠ packet → ∀ p ∈ paths,
    (locate other p jupiterRuntime.createData.tree 0).isNone

instance (packet : PacketSchema) (paths : List DataPath) :
    Decidable (ownsPlainly packet paths) :=
  inferInstanceAs (Decidable (_ ∧ _))

theorem ownedBy_of_plainly {packet : PacketSchema} {paths : List DataPath}
    (declared : packet ∈ jupiterRuntime.profile.packets)
    (undispatched : jupiterRuntime.parserFor packet.command = none)
    (plainly : ownsPlainly packet paths) : OwnedBy jupiterRuntime packet paths where
  declared := declared
  undispatched := undispatched
  undecoded := notDecoded_of_apart fun p listed => (plainly.1 p listed).1
  leaves := fun p listed => (plainly.1 p listed).2.1
  reads := fun p listed => (plainly.1 p listed).2.2
  alone := fun other known apart p listed =>
    Option.isNone_iff_eq_none.mp (plainly.2 other known apart p listed)

private theorem events_plainly : ∀ i < 20, ownsPlainly eventHistory (eventPaths i) := by
  decide +kernel

theorem ownedBy_events {i : Nat} (inside : i < 20) :
    OwnedBy jupiterRuntime eventHistory (eventPaths i) :=
  ownedBy_of_plainly (by decide) (by decide) (events_plainly i inside)

theorem ownedBy_mppt : OwnedBy jupiterRuntime detailedTelemetry mpptPaths :=
  ownedBy_of_plainly (by decide) (by decide) (by decide +kernel)

theorem ownedBy_status : OwnedBy jupiterRuntime runtimeInformation statusPaths :=
  ownedBy_of_plainly (by decide) (by decide) (by decide +kernel)

theorem ownedBy_grid : OwnedBy jupiterRuntime runtimeInformation gridPaths :=
  ownedBy_of_plainly (by decide) (by decide) (by decide +kernel)

/-! ### What a payload holds -/

abbrev freshTree : DataTree := jupiterRuntime.createData.tree

/-- The two bytes of a code are a value and a state. -/
theorem integerAt_H (payload : Bytes) {offset : Nat} (fits : offset + 2 ≤ payload.length) :
    integerAt .H payload offset =
      integerAt .B payload offset + 256 * integerAt .B payload (offset + 1) := by
  have parts : slice payload offset (offset + 2) =
      slice payload offset (offset + 1) ++ slice payload (offset + 1) (offset + 1 + 1) :=
    (slice_append payload (Nat.le_succ _) (Nat.le_succ _)).symm
  have low : (slice payload offset (offset + 1)).length = 1 := by
    rw [length_slice (by omega)]
    omega
  have whole : unsignedOf (slice payload offset (offset + 2)) =
      unsignedOf (slice payload offset (offset + 1)) +
        256 * unsignedOf (slice payload (offset + 1) (offset + 1 + 1)) := by
    rw [parts, unsignedOf_append, low, pow_one]
  show ((unsignedOf (slice payload offset (offset + 2)) : Nat) : Int) = _
  rw [whole]
  push_cast
  rfl

/-- The fields of a record are looked up in the record, at the record's place. -/
theorem locate_event {i : Nat} (inside : i < 20) (name : String) :
    locate eventHistory (eventPath i name) freshTree 0 =
      locate eventHistory [.attr name] (.record jupiterEventRecord : DataTree) (0 + 0 + i * 8) := by
  have member : (List.replicate 20 (.record jupiterEventRecord : DataTree))[i]? =
      some (.record jupiterEventRecord) := by
    rw [List.getElem?_replicate, if_pos inside]
  exact congrArg (fun item => Option.bind item fun item =>
    locate eventHistory [.attr name] item (0 + 0 + i * 8)) member

theorem valueAt_event {i : Nat} (inside : i < 20) (name : String) :
    freshTree.valueAt (eventPath i name) =
      (Node.record jupiterEventRecord : DataTree).valueAt [.attr name] := by
  have member : (List.replicate 20 (.record jupiterEventRecord : DataTree))[i]? =
      some (.record jupiterEventRecord) := by
    rw [List.getElem?_replicate, if_pos inside]
  have below : ∀ t : DataTree, t.valueAt [.attr "events", .index i, .attr name] =
      (t.child? (.attr "events")).bind fun events =>
        (events.child? (.index i)).bind fun record => record.valueAt [.attr name] := by
    intro t
    simp only [Node.valueAt_cons]
  rw [eventPath, below]
  exact congrArg (fun item => Option.bind item fun record => record.valueAt [.attr name]) member

/-- The rendering reads the eight bytes of a record, one integer after another. -/
theorem integerValues_event (payload : Bytes) (offset : Nat) :
    integerValues .little [.H, .B, .B, .B, .B, .B, .B] (slice payload offset (offset + 8)) =
      integerAt .H payload offset ::
        [2, 3, 4, 5, 6, 7].map fun k => integerAt .B payload (offset + k) := by
  have two : IntegerCode.H.width = 2 := rfl
  have one : IntegerCode.B.width = 1 := rfl
  rw [integerValues_cons_slice .H _ payload (by omega),
    integerValues_cons_slice .B _ payload (by omega),
    integerValues_cons_slice .B _ payload (by omega),
    integerValues_cons_slice .B _ payload (by omega),
    integerValues_cons_slice .B _ payload (by omega),
    integerValues_cons_slice .B _ payload (by omega),
    integerValues_cons_slice .B _ payload (by omega)]
  rfl

/-- The nine views of one record of the payload. -/
theorem fieldOf_event {i : Nat} (inside : i < 20) {payload : Bytes}
    (admits : eventHistory.Admits payload.length) :
    let held := fun name => fieldOf freshTree eventHistory payload (eventPath i name)
    ∃ year month day hour minute value state : Int,
      held "year" = some (.int year) ∧ held "month" = some (.int month) ∧
      held "day" = some (.int day) ∧ held "hour" = some (.int hour) ∧
      held "minute" = some (.int minute) ∧ held "event_value" = some (.int value) ∧
      held "event_state" = some (.int state) ∧
      held "event_code" = some (.int (value + 256 * state)) ∧
      held "summary" = some (.str (summaryText year month day hour minute value state)) := by
  have long : 160 ≤ payload.length := admits.1
  have place : ∀ name {found : Nat × FieldSource},
      locate eventHistory [.attr name] (.record jupiterEventRecord : DataTree) (0 + 0 + i * 8) =
        some found → locate eventHistory (eventPath i name) freshTree 0 = some found :=
    fun name _ here => (locate_event inside name).trans here
  have code : integerAt .H payload (0 + 0 + i * 8 + 6) =
      integerAt .B payload (0 + 0 + i * 8 + 6) +
        256 * integerAt .B payload (0 + 0 + i * 8 + 7) := integerAt_H payload (by omega)
  refine ⟨_, _, _, _, _, _, _, fieldOf_little (place "year" rfl) rfl,
    fieldOf_little (place "month" rfl) rfl, fieldOf_little (place "day" rfl) rfl,
    fieldOf_little (place "hour" rfl) rfl, fieldOf_little (place "minute" rfl) rfl,
    fieldOf_little (place "event_value" rfl) rfl, fieldOf_little (place "event_state" rfl) rfl,
    ?_, fieldOf_integers (place "summary" rfl) (by decide) (integerValues_event payload _) rfl⟩
  rw [← code]
  exact fieldOf_little (place "event_code" rfl) rfl

/-! ### The views -/

/-- A record is unset, or its code and its rendering are those of its other fields. -/
def EventAgrees (data : TrackedProductData) (i : Nat) : Prop :=
  let held := fun name => data.tree.valueAt (eventPath i name)
  (∀ name ∈ eventFields, held name = some .none) ∨
  ∃ year month day hour minute value state : Int,
    held "year" = some (.int year) ∧ held "month" = some (.int month) ∧
    held "day" = some (.int day) ∧ held "hour" = some (.int hour) ∧
    held "minute" = some (.int minute) ∧ held "event_value" = some (.int value) ∧
    held "event_state" = some (.int state) ∧
    held "event_code" = some (.int (value + 256 * state)) ∧
    held "summary" = some (.str (summaryText year month day hour minute value state))

/-- The MPPT values are unset, or the flags are the bits of the state flags. -/
def MpptAgrees (data : TrackedProductData) : Prop :=
  (∀ p ∈ mpptPaths, data.tree.valueAt p = some .none) ∨
  ∃ flags : Int, data.tree.valueAt (mpptPath "state_flags") = some (.int flags) ∧
    ∀ e ∈ mpptBits, data.tree.valueAt (mpptPath e.1) = some (.bool (hasBit flags e.2))

/-- The status is unset, or the flag is its bit 1. -/
def StatusAgrees (data : TrackedProductData) : Prop :=
  (∀ p ∈ statusPaths, data.tree.valueAt p = some .none) ∨
  ∃ status : Int, data.tree.valueAt (runtimePath "operational_status") = some (.int status) ∧
    data.tree.valueAt (runtimePath "surplus_feed_in_active") = some (.bool (hasBit status 1))

/-- The value under the old field name is the value under the new one. -/
def GridAgrees (data : TrackedProductData) : Prop :=
  (∀ p ∈ gridPaths, data.tree.valueAt p = some .none) ∨
  ∃ valid : Bool, ∀ p ∈ gridPaths, data.tree.valueAt p = some (.bool valid)

variable {data : TrackedProductData}

theorem Agrees.event {i : Nat} (inside : i < 20)
    (agrees : Agrees jupiterRuntime eventHistory (eventPaths i) data) : EventAgrees data i := by
  have listed : ∀ name ∈ eventFields, eventPath i name ∈ eventPaths i :=
    fun name known => List.mem_map.mpr ⟨name, known, rfl⟩
  rcases agrees.values with unset | ⟨payload, admits, shown⟩
  · refine .inl fun name known => ?_
    have fresh : ∀ name ∈ eventFields,
        ((Node.record jupiterEventRecord : DataTree).valueAt [.attr name]) = some .none := by
      simp only [eventFields, List.forall_mem_cons]
      exact ⟨rfl, rfl, rfl, rfl, rfl, rfl, rfl, rfl, rfl, by simp⟩
    exact (unset _ (listed name known)).trans ((valueAt_event inside name).trans (fresh name known))
  · have views := fieldOf_event inside admits
    simp only [← shown _ (listed "year" (by decide)), ← shown _ (listed "month" (by decide)),
      ← shown _ (listed "day" (by decide)), ← shown _ (listed "hour" (by decide)),
      ← shown _ (listed "minute" (by decide)), ← shown _ (listed "event_value" (by decide)),
      ← shown _ (listed "event_state" (by decide)), ← shown _ (listed "event_code" (by decide)),
      ← shown _ (listed "summary" (by decide))] at views
    exact .inr views

theorem Agrees.mppt (agrees : Agrees jupiterRuntime detailedTelemetry mpptPaths data) :
    MpptAgrees data := by
  rcases agrees.values with unset | ⟨payload, admits, shown⟩
  · have fresh : ∀ p ∈ mpptPaths, freshTree.valueAt p = some .none := by
      simp only [mpptPaths, mpptBits, List.map_cons, List.map_nil, List.forall_mem_cons]
      exact ⟨rfl, rfl, rfl, rfl, rfl, rfl, by simp⟩
    exact .inl fun p listed => (unset p listed).trans (fresh p listed)
  · have flags : fieldOf freshTree detailedTelemetry payload (mpptPath "state_flags") =
        some (.int (integerAt .H payload (0 + 0 + 0x20))) := fieldOf_little rfl rfl
    have bits : ∀ e ∈ mpptBits, fieldOf freshTree detailedTelemetry payload (mpptPath e.1) =
        some (.bool (hasBit (integerAt .H payload (0 + 0 + 0x20)) e.2)) := by
      simp only [mpptBits, List.forall_mem_cons]
      exact ⟨fieldOf_little rfl rfl, fieldOf_little rfl rfl, fieldOf_little rfl rfl,
        fieldOf_little rfl rfl, fieldOf_little rfl rfl, by simp⟩
    refine .inr ⟨_, (shown _ List.mem_cons_self).trans flags, fun e known => ?_⟩
    have listed : mpptPath e.1 ∈ mpptPaths :=
      List.mem_cons_of_mem _ (List.mem_map.mpr ⟨e, known, rfl⟩)
    exact (shown _ listed).trans (bits e known)

theorem Agrees.status (agrees : Agrees jupiterRuntime runtimeInformation statusPaths data) :
    StatusAgrees data := by
  rcases agrees.values with unset | ⟨payload, admits, shown⟩
  · have fresh : ∀ p ∈ statusPaths, freshTree.valueAt p = some .none := by
      simp only [statusPaths, List.forall_mem_cons]
      exact ⟨rfl, rfl, by simp⟩
    exact .inl fun p listed => (unset p listed).trans (fresh p listed)
  · have status : fieldOf freshTree runtimeInformation payload (runtimePath "operational_status") =
        some (.int (integerAt .B payload (0 + 0 + 0x3C))) := fieldOf_little rfl rfl
    have surplus : fieldOf freshTree runtimeInformation payload
        (runtimePath "surplus_feed_in_active") =
          some (.bool (hasBit (integerAt .B payload (0 + 0 + 0x3C)) 1)) := fieldOf_little rfl rfl
    exact .inr ⟨_, (shown _ (by decide)).trans status, (shown _ (by decide)).trans surplus⟩

theorem Agrees.grid (agrees : Agrees jupiterRuntime runtimeInformation gridPaths data) :
    GridAgrees data := by
  rcases agrees.values with unset | ⟨payload, admits, shown⟩
  · have fresh : ∀ p ∈ gridPaths, freshTree.valueAt p = some .none := by
      simp only [gridPaths, List.forall_mem_cons]
      exact ⟨rfl, rfl, by simp⟩
    exact .inl fun p listed => (unset p listed).trans (fresh p listed)
  · have views : ∀ p ∈ gridPaths, fieldOf freshTree runtimeInformation payload p =
        some (.bool (decide (integerAt .B payload (0 + 0 + 0x0E) ≠ 0))) := by
      simp only [gridPaths, List.forall_mem_cons]
      exact ⟨fieldOf_little rfl (nonzero_int _), fieldOf_little rfl (nonzero_int _), by simp⟩
    exact .inr ⟨_, fun p listed => (shown p listed).trans (views p listed)⟩

/-- The groups of leaves that are read from the same bytes. -/
def groups : List (List DataPath) :=
  mpptPaths :: statusPaths :: gridPaths :: (List.range 20).map eventPaths

theorem ownedBy_groups : ∀ paths ∈ groups, ∃ packet, OwnedBy jupiterRuntime packet paths := by
  intro paths listed
  simp only [groups, List.mem_cons] at listed
  rcases listed with rfl | rfl | rfl | event
  · exact ⟨_, ownedBy_mppt⟩
  · exact ⟨_, ownedBy_status⟩
  · exact ⟨_, ownedBy_grid⟩
  · obtain ⟨i, inside, rfl⟩ := List.mem_map.mp event
    exact ⟨_, ownedBy_events (List.mem_range.mp inside)⟩

/-- After every run of notifications the views of the same bytes agree, and every
notification reports all leaves of a group or none, under one entry. -/
theorem redundant_views_agree (ns : List Notification) :
    let data := jupiterRuntime.receiveAll jupiterRuntime.createData ns
    (∀ i < 20, EventAgrees data i) ∧ MpptAgrees data ∧ StatusAgrees data ∧ GridAgrees data ∧
    ∀ paths ∈ groups, ∀ p ∈ paths, ∀ q ∈ paths,
      (∀ n, p ∈ jupiterRuntime.reportedPaths data n ↔ q ∈ jupiterRuntime.reportedPaths data n) ∧
      data.fieldUpdates (pathString p) = data.fieldUpdates (pathString q) := by
  have inShape : InShape jupiterRuntime
      (jupiterRuntime.receiveAll jupiterRuntime.createData ns) :=
    inShape_receiveAll jupiterRuntime_lawful (inShape_createData jupiterRuntime) ns
  have agrees : ∀ {packet paths}, OwnedBy jupiterRuntime packet paths →
      Agrees jupiterRuntime packet paths
        (jupiterRuntime.receiveAll jupiterRuntime.createData ns) := by
    intro packet paths owned
    exact agrees_receiveAll jupiterRuntime_lawful owned ns (inShape_createData jupiterRuntime)
      (agrees_createData jupiterRuntime packet paths)
  refine ⟨fun i inside => Agrees.event inside (agrees (ownedBy_events inside)),
    Agrees.mppt (agrees ownedBy_mppt), Agrees.status (agrees ownedBy_status),
    Agrees.grid (agrees ownedBy_grid), fun paths listed p hp q hq => ?_⟩
  obtain ⟨packet, owned⟩ := ownedBy_groups paths listed
  refine ⟨fun n => ?_, (agrees owned).entries p hp q hq⟩
  rw [owned.reported_iff jupiterRuntime_lawful inShape n hp,
    owned.reported_iff jupiterRuntime_lawful inShape n hq]

end MarstekBle.Product.Jupiter
