/- module: Entities/ControlState
   source: custom_components/marstek_ble/select.py, switch.py
   digest: When a select or switch shows the last confirmed command or readback of its own field. -/

import MarstekBle.Lib.GuardedRun
import MarstekBle.Product.Coherence

/-!
A `MarstekSelect` and a `MarstekSwitch` keep an optimistic copy of the value
they show. Both overwrite it from the coordinator's data object on every update
of the listeners, whichever packet caused the update. A switch does so on every
read as well, hence also in the state write that follows a command.
-/

set_option autoImplicit false
set_option relaxedAutoImplicit false

namespace MarstekBle.Entities

open MarstekBle.Data MarstekBle.Schema MarstekBle.Protocol MarstekBle.Product
open MarstekBle.Lib.GuardedRun

/-- A control entity: the flat name its value function reads, the shown value of
a stored one, the values it has a command for, and whether its getter
synchronizes with the coordinator. -/
structure ControlEntity (α : Type) where
  key : String
  valueFn : Option String
  valueToShown : Value → Option α
  sends : α → Bool
  syncsOnRead : Bool
  known : ∀ name ∈ valueFn, (Venus.flatFieldPaths.lookup name).isSome = true

/-! ### `MarstekSelect` -/

/-- `_value_to_option.get(value)`: of two options with one value the later stays. -/
def valueToOption (optionsMap : List (String × Option Int)) (value : Value) : Option String :=
  value.toRat?.bind fun q => (optionsMap.reverse.find? fun entry =>
    entry.2.any fun n => decide ((n : ℚ) = q)).map Prod.fst

def selectControl (key : String) (optionsMap : List (String × Option Int))
    (currentValueFn : Option String)
    (known : ∀ name ∈ currentValueFn, (Venus.flatFieldPaths.lookup name).isSome = true) :
    ControlEntity String :=
  { key, valueFn := currentValueFn, valueToShown := valueToOption optionsMap,
    sends := fun option => (optionsMap.lookup option).isSome, syncsOnRead := false, known }

def chargeMode : ControlEntity String :=
  selectControl "charge_mode"
    [("Load First", some 1), ("PV2 Passthrough", some 0),
      ("Simultaneous Charge Discharge", some 2)]
    (some "config_mode") (by rintro name ⟨⟩; decide)

def ctPollingRateSelect : ControlEntity String :=
  selectControl "ct_polling_rate_select"
    [("Fastest (0)", some 0), ("Medium (1)", some 1), ("Slowest (2)", some 2)]
    (some "ct_polling_rate") (by rintro name ⟨⟩; decide)

/-! ### `MarstekSwitch` -/

/-- `value if value is not None`. -/
def notNone : Value → Option Value
  | .none => none
  | value => some value

/-- `async_turn_on` and `async_turn_off` assume `True` and `False`. -/
def isBool : Value → Bool
  | .bool _ => true
  | _ => false

def switchControl (key : String) (valueFn : Option String)
    (known : ∀ name ∈ valueFn, (Venus.flatFieldPaths.lookup name).isSome = true) :
    ControlEntity Value :=
  { key, valueFn, valueToShown := notNone, sends := isBool, syncsOnRead := true, known }

def out1Control : ControlEntity Value :=
  switchControl "out1_control" (some "out1_active") (by rintro name ⟨⟩; decide)

def epsMode : ControlEntity Value := switchControl "eps_mode" none nofun
def acInput : ControlEntity Value := switchControl "ac_input" none nofun
def generator : ControlEntity Value := switchControl "generator" none nofun
def buzzer : ControlEntity Value := switchControl "buzzer" none nofun

/-! ### The entity beside the coordinator's data -/

/-- The coordinator's data object, and `_attr_current_option` or `_assumed_state`. -/
structure ControlState (α : Type) where
  data : TrackedProductData
  assumed : Option α

inductive ControlEvent (α : Type) where
  | notification (n : Notification)
  | update
  | read
  | command (value : α) (succeeded : Bool)

/-- The run's own record beside the entity: the most recent of the confirmed
commands and the mappable readbacks of the entity's field. -/
structure Watched (α : Type) where
  state : ControlState α
  latest : Option α

/-- Whether the coordinator updates its listeners after a notification. -/
def updatesListeners (data : TrackedProductData) (n : Notification) : Bool :=
  Venus.venusRuntime.handled data n

namespace ControlEntity

variable {α : Type} (control : ControlEntity α)

/-- The shown value of what the data object holds; none where nothing maps. -/
def stored (data : TrackedProductData) : Option α :=
  control.valueFn.bind fun name => match Venus.getattr data name with
    | .ok value => control.valueToShown value
    | .error _ => none

/-- `_sync_from_coordinator` of a select, `_current_state` of a switch. -/
def sync (s : ControlState α) : ControlState α :=
  { s with assumed := (control.stored s.data).or s.assumed }

/-- A read of `current_option` or `is_on`: what it returns is what is then assumed. -/
def read (s : ControlState α) : ControlState α :=
  if control.syncsOnRead then control.sync s else s

def displayed (s : ControlState α) : Option α := (control.read s).assumed

/-- `async_select_option`, `async_turn_on`, `async_turn_off` once `send_command`
has returned; a confirmed command ends with a state write, which reads. -/
def commandReturns (s : ControlState α) (value : α) (succeeded : Bool) : ControlState α :=
  if succeeded then control.read { s with assumed := some value } else s

/-- The path of the entity's own field. -/
def path : Option DataPath := control.valueFn.bind fun name => Venus.flatFieldPaths.lookup name

/-- The notification reports the entity's own field. -/
def Reports (data : TrackedProductData) (n : Notification) : Prop :=
  ∃ p ∈ control.path, p ∈ Venus.venusRuntime.reportedPaths data n

instance (data : TrackedProductData) (n : Notification) :
    Decidable (control.Reports data n) := by
  unfold Reports
  infer_instance

/-- The shown value of what a notification itself decodes for the entity's field. -/
def readback (data : TrackedProductData) (n : Notification) : Option α :=
  if control.Reports data n then
    control.path.bind fun p => (Venus.venusRuntime.decoded n p).bind control.valueToShown
  else none

def step (w : Watched α) : ControlEvent α → Option (Watched α)
  | .notification n =>
    let received := { w.state with data := Venus.venusRuntime.receive w.state.data n }
    some ⟨if updatesListeners w.state.data n then control.sync received else received,
      (control.readback w.state.data n).or w.latest⟩
  | .update => some { w with state := control.sync w.state }
  | .read => some { w with state := control.read w.state }
  | .command value succeeded =>
    if control.sends value then
      some ⟨control.commandReturns w.state value succeeded,
        if succeeded then some value else w.latest⟩
    else none

/-- The entity once it is added: it has synchronized with what the coordinator
received before, and what it shows counts as its first readback. -/
def added (before : List Notification) : Watched α :=
  let s := control.sync
    ⟨Venus.venusRuntime.receiveAll Venus.venusRuntime.createData before, none⟩
  ⟨s, s.assumed⟩

/-- The stored readback, where it maps, is the value assumed. -/
def Agrees (s : ControlState α) : Prop := ∀ a ∈ control.stored s.data, s.assumed = some a

/-- A select is updated by another packet, or without one, only while its stored
readback is the option it shows. A switch is commanded only to its stored readback. -/
def Timely (w : Watched α) : ControlEvent α → Watched α → Prop
  | .notification n, _ => control.syncsOnRead = false → updatesListeners w.state.data n = true →
      ¬ control.Reports w.state.data n → control.Agrees w.state
  | .update, _ => control.syncsOnRead = false → control.Agrees w.state
  | .read, _ => True
  | .command value succeeded, _ => control.syncsOnRead = true → succeeded = true →
      ∀ a ∈ control.stored w.state.data, a = value

/-- What every reachable state meets. -/
structure Coherent (s : ControlState α) : Prop where
  inShape : InShape Venus.venusRuntime s.data
  synced : control.syncsOnRead = true → control.Agrees s

variable {control}

theorem sync_assumed_iff (s : ControlState α) :
    (control.sync s).assumed = s.assumed ↔ control.Agrees s := by
  unfold sync Agrees
  cases h : control.stored s.data with
  | none => simp
  | some a => simp [eq_comm]

theorem agrees_sync (s : ControlState α) : control.Agrees (control.sync s) := by
  intro a held
  have stored : control.stored s.data = some a := held
  simp [sync, stored]

/-- A getter that synchronizes finds nothing to change. -/
theorem displayed_eq {s : ControlState α} (coherent : control.Coherent s) :
    control.displayed s = s.assumed := by
  unfold displayed read
  split
  · rename_i reads
    exact (sync_assumed_iff s).mpr (coherent.synced reads)
  · rfl

/-! ### The stored readback -/

private theorem flatFieldPaths_isLeaf : ∀ entry ∈ Venus.flatFieldPaths,
    Venus.venusRuntime.createData.tree.IsLeaf entry.2 := by
  decide +kernel

theorem isLeaf_of_path {p : DataPath} (own : control.path = some p) :
    Venus.venusRuntime.createData.tree.IsLeaf p := by
  obtain ⟨name, _, found⟩ := Option.bind_eq_some_iff.mp own
  exact flatFieldPaths_isLeaf (name, p) (Lib.AttributeTree.mem_of_lookup found)

theorem stored_eq (data : TrackedProductData) :
    control.stored data =
      control.path.bind fun p => (data.tree.valueAt p).bind control.valueToShown := by
  unfold stored path
  rw [Option.bind_assoc]
  congr 1
  ext1 name
  unfold Venus.getattr
  cases Venus.flatFieldPaths.lookup name with
  | none => rfl
  | some p =>
    rw [Option.bind_some]
    dsimp only
    cases data.tree.valueAt p with
    | none => rfl
    | some value => rfl

variable (control) in
/-- A notification replaces the stored readback by its own where it reports the
field, and keeps it otherwise. -/
theorem stored_receive {data : TrackedProductData} (inShape : InShape Venus.venusRuntime data)
    (n : Notification) :
    control.stored (Venus.venusRuntime.receive data n) =
      if control.Reports data n then control.readback data n else control.stored data := by
  unfold readback
  rw [stored_eq, stored_eq]
  cases own : control.path with
  | none => simp [Reports, own]
  | some p =>
    have reports : control.Reports data n ↔ p ∈ Venus.venusRuntime.reportedPaths data n := by
      simp [Reports, own]
    have received := receive_leaf Venus.venusRuntime_lawful inShape n (isLeaf_of_path own)
    by_cases h : p ∈ Venus.venusRuntime.reportedPaths data n
    · simp only [h, if_true] at received
      simp [reports, h, received.1]
    · simp only [h, if_false] at received
      simp [reports, h, received.1]

/-- A notification that reports anything updates the listeners. -/
theorem updatesListeners_of_reports {data : TrackedProductData} {n : Notification}
    (reports : control.Reports data n) : updatesListeners data n = true := by
  obtain ⟨p, _, reported⟩ := reports
  unfold ProductRuntime.reportedPaths at reported
  split at reported
  · rename_i command payload opened
    split at reported
    · rename_i paths parsed
      cases whole : Venus.venusRuntime.parsePayload command payload data with
      | mk result after =>
        rw [whole] at parsed
        obtain rfl : result = .ok (some paths) := parsed
        simp only [updatesListeners, ProductRuntime.handled, ProductRuntime.parseNotification,
          opened, whole]
    · cases reported
  · cases reported

/-! ### One event -/

theorem coherent_sync {s : ControlState α} (inShape : InShape Venus.venusRuntime s.data) :
    control.Coherent (control.sync s) :=
  ⟨inShape, fun _ => agrees_sync s⟩

theorem coherent_step {w w' : Watched α} {event : ControlEvent α}
    (coherent : control.Coherent w.state) (taken : control.step w event = some w') :
    control.Coherent w'.state := by
  cases event with
  | notification n =>
    have received : InShape Venus.venusRuntime (Venus.venusRuntime.receive w.state.data n) :=
      inShape_receive Venus.venusRuntime_lawful coherent.inShape n
    obtain rfl := Option.some.inj taken
    by_cases updated : updatesListeners w.state.data n = true
    · simp only [updated, if_true]
      exact coherent_sync received
    · have unreported : ¬ control.Reports w.state.data n := fun reports =>
        updated (updatesListeners_of_reports reports)
      have kept := control.stored_receive coherent.inShape n
      rw [if_neg unreported] at kept
      simp only [updated]
      refine ⟨received, fun reads a held => coherent.synced reads a ?_⟩
      exact kept ▸ held
  | update =>
    obtain rfl := Option.some.inj taken
    exact coherent_sync coherent.inShape
  | read =>
    obtain rfl := Option.some.inj taken
    dsimp only [read]
    split
    · exact coherent_sync coherent.inShape
    · exact coherent
  | command value succeeded =>
    rw [step] at taken
    split at taken
    · obtain rfl := Option.some.inj taken
      dsimp only [commandReturns, read]
      split
      · split
        · exact coherent_sync coherent.inShape
        · rename_i assumes
          exact ⟨coherent.inShape, fun reads => absurd reads assumes⟩
      · exact coherent
    · cases taken

/-- Where the entity shows the latest value, it still does after an event exactly
when the event is timely. -/
theorem step_shows_iff {w w' : Watched α} {event : ControlEvent α}
    (coherent : control.Coherent w.state) (shows : w.state.assumed = w.latest)
    (taken : control.step w event = some w') :
    w'.state.assumed = w'.latest ↔ control.Timely w event w' := by
  cases event with
  | notification n =>
    obtain rfl := Option.some.inj taken
    have stored := control.stored_receive coherent.inShape n
    by_cases reports : control.Reports w.state.data n
    · -- a readback of the entity's own field is what it shows next, if it maps
      rw [if_pos reports] at stored
      simp [Timely, sync, updatesListeners_of_reports reports, reports, stored, shows]
    · rw [if_neg reports] at stored
      have silent : control.readback w.state.data n = none := if_neg reports
      by_cases updated : updatesListeners w.state.data n = true
      · have syncs : (control.sync
            { w.state with data := Venus.venusRuntime.receive w.state.data n }).assumed =
              (control.sync w.state).assumed := by
          simp only [sync, stored]
        simp only [updated, if_true, silent, Option.none_or, syncs, ← shows, sync_assumed_iff]
        constructor
        · exact fun agrees _ _ _ => agrees
        · intro timely
          cases reads : control.syncsOnRead with
          | true => exact coherent.synced reads
          | false => exact timely reads updated reports
      · simp [Timely, updated, silent, shows]
  | update =>
    obtain rfl := Option.some.inj taken
    simp only [← shows, sync_assumed_iff]
    constructor
    · exact fun agrees _ => agrees
    · intro timely
      cases reads : control.syncsOnRead with
      | true => exact coherent.synced reads
      | false => exact timely reads
  | read =>
    obtain rfl := Option.some.inj taken
    exact iff_of_true ((displayed_eq coherent).trans shows) trivial
  | command value succeeded =>
    rw [step] at taken
    split at taken
    · obtain rfl := Option.some.inj taken
      cases succeeded with
      | false => simp [Timely, commandReturns, shows]
      | true =>
        cases reads : control.syncsOnRead with
        | false => simp [Timely, commandReturns, read, reads]
        | true =>
          -- the read of the state write looks at the stored readback first
          have afterwards : (control.commandReturns w.state value true).assumed =
              (control.sync { w.state with assumed := some value }).assumed := by
            simp only [commandReturns, read, reads, if_true]
          have agrees : control.Agrees { w.state with assumed := some value } ↔
              ∀ a ∈ control.stored w.state.data, a = value := by
            simp [Agrees, eq_comm]
          simp only [Timely, reads, if_true, forall_const, afterwards, ← agrees]
          exact sync_assumed_iff _
    · cases taken

/-- A control shows the most recent of its confirmed commands and of the mappable
readbacks of its own field, in every state of a run, exactly when each event of
the run is timely. -/
theorem shows_latest_iff (control : ControlEntity α) (before : List Notification)
    (events : List (ControlEvent α)) :
    States control.step (fun w => control.displayed w.state = w.latest)
        (control.added before) events ↔
      Steps control.step control.Timely (control.added before) events := by
  have start : control.Coherent (control.added before).state :=
    coherent_sync (inShape_receiveAll Venus.venusRuntime_lawful
      (inShape_createData Venus.venusRuntime) before)
  refine states_iff_steps (J := fun w => control.Coherent w.state)
    (fun w e w' coherent taken => coherent_step coherent taken) ?_ ?_ start
    (displayed_eq start) events
  · intro w e w' coherent shows timely taken
    rw [displayed_eq coherent] at shows
    rw [displayed_eq (coherent_step coherent taken)]
    exact (step_shows_iff coherent shows taken).mpr timely
  · intro w e w' coherent shows shows' taken
    rw [displayed_eq coherent] at shows
    rw [displayed_eq (coherent_step coherent taken)] at shows'
    exact (step_shows_iff coherent shows taken).mp shows'

/-- A configuration packet with charge mode 1. -/
private def loadFirst : Notification := ⟨frameOf 0x1A (1 :: List.replicate 16 0), 10⟩

/-- The CT polling rate alone. -/
private def pollingRate : Notification := ⟨frameOf 0x22 [0], 20⟩

/-- Runtime information with output 1 off. -/
private def outputOff : Notification := ⟨frameOf 0x03 (List.replicate 37 0), 10⟩

/-- The charge mode read back as 1 and then set to 0 shows 1 again once the CT
polling rate arrives. Output 1, read back as off, is still shown off after it has
been turned on. -/
theorem earlier_readback_returns :
    let selecting := [.notification loadFirst, .command "PV2 Passthrough" true,
      .notification pollingRate]
    let switching := [.notification outputOff, .command (.bool true) true]
    ¬ States chargeMode.step (fun w => chargeMode.displayed w.state = w.latest)
        (chargeMode.added []) selecting ∧
      (run chargeMode.step (chargeMode.added []) selecting).map
        (fun w => (chargeMode.displayed w.state, w.latest)) =
          some (some "Load First", some "PV2 Passthrough") ∧
      (run out1Control.step (out1Control.added []) switching).map
        (fun w => (out1Control.displayed w.state, w.latest)) =
          some (some (.bool false), some (.bool true)) :=
  ⟨by decide +kernel, by decide +kernel, rfl⟩

end ControlEntity

end MarstekBle.Entities
