/- module: Polling/Integration
   source: custom_components/marstek_ble/__init__.py, coordinator.py, product_coordinator.py,
           marstek_device.py
   digest: A config entry and the devices of its coordinators: which frames are ever written. -/

import MarstekBle.Device.Callers
import MarstekBle.Lib.GuardedRun
import MarstekBle.Polling.Schedule
import MarstekBle.Polling.WritePlatforms

/-!
Every coordinator has a device of its own. A poll that starts to send a command and
an entity that is acted on call its `send_command`; the device writes the frame of
the call at each attempt. The devices run between the steps of the entry, and how
their calls end is left open on both sides.
-/

set_option autoImplicit false
set_option relaxedAutoImplicit false

namespace MarstekBle.Polling

open MarstekBle.Data MarstekBle.Product MarstekBle.Protocol MarstekBle.Device
open MarstekBle.Lib.GuardedRun

/-- A coordinator's device, and who made each of its calls: an action, or polling. -/
structure Port where
  device : Device.State
  actionOf : Nat → Option WriteAction := fun _ => none

/-- A frame written to a device, for an action or for polling. -/
structure Transmission where
  coordinator : Nat
  action : Option WriteAction
  frame : Bytes

structure Integration where
  entry : State
  ports : Nat → Port
  transmissions : List Transmission := []

inductive Activity where
  | entry (event : Event)
  | device (coordinator : Nat) (event : Device.Event)
  | act (action : WriteAction)

namespace Integration

variable (config : Device.Config) (entry : Entry)

def setPort (s : Integration) (c : Nat) (port : Port) : Integration :=
  { s with ports := fun k => if k = c then port else s.ports k }

/-- `self.device.send_command(...)` of a coordinator. -/
def sendCommand (s : Integration) (c : Nat) (action : Option WriteAction) (call : Call) :
    Option Integration :=
  let port := s.ports c
  (Device.step config port.device (.sendCommand call)).map fun device => s.setPort c {
    device
    actionOf := fun id => if id = port.device.calls then action else port.actionOf id }

/-- A step of the entry; the command a poll starts to send goes to its coordinator's device. -/
def entryStep (s : Integration) (event : Event) : Option Integration :=
  (Polling.step entry s.entry event).bind fun next =>
    match next.sent.drop s.entry.sent.length with
    | [] => some { s with entry := next }
    | started :: _ => sendCommand config { s with entry := next } started.1 none
        { command := started.2.command, payload := started.2.payload }

/-- A step of a coordinator's device that no caller takes. -/
def deviceStep (s : Integration) (c : Nat) (event : Device.Event) : Option Integration :=
  let port := s.ports c
  (Device.step config port.device event).map fun device =>
    { s.setPort c { port with device } with
      transmissions := s.transmissions ++ (framesWritten port.device device).map fun written =>
        ⟨c, port.actionOf written.1, written.2⟩ }

/-- An action on an entity, which exists while its platform is forwarded. -/
def act (s : Integration) (action : WriteAction) : Option Integration :=
  if action.platform ∈ s.entry.platforms then
    match s.entry.domainData, action.call with
    | some domainData, some call =>
      sendCommand config s domainData.coordinator (some action) call
    | _, _ => some s
  else none

def step (s : Integration) : Activity → Option Integration
  | .entry event => entryStep config entry s event
  | .device _ (.sendCommand _) => none
  | .device c event => deviceStep config s c event
  | .act action => act config s action

/-- The entry in some state, its coordinators' devices fresh from their constructor. -/
def fresh (entry : State) (address : String) : Integration :=
  { entry, ports := fun _ => { device := Device.initial (some address) } }

end Integration

variable {config : Device.Config} {entry : Entry}

/-! ### Frames of polls -/

/-- The frame of one of the commands a product schedules, and what its command byte is. -/
structure IsPollFrame (product : ProductRuntime) (frame : Bytes) : Prop where
  scheduled : ∃ command ∈ product.fastPoll ++ product.mediumPoll,
    buildCommand command.command command.payload = .ok frame
  supported : ∃ commandByte, frame[3]? = some commandByte ∧
    (commandByte ∈ product.profile.supportedCommands ∨ commandByte = identificationCommand)

/-- What a runtime's construction checks and a frame's layout say about its poll frames. -/
theorem isPollFrame_of_scheduled {product : ProductRuntime} {command : PollCommand}
    (scheduled : command ∈ product.fastPoll ++ product.mediumPoll) {frame : Bytes}
    (built : buildCommand command.command command.payload = .ok frame) :
    IsPollFrame product frame := by
  refine ⟨⟨command, scheduled, built⟩, command.command, ?_, ?_⟩
  · obtain ⟨_, rfl⟩ := (buildCommand_eq_ok_iff _ _ _).mp built
    rfl
  · exact (product.scheduled command scheduled).symm

/-- The frame is a poll frame of a coordinator's product. -/
def State.PollFrame (s : State) (c : Nat) (frame : Bytes) : Prop :=
  ∃ product, s.products[c]? = some product ∧ IsPollFrame product frame

theorem State.Planned.pollFrame {s : State} {c : Nat} {command : PollCommand}
    (planned : s.Planned c command) {frame : Bytes}
    (built : buildCommand command.command command.payload = .ok frame) : s.PollFrame c frame := by
  obtain ⟨product, known, scheduled⟩ := planned
  exact ⟨product, known, isPollFrame_of_scheduled scheduled built⟩

theorem State.PollFrame.mono {s t : State} {c : Nat} {frame : Bytes} (h : s.PollFrame c frame)
    (more : s.products <+: t.products) : t.PollFrame c frame := by
  obtain ⟨product, known, framed⟩ := h
  exact ⟨product, State.product_of_prefix more known, framed⟩

/-! ### Calls and frames of polling -/

variable {s t : Integration}

namespace Integration

/-- The calls and the frames that no action asked for carry poll frames. -/
structure PollFrames (s : Integration) : Prop where
  plans : Plans s.entry
  numbered : ∀ c, Numbered (s.ports c).device
  callers : ∀ c, ∀ caller ∈ (s.ports c).device.callers,
    (s.ports c).actionOf caller.id = none → s.entry.PollFrame c caller.frame
  transmissions : ∀ sent ∈ s.transmissions, sent.action = none →
    s.entry.PollFrame sent.coordinator sent.frame

/-- The entry goes on; its products stay. -/
theorem PollFrames.of_entry (h : PollFrames s) {next : State} (plans : Plans next)
    (more : s.entry.products <+: next.products) : PollFrames { s with entry := next } where
  plans := plans
  numbered := h.numbered
  callers := fun c caller member polling => (h.callers c caller member polling).mono more
  transmissions := fun sent member polling => (h.transmissions sent member polling).mono more

/-- What holds of a port that is set and held of every port before holds of every port. -/
theorem forall_setPort {P : Nat → Port → Prop} (s : Integration) {c : Nat} {port : Port}
    (new : P c port) (old : ∀ k, P k (s.ports k)) : ∀ k, P k ((s.setPort c port).ports k) := by
  intro k
  by_cases here : k = c
  · subst here
    simpa only [setPort, if_true] using new
  · simpa only [setPort, if_neg here] using old k

/-- A call that polling makes carries a poll frame. -/
theorem PollFrames.sendCommand (h : PollFrames s) {c : Nat} {action : Option WriteAction}
    {call : Call} (framed : action = none → ∀ frame,
      buildCommand call.command call.payload = .ok frame → s.entry.PollFrame c frame)
    (sent : sendCommand config s c action call = some t) : PollFrames t := by
  obtain ⟨device, stepped, rfl⟩ := Option.map_eq_some_iff.mp sent
  refine ⟨h.plans, ?_, ?_, h.transmissions⟩
  · exact forall_setPort (P := fun _ port => Numbered port.device) s
      (numbered_of_step (h.numbered c) stepped) h.numbered
  · refine forall_setPort (P := fun k port => ∀ caller ∈ port.device.callers,
      port.actionOf caller.id = none → s.entry.PollFrame k caller.frame) s ?_ h.callers
    have before : ∀ caller ∈ (s.ports c).device.callers,
        (if caller.id = (s.ports c).device.calls then action
          else (s.ports c).actionOf caller.id) = none → s.entry.PollFrame c caller.frame := by
      intro caller member polling
      rw [if_neg (h.numbered c caller member).ne] at polling
      exact h.callers c caller member polling
    intro caller member polling
    rcases caller_of_step stepped with ⟨callers, _⟩ | ⟨_, frame, same, built, _, callers⟩
    · exact before caller (callers caller member) polling
    · obtain rfl := Device.Event.sendCommand.inj same
      rcases callers caller member with waiting | rfl
      · exact before caller waiting polling
      · exact framed (by simpa using polling) frame built

theorem PollFrames.entryStep (h : PollFrames s) {event : Event}
    (stepped : entryStep config entry s event = some t) : PollFrames t := by
  obtain ⟨next, hnext, rest⟩ := Option.bind_eq_some_iff.mp stepped
  have effect := scheduleEffect_of_step h.plans hnext
  have onwards := h.of_entry (effect.plans h.plans) effect.products
  rcases effect.sent with unsent | ⟨c, command, appended, planned⟩
  · rw [unsent, List.drop_length] at rest
    obtain rfl := Option.some.inj rest
    exact onwards
  · rw [appended, List.drop_left] at rest
    refine onwards.sendCommand (fun _ frame built => ?_) rest
    exact (planned.mono effect.products).pollFrame built

theorem PollFrames.deviceStep (h : PollFrames s) {c : Nat} {event : Device.Event}
    (noCall : ∀ call, event ≠ .sendCommand call)
    (stepped : deviceStep config s c event = some t) : PollFrames t := by
  obtain ⟨device, hdevice, rfl⟩ := Option.map_eq_some_iff.mp stepped
  have callers : ∀ caller ∈ device.callers, caller ∈ (s.ports c).device.callers := by
    rcases caller_of_step hdevice with none_new | ⟨call, _, called, _⟩
    · exact none_new.callers
    · exact absurd called (noCall call)
  refine ⟨h.plans, ?_, ?_, ?_⟩
  · exact forall_setPort (P := fun _ port => Numbered port.device) s
      (numbered_of_step (h.numbered c) hdevice) h.numbered
  · refine forall_setPort (P := fun k port => ∀ caller ∈ port.device.callers,
      port.actionOf caller.id = none → s.entry.PollFrame k caller.frame) s ?_ h.callers
    intro caller member polling
    exact h.callers c caller (callers caller member) polling
  · intro sent member polling
    rcases List.mem_append.mp member with before | fresh
    · exact h.transmissions sent before polling
    · obtain ⟨written, hwritten, rfl⟩ := List.mem_map.mp fresh
      obtain ⟨caller, hcaller, id, frame⟩ := mem_framesWritten hdevice hwritten
      have framed := h.callers c caller hcaller (by rw [id]; exact polling)
      rwa [frame] at framed

theorem PollFrames.act (h : PollFrames s) {action : WriteAction}
    (stepped : act config s action = some t) : PollFrames t := by
  simp only [Integration.act, Option.ite_none_right_eq_some] at stepped
  obtain ⟨_, acted⟩ := stepped
  split at acted
  · exact h.sendCommand (fun polling => absurd polling (by simp)) acted
  · obtain rfl := Option.some.inj acted
    exact h

theorem PollFrames.step (h : PollFrames s) {activity : Activity}
    (stepped : step config entry s activity = some t) : PollFrames t := by
  cases activity with
  | entry event => exact h.entryStep stepped
  | device c event =>
    cases event with
    | sendCommand call => simp [Integration.step] at stepped
    | _ => exact h.deviceStep (by simp) stepped
  | act action => exact h.act stepped

theorem pollFrames_fresh (start : State) (address : String) (plans : Plans start) :
    PollFrames (fresh start address) where
  plans := plans
  numbered := fun _ => numbered_initial (some address)
  callers := by simp [fresh, Device.initial, Device.State.callers]
  transmissions := by simp [fresh]

theorem sendCommand_entry {c : Nat} {action : Option WriteAction} {call : Call}
    (sent : sendCommand config s c action call = some t) : t.entry = s.entry := by
  obtain ⟨device, _, rfl⟩ := Option.map_eq_some_iff.mp sent
  rfl

/-- The entry takes a step of its own, or stays as it is. -/
theorem entry_of_step {activity : Activity}
    (stepped : step config entry s activity = some t) :
    (∃ event, activity = .entry event ∧ Polling.step entry s.entry event = some t.entry) ∨
      t.entry = s.entry := by
  cases activity with
  | entry event =>
    obtain ⟨next, hnext, rest⟩ := Option.bind_eq_some_iff.mp stepped
    refine .inl ⟨event, rfl, ?_⟩
    split at rest
    · obtain rfl := Option.some.inj rest
      exact hnext
    · rw [sendCommand_entry rest]
      exact hnext
  | device c event =>
    cases event with
    | sendCommand call => simp [Integration.step] at stepped
    | _ =>
      obtain ⟨device, _, rfl⟩ := Option.map_eq_some_iff.mp stepped
      exact .inr rfl
  | act action =>
    simp only [Integration.step, Integration.act, Option.ite_none_right_eq_some] at stepped
    obtain ⟨_, acted⟩ := stepped
    split at acted
    · exact .inr (sendCommand_entry acted)
    · obtain rfl := Option.some.inj acted
      exact .inr rfl

theorem products_of_step (plans : Plans s.entry) {activity : Activity}
    (stepped : step config entry s activity = some t) :
    s.entry.products <+: t.entry.products := by
  rcases entry_of_step stepped with ⟨event, _, entered⟩ | same
  · exact (scheduleEffect_of_step plans entered).products
  · exact State.prefix_of_products (congrArg State.products same)

end Integration

/-! ### Entries of read-only products -/

/-- The product is not Venus, so none of its platforms has entities that send commands. -/
def ReadOnlyProduct (product : ProductRuntime) : Prop :=
  product.profile.productId ≠ Venus.venusRuntime.profile.productId

/-- Whatever product a setup of the run selects is a read-only one. -/
def SelectsReadOnly (entry : Entry) (activities : List Activity) : Prop :=
  ∀ bleName product, .entry (.setup (some bleName)) ∈ activities →
    selectProduct entry bleName = some product → ReadOnlyProduct product

theorem platformsForProduct_of_readOnly {product : ProductRuntime}
    (readOnly : ReadOnlyProduct product) :
    platformsForProduct product.profile.productId = readOnlyPlatforms := if_neg readOnly

theorem WriteAction.platform_not_readOnly (action : WriteAction) :
    action.platform ∉ readOnlyPlatforms := by
  cases action <;> simp [platform, readOnlyPlatforms]

namespace Integration

/-- No product takes commands, no platform's entities send any, and no action has called. -/
structure Untouched (s : Integration) : Prop where
  products : ∀ product ∈ s.entry.products, ReadOnlyProduct product
  platforms : ∀ platform ∈ s.entry.platforms, platform ∈ readOnlyPlatforms
  actions : ∀ c id, (s.ports c).actionOf id = none
  transmissions : ∀ sent ∈ s.transmissions, sent.action = none

/-- What a step of the entry does to its products and platforms. -/
theorem Untouched.entry_step (h : Untouched s) (plans : Plans s.entry) {event : Event}
    (selects : ∀ bleName product, event = .setup (some bleName) →
      selectProduct entry bleName = some product → ReadOnlyProduct product)
    {next : State} (stepped : Polling.step entry s.entry event = some next) :
    (∀ product ∈ next.products, ReadOnlyProduct product) ∧
      ∀ platform ∈ next.platforms, platform ∈ readOnlyPlatforms := by
  cases scheduleEffect_of_step plans stepped with
  | polls polled =>
    rw [polled.products, polled.platforms]
    exact ⟨h.products, h.platforms⟩
  | @constructs bleName product selected coordinator own _ same =>
    rw [same.products, same.platforms]
    refine ⟨fun other member => ?_, h.platforms⟩
    simp only [State.products, List.map_append, List.mem_append, List.map_cons, List.map_nil,
      List.mem_singleton] at member
    rcases member with before | rfl
    · exact h.products other before
    · rw [own]
      exact selects bleName product rfl selected
  | @forwards _ _ product known _ same =>
    rw [same.products, same.platforms]
    refine ⟨h.products, ?_⟩
    have readOnly := h.products product (List.mem_of_getElem? known)
    show ∀ platform ∈ platformsForProduct product.profile.productId, _
    rw [platformsForProduct_of_readOnly readOnly]
    exact fun platform member => member
  | unloads same =>
    rw [same.products, same.platforms]
    exact ⟨h.products, by simp⟩

/-- Polling makes its calls in nobody's name. -/
theorem Untouched.sendCommand (h : Untouched s) {c : Nat} {call : Call}
    (sent : sendCommand config s c none call = some t) : Untouched t := by
  obtain ⟨device, _, rfl⟩ := Option.map_eq_some_iff.mp sent
  refine ⟨h.products, h.platforms, ?_, h.transmissions⟩
  refine forall_setPort (P := fun _ port => ∀ id, port.actionOf id = none) s ?_ h.actions
  intro id
  simp [h.actions c id]

theorem Untouched.deviceStep (h : Untouched s) {c : Nat} {event : Device.Event}
    (stepped : deviceStep config s c event = some t) : Untouched t := by
  obtain ⟨device, _, rfl⟩ := Option.map_eq_some_iff.mp stepped
  refine ⟨h.products, h.platforms, ?_, ?_⟩
  · exact forall_setPort (P := fun _ port => ∀ id, port.actionOf id = none) s (h.actions c)
      h.actions
  · intro sent member
    rcases List.mem_append.mp member with before | fresh
    · exact h.transmissions sent before
    · obtain ⟨written, _, rfl⟩ := List.mem_map.mp fresh
      exact h.actions c written.1

theorem Untouched.step (h : Untouched s) (plans : Plans s.entry) {activity : Activity}
    (selects : ∀ bleName product, activity = .entry (.setup (some bleName)) →
      selectProduct entry bleName = some product → ReadOnlyProduct product)
    (stepped : step config entry s activity = some t) : Untouched t := by
  cases activity with
  | entry event =>
    obtain ⟨next, hnext, rest⟩ := Option.bind_eq_some_iff.mp stepped
    obtain ⟨products, platforms⟩ := h.entry_step plans
      (fun bleName product setup => selects bleName product (congrArg Activity.entry setup)) hnext
    have onwards : Untouched { s with entry := next } :=
      ⟨products, platforms, h.actions, h.transmissions⟩
    split at rest
    · obtain rfl := Option.some.inj rest
      exact onwards
    · exact onwards.sendCommand rest
  | device c event =>
    cases event with
    | sendCommand call => simp [Integration.step] at stepped
    | _ => exact h.deviceStep stepped
  | act action =>
    simp only [Integration.step, Integration.act, Option.ite_none_right_eq_some] at stepped
    have forwarded := h.platforms _ stepped.1
    exact absurd forwarded action.platform_not_readOnly

theorem untouched_fresh (options : Options) (address : String) :
    Untouched (fresh (initial options) address) where
  products := by simp [fresh, initial, State.products]
  platforms := by simp [fresh, initial]
  actions := fun _ _ => rfl
  transmissions := by simp [fresh]

/-- The frames written for polling are poll frames. -/
def PollsScheduled (s : Integration) : Prop :=
  ∀ sent ∈ s.transmissions, sent.action = none → s.entry.PollFrame sent.coordinator sent.frame

/-- No platform with entities that send commands is forwarded, and every frame is a poll frame. -/
structure ReadOnly (s : Integration) : Prop where
  button : .button ∉ s.entry.platforms
  switch : .switch ∉ s.entry.platforms
  select : .select ∉ s.entry.platforms
  frames : ∀ sent ∈ s.transmissions, s.entry.PollFrame sent.coordinator sent.frame

theorem Untouched.readOnly (h : Untouched s) (framed : PollFrames s) : ReadOnly s where
  button := fun member => by simpa [readOnlyPlatforms] using h.platforms _ member
  switch := fun member => by simpa [readOnlyPlatforms] using h.platforms _ member
  select := fun member => by simpa [readOnlyPlatforms] using h.platforms _ member
  frames := fun sent member => framed.transmissions sent member (h.transmissions sent member)

/-! ### Runs -/

/-- From the setup that constructed a coordinator for it on, polling writes to a
product's device the frames of that product's schedules only. -/
theorem pollsScheduled_of_setUpWith (config : Device.Config) (entry : Entry)
    (product : ProductRuntime) (options : Options) (address : String)
    (activities : List Activity) :
    States (step config entry)
      (fun s => s.entry.products[0]? = some product ∧ PollsScheduled s)
      (fresh (setUpWith (initial options) product) address) activities := by
  obtain ⟨coordinator, own, same⟩ := setUpWith_sameSchedule (initial options) product
  have first : (setUpWith (initial options) product).products[0]? = some product := by
    rw [same.products]
    simp [State.products, initial, own]
  have plans : Plans (setUpWith (initial options) product) := by
    intro poll member
    rw [same.polls] at member
    simp [initial] at member
  have framed := pollFrames_fresh (setUpWith (initial options) product) address plans
  have kept : States (step config entry)
      (fun s => s.entry.products[0]? = some product ∧ PollFrames s)
      (fresh (setUpWith (initial options) product) address) activities := by
    refine states_of_invariant (fun s activity t h stepped => ?_) ⟨first, framed⟩ activities
    exact ⟨State.product_of_prefix (products_of_step h.2.plans stepped) h.1, h.2.step stepped⟩
  exact kept.mono fun s h => ⟨h.1, h.2.transmissions⟩

theorem readOnly_of_selectsReadOnly (config : Device.Config) (entry : Entry)
    (options : Options) (address : String) {activities : List Activity}
    (selects : SelectsReadOnly entry activities) :
    States (step config entry) ReadOnly (fresh (initial options) address) activities := by
  have plans : Plans (initial options) := by simp [Plans, initial]
  have framed := pollFrames_fresh (initial options) address plans
  have steps : Steps (step config entry) (fun _ activity _ => ∀ bleName product,
      activity = .entry (.setup (some bleName)) → selectProduct entry bleName = some product →
      ReadOnlyProduct product) (fresh (initial options) address) activities := by
    refine steps_of_forall_mem fun activity member _ _ bleName product setup selected => ?_
    exact selects bleName product (setup ▸ member) selected
  have kept : States (step config entry) (fun s => PollFrames s ∧ Untouched s)
      (fresh (initial options) address) activities := by
    refine states_of_steps (I := fun s => PollFrames s ∧ Untouched s)
      (fun s activity t h selects stepped => ?_) ⟨framed, untouched_fresh options address⟩ steps
    exact ⟨h.1.step stepped, h.2.step h.1.plans selects stepped⟩
  exact kept.mono fun s h => h.2.readOnly h.1

/-- Polling writes poll frames only, and to the device of an entry whose setups select
read-only products nothing else is ever written. -/
theorem polls_scheduled_and_read_only (config : Device.Config) (entry : Entry)
    (options : Options) (address : String) (activities : List Activity) :
    (∀ product : ProductRuntime, States (step config entry)
      (fun s => s.entry.products[0]? = some product ∧ PollsScheduled s)
      (fresh (setUpWith (initial options) product) address) activities) ∧
    (SelectsReadOnly entry activities →
      States (step config entry) ReadOnly (fresh (initial options) address) activities) := by
  constructor
  · intro product
    exact pollsScheduled_of_setUpWith config entry product options address activities
  · intro selects
    exact readOnly_of_selectsReadOnly config entry options address selects

def jupiterEntry : Entry := ⟨"MST_JPLS_1234".toList, some "jupiter_c_plus"⟩

def subscribingConfig : Device.Config := ⟨"MST_JPLS_1234", true, true⟩

/-- The entry is set up, its device advertises and is polled, and the poll's first
command connects, subscribes and writes its frame. -/
def firstPoll : List Activity := [
  .entry (.setup (some none)), .entry (.advertisement 0), .entry (.readyWaitEnds true),
  .entry (.platformsForwarded true), .entry (.advertisementPoll 0), .entry (.pollStarts 0 0),
  .device 0 .run, .device 0 .run, .device 0 (.operationResumes .returned),
  .device 0 (.operationResumes .returned), .device 0 .run]

theorem selectsReadOnly_jupiterEntry (activities : List Activity) :
    SelectsReadOnly jupiterEntry activities := by
  intro bleName product _ selected
  have jupiter : selectProduct jupiterEntry bleName = some Jupiter.jupiterRuntime := rfl
  obtain rfl := Option.some.inj (jupiter.symm.trans selected)
  show "jupiter_c_plus" ≠ "venus"
  decide

theorem polls_scheduled_and_read_only_first_poll :
    States (step subscribingConfig jupiterEntry) ReadOnly
      (fresh (initial {}) "AA:BB:CC:DD:EE:FF") firstPoll :=
  (polls_scheduled_and_read_only subscribingConfig jupiterEntry {} "AA:BB:CC:DD:EE:FF"
    firstPoll).2 (selectsReadOnly_jupiterEntry firstPoll)

example : ((run (step subscribingConfig jupiterEntry) (fresh (initial {}) "AA:BB:CC:DD:EE:FF")
    firstPoll).map fun s => (s.transmissions.map Transmission.frame, s.entry.platforms)) =
      some ([[0x73, 0x05, 0x23, 0x03, 0x56]], readOnlyPlatforms) := by decide +kernel

end Integration

end MarstekBle.Polling
