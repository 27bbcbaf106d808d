/- module: Setup/Names
   source: custom_components/marstek_ble/config_flow.py
   digest: When concurrent config flows give one name to devices with different addresses. -/

import MarstekBle.Lib.GuardedRun
import MarstekBle.Setup.ConfigFlow

set_option autoImplicit false
set_option relaxedAutoImplicit false

namespace MarstekBle.Setup

open MarstekBle.Data MarstekBle.Lib.Dictionary MarstekBle.Lib.GuardedRun

variable {checks : UniqueIdChecks} {s t : State} {e : Event}

/-- Entries with the same non-empty name have the same address. -/
def NamesUnique (s : State) : Prop :=
  ∀ a ∈ s.entries, ∀ b ∈ s.entries, a.name = b.name → a.name ≠ [] → a.address = b.address

/-- The name and the address of the device a submitted form is about, unless the address
is configured when the user form is submitted. -/
def submittedDevice (checks : UniqueIdChecks) (s : State) : Event → Option (Option Text × Text)
  | .submits position address => match s.flows[position]? with
    | none => none
    | some ⟨flow, .bluetoothConfirm⟩ => flow.discoveryInfo.map fun info => (info.name, info.address)
    | some ⟨flow, .user⟩ => (flow.discoveredDevices.lookup address).bind fun info =>
      if checks.configured s.hass.currentIds address then none else some (info.name, address)
  | _ => none

/-- No entry has the name of the submitted device and another address. -/
def NameFree (checks : UniqueIdChecks) (s : State) (e : Event) : Prop :=
  ∀ device ∈ submittedDevice checks s e, orAddress device.1 device.2 ≠ [] →
    ∀ entry ∈ s.entries, entry.name = orAddress device.1 device.2 → entry.address = device.2

/-! ### What a step does to the entries -/

/-- A first step of a flow shows a form or aborts. -/
theorem entries_startFlow {flow : MarstekBLEConfigFlow} {result : FlowResult}
    (h : ∀ entry, result ≠ .createEntry entry) : (startFlow s flow result).entries = s.entries := by
  cases result with
  | abort reason => rfl
  | showForm stepId => rfl
  | createEntry entry => exact absurd rfl (h entry)

theorem confirm_shows_form {flow : MarstekBLEConfigFlow} {entry : ConfigEntry} :
    asyncStepBluetoothConfirm flow false ≠ some (.createEntry entry) := by
  unfold asyncStepBluetoothConfirm
  cases flow.discoveryInfo <;> simp

theorem asyncStepBluetooth_creates_nothing {hass : Hass} {flow : MarstekBLEConfigFlow}
    {info : DiscoveryInfo} {entry : ConfigEntry} :
    (asyncStepBluetooth checks hass flow info).1 ≠ some (.createEntry entry) := by
  unfold asyncStepBluetooth
  split
  · simp
  · split
    · simp
    · split
      · simp
      · dsimp only
        exact confirm_shows_form

theorem asyncStepUser_creates_nothing {hass : Hass} {flow : MarstekBLEConfigFlow}
    {devices : List DiscoveryInfo} {entry : ConfigEntry} :
    (asyncStepUser checks hass flow devices none).1 ≠ .createEntry entry := by
  unfold asyncStepUser
  dsimp only
  split <;> simp

/-- What a submitted user form comes to. -/
theorem asyncStepUser_submitted (checks : UniqueIdChecks) (hass : Hass)
    (flow : MarstekBLEConfigFlow) (address : Text) :
    (∃ info, flow.discoveredDevices.lookup address = some info ∧
      checks.configured hass.currentIds address = false ∧
      (asyncStepUser checks hass flow [] (some address)).1 =
        .createEntry (entryFor info.name address)) ∨
    (((flow.discoveredDevices.lookup address).bind fun info =>
        if checks.configured hass.currentIds address then none else some (info.name, address)) =
        none ∧
      ∀ entry, (asyncStepUser checks hass flow [] (some address)).1 ≠ .createEntry entry) := by
  unfold asyncStepUser
  cases chosen : flow.discoveredDevices.lookup address with
  | none =>
    refine .inr ⟨rfl, fun entry => ?_⟩
    by_cases empty : flow.discoveredDevices.isEmpty = true <;> simp [chosen, empty]
  | some info =>
    cases configured : checks.configured hass.currentIds address with
    | true =>
      refine .inr ⟨by simp, fun entry => ?_⟩
      simp [chosen, asyncSetUniqueId, abortIfUniqueIdConfigured, configured]
    | false =>
      refine .inl ⟨info, rfl, rfl, ?_⟩
      simp [chosen, asyncSetUniqueId, abortIfUniqueIdConfigured, configured]

theorem entries_continueFlow {position : Nat} {flow : MarstekBLEConfigFlow} {result : FlowResult}
    (h : ∀ entry, result ≠ .createEntry entry) :
    (continueFlow s position flow result).entries = s.entries := by
  cases result with
  | abort reason => rfl
  | showForm stepId => rfl
  | createEntry entry => exact absurd rfl (h entry)

theorem entries_of_submit {position : Nat} {address : Text}
    (h : submit checks s position address = some t) :
    (submittedDevice checks s (.submits position address) = none ∧ t.entries = s.entries) ∨
      ∃ name address', submittedDevice checks s (.submits position address) =
          some (name, address') ∧ t.entries = s.entries ++ [entryFor name address'] := by
  unfold submit at h
  simp only [submittedDevice]
  rcases here : s.flows[position]? with _ | ⟨flow, stepId⟩
  · simp [here] at h
  · simp only [here] at h ⊢
    cases stepId with
    | bluetoothConfirm =>
      obtain ⟨result, confirmed, rfl⟩ := Option.map_eq_some_iff.mp h
      obtain ⟨info, hinfo, rfl⟩ := Option.map_eq_some_iff.mp confirmed
      exact .inr ⟨info.name, info.address, by simp [hinfo], rfl⟩
    | user =>
      obtain rfl := Option.some.inj h
      rcases asyncStepUser_submitted checks s.hass flow address with
        ⟨info, chosen, free, created⟩ | ⟨nothing, creates⟩
      · refine .inr ⟨info.name, address, by simp [chosen, free], ?_⟩
        rw [created]
        rfl
      · exact .inl ⟨nothing, entries_continueFlow creates⟩

/-- A step creates no entry, or that of the submitted device. -/
theorem entries_of_step (h : step checks s e = some t) :
    (submittedDevice checks s e = none ∧ t.entries = s.entries) ∨
      ∃ name address, submittedDevice checks s e = some (name, address) ∧
        t.entries = s.entries ++ [entryFor name address] := by
  cases e with
  | discovered info =>
    obtain ⟨result, stepped, rfl⟩ := Option.map_eq_some_iff.mp h
    refine .inl ⟨rfl, entries_startFlow fun entry created => ?_⟩
    exact asyncStepBluetooth_creates_nothing (created ▸ stepped)
  | userStarts devices =>
    obtain rfl := Option.some.inj h
    exact .inl ⟨rfl, entries_startFlow fun entry => asyncStepUser_creates_nothing⟩
  | submits position address => exact entries_of_submit h
  | closes position =>
    simp only [step, Option.ite_none_right_eq_some, Option.some.injEq] at h
    obtain ⟨_, rfl⟩ := h
    exact .inl ⟨rfl, rfl⟩

/-! ### Names after a step -/

/-- A new entry keeps the names unique exactly if its name is free. -/
theorem namesUnique_append (unique : NamesUnique s) {new : ConfigEntry}
    (entries : t.entries = s.entries ++ [new]) :
    NamesUnique t ↔
      (new.name ≠ [] →
        ∀ entry ∈ s.entries, entry.name = new.name → entry.address = new.address) := by
  unfold NamesUnique
  rw [entries]
  constructor
  · intro all named entry member same
    exact all entry (List.mem_append_left _ member) new (by simp) same (same ▸ named)
  · intro free a ha b hb same named
    rcases List.mem_append.mp ha with before | fresh
    · rcases List.mem_append.mp hb with other | last
      · exact unique a before b other same named
      · obtain rfl := List.mem_singleton.mp last
        exact free (same ▸ named) a before same
    · obtain rfl := List.mem_singleton.mp fresh
      rcases List.mem_append.mp hb with other | last
      · exact (free named b other same.symm).symm
      · rw [List.mem_singleton.mp last]

/-- From names that are unique, a step leads to such names exactly if the submitted one is free. -/
theorem namesUnique_step_iff (unique : NamesUnique s) (h : step checks s e = some t) :
    NamesUnique t ↔ NameFree checks s e := by
  unfold NameFree
  rcases entries_of_step h with ⟨none_submitted, entries⟩ | ⟨name, address, submitted, entries⟩
  · refine iff_of_true ?_ ?_
    · unfold NamesUnique
      rwa [entries]
    · simp [none_submitted]
  · rw [namesUnique_append unique entries, submitted]
    simp [entryFor]

/-! ### The name checks -/

/-- The state, and how many entries there were when each of the flows looked at their
names. No step reads `checked`. -/
structure Watched where
  state : State := {}
  checked : List Nat := []

namespace Watched

def step (checks : UniqueIdChecks) (w : Watched) (e : Event) : Option Watched :=
  (Setup.step checks w.state e).map fun t => ⟨t, match e with
    | .discovered _ | .userStarts _ =>
      if w.state.flows.length < t.flows.length then w.checked ++ [w.state.entries.length]
      else w.checked
    | .submits position _ | .closes position =>
      if t.flows.length < w.state.flows.length then w.checked.eraseIdx position else w.checked⟩

/-- The entries that a flow's check of a name has not seen: those created after it, and
every entry where there is no name to look for. -/
def unseen (w : Watched) (position : Nat) (name : Option Text) : List ConfigEntry :=
  match nonempty name with
  | some _ => w.state.entries.drop (w.checked[position]?.getD 0)
  | none => w.state.entries

end Watched

/-- No entry that the submitting flow's check has not seen has the name of the submitted
device and another address. -/
def Unraced (checks : UniqueIdChecks) (w : Watched) (e : Event) : Prop :=
  match e with
  | .submits position address =>
    ∀ device ∈ submittedDevice checks w.state (.submits position address),
      orAddress device.1 device.2 ≠ [] → ∀ entry ∈ w.unseen position device.1,
        entry.name = orAddress device.1 device.2 → entry.address = device.2
  | _ => True

/-- The devices a flow can create an entry for. -/
def FlowInProgress.devices (f : FlowInProgress) : List DiscoveryInfo :=
  match f.stepId with
  | .bluetoothConfirm => f.flow.discoveryInfo.toList
  | .user => f.flow.discoveredDevices.map Prod.snd

/-- None of the first `n` entries has the name of a device of the flow. -/
structure Looked (entries : List ConfigEntry) (f : FlowInProgress) (n : Nat) : Prop where
  earlier : n ≤ entries.length
  absent : ∀ info ∈ f.devices, ∀ name ∈ nonempty info.name,
    ∀ entry ∈ entries.take n, entry.name ≠ name

/-- Every flow has compared the names of its devices with the entries there were then. -/
structure AllLooked (w : Watched) : Prop where
  aligned : w.checked.length = w.state.flows.length
  looked : ∀ {position : Nat} {f n}, w.state.flows[position]? = some f →
    w.checked[position]? = some n → Looked w.state.entries f n

/-! ### What the checks have seen -/

theorem Looked.append {entries : List ConfigEntry} {f : FlowInProgress} {n : Nat}
    (looked : Looked entries f n) (new : List ConfigEntry) : Looked (entries ++ new) f n := by
  refine ⟨?_, ?_⟩
  · rw [List.length_append]
    exact looked.earlier.trans (Nat.le_add_right _ _)
  · rw [List.take_append_of_le_length looked.earlier]
    exact looked.absent

/-- A check that has just been made has seen every entry. -/
theorem Looked.now {entries : List ConfigEntry} {f : FlowInProgress}
    (absent : ∀ info ∈ f.devices, ∀ name ∈ nonempty info.name,
      ∀ entry ∈ entries, entry.name ≠ name) : Looked entries f entries.length :=
  ⟨Nat.le_refl _, by rwa [List.take_length]⟩

/-- The discovery step shows the confirm form for a device whose name no entry has. -/
theorem asyncStepBluetooth_cases (checks : UniqueIdChecks) (hass : Hass)
    (flow : MarstekBLEConfigFlow) (info : DiscoveryInfo) :
    (∃ reason, (asyncStepBluetooth checks hass flow info).1 = some (.abort reason)) ∨
    ((asyncStepBluetooth checks hass flow info).1 = some (.showForm .bluetoothConfirm) ∧
      (asyncStepBluetooth checks hass flow info).2.discoveryInfo = some info ∧
      ∀ name ∈ nonempty info.name, ∀ entry ∈ hass.entries, entry.name ≠ name) := by
  unfold asyncStepBluetooth
  split
  · exact .inl ⟨_, rfl⟩
  · split
    · exact .inl ⟨_, rfl⟩
    · split
      · exact .inl ⟨_, rfl⟩
      · rename_i free
        refine .inr ⟨rfl, rfl, fun name named entry member same => free ?_⟩
        rw [Option.mem_def] at named
        rw [named, Option.any_some]
        exact List.any_eq_true.mpr ⟨entry, member, decide_eq_true same⟩

theorem mem_foldl_setDevice {infos : List DiscoveryInfo} {devices : List (Text × DiscoveryInfo)}
    {device : Text × DiscoveryInfo} (member : device ∈ infos.foldl setDevice devices) :
    device ∈ devices ∨ device.2 ∈ infos := by
  induction infos generalizing devices with
  | nil => exact .inl member
  | cons info infos ih =>
    rcases ih member with before | later
    · rcases (mem_store_iff devices info.address info device).mp before with rfl | ⟨listed, _⟩
      · exact .inr List.mem_cons_self
      · exact .inl listed
    · exact .inr (List.mem_cons_of_mem _ later)

theorem absent_of_offered {hass : Hass} {info : DiscoveryInfo} (h : offered hass info = true)
    {name : Text} (named : name ∈ nonempty info.name) {entry : ConfigEntry}
    (member : entry ∈ hass.entries) : entry.name ≠ name := by
  rw [Option.mem_def] at named
  unfold offered at h
  rw [named] at h
  intro same
  have taken : hass.entries.any (·.name = name) = true :=
    List.any_eq_true.mpr ⟨entry, member, decide_eq_true same⟩
  simp [taken] at h

/-- The user step shows the user form for devices whose names no entry has. -/
theorem asyncStepUser_cases (checks : UniqueIdChecks) (hass : Hass)
    (devices : List DiscoveryInfo) :
    (∃ reason, (asyncStepUser checks hass {} devices none).1 = .abort reason) ∨
    ((asyncStepUser checks hass {} devices none).1 = .showForm .user ∧
      ∀ device ∈ (asyncStepUser checks hass {} devices none).2.discoveredDevices,
        ∀ name ∈ nonempty device.2.name, ∀ entry ∈ hass.entries, entry.name ≠ name) := by
  unfold asyncStepUser
  dsimp only
  split
  · exact .inl ⟨_, rfl⟩
  · refine .inr ⟨rfl, fun device member name named entry listed => ?_⟩
    rcases mem_foldl_setDevice member with before | chosen
    · cases before
    · exact absent_of_offered (List.mem_filter.mp chosen).2 named listed

/-- A submitted user form that is shown again has changed nothing. -/
theorem asyncStepUser_shown_again {hass : Hass} {flow : MarstekBLEConfigFlow} {address : Text}
    {stepId : StepId}
    (shown : (asyncStepUser checks hass flow [] (some address)).1 = .showForm stepId) :
    stepId = .user ∧ (asyncStepUser checks hass flow [] (some address)).2 = flow := by
  unfold asyncStepUser at shown ⊢
  dsimp only at shown ⊢
  split at shown
  · split at shown
    · cases shown
    · rename_i chosen some_left
      cases shown
      refine ⟨rfl, ?_⟩
      rw [if_neg some_left]
  · split at shown
    · cases shown
    · split at shown
      · cases shown
      · cases shown

/-! ### The checks along a run -/

theorem allLooked_append {w : Watched} (all : AllLooked w) {f : FlowInProgress}
    (looked : Looked w.state.entries f w.state.entries.length) :
    AllLooked ⟨{ w.state with flows := w.state.flows ++ [f] },
      w.checked ++ [w.state.entries.length]⟩ := by
  refine ⟨by simp [all.aligned], fun {position g n} here there => ?_⟩
  rcases Nat.lt_or_ge position w.state.flows.length with old | new
  · rw [List.getElem?_append_left old] at here
    rw [List.getElem?_append_left (all.aligned ▸ old)] at there
    exact all.looked here there
  · rw [List.getElem?_append_right new] at here
    rw [List.getElem?_append_right (all.aligned ▸ new), all.aligned] at there
    obtain ⟨_, rfl⟩ : position - w.state.flows.length = 0 ∧ f = g := by
      simpa [List.getElem?_singleton] using here
    obtain ⟨_, rfl⟩ : position - w.state.flows.length = 0 ∧ w.state.entries.length = n := by
      simpa [List.getElem?_singleton] using there
    exact looked

theorem allLooked_eraseIdx {w : Watched} (all : AllLooked w) (position : Nat)
    (new : List ConfigEntry) : AllLooked ⟨{ w.state with
      entries := w.state.entries ++ new, flows := w.state.flows.eraseIdx position },
      w.checked.eraseIdx position⟩ := by
  refine ⟨?_, fun {i f n} here there => ?_⟩
  · simp only [List.length_eraseIdx, all.aligned]
  · rw [List.getElem?_eraseIdx] at here there
    split at here
    · rename_i before
      rw [if_pos before] at there
      exact (all.looked here there).append new
    · rename_i after
      rw [if_neg after] at there
      exact (all.looked here there).append new

/-- A first step that aborts, or shows a form for names it has looked for. -/
theorem allLooked_startFlow {w : Watched} (all : AllLooked w) {flow : MarstekBLEConfigFlow}
    {result : FlowResult} (outcome : (∃ reason, result = .abort reason) ∨ ∃ stepId,
      result = .showForm stepId ∧ Looked w.state.entries ⟨flow, stepId⟩ w.state.entries.length) :
    AllLooked ⟨startFlow w.state flow result,
      if w.state.flows.length < (startFlow w.state flow result).flows.length then
        w.checked ++ [w.state.entries.length] else w.checked⟩ := by
  rcases outcome with ⟨reason, rfl⟩ | ⟨stepId, rfl, looked⟩
  · simpa [startFlow] using all
  · simpa [startFlow] using allLooked_append all looked

/-- A submitted form that is shown again, or ends its flow. -/
theorem allLooked_continueFlow {w : Watched} (all : AllLooked w) {position : Nat}
    {f : FlowInProgress} (here : w.state.flows[position]? = some f) {flow : MarstekBLEConfigFlow}
    {result : FlowResult} (same : ∀ stepId, result = .showForm stepId → ⟨flow, stepId⟩ = f) :
    AllLooked ⟨continueFlow w.state position flow result,
      if (continueFlow w.state position flow result).flows.length < w.state.flows.length then
        w.checked.eraseIdx position else w.checked⟩ := by
  obtain ⟨inside, _⟩ := List.getElem?_eq_some_iff.mp here
  have shorter : (w.state.flows.eraseIdx position).length < w.state.flows.length := by
    rw [List.length_eraseIdx_of_lt inside]
    omega
  cases result with
  | abort reason =>
    have erased := allLooked_eraseIdx all position []
    rw [List.append_nil] at erased
    simpa [continueFlow, shorter] using erased
  | showForm stepId =>
    have unchanged : w.state.flows.set position ⟨flow, stepId⟩ = w.state.flows := by
      obtain ⟨_, found⟩ := List.getElem?_eq_some_iff.mp here
      rw [same stepId rfl, ← found, List.set_getElem_self]
    simpa [continueFlow, unchanged] using all
  | createEntry entry => simpa [continueFlow, shorter] using allLooked_eraseIdx all position [entry]

theorem allLooked_step {w v : Watched} (all : AllLooked w)
    (h : Watched.step checks w e = some v) : AllLooked v := by
  obtain ⟨t, next, rfl⟩ := Option.map_eq_some_iff.mp h
  cases e with
  | discovered info =>
    obtain ⟨result, stepped, rfl⟩ := Option.map_eq_some_iff.mp next
    refine allLooked_startFlow all ?_
    rcases asyncStepBluetooth_cases checks w.state.hass {} info with
      ⟨reason, aborted⟩ | ⟨shown, found, absent⟩
    · exact .inl ⟨reason, Option.some.inj (stepped.symm.trans aborted)⟩
    · refine .inr ⟨.bluetoothConfirm, Option.some.inj (stepped.symm.trans shown), .now ?_⟩
      intro other listed
      simp only [FlowInProgress.devices, found, Option.toList_some, List.mem_singleton] at listed
      exact listed ▸ absent
  | userStarts devices =>
    obtain rfl := Option.some.inj next
    refine allLooked_startFlow all ?_
    rcases asyncStepUser_cases checks w.state.hass devices with aborted | ⟨shown, absent⟩
    · exact .inl aborted
    · refine .inr ⟨.user, shown, .now fun info listed => ?_⟩
      obtain ⟨device, chosen, rfl⟩ := List.mem_map.mp listed
      exact absent device chosen
  | submits position address =>
    simp only [Setup.step, submit] at next
    rcases here : w.state.flows[position]? with _ | ⟨flow, stepId⟩
    · simp [here] at next
    · simp only [here] at next
      cases stepId with
      | bluetoothConfirm =>
        obtain ⟨result, confirmed, rfl⟩ := Option.map_eq_some_iff.mp next
        refine allLooked_continueFlow all here fun stepId shown => ?_
        subst shown
        obtain ⟨info, _, created⟩ := Option.map_eq_some_iff.mp confirmed
        cases created
      | user =>
        obtain rfl := Option.some.inj next
        refine allLooked_continueFlow all here fun stepId shown => ?_
        obtain ⟨rfl, unchanged⟩ := asyncStepUser_shown_again shown
        rw [unchanged]
  | closes position =>
    simp only [Setup.step, Option.ite_none_right_eq_some, Option.some.injEq] at next
    obtain ⟨inside, rfl⟩ := next
    have erased := allLooked_eraseIdx all position []
    rw [List.append_nil] at erased
    have shorter : (w.state.flows.eraseIdx position).length < w.state.flows.length := by
      rw [List.length_eraseIdx_of_lt inside]
      omega
    simpa [shorter] using erased

/-- The device of a submitted form is one of its flow's. -/
theorem submittedDevice_mem {position : Nat} {address : Text} {device : Option Text × Text}
    (h : submittedDevice checks s (.submits position address) = some device) :
    ∃ f, s.flows[position]? = some f ∧ ∃ info ∈ f.devices, info.name = device.1 := by
  simp only [submittedDevice] at h
  rcases here : s.flows[position]? with _ | ⟨flow, stepId⟩
  · simp [here] at h
  · simp only [here] at h
    refine ⟨_, rfl, ?_⟩
    cases stepId with
    | bluetoothConfirm =>
      obtain ⟨info, found, rfl⟩ := Option.map_eq_some_iff.mp h
      exact ⟨info, by simp [FlowInProgress.devices, found], rfl⟩
    | user =>
      obtain ⟨info, chosen, submitted⟩ := Option.bind_eq_some_iff.mp h
      split at submitted
      · cases submitted
      · obtain rfl := Option.some.inj submitted
        obtain ⟨before, after, devices, _⟩ := List.lookup_eq_some_iff.mp chosen
        refine ⟨info, ?_, rfl⟩
        simp only [FlowInProgress.devices, devices]
        simp

/-- Beyond the entries a flow has not seen, no entry has the name of its device. -/
theorem unraced_iff_nameFree {w : Watched} (all : AllLooked w) :
    Unraced checks w e ↔ NameFree checks w.state e := by
  cases e with
  | submits position address =>
    simp only [Unraced, NameFree]
    refine forall₂_congr fun device submitted => imp_congr_right fun _ => ?_
    unfold Watched.unseen
    cases named : nonempty device.1 with
    | none => exact Iff.rfl
    | some name =>
      obtain ⟨f, here, info, listed, sameName⟩ := submittedDevice_mem submitted
      obtain ⟨inside, _⟩ := List.getElem?_eq_some_iff.mp here
      have aligned : position < w.checked.length := all.aligned ▸ inside
      have looked := all.looked here (List.getElem?_eq_getElem aligned)
      have chosen : orAddress device.1 device.2 = name := by rw [orAddress, named]; rfl
      rw [List.getElem?_eq_getElem aligned, Option.getD_some, chosen]
      constructor
      · -- an entry the check has seen has another name
        intro unseen entry member same
        rw [← List.take_append_drop w.checked[position] w.state.entries, List.mem_append]
          at member
        rcases member with seen | later
        · exact absurd same (looked.absent info listed name (by rw [sameName, named]; rfl) entry
            seen)
        · exact unseen entry later same
      · exact fun free entry later => free entry (List.mem_of_mem_drop later)
  | _ => simp [Unraced, NameFree, submittedDevice]

/-! ### Names along a run of concurrent flows -/

/-- The names stay unique along a run exactly if no submitted form races: no entry that
its flow's check of the name has not seen has that name and another address. -/
theorem names_unique_iff (checks : UniqueIdChecks) (events : List Event) :
    States (step checks) NamesUnique {} events ↔
      Steps (Watched.step checks) (fun w e _ => Unraced checks w e) {} events := by
  have same : ∀ w e, (Watched.step checks w e).map Watched.state = step checks w.state e := by
    intro w e
    rw [Watched.step, Option.map_map]
    exact congrFun Option.map_id (step checks w.state e)
  rw [← States.view_iff Watched.state same (w := {})]
  refine states_iff_steps (J := AllLooked) (fun w e v all h => allLooked_step all h) ?_ ?_ ?_ ?_
    events
  · intro w e v all unique unraced h
    obtain ⟨t, next, rfl⟩ := Option.map_eq_some_iff.mp h
    exact (namesUnique_step_iff unique next).mpr ((unraced_iff_nameFree all).mp unraced)
  · intro w e v all unique after h
    obtain ⟨t, next, rfl⟩ := Option.map_eq_some_iff.mp h
    exact (unraced_iff_nameFree all).mpr ((namesUnique_step_iff unique next).mp after)
  · exact ⟨rfl, fun here => by simp at here⟩
  · intro a member
    simp at member

instance : DecidablePred NamesUnique := fun s =>
  inferInstanceAs (Decidable (∀ a ∈ s.entries, ∀ b ∈ s.entries,
    a.name = b.name → a.name ≠ [] → a.address = b.address))

/-- Checks that look an address up in a list. -/
def lookupChecks : UniqueIdChecks where
  inProgress := fun ids address => ids.any (· = address)
  configured := fun ids address => ids.any (· = address)

def renamedDevice (address : String) : DiscoveryInfo :=
  ⟨address.toList, some "MST_ACCP_1234".toList⟩

/-- A device is discovered under two addresses before either discovery is confirmed. -/
def discoveredTwice : List Event := [
  .discovered (renamedDevice "AA:BB:CC:DD:EE:01"), .discovered (renamedDevice "AA:BB:CC:DD:EE:02"),
  .submits 0 [], .submits 0 []]

theorem both_discoveries_create :
    ¬ ∀ (checks : UniqueIdChecks) (events : List Event),
      States (step checks) NamesUnique {} events := by
  intro all
  have unique := all lookupChecks discoveredTwice
  revert unique
  decide +kernel

end MarstekBle.Setup
