/- module: Polling/ConfigEntry
   source: custom_components/marstek_ble/__init__.py
   digest: The life of a config entry: setups, unloads, options updates, ticks and polls. -/

import MarstekBle.Polling.Coordinator

/-!
`async_setup_entry` and `async_unload_entry` are cut at their awaits. Home Assistant
runs the callbacks handed to `entry.async_on_unload` when the entry was unloaded and
when its setup failed, and keeps calling `_async_time_poll` until its timer is cancelled.
-/

set_option autoImplicit false
set_option relaxedAutoImplicit false

namespace MarstekBle.Polling

open MarstekBle.Data MarstekBle.Product

/-- The data of the config entry. -/
structure Entry where
  name : Text
  productId : Option String

inductive Event where
  | setup (bleDevice : Option (Option Text))
  | readyWaitEnds (inTime : Bool)
  | platformsForwarded (success : Bool)
  | setupCancelled
  | unload
  | disconnectEnds
  | platformsUnloaded (success : Bool)
  | unloadFails
  | optionsChange (options : Options)
  | updateRuns
  | runtimeDataCleared
  | advertisement (coordinator : Nat)
  | advertisementPoll (coordinator : Nat)
  | tick (timer : Nat) (connectable : Bool)
  | pollStarts (position : Nat) (now : ℚ)
  | commandEnds (position : Nat) (success : Bool) (now : ℚ)
  | pollCancelled (position : Nat)
  | backoffElsewhere (level : Nat) (deadline : Option ℚ)

/-! ### Setup -/

def allPlatforms : List Platform := [.sensor, .binarySensor, .button, .switch, .select]

def readOnlyPlatforms : List Platform := [.sensor, .binarySensor]

/-- `_platforms_for_product`. -/
def platformsForProduct (productId : String) : List Platform :=
  if productId = Venus.venusRuntime.profile.productId then allPlatforms else readOnlyPlatforms

/-- The runtime of the configured product, or the one the names belong to. -/
def selectProduct (entry : Entry) (bleName : Option Text) : Option ProductRuntime :=
  match entry.productId with
  | some productId => runtimeForId productId
  | none => some (((runtimeForName (some entry.name)).or (runtimeForName bleName)).getD
      Venus.venusRuntime)

/-- Home Assistant runs one callback. -/
def runUnloadCallback (s : State) : UnloadCallback → State
  | .stopCoordinator c =>
    s.modifyCoordinator c fun coordinator => { coordinator with started := false }
  | .removeUpdateListener => { s with updateListener := false }

/-- Home Assistant runs the callbacks of the entry. -/
def processOnUnload (s : State) : State :=
  { s.unloadCallbacks.foldl runUnloadCallback s with unloadCallbacks := [] }

/-- The entry's coordinators so far are done with. -/
def retire (s : State) : State := { s with retired := s.coordinators.length }

/-- `raise ConfigEntryNotReady`. -/
def raiseNotReady (s : State) : State :=
  retire { processOnUnload s with phase := .setupRetry }

/-- `async_setup_entry`, up to the wait for the first advertisement. -/
def beginSetup (entry : Entry) (s : State) (bleDevice : Option (Option Text)) : State :=
  match bleDevice with
  | none => raiseNotReady s
  | some bleName => match selectProduct entry bleName with
    | none => raiseNotReady s
    | some product =>
      let c := s.coordinators.length
      let constructed := construct s product
        (s.options.pollInterval.getD defaultPollInterval)
        (s.options.mediumPollInterval.getD defaultMediumPollInterval)
      let started := constructed.modifyCoordinator c fun coordinator =>
        { coordinator with started := true }
      { started with
        phase := .waitingReady c
        runtimeData := some c
        unloadCallbacks := s.unloadCallbacks ++ [.stopCoordinator c, .removeUpdateListener]
        updateListener := true }

/-- The device advertised in time: `async_setup_entry` goes on to its platforms. -/
def forwardPlatforms (s : State) (c : Nat) : State :=
  let productId := ((s.coordinators[c]?).map fun coordinator =>
    coordinator.product.profile.productId).getD Venus.venusRuntime.profile.productId
  { s with
    phase := .forwarding c
    domainData := some ⟨c, productId⟩
    platforms := platformsForProduct productId }

/-- An exception other than `ConfigEntryNotReady` leaves `async_setup_entry`. -/
def failSetup (s : State) : State := { processOnUnload s with phase := .setupError }

/-! ### Unload and options -/

/-- `async_unload_entry`, up to its first await. -/
def beginUnload (s : State) : State :=
  match s.domainData with
  | some _ => { s with phase := .disconnecting }
  | none => { s with phase := .unloadingPlatforms }

/-- `async_unload_entry` returns `True`. -/
def returnUnloaded (s : State) : State :=
  retire { processOnUnload { s with domainData := none } with phase := .notLoaded, platforms := [] }

/-- `_async_handle_entry_update`. -/
def handleEntryUpdate (s : State) : State :=
  match s.runtimeData with
  | none => s
  | some c => setPollIntervals s c (s.options.pollInterval.getD defaultPollInterval)
      (some (s.options.mediumPollInterval.getD defaultMediumPollInterval))

/-! ### The step function -/

/-- No setup and no unload of the entry is under way, and it is not loaded. -/
def Phase.settled : Phase → Bool
  | .notLoaded | .setupRetry | .setupError => true
  | _ => false

/-- The poll at a position is the first one of its coordinator. -/
def nextInLine (s : State) (position c : Nat) : Bool :=
  (s.polls.take position).all (·.coordinator ≠ c)

def step (entry : Entry) (s : State) : Event → Option State
  | .setup bleDevice => if s.phase.settled then some (beginSetup entry s bleDevice) else none
  | .readyWaitEnds inTime => match s.phase with
    | .waitingReady c =>
      if inTime then
        if (s.coordinators[c]?).any (·.readyEvent) then some (forwardPlatforms s c) else none
      else some (raiseNotReady s)
    | _ => none
  | .platformsForwarded success => match s.phase with
    | .forwarding _ => some (if success then { s with phase := .loaded } else failSetup s)
    | _ => none
  | .setupCancelled => match s.phase with
    | .waitingReady _ => some (failSetup s)
    | .forwarding _ => some (failSetup s)
    | _ => none
  | .unload =>
    if s.phase.settled ∨ s.phase = .loaded ∨ s.phase = .failedUnload then some (beginUnload s)
    else none
  | .disconnectEnds =>
    if s.phase = .disconnecting then some { s with phase := .unloadingPlatforms } else none
  | .platformsUnloaded success =>
    if s.phase = .unloadingPlatforms then
      some (if success then returnUnloaded s else { s with phase := .failedUnload })
    else none
  | .unloadFails =>
    if s.phase = .disconnecting ∨ s.phase = .unloadingPlatforms then
      some { s with phase := .failedUnload }
    else none
  | .optionsChange options => some { s with
      options
      pendingUpdates := if s.updateListener then s.pendingUpdates + 1 else s.pendingUpdates }
  | .updateRuns =>
    if 0 < s.pendingUpdates then
      some (handleEntryUpdate { s with pendingUpdates := s.pendingUpdates - 1 })
    else none
  | .runtimeDataCleared =>
    if s.phase = .notLoaded then some { s with runtimeData := none } else none
  | .advertisement c =>
    if (s.coordinators[c]?).any (·.started) then
      some (s.modifyCoordinator c fun coordinator => { coordinator with readyEvent := true })
    else none
  | .advertisementPoll c =>
    if (s.coordinators[c]?).any (·.started) then
      some { s with polls := s.polls ++ [⟨c, .queued⟩] }
    else none
  | .tick timer connectable => match s.intervals.find? (·.id = timer) with
    | some interval => some (timePoll s interval.coordinator connectable)
    | none => none
  | .pollStarts position now => match s.polls[position]? with
    | some ⟨c, .queued⟩ => if nextInLine s position c then some (runPoll s position c now) else none
    | _ => none
  | .commandEnds position success now => commandEnds s position success now
  | .pollCancelled position =>
    if position < s.polls.length then some (removePoll s position) else none
  | .backoffElsewhere level deadline => some { s with
      globalBackoffLevel := level
      globalBackoffUntil := deadline }

/-- The entry before its first setup. -/
def initial (options : Options) : State := { options }

end MarstekBle.Polling
