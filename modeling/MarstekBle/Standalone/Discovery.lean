/- module: Standalone/Discovery
   source: standalone_test/marstek_basic_info.py
   digest: The advertisement callbacks of `discover_devices` and the task that waits for them. -/

import MarstekBle.Standalone.RawNames

/-!
The callbacks run on the event loop between the steps of the task, and already
while it subscribes. The task checks what they recorded, clears the event and
waits for it, until the check succeeds or the scan times out.
-/

set_option autoImplicit false
set_option relaxedAutoImplicit false

namespace MarstekBle.Standalone

open MarstekBle.Data

/-- `str.upper()`, and `to_human_readable_address` of the proxy client. -/
structure TextFunctions where
  upper : Text → Text
  toHumanReadableAddress : Nat → Text

/-- A user provided target: an exact address or an advertised name. -/
structure TargetSpec where
  label : Text
  macInt : Option Nat
  nameUpper : Option Text
  deriving DecidableEq

/-- A device discovered through its advertisements. -/
structure ResolvedDevice where
  label : Text
  address : Nat
  addressType : Nat
  rssi : Int
  name : Text
  deriving DecidableEq

/-- What `process_advertisement` is called with. -/
structure Advertisement where
  address : Nat
  addressType : Nat
  rssi : Int
  advName : Text
  deriving DecidableEq

structure RawAdvertisement where
  address : Nat
  addressType : Nat
  rssi : Int
  data : Bytes
  deriving DecidableEq

/-- The arguments of `discover_devices`; the timeout only as its message shows it. -/
structure ScanArguments where
  targets : List TargetSpec
  scanTimeout : Text
  autoPrefix : Text
  autoLimit : Int
  caseSensitivePrefix : Bool
  useRawAds : Bool
  keepSubscription : Bool

/-- The returned devices, or the text of the `RuntimeError`. -/
abbrev ScanResult := Except Text (List ResolvedDevice)

/-- Where the task that called `discover_devices` is. -/
inductive ScanTask where
  | subscribing
  /-- suspended in `event.wait()` -/
  | waiting
  /-- its `event.wait()` is over, but it has not run yet -/
  | woken
  | finished (inTime : Bool) (result : ScanResult)

structure Discovery where
  /-- the flag of `event` -/
  event : Bool
  resolved : List (Text × ResolvedDevice)
  autoFound : List ResolvedDevice
  seenAutoAddresses : List Nat
  task : ScanTask

/-- What `discover_devices` begins with. -/
def Discovery.start : Discovery := ⟨false, [], [], [], .subscribing⟩

/-- `event.set()`: the first call since `event.clear()` ends the wait. -/
def Discovery.set (d : Discovery) : Discovery :=
  if d.event then d
  else { d with
    event := true
    task := match d.task with
      | .waiting => .woken
      | task => task }

/-- `matches_simple(address, name)`. -/
def TargetSpec.matchesSimple (texts : TextFunctions) (spec : TargetSpec) (address : Nat)
    (name : Text) : Bool :=
  if spec.macInt.any (address != ·) then false
  else if spec.nameUpper.any (texts.upper (strip name) != ·) then false
  else true

variable (texts : TextFunctions) (args : ScanArguments)

/-! ### The callbacks -/

/-- One turn of the loop over the targets; the flag is `updated`. -/
def matchTarget (adv : Advertisement) (found : List (Text × ResolvedDevice) × Bool)
    (spec : TargetSpec) : List (Text × ResolvedDevice) × Bool :=
  if (found.1.map Prod.fst).contains spec.label then found
  else if spec.matchesSimple texts adv.address adv.advName then
    let name := if adv.advName = [] then spec.label else adv.advName
    (found.1 ++ [(spec.label, ⟨spec.label, adv.address, adv.addressType, adv.rssi, name⟩)], true)
  else found

def autoPrefixCompare : Text :=
  if args.caseSensitivePrefix then args.autoPrefix else texts.upper args.autoPrefix

/-- The name test of the automatic mode. -/
def passesPrefix (advName : Text) : Bool :=
  let advNameDisplay := strip advName
  let advNameCompare :=
    if args.caseSensitivePrefix then advNameDisplay else texts.upper advNameDisplay
  autoPrefixCompare texts args == [] || (autoPrefixCompare texts args).isPrefixOf advNameCompare

/-- The branch of `process_advertisement` without targets. -/
def autoDiscover (adv : Advertisement) (d : Discovery) : Discovery :=
  if ¬ passesPrefix texts args adv.advName then d
  else if adv.address ∈ d.seenAutoAddresses then d
  else
    let advNameDisplay := strip adv.advName
    let label :=
      if advNameDisplay = [] then texts.toHumanReadableAddress adv.address else advNameDisplay
    { d with
      seenAutoAddresses := d.seenAutoAddresses ++ [adv.address]
      autoFound := d.autoFound ++ [⟨label, adv.address, adv.addressType, adv.rssi, label⟩] }

/-- `process_advertisement`. -/
def processAdvertisement (adv : Advertisement) (d : Discovery) : Discovery :=
  if args.targets ≠ [] then
    let found := args.targets.foldl (matchTarget texts adv) (d.resolved, false)
    let d := { d with resolved := found.1 }
    if found.2 then d.set else d
  -- `updated` stays `False` in this branch
  else autoDiscover texts args adv d

/-- A call of the callback that was subscribed. -/
inductive Callback where
  | handleAdv (adv : Advertisement)
  | handleRaw (msg : List RawAdvertisement)
  deriving DecidableEq

def Callback.isRaw : Callback → Bool
  | .handleAdv _ => false
  | .handleRaw _ => true

/-- `_handle_raw`; an exception would end the callback. -/
def handleRaw : List RawAdvertisement → Discovery → Discovery
  | [], d => d
  | adv :: msg, d => match decodeNameFromRaw adv.data with
    | .ok name =>
      handleRaw msg
        (processAdvertisement texts args ⟨adv.address, adv.addressType, adv.rssi, name⟩ d)
    | .error _ => d

def handle : Callback → Discovery → Discovery
  | .handleAdv adv, d => processAdvertisement texts args adv d
  | .handleRaw msg, d => handleRaw texts args msg d

/-! ### The task -/

/-- `_maybe_done`. -/
def maybeDone (d : Discovery) : Bool :=
  if args.targets ≠ [] then d.resolved.length == args.targets.length
  else args.autoLimit ≤ d.autoFound.length

/-- `xs[:stop]`. -/
def sliceTo {α : Type} (xs : List α) (stop : Int) : List α :=
  xs.take (if 0 ≤ stop then stop else xs.length + stop).toNat

/-- The end of `discover_devices`, after the scan. -/
def discoverResult (d : Discovery) : ScanResult :=
  if args.targets ≠ [] then
    let missing := (args.targets.map TargetSpec.label).filter fun label =>
      !(d.resolved.map Prod.fst).contains label
    if missing ≠ [] then
      .error ("Did not see advertisements for: ".toList ++ (", ".toList).intercalate missing)
    else .ok (args.targets.filterMap fun spec => d.resolved.lookup spec.label)
  else if d.autoFound = [] then
    .error ("No BLE devices with prefix '".toList ++ args.autoPrefix ++
      "' were seen during the ".toList ++ args.scanTimeout ++ "s scan window".toList)
  else .ok (sliceTo d.autoFound args.autoLimit)

def finish (inTime : Bool) (d : Discovery) : Discovery :=
  { d with task := .finished inTime (discoverResult args d) }

/-- One check of the loop condition, and up to the next `event.wait()`. -/
def loopTurn (d : Discovery) : Discovery :=
  if maybeDone args d then finish args true d
  else { d with event := false, task := .waiting }

inductive ScanEvent where
  | advertises (callback : Callback)
  | subscribed
  | resumes
  | expires
  deriving DecidableEq

/-- The callback is still subscribed. -/
def listening (d : Discovery) : Bool := match d.task with
  | .finished _ _ => args.keepSubscription
  | _ => true

def scanStep (d : Discovery) : ScanEvent → Option Discovery
  | .advertises callback =>
    if callback.isRaw = args.useRawAds ∧ listening args d then some (handle texts args callback d)
    else none
  | .subscribed => match d.task with
    | .subscribing => some (loopTurn args d)
    | _ => none
  | .resumes => match d.task with
    | .woken => some (loopTurn args d)
    | _ => none
  -- the timeout cancels the task, also when its wait is over
  | .expires => match d.task with
    | .waiting | .woken => some (finish args false d)
    | _ => none

end MarstekBle.Standalone
