/- module: Standalone/WakeUp
   source: standalone_test/marstek_basic_info.py
   digest: When discovery finishes with the advertisement that completes it. -/

import Mathlib.Data.Finset.Card
import Mathlib.Data.List.TakeWhile
import MarstekBle.Lib.GuardedRun
import MarstekBle.Standalone.Discovery

set_option autoImplicit false
set_option relaxedAutoImplicit false

namespace MarstekBle.Standalone

open MarstekBle.Data MarstekBle.Lib.GuardedRun

def RawAdvertisement.decoded (adv : RawAdvertisement) : Option Advertisement :=
  match decodeNameFromRaw adv.data with
  | .ok name => some ⟨adv.address, adv.addressType, adv.rssi, name⟩
  | .error _ => none

def Callback.heard : Callback → List Advertisement
  | .handleAdv adv => [adv]
  | .handleRaw msg => msg.filterMap RawAdvertisement.decoded

def ScanEvent.heard : ScanEvent → List Advertisement
  | .advertises callback => callback.heard
  | _ => []

/-- The advertisements delivered in a run, in order. -/
def heardIn (events : List ScanEvent) : List Advertisement := events.flatMap ScanEvent.heard

/-- What happens while the task subscribes. -/
def beforeFirstCheck (events : List ScanEvent) : List ScanEvent :=
  events.takeWhile (· ≠ .subscribed)

def ScanTask.awaits : ScanTask → Bool
  | .waiting | .woken => true
  | _ => false

def ScanTask.inTime : ScanTask → Bool
  | .finished inTime _ => inTime
  | _ => false

variable (texts : TextFunctions) (args : ScanArguments)

/-- Every target was matched; without targets, the limit of distinct matching addresses was
seen. -/
def Met (seen : List Advertisement) : Prop :=
  if args.targets ≠ [] then
    ∀ spec ∈ args.targets, ∃ adv ∈ seen, spec.matchesSimple texts adv.address adv.advName = true
  else
    args.autoLimit ≤
      ((seen.filter fun adv => passesPrefix texts args adv.advName).map
        Advertisement.address).toFinset.card

/-- What the task does when no further advertisement comes. -/
def leftAlone (d : Discovery) : Discovery := match d.task with
  | .subscribing | .woken => loopTurn args d
  | _ => d

/-- The awaited event is set, and the task finishes without another advertisement. -/
structure Prompt (d : Discovery) : Prop where
  set : d.task.awaits = true → d.event = true
  finishes : (leftAlone args d).task.inTime = true

/-- The targets have pairwise different labels; without targets, the limit was met before the
task checked for the first time. -/
def CanWake (events : List ScanEvent) : Prop :=
  if args.targets ≠ [] then (args.targets.map TargetSpec.label).Nodup
  else Met texts args (heardIn (beforeFirstCheck events))

variable {texts args} {d d' : Discovery}

theorem heardIn_append {past : List ScanEvent} {e : ScanEvent} :
    heardIn (past ++ [e]) = heardIn past ++ e.heard := by
  simp [heardIn]

/-! ### What the callbacks record -/

section Matching

variable {adv : Advertisement} {specs : List TargetSpec}
  {found : List (Text × ResolvedDevice) × Bool}

theorem matchTarget_cases (texts : TextFunctions) (adv : Advertisement)
    (found : List (Text × ResolvedDevice) × Bool) (spec : TargetSpec) :
    (matchTarget texts adv found spec = found ∧
      (spec.label ∈ found.1.map Prod.fst ∨
        spec.matchesSimple texts adv.address adv.advName = false)) ∨
    (spec.label ∉ found.1.map Prod.fst ∧
      spec.matchesSimple texts adv.address adv.advName = true ∧
      ∃ device, matchTarget texts adv found spec = (found.1 ++ [(spec.label, device)], true)) := by
  unfold matchTarget
  by_cases known : spec.label ∈ found.1.map Prod.fst
  · rw [if_pos (List.contains_iff_mem.mpr known)]
    exact .inl ⟨rfl, .inl known⟩
  · rw [if_neg (fun listed => known (List.contains_iff_mem.mp listed))]
    by_cases fits : spec.matchesSimple texts adv.address adv.advName = true
    · rw [if_pos fits]
      exact .inr ⟨known, fits, _, rfl⟩
    · rw [if_neg fits]
      exact .inl ⟨rfl, .inr (Bool.eq_false_iff.mpr fits)⟩

theorem nodup_matchTargets (distinct : (found.1.map Prod.fst).Nodup) :
    ((specs.foldl (matchTarget texts adv) found).1.map Prod.fst).Nodup := by
  induction specs generalizing found with
  | nil => exact distinct
  | cons spec specs ih =>
    rw [List.foldl_cons]
    apply ih
    rcases matchTarget_cases texts adv found spec with ⟨same, _⟩ | ⟨unknown, _, device, more⟩
    · rw [same]
      exact distinct
    · rw [more, List.map_append, List.map_singleton, ← List.concat_eq_append]
      exact List.Nodup.concat unknown distinct

theorem mem_matchTargets {label : Text} :
    label ∈ (specs.foldl (matchTarget texts adv) found).1.map Prod.fst ↔
      label ∈ found.1.map Prod.fst ∨
      ∃ spec ∈ specs, spec.label = label ∧
        spec.matchesSimple texts adv.address adv.advName = true := by
  induction specs generalizing found with
  | nil => simp
  | cons spec specs ih =>
    rw [List.foldl_cons, ih]
    rcases matchTarget_cases texts adv found spec with ⟨same, skipped⟩ | ⟨_, fits, device, more⟩
    · rw [same]
      constructor
      · rintro (known | ⟨later, listed, named, fits⟩)
        · exact .inl known
        · exact .inr ⟨later, List.mem_cons_of_mem _ listed, named, fits⟩
      · rintro (known | ⟨later, listed, named, fits⟩)
        · exact .inl known
        · rcases List.mem_cons.mp listed with rfl | listed
          · rcases skipped with known | unfit
            · exact .inl (named ▸ known)
            · rw [unfit] at fits
              cases fits
          · exact .inr ⟨later, listed, named, fits⟩
    · rw [more]
      constructor
      · rintro (known | ⟨later, listed, named, fits⟩)
        · rcases List.mem_append.mp (List.map_append ▸ known) with known | here
          · exact .inl known
          · obtain rfl : label = spec.label := by simpa using here
            exact .inr ⟨spec, List.mem_cons_self, rfl, fits⟩
        · exact .inr ⟨later, List.mem_cons_of_mem _ listed, named, fits⟩
      · rintro (known | ⟨later, listed, named, fits⟩)
        · exact .inl (by rw [List.map_append]; exact List.mem_append_left _ known)
        · rcases List.mem_cons.mp listed with rfl | listed
          · exact .inl (by simp [← named])
          · exact .inr ⟨later, listed, named, fits⟩

/-- Where nothing is recorded, the flag stays as it was; and the other way round. -/
theorem matchTargets_unchanged
    (silent : (specs.foldl (matchTarget texts adv) found).2 = false) :
    specs.foldl (matchTarget texts adv) found = found := by
  have flagged : ∀ specs : List TargetSpec, ∀ found : List (Text × ResolvedDevice) × Bool,
      found.2 = true → (specs.foldl (matchTarget texts adv) found).2 = true := by
    intro specs
    induction specs with
    | nil => exact fun found raised => raised
    | cons spec specs ih =>
      intro found raised
      rw [List.foldl_cons]
      apply ih
      rcases matchTarget_cases texts adv found spec with ⟨same, _⟩ | ⟨_, _, device, more⟩
      · rw [same]
        exact raised
      · rw [more]
  induction specs generalizing found with
  | nil => rfl
  | cons spec specs ih =>
    rw [List.foldl_cons] at silent ⊢
    rcases matchTarget_cases texts adv found spec with ⟨same, _⟩ | ⟨_, _, device, more⟩
    · rw [same] at silent ⊢
      exact ih silent
    · rw [more] at silent
      rw [flagged specs _ rfl] at silent
      cases silent

end Matching

/-- What the callbacks recorded of the advertisements so far. -/
structure Recorded (texts : TextFunctions) (args : ScanArguments) (seen : List Advertisement)
    (d : Discovery) : Prop where
  distinct : (d.resolved.map Prod.fst).Nodup
  labels : args.targets ≠ [] → ∀ label, label ∈ d.resolved.map Prod.fst ↔
    ∃ spec ∈ args.targets, spec.label = label ∧
      ∃ adv ∈ seen, spec.matchesSimple texts adv.address adv.advName = true
  found : d.autoFound.map ResolvedDevice.address = d.seenAutoAddresses
  fresh : d.seenAutoAddresses.Nodup
  addresses : args.targets = [] → ∀ address, address ∈ d.seenAutoAddresses ↔
    ∃ adv ∈ seen, passesPrefix texts args adv.advName = true ∧ adv.address = address

/-- Whether some advertisement fits, after one more. -/
theorem exists_heard_append {seen : List Advertisement} {adv : Advertisement}
    {P : Advertisement → Prop} :
    (∃ heard ∈ seen ++ [adv], P heard) ↔ (∃ heard ∈ seen, P heard) ∨ P adv := by
  simp [or_and_right, exists_or]

@[simp] theorem resolved_set : d.set.resolved = d.resolved := by
  unfold Discovery.set
  split <;> rfl

@[simp] theorem autoFound_set : d.set.autoFound = d.autoFound := by
  unfold Discovery.set
  split <;> rfl

@[simp] theorem seenAutoAddresses_set : d.set.seenAutoAddresses = d.seenAutoAddresses := by
  unfold Discovery.set
  split <;> rfl

/-- With targets an advertisement that updates nothing leaves the state as it was, and one that
updates something sets the event. -/
theorem processAdvertisement_targets (texts : TextFunctions) (d : Discovery)
    (given : args.targets ≠ []) (adv : Advertisement) :
    processAdvertisement texts args adv d = d ∨
    processAdvertisement texts args adv d = { d with
      resolved := (args.targets.foldl (matchTarget texts adv) (d.resolved, false)).1 }.set := by
  unfold processAdvertisement
  rw [if_pos given]
  dsimp only
  cases updated : (args.targets.foldl (matchTarget texts adv) (d.resolved, false)).2 with
  | true => exact .inr rfl
  | false =>
    rw [matchTargets_unchanged updated]
    exact .inl rfl

theorem resolved_processAdvertisement (given : args.targets ≠ []) (adv : Advertisement) :
    (processAdvertisement texts args adv d).resolved =
      (args.targets.foldl (matchTarget texts adv) (d.resolved, false)).1 := by
  unfold processAdvertisement
  rw [if_pos given]
  dsimp only
  split
  · exact resolved_set
  · rfl

theorem autoDiscover_cases (texts : TextFunctions) (args : ScanArguments) (adv : Advertisement)
    (d : Discovery) :
    (autoDiscover texts args adv d = d ∧
      (passesPrefix texts args adv.advName = false ∨ adv.address ∈ d.seenAutoAddresses)) ∨
    (passesPrefix texts args adv.advName = true ∧ adv.address ∉ d.seenAutoAddresses ∧
      ∃ device, device.address = adv.address ∧ autoDiscover texts args adv d =
        { d with
          seenAutoAddresses := d.seenAutoAddresses ++ [adv.address]
          autoFound := d.autoFound ++ [device] }) := by
  unfold autoDiscover
  by_cases passes : passesPrefix texts args adv.advName = true
  · rw [if_neg (not_not_intro passes)]
    by_cases known : adv.address ∈ d.seenAutoAddresses
    · rw [if_pos known]
      exact .inl ⟨rfl, .inr known⟩
    · rw [if_neg known]
      exact .inr ⟨passes, known, _, rfl, rfl⟩
  · rw [if_pos passes]
    exact .inl ⟨rfl, .inl (Bool.eq_false_iff.mpr passes)⟩

theorem recorded_autoDiscover {seen : List Advertisement} {adv : Advertisement}
    (auto : args.targets = []) (records : Recorded texts args seen d) :
    Recorded texts args (seen ++ [adv]) (autoDiscover texts args adv d) := by
  rcases autoDiscover_cases texts args adv d with
    ⟨same, ignored⟩ | ⟨passes, unknown, device, at_, more⟩
  · rw [same]
    refine ⟨records.distinct, fun given => absurd auto given, records.found, records.fresh,
      fun _ address => ?_⟩
    rw [exists_heard_append, ← records.addresses auto address]
    constructor
    · exact .inl
    · rintro (known | ⟨passes, rfl⟩)
      · exact known
      · rcases ignored with fails | known
        · rw [fails] at passes
          cases passes
        · exact known
  · rw [more]
    refine ⟨records.distinct, fun given => absurd auto given, ?_, ?_, fun _ address => ?_⟩
    · simp [records.found, at_]
    · show (d.seenAutoAddresses ++ [adv.address]).Nodup
      rw [← List.concat_eq_append]
      exact List.Nodup.concat unknown records.fresh
    · dsimp only
      rw [exists_heard_append, List.mem_append, List.mem_singleton, records.addresses auto address]
      constructor
      · rintro (known | rfl)
        · exact .inl known
        · exact .inr ⟨passes, rfl⟩
      · rintro (known | ⟨_, here⟩)
        · exact .inl known
        · exact .inr here.symm

theorem recorded_targets {seen : List Advertisement} {adv : Advertisement}
    (given : args.targets ≠ []) (records : Recorded texts args seen d) :
    Recorded texts args (seen ++ [adv]) (processAdvertisement texts args adv d) := by
  have kept : (processAdvertisement texts args adv d).autoFound = d.autoFound ∧
      (processAdvertisement texts args adv d).seenAutoAddresses = d.seenAutoAddresses := by
    rcases processAdvertisement_targets texts d given adv with same | updated
    · rw [same]
      exact ⟨rfl, rfl⟩
    · rw [updated]
      exact ⟨autoFound_set, seenAutoAddresses_set⟩
  refine ⟨?_, fun _ label => ?_, ?_, ?_, fun auto => absurd auto given⟩
  · rw [resolved_processAdvertisement given]
    exact nodup_matchTargets records.distinct
  · rw [resolved_processAdvertisement given, mem_matchTargets, records.labels given label]
    simp only [exists_heard_append]
    constructor
    · rintro (⟨spec, listed, named, fits⟩ | ⟨spec, listed, named, fits⟩)
      · exact ⟨spec, listed, named, .inl fits⟩
      · exact ⟨spec, listed, named, .inr fits⟩
    · rintro ⟨spec, listed, named, fits | fits⟩
      · exact .inl ⟨spec, listed, named, fits⟩
      · exact .inr ⟨spec, listed, named, fits⟩
  · rw [kept.1, kept.2]
    exact records.found
  · rw [kept.2]
    exact records.fresh

theorem recorded_processAdvertisement {seen : List Advertisement} {adv : Advertisement}
    (records : Recorded texts args seen d) :
    Recorded texts args (seen ++ [adv]) (processAdvertisement texts args adv d) := by
  by_cases given : args.targets ≠ []
  · exact recorded_targets given records
  · unfold processAdvertisement
    rw [if_neg given]
    exact recorded_autoDiscover (not_ne_iff.mp given) records

/-- A property that every advertisement keeps is kept by a callback. -/
theorem handle_keeps {P : List Advertisement → Discovery → Prop} (seen : List Advertisement)
    (keep : ∀ seen adv d, P seen d → P (seen ++ [adv]) (processAdvertisement texts args adv d))
    (start : P seen d) (callback : Callback) :
    P (seen ++ callback.heard) (handle texts args callback d) := by
  cases callback with
  | handleAdv adv => exact keep seen adv d start
  | handleRaw msg =>
    simp only [Callback.heard, handle]
    induction msg generalizing seen d with
    | nil => simpa [handleRaw] using start
    | cons adv msg ih =>
      obtain ⟨name, decoded⟩ := decodeNameFromRaw_ok adv.data
      have here : adv.decoded = some ⟨adv.address, adv.addressType, adv.rssi, name⟩ := by
        simp [RawAdvertisement.decoded, decoded]
      rw [handleRaw, decoded, List.filterMap_cons_some here]
      have rest := ih _ (keep seen ⟨adv.address, adv.addressType, adv.rssi, name⟩ d start)
      rwa [List.append_assoc] at rest

/-! ### The check -/

section Check

variable {seen : List Advertisement}

/-- Only targets with different labels can pass the check. -/
theorem nodup_of_maybeDone (given : args.targets ≠ []) (records : Recorded texts args seen d)
    (done : maybeDone args d = true) : (args.targets.map TargetSpec.label).Nodup := by
  have size : d.resolved.length = args.targets.length := by simpa [maybeDone, given] using done
  have inside : d.resolved.map Prod.fst ⊆ args.targets.map TargetSpec.label := by
    intro label known
    obtain ⟨spec, listed, named, _⟩ := (records.labels given label).mp known
    exact List.mem_map.mpr ⟨spec, listed, named⟩
  have fits : (args.targets.map TargetSpec.label).length ≤ (d.resolved.map Prod.fst).length := by
    simp [size]
  exact ((records.distinct.subperm inside).perm_of_length_le fits).nodup_iff.mp records.distinct

theorem maybeDone_of_nodup (given : args.targets ≠ []) (records : Recorded texts args seen d)
    (met : Met texts args seen) (distinct : (args.targets.map TargetSpec.label).Nodup) :
    maybeDone args d = true := by
  rw [Met, if_pos given] at met
  have known : args.targets.map TargetSpec.label ⊆ d.resolved.map Prod.fst := by
    intro label listed
    obtain ⟨spec, listed, named⟩ := List.mem_map.mp listed
    exact (records.labels given label).mpr ⟨spec, listed, named, met spec listed⟩
  have inside : d.resolved.map Prod.fst ⊆ args.targets.map TargetSpec.label := by
    intro label recorded
    obtain ⟨spec, listed, named, _⟩ := (records.labels given label).mp recorded
    exact List.mem_map.mpr ⟨spec, listed, named⟩
  have atLeast := (distinct.subperm known).length_le
  have atMost := (records.distinct.subperm inside).length_le
  have size : d.resolved.length = args.targets.length := by
    simp only [List.length_map] at atLeast atMost
    omega
  simp [maybeDone, given, size]

theorem maybeDone_iff_met (auto : args.targets = []) (records : Recorded texts args seen d) :
    maybeDone args d = true ↔ Met texts args seen := by
  have same : ((seen.filter fun adv => passesPrefix texts args adv.advName).map
      Advertisement.address).toFinset = d.seenAutoAddresses.toFinset := by
    ext address
    simp [records.addresses auto address, and_assoc]
  have size : d.seenAutoAddresses.length = d.autoFound.length := by
    rw [← records.found, List.length_map]
  rw [Met, if_neg (not_not_intro auto), same, List.toFinset_card_of_nodup records.fresh, size]
  simp [maybeDone, auto]

end Check

/-! ### Where the task is -/

/-- Where the task is in a run with targets. -/
def TargetsTask (args : ScanArguments) (past : List ScanEvent) (d : Discovery) : Prop :=
  match d.task with
  | .subscribing => True
  | .waiting => d.event = false ∧ maybeDone args d = false
  | .woken => d.event = true
  | .finished true _ => (args.targets.map TargetSpec.label).Nodup
  | .finished false _ => .expires ∈ past

/-- Where the task is in a run without targets. -/
def AutoTask (texts : TextFunctions) (args : ScanArguments) (past : List ScanEvent)
    (task : ScanTask) : Prop :=
  match task with
  | .subscribing => .subscribed ∉ past
  | .waiting => .subscribed ∈ past ∧ ¬ Met texts args (heardIn (beforeFirstCheck past))
  | .woken => False
  | .finished true _ => .subscribed ∈ past ∧ Met texts args (heardIn (beforeFirstCheck past))
  | .finished false _ => .expires ∈ past

theorem scanStep_cases {e : ScanEvent} (h : scanStep texts args d e = some d') :
    (∃ callback, e = .advertises callback ∧ d' = handle texts args callback d) ∨
    (e = .subscribed ∧ d.task = .subscribing ∧ d' = loopTurn args d) ∨
    (e = .resumes ∧ d.task = .woken ∧ d' = loopTurn args d) ∨
    (e = .expires ∧ d' = finish args false d) := by
  cases e with
  | advertises callback =>
    simp only [scanStep, Option.ite_none_right_eq_some, Option.some.injEq] at h
    exact .inl ⟨callback, rfl, h.2.symm⟩
  | subscribed =>
    cases task : d.task <;> simp only [scanStep, task, Option.some.injEq, reduceCtorEq] at h
    exact .inr (.inl ⟨rfl, rfl, h.symm⟩)
  | resumes =>
    cases task : d.task <;> simp only [scanStep, task, Option.some.injEq, reduceCtorEq] at h
    exact .inr (.inr (.inl ⟨rfl, rfl, h.symm⟩))
  | expires =>
    cases task : d.task <;> simp only [scanStep, task, Option.some.injEq, reduceCtorEq] at h <;>
      exact .inr (.inr (.inr ⟨rfl, h.symm⟩))

theorem loopTurn_cases (args : ScanArguments) (d : Discovery) :
    (maybeDone args d = true ∧ loopTurn args d = finish args true d) ∨
    (maybeDone args d = false ∧ loopTurn args d = { d with event := false, task := .waiting }) := by
  unfold loopTurn
  cases maybeDone args d with
  | true => exact .inl ⟨rfl, rfl⟩
  | false => exact .inr ⟨rfl, rfl⟩

theorem recorded_loopTurn {seen : List Advertisement} (records : Recorded texts args seen d) :
    Recorded texts args seen (loopTurn args d) := by
  rcases loopTurn_cases args d with ⟨_, turned⟩ | ⟨_, turned⟩ <;> rw [turned] <;>
    exact ⟨records.distinct, records.labels, records.found, records.fresh, records.addresses⟩

/-- The callbacks and the task keep the record of what was heard. -/
theorem recorded_step {past : List ScanEvent} {e : ScanEvent}
    (records : Recorded texts args (heardIn past) d) (h : scanStep texts args d e = some d') :
    Recorded texts args (heardIn (past ++ [e])) d' := by
  rw [heardIn_append]
  rcases scanStep_cases h with ⟨callback, rfl, rfl⟩ | ⟨rfl, _, rfl⟩ | ⟨rfl, _, rfl⟩ | ⟨rfl, rfl⟩
  · exact handle_keeps (P := Recorded texts args) _
      (fun seen adv d records => recorded_processAdvertisement records) records callback
  · have silent : ScanEvent.heard .subscribed = [] := rfl
    rw [silent, List.append_nil]
    exact recorded_loopTurn records
  · have silent : ScanEvent.heard .resumes = [] := rfl
    rw [silent, List.append_nil]
    exact recorded_loopTurn records
  · have silent : ScanEvent.heard .expires = [] := rfl
    rw [silent, List.append_nil]
    exact ⟨records.distinct, records.labels, records.found, records.fresh, records.addresses⟩

theorem recorded_start : Recorded texts args [] Discovery.start := by
  refine ⟨by simp [Discovery.start], fun _ label => ?_, rfl, by simp [Discovery.start],
    fun _ address => ?_⟩
  · simp [Discovery.start]
  · simp [Discovery.start]

/-- With targets, an advertisement never leaves the task waiting once the check would succeed. -/
theorem targetsTask_processAdvertisement {past : List ScanEvent} (given : args.targets ≠ [])
    (adv : Advertisement) (task : TargetsTask args past d) :
    TargetsTask args past (processAdvertisement texts args adv d) := by
  rcases processAdvertisement_targets texts d given adv with same | updated
  · rw [same]
    exact task
  · rw [updated]
    obtain ⟨event, resolved, autoFound, seenAutoAddresses, at_⟩ := d
    cases event with
    | true =>
      cases at_ with
      | waiting => exact absurd task.1 Bool.noConfusion
      | subscribing => trivial
      | woken => rfl
      | finished inTime result => cases inTime <;> exact task
    | false =>
      cases at_ with
      | waiting => rfl
      | subscribing => trivial
      | woken => exact absurd task Bool.noConfusion
      | finished inTime result => cases inTime <;> exact task

theorem task_autoDiscover (texts : TextFunctions) (args : ScanArguments) (adv : Advertisement)
    (d : Discovery) : (autoDiscover texts args adv d).task = d.task := by
  rcases autoDiscover_cases texts args adv d with ⟨same, _⟩ | ⟨_, _, device, _, more⟩
  · rw [same]
  · rw [more]

/-- Without targets, no advertisement reaches the task. -/
theorem task_handle_auto (auto : args.targets = []) (callback : Callback) :
    (handle texts args callback d).task = d.task := by
  have kept : ∀ (seen : List Advertisement) adv (here : Discovery), here.task = d.task →
      (processAdvertisement texts args adv here).task = d.task := by
    intro _ adv here same
    unfold processAdvertisement
    rw [if_neg (not_not_intro auto), task_autoDiscover, same]
  exact handle_keeps (P := fun _ here => here.task = d.task) [] kept rfl callback

theorem targetsTask_step {past : List ScanEvent} {e : ScanEvent} (given : args.targets ≠ [])
    (records : Recorded texts args (heardIn past) d) (task : TargetsTask args past d)
    (h : scanStep texts args d e = some d') : TargetsTask args (past ++ [e]) d' := by
  have grown : ∀ {here : Discovery}, TargetsTask args past here →
      TargetsTask args (past ++ [e]) here := by
    intro here task
    unfold TargetsTask at task ⊢
    cases at_ : here.task with
    | finished inTime result =>
      rw [at_] at task
      cases inTime with
      | true => exact task
      | false => exact List.mem_append_left _ task
    | _ => rwa [at_] at task
  have turned : TargetsTask args (past ++ [e]) (loopTurn args d) := by
    rcases loopTurn_cases args d with ⟨done, turned⟩ | ⟨open_, turned⟩ <;> rw [turned]
    · exact nodup_of_maybeDone given records done
    · exact ⟨rfl, open_⟩
  rcases scanStep_cases h with ⟨callback, rfl, rfl⟩ | ⟨_, _, rfl⟩ | ⟨_, _, rfl⟩ | ⟨rfl, rfl⟩
  · apply grown
    exact handle_keeps (P := fun _ here => TargetsTask args past here) []
      (fun _ adv _ task => targetsTask_processAdvertisement given adv task) task callback
  · exact turned
  · exact turned
  · exact List.mem_append_right _ (List.mem_singleton.mpr rfl)

theorem beforeFirstCheck_append {past : List ScanEvent} (checked : .subscribed ∈ past)
    (more : List ScanEvent) : beforeFirstCheck (past ++ more) = beforeFirstCheck past := by
  induction past with
  | nil => cases checked
  | cons e past ih =>
    by_cases here : e = .subscribed
    · simp [beforeFirstCheck, here]
    · have later : .subscribed ∈ past :=
        (List.mem_cons.mp checked).resolve_left (Ne.symm here)
      simpa [beforeFirstCheck, here] using ih later

theorem beforeFirstCheck_self {past : List ScanEvent} (unchecked : .subscribed ∉ past) :
    beforeFirstCheck past = past := by
  apply List.takeWhile_eq_self_iff.mpr
  intro e listed
  have other : e ≠ .subscribed := fun same => unchecked (same ▸ listed)
  simpa using other

theorem beforeFirstCheck_subscribed {past : List ScanEvent} (unchecked : .subscribed ∉ past) :
    beforeFirstCheck (past ++ [.subscribed]) = past := by
  have whole := beforeFirstCheck_self unchecked
  have passes : ∀ e ∈ past, decide (e ≠ ScanEvent.subscribed) = true :=
    List.takeWhile_eq_self_iff.mp whole
  rw [beforeFirstCheck, List.takeWhile_append_of_pos passes]
  simp

theorem autoTask_step {past : List ScanEvent} {e : ScanEvent} (auto : args.targets = [])
    (records : Recorded texts args (heardIn past) d) (task : AutoTask texts args past d.task)
    (h : scanStep texts args d e = some d') : AutoTask texts args (past ++ [e]) d'.task := by
  rcases scanStep_cases h with ⟨callback, rfl, rfl⟩ | ⟨rfl, at_, rfl⟩ | ⟨_, at_, _⟩ | ⟨rfl, rfl⟩
  · rw [task_handle_auto auto]
    cases at_ : d.task with
    | subscribing =>
      rw [at_] at task
      have unchecked : .subscribed ∉ past := task
      simpa [AutoTask] using unchecked
    | waiting =>
      rw [at_] at task
      refine ⟨List.mem_append_left _ task.1, ?_⟩
      rw [beforeFirstCheck_append task.1]
      exact task.2
    | woken =>
      rw [at_] at task
      exact task
    | finished inTime result =>
      rw [at_] at task
      cases inTime with
      | true =>
        refine ⟨List.mem_append_left _ task.1, ?_⟩
        rw [beforeFirstCheck_append task.1]
        exact task.2
      | false => exact List.mem_append_left _ task
  · rw [at_] at task
    have checked : .subscribed ∈ past ++ [.subscribed] := by simp
    have early := beforeFirstCheck_subscribed task
    have met := maybeDone_iff_met auto records
    rcases loopTurn_cases args d with ⟨done, turned⟩ | ⟨open_, turned⟩ <;> rw [turned]
    · refine ⟨checked, ?_⟩
      rw [early]
      exact met.mp done
    · refine ⟨checked, ?_⟩
      rw [early, ← met, open_]
      exact Bool.noConfusion
  · rw [at_] at task
    exact task.elim
  · exact List.mem_append_right _ (List.mem_singleton.mpr rfl)

/-- What holds in every state of a run. -/
structure Followed (texts : TextFunctions) (args : ScanArguments) (past : List ScanEvent)
    (d : Discovery) : Prop where
  records : Recorded texts args (heardIn past) d
  targets : args.targets ≠ [] → TargetsTask args past d
  auto : args.targets = [] → AutoTask texts args past d.task

theorem followed_run {events : List ScanEvent}
    (h : run (scanStep texts args) Discovery.start events = some d) :
    Followed texts args events d := by
  refine run_follows (I := Followed texts args) ?_ ?_ h
  · intro past s e t here next
    exact ⟨recorded_step here.records next,
      fun given => targetsTask_step given here.records (here.targets given) next,
      fun auto => autoTask_step auto here.records (here.auto auto) next⟩
  · exact ⟨recorded_start, fun _ => trivial, fun _ => List.not_mem_nil⟩

/-! ### No lost wake-up -/

theorem inTime_loopTurn (args : ScanArguments) (d : Discovery) :
    (loopTurn args d).task.inTime = maybeDone args d := by
  rcases loopTurn_cases args d with ⟨done, turned⟩ | ⟨open_, turned⟩ <;> rw [turned]
  · rw [done]
    rfl
  · rw [open_]
    rfl

/-- Where the task is about to check, it is prompt if the check succeeds. -/
theorem prompt_iff_maybeDone (ready : d.task = .subscribing ∨ d.task = .woken ∧ d.event = true) :
    Prompt args d ↔ maybeDone args d = true := by
  have alone : leftAlone args d = loopTurn args d := by
    rcases ready with at_ | ⟨at_, _⟩ <;> simp [leftAlone, at_]
  have set : d.task.awaits = true → d.event = true := by
    rcases ready with at_ | ⟨_, flagged⟩
    · simp [at_, ScanTask.awaits]
    · exact fun _ => flagged
  constructor
  · intro prompt
    have finishes := prompt.finishes
    rwa [alone, inTime_loopTurn] at finishes
  · intro done
    exact ⟨set, by rwa [alone, inTime_loopTurn]⟩

theorem not_prompt_of_waiting (at_ : d.task = .waiting) : ¬ Prompt args d := by
  intro prompt
  have finishes := prompt.finishes
  simp [leftAlone, at_, ScanTask.inTime] at finishes

theorem prompt_of_finished {result : ScanResult} (at_ : d.task = .finished true result) :
    Prompt args d := by
  constructor
  · simp [at_, ScanTask.awaits]
  · simp [leftAlone, at_, ScanTask.inTime]

theorem prompt_targets_iff {events : List ScanEvent} (given : args.targets ≠ [])
    (followed : Followed texts args events d) (inTime : .expires ∉ events)
    (met : Met texts args (heardIn events)) :
    Prompt args d ↔ (args.targets.map TargetSpec.label).Nodup := by
  have task := followed.targets given
  have check : maybeDone args d = true ↔ (args.targets.map TargetSpec.label).Nodup :=
    ⟨nodup_of_maybeDone given followed.records, maybeDone_of_nodup given followed.records met⟩
  unfold TargetsTask at task
  cases at_ : d.task with
  | subscribing => rw [prompt_iff_maybeDone (.inl at_), check]
  | waiting =>
    rw [at_] at task
    have shared : ¬ (args.targets.map TargetSpec.label).Nodup := by
      rw [← check, task.2]
      exact Bool.noConfusion
    exact iff_of_false (not_prompt_of_waiting at_) shared
  | woken =>
    rw [at_] at task
    rw [prompt_iff_maybeDone (.inr ⟨at_, task⟩), check]
  | finished done result =>
    rw [at_] at task
    cases done with
    | true => exact iff_of_true (prompt_of_finished at_) task
    | false => exact absurd task inTime

theorem prompt_auto_iff {events : List ScanEvent} (auto : args.targets = [])
    (followed : Followed texts args events d) (inTime : .expires ∉ events) :
    Prompt args d ↔ Met texts args (heardIn (beforeFirstCheck events)) := by
  have task := followed.auto auto
  cases at_ : d.task with
  | subscribing =>
    rw [at_] at task
    rw [prompt_iff_maybeDone (.inl at_), maybeDone_iff_met auto followed.records,
      beforeFirstCheck_self task]
  | waiting =>
    rw [at_] at task
    exact iff_of_false (not_prompt_of_waiting at_) task.2
  | woken =>
    rw [at_] at task
    exact task.elim
  | finished done result =>
    rw [at_] at task
    cases done with
    | true => exact iff_of_true (prompt_of_finished at_) task.2
    | false => exact absurd task inTime

/-- Before its timeout, a scan that has seen all it looks for finishes without another
advertisement exactly where its targets have different labels, and without targets where the
first check already found the limit met. -/
theorem discovery_prompt_iff {events : List ScanEvent}
    (h : run (scanStep texts args) Discovery.start events = some d) (inTime : .expires ∉ events) :
    (Met texts args (heardIn events) → Prompt args d) ↔
      (Met texts args (heardIn events) → CanWake texts args events) := by
  have followed := followed_run h
  apply imp_congr_right
  intro met
  unfold CanWake
  by_cases given : args.targets ≠ []
  · rw [if_pos given]
    exact prompt_targets_iff given followed inTime met
  · rw [if_neg given]
    exact prompt_auto_iff (not_ne_iff.mp given) followed inTime

/-! ### One device, by name or by prefix -/

def asciiFunctions : TextFunctions :=
  ⟨List.map Char.toUpper, fun address => (Nat.repr address).toList⟩

/-- Look for the device of a name. -/
def oneName : ScanArguments :=
  ⟨[⟨"MST_ONE".toList, none, some "MST_ONE".toList⟩], "10.0".toList, [], 1, false, false, false⟩

/-- Look for one device whose name starts with `MST_`. -/
def anyDevice : ScanArguments := ⟨[], "10.0".toList, "MST_".toList, 1, false, false, false⟩

/-- The device advertises while the task waits. -/
def lateAdvertisement : List ScanEvent :=
  [.subscribed, .advertises (.handleAdv ⟨2, 0, -50, "mst_one".toList⟩)]

theorem discovery_prompt_iff_named :
    ∃ d, run (scanStep asciiFunctions oneName) Discovery.start lateAdvertisement = some d ∧
      d.task = .woken ∧
      ((Met asciiFunctions oneName (heardIn lateAdvertisement) → Prompt oneName d) ↔
        (Met asciiFunctions oneName (heardIn lateAdvertisement) →
          CanWake asciiFunctions oneName lateAdvertisement)) :=
  ⟨_, rfl, rfl, discovery_prompt_iff rfl (by decide)⟩

/-- Without targets the advertisement that meets the limit does not set the event. -/
theorem limit_met_unnoticed :
    ¬ ∀ texts args events d, run (scanStep texts args) Discovery.start events = some d →
      .expires ∉ events → Met texts args (heardIn events) → Prompt args d := by
  intro prompt
  have met : Met asciiFunctions anyDevice (heardIn lateAdvertisement) := by
    rw [Met, if_neg (by decide)]
    decide
  exact not_prompt_of_waiting rfl
    (prompt asciiFunctions anyDevice lateAdvertisement _ rfl (by decide) met)

end MarstekBle.Standalone
