/- module: Standalone/Sightings
   source: standalone_test/marstek_basic_info.py
   digest: The devices `discover_devices` returns, as a function of what was advertised. -/

import MarstekBle.Lib.Occurrences
import MarstekBle.Standalone.WakeUp

set_option autoImplicit false
set_option relaxedAutoImplicit false

namespace MarstekBle.Standalone

open MarstekBle.Data MarstekBle.Lib.GuardedRun MarstekBle.Lib.AttributeTree

variable (texts : TextFunctions) (args : ScanArguments)

/-! ### What ought to be returned -/

/-- The device that a target with the label becomes. -/
def deviceOf (label : Text) (adv : Advertisement) : ResolvedDevice :=
  ⟨label, adv.address, adv.addressType, adv.rssi, if adv.advName = [] then label else adv.advName⟩

/-- The advertisement fits a target with the label. -/
def fitsLabel (label : Text) (adv : Advertisement) : Bool :=
  args.targets.any fun spec =>
    spec.label == label && spec.matchesSimple texts adv.address adv.advName

/-- The first sighting of a target with the label. -/
def firstMatch (seen : List Advertisement) (label : Text) : Option ResolvedDevice :=
  (seen.find? (fitsLabel texts args label)).map (deviceOf label)

/-- The device of an advertisement that is found without targets. -/
def autoDevice (adv : Advertisement) : ResolvedDevice :=
  let label := if strip adv.advName = [] then texts.toHumanReadableAddress adv.address
    else strip adv.advName
  ⟨label, adv.address, adv.addressType, adv.rssi, label⟩

def passing (seen : List Advertisement) : List Advertisement :=
  seen.filter fun adv => passesPrefix texts args adv.advName

/-- Each address that passes the name test, in the order of the first sightings. -/
def firstSightings (seen : List Advertisement) : List ResolvedDevice :=
  (firstsFrom [] ((passing texts args seen).map Advertisement.address)).filterMap fun address =>
    ((passing texts args seen).find? fun adv => adv.address == address).map (autoDevice texts)

/-- The answer to a list of advertisements. -/
def scanAnswer (seen : List Advertisement) : ScanResult :=
  if args.targets ≠ [] then
    let missing := (args.targets.map TargetSpec.label).filter fun label =>
      (firstMatch texts args seen label).isNone
    if missing ≠ [] then
      .error ("Did not see advertisements for: ".toList ++ (", ".toList).intercalate missing)
    else .ok (args.targets.filterMap fun spec => firstMatch texts args seen spec.label)
  else if firstSightings texts args seen = [] then
    .error ("No BLE devices with prefix '".toList ++ args.autoPrefix ++
      "' were seen during the ".toList ++ args.scanTimeout ++ "s scan window".toList)
  else .ok (sliceTo (firstSightings texts args seen) args.autoLimit)

/-! ### Targets -/

variable {texts args} {seen : List Advertisement} {adv : Advertisement} {d d' : Discovery}

theorem firstMatch_snoc (label : Text) : firstMatch texts args (seen ++ [adv]) label =
    (firstMatch texts args seen label).or
      (if fitsLabel texts args label adv then some (deviceOf label adv) else none) := by
  rw [firstMatch, List.find?_append, Option.map_or, firstMatch]
  congr 1
  by_cases fits : fitsLabel texts args label adv = true
  · rw [if_pos fits, List.find?_cons_of_pos fits]
    rfl
  · rw [if_neg fits, List.find?_cons_of_neg fits]
    rfl

theorem contains_keys (resolved : List (Text × ResolvedDevice)) (label : Text) :
    (resolved.map Prod.fst).contains label = (resolved.lookup label).isSome := by
  rw [Bool.eq_iff_iff, List.contains_iff_mem, List.lookup_isSome_iff, List.mem_map]
  constructor
  · rintro ⟨e, member, rfl⟩
    exact ⟨e, member, beq_self_eq_true _⟩
  · rintro ⟨e, member, same⟩
    exact ⟨e, member, (beq_iff_eq.mp same).symm⟩

theorem lookup_matchTarget (found : List (Text × ResolvedDevice) × Bool) (spec : TargetSpec)
    (label : Text) : (matchTarget texts adv found spec).1.lookup label =
      (found.1.lookup label).or
        (if spec.label == label && spec.matchesSimple texts adv.address adv.advName
          then some (deviceOf label adv) else none) := by
  unfold matchTarget
  split
  · rename_i known
    by_cases same : spec.label = label
    · subst same
      rw [contains_keys] at known
      obtain ⟨device, there⟩ := Option.isSome_iff_exists.mp known
      rw [there, Option.some_or]
    · rw [if_neg (by simp [same]), Option.or_none]
  · split
    · rename_i fits
      show (found.1 ++ [(spec.label, deviceOf spec.label adv)]).lookup label = _
      rw [List.lookup_append]
      by_cases same : spec.label = label
      · subst same
        rw [List.lookup_cons_self, if_pos (by simp [fits])]
      · rw [if_neg (by simp [same]), List.lookup_cons, beq_false_of_ne (Ne.symm same)]
        rfl
    · rename_i unfit
      rw [if_neg (by simp [unfit]), Option.or_none]

/-- One advertisement, for all targets in turn. -/
theorem lookup_matchTargets (specs : List TargetSpec)
    (found : List (Text × ResolvedDevice) × Bool) (label : Text) :
    (specs.foldl (matchTarget texts adv) found).1.lookup label = (found.1.lookup label).or
      (if specs.any (fun spec => spec.label == label &&
          spec.matchesSimple texts adv.address adv.advName)
        then some (deviceOf label adv) else none) := by
  induction specs generalizing found with
  | nil => simp
  | cons spec specs ih =>
    have one : (matchTarget texts adv found spec).1.lookup label = (found.1.lookup label).or
        (if spec.label == label && spec.matchesSimple texts adv.address adv.advName
          then some (deviceOf label adv) else none) := lookup_matchTarget found spec label
    rw [List.foldl_cons, ih, one, Option.or_assoc, List.any_cons]
    congr 1
    cases spec.label == label && spec.matchesSimple texts adv.address adv.advName <;> simp

/-! ### Without targets -/

theorem passing_snoc : passing texts args (seen ++ [adv]) = passing texts args seen ++
    (if passesPrefix texts args adv.advName then [adv] else []) := by
  rw [passing, List.filter_append, passing, List.filter_cons, List.filter_nil]

/-- An address keeps the device of its first sighting. -/
theorem find_address_snoc {earlier : List Advertisement} {address : Nat}
    (known : address ∈ earlier.map Advertisement.address) :
    (earlier ++ [adv]).find? (fun heard => heard.address == address) =
      earlier.find? fun heard => heard.address == address := by
  obtain ⟨first, member, same⟩ := List.mem_map.mp known
  have found : (earlier.find? fun heard => heard.address == address).isSome = true := by
    rw [List.find?_isSome]
    exact ⟨first, member, by simp [same]⟩
  obtain ⟨device, there⟩ := Option.isSome_iff_exists.mp found
  rw [List.find?_append, there, Option.some_or]

theorem firstSightings_snoc : firstSightings texts args (seen ++ [adv]) =
    if passesPrefix texts args adv.advName = true ∧
        adv.address ∉ (passing texts args seen).map Advertisement.address then
      firstSightings texts args seen ++ [autoDevice texts adv]
    else firstSightings texts args seen := by
  rw [firstSightings, passing_snoc]
  by_cases passes : passesPrefix texts args adv.advName = true
  · rw [if_pos passes, List.map_append, List.map_singleton, firstsFrom_snoc]
    have kept : (firstsFrom [] ((passing texts args seen).map Advertisement.address)).filterMap
        (fun address => ((passing texts args seen ++ [adv]).find? fun heard =>
          heard.address == address).map (autoDevice texts)) = firstSightings texts args seen := by
      rw [firstSightings]
      refine List.filterMap_congr fun address listed => ?_
      rw [mem_firstsFrom] at listed
      rw [find_address_snoc (listed.resolve_left List.not_mem_nil)]
    by_cases known : adv.address ∈ (passing texts args seen).map Advertisement.address
    · have listed : adv.address ∈
          firstsFrom [] ((passing texts args seen).map Advertisement.address) := by
        rw [mem_firstsFrom]
        exact .inr known
      rw [if_pos listed, if_neg fun h => h.2 known, kept]
    · have fresh : adv.address ∉
          firstsFrom [] ((passing texts args seen).map Advertisement.address) := by
        rw [mem_firstsFrom]
        exact fun h => known (h.resolve_left List.not_mem_nil)
      have missing : ((passing texts args seen).find? fun heard =>
          heard.address == adv.address) = none := by
        rw [List.find?_eq_none]
        intro heard member same
        exact known (List.mem_map.mpr ⟨heard, member, by simpa using same⟩)
      rw [if_neg fresh, if_pos ⟨passes, known⟩, List.filterMap_append, kept]
      congr 1
      simp [List.find?_append, missing]
  · rw [if_neg passes, List.append_nil, if_neg fun h => passes h.1, firstSightings]

/-! ### What is recorded -/

/-- What the callbacks have recorded is what has been sighted. -/
structure Sighted (texts : TextFunctions) (args : ScanArguments) (seen : List Advertisement)
    (d : Discovery) : Prop where
  targets : args.targets ≠ [] →
    ∀ label, d.resolved.lookup label = firstMatch texts args seen label
  auto : args.targets = [] → d.autoFound = firstSightings texts args seen ∧
    ∀ address, address ∈ d.seenAutoAddresses ↔
      address ∈ (passing texts args seen).map Advertisement.address

theorem sighted_processAdvertisement (records : Sighted texts args seen d) :
    Sighted texts args (seen ++ [adv]) (processAdvertisement texts args adv d) := by
  constructor
  · intro given label
    rw [resolved_processAdvertisement given, lookup_matchTargets, firstMatch_snoc,
      records.targets given]
    rfl
  · intro none_
    obtain ⟨found, addresses⟩ := records.auto none_
    rw [processAdvertisement, if_neg (not_not_intro none_), firstSightings_snoc, passing_snoc,
      ← found]
    unfold autoDiscover
    by_cases passes : passesPrefix texts args adv.advName = true
    · rw [if_neg (not_not_intro passes), if_pos passes]
      by_cases known : adv.address ∈ d.seenAutoAddresses
      · have listed := (addresses _).mp known
        rw [if_pos known, if_neg fun h => h.2 listed]
        refine ⟨rfl, fun address => ?_⟩
        rw [addresses, List.map_append, List.mem_append, List.map_singleton, List.mem_singleton]
        exact ⟨.inl, fun h => h.elim id fun same => same ▸ listed⟩
      · have fresh : adv.address ∉ (passing texts args seen).map Advertisement.address :=
          fun listed => known ((addresses _).mpr listed)
        rw [if_neg known, if_pos ⟨passes, fresh⟩]
        refine ⟨rfl, fun address => ?_⟩
        rw [List.map_append, List.mem_append, List.map_singleton, List.mem_append, addresses]
    · rw [if_pos passes, if_neg passes, if_neg fun h => passes h.1, List.append_nil]
      exact ⟨rfl, addresses⟩

theorem discoverResult_of_sighted (records : Sighted texts args seen d) :
    discoverResult args d = scanAnswer texts args seen := by
  unfold discoverResult scanAnswer
  by_cases given : args.targets ≠ []
  · have known : ∀ label, (!(d.resolved.map Prod.fst).contains label) =
        (firstMatch texts args seen label).isNone := by
      intro label
      rw [← records.targets given, contains_keys, Option.not_isSome]
    simp only [if_pos given, known, records.targets given]
  · rw [if_neg given, if_neg given, (records.auto (not_ne_iff.mp given)).1]

/-! ### Every run -/

def ScanTask.running : ScanTask → Bool
  | .finished _ _ => false
  | _ => true

/-- The task finished in the run, with the answer to what had been advertised until then. -/
def Concluded (texts : TextFunctions) (args : ScanArguments) (events : List ScanEvent)
    (inTime : Bool) (result : ScanResult) : Prop :=
  ∃ before e after waiting, events = before ++ e :: after ∧
    run (scanStep texts args) Discovery.start before = some waiting ∧
    waiting.task.running = true ∧ result = scanAnswer texts args (heardIn before) ∧
    (inTime = true → e ≠ .expires ∧ Met texts args (heardIn before)) ∧
    (inTime = false → e = .expires)

/-- A scan that ends in time has seen what it looks for. -/
theorem met_of_maybeDone (records : Recorded texts args seen d) (done : maybeDone args d = true) :
    Met texts args seen := by
  by_cases given : args.targets ≠ []
  · have distinct := nodup_of_maybeDone given records done
    have size : d.resolved.length = args.targets.length := by simpa [maybeDone, given] using done
    have inside : d.resolved.map Prod.fst ⊆ args.targets.map TargetSpec.label := by
      intro label known
      obtain ⟨spec, listed, named, _⟩ := (records.labels given label).mp known
      exact List.mem_map.mpr ⟨spec, listed, named⟩
    have all := (records.distinct.subperm inside).perm_of_length_le (by simp [size])
    rw [Met, if_pos given]
    intro spec listed
    obtain ⟨other, listed', named, met⟩ :=
      (records.labels given _).mp (all.mem_iff.mpr (List.mem_map_of_mem listed))
    obtain rfl := List.inj_on_of_nodup_map distinct listed' listed named
    exact met
  · exact (maybeDone_iff_met (not_ne_iff.mp given) records).mp done

/-- What holds in every state of a run. -/
structure Answers (texts : TextFunctions) (args : ScanArguments) (past : List ScanEvent)
    (d : Discovery) : Prop where
  ran : run (scanStep texts args) Discovery.start past = some d
  sighted : Sighted texts args (heardIn past) d
  concluded : ∀ inTime result, d.task = .finished inTime result →
    Concluded texts args past inTime result

theorem Concluded.snoc {past : List ScanEvent} {inTime : Bool} {result : ScanResult}
    (h : Concluded texts args past inTime result) (e : ScanEvent) :
    Concluded texts args (past ++ [e]) inTime result := by
  obtain ⟨before, last, after, waiting, rfl, rest⟩ := h
  exact ⟨before, last, after ++ [e], waiting, by simp, rest⟩

/-- A callback does not end the scan. -/
theorem finished_handle {callback : Callback} {inTime : Bool} {result : ScanResult}
    (h : (handle texts args callback d).task = .finished inTime result) :
    d.task = .finished inTime result := by
  have keep : ∀ (seen : List Advertisement) adv t,
      (t.task = .finished inTime result → d.task = .finished inTime result) →
      ((processAdvertisement texts args adv t).task = .finished inTime result →
        d.task = .finished inTime result) := by
    intro _ adv t before ended
    apply before
    by_cases given : args.targets ≠ []
    · rcases processAdvertisement_targets texts t given adv with same | updated
      · rwa [same] at ended
      · rw [updated] at ended
        unfold Discovery.set at ended
        split at ended
        · exact ended
        · dsimp only at ended
          cases at_ : t.task <;> rw [at_] at ended <;> first | exact ended | cases ended
    · rw [processAdvertisement, if_neg given] at ended
      rwa [task_autoDiscover] at ended
  exact handle_keeps (P := fun _ t => t.task = .finished inTime result →
    d.task = .finished inTime result) [] keep id callback h

theorem concluded_finish {past : List ScanEvent} {e : ScanEvent} {inTime done : Bool}
    {result : ScanResult} (h : Answers texts args past d) (running : d.task.running = true)
    (met : done = true → e ≠ .expires ∧ Met texts args (heardIn past))
    (late : done = false → e = .expires)
    (ended : (finish args done d).task = .finished inTime result) :
    Concluded texts args (past ++ [e]) inTime result := by
  obtain ⟨rfl, rfl⟩ := ScanTask.finished.inj ended
  exact ⟨past, e, [], d, rfl, h.ran, running, discoverResult_of_sighted h.sighted, met, late⟩

theorem sighted_of_same {e : Discovery} (h : Sighted texts args seen d)
    (resolved : e.resolved = d.resolved) (found : e.autoFound = d.autoFound)
    (addresses : e.seenAutoAddresses = d.seenAutoAddresses) : Sighted texts args seen e := by
  refine ⟨fun given => ?_, fun auto => ?_⟩
  · rw [resolved]
    exact h.targets given
  · rw [found, addresses]
    exact h.auto auto

theorem answers_loopTurn {past : List ScanEvent} {e : ScanEvent} (h : Answers texts args past d)
    (running : d.task.running = true) (quiet : e.heard = []) (turn : e ≠ .expires)
    (next : scanStep texts args d e = some (loopTurn args d)) :
    Answers texts args (past ++ [e]) (loopTurn args d) := by
  have same : heardIn (past ++ [e]) = heardIn past := by
    rw [heardIn_append, quiet, List.append_nil]
  have ran : run (scanStep texts args) Discovery.start (past ++ [e]) = some (loopTurn args d) := by
    rw [run_snoc, h.ran]
    exact next
  have records := (followed_run h.ran).records
  rcases loopTurn_cases args d with ⟨done, turned⟩ | ⟨_, turned⟩
  · rw [turned] at ran ⊢
    refine ⟨ran, same ▸ sighted_of_same h.sighted rfl rfl rfl, fun inTime result ended => ?_⟩
    exact concluded_finish h running (fun _ => ⟨turn, met_of_maybeDone records done⟩)
      (fun late => by cases late) ended
  · rw [turned] at ran ⊢
    exact ⟨ran, same ▸ sighted_of_same h.sighted rfl rfl rfl, fun _ _ ended => by cases ended⟩

theorem answers_step {past : List ScanEvent} {e : ScanEvent} (h : Answers texts args past d)
    (next : scanStep texts args d e = some d') : Answers texts args (past ++ [e]) d' := by
  rcases scanStep_cases next with
    ⟨callback, rfl, rfl⟩ | ⟨rfl, at_, rfl⟩ | ⟨rfl, at_, rfl⟩ | ⟨rfl, rfl⟩
  · refine ⟨by rw [run_snoc, h.ran]; exact next, ?_, fun inTime result ended => ?_⟩
    · rw [heardIn_append]
      exact handle_keeps (P := Sighted texts args) _
        (fun _ _ _ records => sighted_processAdvertisement records) h.sighted callback
    · exact (h.concluded inTime result (finished_handle ended)).snoc _
  · exact answers_loopTurn h (by rw [at_]; rfl) rfl (by simp) next
  · exact answers_loopTurn h (by rw [at_]; rfl) rfl (by simp) next
  · have running : d.task.running = true := by
      cases at_ : d.task with
      | finished inTime result => simp [scanStep, at_] at next
      | subscribing | waiting | woken => rfl
    have same : heardIn (past ++ [.expires]) = heardIn past := by
      rw [heardIn_append]
      exact List.append_nil _
    refine ⟨by rw [run_snoc, h.ran]; exact next, same ▸ sighted_of_same h.sighted rfl rfl rfl,
      fun inTime result ended => ?_⟩
    exact concluded_finish h running (fun done => by cases done) (fun _ => rfl) ended

theorem sighted_start : Sighted texts args [] Discovery.start := by
  refine ⟨fun _ label => rfl, fun _ => ⟨rfl, fun address => Iff.rfl⟩⟩

/-- Whatever is advertised and whenever the scan ends: `discover_devices` answers with the first
sighting of each target, or of each address whose name has the prefix, up to that moment. -/
theorem discovery_answers {events : List ScanEvent} {inTime : Bool} {result : ScanResult}
    (h : run (scanStep texts args) Discovery.start events = some d)
    (ended : d.task = .finished inTime result) : Concluded texts args events inTime result := by
  have answers : Answers texts args events d := by
    refine run_follows (I := Answers texts args) (fun past s e t here next => ?_) ?_ h
    · exact answers_step here next
    · exact ⟨rfl, sighted_start, fun _ _ ended => by cases ended⟩
  exact answers.concluded inTime result ended

theorem discovery_answers_named :
    Concluded asciiFunctions oneName (lateAdvertisement ++ [.resumes]) true
      (.ok [⟨"MST_ONE".toList, 2, 0, -50, "mst_one".toList⟩]) :=
  discovery_answers (d := finish oneName true
    ⟨true, [("MST_ONE".toList, ⟨"MST_ONE".toList, 2, 0, -50, "mst_one".toList⟩)], [], [], .woken⟩)
    rfl rfl

end MarstekBle.Standalone
