/- module: Product/TextReplies
   source: custom_components/marstek_ble/products/venus_runtime.py, products/jupiter_runtime.py
   digest: What the comma-separated text replies set and report, for every payload. -/

import MarstekBle.Data.PairText
import MarstekBle.Lib.Occurrences
import MarstekBle.Product.Lawful

/-!
The statements are about the segments of the received text: a segment gives a field a
value if its trimmed key maps to the field. The loops of the decoders are folds over
the same segments, and what they write and report is the last and the first of the
assignments that the segments make.
-/

set_option autoImplicit false
set_option relaxedAutoImplicit false

namespace MarstekBle.Product

open MarstekBle.Data MarstekBle.Schema MarstekBle.Protocol MarstekBle.Lib.AttributeTree

section Segments

variable (separator : Char) (mapping : List (String × String))

/-- The segment gives the field the value. -/
def Gives (segment : Text) (field : String) (value : Text) : Prop :=
  ∃ key rest, segment = key ++ separator :: rest ∧ separator ∉ key ∧
    mapping.lookup (String.ofList (strip key)) = some field ∧ value = strip rest

/-- Some segment of the text gives the field a value. -/
def Given (text : Text) (field : String) : Prop :=
  ∃ segment ∈ split ',' text, ∃ value, Gives separator mapping segment field value

/-- The last segment that gives the field a value gives it this one. -/
def LastGives (text : Text) (field : String) (value : Text) : Prop :=
  ∃ before segment after, split ',' text = before ++ segment :: after ∧
    Gives separator mapping segment field value ∧
    ∀ later ∈ after, ∀ other, ¬ Gives separator mapping later field other

/-- Some segment gives the first field a value before any gives the second one. -/
def GivenBefore (text : Text) (a b : String) : Prop :=
  ∃ before segment after value, split ',' text = before ++ segment :: after ∧
    Gives separator mapping segment a value ∧
    ∀ earlier ∈ before ++ [segment], ∀ other, ¬ Gives separator mapping earlier b other

/-- The fields that are given values, each once, in the order of first occurrence. -/
structure ReportsGiven (text : Text) (fields : List String) : Prop where
  given : ∀ field, field ∈ fields ↔ Given separator mapping text field
  once : fields.Nodup
  ordered : fields.Pairwise (GivenBefore separator mapping text)

/-- What a segment assigns. -/
def segmentField (segment : Text) : Option (String × Text) :=
  (splitOnce separator segment).bind fun e =>
    (mapping.lookup (String.ofList (strip e.1))).map fun field => (field, strip e.2)

def fieldWrites (text : Text) : List (String × Text) :=
  (split ',' text).filterMap (segmentField separator mapping)

variable {separator mapping}

theorem segmentField_eq_some_iff {segment : Text} {field : String} {value : Text} :
    segmentField separator mapping segment = some (field, value) ↔
      Gives separator mapping segment field value := by
  rw [segmentField, Option.bind_eq_some_iff]
  constructor
  · rintro ⟨⟨key, rest⟩, found, mapped⟩
    obtain ⟨parts, absent⟩ := splitOnce_eq_some_iff.mp found
    obtain ⟨name, known, same⟩ := Option.map_eq_some_iff.mp mapped
    obtain ⟨rfl, rfl⟩ := Prod.mk.inj same
    exact ⟨key, rest, parts, absent, known, rfl⟩
  · rintro ⟨key, rest, parts, absent, known, rfl⟩
    refine ⟨(key, rest), splitOnce_eq_some_iff.mpr ⟨parts, absent⟩, ?_⟩
    rw [known, Option.map_some]

theorem lastGives_iff {text : Text} {field : String} {value : Text} :
    LastGives separator mapping text field value ↔
      latest field (fieldWrites separator mapping text) = some value := by
  rw [fieldWrites, latest_filterMap_eq_some_iff]
  simp only [LastGives, ← segmentField_eq_some_iff, ne_eq]

theorem given_iff {text : Text} {field : String} :
    Given separator mapping text field ↔
      field ∈ (fieldWrites separator mapping text).map Prod.fst := by
  rw [List.mem_map]
  constructor
  · rintro ⟨segment, inside, value, gives⟩
    have written := List.mem_filterMap.mpr ⟨segment, inside, segmentField_eq_some_iff.mpr gives⟩
    exact ⟨(field, value), written, rfl⟩
  · rintro ⟨⟨_, value⟩, written, rfl⟩
    obtain ⟨segment, inside, gives⟩ := List.mem_filterMap.mp written
    exact ⟨segment, inside, value, segmentField_eq_some_iff.mp gives⟩

theorem givenBefore_of_occursBefore {text : Text} {a b : String}
    (earlier : OccursBefore ((fieldWrites separator mapping text).map Prod.fst) a b) :
    GivenBefore separator mapping text a b := by
  obtain ⟨before, after, parts, unseen⟩ := earlier
  rw [fieldWrites, List.map_filterMap] at parts
  obtain ⟨first, rest, whole, hfirst, hrest⟩ := List.filterMap_eq_append_iff.mp parts
  obtain ⟨skipped, segment, last, hrest', nothing, here, _⟩ := List.filterMap_eq_cons_iff.mp hrest
  obtain ⟨⟨_, value⟩, gives, rfl⟩ := Option.map_eq_some_iff.mp here
  refine ⟨first ++ skipped, segment, last, value, by rw [whole, hrest', List.append_assoc],
    segmentField_eq_some_iff.mp gives, fun s inside other givesOther => unseen ?_⟩
  have assigned := segmentField_eq_some_iff.mpr givesOther
  rw [List.mem_append, List.mem_append, List.mem_singleton] at inside
  rcases inside with (inFirst | inSkipped) | rfl
  · refine List.mem_append_left _ (hfirst ▸ List.mem_filterMap.mpr ⟨s, inFirst, ?_⟩)
    rw [assigned, Option.map_some]
  · have skips := nothing s inSkipped
    rw [assigned] at skips
    cases skips
  · rw [gives, Option.some.injEq, Prod.mk.injEq] at assigned
    exact List.mem_append_right _ (List.mem_singleton.mpr assigned.1.symm)

theorem reportsGiven_firsts (text : Text) : ReportsGiven separator mapping text
    (firstsFrom [] ((fieldWrites separator mapping text).map Prod.fst)) where
  given := fun field => by
    rw [mem_firstsFrom, given_iff]
    exact or_iff_right List.not_mem_nil
  once := nodup_firstsFrom _
  ordered := (firstsFrom_pairwise _).imp givenBefore_of_occursBefore

/-- The assignments, from the trimmed pairs of the text. -/
theorem fieldWrites_eq (text : Text) : fieldWrites separator mapping text =
    (pairsOf separator text).filterMap fun pair =>
      (mapping.lookup (String.ofList pair.1)).map fun field => (field, pair.2) := by
  rw [fieldWrites, pairsOf, List.filterMap_filterMap]
  refine congrArg (fun f => List.filterMap f _) (funext fun segment => ?_)
  rw [segmentField, Option.bind_map]
  rfl

theorem fieldWrites_strip (solid : isWhitespace separator = false) (text : Text) :
    fieldWrites separator mapping (strip text) = fieldWrites separator mapping text := by
  rw [fieldWrites_eq, fieldWrites_eq, pairsOf_strip solid]

/-! ### The loop over the segments -/

variable {sectionName : String}

/-- The field's leaf in its section. -/
def fieldPath (sectionName field : String) : DataPath := [.attr sectionName, .attr field]

theorem fieldPath_injective (sectionName : String) :
    Function.Injective (fieldPath sectionName) := by
  intro a b same
  simpa [fieldPath] using same

theorem pairWrites_eq (text : Text) :
    pairWrites separator mapping sectionName (split ',' text) =
      (fieldWrites separator mapping text).map fun w =>
        (fieldPath sectionName w.1, Value.str w.2) := by
  rw [pairWrites, fieldWrites, List.map_filterMap]
  refine congrArg (fun f => List.filterMap f _) (funext fun segment => ?_)
  rw [segmentField, Option.map_bind]
  refine congrArg (Option.bind _) (funext fun e => ?_)
  rw [Function.comp_apply, Option.map_map]
  rfl

theorem reportOnce_eq (paths : List DataPath) (writes : List (DataPath × Value)) :
    reportOnce paths writes = firstsFrom paths (writes.map Prod.fst) := by
  rw [reportOnce, firstsFrom, List.foldl_map]
  -- the two tests for membership decide it by different instances
  refine congrArg (fun f => List.foldl f paths writes) (funext fun ps => funext fun u => ?_)
  by_cases known : u.1 ∈ ps
  · rw [if_pos known, if_pos known]
  · rw [if_neg known, if_neg known]

theorem reportOnce_pairWrites (text : Text) :
    reportOnce [] (pairWrites separator mapping sectionName (split ',' text)) =
      (firstsFrom [] ((fieldWrites separator mapping text).map Prod.fst)).map
        (fieldPath sectionName) := by
  rw [reportOnce_eq, pairWrites_eq, List.map_map, ← firstsFrom_map (fieldPath_injective _),
    List.map_nil, List.map_map]
  rfl

/-- The section after the loop: each field has the value given last, and what no
segment gives a value is as before. -/
structure LastWins (separator : Char) (mapping : List (String × String)) (sectionName : String)
    (text : Text) (before after : DataTree) : Prop where
  last : ∀ field value, LastGives separator mapping text field value →
    after.valueAt (fieldPath sectionName field) = some (.str value)
  others : ∀ p, (∀ field, Given separator mapping text field → p ≠ fieldPath sectionName field) →
    after.valueAt p = before.valueAt p

theorem valueAt_pairWrites {tree : DataTree}
    (leaves : ∀ field ∈ mapping.map Prod.snd, tree.IsLeaf (fieldPath sectionName field))
    (text : Text) (p : DataPath) :
    (tree.assignAll (pairWrites separator mapping sectionName (split ',' text))).valueAt p =
      (latest p (pairWrites separator mapping sectionName (split ',' text))).or
        (tree.valueAt p) := by
  refine Node.valueAt_assignAll (fun u written => ?_) p
  obtain ⟨name, mapped, path, _⟩ := pairWrites_path written
  exact path ▸ leaves name mapped

theorem latest_pairWrites (text : Text) (field : String) :
    latest (fieldPath sectionName field)
        (pairWrites separator mapping sectionName (split ',' text)) =
      (latest field (fieldWrites separator mapping text)).map .str := by
  rw [pairWrites_eq]
  exact latest_map_map (fieldPath_injective sectionName) Value.str field _

theorem lastWins_pairWrites {tree : DataTree}
    (leaves : ∀ field ∈ mapping.map Prod.snd, tree.IsLeaf (fieldPath sectionName field))
    (text : Text) : LastWins separator mapping sectionName text tree
      (tree.assignAll (pairWrites separator mapping sectionName (split ',' text))) where
  last := by
    intro field value gives
    rw [valueAt_pairWrites leaves, latest_pairWrites, lastGives_iff.mp gives]
    rfl
  others := by
    intro p apart
    have unwritten :
        latest p (pairWrites separator mapping sectionName (split ',' text)) = none := by
      rw [latest_eq_none_iff, pairWrites_eq]
      intro u written same
      obtain ⟨w, inside, rfl⟩ := List.mem_map.mp written
      have given := given_iff.mpr (List.mem_map.mpr ⟨w, inside, rfl⟩)
      exact apart w.1 given same.symm
    rw [valueAt_pairWrites leaves, unwritten, Option.none_or]

/-! ### Reading back written pairs -/

/-- The last pair whose key maps to the field. -/
def lastPair (mapping : List (String × String)) (pairs : List (TextPair separator))
    (field : String) : Option (TextPair separator) :=
  pairs.reverse.find? fun pair => mapping.lookup (String.ofList pair.key) == some field

theorem latest_encodePairs (other : separator ≠ ',') (pairs : List (TextPair separator))
    (field : String) : latest field (fieldWrites separator mapping (encodePairs pairs)) =
      (lastPair mapping pairs field).map TextPair.value := by
  rw [fieldWrites_eq, pairsOf_encodePairs other, List.filterMap_map]
  induction pairs with
  | nil => rfl
  | cons pair pairs ih =>
    rw [lastPair] at ih ⊢
    rw [List.reverse_cons, List.find?_append, Option.map_or, ← ih]
    cases known : mapping.lookup (String.ofList pair.key) with
    | none => simp [known]
    | some name =>
      by_cases same : name = field
      · simp [known, same, latest]
      · simp [known, same, latest]

/-- A decoded text of pairs: the paths reported after the leading ones, and the section. -/
def DecodesPairs (separator : Char) (mapping : List (String × String)) (sectionName : String)
    (leading : List DataPath) (text : Text) (before : DataTree)
    (result : Raises (Option (List DataPath)) × DataTree) : Prop :=
  ∃ fields, result.1 = .ok (some (leading ++ fields.map (fieldPath sectionName))) ∧
    ReportsGiven separator mapping text fields ∧
    LastWins separator mapping sectionName text before result.2

/-- Each mapped field holds the value of the last pair whose key maps to it, as
read; without one it is as before. -/
def LeavesLastPairs (mapping : List (String × String)) (sectionName : String)
    (readValue : Text → Option Value) (pairs : List (TextPair separator))
    (before after : DataTree) : Prop :=
  ∀ field ∈ mapping.map Prod.snd, after.valueAt (fieldPath sectionName field) =
    ((lastPair mapping pairs field).bind fun pair => readValue pair.value).or
      (before.valueAt (fieldPath sectionName field))

theorem LastWins.leavesLastPairs (other : separator ≠ ',') {pairs : List (TextPair separator)}
    {before after : DataTree}
    (wins : LastWins separator mapping sectionName (encodePairs pairs) before after) :
    LeavesLastPairs mapping sectionName (fun value => some (.str value)) pairs before after := by
  intro field _
  have written : latest field (fieldWrites separator mapping (encodePairs pairs)) =
      (lastPair mapping pairs field).map TextPair.value := latest_encodePairs other pairs field
  cases last : lastPair mapping pairs field with
  | some pair =>
    rw [last, Option.map_some] at written
    exact wins.last field pair.value (lastGives_iff.mpr written)
  | none =>
    rw [last, Option.map_none] at written
    refine wins.others _ fun name given same => ?_
    obtain rfl := fieldPath_injective sectionName same
    obtain ⟨w, inside, path⟩ := List.mem_map.mp (given_iff.mp given)
    exact (latest_eq_none_iff _ _).mp written w inside path

end Segments

namespace Venus

variable {data : TrackedProductData}

private theorem device_leaves (inShape : InShape venusRuntime data) :
    ∀ field ∈ deviceMapping.map Prod.snd, data.tree.IsLeaf (fieldPath "device" field) := by
  have fresh : ∀ field ∈ deviceMapping.map Prod.snd,
      venusRuntime.createData.tree.IsLeaf (fieldPath "device" field) := by decide
  exact fun field mapped => (isLeaf_of_inShape inShape _).mpr (fresh field mapped)

theorem deviceInformation_decodesPairs (inShape : InShape venusRuntime data) (payload : Bytes) :
    DecodesPairs '=' deviceMapping "device" [] (decodeAsciiIgnore payload) data.tree
      (parseDeviceInformation payload data.tree) := by
  rw [parseDeviceInformation_eq, reportOnce_pairWrites]
  exact ⟨_, rfl, reportsGiven_firsts _, lastWins_pairWrites (device_leaves inShape) _⟩

def networkInfo : DataPath := fieldPath "network" "network_info"

private theorem network_leaves (inShape : InShape venusRuntime data) (value : Value) :
    ∀ field ∈ networkMapping.map Prod.snd,
      (data.tree.assign networkInfo value).IsLeaf (fieldPath "network" field) := by
  have fresh : venusRuntime.createData.tree.IsLeaf networkInfo ∧
      ∀ field ∈ networkMapping.map Prod.snd,
        venusRuntime.createData.tree.IsLeaf (fieldPath "network" field) := by decide
  have info := (isLeaf_of_inShape inShape networkInfo).mpr fresh.1
  intro field mapped
  exact (Node.isLeaf_assign info value _).mpr
    ((isLeaf_of_inShape inShape _).mpr (fresh.2 field mapped))

/-- The decoder trims the text before it splits it: that changes no segment's pair. -/
theorem networkInformation_decodesPairs (inShape : InShape venusRuntime data)
    (payload : Bytes) :
    DecodesPairs ':' networkMapping "network" [networkInfo] (decodeAsciiIgnore payload)
      (data.tree.assign networkInfo (.str (strip (decodeAsciiIgnore payload))))
      (parseNetworkInformation payload data.tree) := by
  have trimmed : pairWrites ':' networkMapping "network"
      (split ',' (strip (decodeAsciiIgnore payload))) =
        pairWrites ':' networkMapping "network" (split ',' (decodeAsciiIgnore payload)) := by
    rw [pairWrites_eq, pairWrites_eq, fieldWrites_strip (by decide)]
  have apart : networkInfo ∉ (pairWrites ':' networkMapping "network"
      (split ',' (decodeAsciiIgnore payload))).map Prod.fst := by
    intro listed
    obtain ⟨u, written, same⟩ := List.mem_map.mp listed
    obtain ⟨name, mapped, path, _⟩ := pairWrites_path written
    have unmapped : "network_info" ∉ networkMapping.map Prod.snd := by decide
    have names : name = "network_info" := fieldPath_injective "network" (path.symm.trans same)
    exact unmapped (names ▸ mapped)
  have reported : reportOnce [networkInfo] (pairWrites ':' networkMapping "network"
      (split ',' (decodeAsciiIgnore payload))) = [networkInfo] ++
        (firstsFrom [] ((fieldWrites ':' networkMapping (decodeAsciiIgnore payload)).map
          Prod.fst)).map (fieldPath "network") := by
    rw [reportOnce_eq, firstsFrom_cons apart, ← reportOnce_eq, reportOnce_pairWrites]
    rfl
  refine ⟨_, ?_, reportsGiven_firsts _, ?_⟩
  · rw [parseNetworkInformation_eq, trimmed, ← reported]
    rfl
  · rw [parseNetworkInformation_eq, trimmed]
    exact lastWins_pairWrites (network_leaves inShape _) _

end Venus

namespace Jupiter

variable {data : TrackedProductData} {text : Text}

/-- Every key has its own field. -/
def OneToOne (mapping : List (String × String)) : Prop :=
  ∀ e ∈ mapping, mapping.lookup e.1 = some e.2 ∧ ∀ other ∈ mapping, e.2 = other.2 → e.1 = other.1

instance (mapping : List (String × String)) : Decidable (OneToOne mapping) :=
  inferInstanceAs (Decidable (∀ e ∈ mapping, _ ∧ ∀ other ∈ mapping, e.2 = other.2 → e.1 = other.1))

/-- A loop that puts what it makes of each item in front. -/
private theorem foldl_cons_eq {A B : Type} {step : List B → A → List B} {f : A → Option B}
    (steps : ∀ values item, step values item = (f item).elim values (· :: values))
    (items : List A) : ∀ values,
      items.foldl step values = (items.filterMap f).reverse ++ values := by
  induction items with
  | nil => exact fun _ => rfl
  | cons item items ih =>
    intro values
    rw [List.foldl_cons, ih, steps]
    cases made : f item with
    | none => simp [made]
    | some value => simp [made]

/-- The dictionary holds the trimmed pairs of the text, the latest first. -/
theorem deviceValues_eq (text : Text) : deviceValues text = (pairsOf '=' text).reverse := by
  refine (foldl_cons_eq (fun values item => ?_) (split ',' text) []).trans (List.append_nil _)
  cases splitOnce '=' item with
  | none => rfl
  | some pair => rfl

/-- What the dictionary holds for a field's key is what the text gives the field last. -/
theorem lookup_deviceValues {mapping : List (String × String)} (oneToOne : OneToOne mapping)
    {item : String × String} (listed : item ∈ mapping) (text : Text) :
    (deviceValues text).lookup item.1.toList = latest item.2 (fieldWrites '=' mapping text) := by
  rw [deviceValues_eq, fieldWrites_eq]
  induction pairsOf '=' text with
  | nil => rfl
  | cons pair pairs ih =>
    obtain ⟨key, value⟩ := pair
    rw [List.reverse_cons, List.lookup_append, ih]
    by_cases here : key = item.1.toList
    · have known : mapping.lookup (String.ofList key) = some item.2 := by
        rw [here, String.ofList_toList]
        exact (oneToOne item listed).1
      have same : (item.1.toList == key) = true := by simp [here]
      rw [List.filterMap_cons_some (by rw [known, Option.map_some]), latest, if_pos rfl,
        List.lookup_cons, same]
    · have differs : (item.1.toList == key) = false := by simpa using Ne.symm here
      cases known : mapping.lookup (String.ofList key) with
      | none => simp [known, List.lookup_cons, differs]
      | some name =>
        have apart : name ≠ item.2 := by
          rintro rfl
          have same := (oneToOne item listed).2 _ (mem_of_lookup known) rfl
          exact here (by rw [same, String.toList_ofList])
        simp [known, latest, List.lookup_cons, differs, apart]

theorem identityFields_oneToOne : OneToOne identityFields := by decide

theorem versionFields_oneToOne : OneToOne versionFields := by decide

private theorem mapped_of_lastGives {mapping : List (String × String)} {field : String}
    {value : Text} (gives : LastGives '=' mapping text field value) :
    ∃ item ∈ mapping, item.2 = field := by
  obtain ⟨_, _, _, _, ⟨_, _, _, _, known, _⟩, _⟩ := gives
  exact ⟨_, mem_of_lookup known, rfl⟩

theorem mem_deviceWrites {u : DataPath × Value} : u ∈ deviceWrites text ↔
    (∃ field value, LastGives '=' identityFields text field value ∧
      u = (fieldPath "identity" field, .str value)) ∨
    ∃ field value parsed, LastGives '=' versionFields text field value ∧
      intOf value = some parsed ∧ u = (fieldPath "runtime" field, .int parsed) := by
  rw [deviceWrites, List.mem_append, List.mem_filterMap, List.mem_filterMap]
  refine or_congr ⟨?_, ?_⟩ ⟨?_, ?_⟩
  · rintro ⟨item, listed, written⟩
    obtain ⟨value, held, rfl⟩ := Option.map_eq_some_iff.mp written
    rw [lookup_deviceValues identityFields_oneToOne listed] at held
    exact ⟨item.2, value, lastGives_iff.mpr held, rfl⟩
  · rintro ⟨field, value, gives, rfl⟩
    obtain ⟨item, listed, rfl⟩ := mapped_of_lastGives gives
    have held := lookup_deviceValues identityFields_oneToOne listed text
    rw [lastGives_iff.mp gives] at held
    exact ⟨item, listed, by rw [identityWrite, held]; rfl⟩
  · rintro ⟨item, listed, written⟩
    obtain ⟨parsed, held, rfl⟩ := Option.map_eq_some_iff.mp written
    obtain ⟨value, found, reads⟩ := Option.bind_eq_some_iff.mp held
    rw [lookup_deviceValues versionFields_oneToOne listed] at found
    exact ⟨item.2, value, parsed, lastGives_iff.mpr found, reads, rfl⟩
  · rintro ⟨field, value, parsed, gives, reads, rfl⟩
    obtain ⟨item, listed, rfl⟩ := mapped_of_lastGives gives
    have held := lookup_deviceValues versionFields_oneToOne listed text
    rw [lastGives_iff.mp gives] at held
    exact ⟨item, listed, by rw [versionWrite, held, Option.bind_some, reads]; rfl⟩

private theorem keys_sublist {A : Type} {f : A → Option (DataPath × Value)} {place : A → DataPath}
    (placed : ∀ item u, f item = some u → u.1 = place item) (items : List A) :
    ((items.filterMap f).map Prod.fst).Sublist (items.map place) := by
  induction items with
  | nil => exact .slnil
  | cons item items ih =>
    cases written : f item with
    | none => simpa [written] using ih.cons (place item)
    | some u => simpa [written, placed item u written] using ih.cons_cons (place item)

/-- No path is written twice. -/
theorem nodup_deviceWrites (text : Text) : ((deviceWrites text).map Prod.fst).Nodup := by
  have apart : (identityFields.map (fun item => fieldPath "identity" item.2) ++
      versionFields.map fun item => fieldPath "runtime" item.2).Nodup := by decide
  refine List.Nodup.sublist ?_ apart
  rw [deviceWrites, List.map_append]
  refine (keys_sublist ?_ identityFields).append (keys_sublist ?_ versionFields)
  · intro item u written
    obtain ⟨_, _, rfl⟩ := Option.map_eq_some_iff.mp written
    rfl
  · intro item u written
    obtain ⟨_, _, rfl⟩ := Option.map_eq_some_iff.mp written
    rfl

/-- The data and the reported paths after an ASCII device information. -/
structure DecodesDevice (text : Text) (before after : DataTree) (reported : List DataPath) :
    Prop where
  identity : ∀ field value, LastGives '=' identityFields text field value →
    after.valueAt (fieldPath "identity" field) = some (.str value)
  version : ∀ field value parsed, LastGives '=' versionFields text field value →
    intOf value = some parsed → after.valueAt (fieldPath "runtime" field) = some (.int parsed)
  changed : ∀ p, p ∈ reported ↔
    (∃ field value, LastGives '=' identityFields text field value ∧
      p = fieldPath "identity" field) ∨
    ∃ field value parsed, LastGives '=' versionFields text field value ∧
      intOf value = some parsed ∧ p = fieldPath "runtime" field
  once : reported.Nodup
  others : ∀ p, p ∉ reported → after.valueAt p = before.valueAt p

theorem decodesDevice_deviceWrites (inShape : InShape jupiterRuntime data) (text : Text) :
    DecodesDevice text data.tree (data.tree.assignAll (deviceWrites text))
      ((deviceWrites text).map Prod.fst) := by
  have fresh : ∀ item ∈ identityFields,
      jupiterRuntime.createData.tree.IsLeaf (fieldPath "identity" item.2) := by decide
  have fresh' : ∀ item ∈ versionFields,
      jupiterRuntime.createData.tree.IsLeaf (fieldPath "runtime" item.2) := by decide
  have leaves : ∀ u ∈ deviceWrites text, data.tree.IsLeaf u.1 := by
    intro u written
    refine (isLeaf_of_inShape inShape u.1).mpr ?_
    rcases mem_deviceWrites.mp written with ⟨_, _, gives, rfl⟩ | ⟨_, _, _, gives, _, rfl⟩
    · obtain ⟨item, listed, rfl⟩ := mapped_of_lastGives gives
      exact fresh item listed
    · obtain ⟨item, listed, rfl⟩ := mapped_of_lastGives gives
      exact fresh' item listed
  have written : ∀ u ∈ deviceWrites text,
      (data.tree.assignAll (deviceWrites text)).valueAt u.1 = some u.2 := by
    intro u member
    rw [Node.valueAt_assignAll leaves, latest_of_nodup (nodup_deviceWrites text) member,
      Option.some_or]
  refine ⟨fun field value gives => ?_, fun field value parsed gives reads => ?_, fun p => ?_,
    nodup_deviceWrites text, fun p unreported => ?_⟩
  · exact written _ (mem_deviceWrites.mpr (.inl ⟨field, value, gives, rfl⟩))
  · exact written _ (mem_deviceWrites.mpr (.inr ⟨field, value, parsed, gives, reads, rfl⟩))
  · rw [List.mem_map]
    constructor
    · rintro ⟨u, member, rfl⟩
      rcases mem_deviceWrites.mp member with ⟨field, value, gives, rfl⟩ |
        ⟨field, value, parsed, gives, reads, rfl⟩
      · exact .inl ⟨field, value, gives, rfl⟩
      · exact .inr ⟨field, value, parsed, gives, reads, rfl⟩
    · rintro (⟨field, value, gives, rfl⟩ | ⟨field, value, parsed, gives, reads, rfl⟩)
      · exact ⟨_, mem_deviceWrites.mpr (.inl ⟨field, value, gives, rfl⟩), rfl⟩
      · exact ⟨_, mem_deviceWrites.mpr (.inr ⟨field, value, parsed, gives, reads, rfl⟩), rfl⟩
  · have unwritten : latest p (deviceWrites text) = none := by
      rw [latest_eq_none_iff]
      exact fun u member same => unreported (List.mem_map.mpr ⟨u, member, same⟩)
    rw [Node.valueAt_assignAll leaves, unwritten, Option.none_or]

theorem DecodesDevice.leavesLastPairs {pairs : List (TextPair '=')} {before after : DataTree}
    {reported : List DataPath}
    (decodes : DecodesDevice (encodePairs pairs) before after reported) :
    LeavesLastPairs identityFields "identity" (fun value => some (.str value)) pairs before after ∧
    LeavesLastPairs versionFields "runtime" (fun value => (intOf value).map .int) pairs
      before after := by
  have written : ∀ mapping field, latest field (fieldWrites '=' mapping (encodePairs pairs)) =
      (lastPair mapping pairs field).map TextPair.value :=
    fun _ => latest_encodePairs (by decide) pairs
  have sections : ∀ a b, fieldPath "identity" a ≠ fieldPath "runtime" b := by simp [fieldPath]
  constructor
  · intro field _
    cases last : lastPair identityFields pairs field with
    | some pair =>
      have gives := (written identityFields field).trans (congrArg _ last)
      exact decodes.identity field pair.value (lastGives_iff.mpr gives)
    | none =>
      have nothing := (written identityFields field).trans (congrArg _ last)
      refine decodes.others _ fun reported => ?_
      rcases (decodes.changed _).mp reported with ⟨name, value, gives, same⟩ |
        ⟨name, _, _, _, _, same⟩
      · obtain rfl := fieldPath_injective _ same
        rw [lastGives_iff.mp gives] at nothing
        cases nothing
      · exact sections field name same
  · intro field _
    cases last : lastPair versionFields pairs field with
    | some pair =>
      have gives := (written versionFields field).trans (congrArg _ last)
      cases reads : intOf pair.value with
      | some parsed =>
        simp only [Option.bind_some, reads, Option.map_some, Option.some_or]
        exact decodes.version field pair.value parsed (lastGives_iff.mpr gives) reads
      | none =>
        simp only [Option.bind_some, reads, Option.map_none, Option.none_or]
        refine decodes.others _ fun reported => ?_
        rcases (decodes.changed _).mp reported with ⟨name, _, _, same⟩ |
          ⟨name, value, parsed, given, parses, same⟩
        · exact sections name field same.symm
        · obtain rfl := fieldPath_injective _ same
          rw [lastGives_iff.mp given, Option.map_some, Option.some.injEq] at gives
          rw [gives, reads] at parses
          cases parses
    | none =>
      have nothing := (written versionFields field).trans (congrArg _ last)
      refine decodes.others _ fun reported => ?_
      rcases (decodes.changed _).mp reported with ⟨name, _, _, same⟩ |
        ⟨name, value, _, given, _, same⟩
      · exact sections name field same.symm
      · obtain rfl := fieldPath_injective _ same
        rw [lastGives_iff.mp given] at nothing
        cases nothing

end Jupiter

/-- The text replies of both products: what the last segments give is set, what is
reported is what is given, and written pairs are read back. -/
theorem text_replies {venus jupiter : TrackedProductData}
    (venusShape : InShape Venus.venusRuntime venus)
    (jupiterShape : InShape Jupiter.jupiterRuntime jupiter) :
    (∀ payload, DecodesPairs '=' Venus.deviceMapping "device" [] (decodeAsciiIgnore payload)
      venus.tree (Venus.parseDeviceInformation payload venus.tree)) ∧
    (∀ payload, DecodesPairs ':' Venus.networkMapping "network" [Venus.networkInfo]
      (decodeAsciiIgnore payload)
      (venus.tree.assign Venus.networkInfo (.str (strip (decodeAsciiIgnore payload))))
      (Venus.parseNetworkInformation payload venus.tree)) ∧
    (∀ payload, decodeAscii payload = none →
      Jupiter.parseDeviceInformation payload jupiter.tree = (.ok (some []), jupiter.tree)) ∧
    (∀ payload text, decodeAscii payload = some text → ∃ reported after,
      Jupiter.parseDeviceInformation payload jupiter.tree = (.ok (some reported), after) ∧
      Jupiter.DecodesDevice text jupiter.tree after reported) ∧
    (∀ pairs : List (TextPair '='), LeavesLastPairs Venus.deviceMapping "device"
      (fun value => some (.str value)) pairs venus.tree
      (Venus.parseDeviceInformation (encodeAscii (encodePairs pairs)) venus.tree).2) ∧
    (∀ pairs : List (TextPair ':'), LeavesLastPairs Venus.networkMapping "network"
      (fun value => some (.str value)) pairs venus.tree
      (Venus.parseNetworkInformation (encodeAscii (encodePairs pairs)) venus.tree).2) ∧
    ∀ pairs : List (TextPair '='),
      let after :=
        (Jupiter.parseDeviceInformation (encodeAscii (encodePairs pairs)) jupiter.tree).2
      LeavesLastPairs Jupiter.identityFields "identity" (fun value => some (.str value)) pairs
        jupiter.tree after ∧
      LeavesLastPairs Jupiter.versionFields "runtime" (fun value => (intOf value).map .int) pairs
        jupiter.tree after := by
  have device := Venus.deviceInformation_decodesPairs venusShape
  have network := Venus.networkInformation_decodesPairs venusShape
  have ascii : ∀ pairs : List (TextPair '='), ∀ c ∈ encodePairs pairs, c.toNat < 128 :=
    ascii_encodePairs (by decide)
  have ascii' : ∀ pairs : List (TextPair ':'), ∀ c ∈ encodePairs pairs, c.toNat < 128 :=
    ascii_encodePairs (by decide)
  refine ⟨device, network, ?_, ?_, ?_, ?_, ?_⟩
  · intro payload foreign
    simp only [Jupiter.parseDeviceInformation, foreign]
  · intro payload text decoded
    exact ⟨_, _, Jupiter.parseDeviceInformation_eq decoded jupiter.tree,
      Jupiter.decodesDevice_deviceWrites jupiterShape text⟩
  · intro pairs
    obtain ⟨_, _, _, wins⟩ := device (encodeAscii (encodePairs pairs))
    rw [decodeAsciiIgnore_encodeAscii (ascii pairs)] at wins
    exact wins.leavesLastPairs (by decide)
  · intro pairs field mapped
    obtain ⟨_, _, _, wins⟩ := network (encodeAscii (encodePairs pairs))
    rw [decodeAsciiIgnore_encodeAscii (ascii' pairs)] at wins
    have info : venus.tree.IsLeaf Venus.networkInfo :=
      (isLeaf_of_inShape venusShape _).mpr (by decide)
    have apart : Venus.networkInfo ≠ fieldPath "network" field := by
      have unmapped : "network_info" ∉ Venus.networkMapping.map Prod.snd := by decide
      exact fun same => unmapped (fieldPath_injective _ same ▸ mapped)
    have kept := Node.valueAt_assign info (.str (strip (encodePairs pairs)))
      (fieldPath "network" field)
    rw [if_neg apart] at kept
    rw [← kept]
    exact wins.leavesLastPairs (by decide) field mapped
  · intro pairs
    have decoded := decodeAscii_encodeAscii (ascii pairs)
    rw [Jupiter.parseDeviceInformation_eq decoded]
    exact (Jupiter.decodesDevice_deviceWrites jupiterShape _).leavesLastPairs

/-! ### A second reply -/

/-- A device information that names its type twice, with blanks around the second name
and a segment that is no pair. -/
def deviceText : Text := "type=HMG-50,ems_v=1_54,none, type = HMG-25 ,id=a=b".toList

def networkText : Text := "ip:192.168.20.82,gate:192.168.20.1,gateway:10.0.0.1 ".toList

private theorem ascii_of_all {text : Text} (ascii : text.all (fun c => c.toNat < 128) = true) :
    ∀ c ∈ text, c.toNat < 128 :=
  fun c inside => of_decide_eq_true (List.all_eq_true.mp ascii c inside)

/-- Two versions of one firmware, of which the second is no number. -/
def versionPairs : List (TextPair '=') :=
  [⟨"ems_v".toList, "154".toList, by decide, by decide, ascii_of_all (by decide),
      ascii_of_all (by decide), by decide, by decide⟩,
    ⟨"ems_v".toList, "new".toList, by decide, by decide, ascii_of_all (by decide),
      ascii_of_all (by decide), by decide, by decide⟩]

def gatewayPairs : List (TextPair ':') :=
  [⟨"gate".toList, "10.0.0.1".toList, by decide, by decide, ascii_of_all (by decide),
    ascii_of_all (by decide), by decide, by decide⟩]

/-- Both products have had a device information when the replies arrive. -/
theorem text_replies_second_reply :
    let first := frameOf 0x04 (encodeAscii "type=HMG-1,ems_v=9".toList)
    let venus := Venus.venusRuntime.receive Venus.venusRuntime.createData ⟨first, 0⟩
    let jupiter := Jupiter.jupiterRuntime.receive Jupiter.jupiterRuntime.createData ⟨first, 0⟩
    let device := encodeAscii deviceText
    let network := encodeAscii networkText
    (DecodesPairs '=' Venus.deviceMapping "device" [] (decodeAsciiIgnore device)
      venus.tree (Venus.parseDeviceInformation device venus.tree) ∧
      (Venus.parseDeviceInformation device venus.tree).2.valueAt
        (fieldPath "device" "device_type") = some (.str "HMG-25".toList)) ∧
    DecodesPairs ':' Venus.networkMapping "network" [Venus.networkInfo]
      (decodeAsciiIgnore network)
      (venus.tree.assign Venus.networkInfo (.str (strip (decodeAsciiIgnore network))))
      (Venus.parseNetworkInformation network venus.tree) ∧
    Jupiter.parseDeviceInformation (0xC3 :: device) jupiter.tree = (.ok (some []), jupiter.tree) ∧
    (∃ reported after,
      Jupiter.parseDeviceInformation device jupiter.tree = (.ok (some reported), after) ∧
      Jupiter.DecodesDevice deviceText jupiter.tree after reported ∧
      after.valueAt (fieldPath "runtime" "ems_firmware_version") = some (.int 154)) ∧
    LeavesLastPairs Venus.deviceMapping "device" (fun value => some (.str value)) versionPairs
      venus.tree (Venus.parseDeviceInformation (encodeAscii (encodePairs versionPairs))
        venus.tree).2 ∧
    LeavesLastPairs Venus.networkMapping "network" (fun value => some (.str value)) gatewayPairs
      venus.tree (Venus.parseNetworkInformation (encodeAscii (encodePairs gatewayPairs))
        venus.tree).2 ∧
    let after := (Jupiter.parseDeviceInformation (encodeAscii (encodePairs versionPairs))
      jupiter.tree).2
    LeavesLastPairs Jupiter.identityFields "identity" (fun value => some (.str value))
      versionPairs jupiter.tree after ∧
    LeavesLastPairs Jupiter.versionFields "runtime" (fun value => (intOf value).map .int)
      versionPairs jupiter.tree after := by
  intro first venus jupiter device network
  have venusShape : InShape Venus.venusRuntime venus :=
    inShape_receive Venus.venusRuntime_lawful (inShape_createData _) ⟨first, 0⟩
  have jupiterShape : InShape Jupiter.jupiterRuntime jupiter :=
    inShape_receive Jupiter.jupiterRuntime_lawful (inShape_createData _) ⟨first, 0⟩
  obtain ⟨pairs, networkPairs, foreign, ascii, written, writtenNetwork, writtenJupiter⟩ :=
    text_replies venusShape jupiterShape
  have plain : decodeAscii device = some deviceText := by decide
  obtain ⟨reported, after, parsed, decoded⟩ := ascii device deviceText plain
  refine ⟨⟨pairs device, ?_⟩, networkPairs network, foreign _ (by decide),
    ⟨reported, after, parsed, decoded, ?_⟩, written versionPairs, writtenNetwork gatewayPairs,
    writtenJupiter versionPairs⟩
  · obtain ⟨_, _, _, wins⟩ := pairs device
    exact wins.last _ _ (lastGives_iff.mpr (by decide))
  · exact decoded.version _ "1_54".toList 154 (lastGives_iff.mpr (by decide)) (by decide)

end MarstekBle.Product
