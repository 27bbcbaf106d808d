/- module: Schema/Totality
   source: custom_components/marstek_ble/schema.py
   digest: Sources whose converter accepts what their format unpacks never fail to decode. -/

import MarstekBle.Schema.Leaves

set_option autoImplicit false
set_option relaxedAutoImplicit false

namespace MarstekBle.Schema

open MarstekBle.Data MarstekBle.Lib.AttributeTree

universe u

variable {V : Type u}

/-- The converter accepts every value the format unpacks. -/
def FieldSource.Total (source : FieldSource) : Prop :=
  ∀ data : Bytes, data.length = source.size →
    ∃ v, source.converter (single (source.format.unpack data)) = .ok v

/-- The converter accepts every integer. -/
def AcceptsIntegers (converter : Converter) : Prop := ∀ n, ∃ v, converter (.int n) = .ok v

@[simp] theorem acceptsIntegers_identity : AcceptsIntegers identity := fun n => ⟨.int n, rfl⟩
@[simp] theorem acceptsIntegers_toFloat : AcceptsIntegers toFloat := fun n => ⟨_, toFloat_int n⟩
@[simp] theorem acceptsIntegers_nonzero : AcceptsIntegers nonzero := fun n => ⟨_, nonzero_int n⟩
@[simp] theorem acceptsIntegers_bit (k : Nat) : AcceptsIntegers (bit k) := fun n => ⟨_, bit_int k n⟩

@[simp] theorem acceptsIntegers_multiplyBy (m : Int) : AcceptsIntegers (multiplyBy m) :=
  fun n => ⟨_, multiplyBy_int m n⟩

@[simp] theorem acceptsIntegers_divideBy (d : ℚ) : AcceptsIntegers (divideBy d) :=
  fun n => ⟨_, divideBy_int d n⟩

@[simp] theorem total_fieldSource_little (offset : Nat) (code : IntegerCode)
    {converter : Converter} (accepts : AcceptsIntegers converter) (minimumLength : Option Nat) :
    (fieldSource offset (little code) converter minimumLength).Total :=
  fun _ _ => accepts _

theorem total_fieldSource_integers (offset : Nat) {codes : List IntegerCode}
    (many : codes.length ≠ 1) {converter : Converter} (minimumLength : Option Nat)
    (accepts : ∀ ns : List Int, ns.length = codes.length →
      ∃ v, converter (.tuple (ns.map .int)) = .ok v) :
    (fieldSource offset (integers .little codes) converter minimumLength).Total := by
  intro data _
  have unpacked : single ((integers .little codes).unpack data) =
      .tuple ((integerValues .little codes data).map .int) :=
    single_of_length_ne_one (by simpa [integers] using many)
  obtain ⟨v, hv⟩ := accepts (integerValues .little codes data) (by simp)
  exact ⟨v, (congrArg converter unpacked).trans hv⟩

@[simp] theorem total_fieldSource_divideEachBy (offset : Nat) {codes : List IntegerCode}
    (many : codes.length ≠ 1) (d : ℚ) (minimumLength : Option Nat) :
    (fieldSource offset (integers .little codes) (divideEachBy d) minimumLength).Total :=
  total_fieldSource_integers offset many minimumLength fun ns _ => ⟨_, divideEachBy_tuple d ns⟩

mutual

/-- A predicate holds of every source a tree's fields declare. -/
def everySource (p : FieldSource → Prop) : Node FieldDef V → Prop
  | .value _ => True
  | .items members => everySourceItem p members
  | .record fields => everySourceField p fields
termination_by structural result => result

def everySourceField (p : FieldSource → Prop) : List (FieldDef × Node FieldDef V) → Prop
  | [] => True
  | (field, current) :: rest =>
    (∀ e ∈ field.sources.getD [], p e.2) ∧ everySource p current ∧ everySourceField p rest
termination_by structural fields => fields

def everySourceItem (p : FieldSource → Prop) : List (Node FieldDef V) → Prop
  | [] => True
  | item :: rest => everySource p item ∧ everySourceItem p rest
termination_by structural items => items

end

private theorem everySourceItem_replicate {p : FieldSource → Prop} {item : Node FieldDef V}
    {n : Nat} (some_item : 0 < n) :
    everySourceItem p (List.replicate n item) ↔ everySource p item := by
  induction n with
  | zero => exact absurd some_item (Nat.lt_irrefl 0)
  | succ n ih =>
    rw [List.replicate_succ, everySourceItem]
    cases n with
    | zero => exact and_iff_left trivial
    | succ m => rw [ih (Nat.succ_pos m), and_self]

section Fields

variable (p : FieldSource → Prop) (name : String) (rest : DataClass)

@[simp] theorem everySourceField_nil :
    everySourceField p ([] : List (FieldDef × Node FieldDef V)) ↔ True := Iff.rfl

@[simp] theorem everySourceField_sourceField (sources : List (PacketSchema × FieldSource))
    (entities : List FieldEntitySpec) (indexed : List IndexedEntitySpec) (default : Value) :
    everySourceField p (sourceField name sources entities indexed default :: rest) ↔
      (∀ e ∈ sources, p e.2) ∧ everySourceField p rest := by
  simp [sourceField, everySourceField, everySource]

@[simp] theorem everySourceField_valueField (entities : List FieldEntitySpec)
    (default : Value) :
    everySourceField p (valueField name entities default :: rest) ↔ everySourceField p rest := by
  simp [valueField, everySourceField, everySource]

@[simp] theorem everySourceField_plainField (default : Value) :
    everySourceField p (plainField name default :: rest) ↔ everySourceField p rest := by
  simp [plainField, everySourceField, everySource]

@[simp] theorem everySourceField_sectionField (sectionType : DataClass)
    (sources : Option (List (PacketSchema × SectionSource))) :
    everySourceField p (sectionField name sectionType sources :: rest) ↔
      everySourceField p sectionType ∧ everySourceField p rest := by
  simp [sectionField, everySourceField, everySource]

@[simp] theorem everySourceField_repeatedSectionField (itemType : DataClass)
    (spec : RepeatedSectionSpec) :
    everySourceField p (repeatedSectionField name itemType spec :: rest) ↔
      everySourceField p itemType ∧ everySourceField p rest := by
  simp [repeatedSectionField, everySourceField, everySource,
    everySourceItem_replicate spec.inhabited]

end Fields

private theorem mem_of_sourceFor {α : Type} {packet : PacketSchema} {source : α} :
    ∀ {sources : List (PacketSchema × α)}, sourceFor packet sources = some source →
      ∃ e ∈ sources, e.2 = source
  | [], h => by simp [sourceFor] at h
  | (key, s) :: rest, h => by
    by_cases hk : key = packet
    · exact ⟨(key, s), List.mem_cons_self, by simpa [sourceFor, hk] using h⟩
    · have later : sourceFor packet rest = some source := by simpa [sourceFor, hk] using h
      obtain ⟨e, he, hs⟩ := mem_of_sourceFor later
      exact ⟨e, List.mem_cons_of_mem _ he, hs⟩

private theorem mem_of_fieldRole {packet : PacketSchema} {field : FieldDef} {isRecord : Bool}
    {source : FieldSource} (role : fieldRole packet field isRecord = .sourced source) :
    ∃ e ∈ field.sources.getD [], e.2 = source := by
  cases hs : field.sources with
  | some sources =>
    cases hl : sourceFor packet sources with
    | none => simp [fieldRole, hs, hl] at role
    | some s =>
      obtain rfl : s = source := by simpa [fieldRole, hs, hl] using role
      simpa using mem_of_sourceFor hl
  | none =>
    unfold fieldRole at role
    rw [hs] at role
    dsimp only at role
    split at role
    · split at role <;> cases role
    · split at role
      · split at role
        · cases role
        · split at role <;> cases role
      · cases role

private theorem leafObject_source {p : FieldSource → Prop} (packet : PacketSchema)
    (t : Node FieldDef V) : everySource p t →
      (∀ baseOffset path, ∀ leaf ∈ leafObject packet baseOffset path t, p leaf.source) ∧
      ∀ items, t = .items items → ∀ source baseOffset path index,
        ∀ leaf ∈ leafItems packet source baseOffset path index items, p leaf.source := by
  refine Node.induct
    (P := fun t => everySource p t →
      (∀ baseOffset path, ∀ leaf ∈ leafObject packet baseOffset path t, p leaf.source) ∧
      ∀ items, t = .items items → ∀ source baseOffset path index,
        ∀ leaf ∈ leafItems packet source baseOffset path index items, p leaf.source)
    (Q := fun fs => everySourceField p fs → ∀ baseOffset path,
      ∀ leaf ∈ leafFields packet baseOffset path fs, p leaf.source)
    (R := fun ts => everySourceItem p ts → ∀ source baseOffset path index,
      ∀ leaf ∈ leafItems packet source baseOffset path index ts, p leaf.source)
    ?value ?items ?record ?noFields ?field ?noItems ?item t
  case value =>
    exact fun c _ => ⟨fun _ _ _ h => by simp [leafObject] at h, fun _ h => by simp at h⟩
  case items =>
    refine fun ts hts every => ⟨fun _ _ _ h => by simp [leafObject] at h, fun items h => ?_⟩
    cases h
    exact hts every
  case record => exact fun fs hfs every => ⟨hfs every, fun _ h => by simp at h⟩
  case noFields => exact fun _ _ _ _ h => by simp [leafFields] at h
  case field =>
    intro f t fs ht hfs every baseOffset path leaf hleaf
    obtain ⟨own, inside, later⟩ := every
    rw [leafFields, List.mem_append] at hleaf
    rcases hleaf with first | rest
    · cases role : fieldRole packet f t.isRecord with
      | skipped => simp [role] at first
      | sourced source =>
        simp only [role, List.mem_singleton] at first
        obtain ⟨e, he, rfl⟩ := mem_of_fieldRole role
        rw [first]
        exact own e he
      | repeated spec source =>
        cases t with
        | value c => simp [role] at first
        | record nested => simp [role] at first
        | items members =>
          simp only [role] at first
          exact (ht inside).2 members rfl _ _ _ _ leaf first
      | nested offset =>
        simp only [role] at first
        exact (ht inside).1 _ _ leaf first
    · exact hfs later baseOffset path leaf rest
  case noItems => exact fun _ _ _ _ _ _ h => by simp [leafItems] at h
  case item =>
    intro t ts ht hts every source baseOffset path index leaf hleaf
    rw [leafItems, List.mem_append] at hleaf
    rcases hleaf with first | rest
    · exact (ht every.1).1 _ _ leaf first
    · exact hts every.2 source baseOffset path (index + 1) leaf rest

theorem source_of_mem_leafSources {p : FieldSource → Prop} {packet : PacketSchema}
    {t : Node FieldDef V} (every : everySource p t) {leaf : LeafSource}
    (h : leaf ∈ leafSources packet t) : p leaf.source :=
  (leafObject_source packet t every).1 0 [] leaf h

/-- A source that applies lies within the payload. -/
theorem FieldSource.fits_of_appliesTo {source : FieldSource} {payload : Bytes}
    {baseOffset : Nat} (applies : source.appliesTo payload.length baseOffset = true) :
    baseOffset + source.offset + source.size ≤ payload.length := by
  unfold appliesTo at applies
  dsimp only at applies
  split at applies
  · cases applies
  · simp only [endOffset] at *
    omega

/-- The raw value the format unpacks at its place in the payload. -/
def FieldSource.rawAt (source : FieldSource) (payload : Bytes) (baseOffset : Nat) : Value :=
  single (source.format.unpack (slice payload (baseOffset + source.offset)
    (baseOffset + source.offset + source.size)))

/-- Where a source applies, the bounds check passes and the raw value is converted. -/
theorem FieldSource.parseFrom_of_appliesTo {source : FieldSource} {payload : Bytes}
    {baseOffset : Nat} (applies : source.appliesTo payload.length baseOffset = true) :
    source.parseFrom payload baseOffset =
      (source.converter (source.rawAt payload baseOffset)).map
        fun v => (source.rawAt payload baseOffset, v) := by
  have fits := source.fits_of_appliesTo applies
  have unpacked : baseOffset + source.offset + source.format.size ≤ payload.length := fits
  simp only [parseFrom, Nat.not_lt.mpr fits, if_false, Struct.unpackFrom, unpacked,
    if_true]
  rfl

/-- The value a leaf takes from the payload. -/
def LeafSource.decoded (payload : Bytes) (leaf : LeafSource) : Value :=
  match leaf.source.converter (leaf.source.rawAt payload leaf.baseOffset) with
  | .ok v => v
  | .error _ => .none

/-- The writes of a packet to a data object: one for each applying leaf, in order. -/
def schemaWrites (packet : PacketSchema) (payload : Bytes) (t : Node FieldDef V) :
    List (DataPath × Value) :=
  ((leafSources packet t).filter (LeafSource.applies · payload)).map fun leaf =>
    (leaf.path, leaf.decoded payload)

/-- The payload length a leaf without a maximum needs. -/
def LeafSource.required (leaf : LeafSource) : Nat :=
  max (leaf.baseOffset + leaf.source.endOffset) (leaf.source.minimumLength.getD 0)

/-- Between two lengths no leaf's requirement falls, the same leaves apply. -/
theorem filter_applies {payload : Bytes} {leaves : List LeafSource} {atLeast : Nat}
    (unbounded : ∀ leaf ∈ leaves, leaf.source.maximumLength = none)
    (long : atLeast ≤ payload.length)
    (steady : ∀ leaf ∈ leaves, leaf.required ≤ atLeast ∨ payload.length < leaf.required) :
    leaves.filter (LeafSource.applies · payload) =
      leaves.filter fun leaf => decide (leaf.required ≤ atLeast) := by
  refine List.filter_congr fun leaf hleaf => ?_
  have applies : leaf.applies payload = decide (leaf.required ≤ payload.length) := by
    rw [LeafSource.applies, FieldSource.appliesTo, unbounded leaf hleaf]
    by_cases reached : payload.length < leaf.required
    · have short : ¬ leaf.required ≤ payload.length := Nat.not_le.mpr reached
      rw [decide_eq_false short]
      exact if_pos reached
    · rw [decide_eq_true (Nat.le_of_not_lt reached)]
      exact if_neg reached
  rw [applies, decide_eq_decide]
  rcases steady leaf hleaf with low | high
  · exact iff_of_true (low.trans long) low
  · exact iff_of_false (by omega) (by omega)

/-- An applying source decodes as it decodes everything its format unpacks. -/
theorem LeafSource.decoded_spec {Q : Value → Prop} {leaf : LeafSource} {payload : Bytes}
    (decodes : ∀ data : Bytes, data.length = leaf.source.size →
      ∃ v, leaf.source.converter (single (leaf.source.format.unpack data)) = .ok v ∧ Q v)
    (applies : leaf.applies payload = true) :
    leaf.source.converter (leaf.source.rawAt payload leaf.baseOffset) =
      .ok (leaf.decoded payload) ∧ Q (leaf.decoded payload) := by
  have fits : leaf.baseOffset + leaf.source.offset + leaf.source.size ≤ payload.length :=
    FieldSource.fits_of_appliesTo applies
  obtain ⟨v, hv, holds⟩ := decodes (slice payload (leaf.baseOffset + leaf.source.offset)
    (leaf.baseOffset + leaf.source.offset + leaf.source.size)) (by
      rw [length_slice fits]
      omega)
  have converted : leaf.source.converter (leaf.source.rawAt payload leaf.baseOffset) = .ok v := hv
  have same : leaf.decoded payload = v := by
    rw [LeafSource.decoded, converted]
  exact same ▸ ⟨converted, holds⟩

theorem LeafSource.converter_eq_decoded {leaf : LeafSource} {payload : Bytes}
    (total : leaf.source.Total) (applies : leaf.applies payload = true) :
    leaf.source.converter (leaf.source.rawAt payload leaf.baseOffset) =
      .ok (leaf.decoded payload) :=
  (@decoded_spec (fun _ => True) leaf payload
    (fun data sized => (total data sized).imp fun _ converted => ⟨converted, trivial⟩) applies).1

private theorem LeafSource.parse_ok {leaf : LeafSource} {payload : Bytes}
    (total : leaf.source.Total) (applies : leaf.applies payload = true) :
    ∃ update, leaf.parse payload = .ok update ∧
      (update.path, update.value) = (leaf.path, leaf.decoded payload) := by
  rw [LeafSource.parse, FieldSource.parseFrom_of_appliesTo applies,
    LeafSource.converter_eq_decoded total applies]
  exact ⟨_, rfl, rfl⟩

/-- Total sources decode: one update for each applying leaf, in order. -/
theorem parseLeaves_ok (payload : Bytes) (leaves : List LeafSource)
    (total : ∀ leaf ∈ leaves, leaf.source.Total) :
    ∃ updates, parseLeaves payload leaves = .ok updates ∧
      updates.map (fun u => (u.path, u.value)) =
        (leaves.filter (LeafSource.applies · payload)).map fun leaf =>
          (leaf.path, leaf.decoded payload) := by
  induction leaves with
  | nil => exact ⟨[], rfl, rfl⟩
  | cons leaf leaves ih =>
    obtain ⟨updates, hok, hwrites⟩ := ih fun l hl => total l (List.mem_cons_of_mem leaf hl)
    have split := parseLeaves_append payload [leaf] leaves
    rw [List.singleton_append, hok] at split
    by_cases applies : leaf.applies payload = true
    · obtain ⟨update, hu, hp⟩ := leaf.parse_ok (total leaf List.mem_cons_self) applies
      refine ⟨update :: updates, ?_, by
        simp only [List.map_cons, hp, hwrites, applies, List.filter_cons_of_pos]⟩
      rw [split]
      simp only [parseLeaves, List.filter_cons, applies, if_true, List.filter_nil,
        List.mapM_cons, hu]
      rfl
    · refine ⟨updates, ?_, by simp [applies, hwrites]⟩
      rw [split]
      simp only [parseLeaves, List.filter_cons, applies, List.filter_nil]
      rfl

end MarstekBle.Schema
