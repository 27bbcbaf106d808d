/- module: Schema/Contract
   source: custom_components/marstek_ble/schema.py
   digest: What parsing a payload does to a data object, leaf by leaf. -/

import MarstekBle.Schema.Totality

/-!
The contract follows a leaf's path from the outermost record down: what the
sections and the repeated sections on the way add to the base offset, and the
leaf's own source for the packet.
-/

set_option autoImplicit false
set_option relaxedAutoImplicit false

namespace MarstekBle.Schema

open MarstekBle.Data MarstekBle.Lib.AttributeTree

universe u

variable {V : Type u}

def fieldNamed (fields : List (FieldDef × Node FieldDef V)) (name : String) :
    Option (FieldDef × Node FieldDef V) :=
  fields.find? (·.1.name = name)

/-- What a section adds to the base offset. A section that declares packets is
passed over for any other packet. -/
def sectionOffset (packet : PacketSchema) (field : FieldDef) : Option Nat :=
  match field.sectionSources with
  | none => some 0
  | some sources => (sourceFor packet sources).map SectionSource.offset

def repeatedSourceFor (packet : PacketSchema) (field : FieldDef) :
    Option RepeatedSectionSource :=
  field.repeatedSection.bind fun spec => sourceFor packet spec.sources

/-- The accumulated base offset and the source of the leaf at a path, if it lists the packet. -/
def locate (packet : PacketSchema) :
    DataPath → Node FieldDef V → Nat → Option (Nat × FieldSource)
  | .attr name :: rest, .record fields, baseOffset =>
    match fieldNamed fields name, rest with
    | some (field, .value _), [] =>
      (field.sources.bind (sourceFor packet)).map fun source => (baseOffset, source)
    | some (field, .record nested), below =>
      (sectionOffset packet field).bind fun offset =>
        locate packet below (.record nested) (baseOffset + offset)
    | some (field, .items members), .index i :: below =>
      (repeatedSourceFor packet field).bind fun source => members[i]?.bind fun item =>
        locate packet below item (baseOffset + source.offset + i * source.stride)
    | _, _ => none
  | _, _, _ => none
termination_by structural path => path

/-- The same below a list whose first member has the given position. -/
def locateItem (packet : PacketSchema) (source : RepeatedSectionSource) (baseOffset index : Nat)
    (members : List (Node FieldDef V)) : DataPath → Option (Nat × FieldSource)
  | .index i :: below => if index ≤ i then members[i - index]?.bind fun item =>
      locate packet below item (baseOffset + source.offset + i * source.stride) else none
  | _ => none

/-- The leaf source at a path below a prefix. -/
def leafAt (path : DataPath) (located : DataPath → Option (Nat × FieldSource))
    (p : DataPath) : Option LeafSource :=
  (located p).map fun found => ⟨path ++ p, found.1, found.2⟩

/-! ### The parser's leaves are the located ones -/

private theorem fieldNamed_self (field : FieldDef) (current : Node FieldDef V)
    (fs : List (FieldDef × Node FieldDef V)) :
    fieldNamed ((field, current) :: fs) field.name = some (field, current) := by
  simp [fieldNamed]

/-- Below a later field the first one is not looked at. -/
private theorem locate_later (packet : PacketSchema) {field : FieldDef}
    {current : Node FieldDef V} {fs : List (FieldDef × Node FieldDef V)}
    (apart : ∀ e ∈ fs, e.1.name ≠ field.name) (baseOffset : Nat) {p : DataPath}
    (later : p ∈ fieldLeaves fs) :
    locate packet p (.record ((field, current) :: fs)) baseOffset =
      locate packet p (.record fs) baseOffset := by
  obtain ⟨e, he, q, rfl⟩ := attr_of_mem_fieldLeaves later
  have other : field.name ≠ nameOf e.1 := (apart e he).symm
  have skipped : fieldNamed ((field, current) :: fs) (nameOf e.1) = fieldNamed fs (nameOf e.1) :=
    by simp [fieldNamed, other]
  unfold locate
  rw [skipped]

section Locate

variable {packet : PacketSchema} {field : FieldDef} {fs : List (FieldDef × Node FieldDef V)}
  {baseOffset : Nat}

private theorem locate_value (c : V) :
    locate packet [.attr field.name] (.record ((field, .value c) :: fs)) baseOffset =
      (field.sources.bind (sourceFor packet)).map fun source => (baseOffset, source) := by
  unfold locate
  rw [fieldNamed_self]

private theorem locate_record (nested : List (FieldDef × Node FieldDef V)) (p : DataPath) :
    locate packet (.attr field.name :: p) (.record ((field, .record nested) :: fs)) baseOffset =
      (sectionOffset packet field).bind fun offset =>
        locate packet p (.record nested) (baseOffset + offset) := by
  conv => lhs; unfold locate
  rw [fieldNamed_self]

private theorem locate_items (members : List (Node FieldDef V)) {p : DataPath}
    (h : p ∈ itemLeaves 0 members) :
    locate packet (.attr field.name :: p) (.record ((field, .items members) :: fs)) baseOffset =
      (repeatedSourceFor packet field).bind fun source =>
        locateItem packet source baseOffset 0 members p := by
  obtain ⟨i, q, _, rfl⟩ := index_of_mem_itemLeaves h
  conv => lhs; unfold locate
  rw [fieldNamed_self]
  rfl

end Locate

/-- Within one field, the parser's leaves are the located ones. -/
private structure Locates (packet : PacketSchema) (t : Node FieldDef V) : Prop where
  object : t.isRecord = true → ∀ baseOffset path, leafObject packet baseOffset path t =
    t.leaves.filterMap (leafAt path (locate packet · t baseOffset))
  members : ∀ items, t = .items items → items.all Node.isRecord = true →
    ∀ source baseOffset path index, leafItems packet source baseOffset path index items =
      (itemLeaves index items).filterMap
        (leafAt path (locateItem packet source baseOffset index items))

private theorem leafAt_cons (path : DataPath) (e : PathElement String)
    (located : DataPath → Option (Nat × FieldSource)) (p : DataPath) :
    leafAt path located (e :: p) = leafAt (path ++ [e]) (fun q => located (e :: q)) p := by
  simp [leafAt]

private theorem filterMap_leafAt_none (path : DataPath)
    {located : DataPath → Option (Nat × FieldSource)} {ps : List DataPath}
    (h : ∀ p ∈ ps, located p = none) : ps.filterMap (leafAt path located) = [] := by
  rw [List.filterMap_eq_nil_iff]
  intro p hp
  rw [leafAt, h p hp]
  rfl

private theorem leafField_eq {packet : PacketSchema} {field : FieldDef}
    {current : Node FieldDef V} (fs : List (FieldDef × Node FieldDef V))
    (baseOffset : Nat) (path : DataPath) :
    agrees field current = true → Locates packet current →
    (match fieldRole packet field current.isRecord with
      | .skipped => []
      | .sourced source => [⟨path ++ [.attr field.name], baseOffset, source⟩]
      | .repeated _ repeatedSource => match current with
        | .items members =>
          leafItems packet repeatedSource baseOffset (path ++ [.attr field.name]) 0 members
        | _ => []
      | .nested offset =>
        leafObject packet (baseOffset + offset) (path ++ [.attr field.name]) current) =
    current.leaves.filterMap (leafAt (path ++ [.attr field.name]) fun p =>
      locate packet (.attr field.name :: p) (.record ((field, current) :: fs)) baseOffset) := by
  intro agree here
  cases current with
  | value c =>
    simp only [Node.leaves, List.filterMap_cons, List.filterMap_nil, leafAt, locate_value,
      Node.isRecord]
    cases hs : field.sources with
    | some sources =>
      cases hl : sourceFor packet sources with
      | none => simp [fieldRole, hs, hl]
      | some source => simp [fieldRole, hs, hl]
    | none =>
      have plain : field.repeatedSection = none := by simpa [agrees, hs] using agree
      simp [fieldRole, hs, plain]
  | record nested =>
    simp only [agrees, Bool.and_eq_true, Option.isNone_iff_eq_none] at agree
    simp only [locate_record, Node.isRecord]
    cases hx : sectionOffset packet field with
    | none =>
      have skipped : fieldRole packet field true = .skipped := by
        unfold sectionOffset at hx
        cases hsec : field.sectionSources with
        | none => simp [hsec] at hx
        | some sources =>
          have unlisted : sourceFor packet sources = none := by simpa [hsec] using hx
          simp [fieldRole, agree.1, agree.2, hsec, unlisted]
      rw [skipped]
      exact (filterMap_leafAt_none _ fun _ _ => rfl).symm
    | some offset =>
      have entered : fieldRole packet field true = .nested offset := by
        unfold sectionOffset at hx
        cases hsec : field.sectionSources with
        | none =>
          obtain rfl : 0 = offset := by simpa [hsec] using hx
          simp [fieldRole, agree.1, agree.2, hsec]
        | some sources =>
          obtain ⟨source, listed, rfl⟩ : ∃ source, sourceFor packet sources = some source ∧
              source.offset = offset := by simpa [hsec] using hx
          simp [fieldRole, agree.1, agree.2, hsec, listed]
      rw [entered]
      exact here.object rfl _ _
  | items members =>
    simp only [agrees, Bool.and_eq_true, Option.isNone_iff_eq_none] at agree
    obtain ⟨⟨noSources, records⟩, counted⟩ := agree
    have inside : ∀ p ∈ itemLeaves 0 members, locate packet (.attr field.name :: p)
        (.record ((field, .items members) :: fs)) baseOffset =
          (repeatedSourceFor packet field).bind fun source =>
            locateItem packet source baseOffset 0 members p := fun p hp => locate_items members hp
    cases hr : field.repeatedSection with
    | none => simp [hr] at counted
    | some spec =>
      cases hl : sourceFor packet spec.sources with
      | none =>
        have unlisted : repeatedSourceFor packet field = none := by
          simp [repeatedSourceFor, hr, hl]
        have skipped : fieldRole packet field false = .skipped := by
          simp [fieldRole, noSources, hr, hl]
        simp only [Node.isRecord, skipped, Node.leaves]
        refine (filterMap_leafAt_none _ fun p hp => ?_).symm
        rw [inside p hp, unlisted]
        rfl
      | some source =>
        have listed : repeatedSourceFor packet field = some source := by
          simp [repeatedSourceFor, hr, hl]
        have entered : fieldRole packet field false = .repeated spec source := by
          simp [fieldRole, noSources, hr, hl]
        simp only [Node.isRecord, entered, Node.leaves]
        rw [here.members members rfl records source baseOffset _ 0]
        refine List.filterMap_congr fun p hp => ?_
        rw [leafAt, leafAt, inside p hp, listed]
        rfl

private theorem locateItem_first (packet : PacketSchema) (source : RepeatedSectionSource)
    (baseOffset index : Nat) (t : Node FieldDef V) (ts : List (Node FieldDef V)) (p : DataPath) :
    locateItem packet source baseOffset index (t :: ts) (.index index :: p) =
      locate packet p t (baseOffset + source.offset + index * source.stride) := by
  simp [locateItem]

private theorem locateItem_later (packet : PacketSchema) (source : RepeatedSectionSource)
    (baseOffset index : Nat) (t : Node FieldDef V) {ts : List (Node FieldDef V)} {p : DataPath}
    (later : p ∈ itemLeaves (index + 1) ts) :
    locateItem packet source baseOffset index (t :: ts) p =
      locateItem packet source baseOffset (index + 1) ts p := by
  obtain ⟨i, q, after, rfl⟩ := index_of_mem_itemLeaves later
  have position : i - index = i - (index + 1) + 1 := by omega
  have reached : index ≤ i := by omega
  simp only [locateItem, after, reached, if_true, position, List.getElem?_cons_succ]

private theorem locates (packet : PacketSchema) (t : Node FieldDef V) :
    wellFormed t = true → Locates packet t := by
  refine Node.induct (P := fun t => wellFormed t = true → Locates packet t)
    (Q := fun fs => wellFormedFields fs = true → ∀ baseOffset path,
      leafFields packet baseOffset path fs =
        (fieldLeaves fs).filterMap (leafAt path (locate packet · (.record fs) baseOffset)))
    (R := fun ts => wellFormedItems ts = true → ts.all Node.isRecord = true →
      ∀ source baseOffset path index, leafItems packet source baseOffset path index ts =
        (itemLeaves index ts).filterMap
          (leafAt path (locateItem packet source baseOffset index ts)))
    ?value ?items ?record ?noFields ?field ?noItems ?item t
  case value =>
    intro c _
    exact ⟨fun h => by simp [Node.isRecord] at h, fun items h => by simp at h⟩
  case items =>
    intro ts hts wf
    refine ⟨fun h => by simp [Node.isRecord] at h, fun items h => ?_⟩
    cases h
    exact hts wf
  case record =>
    intro fs hfs wf
    exact ⟨fun _ => hfs wf, fun items h => by simp at h⟩
  case noFields => intro _ baseOffset path; rfl
  case field =>
    intro f t fs ht hfs wf baseOffset path
    simp only [wellFormedFields, Bool.and_eq_true] at wf
    have apart : ∀ e ∈ fs, e.1.name ≠ f.name := fun e he => by
      simpa using List.all_eq_true.mp wf.1.1.2 e he
    rw [leafFields, fieldLeaves, List.filterMap_append, List.filterMap_map, hfs wf.2]
    refine congrArg₂ (· ++ ·) ?_ (List.filterMap_congr fun p hp => ?_)
    · have first := leafField_eq fs baseOffset path wf.1.1.1 (ht wf.1.2)
      refine first.trans (List.filterMap_congr fun p _ => ?_)
      exact (leafAt_cons path (.attr f.name)
        (locate packet · (.record ((f, t) :: fs)) baseOffset) p).symm
    · rw [leafAt, leafAt, locate_later packet apart baseOffset hp]
  case noItems => intro _ _ source baseOffset path index; rfl
  case item =>
    intro t ts ht hts wf records source baseOffset path index
    simp only [wellFormedItems, Bool.and_eq_true] at wf
    simp only [List.all_cons, Bool.and_eq_true] at records
    rw [leafItems, itemLeaves, List.filterMap_append, List.filterMap_map, hts wf.2 records.2,
      (ht wf.1).object records.1]
    refine congrArg₂ (· ++ ·) (List.filterMap_congr fun p _ => ?_)
      (List.filterMap_congr fun p hp => ?_)
    · rw [Function.comp_apply, leafAt_cons, leafAt, leafAt, locateItem_first]
    · rw [leafAt, leafAt, locateItem_later packet source baseOffset index t hp]

/-- The leaf sources of a well-formed object are those its leaves locate, in declaration order. -/
theorem leafSources_eq_locate (packet : PacketSchema) {t : Node FieldDef V} (wf : WellFormed t) :
    leafSources packet t = t.leaves.filterMap (leafAt [] (locate packet · t 0)) :=
  (locates packet t wf.2).object wf.1 0 []

private theorem nodup_leaves_of_wellFormed (t : Node FieldDef V) :
    wellFormed t = true → t.leaves.Nodup := by
  refine Node.induct (P := fun t => wellFormed t = true → t.leaves.Nodup)
    (Q := fun fs => wellFormedFields fs = true → (fieldLeaves fs).Nodup)
    (R := fun ts => wellFormedItems ts = true → ∀ index, (itemLeaves index ts).Nodup)
    ?value ?items ?record ?noFields ?field ?noItems ?item t
  case value => exact fun _ _ => by simp [Node.leaves]
  case items => exact fun _ hts wf => hts wf 0
  case record => exact fun _ hfs wf => hfs wf
  case noFields => exact fun _ => List.nodup_nil
  case field =>
    intro f t fs ht hfs wf
    simp only [wellFormedFields, Bool.and_eq_true] at wf
    refine nodup_fieldLeaves_cons (fun e he => ?_) (ht wf.1.2) (hfs wf.2)
    have apart := List.all_eq_true.mp wf.1.1.2 e he
    simpa [nameOf] using apart
  case noItems => exact fun _ _ => List.nodup_nil
  case item =>
    intro t ts ht hts wf index
    simp only [wellFormedItems, Bool.and_eq_true] at wf
    exact nodup_itemLeaves_cons (ht wf.1) (hts wf.2 (index + 1))

/-! ### The contract -/

/-- The located source of a leaf, where it applies to a payload of this length. -/
def writtenFrom (packet : PacketSchema) (payload : Bytes) (t : Node FieldDef V) (p : DataPath) :
    Option (Nat × FieldSource) :=
  (locate packet p t 0).filter fun found => found.2.appliesTo payload.length found.1

/-- The leaves the packet writes, in declaration order. -/
def writtenLeaves (packet : PacketSchema) (payload : Bytes) (t : Node FieldDef V) :
    List DataPath :=
  t.leaves.filter fun p => (writtenFrom packet payload t p).isSome

/-- No converter of a leaf the packet writes raises. -/
def Converts (packet : PacketSchema) (payload : Bytes) (t : Node FieldDef V) : Prop :=
  ∀ p ∈ t.leaves, ∀ found ∈ writtenFrom packet payload t p,
    ∃ v, found.2.converter (found.2.rawAt payload found.1) = .ok v

/-- The update is what the written leaf's source decodes at its place in the payload. -/
def DecodedFrom (packet : PacketSchema) (payload : Bytes) (t : Node FieldDef V)
    (update : ParsedField) : Prop :=
  ∃ found ∈ writtenFrom packet payload t update.path,
    update.rawValue = found.2.rawAt payload found.1 ∧
      found.2.converter update.rawValue = .ok update.value

/-- `parse_into` on the caller's object, which it returns: how it ends and what the object
holds then. The iteration is collected to its end before the first assignment. -/
def parseIntoObject (payload : Bytes) (packet : PacketSchema) (result : DataTree) :
    Raises Unit × DataTree :=
  match iterParsedFields payload packet result with
  | .error e => (.error e, result)
  | .ok updates => (.ok (), updates.foldl (fun tree update => update.apply tree) result)

/-- What the parser raises about the contents of a data object. -/
inductive ShapeError : PyError → Prop
  | notInstance : ShapeError ⟨.typeError, "Result must be a dataclass instance"⟩
  | notDataclass : ShapeError ⟨.typeError, "must be called with a dataclass type or instance"⟩
  | notList (fieldPath : DataPath) : ShapeError ⟨.typeError,
      "Repeated section " ++ pathString fieldPath ++ " must contain a list"⟩
  | wrongCount (fieldPath : DataPath) (received expected : Nat) (differ : received ≠ expected) :
      ShapeError (wrongItemCount fieldPath received expected)
  | notRecord : ShapeError ⟨.typeError, "Repeated section items must be dataclass instances"⟩

/-- A converter raised on what its applying source unpacked. -/
def ConverterError (payload : Bytes) (e : PyError) : Prop :=
  ∃ (source : FieldSource) (baseOffset : Nat),
    source.appliesTo payload.length baseOffset = true ∧
      source.converter (source.rawAt payload baseOffset) = .error e

/-! ### How the parser can raise -/

private theorem error_of_yieldFrom {here later : Raises (List ParsedField)} {e : PyError}
    (h : yieldFrom here later = .error e) : here = .error e ∨ later = .error e := by
  cases here with
  | error e' => exact .inl h
  | ok first =>
    cases later with
    | error e' => exact .inr h
    | ok rest => cases h

private theorem error_of_iterSource {payload : Bytes} {baseOffset : Nat} {fieldPath : DataPath}
    {source : FieldSource} {e : PyError}
    (h : iterSource payload baseOffset fieldPath source = .error e) : ConverterError payload e := by
  unfold iterSource at h
  split at h
  · rename_i applies
    refine ⟨source, baseOffset, applies, ?_⟩
    rw [FieldSource.parseFrom_of_appliesTo applies] at h
    cases hc : source.converter (source.rawAt payload baseOffset) with
    | ok v => simp [hc, Except.map, pure, Except.pure] at h
    | error e' => simpa [hc, Except.map] using h
  · cases h

/-- Whatever the tree, an exception of the recursion is about the tree's contents or
comes from a converter; the bounds check of `parse_from` never fails. -/
private theorem error_of_iterParsedFieldsFrom (payload : Bytes) (packet : PacketSchema)
    (t : Node FieldDef V) :
    (∀ baseOffset path e, iterParsedFieldsFrom payload packet baseOffset path t = .error e →
      ShapeError e ∨ ConverterError payload e) ∧
    ∀ items, t = .items items → ∀ source baseOffset path index e,
      iterItems payload packet source baseOffset path index items = .error e →
        ShapeError e ∨ ConverterError payload e := by
  refine Node.induct
    (P := fun t => (∀ baseOffset path e,
        iterParsedFieldsFrom payload packet baseOffset path t = .error e →
          ShapeError e ∨ ConverterError payload e) ∧
      ∀ items, t = .items items → ∀ source baseOffset path index e,
        iterItems payload packet source baseOffset path index items = .error e →
          ShapeError e ∨ ConverterError payload e)
    (Q := fun fs => ∀ baseOffset path e, iterFields payload packet baseOffset path fs = .error e →
      ShapeError e ∨ ConverterError payload e)
    (R := fun ts => ∀ source baseOffset path index e,
      iterItems payload packet source baseOffset path index ts = .error e →
        ShapeError e ∨ ConverterError payload e)
    ?value ?items ?record ?noFields ?field ?noItems ?item t
  case value =>
    intro c
    refine ⟨fun _ _ e h => ?_, fun items h => by simp at h⟩
    cases h
    exact .inl .notDataclass
  case items =>
    intro ts hts
    refine ⟨fun _ _ e h => ?_, fun items h => ?_⟩
    · cases h
      exact .inl .notDataclass
    · cases h
      exact hts
  case record => exact fun fs hfs => ⟨hfs, fun items h => by simp at h⟩
  case noFields => exact fun _ _ e h => by cases h
  case field =>
    intro f t fs ht hfs baseOffset path e raised
    rw [iterFields] at raised
    rcases error_of_yieldFrom raised with here | later
    · cases role : fieldRole packet f t.isRecord with
      | skipped => simp [role] at here
      | sourced source =>
        rw [role] at here
        exact .inr (error_of_iterSource here)
      | repeated spec source =>
        rw [role] at here
        cases t with
        | items members =>
          dsimp only at here
          split at here
          · rename_i differ
            cases here
            exact .inl (.wrongCount _ _ _ differ)
          · exact ht.2 members rfl _ _ _ _ e here
        | value c =>
          cases here
          exact .inl (.notList _)
        | record nested =>
          cases here
          exact .inl (.notList _)
      | nested offset =>
        rw [role] at here
        exact ht.1 _ _ e here
    · exact hfs _ _ e later
  case noItems => exact fun _ _ _ _ e h => by cases h
  case item =>
    intro t ts ht hts source baseOffset path index e raised
    rw [iterItems] at raised
    rcases error_of_yieldFrom raised with here | later
    · split at here
      · exact ht.1 _ _ e here
      · cases here
        exact .inl .notRecord
    · exact hts _ _ _ _ e later

/-- An exception of the iteration is about the payload's length, about the contents
of the object, or comes from a converter. -/
theorem error_of_iterParsedFields {payload : Bytes} {packet : PacketSchema}
    {t : Node FieldDef V} {e : PyError} (raised : iterParsedFields payload packet t = .error e) :
    packet.validatePayload payload = .error e ∨ ShapeError e ∨ ConverterError payload e := by
  unfold iterParsedFields at raised
  split at raised
  · cases hv : packet.validatePayload payload with
    | error e' => exact .inl (by simpa [hv] using raised)
    | ok _ =>
      rw [hv] at raised
      exact .inr ((error_of_iterParsedFieldsFrom payload packet t).1 0 [] e raised)
  · cases raised
    exact .inr (.inl .notInstance)

/-! ### The updates of a well-formed object -/

/-- The leaf sources the packet writes from. -/
private def writtenSources (packet : PacketSchema) (payload : Bytes) (t : Node FieldDef V) :
    List LeafSource :=
  t.leaves.filterMap (leafAt [] (writtenFrom packet payload t))

private theorem filter_applies_eq (packet : PacketSchema) (payload : Bytes) {t : Node FieldDef V}
    (wf : WellFormed t) : (leafSources packet t).filter (LeafSource.applies · payload) =
      writtenSources packet payload t := by
  rw [leafSources_eq_locate packet wf, List.filter_filterMap, writtenSources]
  refine List.filterMap_congr fun p _ => ?_
  simp only [leafAt, writtenFrom, LeafSource.applies]
  cases locate packet p t 0 with
  | none => rfl
  | some found =>
    by_cases applies : found.2.appliesTo payload.length found.1 = true
    · simp [Option.filter, applies]
    · simp [Option.filter, applies]

private theorem map_path_writtenSources (packet : PacketSchema) (payload : Bytes)
    (t : Node FieldDef V) :
    (writtenSources packet payload t).map LeafSource.path = writtenLeaves packet payload t := by
  rw [writtenSources, writtenLeaves, List.map_filterMap, ← List.filterMap_eq_filter]
  refine List.filterMap_congr fun p _ => ?_
  cases h : writtenFrom packet payload t p with
  | none => simp [leafAt, h, Option.guard]
  | some found => simp [leafAt, h, Option.guard]

private theorem mem_writtenSources {packet : PacketSchema} {payload : Bytes}
    {t : Node FieldDef V} {leaf : LeafSource} :
    leaf ∈ writtenSources packet payload t ↔
      leaf.path ∈ t.leaves ∧
        (leaf.baseOffset, leaf.source) ∈ writtenFrom packet payload t leaf.path := by
  rw [writtenSources, List.mem_filterMap]
  constructor
  · rintro ⟨p, hp, found⟩
    obtain ⟨from_, hfrom, rfl⟩ := Option.map_eq_some_iff.mp found
    exact ⟨hp, hfrom⟩
  · rintro ⟨hp, hfrom⟩
    exact ⟨leaf.path, hp, by simp [leafAt, Option.mem_def.mp hfrom]⟩

private theorem parse_eq_of_written {packet : PacketSchema} {payload : Bytes}
    {t : Node FieldDef V} {leaf : LeafSource} (h : leaf ∈ writtenSources packet payload t) :
    leaf.parse payload = (leaf.source.converter (leaf.source.rawAt payload leaf.baseOffset)).map
      fun v => ⟨leaf.path, v, leaf.source.rawAt payload leaf.baseOffset⟩ := by
  have applies : leaf.source.appliesTo payload.length leaf.baseOffset = true :=
    (Option.filter_eq_some_iff.mp (Option.mem_def.mp (mem_writtenSources.mp h).2)).2
  rw [LeafSource.parse, FieldSource.parseFrom_of_appliesTo applies]
  cases leaf.source.converter (leaf.source.rawAt payload leaf.baseOffset) <;> rfl

/-- The parser finishes exactly if the length is allowed and no converter raises. -/
private theorem iterParsedFields_finishes_iff (payload : Bytes) (packet : PacketSchema)
    {t : Node FieldDef V} (wf : WellFormed t) :
    (∃ updates, iterParsedFields payload packet t = .ok updates) ↔
      packet.Admits payload.length ∧ Converts packet payload t := by
  rw [iterParsedFields_eq payload packet wf, parseLeaves, filter_applies_eq packet payload wf,
    ← packet.validatePayload_ok_iff payload]
  have each : Converts packet payload t ↔ ∀ leaf ∈ writtenSources packet payload t,
      ∃ u, leaf.parse payload = .ok u := by
    constructor
    · intro converts leaf hleaf
      have member := mem_writtenSources.mp hleaf
      obtain ⟨v, hv⟩ := converts leaf.path member.1 _ member.2
      rw [parse_eq_of_written hleaf, hv]
      exact ⟨_, rfl⟩
    · intro parses p hp found hfound
      have hleaf : (⟨p, found.1, found.2⟩ : LeafSource) ∈ writtenSources packet payload t :=
        mem_writtenSources.mpr ⟨hp, hfound⟩
      obtain ⟨u, hu⟩ := parses _ hleaf
      rw [parse_eq_of_written hleaf] at hu
      cases hc : found.2.converter (found.2.rawAt payload found.1) with
      | ok v => exact ⟨v, rfl⟩
      | error e => simp [hc, Except.map] at hu
  rw [each, ← mapM_finishes_iff]
  cases packet.validatePayload payload with
  | error e =>
    refine iff_of_false (fun finished => ?_) (fun h => by cases h.1)
    obtain ⟨_, h⟩ := finished
    cases h
  | ok _ => exact (and_iff_right rfl).symm

/-- The updates are one for each written leaf, in order, decoded at its place. -/
private theorem updates_of_iterParsedFields {payload : Bytes} {packet : PacketSchema}
    {t : Node FieldDef V} (wf : WellFormed t) {updates : List ParsedField}
    (parsed : iterParsedFields payload packet t = .ok updates) :
    updates.map ParsedField.path = writtenLeaves packet payload t ∧
      ∀ u ∈ updates, DecodedFrom packet payload t u := by
  rw [iterParsedFields_eq payload packet wf, parseLeaves, filter_applies_eq packet payload wf]
    at parsed
  have each : List.Forall₂ (fun leaf u => leaf.parse payload = .ok u)
      (writtenSources packet payload t) updates := by
    refine (mapM_eq_ok_iff _ _ _).mp ?_
    cases hv : packet.validatePayload payload with
    | error e => simp [hv, Except.bind] at parsed
    | ok _ => simpa [hv, Except.bind] using parsed
  have decodes : ∀ leaf ∈ writtenSources packet payload t, ∀ u, leaf.parse payload = .ok u →
      u.path = leaf.path ∧ DecodedFrom packet payload t u := by
    intro leaf hleaf u hu
    rw [parse_eq_of_written hleaf] at hu
    cases hc : leaf.source.converter (leaf.source.rawAt payload leaf.baseOffset) with
    | error e => simp [hc, Except.map] at hu
    | ok v =>
      obtain rfl : ⟨leaf.path, v, leaf.source.rawAt payload leaf.baseOffset⟩ = u := by
        simpa [hc, Except.map] using hu
      exact ⟨rfl, _, (mem_writtenSources.mp hleaf).2, rfl, hc⟩
  rw [← map_path_writtenSources]
  clear parsed
  generalize writtenSources packet payload t = leaves at each decodes
  induction each with
  | nil => exact ⟨rfl, fun u hu => by cases hu⟩
  | @cons leaf u leaves updates hu _ ih =>
    obtain ⟨paths, decoded⟩ := ih fun l hl => decodes l (List.mem_cons_of_mem leaf hl)
    have first := decodes leaf List.mem_cons_self u hu
    refine ⟨by rw [List.map_cons, List.map_cons, first.1, paths], fun w hw => ?_⟩
    rcases List.mem_cons.mp hw with rfl | later
    · exact first.2
    · exact decoded w later

/-- Applying updates to distinct leaves assigns exactly those. -/
private theorem valueAt_applied {t : DataTree} {updates : List ParsedField}
    (leaves : ∀ u ∈ updates, t.IsLeaf u.path) (once : (updates.map ParsedField.path).Nodup) :
    let after := updates.foldl (fun tree update => update.apply tree) t
    after.shape = t.shape ∧ (∀ u ∈ updates, after.valueAt u.path = some u.value) ∧
      ∀ p, p ∉ updates.map ParsedField.path → after.valueAt p = t.valueAt p := by
  let writes := updates.map fun u => (u.path, u.value)
  have assigned : updates.foldl (fun tree update => update.apply tree) t = t.assignAll writes := by
    simp only [writes, Node.assignAll, List.foldl_map]
    rfl
  have isLeaf : ∀ w ∈ writes, t.IsLeaf w.1 := by
    intro w hw
    obtain ⟨u, hu, rfl⟩ := List.mem_map.mp hw
    exact leaves u hu
  have paths : writes.map Prod.fst = updates.map ParsedField.path := by
    simp [writes, Function.comp_def]
  dsimp only
  rw [assigned]
  refine ⟨Node.shape_assignAll isLeaf, fun u hu => ?_, fun p absent => ?_⟩
  · have last : latest u.path writes = some u.value :=
      latest_of_nodup (u := (u.path, u.value)) (paths ▸ once) (List.mem_map.mpr ⟨u, hu, rfl⟩)
    rw [Node.valueAt_assignAll isLeaf, last]
    rfl
  · have unwritten : latest p writes = none := by
      rw [latest_eq_none_iff]
      rintro w hw rfl
      exact absent (paths ▸ List.mem_map.mpr ⟨w, hw, rfl⟩)
    rw [Node.valueAt_assignAll isLeaf, unwritten]
    rfl

/-- Parsing into a well-formed object succeeds exactly if the length is within the
packet's bounds and no converter raises; then the updates are one for each leaf
that lists the packet with an applying source, and exactly those leaves change.
Whatever the object, an exception leaves it as it was and is never the bounds
error of `parse_from`: a source that applies lies within the payload. -/
theorem parse_into_spec (payload : Bytes) (packet : PacketSchema) {t : DataTree}
    (wf : WellFormed t) :
    let call := parseIntoObject payload packet t
    (call.1 = .ok () ↔ packet.Admits payload.length ∧ Converts packet payload t) ∧
    (call.1 = .ok () → ∃ updates, iterParsedFields payload packet t = .ok updates ∧
      updates.map ParsedField.path = writtenLeaves packet payload t ∧
      (writtenLeaves packet payload t).Nodup ∧
      (∀ u ∈ updates, DecodedFrom packet payload t u) ∧
      call.2.shape = t.shape ∧
      (∀ u ∈ updates, call.2.valueAt u.path = some u.value) ∧
      ∀ p, p ∉ writtenLeaves packet payload t → call.2.valueAt p = t.valueAt p) ∧
    (∀ (result : DataTree) (e : PyError), (parseIntoObject payload packet result).1 = .error e →
      (parseIntoObject payload packet result).2 = result ∧
      (packet.validatePayload payload = .error e ∨ ShapeError e ∨ ConverterError payload e)) ∧
    ∀ (source : FieldSource) (baseOffset : Nat),
      source.appliesTo payload.length baseOffset = true →
      baseOffset + source.offset + source.size ≤ payload.length := by
  have finishes : (parseIntoObject payload packet t).1 = .ok () ↔
      ∃ updates, iterParsedFields payload packet t = .ok updates := by
    unfold parseIntoObject
    cases iterParsedFields payload packet t with
    | error e =>
      refine iff_of_false (fun h => by cases h) (fun finished => ?_)
      obtain ⟨_, h⟩ := finished
      cases h
    | ok updates => exact iff_of_true rfl ⟨updates, rfl⟩
  refine ⟨finishes.trans (iterParsedFields_finishes_iff payload packet wf), fun done => ?_,
    fun result e raised => ?_, fun source baseOffset applies => source.fits_of_appliesTo applies⟩
  · obtain ⟨updates, parsed⟩ := finishes.mp done
    obtain ⟨paths, decoded⟩ := updates_of_iterParsedFields wf parsed
    have once : (writtenLeaves packet payload t).Nodup :=
      (nodup_leaves_of_wellFormed t wf.2).filter _
    have leaves : ∀ u ∈ updates, t.IsLeaf u.path := by
      intro u hu
      have written : u.path ∈ (writtenSources packet payload t).map LeafSource.path := by
        rw [map_path_writtenSources, ← paths]
        exact List.mem_map.mpr ⟨u, hu, rfl⟩
      obtain ⟨leaf, hleaf, same⟩ := List.mem_map.mp written
      rw [← filter_applies_eq packet payload wf] at hleaf
      rw [← same]
      exact isLeaf_of_mem_leafSources wf (List.mem_filter.mp hleaf).1
    have applied := valueAt_applied leaves (paths ▸ once)
    have after : (parseIntoObject payload packet t).2 =
        updates.foldl (fun tree update => update.apply tree) t := by
      rw [parseIntoObject, parsed]
    rw [after]
    exact ⟨updates, parsed, paths, once, decoded, applied.1, applied.2.1, paths ▸ applied.2.2⟩
  · unfold parseIntoObject at raised ⊢
    cases parsed : iterParsedFields payload packet result with
    | ok updates => simp [parsed] at raised
    | error e' =>
      obtain rfl : e' = e := by simpa [parsed] using raised
      exact ⟨rfl, error_of_iterParsedFields parsed⟩

/-- A packet of four bytes for a section at offset one and two records from offset two. -/
def nestedPacket : PacketSchema :=
  { name := "nested", command := 0x31, minimumLength := 4, maximumLength := some 4 }

def nestedChild : DataClass :=
  [sourceField "value" [(nestedPacket, fieldSource 0 (little .B))]]

def nestedModel : DataTree := .record [
  sectionField "child" nestedChild (some [(nestedPacket, { offset := 1 })]),
  repeatedSectionField "items" nestedChild {
    count := 2
    sources := [(nestedPacket, { offset := 2, stride := 1 })] }]

example : writtenLeaves nestedPacket [0x00, 0x11, 0x22, 0x33] nestedModel =
    [[.attr "child", .attr "value"], [.attr "items", .index 0, .attr "value"],
      [.attr "items", .index 1, .attr "value"]] := by decide

theorem parse_into_spec_nested :
    let payload : Bytes := [0x00, 0x11, 0x22, 0x33]
    let call := parseIntoObject payload nestedPacket nestedModel
    (call.1 = .ok () ↔ nestedPacket.Admits payload.length ∧
      Converts nestedPacket payload nestedModel) ∧
    (call.1 = .ok () → ∃ updates, iterParsedFields payload nestedPacket nestedModel = .ok updates ∧
      updates.map ParsedField.path = writtenLeaves nestedPacket payload nestedModel ∧
      (writtenLeaves nestedPacket payload nestedModel).Nodup ∧
      (∀ u ∈ updates, DecodedFrom nestedPacket payload nestedModel u) ∧
      call.2.shape = nestedModel.shape ∧
      (∀ u ∈ updates, call.2.valueAt u.path = some u.value) ∧
      ∀ p, p ∉ writtenLeaves nestedPacket payload nestedModel →
        call.2.valueAt p = nestedModel.valueAt p) ∧
    (∀ (result : DataTree) (e : PyError),
      (parseIntoObject payload nestedPacket result).1 = .error e →
      (parseIntoObject payload nestedPacket result).2 = result ∧
      (nestedPacket.validatePayload payload = .error e ∨ ShapeError e ∨
        ConverterError payload e)) ∧
    ∀ (source : FieldSource) (baseOffset : Nat),
      source.appliesTo payload.length baseOffset = true →
      baseOffset + source.offset + source.size ≤ payload.length :=
  parse_into_spec [0x00, 0x11, 0x22, 0x33] nestedPacket (by decide : WellFormed nestedModel)

end MarstekBle.Schema
