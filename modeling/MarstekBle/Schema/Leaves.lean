/- module: Schema/Leaves
   source: custom_components/marstek_ble/schema.py
   digest: What the generic parser yields on a well-formed data-class tree. -/

import MarstekBle.Schema.Model

/-!
The parser's recursion is compared with a flat description of the tree: the
leaf fields that list a packet, each with its path and its accumulated base
offset. Neither the description nor well-formedness looks at a value, so every
tree of one shape parses a payload the same way.
-/

set_option autoImplicit false
set_option relaxedAutoImplicit false

namespace MarstekBle.Schema

open MarstekBle.Data MarstekBle.Lib.AttributeTree

universe u v

variable {V : Type u} {W : Type v}

/-- A leaf field that lists the packet, at its accumulated base offset. -/
structure LeafSource where
  path : DataPath
  baseOffset : Nat
  source : FieldSource

namespace LeafSource

def applies (leaf : LeafSource) (payload : Bytes) : Bool :=
  leaf.source.appliesTo payload.length leaf.baseOffset

def parse (payload : Bytes) (leaf : LeafSource) : Raises ParsedField := do
  let (rawValue, value) ← leaf.source.parseFrom payload leaf.baseOffset
  pure ⟨leaf.path, value, rawValue⟩

end LeafSource

section Leaves

variable (packet : PacketSchema)

mutual

def leafObject (baseOffset : Nat) (path : DataPath) : Node FieldDef V → List LeafSource
  | .record fields => leafFields baseOffset path fields
  | _ => []
termination_by structural result => result

def leafFields (baseOffset : Nat) (path : DataPath) :
    List (FieldDef × Node FieldDef V) → List LeafSource
  | [] => []
  | (field, current) :: rest =>
    let fieldPath := path ++ [.attr field.name]
    (match fieldRole packet field current.isRecord with
      | .skipped => []
      | .sourced source => [⟨fieldPath, baseOffset, source⟩]
      | .repeated _ repeatedSource => match current with
        | .items members => leafItems repeatedSource baseOffset fieldPath 0 members
        | _ => []
      | .nested offset => leafObject (baseOffset + offset) fieldPath current) ++
      leafFields baseOffset path rest
termination_by structural fields => fields

def leafItems (source : RepeatedSectionSource) (baseOffset : Nat) (path : DataPath)
    (index : Nat) : List (Node FieldDef V) → List LeafSource
  | [] => []
  | item :: rest =>
    leafObject (baseOffset + source.offset + index * source.stride)
      (path ++ [.index index]) item ++ leafItems source baseOffset path (index + 1) rest
termination_by structural items => items

end

/-- The leaves of a data object that list the packet, in declaration order. -/
def leafSources (result : Node FieldDef V) : List LeafSource := leafObject packet 0 [] result

end Leaves

/-- A source field holds a value, a repeated section the declared number of
records, and any other field a value or a record. -/
def agrees (field : FieldDef) : Node FieldDef V → Bool
  | .value _ => field.sources.isSome || field.repeatedSection.isNone
  | .items members => field.sources.isNone && members.all Node.isRecord &&
      field.repeatedSection.any (fun spec => members.length == spec.count)
  | .record _ => field.sources.isNone && field.repeatedSection.isNone

mutual

/-- Contents agree with the field metadata, and siblings have distinct names. -/
def wellFormed : Node FieldDef V → Bool
  | .value _ => true
  | .items members => wellFormedItems members
  | .record fields => wellFormedFields fields
termination_by structural result => result

def wellFormedFields : List (FieldDef × Node FieldDef V) → Bool
  | [] => true
  | (field, current) :: rest =>
    agrees field current && rest.all (fun e => e.1.name != field.name) &&
      wellFormed current && wellFormedFields rest
termination_by structural fields => fields

def wellFormedItems : List (Node FieldDef V) → Bool
  | [] => true
  | item :: rest => wellFormed item && wellFormedItems rest
termination_by structural items => items

end

/-- A data-class instance, well formed throughout. -/
def WellFormed (result : Node FieldDef V) : Prop :=
  result.isRecord = true ∧ wellFormed result = true

instance (result : Node FieldDef V) : Decidable (WellFormed result) :=
  inferInstanceAs (Decidable (_ ∧ _))

/-- In a well-formed record a field is found by its name. -/
theorem attr?_of_mem {fs : List (FieldDef × Node FieldDef V)} (wf : wellFormedFields fs = true)
    {field : FieldDef} {current : Node FieldDef V} (member : (field, current) ∈ fs) :
    attr? fs field.name = some current ∧ fs.find? (·.1.name = field.name) = some (field, current) ∧
      agrees field current = true ∧ wellFormed current = true := by
  induction fs with
  | nil => cases member
  | cons e fs ih =>
    obtain ⟨first, content⟩ := e
    simp only [wellFormedFields, Bool.and_eq_true] at wf
    rcases List.mem_cons.mp member with same | later
    · obtain ⟨rfl, rfl⟩ := Prod.mk.inj same
      exact ⟨by simp [attr?, nameOf], by simp, wf.1.1.1, wf.1.2⟩
    · have other : field.name ≠ first.name := by
        simpa using List.all_eq_true.mp wf.1.1.2 _ later
      have named : ¬ nameOf first = field.name := fun h => other h.symm
      obtain ⟨found, entry, rest⟩ := ih wf.2 later
      refine ⟨?_, ?_, rest⟩
      · rw [attr?, if_neg named]
        exact found
      · rw [List.find?_cons_of_neg (by simpa using fun h => other h.symm)]
        exact entry

theorem wellFormed_of_getElem? {ts : List (Node FieldDef V)} (wf : wellFormedItems ts = true)
    {i : Nat} {item : Node FieldDef V} (found : ts[i]? = some item) : wellFormed item = true := by
  induction ts generalizing i with
  | nil => cases found
  | cons t ts ih =>
    simp only [wellFormedItems, Bool.and_eq_true] at wf
    cases i with
    | zero =>
      obtain rfl := Option.some.inj found
      exact wf.1
    | succ i => exact ih wf.2 found

/-! ### The recursion is the flat description -/

private theorem fieldRole_value {field : FieldDef} {c : V}
    (h : agrees field (.value c : Node FieldDef V) = true) (packet : PacketSchema) :
    fieldRole packet field false = .skipped ∨
      ∃ source, fieldRole packet field false = .sourced source := by
  cases hs : field.sources with
  | some sources => cases hl : sourceFor packet sources <;> simp [fieldRole, hs, hl]
  | none =>
    have plain : field.repeatedSection = none := by simpa [agrees, hs] using h
    simp [fieldRole, hs, plain]

private theorem fieldRole_items {field : FieldDef} {members : List (Node FieldDef V)}
    (h : agrees field (.items members) = true) (packet : PacketSchema) :
    fieldRole packet field false = .skipped ∨ ∃ spec source, members.length = spec.count ∧
      fieldRole packet field false = .repeated spec source := by
  simp only [agrees, Bool.and_eq_true, Option.isNone_iff_eq_none] at h
  obtain ⟨⟨hs, -⟩, hspec⟩ := h
  cases hr : field.repeatedSection with
  | none => simp [hr] at hspec
  | some spec =>
    have count : members.length = spec.count := by simpa [hr] using hspec
    cases hl : sourceFor packet spec.sources with
    | none => simp [fieldRole, hs, hr, hl]
    | some source => exact .inr ⟨spec, source, count, by simp [fieldRole, hs, hr, hl]⟩

private theorem fieldRole_record {field : FieldDef} {nested : List (FieldDef × Node FieldDef V)}
    (h : agrees field (.record nested) = true) (packet : PacketSchema) :
    fieldRole packet field true = .skipped ∨
      ∃ offset, fieldRole packet field true = .nested offset := by
  simp only [agrees, Bool.and_eq_true, Option.isNone_iff_eq_none] at h
  cases hx : field.sectionSources with
  | none => simp [fieldRole, h.1, h.2, hx]
  | some sources => cases hl : sourceFor packet sources <;> simp [fieldRole, h.1, h.2, hx, hl]

/-- The updates a list of leaves yields, in order; the first failure raises. -/
def parseLeaves (payload : Bytes) (leaves : List LeafSource) : Raises (List ParsedField) :=
  (leaves.filter (LeafSource.applies · payload)).mapM (LeafSource.parse payload)

theorem parseLeaves_append (payload : Bytes) (xs ys : List LeafSource) :
    parseLeaves payload (xs ++ ys) =
      yieldFrom (parseLeaves payload xs) (parseLeaves payload ys) := by
  rw [parseLeaves, List.filter_append, List.mapM_append]
  rfl

theorem parseLeaves_single (payload : Bytes) (leaf : LeafSource) :
    parseLeaves payload [leaf] =
      iterSource payload leaf.baseOffset leaf.path leaf.source := by
  by_cases ha : leaf.source.appliesTo payload.length leaf.baseOffset
  · simp [parseLeaves, iterSource, LeafSource.applies, LeafSource.parse, ha]
  · simp [parseLeaves, iterSource, LeafSource.applies, ha]

/-- The parser yields on a record, or on the members of a list, what its leaves give. -/
private structure Follows (payload : Bytes) (packet : PacketSchema) (t : Node FieldDef V) :
    Prop where
  object : t.isRecord = true → ∀ baseOffset path,
    iterParsedFieldsFrom payload packet baseOffset path t =
      parseLeaves payload (leafObject packet baseOffset path t)
  members : ∀ items, t = .items items → items.all Node.isRecord = true →
    ∀ source baseOffset path index,
      iterItems payload packet source baseOffset path index items =
        parseLeaves payload (leafItems packet source baseOffset path index items)

private theorem iterFields_cons {payload : Bytes} {packet : PacketSchema} {field : FieldDef}
    {current : Node FieldDef V} {rest : List (FieldDef × Node FieldDef V)}
    (here : Follows payload packet current) (agree : agrees field current = true)
    {baseOffset : Nat} {path : DataPath}
    (later : iterFields payload packet baseOffset path rest =
      parseLeaves payload (leafFields packet baseOffset path rest)) :
    iterFields payload packet baseOffset path ((field, current) :: rest) =
      parseLeaves payload (leafFields packet baseOffset path ((field, current) :: rest)) := by
  rw [iterFields, leafFields, parseLeaves_append, later]
  congr 1
  cases current with
  | value c =>
    rcases fieldRole_value agree packet with role | ⟨source, role⟩
    · simp only [Node.isRecord, role]
      rfl
    · simp only [Node.isRecord, role]
      exact (parseLeaves_single payload ⟨_, baseOffset, source⟩).symm
  | items members =>
    rcases fieldRole_items agree packet with role | ⟨spec, source, count, role⟩
    · simp only [Node.isRecord, role]
      rfl
    · simp only [Node.isRecord, role, count, ne_eq, not_true_eq_false, if_false]
      simp only [agrees, Bool.and_eq_true] at agree
      exact here.members members rfl agree.1.2 source baseOffset _ 0
  | record nested =>
    rcases fieldRole_record agree packet with role | ⟨offset, role⟩
    · simp only [Node.isRecord, role]
      rfl
    · simp only [Node.isRecord, role]
      exact here.object rfl (baseOffset + offset) _

private theorem follows (payload : Bytes) (packet : PacketSchema) (t : Node FieldDef V) :
    wellFormed t = true → Follows payload packet t := by
  refine Node.induct (P := fun t => wellFormed t = true → Follows payload packet t)
    (Q := fun fs => wellFormedFields fs = true → ∀ baseOffset path,
      iterFields payload packet baseOffset path fs =
        parseLeaves payload (leafFields packet baseOffset path fs))
    (R := fun ts => wellFormedItems ts = true → ts.all Node.isRecord = true →
      ∀ source baseOffset path index,
        iterItems payload packet source baseOffset path index ts =
          parseLeaves payload (leafItems packet source baseOffset path index ts))
    ?value ?items ?record ?noFields ?field ?noItems ?item t
  case value =>
    intro c _
    exact ⟨nofun, nofun⟩
  case items =>
    intro ts hts wf
    refine ⟨nofun, fun items h => ?_⟩
    cases h
    exact hts wf
  case record =>
    intro fs hfs wf
    exact ⟨fun _ => by simpa only [iterParsedFieldsFrom, leafObject] using hfs wf, nofun⟩
  case noFields => intro _ _ _; rfl
  case field =>
    intro f t fs ht hfs wf baseOffset path
    simp only [wellFormedFields, Bool.and_eq_true] at wf
    exact iterFields_cons (ht wf.1.2) wf.1.1.1 (hfs wf.2 baseOffset path)
  case noItems => intro _ _ _ _ _ _; rfl
  case item =>
    intro t ts ht hts wf records source baseOffset path index
    simp only [wellFormedItems, Bool.and_eq_true] at wf
    simp only [List.all_cons, Bool.and_eq_true] at records
    rw [iterItems, leafItems, parseLeaves_append,
      hts wf.2 records.2 source baseOffset path (index + 1), records.1]
    congr 1
    exact (ht wf.1).object records.1 _ _

/-- On a well-formed instance the parser yields the updates of its applying leaves. -/
theorem iterParsedFields_eq (payload : Bytes) (packet : PacketSchema) {t : Node FieldDef V}
    (wf : WellFormed t) :
    iterParsedFields payload packet t =
      (packet.validatePayload payload).bind fun _ =>
        parseLeaves payload (leafSources packet t) := by
  rw [iterParsedFields, if_pos wf.1, (follows payload packet t wf.2).object wf.1]
  rfl

/-! ### The flat description looks at no value -/

private theorem leafObject_map (packet : PacketSchema) (g : V → W) (t : Node FieldDef V) :
    ∀ baseOffset path, leafObject packet baseOffset path (t.map g) =
      leafObject packet baseOffset path t := by
  have both : (∀ baseOffset path, leafObject packet baseOffset path (t.map g) =
      leafObject packet baseOffset path t) ∧ ∀ items, t = .items items →
        ∀ source baseOffset path index,
          leafItems packet source baseOffset path index (mapItems g items) =
            leafItems packet source baseOffset path index items := by
    refine Node.induct
      (P := fun t => (∀ baseOffset path, leafObject packet baseOffset path (t.map g) =
        leafObject packet baseOffset path t) ∧ ∀ items, t = .items items →
          ∀ source baseOffset path index,
            leafItems packet source baseOffset path index (mapItems g items) =
              leafItems packet source baseOffset path index items)
      (Q := fun fs => ∀ baseOffset path, leafFields packet baseOffset path (mapFields g fs) =
        leafFields packet baseOffset path fs)
      (R := fun ts => ∀ source baseOffset path index,
        leafItems packet source baseOffset path index (mapItems g ts) =
          leafItems packet source baseOffset path index ts)
      ?value ?items ?record ?noFields ?field ?noItems ?item t
    case value => exact fun c => ⟨fun _ _ => rfl, nofun⟩
    case items =>
      refine fun ts hts => ⟨fun _ _ => rfl, fun items h => ?_⟩
      cases h
      exact hts
    case record => exact fun fs hfs => ⟨fun b p => by simp [Node.map, leafObject, hfs], nofun⟩
    case noFields => exact fun _ _ => rfl
    case field =>
      intro f t fs ht hfs baseOffset path
      rw [mapFields, leafFields, leafFields, hfs]
      congr 1
      cases t with
      | value c => simp only [Node.map, Node.isRecord]; cases fieldRole packet f false <;> rfl
      | items members =>
        simp only [Node.map, Node.isRecord]
        cases fieldRole packet f false with
        | skipped => rfl
        | sourced source => rfl
        | repeated spec source => exact ht.2 members rfl _ _ _ _
        | nested offset => rfl
      | record nested =>
        have object := ht.1
        simp only [Node.map, Node.isRecord] at object ⊢
        cases fieldRole packet f true with
        | skipped => rfl
        | sourced source => rfl
        | repeated spec source => rfl
        | nested offset => exact object _ _
    case noItems => exact fun _ _ _ _ => rfl
    case item =>
      intro t ts ht hts source baseOffset path index
      rw [mapItems, leafItems, leafItems, hts, ht.1]
  exact both.1

/-- Trees of one shape list the same leaves. -/
theorem leafSources_congr (packet : PacketSchema) {t : Node FieldDef V} {s : Node FieldDef W}
    (same : t.shape = s.shape) : leafSources packet t = leafSources packet s := by
  have left := leafObject_map packet (fun _ => ()) t 0 []
  have right := leafObject_map packet (fun _ => ()) s 0 []
  exact left.symm.trans ((congrArg (leafObject packet 0 []) same).trans right)

@[simp] private theorem isRecord_map (g : V → W) (t : Node FieldDef V) :
    (t.map g).isRecord = t.isRecord := by
  cases t <;> rfl

private theorem agrees_map (g : V → W) (field : FieldDef) (t : Node FieldDef V) :
    agrees field (t.map g) = agrees field t := by
  cases t with
  | value c => rfl
  | record nested => rfl
  | items members =>
    have records : ((Node.isRecord : Node FieldDef W → Bool) ∘ Node.map g) = Node.isRecord :=
      funext (isRecord_map g)
    simp [Node.map, agrees, mapItems_eq, List.all_map, records]

private theorem names_map (g : V → W) (fs : List (FieldDef × Node FieldDef V))
    (q : String → Bool) :
    (mapFields g fs).all (fun e => q e.1.name) = fs.all (fun e => q e.1.name) := by
  induction fs with
  | nil => rfl
  | cons a fs ih => simp [mapFields, ih]

private theorem wellFormed_map (g : V → W) (t : Node FieldDef V) :
    wellFormed (t.map g) = wellFormed t := by
  refine Node.induct (P := fun t => wellFormed (t.map g) = wellFormed t)
    (Q := fun fs => wellFormedFields (mapFields g fs) = wellFormedFields fs)
    (R := fun ts => wellFormedItems (mapItems g ts) = wellFormedItems ts)
    ?value ?items ?record ?noFields ?field ?noItems ?item t
  case value => exact fun _ => rfl
  case items => exact fun _ hts => by simpa [Node.map, wellFormed] using hts
  case record => exact fun _ hfs => by simpa [Node.map, wellFormed] using hfs
  case noFields => rfl
  case field =>
    intro f t fs ht hfs
    rw [mapFields, wellFormedFields, wellFormedFields, agrees_map, hfs, ht,
      names_map g fs (fun n => n != f.name)]
  case noItems => rfl
  case item => exact fun t ts ht hts => by rw [mapItems, wellFormedItems, wellFormedItems, ht, hts]

/-- Well-formedness is a matter of shape. -/
theorem wellFormed_congr {t : Node FieldDef V} {s : Node FieldDef W}
    (same : t.shape = s.shape) (wf : WellFormed t) : WellFormed s := by
  have left := wellFormed_map (fun _ => ()) t
  have right := wellFormed_map (fun _ => ()) s
  refine ⟨?_, right.symm.trans ((congrArg wellFormed same.symm).trans (left.trans wf.2))⟩
  have records := congrArg Node.isRecord same
  simpa [Node.shape, wf.1] using records.symm

/-! ### Leaves are leaf paths of the tree -/

private theorem fieldRole_sourced {field : FieldDef} {current : Node FieldDef V}
    {packet : PacketSchema} {source : FieldSource} (agree : agrees field current = true)
    (role : fieldRole packet field current.isRecord = .sourced source) :
    ∃ c, current = .value c := by
  cases current with
  | value c => exact ⟨c, rfl⟩
  | items members =>
    rcases fieldRole_items agree packet with h | ⟨_, _, _, h⟩ <;>
      simp [Node.isRecord, h] at role
  | record nested =>
    rcases fieldRole_record agree packet with h | ⟨_, h⟩ <;> simp [Node.isRecord, h] at role

/-- The leaf lies below `path`, at a leaf of the tree `t` rooted there. -/
private def Below (t : Node FieldDef V) (path : DataPath) (leaf : LeafSource) : Prop :=
  ∃ rest, leaf.path = path ++ rest ∧ t.IsLeaf rest

private def BelowField (fs : List (FieldDef × Node FieldDef V)) (path : DataPath)
    (leaf : LeafSource) : Prop :=
  ∃ name child, attr? fs name = some child ∧ Below child (path ++ [.attr name]) leaf

private theorem BelowField.tail {field : FieldDef} {current : Node FieldDef V}
    {fs : List (FieldDef × Node FieldDef V)} {path : DataPath} {leaf : LeafSource}
    (distinct : fs.all (fun e => e.1.name != field.name) = true)
    (h : BelowField fs path leaf) : BelowField ((field, current) :: fs) path leaf := by
  obtain ⟨name, child, hc, below⟩ := h
  have other : field.name ≠ name := by
    intro same
    have present : ∀ gs : List (FieldDef × Node FieldDef V), attr? gs name = some child →
        ∃ e ∈ gs, e.1.name = name := by
      intro gs
      induction gs with
      | nil => simp [attr?]
      | cons a gs ih =>
        by_cases ha : a.1.name = name
        · exact fun _ => ⟨a, List.mem_cons_self, ha⟩
        · intro hg
          obtain ⟨e, he, hn⟩ := ih (by simpa [attr?, nameOf, ha] using hg)
          exact ⟨e, List.mem_cons_of_mem a he, hn⟩
    obtain ⟨e, he, hn⟩ := present fs hc
    have apart := List.all_eq_true.mp distinct e he
    simp [hn, same] at apart
  exact ⟨name, child, by simpa [attr?, nameOf, other] using hc, below⟩

private def BelowItem (ts : List (Node FieldDef V)) (path : DataPath) (index : Nat)
    (leaf : LeafSource) : Prop :=
  ∃ k child, ts[k]? = some child ∧ Below child (path ++ [.index (index + k)]) leaf

private theorem Below.of_field {fs : List (FieldDef × Node FieldDef V)} {path : DataPath}
    {leaf : LeafSource} (h : BelowField fs path leaf) : Below (.record fs) path leaf := by
  obtain ⟨name, child, hc, rest, hpath, isLeaf⟩ := h
  refine ⟨.attr name :: rest, by simpa using hpath, ?_⟩
  simpa [Node.IsLeaf, Node.valueAt_cons, Node.child?, hc] using isLeaf

private theorem Below.of_item {ts : List (Node FieldDef V)} {path : DataPath}
    {leaf : LeafSource} (h : BelowItem ts path 0 leaf) : Below (.items ts) path leaf := by
  obtain ⟨k, child, hc, rest, hpath, isLeaf⟩ := h
  refine ⟨.index k :: rest, by simpa using hpath, ?_⟩
  simpa [Node.IsLeaf, Node.valueAt_cons, Node.child?, hc] using isLeaf

private theorem leafFields_cons_below {packet : PacketSchema} {field : FieldDef}
    {current : Node FieldDef V} {fs : List (FieldDef × Node FieldDef V)}
    (wf : wellFormedFields ((field, current) :: fs) = true)
    (here : (∀ baseOffset path, ∀ leaf ∈ leafObject packet baseOffset path current,
      Below current path leaf) ∧ ∀ items, current = .items items →
        ∀ source baseOffset path index,
          ∀ leaf ∈ leafItems packet source baseOffset path index items,
            BelowItem items path index leaf)
    {baseOffset : Nat} {path : DataPath}
    (later : ∀ leaf ∈ leafFields packet baseOffset path fs, BelowField fs path leaf) :
    ∀ leaf ∈ leafFields packet baseOffset path ((field, current) :: fs),
      BelowField ((field, current) :: fs) path leaf := by
  intro leaf hleaf
  simp only [wellFormedFields, Bool.and_eq_true] at wf
  have found : attr? ((field, current) :: fs) field.name = some current := by
    simp [attr?, nameOf]
  rw [leafFields, List.mem_append] at hleaf
  rcases hleaf with first | rest
  · refine ⟨field.name, current, found, ?_⟩
    cases role : fieldRole packet field current.isRecord with
    | skipped => simp [role] at first
    | sourced source =>
      obtain ⟨c, rfl⟩ := fieldRole_sourced wf.1.1.1 role
      simp only [role, List.mem_singleton] at first
      subst first
      exact ⟨[], by simp, by simp [Node.IsLeaf, Node.content?]⟩
    | repeated spec source =>
      cases current with
      | value c => simp [role] at first
      | record nested => simp [role] at first
      | items members =>
        simp only [role] at first
        exact .of_item (here.2 members rfl _ _ _ _ leaf first)
    | nested offset =>
      simp only [role] at first
      exact here.1 _ _ leaf first
  · exact (later leaf rest).tail wf.1.1.2

private theorem leafObject_below (packet : PacketSchema) (t : Node FieldDef V) :
    wellFormed t = true →
      (∀ baseOffset path, ∀ leaf ∈ leafObject packet baseOffset path t, Below t path leaf) ∧
      ∀ items, t = .items items → ∀ source baseOffset path index,
        ∀ leaf ∈ leafItems packet source baseOffset path index items,
          BelowItem items path index leaf := by
  refine Node.induct
    (P := fun t => wellFormed t = true →
      (∀ baseOffset path, ∀ leaf ∈ leafObject packet baseOffset path t, Below t path leaf) ∧
      ∀ items, t = .items items → ∀ source baseOffset path index,
        ∀ leaf ∈ leafItems packet source baseOffset path index items,
          BelowItem items path index leaf)
    (Q := fun fs => wellFormedFields fs = true → ∀ baseOffset path,
      ∀ leaf ∈ leafFields packet baseOffset path fs, BelowField fs path leaf)
    (R := fun ts => wellFormedItems ts = true → ∀ source baseOffset path index,
      ∀ leaf ∈ leafItems packet source baseOffset path index ts, BelowItem ts path index leaf)
    ?value ?items ?record ?noFields ?field ?noItems ?item t
  case value => exact fun c _ => ⟨fun _ _ _ h => by simp [leafObject] at h, nofun⟩
  case items =>
    refine fun ts hts wf => ⟨fun _ _ _ h => by simp [leafObject] at h, fun items h => ?_⟩
    cases h
    exact hts wf
  case record =>
    exact fun fs hfs wf => ⟨fun b p leaf h => .of_field (hfs wf b p leaf h), nofun⟩
  case noFields => exact fun _ _ _ _ h => by simp [leafFields] at h
  case field =>
    intro f t fs ht hfs wf baseOffset path
    have parts := wf
    simp only [wellFormedFields, Bool.and_eq_true] at parts
    exact leafFields_cons_below wf (ht parts.1.2) (hfs parts.2 baseOffset path)
  case noItems => exact fun _ _ _ _ _ _ h => by simp [leafItems] at h
  case item =>
    intro t ts ht hts wf source baseOffset path index leaf hleaf
    simp only [wellFormedItems, Bool.and_eq_true] at wf
    rw [leafItems, List.mem_append] at hleaf
    rcases hleaf with first | rest
    · exact ⟨0, t, rfl, (ht wf.1).1 _ _ leaf first⟩
    · obtain ⟨k, child, hc, below⟩ := hts wf.2 source baseOffset path (index + 1) leaf rest
      exact ⟨k + 1, child, hc, by simpa [Nat.add_assoc, Nat.add_comm 1 k] using below⟩

/-- Every leaf source writes a leaf of the tree. -/
theorem isLeaf_of_mem_leafSources {packet : PacketSchema} {t : Node FieldDef V}
    (wf : WellFormed t) {leaf : LeafSource} (h : leaf ∈ leafSources packet t) :
    t.IsLeaf leaf.path := by
  obtain ⟨rest, hpath, isLeaf⟩ := (leafObject_below packet t wf.2).1 0 [] leaf h
  rw [hpath]
  exact isLeaf

end MarstekBle.Schema
