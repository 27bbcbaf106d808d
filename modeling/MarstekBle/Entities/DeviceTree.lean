/- module: Entities/DeviceTree
   source: custom_components/marstek_ble/entity.py
   digest: The devices of a plan form a tree below the main device, listed parents first. -/

import MarstekBle.Entities.Evaluation
import MarstekBle.Lib.Forest

/-!
A repeated section may give each of its items a child device. The walk files it under
the prefix of the section and the position of the item, below the device of the record
the section stands in. Two sections with one prefix file their devices under the same
keys, where the later ones replace the earlier ones.
-/

set_option autoImplicit false
set_option relaxedAutoImplicit false

namespace MarstekBle.Entities

open MarstekBle.Data MarstekBle.Schema MarstekBle.Product MarstekBle.Protocol
open MarstekBle.Lib.AttributeTree
open MarstekBle.Lib.Dictionary MarstekBle.Lib.Forest

universe u

/-- The prefix of a section's child devices, if it has any. -/
def ownPrefix (spec : RepeatedSectionSpec) : List String :=
  (spec.childDevice.map RepeatedChildDeviceSpec.keyPrefix).toList

section Prefixes

variable {V : Type u}

mutual

/-- The prefixes of all sections with child devices, each as often as it occurs. -/
def childPrefixes : Node FieldDef V → List String
  | .record fields => childPrefixesFields fields
  | _ => []
termination_by structural current => current

def childPrefixesFields : List (FieldDef × Node FieldDef V) → List String
  | [] => []
  | (field, value) :: rest =>
    (match field.repeatedSection with
      | some spec => match value with
        | .items members => ownPrefix spec ++ childPrefixesItems members
        | _ => ownPrefix spec
      | none => childPrefixes value) ++ childPrefixesFields rest
termination_by structural fields => fields

def childPrefixesItems : List (Node FieldDef V) → List String
  | [] => []
  | item :: rest => childPrefixes item ++ childPrefixesItems rest
termination_by structural members => members

end

/-- The prefixes in the section or the nested record of one field. -/
private def nestedPrefixes (field : FieldDef) (value : Node FieldDef V) : List String :=
  match field.repeatedSection with
  | some spec => match value with
    | .items members => ownPrefix spec ++ childPrefixesItems members
    | _ => ownPrefix spec
  | none => childPrefixes value

private theorem childPrefixesFields_cons (field : FieldDef) (value : Node FieldDef V)
    (rest : List (FieldDef × Node FieldDef V)) :
    childPrefixesFields ((field, value) :: rest) =
      nestedPrefixes field value ++ childPrefixesFields rest := by
  rw [childPrefixesFields, nestedPrefixes]

private theorem childPrefixes_map {W : Type u} (g : V → W) (t : Node FieldDef V) :
    childPrefixes (t.map g) = childPrefixes t := by
  refine (Node.induct_items (O := fun t => childPrefixes (t.map g) = childPrefixes t)
    (Q := fun fields => childPrefixesFields (mapFields g fields) = childPrefixesFields fields)
    (I := fun members => childPrefixesItems (mapItems g members) = childPrefixesItems members)
    ?value ?items ?record ?noFields ?field ?noItems ?item t).1
  case value => exact fun c => rfl
  case items => exact fun members => rfl
  case record => exact fun fields hfields => hfields
  case noFields => rfl
  case field =>
    intro field value rest hvalue hmembers hrest
    rw [mapFields, childPrefixesFields_cons, childPrefixesFields_cons, hrest]
    refine congrArg (· ++ childPrefixesFields rest) ?_
    unfold nestedPrefixes
    cases field.repeatedSection with
    | none => exact hvalue
    | some spec =>
      cases value with
      | value c => rfl
      | record fields => rfl
      | items members => exact congrArg (ownPrefix spec ++ ·) (hmembers members rfl)
  case noItems => rfl
  case item =>
    intro item rest hitem hrest
    rw [mapItems, childPrefixesItems, childPrefixesItems, hitem, hrest]

end Prefixes

theorem childPrefixes_congr {t u : DataTree} (same : t.shape = u.shape) :
    childPrefixes t = childPrefixes u := by
  rw [← childPrefixes_map (fun _ => ()) t, ← childPrefixes_map (fun _ => ()) u]
  exact congrArg childPrefixes same

/-! ### Keys -/

/-- The key of the child device at a position. -/
def childKey (start : String) (index : Nat) : String := start ++ "_" ++ toString index

private theorem split_at_first {a : Char} {xs ys xs' ys' : List Char} (free : a ∉ xs)
    (free' : a ∉ xs') (same : xs ++ a :: ys = xs' ++ a :: ys') : xs = xs' ∧ ys = ys' := by
  induction xs generalizing xs' with
  | nil =>
    cases xs' with
    | nil => exact ⟨rfl, (List.cons.inj same).2⟩
    | cons x xs' => exact absurd ((List.cons.inj same).1 ▸ List.mem_cons_self) free'
  | cons x xs ih =>
    cases xs' with
    | nil => exact absurd ((List.cons.inj same).1 ▸ List.mem_cons_self) free
    | cons x' xs' =>
      obtain ⟨rfl, rest⟩ := List.cons.inj same
      obtain ⟨rfl, rfl⟩ := ih (fun h => free (List.mem_cons_of_mem _ h))
        (fun h => free' (List.mem_cons_of_mem _ h)) rest
      exact ⟨rfl, rfl⟩

private theorem toList_childKey (start : String) (index : Nat) :
    (childKey start index).toList = start.toList ++ '_' :: Nat.toDigits 10 index := by
  rw [childKey, String.toList_append, String.toList_append, List.append_assoc]
  show _ = _ ++ ("_".toList ++ Nat.toDigits 10 index)
  rw [← Nat.toList_repr]
  rfl

/-- A child key determines its prefix and its position. -/
theorem childKey_inj {start start' : String} {i j : Nat} :
    childKey start i = childKey start' j ↔ start = start' ∧ i = j := by
  constructor
  · intro same
    have characters := congrArg (fun key => key.toList.reverse) same
    simp only [toList_childKey, List.reverse_append, List.reverse_cons, List.append_assoc,
      List.singleton_append] at characters
    have free : ∀ n, '_' ∉ (Nat.toDigits 10 n).reverse := fun n inside =>
      absurd (Nat.isDigit_of_mem_toDigits (by decide) (by decide) (List.mem_reverse.mp inside))
        (by decide)
    obtain ⟨digits, starts⟩ := split_at_first (free i) (free j) characters
    have value := congrArg (fun cs => Nat.ofDigitChars 10 cs 0) (List.reverse_inj.mp digits)
    refine ⟨String.toList_inj.mp (List.reverse_inj.mp starts), ?_⟩
    simpa only [Nat.ofDigitChars_ten_toDigits] using value
  · rintro ⟨rfl, rfl⟩
    rfl

theorem childKey_ne_main (start : String) (index : Nat) : childKey start index ≠ "main" := by
  intro same
  have inside : '_' ∈ (childKey start index).toList := by
    rw [toList_childKey]
    simp
  rw [same] at inside
  exact absurd inside (by decide)

/-! ### The walk -/

/-- What a part of the walk below a device has added: a tree of devices below it, and
entities of these. The devices are filed under the prefixes of a section, from a
position on, and under those of the sections inside. -/
structure Grown (root : DeviceBinding) (own : List String) (index : Nat) (inner : List String)
    (collected : Collected) : Prop where
  tree : ParentsFirst DeviceBinding.key DeviceBinding.parentKey [root.key] collected.devices
  owners : ∀ binding ∈ collected.entities,
    binding.device = root ∨ binding.device ∈ collected.devices
  keys : ∀ device ∈ collected.devices, (∃ start ∈ own, ∃ i ≥ index, device.key = childKey start i) ∨
    ∃ start ∈ inner, ∃ i, device.key = childKey start i
  once : (own ++ inner).Nodup → (collected.devices.map DeviceBinding.key).Nodup

namespace Grown

variable {root : DeviceBinding} {own inner inner' : List String} {index : Nat}
  {here later : Collected}

theorem nothing : Grown root own index inner {} where
  tree := trivial
  owners := fun _ member => absurd member List.not_mem_nil
  keys := fun _ member => absurd member List.not_mem_nil
  once := fun _ => List.nodup_nil

/-- Entities of the device itself. -/
theorem entities {bindings : List EntityBinding}
    (owned : ∀ binding ∈ bindings, binding.device = root) :
    Grown root [] 0 [] { entities := bindings } where
  tree := trivial
  owners := fun binding member => .inl (owned binding member)
  keys := fun _ member => absurd member List.not_mem_nil
  once := fun _ => List.nodup_nil

/-- Counts alone add no devices and no entities. -/
theorem counts {counts : List (String × Nat)} : Grown root [] 0 [] { counts := counts } where
  tree := trivial
  owners := fun _ member => absurd member List.not_mem_nil
  keys := fun _ member => absurd member List.not_mem_nil
  once := fun _ => List.nodup_nil

/-- A section's own devices seen from outside. -/
theorem outside (h : Grown root own index inner here) : Grown root [] 0 (own ++ inner) here where
  tree := h.tree
  owners := h.owners
  keys := fun device member => .inr <| by
    rcases h.keys device member with ⟨start, inside, i, _, named⟩ | ⟨start, inside, i, named⟩
    · exact ⟨start, List.mem_append_left _ inside, i, named⟩
    · exact ⟨start, List.mem_append_right _ inside, i, named⟩
  once := fun apart => h.once (by simpa using apart)

theorem earlier (h : Grown root own (index + 1) inner here) : Grown root own index inner here where
  tree := h.tree
  owners := h.owners
  keys := fun device member => (h.keys device member).imp_left
    fun ⟨start, inside, i, from_, named⟩ => ⟨start, inside, i, Nat.le_of_succ_le from_, named⟩
  once := h.once

/-- Every key is filed under one of the prefixes. -/
theorem prefixed_key (h : Grown root own index inner here) {key : String}
    (member : key ∈ here.devices.map DeviceBinding.key) :
    ∃ start ∈ own ++ inner, ∃ i, key = childKey start i := by
  obtain ⟨device, listed, rfl⟩ := List.mem_map.mp member
  rcases h.keys device listed with ⟨start, inside, i, _, named⟩ | ⟨start, inside, i, named⟩
  · exact ⟨start, List.mem_append_left _ inside, i, named⟩
  · exact ⟨start, List.mem_append_right _ inside, i, named⟩

/-- Parts filed under different prefixes have different keys. -/
theorem nodup_keys {root' : DeviceBinding} (h : Grown root' [] 0 inner here)
    (l : Grown root own index inner' later) (apart : (own ++ (inner ++ inner')).Nodup) :
    ((here.devices ++ later.devices).map DeviceBinding.key).Nodup := by
  obtain ⟨ownOnce, innerOnce, ownApart⟩ := List.nodup_append.mp apart
  obtain ⟨hereOnce, laterOnce, innerApart⟩ := List.nodup_append.mp innerOnce
  have laterApart : (own ++ inner').Nodup := List.nodup_append.mpr ⟨ownOnce, laterOnce,
    fun p inside q inside' => ownApart p inside q (List.mem_append_right _ inside')⟩
  rw [List.map_append, List.nodup_append]
  refine ⟨h.once hereOnce, l.once laterApart, ?_⟩
  rintro key first _ second rfl
  obtain ⟨start, inside, i, named⟩ := h.prefixed_key first
  obtain ⟨start', inside', j, named'⟩ := l.prefixed_key second
  obtain ⟨rfl, _⟩ := childKey_inj.mp (named.symm.trans named')
  rcases List.mem_append.mp inside' with own' | later'
  · exact ownApart _ own' _ (List.mem_append_left _ inside) rfl
  · exact innerApart _ inside _ later' rfl

/-- One part of the walk after another, below the same device. -/
theorem append (h : Grown root [] 0 inner here) (l : Grown root own index inner' later) :
    Grown root own index (inner ++ inner') (here.append later) where
  tree := h.tree.append l.tree
  owners := fun binding member => by
    rcases List.mem_append.mp member with first | second
    · exact (h.owners binding first).imp_right (List.mem_append_left _)
    · exact (l.owners binding second).imp_right (List.mem_append_right _)
  keys := fun device member => by
    rcases List.mem_append.mp member with first | second
    · rcases h.keys device first with ⟨_, inside, _⟩ | ⟨start, inside, named⟩
      · cases inside
      · exact .inr ⟨start, List.mem_append_left _ inside, named⟩
    · exact (l.keys device second).imp_right
        fun ⟨start, inside, named⟩ => ⟨start, List.mem_append_right _ inside, named⟩
  once := nodup_keys h l

/-- An item with a child device, and the items after it. -/
theorem child {device : DeviceBinding} {start : String}
    (named : device.key = childKey start index) (below : device.parentKey = some root.key)
    (h : Grown device [] 0 inner here) (l : Grown root [start] (index + 1) inner' later) :
    Grown root [start] index (inner ++ inner')
      (Collected.append { devices := [device] } (here.append later)) := by
  show Grown root [start] index (inner ++ inner')
    (Collected.append ⟨device :: here.devices, here.entities, here.counts⟩ later)
  refine ⟨(ParentsFirst.cons List.mem_cons_self below h.tree).append l.tree, ?owners, ?keys, ?once⟩
  case owners =>
    intro binding member
    rcases List.mem_append.mp member with first | second
    · refine .inr (List.mem_append_left _ ?_)
      rcases h.owners binding first with own | inside
      · exact own ▸ List.mem_cons_self
      · exact List.mem_cons_of_mem _ inside
    · exact (l.owners binding second).imp_right (List.mem_append_right _)
  case keys =>
    intro d member
    rcases List.mem_append.mp member with first | second
    · rcases List.mem_cons.mp first with rfl | inside
      · exact .inl ⟨start, List.mem_cons_self, index, Nat.le_refl _, named⟩
      · rcases h.keys d inside with ⟨_, nowhere, _⟩ | ⟨other, inside, filed⟩
        · cases nowhere
        · exact .inr ⟨other, List.mem_append_left _ inside, filed⟩
    · exact (l.earlier.keys d second).imp_right
        fun ⟨other, inside, filed⟩ => ⟨other, List.mem_append_right _ inside, filed⟩
  case once =>
    intro apart
    have fresh : start ∉ inner ++ inner' := (List.nodup_cons.mp apart).1
    show (((device :: here.devices) ++ later.devices).map DeviceBinding.key).Nodup
    rw [List.cons_append, List.map_cons, List.nodup_cons]
    refine ⟨?_, nodup_keys h l apart⟩
    rw [List.map_append, List.mem_append]
    rintro (first | second)
    · obtain ⟨other, inside, i, filed⟩ := h.prefixed_key first
      obtain ⟨rfl, _⟩ := childKey_inj.mp (named.symm.trans filed)
      exact fresh (List.mem_append_left _ inside)
    · obtain ⟨d, listed, same⟩ := List.mem_map.mp second
      rcases l.keys d listed with ⟨_, _, i, from_, filed⟩ | ⟨other, inside, i, filed⟩
      · have position := (childKey_inj.mp (named.symm.trans (same.symm.trans filed))).2
        omega
      · obtain ⟨rfl, _⟩ := childKey_inj.mp (named.symm.trans (same.symm.trans filed))
        exact fresh (List.mem_append_right _ inside)

end Grown

section Walk

variable {configuredCounts : List (String × Int)}

/-- A finished part of the walk has grown a tree. -/
private def GrownBy (walk : Raises Collected) (root : DeviceBinding) (own : List String)
    (index : Nat) (inner : List String) : Prop :=
  ∀ collected, walk = .ok collected → Grown root own index inner collected

private theorem grown_nested {field : FieldDef} {value : DataTree}
    (object : ∀ scope : Scope, GrownBy (collect configuredCounts scope value) scope.device [] 0
      (childPrefixes value))
    (items : ∀ members, value = .items members → ∀ (scope : Scope) field spec index n,
      GrownBy (collectItems configuredCounts scope field spec index n members) scope.device
        (ownPrefix spec) index (childPrefixesItems members))
    (scope : Scope) (parent : List (FieldDef × DataTree)) :
    GrownBy (collectNested configuredCounts scope parent field value) scope.device [] 0
      (nestedPrefixes field value) := by
  intro collected built
  unfold collectNested at built
  unfold nestedPrefixes
  cases hspec : field.repeatedSection with
  | none =>
    simp only [hspec] at built ⊢
    split at built
    · exact object { scope with path := scope.path ++ [.attr field.name] } collected built
    · obtain rfl := Except.ok.inj built
      exact .nothing
  | some spec =>
    simp only [hspec] at built ⊢
    obtain ⟨discovered, _, built⟩ := bind_eq_ok_iff.mp built
    obtain ⟨configured, _, built⟩ := bind_eq_ok_iff.mp built
    obtain ⟨added, hadded, finished⟩ := bind_eq_ok_iff.mp built
    obtain rfl := Except.ok.inj finished
    cases value with
    | items members =>
      have inside := items members rfl scope field spec 0 configured added hadded
      exact Grown.counts.append inside.outside
    | value c =>
      rw [sectionItems_eq_nothing (by nofun) hadded]
      exact Grown.counts.append (.nothing : Grown _ [] 0 (ownPrefix spec) {})
    | record fields =>
      rw [sectionItems_eq_nothing (by nofun) hadded]
      exact Grown.counts.append (.nothing : Grown _ [] 0 (ownPrefix spec) {})

private theorem device_ownEntities {scope : Scope} {field : FieldDef} {value : DataTree}
    {indexed : List EntityBinding}
    (built : collectIndexed scope field value field.indexedEntities = .ok indexed) :
    ∀ binding ∈ scope.fieldEntities field ++ indexed, binding.device = scope.device := by
  obtain rfl := collectIndexed_eq built
  intro binding member
  rcases List.mem_append.mp member with own | expanded
  · obtain ⟨_, _, rfl⟩ := List.mem_map.mp own
    rfl
  · obtain ⟨spec, _, inside⟩ := List.mem_flatMap.mp expanded
    obtain ⟨_, _, rfl⟩ := List.mem_map.mp inside
    rfl

/-- An item in its scope, before the items after it. -/
private theorem grown_item {scope : Scope} {field : FieldDef} {spec : RepeatedSectionSpec}
    {index : Nat} {inner inner' : List String} {here later : Collected}
    (h : Grown (scope.item field spec index).device [] 0 inner here)
    (l : Grown scope.device (ownPrefix spec) (index + 1) inner' later) :
    Grown scope.device (ownPrefix spec) index (inner ++ inner')
      (Collected.append { devices := scope.itemDevices spec index } (here.append later)) := by
  unfold Scope.itemDevices
  unfold ownPrefix at l ⊢
  cases hchild : spec.childDevice with
  | none =>
    have same : (scope.item field spec index).device = scope.device := by
      simp only [Scope.item, hchild]
    rw [same] at h
    rw [hchild] at l
    exact h.append l.earlier
  | some child =>
    have same : (scope.item field spec index).device = scope.childDevice child index := by
      simp only [Scope.item, hchild]
    rw [same] at h
    rw [hchild] at l
    exact Grown.child rfl rfl h l

/-- The walk over a data object grows a tree of devices below the one it starts at. -/
theorem grown_collect (t : DataTree) (scope : Scope) {collected : Collected}
    (built : collect configuredCounts scope t = .ok collected) :
    Grown scope.device [] 0 (childPrefixes t) collected := by
  refine (Node.induct_items
    (O := fun t => ∀ scope : Scope, GrownBy (collect configuredCounts scope t) scope.device [] 0
      (childPrefixes t))
    (Q := fun fields => ∀ (scope : Scope) parent,
      GrownBy (collectFields configuredCounts scope parent fields) scope.device [] 0
        (childPrefixesFields fields))
    (I := fun members => ∀ (scope : Scope) field spec index n,
      GrownBy (collectItems configuredCounts scope field spec index n members) scope.device
        (ownPrefix spec) index (childPrefixesItems members))
    ?value ?items ?record ?noFields ?field ?noItems ?item t).1 scope collected built
  case value =>
    intro c scope collected built
    cases built
  case items =>
    intro members scope collected built
    cases built
  case record => exact fun fields hfields scope => hfields scope fields
  case noFields =>
    intro scope parent collected built
    obtain rfl := Except.ok.inj built
    exact .nothing
  case field =>
    intro field value rest hvalue hmembers hrest scope parent collected built
    rw [collectFields_cons] at built
    obtain ⟨indexed, hindexed, built⟩ := bind_eq_ok_iff.mp built
    obtain ⟨inner, hinner, built⟩ := bind_eq_ok_iff.mp built
    obtain ⟨later, hlater, finished⟩ := bind_eq_ok_iff.mp built
    obtain rfl := Except.ok.inj finished
    have nested := grown_nested hvalue hmembers scope parent inner hinner
    rw [childPrefixesFields_cons]
    exact (Grown.entities (device_ownEntities hindexed)).append
      (nested.append (hrest scope parent later hlater))
  case noItems =>
    intro scope field spec index n collected built
    cases n with
    | zero =>
      obtain rfl := Except.ok.inj built
      exact .nothing
    | succ n => cases built
  case item =>
    intro item rest hitem hrest scope field spec index n collected built
    cases n with
    | zero =>
      obtain rfl := Except.ok.inj built
      exact .nothing
    | succ n =>
      rw [collectItems] at built
      obtain ⟨here, hhere, built⟩ := bind_eq_ok_iff.mp built
      obtain ⟨later, hlater, finished⟩ := bind_eq_ok_iff.mp built
      obtain rfl := Except.ok.inj finished
      exact grown_item (hitem _ here hhere) (hrest scope field spec (index + 1) n later hlater)

end Walk

/-! ### Plans -/

/-- The dictionary that files the devices under their keys. -/
private def filed (devices : List DeviceBinding) : List (String × DeviceBinding) :=
  stored (devices.map fun device => (device.key, device))

private theorem mem_filed {devices : List DeviceBinding} {e : String × DeviceBinding}
    (member : e ∈ filed devices) : e.1 = e.2.key ∧ e.2 ∈ devices := by
  obtain ⟨key, device⟩ := e
  rw [filed, mem_stored_iff] at member
  obtain ⟨d, listed, same⟩ := List.mem_map.mp (mem_of_latest member)
  obtain ⟨rfl, rfl⟩ := Prod.mk.inj same
  exact ⟨rfl, listed⟩

private theorem keys_filed (devices : List DeviceBinding) :
    ((filed devices).map Prod.snd).map DeviceBinding.key =
      firstsFrom [] (devices.map DeviceBinding.key) := by
  have keys := keys_stored (devices.map fun device => (device.key, device))
  rw [List.map_map] at keys
  refine Eq.trans ?_ keys
  rw [List.map_map]
  exact List.map_congr_left fun e member => (mem_filed member).1.symm

private theorem filed_of_nodup {devices : List DeviceBinding}
    (once : (devices.map DeviceBinding.key).Nodup) : (filed devices).map Prod.snd = devices := by
  rw [filed, stored_of_nodup, List.map_map]
  · exact List.map_id _
  · rw [List.map_map]
    exact once

namespace EntityProfile

variable {profile : EntityProfile} {data : TrackedProductData}
  {configuredCounts : List (String × Int)} {plan : EntityPlan}

private theorem plan_of_built (built : profile.buildEntityPlan data configuredCounts = .ok plan) :
    ∃ collected, Grown profile.mainDevice [] 0 (childPrefixes data.tree) collected ∧
      plan.devices = profile.mainDevice :: (filed collected.devices).map Prod.snd ∧
      plan.entities = collected.entities ++ profile.derivedEntities.map profile.derivedEntity := by
  unfold EntityProfile.buildEntityPlan at built
  split at built
  · cases built
  · obtain ⟨collected, hcollected, finished⟩ := bind_eq_ok_iff.mp built
    obtain rfl := Except.ok.inj finished
    have grown := grown_collect data.tree profile.rootScope hcollected
    refine ⟨collected, grown, ?_, rfl⟩
    -- no child device has the key of the main device
    have absent : "main" ∉ (collected.devices.map fun d => (d.key, d)).map Prod.fst := by
      rw [List.map_map]
      intro member
      obtain ⟨start, _, i, named⟩ := grown.prefixed_key member
      exact childKey_ne_main start i named.symm
    show (stored (("main", profile.mainDevice) :: _)).map Prod.snd = _
    rw [stored_cons absent]
    rfl

/-- The devices of a plan. Whatever data object it is built from, no two devices have one
key, the main device is the first, and the keys of all entities' devices and of all
parents are listed. If no two sections share the prefix of their child devices, every
entity hangs on a listed device, and the children form a tree below the main device in
which each is listed after its parent. -/
theorem device_tree (built : profile.buildEntityPlan data configuredCounts = .ok plan) :
    ∃ children, plan.devices = profile.mainDevice :: children ∧
      (plan.devices.map DeviceBinding.key).Nodup ∧
      (∀ binding ∈ plan.entities, binding.device.key ∈ plan.devices.map DeviceBinding.key) ∧
      (∀ device ∈ children, ∃ above ∈ plan.devices, device.parentKey = some above.key) ∧
      ((childPrefixes data.tree).Nodup →
        (∀ binding ∈ plan.entities, binding.device ∈ plan.devices) ∧
        ParentsFirst DeviceBinding.key DeviceBinding.parentKey ["main"] children ∧
        ∀ device ∈ children, Relation.TransGen
          (Hangs DeviceBinding.key DeviceBinding.parentKey children) "main" device.key) := by
  obtain ⟨collected, grown, devices, entities⟩ := plan_of_built built
  have keys : ∀ key, key ∈ plan.devices.map DeviceBinding.key ↔
      key = "main" ∨ key ∈ collected.devices.map DeviceBinding.key := by
    intro key
    rw [devices, List.map_cons, keys_filed, List.mem_cons, mem_firstsFrom,
      or_iff_right List.not_mem_nil]
    rfl
  have owners : ∀ binding ∈ plan.entities,
      binding.device = profile.mainDevice ∨ binding.device ∈ collected.devices := by
    intro binding member
    rw [entities] at member
    rcases List.mem_append.mp member with walked | derived
    · exact grown.owners binding walked
    · obtain ⟨spec, _, rfl⟩ := List.mem_map.mp derived
      exact .inl rfl
  refine ⟨_, devices, ?_, fun binding member => ?_, fun device member => ?_, fun apart => ?_⟩
  · rw [devices, List.map_cons, keys_filed, List.nodup_cons]
    refine ⟨fun member => ?_, nodup_firstsFrom _⟩
    obtain ⟨start, _, i, named⟩ := grown.prefixed_key
      (((mem_firstsFrom [] _ _).mp member).resolve_left List.not_mem_nil)
    exact childKey_ne_main start i named.symm
  · rw [keys]
    refine (owners binding member).imp (fun main => ?_) List.mem_map_of_mem
    rw [main]
    rfl
  · obtain ⟨e, inside, rfl⟩ := List.mem_map.mp member
    obtain ⟨above, named, known⟩ := grown.tree.parent_mem (mem_filed inside).2
    have listed : above ∈ plan.devices.map DeviceBinding.key :=
      (keys above).mpr (known.imp_left List.mem_singleton.mp)
    obtain ⟨parent, member', rfl⟩ := List.mem_map.mp listed
    exact ⟨parent, member', named⟩
  · have once := grown.once apart
    rw [filed_of_nodup once] at devices ⊢
    refine ⟨fun binding member => ?_, grown.tree, fun device member => ?_⟩
    · rw [devices, List.mem_cons]
      exact owners binding member
    · obtain ⟨k, known, chain⟩ := grown.tree.reaches member
      obtain rfl := List.mem_singleton.mp known
      exact chain

end EntityProfile

/-! ### The products -/

/-- Neither product has two sections whose child devices share a prefix. -/
private theorem nodup_childPrefixes : ∀ product ∈ entityProducts,
    (childPrefixes product.runtime.createData.tree).Nodup := by
  intro product registered
  simp only [entityProducts, List.mem_cons, List.not_mem_nil, or_false] at registered
  rcases registered with rfl | rfl
  · decide
  · decide

/-- Whatever was received and whatever counts are configured, a registered product has a
plan, no two of its devices share a key, every entity hangs on one of them, and the
others form a tree below the main device in which each is listed after its parent. -/
theorem devices_form_tree {product : EntityProduct} (registered : product ∈ entityProducts)
    (ns : List Notification) (configuredCounts : List (String × Int)) :
    let data := product.runtime.receiveAll product.runtime.createData ns
    ∃ plan children, product.entities.buildEntityPlan data configuredCounts = .ok plan ∧
      plan.devices = product.entities.mainDevice :: children ∧
      (plan.devices.map DeviceBinding.key).Nodup ∧
      (∀ binding ∈ plan.entities, binding.device ∈ plan.devices) ∧
      ParentsFirst DeviceBinding.key DeviceBinding.parentKey ["main"] children ∧
      ∀ device ∈ children, Relation.TransGen
        (Hangs DeviceBinding.key DeviceBinding.parentKey children) "main" device.key := by
  obtain ⟨plan, built⟩ := plan_of_received registered ns configuredCounts
  obtain ⟨measured, safe⟩ := evaluable_of_mem registered
  have inShape := inShape_receiveAll safe.lawful (inShape_createData product.runtime) ns
  have apart := nodup_childPrefixes product registered
  rw [← childPrefixes_congr inShape.shape] at apart
  obtain ⟨children, devices, once, _, _, whole⟩ := EntityProfile.device_tree built
  obtain ⟨owned, parentsFirst, below⟩ := whole apart
  exact ⟨plan, children, built, devices, once, owned, parentsFirst, below⟩

/-- The Jupiter after replies with its events and with the count of its packs. -/
theorem devices_form_tree_jupiter :
    let product : EntityProduct :=
      ⟨Product.Jupiter.jupiterRuntime, Jupiter.jupiterEntityProfile, rfl⟩
    let data := product.runtime.receiveAll product.runtime.createData
      [⟨frameOf 0x13 (List.replicate 160 1), 0⟩, ⟨frameOf 0x14 twoPacks, 1⟩]
    ∃ plan children, product.entities.buildEntityPlan data [("battery.packs", 3)] = .ok plan ∧
      plan.devices = product.entities.mainDevice :: children ∧
      (plan.devices.map DeviceBinding.key).Nodup ∧
      (∀ binding ∈ plan.entities, binding.device ∈ plan.devices) ∧
      ParentsFirst DeviceBinding.key DeviceBinding.parentKey ["main"] children ∧
      ∀ device ∈ children, Relation.TransGen
        (Hangs DeviceBinding.key DeviceBinding.parentKey children) "main" device.key :=
  devices_form_tree (List.mem_cons_of_mem _ List.mem_cons_self)
    [⟨frameOf 0x13 (List.replicate 160 1), 0⟩, ⟨frameOf 0x14 twoPacks, 1⟩]
    [("battery.packs", 3)]

end MarstekBle.Entities
