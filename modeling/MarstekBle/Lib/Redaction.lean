/- module: Lib/Redaction
   digest: Replacing the values of listed keys in a document; which secrets the result shows. -/

import MarstekBle.Lib.AttributeTree

/-!
A document is a tree whose records list keys with their contents. Redaction replaces
what stands under a listed key, at every depth. Two documents with equal redactions
differ under listed keys only. Where two documents differ in the values of secret keys
only, their redactions are equal exactly if the secrets under no listed key are.
-/

set_option autoImplicit false
set_option relaxedAutoImplicit false

namespace MarstekBle.Lib.Redaction

open MarstekBle.Lib.AttributeTree

universe v w

variable {F : Type v} {V : Type w}

section Definitions

mutual

/-- Replace what stands under a listed key. -/
def redact (listed : F → Bool) (mask : Node F V) : Node F V → Node F V
  | .value c => .value c
  | .items ts => .items (redactItems listed mask ts)
  | .record fs => .record (redactFields listed mask fs)

def redactItems (listed : F → Bool) (mask : Node F V) : List (Node F V) → List (Node F V)
  | [] => []
  | t :: ts => redact listed mask t :: redactItems listed mask ts

def redactFields (listed : F → Bool) (mask : Node F V) :
    List (F × Node F V) → List (F × Node F V)
  | [] => []
  | (f, t) :: fs =>
    (f, if listed f then mask else redact listed mask t) :: redactFields listed mask fs

end

mutual

/-- The documents are the same apart from what stands under listed keys. -/
def SameOutside (listed : F → Bool) : Node F V → Node F V → Prop
  | .value c, .value d => c = d
  | .items ts, .items us => SameItems listed ts us
  | .record fs, .record gs => SameFields listed fs gs
  | _, _ => False

def SameItems (listed : F → Bool) : List (Node F V) → List (Node F V) → Prop
  | [], [] => True
  | t :: ts, u :: us => SameOutside listed t u ∧ SameItems listed ts us
  | _, _ => False

def SameFields (listed : F → Bool) : List (F × Node F V) → List (F × Node F V) → Prop
  | [], [] => True
  | (f, t) :: fs, (g, u) :: gs =>
    f = g ∧ (listed f = true ∨ SameOutside listed t u) ∧ SameFields listed fs gs
  | _, _ => False

end

mutual

/-- The documents are the same apart from the values of secret keys. -/
def DifferInSecrets (secret : F → Bool) : Node F V → Node F V → Prop
  | .value c, .value d => c = d
  | .items ts, .items us => ItemsDiffer secret ts us
  | .record fs, .record gs => FieldsDiffer secret fs gs
  | _, _ => False

def ItemsDiffer (secret : F → Bool) : List (Node F V) → List (Node F V) → Prop
  | [], [] => True
  | t :: ts, u :: us => DifferInSecrets secret t u ∧ ItemsDiffer secret ts us
  | _, _ => False

def FieldsDiffer (secret : F → Bool) : List (F × Node F V) → List (F × Node F V) → Prop
  | [], [] => True
  | (f, t) :: fs, (g, u) :: gs =>
    f = g ∧ ((secret f = true ∧ ∃ c d, t = .value c ∧ u = .value d) ∨ DifferInSecrets secret t u) ∧
      FieldsDiffer secret fs gs
  | _, _ => False

end

/-- The value of a secret key. -/
def secretValue (secret : F → Bool) (f : F) : Node F V → List V
  | .value c => if secret f then [c] else []
  | _ => []

mutual

/-- The values of secret keys that stand under no listed key, in order. -/
def exposed (secret listed : F → Bool) : Node F V → List V
  | .value _ => []
  | .items ts => exposedItems secret listed ts
  | .record fs => exposedFields secret listed fs

def exposedItems (secret listed : F → Bool) : List (Node F V) → List V
  | [] => []
  | t :: ts => exposed secret listed t ++ exposedItems secret listed ts

def exposedFields (secret listed : F → Bool) : List (F × Node F V) → List V
  | [] => []
  | (f, t) :: fs =>
    (if listed f then [] else secretValue secret f t ++ exposed secret listed t) ++
      exposedFields secret listed fs

end

end Definitions

variable {listed hidden secret : F → Bool} {mask : Node F V}

theorem sameOutside_refl (listed : F → Bool) (t : Node F V) : SameOutside listed t t := by
  induction t using Node.induct (Q := fun fs => SameFields listed fs fs)
    (R := fun ts => SameItems listed ts ts) with
  | value c => rfl
  | items ts ih => exact ih
  | record fs ih => exact ih
  | noFields => trivial
  | field f t fs ht hfs => exact ⟨rfl, .inr ht, hfs⟩
  | noItems => trivial
  | item t ts ht hts => exact ⟨ht, hts⟩

/-- What two redactions of documents show, apart from what is disregarded anyway. -/
theorem sameOutside_redact_iff (t u : Node F V) :
    SameOutside hidden (redact listed mask t) (redact listed mask u) ↔
      SameOutside (fun f => hidden f || listed f) t u := by
  induction t using Node.induct
    (Q := fun fs => ∀ gs, SameFields hidden (redactFields listed mask fs)
      (redactFields listed mask gs) ↔ SameFields (fun f => hidden f || listed f) fs gs)
    (R := fun ts => ∀ us, SameItems hidden (redactItems listed mask ts)
      (redactItems listed mask us) ↔ SameItems (fun f => hidden f || listed f) ts us)
    generalizing u with
  | value c => cases u <;> simp [redact, SameOutside]
  | items ts ih =>
    cases u with
    | items us => exact ih us
    | _ => simp [redact, SameOutside]
  | record fs ih =>
    cases u with
    | record gs => exact ih gs
    | _ => simp [redact, SameOutside]
  | noFields gs => cases gs <;> simp [redactFields, SameFields]
  | field f t fs ht hfs gs =>
    rcases gs with _ | ⟨⟨g, u⟩, gs⟩
    · simp [redactFields, SameFields]
    · simp only [redactFields, SameFields, hfs gs]
      refine and_congr_right fun same => and_congr_left fun _ => ?_
      subst same
      by_cases replaced : listed f = true
      · simp [replaced, sameOutside_refl]
      · simp [replaced, ht u]
  | noItems us => cases us <;> simp [redactItems, SameItems]
  | item t ts ht hts us =>
    cases us with
    | nil => simp [redactItems, SameItems]
    | cons u us => simp only [redactItems, SameItems, ht u, hts us]

/-! ### Documents built from lists -/

/-- Two lists of items are the same outside the listed keys exactly if what each pair
of items is compared by is the same. -/
theorem sameItems_map_iff {A B : Type*} {R : A → A → Prop} (listed : F → Bool)
    (doc : A → Node F V) (shown : A → B)
    (each : ∀ x y, R x y → (SameOutside listed (doc x) (doc y) ↔ shown x = shown y))
    {xs ys : List A} (h : List.Forall₂ R xs ys) :
    SameItems listed (xs.map doc) (ys.map doc) ↔ xs.map shown = ys.map shown := by
  induction h with
  | nil => simp [SameItems]
  | cons head tail ih =>
    simp only [List.map_cons, SameItems, each _ _ head, ih, List.cons.injEq]

/-- The same of two lists of fields with unlisted keys. -/
theorem sameFields_map_iff {A B : Type*} {R : A → A → Prop} (listed : F → Bool)
    (key : A → F) (doc : A → Node F V) (shown : A → B)
    (keys : ∀ x y, R x y → key x = key y) (unlisted : ∀ x, listed (key x) = false)
    (each : ∀ x y, R x y → (SameOutside listed (doc x) (doc y) ↔ shown x = shown y))
    {xs ys : List A} (h : List.Forall₂ R xs ys) :
    SameFields listed (xs.map fun x => (key x, doc x)) (ys.map fun y => (key y, doc y)) ↔
      xs.map shown = ys.map shown := by
  induction h with
  | nil => simp [SameFields]
  | cons head tail ih =>
    simp only [List.map_cons, SameFields, keys _ _ head, unlisted, each _ _ head, ih,
      List.cons.injEq, Bool.false_eq_true, false_or, true_and]

theorem sameFields_append {fs gs : List (F × Node F V)} {fs' gs' : List (F × Node F V)}
    (length : fs.length = gs.length) :
    SameFields listed (fs ++ fs') (gs ++ gs') ↔
      SameFields listed fs gs ∧ SameFields listed fs' gs' := by
  induction fs generalizing gs with
  | nil =>
    obtain rfl := List.length_eq_zero_iff.mp length.symm
    simp [SameFields]
  | cons f fs ih =>
    rcases gs with _ | ⟨g, gs⟩
    · simp at length
    · simp only [List.cons_append, SameFields, ih (Nat.succ.inj length), and_assoc]

/-! ### Secrets -/

/-- Documents that differ in secrets below a key hold the same at the key itself. -/
theorem secretValue_eq {t u : Node F V} (h : DifferInSecrets secret t u) (f : F) :
    secretValue secret f t = secretValue secret f u := by
  cases t <;> cases u <;> simp_all [DifferInSecrets, secretValue]

theorem differInSecrets_refl (secret : F → Bool) (t : Node F V) : DifferInSecrets secret t t := by
  induction t using Node.induct (Q := fun fs => FieldsDiffer secret fs fs)
    (R := fun ts => ItemsDiffer secret ts ts) with
  | value c => rfl
  | items ts ih => exact ih
  | record fs ih => exact ih
  | noFields => trivial
  | field f t fs ht hfs => exact ⟨rfl, .inr ht, hfs⟩
  | noItems => trivial
  | item t ts ht hts => exact ⟨ht, hts⟩

/-- Documents that differ in secrets only show equally many of them. -/
theorem length_exposed (listed : F → Bool) {t u : Node F V} (h : DifferInSecrets secret t u) :
    (exposed secret listed t).length = (exposed secret listed u).length := by
  induction t using Node.induct
    (Q := fun fs => ∀ gs, FieldsDiffer secret fs gs →
      (exposedFields secret listed fs).length = (exposedFields secret listed gs).length)
    (R := fun ts => ∀ us, ItemsDiffer secret ts us →
      (exposedItems secret listed ts).length = (exposedItems secret listed us).length)
    generalizing u with
  | value c => cases u <;> simp_all [DifferInSecrets]
  | items ts ih =>
    cases u with
    | items us => exact ih us h
    | _ => simp [DifferInSecrets] at h
  | record fs ih =>
    cases u with
    | record gs => exact ih gs h
    | _ => simp [DifferInSecrets] at h
  | noFields gs differ => cases gs <;> simp_all [FieldsDiffer]
  | field f t fs ht hfs gs differ =>
    rcases gs with _ | ⟨⟨g, u⟩, gs⟩
    · simp [FieldsDiffer] at differ
    · obtain ⟨rfl, here, later⟩ := differ
      simp only [exposedFields, List.length_append, hfs gs later]
      congr 1
      split
      · rfl
      · rcases here with ⟨isSecret, c, d, rfl, rfl⟩ | deeper
        · simp [secretValue, isSecret, exposed]
        · rw [secretValue_eq deeper, List.length_append, List.length_append, ht deeper]
  | noItems us differ => cases us <;> simp_all [ItemsDiffer]
  | item t ts ht hts us differ =>
    cases us with
    | nil => simp [ItemsDiffer] at differ
    | cons u us =>
      simp only [exposedItems, List.length_append, ht differ.1, hts us differ.2]

theorem FieldsDiffer.length_eq {fs gs : List (F × Node F V)} (h : FieldsDiffer secret fs gs) :
    fs.length = gs.length := by
  induction fs generalizing gs with
  | nil => cases gs <;> simp_all [FieldsDiffer]
  | cons f fs ih =>
    rcases gs with _ | ⟨g, gs⟩
    · simp [FieldsDiffer] at h
    · simp [ih h.2.2]

/-- Only the secret keys that are not listed matter. -/
theorem exposed_congr {secret' : F → Bool} (same : ∀ f, listed f = false → secret f = secret' f)
    (t : Node F V) : exposed secret listed t = exposed secret' listed t := by
  induction t using Node.induct
    (Q := fun fs => exposedFields secret listed fs = exposedFields secret' listed fs)
    (R := fun ts => exposedItems secret listed ts = exposedItems secret' listed ts) with
  | value c => rfl
  | items ts ih => exact ih
  | record fs ih => exact ih
  | noFields => rfl
  | field f t fs ht hfs =>
    simp only [exposedFields, hfs, ht]
    congr 1
    split
    · rfl
    · rename_i unlisted
      have agree := same f (Bool.eq_false_iff.mpr unlisted)
      cases t <;> simp [secretValue, agree]
  | noItems => rfl
  | item t ts ht hts => simp only [exposedItems, ht, hts]

theorem length_exposedFields (listed : F → Bool) {fs gs : List (F × Node F V)}
    (h : FieldsDiffer secret fs gs) :
    (exposedFields secret listed fs).length = (exposedFields secret listed gs).length :=
  length_exposed listed (t := .record fs) (u := .record gs) h

/-- Documents that differ in secrets only are the same outside the listed keys exactly
if the secrets that stand under none of them are. -/
theorem sameOutside_iff_exposed (listed : F → Bool) {t u : Node F V}
    (h : DifferInSecrets secret t u) :
    SameOutside listed t u ↔ exposed secret listed t = exposed secret listed u := by
  induction t using Node.induct
    (Q := fun fs => ∀ gs, FieldsDiffer secret fs gs → (SameFields listed fs gs ↔
      exposedFields secret listed fs = exposedFields secret listed gs))
    (R := fun ts => ∀ us, ItemsDiffer secret ts us → (SameItems listed ts us ↔
      exposedItems secret listed ts = exposedItems secret listed us))
    generalizing u with
  | value c => cases u <;> simp_all [DifferInSecrets, SameOutside, exposed]
  | items ts ih =>
    cases u with
    | items us => exact ih us h
    | _ => simp [DifferInSecrets] at h
  | record fs ih =>
    cases u with
    | record gs => exact ih gs h
    | _ => simp [DifferInSecrets] at h
  | noFields gs differ => cases gs <;> simp_all [FieldsDiffer, SameFields]
  | field f t fs ht hfs gs differ =>
    rcases gs with _ | ⟨⟨g, u⟩, gs⟩
    · simp [FieldsDiffer] at differ
    · obtain ⟨rfl, here, later⟩ := differ
      have parts := length_exposedFields listed later
      have shown : (listed f = true ∨ SameOutside listed t u) ↔
          (if listed f then [] else secretValue secret f t ++ exposed secret listed t) =
            if listed f then [] else secretValue secret f u ++ exposed secret listed u := by
        by_cases replaced : listed f = true
        · simp [replaced]
        · rcases here with ⟨isSecret, c, d, rfl, rfl⟩ | deeper
          · simp [replaced, secretValue, isSecret, exposed, SameOutside]
          · simp [replaced, secretValue_eq deeper, ht deeper]
      simp only [SameFields, true_and, exposedFields, hfs gs later, shown]
      constructor
      · rintro ⟨first, rest⟩
        rw [first, rest]
      · exact fun same => List.append_inj' same parts
  | noItems us differ => cases us <;> simp_all [ItemsDiffer, SameItems]
  | item t ts ht hts us differ =>
    cases us with
    | nil => simp [ItemsDiffer] at differ
    | cons u us =>
      simp only [exposedItems, SameItems, ht differ.1, hts us differ.2]
      constructor
      · rintro ⟨first, rest⟩
        rw [first, rest]
      · exact fun same => List.append_inj same (length_exposed listed differ.1)

end MarstekBle.Lib.Redaction
