/- module: Data/Value
   digest: Attribute values, exceptions, struct formats and the schema converters. -/

import Mathlib.Data.Rat.Defs
import MarstekBle.Data.Text

set_option autoImplicit false
set_option relaxedAutoImplicit false

namespace MarstekBle.Data

/-- What an attribute of a data object can hold. A `float` is the exact
rational the source computes it from. -/
inductive Value where
  | none
  | bool (b : Bool)
  | int (n : Int)
  | float (q : ℚ)
  | str (text : Text)
  | tuple (members : List Value)
  | list (members : List Value)

inductive ErrorKind where
  | typeError
  | valueError
  | structError
  | indexError
  | attributeError
  deriving DecidableEq

/-- A raised `Exception` subclass with its message. -/
structure PyError where
  kind : ErrorKind
  message : String
  deriving DecidableEq

abbrev Raises (α : Type) := Except PyError α

@[simp] theorem ok_bind {α β : Type} (a : α) (f : α → Raises β) :
    ((.ok a : Raises α) >>= f) = f a := rfl

@[simp] theorem error_bind {α β : Type} (e : PyError) (f : α → Raises β) :
    ((.error e : Raises α) >>= f) = .error e := rfl

/-- A sequence of two steps finishes where both do. -/
theorem bind_eq_ok_iff {α β : Type} {x : Raises α} {f : α → Raises β} {b : β} :
    (x >>= f) = .ok b ↔ ∃ a, x = .ok a ∧ f a = .ok b := by
  cases x with
  | error e => simp
  | ok a => simp

theorem map_eq_ok_iff {α β : Type} {x : Raises α} {f : α → β} {b : β} :
    x.map f = .ok b ↔ ∃ a, x = .ok a ∧ f a = b := by
  cases x with
  | error e => exact iff_of_false (fun h => by cases h) (fun ⟨_, h, _⟩ => by cases h)
  | ok a =>
    constructor
    · exact fun h => ⟨a, rfl, Except.ok.inj h⟩
    · rintro ⟨a', h, rfl⟩
      obtain rfl := Except.ok.inj h
      rfl

/-- A loop that may raise finishes with one result for each element, in order. -/
theorem mapM_eq_ok_iff {α β : Type} (f : α → Raises β) (xs : List α) (ys : List β) :
    xs.mapM f = .ok ys ↔ List.Forall₂ (fun x y => f x = .ok y) xs ys := by
  induction xs generalizing ys with
  | nil => cases ys with
    | nil => exact iff_of_true rfl .nil
    | cons y ys => exact iff_of_false (fun h => by cases h) (fun h => by cases h)
  | cons x xs ih =>
    rw [List.mapM_cons]
    constructor
    · intro finished
      cases hx : f x with
      | error e => simp [hx] at finished
      | ok y =>
        cases hxs : xs.mapM f with
        | error e => simp [hx, hxs] at finished
        | ok rest =>
          obtain rfl : y :: rest = ys := by
            simpa [hx, hxs, pure, Except.pure] using finished
          exact .cons hx ((ih rest).mp hxs)
    · intro each
      cases each with
      | cons hx hxs =>
        rw [hx, (ih _).mpr hxs]
        rfl

theorem mapM_finishes_iff {α β : Type} (f : α → Raises β) (xs : List α) :
    (∃ ys, xs.mapM f = .ok ys) ↔ ∀ x ∈ xs, ∃ y, f x = .ok y := by
  induction xs with
  | nil => exact iff_of_true ⟨[], rfl⟩ (fun x hx => by cases hx)
  | cons x xs ih =>
    rw [List.forall_mem_cons, ← ih]
    constructor
    · rintro ⟨ys, finished⟩
      cases (mapM_eq_ok_iff f _ ys).mp finished with
      | cons hx hxs => exact ⟨⟨_, hx⟩, _, (mapM_eq_ok_iff f xs _).mpr hxs⟩
    · rintro ⟨⟨y, hx⟩, ys, hxs⟩
      exact ⟨y :: ys, (mapM_eq_ok_iff f _ _).mpr (.cons hx ((mapM_eq_ok_iff f xs ys).mp hxs))⟩

/-- The integer an arithmetic operation sees; a bool counts as 0 or 1. -/
def Value.toInt? : Value → Option Int
  | .int n => some n
  | .bool b => some (if b then 1 else 0)
  | _ => Option.none

/-- The number an arithmetic operation sees. -/
def Value.toRat? : Value → Option ℚ
  | .float q => some q
  | v => v.toInt?.map fun n => (n : ℚ)

/-- A text or a whole number. -/
def Value.isPlain : Value → Bool
  | .str _ => true
  | .int _ => true
  | _ => false

/-- The length of a list; none for any other value. -/
def Value.listLength : Value → Option Nat
  | .list members => some members.length
  | _ => Option.none

/-- A number, or the `None` of a field that was never set. -/
def Value.isMeasured : Value → Bool
  | .none => true
  | v => v.toRat?.isSome

def unsupported (operation : String) : PyError :=
  ⟨.typeError, "unsupported operand type(s) for " ++ operation⟩

/-! ### The `struct` module -/

/-- A compiled `struct.Struct`: its size, and the values of exactly that many bytes. -/
structure Struct where
  size : Nat
  unpack : Bytes → List Value

inductive ByteOrder where
  | little
  | big
  deriving DecidableEq

/-- An integer format character: its width in bytes and whether it is signed. -/
structure IntegerCode where
  width : Nat
  signed : Bool
  deriving DecidableEq

namespace IntegerCode
def b : IntegerCode := ⟨1, true⟩
def B : IntegerCode := ⟨1, false⟩
def h : IntegerCode := ⟨2, true⟩
def H : IntegerCode := ⟨2, false⟩
def i : IntegerCode := ⟨4, true⟩
def I : IntegerCode := ⟨4, false⟩
end IntegerCode

def integerOf (order : ByteOrder) (code : IntegerCode) (data : Bytes) : Int :=
  let ordered := match order with
    | .little => data
    | .big => data.reverse
  if code.signed then signedOf ordered else unsignedOf ordered

def integerValues (order : ByteOrder) : List IntegerCode → Bytes → List Int
  | [], _ => []
  | code :: codes, data =>
    integerOf order code (data.take code.width) ::
      integerValues order codes (data.drop code.width)

/-- The format of a sequence of integers without padding (`<` or `>`). -/
def integers (order : ByteOrder) (codes : List IntegerCode) : Struct :=
  ⟨(codes.map IntegerCode.width).sum, fun data => (integerValues order codes data).map .int⟩

/-- `"<c"` for one integer character `c`. -/
def little (code : IntegerCode) : Struct :=
  ⟨code.width, fun data => [.int (integerOf .little code data)]⟩

@[simp] theorem little_size (code : IntegerCode) : (little code).size = code.width := rfl

@[simp] theorem length_integerValues (order : ByteOrder) (codes : List IntegerCode)
    (data : Bytes) : (integerValues order codes data).length = codes.length := by
  induction codes generalizing data with
  | nil => rfl
  | cons code codes ih => simp [integerValues, ih]

/-- `struct.unpack_from(data, offset)`. -/
def Struct.unpackFrom (format : Struct) (data : Bytes) (offset : Nat) : Raises (List Value) :=
  if offset + format.size ≤ data.length then
    .ok (format.unpack (slice data offset (offset + format.size)))
  else .error ⟨.structError, "unpack_from requires a buffer of at least " ++
    toString (offset + format.size) ++ " bytes"⟩

/-- `struct.unpack("<c", data)[0]` for one integer character `c`. -/
def unpackInteger (code : IntegerCode) (data : Bytes) : Raises Int :=
  if data.length = code.width then .ok (integerOf .little code data)
  else .error ⟨.structError, "unpack requires a buffer of " ++ toString code.width ++ " bytes"⟩

/-- `struct.unpack_from("<c", data, offset)[0]` for one integer character `c`. -/
def unpackIntegerFrom (code : IntegerCode) (data : Bytes) (offset : Nat) : Raises Int :=
  if offset + code.width ≤ data.length then
    .ok (integerOf .little code (slice data offset (offset + code.width)))
  else .error ⟨.structError, "unpack_from requires a buffer of at least " ++
    toString (offset + code.width) ++ " bytes"⟩

/-- The little-endian integer at an offset of a byte string. -/
def integerAt (code : IntegerCode) (data : Bytes) (offset : Nat) : Int :=
  integerOf .little code (slice data offset (offset + code.width))

/-- The first of several integers, and the bytes of the others. -/
theorem integerValues_cons_slice (code : IntegerCode) (codes : List IntegerCode) (data : Bytes)
    {offset stop : Nat} (within : offset + code.width ≤ stop) :
    integerValues .little (code :: codes) (slice data offset stop) =
      integerAt code data offset ::
        integerValues .little codes (slice data (offset + code.width) stop) := by
  have first : (slice data offset stop).take code.width =
      slice data offset (offset + code.width) := by
    rw [slice, slice, Nat.add_sub_cancel_left, List.take_take, Nat.min_eq_left (by omega)]
  have later : (slice data offset stop).drop code.width =
      slice data (offset + code.width) stop := by
    rw [slice, slice, List.drop_take, List.drop_drop, Nat.sub_sub]
  rw [integerValues, first, later, integerAt]

/-- A run of equal codes reads equally spaced integers. -/
theorem integerValues_replicate (code : IntegerCode) (data : Bytes) (count offset : Nat) :
    integerValues .little (List.replicate count code)
        (slice data offset (offset + count * code.width)) =
      (List.range count).map fun i => integerAt code data (offset + i * code.width) := by
  induction count generalizing offset with
  | zero => rfl
  | succ count ih =>
    have stop : offset + (count + 1) * code.width = offset + code.width + count * code.width := by
      rw [Nat.add_mul]
      omega
    have within : offset + code.width ≤ offset + code.width + count * code.width :=
      Nat.le_add_right _ _
    rw [List.replicate_succ, stop, integerValues_cons_slice code _ data within, ih,
      List.range_succ_eq_map, List.map_cons, List.map_map]
    refine congrArg₂ List.cons (by simp) (List.map_congr_left fun i _ => ?_)
    have place : offset + code.width + i * code.width = offset + (i + 1) * code.width := by
      rw [Nat.add_mul]
      omega
    simp only [Function.comp_apply, place, Nat.succ_eq_add_one]

theorem unpackInteger_slice {code : IntegerCode} {data : Bytes} {offset : Nat}
    (fits : offset + code.width ≤ data.length) :
    unpackInteger code (slice data offset (offset + code.width)) =
      .ok (integerAt code data offset) := by
  have exact : (slice data offset (offset + code.width)).length = code.width := by
    rw [length_slice fits]
    omega
  exact if_pos exact

theorem unpackIntegerFrom_eq {code : IntegerCode} {data : Bytes} {offset : Nat}
    (fits : offset + code.width ≤ data.length) :
    unpackIntegerFrom code data offset = .ok (integerAt code data offset) := if_pos fits

/-- `unpacked[0] if len(unpacked) == 1 else unpacked`. -/
def single : List Value → Value
  | [v] => v
  | vs => .tuple vs

theorem single_of_length_ne_one {vs : List Value} (h : vs.length ≠ 1) :
    single vs = .tuple vs := by
  match vs, h with
  | [], _ => rfl
  | _ :: _ :: _, _ => rfl

/-! ### Converters -/

abbrev Converter := Value → Raises Value

def identity : Converter := .ok

/-- `float(value)` for numbers. -/
def toFloat : Converter := fun v =>
  match v.toRat? with
  | some q => .ok (.float q)
  | Option.none => .error ⟨.typeError, "float() argument must be a string or a real number"⟩

/-- `value != 0`. -/
def nonzero : Converter := fun v =>
  match v.toRat? with
  | some q => .ok (.bool (decide (q ≠ 0)))
  | Option.none => .ok (.bool true)

/-- `bool(n & (1 << bit_number))`, for negative `n` too. -/
def hasBit (n : Int) (bitNumber : Nat) : Bool := n / 2 ^ bitNumber % 2 = 1

/-- `bool(value & (1 << bit_number))`. -/
def bit (bitNumber : Nat) : Converter := fun v =>
  match v.toInt? with
  | some n => .ok (.bool (hasBit n bitNumber))
  | Option.none => .error (unsupported "&")

/-- `value * multiplier` for an integer multiplier. -/
def multiplyBy (multiplier : Int) : Converter := fun v =>
  match v.toInt?, v.toRat? with
  | some n, _ => .ok (.int (n * multiplier))
  | Option.none, some q => .ok (.float (q * multiplier))
  | Option.none, Option.none => .error (unsupported "*")

/-- `value / divisor`. -/
def divideBy (divisor : ℚ) : Converter := fun v =>
  match v.toRat? with
  | some q => .ok (.float (q / divisor))
  | Option.none => .error (unsupported "/")

/-- `[value / divisor for value in values]`. -/
def divideEachBy (divisor : ℚ) : Converter := fun v =>
  match v with
  | .tuple vs | .list vs => (vs.mapM (divideBy divisor)).map .list
  | _ => .error ⟨.typeError, "object is not iterable"⟩

@[simp] theorem toInt?_int (n : Int) : (Value.int n).toInt? = some n := rfl
@[simp] theorem toRat?_int (n : Int) : (Value.int n).toRat? = some (n : ℚ) := rfl

@[simp] theorem toFloat_int (n : Int) : toFloat (.int n) = .ok (.float n) := rfl

@[simp] theorem nonzero_int (n : Int) : nonzero (.int n) = .ok (.bool (decide (n ≠ 0))) := by
  simp [nonzero]

@[simp] theorem bit_int (k : Nat) (n : Int) : bit k (.int n) = .ok (.bool (hasBit n k)) := rfl

@[simp] theorem multiplyBy_int (m n : Int) : multiplyBy m (.int n) = .ok (.int (n * m)) := rfl

@[simp] theorem divideBy_int (d : ℚ) (n : Int) : divideBy d (.int n) = .ok (.float (n / d)) := rfl

private theorem mapM_divideBy_int (d : ℚ) (ns : List Int) :
    (ns.map Value.int).mapM (divideBy d) = .ok (ns.map fun n : Int => .float ((n : ℚ) / d)) := by
  induction ns with
  | nil => rfl
  | cons n ns ih => simp [ih]

@[simp] theorem divideEachBy_tuple (d : ℚ) (ns : List Int) :
    divideEachBy d (.tuple (ns.map Value.int)) =
      .ok (.list (ns.map fun n : Int => .float ((n : ℚ) / d))) := by
  simp only [divideEachBy, mapM_divideBy_int]
  rfl

end MarstekBle.Data
