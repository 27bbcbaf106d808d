/- module: Data/Bytes
   digest: Byte strings, slices, XOR, little-endian integers and hexadecimal text. -/

import Mathlib.Data.Nat.Digits.Defs
import Mathlib.Data.List.Basic

set_option autoImplicit false
set_option relaxedAutoImplicit false

namespace MarstekBle.Data

abbrev Byte := UInt8

/-- A `bytes` object. -/
abbrev Bytes := List Byte

/-- `data[start:stop]` for `start ≤ stop`. -/
def slice (data : Bytes) (start stop : Nat) : Bytes := (data.drop start).take (stop - start)

theorem length_slice {data : Bytes} {start stop : Nat} (h : stop ≤ data.length) :
    (slice data start stop).length = stop - start := by
  simp [slice]
  omega

/-- The running XOR of the frame builders and validators, started at zero. -/
def checksum (data : Bytes) : Byte := data.foldl (fun acc b => acc ^^^ b) 0

/-- Unsigned little-endian integer. -/
def unsignedOf (data : Bytes) : Nat := Nat.ofDigits 256 (data.map UInt8.toNat)

/-- The bytes that follow count for more. -/
theorem unsignedOf_append (low high : Bytes) :
    unsignedOf (low ++ high) = unsignedOf low + 256 ^ low.length * unsignedOf high := by
  rw [unsignedOf, List.map_append, Nat.ofDigits_append, List.length_map]
  rfl

theorem slice_append (data : Bytes) {start middle stop : Nat} (first : start ≤ middle)
    (second : middle ≤ stop) :
    slice data start middle ++ slice data middle stop = slice data start stop := by
  have parts : stop - start = (middle - start) + (stop - middle) := by omega
  have place : start + (middle - start) = middle := by omega
  rw [slice, slice, slice, parts, List.take_add, List.drop_drop, place]

/-- Two's complement little-endian integer. -/
def signedOf (data : Bytes) : Int :=
  if 2 * unsignedOf data < 256 ^ data.length then unsignedOf data
  else (unsignedOf data : Int) - 256 ^ data.length

def hexDigit (n : Nat) : Char :=
  if n < 10 then Char.ofNat (48 + n) else Char.ofNat (87 + n)

/-- `data.hex()`. -/
def hex (data : Bytes) : String :=
  String.ofList (data.flatMap fun b => [hexDigit (b.toNat / 16), hexDigit (b.toNat % 16)])

def upperHexDigit (n : Nat) : Char :=
  if n < 10 then Char.ofNat (48 + n) else Char.ofNat (55 + n)

/-- `f"0x{value:02X}"` for one byte. -/
def commandHex (value : Byte) : String :=
  String.ofList ['0', 'x', upperHexDigit (value.toNat / 16), upperHexDigit (value.toNat % 16)]

example : hex [0x73, 0x0A, 0xFF] = "730aff" := by decide
example : commandHex 0x1C = "0x1C" := by decide
example : signedOf [0xFE, 0xFF] = -2 := by decide

end MarstekBle.Data
