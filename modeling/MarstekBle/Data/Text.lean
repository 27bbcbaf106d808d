/- module: Data/Text
   digest: Decoded payload text: ASCII and UTF-8 decoding, stripping, splitting, int(). -/

import MarstekBle.Data.Bytes

set_option autoImplicit false
set_option relaxedAutoImplicit false

namespace MarstekBle.Data

/-- A decoded `str`, as its sequence of code points. -/
abbrev Text := List Char

def isAscii (b : Byte) : Bool := b.toNat < 128

/-- `data.decode("ascii", errors="ignore")`. -/
def decodeAsciiIgnore (data : Bytes) : Text :=
  (data.filter isAscii).map fun b => Char.ofNat b.toNat

/-- `data.decode("ascii")`; `none` is the `UnicodeDecodeError`. -/
def decodeAscii (data : Bytes) : Option Text :=
  if data.all isAscii then some (data.map fun b => Char.ofNat b.toNat) else none

def isContinuation (b : Byte) : Bool := 0x80 ≤ b.toNat && b.toNat ≤ 0xBF

private def lowBits (b : Byte) : Nat := b.toNat % 64

/-- The code point a two-byte sequence encodes, if it is well formed. -/
def utf8Two (a b : Byte) : Option Char :=
  if 0xC2 ≤ a.toNat ∧ a.toNat ≤ 0xDF ∧ isContinuation b then
    some (Char.ofNat ((a.toNat - 0xC0) * 64 + lowBits b))
  else none

/-- Three bytes; overlong forms and surrogates are excluded. -/
def utf8Three (a b c : Byte) : Option Char :=
  if 0xE0 ≤ a.toNat ∧ a.toNat ≤ 0xEF ∧ isContinuation b ∧ isContinuation c ∧
      (a.toNat = 0xE0 → 0xA0 ≤ b.toNat) ∧ (a.toNat = 0xED → b.toNat ≤ 0x9F) then
    some (Char.ofNat ((a.toNat - 0xE0) * 4096 + lowBits b * 64 + lowBits c))
  else none

/-- Four bytes; overlong forms and values above U+10FFFF are excluded. -/
def utf8Four (a b c d : Byte) : Option Char :=
  if 0xF0 ≤ a.toNat ∧ a.toNat ≤ 0xF4 ∧ isContinuation b ∧ isContinuation c ∧
      isContinuation d ∧ (a.toNat = 0xF0 → 0x90 ≤ b.toNat) ∧
      (a.toNat = 0xF4 → b.toNat ≤ 0x8F) then
    some (Char.ofNat ((a.toNat - 0xF0) * 262144 + lowBits b * 4096 + lowBits c * 64 + lowBits d))
  else none

/-- `data.decode("utf-8")`; `none` is the `UnicodeDecodeError`. -/
def decodeUtf8 : Bytes → Option Text
  | [] => some []
  | a :: rest =>
    if a.toNat < 0x80 then (decodeUtf8 rest).map (Char.ofNat a.toNat :: ·)
    else match rest with
      | [] => none
      | b :: rest => match utf8Two a b with
        | some ch => (decodeUtf8 rest).map (ch :: ·)
        | none => match rest with
          | [] => none
          | c :: rest => match utf8Three a b c with
            | some ch => (decodeUtf8 rest).map (ch :: ·)
            | none => match rest with
              | [] => none
              | d :: rest => match utf8Four a b c d with
                | some ch => (decodeUtf8 rest).map (ch :: ·)
                | none => none

/-- The characters `str.strip()` removes. -/
def isWhitespace (c : Char) : Bool :=
  let n := c.toNat
  (9 ≤ n && n ≤ 13) || (28 ≤ n && n ≤ 32) || n == 0x85 || n == 0xA0 || n == 0x1680 ||
    (0x2000 ≤ n && n ≤ 0x200A) || n == 0x2028 || n == 0x2029 || n == 0x202F ||
    n == 0x205F || n == 0x3000

/-- Remove the leading and trailing characters that satisfy `p`. -/
def stripBy (p : Char → Bool) (text : Text) : Text :=
  ((text.dropWhile p).reverse.dropWhile p).reverse

/-- `text.strip()`. -/
def strip (text : Text) : Text := stripBy isWhitespace text

/-- `text.strip(ch)`. -/
def stripChar (ch : Char) (text : Text) : Text := stripBy (· == ch) text

/-- `text.rstrip(ch)`. -/
def rstripChar (ch : Char) (text : Text) : Text :=
  (text.reverse.dropWhile (· == ch)).reverse

/-- `text.split(sep)` for a one-character separator. -/
def split (sep : Char) (text : Text) : List Text := text.splitOn sep

/-- `key, value = text.split(sep, 1)`; `none` where `sep not in text`. -/
def splitOnce (sep : Char) (text : Text) : Option (Text × Text) :=
  if sep ∈ text then some (text.takeWhile (· != sep), (text.dropWhile (· != sep)).tail)
  else none

private def isDigit (c : Char) : Bool := 48 ≤ c.toNat && c.toNat ≤ 57

/-- Digits with single underscores between them, read after a first digit. -/
def digitsValue (acc : Nat) : Text → Option Nat
  | [] => some acc
  | '_' :: c :: cs => if isDigit c then digitsValue (10 * acc + (c.toNat - 48)) cs else none
  | c :: cs => if isDigit c then digitsValue (10 * acc + (c.toNat - 48)) cs else none

def naturalOf : Text → Option Nat
  | [] => none
  | c :: cs => if isDigit c then digitsValue (c.toNat - 48) cs else none

/-- The blanks `int()` skips in ASCII text; those from U+001C to U+001F, which
`str.strip()` removes, are none of them. -/
def isSpace (c : Char) : Bool := (9 ≤ c.toNat && c.toNat ≤ 13) || c == ' '

/-- `int(text)` on ASCII text; `none` is the `ValueError`. -/
def intOf (text : Text) : Option Int :=
  match stripBy isSpace text with
  | '-' :: cs => (naturalOf cs).map fun n => -(n : Int)
  | '+' :: cs => (naturalOf cs).map Int.ofNat
  | cs => (naturalOf cs).map Int.ofNat

/-- Left-pad with zeros to the given width. -/
def zeroPad (width : Nat) (digits : Text) : Text :=
  List.replicate (width - digits.length) '0' ++ digits

def paddedDigits (base width : Nat) (n : Int) : Text :=
  let digits := (Nat.toDigits base n.natAbs).map Char.toUpper
  if n < 0 then '-' :: zeroPad (width - 1) digits else zeroPad width digits

/-- `f"{n:0<width>d}"`. -/
def paddedDecimal (width : Nat) (n : Int) : Text := paddedDigits 10 width n

/-- `f"{n:0<width>X}"`. -/
def paddedHex (width : Nat) (n : Int) : Text := paddedDigits 16 width n

example : paddedDecimal 4 17 = "0017".toList := by decide
example : paddedHex 2 171 = "AB".toList := by decide
example : intOf " -1_024 ".toList = some (-1024) := by decide
example : intOf "1__0".toList = none := by decide
example : intOf ['\x1C', '7'] = none := by decide
example : splitOnce '=' "ip=a=b".toList = some ("ip".toList, "a=b".toList) := by decide
example : decodeUtf8 [0x41, 0xE2, 0x82, 0xAC] = some ['A', '€'] := by decide

end MarstekBle.Data
