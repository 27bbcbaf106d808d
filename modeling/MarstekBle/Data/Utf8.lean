/- module: Data/Utf8
   digest: UTF-8 decoding that drops the bytes it cannot decode. -/

import MarstekBle.Data.Text

set_option autoImplicit false
set_option relaxedAutoImplicit false

namespace MarstekBle.Data

/-- `data.decode("utf-8", errors="ignore")`. The decoder skips the longest start of a
character at once; its bytes after the first start no character, so one at a time is the same. -/
def decodeUtf8Ignore : Bytes → Text
  | [] => []
  | a :: rest =>
    if a.toNat < 0x80 then Char.ofNat a.toNat :: decodeUtf8Ignore rest
    else match rest with
      | [] => []
      | b :: more => match utf8Two a b with
        | some ch => ch :: decodeUtf8Ignore more
        | none => match more with
          | [] => decodeUtf8Ignore [b]
          | c :: more => match utf8Three a b c with
            | some ch => ch :: decodeUtf8Ignore more
            | none => match more with
              | [] => decodeUtf8Ignore [b, c]
              | d :: more => match utf8Four a b c d with
                | some ch => ch :: decodeUtf8Ignore more
                | none => decodeUtf8Ignore (b :: c :: d :: more)

/-- A continuation byte starts no character. -/
theorem decodeUtf8Ignore_continuation {a : Byte} (inside : isContinuation a = true)
    (rest : Bytes) : decodeUtf8Ignore (a :: rest) = decodeUtf8Ignore rest := by
  have bounds : 0x80 ≤ a.toNat ∧ a.toNat ≤ 0xBF := by
    simpa [isContinuation] using inside
  have notAscii : ¬ a.toNat < 0x80 := Nat.not_lt.mpr bounds.1
  have two : ∀ b, utf8Two a b = none := fun b => if_neg fun leads => by omega
  have three : ∀ b c, utf8Three a b c = none := fun b c => if_neg fun leads => by omega
  have four : ∀ b c d, utf8Four a b c d = none := fun b c d => if_neg fun leads => by omega
  rw [decodeUtf8Ignore.eq_def]
  dsimp only
  rw [if_neg notAscii]
  rcases rest with _ | ⟨b, _ | ⟨c, _ | ⟨d, more⟩⟩⟩
  · rfl
  · simp only [two]
  · simp only [two, three]
  · simp only [two, three, four]

/-- On well-formed bytes the decoder drops nothing. -/
theorem decodeUtf8Ignore_of_valid {data : Bytes} {text : Text}
    (valid : decodeUtf8 data = some text) : decodeUtf8Ignore data = text := by
  fun_induction decodeUtf8Ignore data generalizing text with
  | case1 =>
    simp only [decodeUtf8, Option.some.injEq] at valid
    exact valid
  | case2 a rest ascii ih =>
    rw [decodeUtf8.eq_def] at valid
    simp only [ascii, if_true, Option.map_eq_some_iff] at valid
    obtain ⟨later, decoded, rfl⟩ := valid
    rw [ih decoded]
  | case3 a high =>
    rw [decodeUtf8.eq_def] at valid
    simp [high] at valid
  | case4 a high b more ch two ih =>
    rw [decodeUtf8.eq_def] at valid
    simp only [high, if_false, two, Option.map_eq_some_iff] at valid
    obtain ⟨later, decoded, rfl⟩ := valid
    rw [ih decoded]
  | case5 a high b two ih =>
    rw [decodeUtf8.eq_def] at valid
    simp [high, two] at valid
  | case6 a high b two c more ch three ih =>
    rw [decodeUtf8.eq_def] at valid
    simp only [high, if_false, two, three, Option.map_eq_some_iff] at valid
    obtain ⟨later, decoded, rfl⟩ := valid
    rw [ih decoded]
  | case7 a high b two c three ih =>
    rw [decodeUtf8.eq_def] at valid
    simp [high, two, three] at valid
  | case8 a high b two c three d more ch four ih =>
    rw [decodeUtf8.eq_def] at valid
    simp only [high, if_false, two, three, four, Option.map_eq_some_iff] at valid
    obtain ⟨later, decoded, rfl⟩ := valid
    rw [ih decoded]
  | case9 a high b two c three d more four ih =>
    rw [decodeUtf8.eq_def] at valid
    simp [high, two, three, four] at valid

example : decodeUtf8Ignore [0x41, 0xFF, 0xE2, 0x82, 0xAC, 0xE2, 0x82, 0x42] = ['A', '€', 'B'] := by
  decide

end MarstekBle.Data
