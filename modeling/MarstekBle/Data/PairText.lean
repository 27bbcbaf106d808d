/- module: Data/PairText
   digest: Texts of comma-separated pairs: what their segments say, and how pairs are written. -/

import Mathlib.Data.List.TakeWhile
import MarstekBle.Data.Text

set_option autoImplicit false
set_option relaxedAutoImplicit false

namespace MarstekBle.Data

/-- The trimmed pairs of the segments that hold the separator. -/
def pairsOf (separator : Char) (text : Text) : List (Text × Text) :=
  (split ',' text).filterMap fun segment =>
    (splitOnce separator segment).map fun pair => (strip pair.1, strip pair.2)

/-! ### Splitting at the first separator -/

/-- The key ends where the separator first stands. -/
theorem splitOnce_eq_some_iff {separator : Char} {text key value : Text} :
    splitOnce separator text = some (key, value) ↔
      text = key ++ separator :: value ∧ separator ∉ key := by
  have keyOf : ∀ key value : Text, separator ∉ key →
      (key ++ separator :: value).takeWhile (· != separator) = key ∧
      (key ++ separator :: value).dropWhile (· != separator) = separator :: value := by
    intro key value absent
    have passes : ∀ c ∈ key, (c != separator) = true := by
      intro c inside
      rw [bne_iff_ne]
      exact fun same => absent (same ▸ inside)
    have stops : (separator != separator) = false := by simp
    rw [List.takeWhile_append_of_pos passes, List.dropWhile_append_of_pos passes,
      List.takeWhile_cons, List.dropWhile_cons, stops]
    simp
  constructor
  · intro found
    rw [splitOnce] at found
    by_cases inside : separator ∈ text
    · rw [if_pos inside, Option.some.injEq] at found
      obtain ⟨before, after, parts, absent⟩ := List.eq_append_cons_of_mem inside
      obtain ⟨first, rest⟩ := keyOf before after absent
      rw [parts, first, rest] at found
      obtain ⟨rfl, rfl⟩ := Prod.mk.inj found
      exact ⟨parts, absent⟩
    · rw [if_neg inside] at found
      cases found
  · rintro ⟨rfl, absent⟩
    obtain ⟨first, rest⟩ := keyOf key value absent
    have inside : separator ∈ key ++ separator :: value := by simp
    rw [splitOnce, if_pos inside, first, rest, List.tail_cons]

/-! ### Blanks around a text -/

theorem strip_cons {c : Char} (blank : isWhitespace c = true) (text : Text) :
    strip (c :: text) = strip text := by
  rw [strip, stripBy, List.dropWhile_cons_of_pos blank]
  rfl

theorem strip_snoc {c : Char} (blank : isWhitespace c = true) (text : Text) :
    strip (text ++ [c]) = strip text := by
  rw [strip, stripBy, List.dropWhile_append]
  by_cases empty : (text.dropWhile isWhitespace).isEmpty
  · have left : text.dropWhile isWhitespace = [] := List.isEmpty_iff.mp empty
    rw [if_pos empty, List.dropWhile_cons_of_pos blank, strip, stripBy, left]
    rfl
  · rw [if_neg empty, List.reverse_append, List.reverse_singleton, List.singleton_append,
      List.dropWhile_cons_of_pos blank]
    rfl

/-- A text is what stripping leaves, between two runs of blanks. -/
theorem exists_strip (text : Text) : ∃ lead trail, text = lead ++ strip text ++ trail ∧
    (∀ c ∈ lead, isWhitespace c = true) ∧ ∀ c ∈ trail, isWhitespace c = true := by
  have blanks : ∀ t : Text, ∀ c ∈ t.takeWhile isWhitespace, isWhitespace c = true :=
    fun t c inside => List.mem_takeWhile_imp inside
  let core := text.dropWhile isWhitespace
  have right : core = strip text ++ (core.reverse.takeWhile isWhitespace).reverse := by
    rw [strip, stripBy, ← List.reverse_append, List.takeWhile_append_dropWhile,
      List.reverse_reverse]
  refine ⟨text.takeWhile isWhitespace, (core.reverse.takeWhile isWhitespace).reverse, ?_,
    blanks text, fun c inside => blanks core.reverse c (List.mem_reverse.mp inside)⟩
  rw [List.append_assoc, ← right]
  exact List.takeWhile_append_dropWhile.symm

private theorem splitOnce_eq_none {separator : Char} {text : Text}
    (absent : separator ∉ text) : splitOnce separator text = none := if_neg absent

private theorem not_mem_of_splitOnce {separator : Char} {text : Text}
    (nothing : splitOnce separator text = none) : separator ∉ text := by
  intro inside
  rw [splitOnce, if_pos inside] at nothing
  cases nothing

private theorem splitOnce_cons {separator c : Char} (other : c ≠ separator) (segment : Text) :
    splitOnce separator (c :: segment) =
      (splitOnce separator segment).map fun pair => (c :: pair.1, pair.2) := by
  cases found : splitOnce separator segment with
  | some pair =>
    obtain ⟨parts, absent⟩ := splitOnce_eq_some_iff.mp found
    have outside : separator ∉ c :: pair.1 := by
      rw [List.mem_cons, not_or]
      exact ⟨other.symm, absent⟩
    rw [Option.map_some, splitOnce_eq_some_iff]
    exact ⟨by rw [parts, List.cons_append], outside⟩
  | none =>
    have outside : separator ∉ c :: segment := by
      rw [List.mem_cons, not_or]
      exact ⟨other.symm, not_mem_of_splitOnce found⟩
    exact splitOnce_eq_none outside

private theorem splitOnce_snoc {separator c : Char} (other : c ≠ separator) (segment : Text) :
    splitOnce separator (segment ++ [c]) =
      (splitOnce separator segment).map fun pair => (pair.1, pair.2 ++ [c]) := by
  cases found : splitOnce separator segment with
  | some pair =>
    obtain ⟨parts, absent⟩ := splitOnce_eq_some_iff.mp found
    rw [Option.map_some, splitOnce_eq_some_iff]
    exact ⟨by rw [parts, List.append_assoc, List.cons_append], absent⟩
  | none =>
    have outside : separator ∉ segment ++ [c] := by
      rw [List.mem_append, List.mem_singleton, not_or]
      exact ⟨not_mem_of_splitOnce found, other.symm⟩
    exact splitOnce_eq_none outside

private theorem split_cons {c : Char} (plain : c ≠ ',') (text : Text) :
    ∃ first rest, split ',' text = first :: rest ∧
      split ',' (c :: text) = (c :: first) :: rest := by
  cases parts : text.splitOn ',' with
  | nil => exact absurd parts (List.splitOn_ne_nil ',' text)
  | cons first rest =>
    refine ⟨first, rest, parts, ?_⟩
    rw [split, List.splitOn_cons_eq_if_modifyHead, parts, if_neg (by simpa using plain)]
    rfl

private theorem split_snoc {c : Char} (plain : c ≠ ',') (text : Text) :
    ∃ rest last, split ',' text = rest ++ [last] ∧
      split ',' (text ++ [c]) = rest ++ [last ++ [c]] := by
  induction text with
  | nil =>
    obtain ⟨first, rest, none, one⟩ := split_cons plain []
    rw [split, List.splitOn_nil] at none
    obtain ⟨rfl, rfl⟩ := List.cons.inj none
    exact ⟨[], [], rfl, one⟩
  | cons d text ih =>
    obtain ⟨rest, last, whole, longer⟩ := ih
    by_cases comma : d = ','
    · subst comma
      have cut : ∀ t : Text, split ',' (',' :: t) = [] :: split ',' t := fun t =>
        (List.splitOn_cons_eq_if_modifyHead ',' t).trans (if_pos (by simp))
      exact ⟨[] :: rest, last, by rw [cut, whole, List.cons_append],
        by rw [List.cons_append, cut, longer, List.cons_append]⟩
    · obtain ⟨first, others, parts, grown⟩ := split_cons comma text
      obtain ⟨first', others', parts', grown'⟩ := split_cons comma (text ++ [c])
      rw [List.cons_append, grown, grown']
      rw [parts] at whole
      rw [parts'] at longer
      cases rest with
      | nil =>
        obtain ⟨rfl, rfl⟩ := List.cons.inj whole
        obtain ⟨rfl, rfl⟩ := List.cons.inj longer
        exact ⟨[], _, rfl, rfl⟩
      | cons r rest =>
        obtain ⟨rfl, rfl⟩ := List.cons.inj whole
        obtain ⟨rfl, rfl⟩ := List.cons.inj longer
        exact ⟨_ :: rest, last, rfl, rfl⟩

theorem isWhitespace_comma : isWhitespace ',' = false := by decide

private theorem ne_of_blank {c d : Char} (blank : isWhitespace c = true)
    (solid : isWhitespace d = false) : c ≠ d := by
  rintro rfl
  rw [blank] at solid
  cases solid

private theorem pairsOf_cons {separator c : Char} (solid : isWhitespace separator = false)
    (blank : isWhitespace c = true) (text : Text) :
    pairsOf separator (c :: text) = pairsOf separator text := by
  obtain ⟨first, rest, parts, grown⟩ := split_cons (ne_of_blank blank isWhitespace_comma) text
  have same : (splitOnce separator (c :: first)).map (fun pair => (strip pair.1, strip pair.2)) =
      (splitOnce separator first).map fun pair => (strip pair.1, strip pair.2) := by
    rw [splitOnce_cons (ne_of_blank blank solid), Option.map_map]
    refine congrArg (fun f => Option.map f _) (funext fun pair => ?_)
    simp only [Function.comp_apply, strip_cons blank]
  rw [pairsOf, pairsOf, parts, grown, List.filterMap_cons, List.filterMap_cons, same]

private theorem pairsOf_snoc {separator c : Char} (solid : isWhitespace separator = false)
    (blank : isWhitespace c = true) (text : Text) :
    pairsOf separator (text ++ [c]) = pairsOf separator text := by
  obtain ⟨rest, last, parts, grown⟩ := split_snoc (ne_of_blank blank isWhitespace_comma) text
  have same : (splitOnce separator (last ++ [c])).map (fun pair => (strip pair.1, strip pair.2)) =
      (splitOnce separator last).map fun pair => (strip pair.1, strip pair.2) := by
    rw [splitOnce_snoc (ne_of_blank blank solid), Option.map_map]
    refine congrArg (fun f => Option.map f _) (funext fun pair => ?_)
    simp only [Function.comp_apply, strip_snoc blank]
  rw [pairsOf, pairsOf, parts, grown, List.filterMap_append, List.filterMap_append,
    List.filterMap_cons, List.filterMap_cons, same]

/-- Blanks around the whole text are blanks around keys and values. -/
theorem pairsOf_strip {separator : Char} (solid : isWhitespace separator = false) (text : Text) :
    pairsOf separator (strip text) = pairsOf separator text := by
  have leading : ∀ lead core : Text, (∀ c ∈ lead, isWhitespace c = true) →
      pairsOf separator (lead ++ core) = pairsOf separator core := by
    intro lead core blanks
    induction lead with
    | nil => rfl
    | cons c lead ih =>
      have here := blanks c List.mem_cons_self
      have later := ih fun d inside => blanks d (List.mem_cons_of_mem c inside)
      rw [List.cons_append, pairsOf_cons solid here, later]
  have trailing : ∀ trail core : Text, (∀ c ∈ trail, isWhitespace c = true) →
      pairsOf separator (core ++ trail) = pairsOf separator core := by
    intro trail core blanks
    induction trail generalizing core with
    | nil => rw [List.append_nil]
    | cons c trail ih =>
      have here := blanks c List.mem_cons_self
      have later := ih (core ++ [c]) fun d inside => blanks d (List.mem_cons_of_mem c inside)
      rw [List.append_assoc, List.singleton_append] at later
      rw [later, pairsOf_snoc solid here]
  obtain ⟨lead, trail, parts, before, after⟩ := exists_strip text
  have whole : pairsOf separator text = pairsOf separator (lead ++ strip text ++ trail) :=
    congrArg (pairsOf separator) parts
  rw [whole, trailing trail _ after, leading lead _ before]

/-! ### Writing pairs -/

/-- A pair that a text of pairs can hold: trimmed ASCII texts, the key without comma
or separator, the value without comma. -/
structure TextPair (separator : Char) where
  key : Text
  value : Text
  key_trimmed : strip key = key
  value_trimmed : strip value = value
  key_ascii : ∀ c ∈ key, c.toNat < 128
  value_ascii : ∀ c ∈ value, c.toNat < 128
  key_plain : ',' ∉ key ∧ separator ∉ key
  value_plain : ',' ∉ value

def TextPair.text {separator : Char} (pair : TextPair separator) : Text :=
  pair.key ++ separator :: pair.value

/-- The texts of the pairs with commas between them. -/
def encodePairs {separator : Char} (pairs : List (TextPair separator)) : Text :=
  [','].intercalate (pairs.map TextPair.text)

variable {separator : Char}

theorem TextPair.comma_not_mem (other : separator ≠ ',') (pair : TextPair separator) :
    ',' ∉ pair.text := by
  rw [TextPair.text, List.mem_append, List.mem_cons, not_or, not_or]
  exact ⟨pair.key_plain.1, other.symm, pair.value_plain⟩

theorem TextPair.splitOnce_text (pair : TextPair separator) :
    splitOnce separator pair.text = some (pair.key, pair.value) :=
  splitOnce_eq_some_iff.mpr ⟨rfl, pair.key_plain.2⟩

/-- Reading the pairs of a text gives back the pairs it was written from. -/
theorem pairsOf_encodePairs (other : separator ≠ ',') (pairs : List (TextPair separator)) :
    pairsOf separator (encodePairs pairs) = pairs.map fun pair => (pair.key, pair.value) := by
  cases pairs with
  | nil => rfl
  | cons pair pairs =>
    have plain : ∀ text ∈ (pair :: pairs).map TextPair.text, ',' ∉ text := by
      intro text member
      obtain ⟨source, _, rfl⟩ := List.mem_map.mp member
      exact source.comma_not_mem other
    have parts : split ',' (encodePairs (pair :: pairs)) = (pair :: pairs).map TextPair.text :=
      List.splitOn_intercalate ',' plain (by simp)
    have read : ∀ source : TextPair separator,
        (splitOnce separator source.text).map (fun e => (strip e.1, strip e.2)) =
          some (source.key, source.value) := by
      intro source
      rw [source.splitOnce_text, Option.map_some, source.key_trimmed, source.value_trimmed]
    rw [pairsOf, parts, List.filterMap_map]
    simp only [Function.comp_def, read]
    exact congrFun List.filterMap_eq_map (pair :: pairs)

/-! ### ASCII -/

/-- `text.encode("ascii")` of an ASCII text. -/
def encodeAscii (text : Text) : Bytes := text.map fun c => UInt8.ofNat c.toNat

private theorem ofNat_encodeAscii {text : Text} (ascii : ∀ c ∈ text, c.toNat < 128) :
    (encodeAscii text).map (fun b => Char.ofNat b.toNat) = text := by
  rw [encodeAscii, List.map_map]
  refine (List.map_congr_left fun c inside => ?_).trans (List.map_id text)
  have small := ascii c inside
  have byte : (UInt8.ofNat c.toNat).toNat = c.toNat := by
    rw [UInt8.toNat_ofNat']
    omega
  rw [Function.comp_apply, byte, Char.ofNat_toNat, id]

private theorem isAscii_encodeAscii {text : Text} (ascii : ∀ c ∈ text, c.toNat < 128) :
    ∀ b ∈ encodeAscii text, isAscii b = true := by
  intro b member
  obtain ⟨c, inside, rfl⟩ := List.mem_map.mp member
  have small := ascii c inside
  rw [isAscii, decide_eq_true_eq, UInt8.toNat_ofNat']
  omega

theorem decodeAscii_encodeAscii {text : Text} (ascii : ∀ c ∈ text, c.toNat < 128) :
    decodeAscii (encodeAscii text) = some text := by
  have all : (encodeAscii text).all isAscii = true :=
    List.all_eq_true.mpr (isAscii_encodeAscii ascii)
  rw [decodeAscii, if_pos all, ofNat_encodeAscii ascii]

theorem decodeAsciiIgnore_encodeAscii {text : Text} (ascii : ∀ c ∈ text, c.toNat < 128) :
    decodeAsciiIgnore (encodeAscii text) = text := by
  rw [decodeAsciiIgnore, List.filter_eq_self.mpr (isAscii_encodeAscii ascii),
    ofNat_encodeAscii ascii]

theorem ascii_encodePairs (ascii : separator.toNat < 128) (pairs : List (TextPair separator)) :
    ∀ c ∈ encodePairs pairs, c.toNat < 128 := by
  have each : ∀ pair : TextPair separator, ∀ c ∈ pair.text, c.toNat < 128 := by
    intro pair c inside
    rw [TextPair.text, List.mem_append, List.mem_cons] at inside
    rcases inside with key | rfl | value
    · exact pair.key_ascii c key
    · exact ascii
    · exact pair.value_ascii c value
  induction pairs with
  | nil => simp [encodePairs]
  | cons pair pairs ih =>
    intro c inside
    cases pairs with
    | nil => exact each pair c (by simpa [encodePairs] using inside)
    | cons next pairs =>
      have parts : encodePairs (pair :: next :: pairs) =
          pair.text ++ ',' :: encodePairs (next :: pairs) := by
        simp [encodePairs]
      rw [parts, List.mem_append, List.mem_cons] at inside
      rcases inside with here | rfl | later
      · exact each pair c here
      · decide
      · exact ih c later

end MarstekBle.Data
