/- module: Protocol/FrameBuffer
   source: standalone_test/marstek_basic_info.py
   digest: The stream reassembler of the standalone tool, and what its two searches find. -/

import MarstekBle.Protocol.Frame

set_option autoImplicit false
set_option relaxedAutoImplicit false

namespace MarstekBle.Protocol

open MarstekBle.Data

namespace FrameBuffer

/-- `_is_complete_valid_frame`. -/
def isCompleteValidFrame (buffer : Bytes) (offset : Nat) : Bool :=
  let remaining := buffer.length - offset
  if remaining < 5 then false
  else if buffer.getD offset 0 ≠ startByte then false
  else
    let frameLen := (buffer.getD (offset + 1) 0).toNat
    if frameLen < 5 ∨ remaining < frameLen then false
    else if buffer.getD (offset + 2) 0 ≠ identifierByte then false
    else checksum (slice buffer offset (offset + frameLen - 1)) ==
      buffer.getD (offset + frameLen - 1) 0

/-- `buffer.find(bytes((START_BYTE,)), start)`. -/
def findStart (buffer : Bytes) (start : Nat) : Option Nat :=
  ((buffer.drop start).findIdx? (· == startByte)).map (start + ·)

/-- The loop over the start bytes; each turn moves on by at least one byte. -/
def findLoop (buffer : Bytes) : Nat → Nat → Option Nat
  | 0, _ => none
  | turns + 1, start => match findStart buffer start with
    | none => none
    | some offset =>
      if isCompleteValidFrame buffer offset then some offset
      else findLoop buffer turns (offset + 1)

/-- `_find_complete_valid_frame`. -/
def findCompleteValidFrame (buffer : Bytes) (start : Nat) : Option Nat :=
  findLoop buffer buffer.length start

/-- How one turn of the loop in `feed` ends: with `break`, with `continue`, or
with a frame taken from the buffer. -/
inductive Turn where
  | stop (buffer : Bytes)
  | skip (buffer : Bytes)
  | emit (frame buffer : Bytes)

def turn (buffer : Bytes) : Turn :=
  if buffer.length < 2 then .stop buffer
  else if buffer.getD 0 0 ≠ startByte then
    match findStart buffer 0 with
    | none => .stop []
    | some nextStart => .skip (buffer.drop nextStart)
  else
    let frameLen := (buffer.getD 1 0).toNat
    if frameLen < 5 then .skip (buffer.drop 1)
    else if buffer.length < frameLen then
      match findCompleteValidFrame buffer 1 with
      | some nextFrame => .skip (buffer.drop nextFrame)
      | none => .stop buffer
    else if isCompleteValidFrame buffer 0 = false then
      match findCompleteValidFrame buffer 1 with
      | some nextFrame => .skip (buffer.drop nextFrame)
      | none => .skip (buffer.drop 1)
    else .emit (buffer.take frameLen) (buffer.drop frameLen)

/-- The `while` loop of `feed`: the frames it returns and the buffer it leaves. -/
def drainLoop : Nat → Bytes → List Bytes × Bytes
  | 0, buffer => ([], buffer)
  | turns + 1, buffer => match turn buffer with
    | .stop kept => ([], kept)
    | .skip kept => drainLoop turns kept
    | .emit frame kept =>
      let (frames, left) := drainLoop turns kept
      (frame :: frames, left)

/-- No turn but the last leaves the buffer as long as it was. -/
def drain (buffer : Bytes) : List Bytes × Bytes := drainLoop buffer.length buffer

/-- `feed`: the frames, and the buffer for the next chunk. -/
def feed (buffer chunk : Bytes) : List Bytes × Bytes := drain (buffer ++ chunk)

/-- The frames of successive chunks. -/
def feedAll : Bytes → List Bytes → List Bytes
  | _, [] => []
  | buffer, chunk :: chunks =>
    let (frames, buffer) := feed buffer chunk
    frames ++ feedAll buffer chunks

/-! ### The searches -/

private theorem getD_eq_iff {b : Bytes} {i : Nat} (inside : i < b.length) (value : Byte) :
    b.getD i 0 = value ↔ b[i]? = some value := by
  simp [List.getD, inside]

/-- The checks at an offset, in terms of the bytes from there on. -/
private theorem isCompleteValidFrame_eq (buffer : Bytes) (offset : Nat) :
    let b := buffer.drop offset
    let frameLen := (b.getD 1 0).toNat
    isCompleteValidFrame buffer offset = true ↔ 5 ≤ b.length ∧ b.getD 0 0 = startByte ∧
      5 ≤ frameLen ∧ frameLen ≤ b.length ∧ b.getD 2 0 = identifierByte ∧
      b.getD (frameLen - 1) 0 = checksum (b.take (frameLen - 1)) := by
  have get : ∀ i, buffer.getD (offset + i) 0 = (buffer.drop offset).getD i 0 := by
    intro i
    simp only [List.getD, List.getElem?_drop]
  have first := get 0
  rw [Nat.add_zero] at first
  dsimp only
  unfold isCompleteValidFrame
  rw [first, get 1, get 2, List.length_drop]
  generalize ((buffer.drop offset).getD 1 0).toNat = frameLen
  dsimp only
  split_ifs with short start sized identifier
  · exact iff_of_false (by simp) fun h => by omega
  · exact iff_of_false (by simp) fun h => start h.2.1
  · exact iff_of_false (by simp) fun h => by omega
  · exact iff_of_false (by simp) fun h => identifier h.2.2.2.2.1
  · have last : offset + frameLen - 1 = offset + (frameLen - 1) := by omega
    rw [last, get, slice, Nat.add_sub_cancel_left, beq_iff_eq]
    push Not at start identifier sized
    constructor
    · exact fun sum => ⟨by omega, start, by omega, by omega, identifier, sum.symm⟩
    · exact fun h => h.2.2.2.2.2.symm

/-- The check finds exactly the frames that start at the offset. -/
theorem isCompleteValidFrame_iff (buffer : Bytes) (offset : Nat) :
    isCompleteValidFrame buffer offset = true ↔
      ∃ frame rest, IsFrame frame ∧ buffer.drop offset = frame ++ rest := by
  refine (isCompleteValidFrame_eq buffer offset).trans ?_
  generalize buffer.drop offset = b
  constructor
  · rintro ⟨long, start, sized, whole, identifier, last⟩
    generalize hlen : (b.getD 1 0).toNat = frameLen at sized whole last
    have length : (b.take frameLen).length = frameLen := List.length_take_of_le whole
    have body : (b.take frameLen).dropLast = b.take (frameLen - 1) := by
      rw [List.dropLast_eq_take, length, List.take_take, Nat.min_eq_left (Nat.sub_le _ _)]
    refine ⟨b.take frameLen, b.drop frameLen, (isFrame_iff _).mpr ?_,
      (List.take_append_drop _ _).symm⟩
    rw [length, body]
    refine ⟨sized, ?_, ?_, ?_, ?_⟩
    · rw [List.getElem?_take_of_lt (by omega)]
      exact (getD_eq_iff (by omega) _).mp start
    · have second := (getD_eq_iff (by omega : 1 < b.length) _).mp rfl
      rw [List.getElem?_take_of_lt (by omega), second, Option.map_some, hlen]
    · rw [List.getElem?_take_of_lt (by omega)]
      exact (getD_eq_iff (by omega) _).mp identifier
    · rw [List.getElem?_take_of_lt (by omega)]
      exact (getD_eq_iff (by omega) _).mp last
  · rintro ⟨frame, rest, isFrame, rfl⟩
    obtain ⟨long, start, sized, identifier, last⟩ := (isFrame_iff frame).mp isFrame
    have get : ∀ i, i < frame.length → ∀ v, frame[i]? = some v → (frame ++ rest).getD i 0 = v := by
      intro i inside v hv
      rw [getD_eq_iff (by simp; omega), List.getElem?_append_left inside, hv]
    have declared : ((frame ++ rest).getD 1 0).toNat = frame.length := by
      obtain ⟨v, hv, hlen⟩ := Option.map_eq_some_iff.mp sized
      rw [get 1 (by omega) v hv, hlen]
    rw [declared, List.take_append_of_le_length (by omega), ← List.dropLast_eq_take]
    exact ⟨by simp; omega, get 0 (by omega) _ start, long, by simp, get 2 (by omega) _ identifier,
      get _ (by omega) _ last⟩

/-- The next start byte from a position on. -/
private theorem findStart_eq_some {buffer : Bytes} {start offset : Nat}
    (h : findStart buffer start = some offset) :
    start ≤ offset ∧ buffer[offset]? = some startByte ∧
      ∀ i, start ≤ i → i < offset → buffer[i]? ≠ some startByte := by
  obtain ⟨k, hk, rfl⟩ := Option.map_eq_some_iff.mp h
  obtain ⟨inside, found, before⟩ := List.findIdx?_eq_some_iff_getElem.mp hk
  rw [List.getElem_drop, beq_iff_eq] at found
  refine ⟨Nat.le_add_right _ _, List.getElem?_eq_some_iff.mpr ⟨_, found⟩,
    fun i low high same => ?_⟩
  have skipped := before (i - start) (by omega)
  rw [List.getElem_drop] at skipped
  have place : start + (i - start) = i := by omega
  obtain ⟨_, value⟩ := List.getElem?_eq_some_iff.mp same
  simp [place, value] at skipped

private theorem findStart_eq_none {buffer : Bytes} {start : Nat}
    (h : findStart buffer start = none) : ∀ i, start ≤ i → buffer[i]? ≠ some startByte := by
  intro i low same
  rw [findStart, Option.map_eq_none_iff, List.findIdx?_eq_none_iff] at h
  obtain ⟨inside, value⟩ := List.getElem?_eq_some_iff.mp same
  have later : buffer[i] ∈ buffer.drop start := by
    rw [List.mem_drop_iff_getElem]
    have place : start + (i - start) = i := by omega
    exact ⟨i - start, by omega, by simp [place]⟩
  have other := h _ later
  simp [value] at other

private theorem startByte_of_complete {buffer : Bytes} {offset : Nat}
    (h : isCompleteValidFrame buffer offset = true) : buffer[offset]? = some startByte := by
  obtain ⟨frame, rest, isFrame, found⟩ := (isCompleteValidFrame_iff buffer offset).mp h
  obtain ⟨long, start, _⟩ := (isFrame_iff frame).mp isFrame
  have first : (buffer.drop offset)[0]? = frame[0]? := by
    rw [found, List.getElem?_append_left (by omega)]
  rw [← start, ← first, List.getElem?_drop, Nat.add_zero]

private theorem incomplete_of_no_start {buffer : Bytes} {offset : Nat}
    (h : buffer[offset]? ≠ some startByte) : isCompleteValidFrame buffer offset = false := by
  rw [← Bool.not_eq_true]
  exact fun complete => h (startByte_of_complete complete)

private theorem findLoop_eq_some {buffer : Bytes} {turns start offset : Nat}
    (h : findLoop buffer turns start = some offset) :
    start ≤ offset ∧ isCompleteValidFrame buffer offset = true ∧
      ∀ i, start ≤ i → i < offset → isCompleteValidFrame buffer i = false := by
  induction turns generalizing start with
  | zero => cases h
  | succ turns ih =>
    rw [findLoop] at h
    split at h
    · cases h
    · rename_i found hfound
      obtain ⟨low, _, noStart⟩ := findStart_eq_some hfound
      have unmarked : ∀ i, start ≤ i → i < found → isCompleteValidFrame buffer i = false := by
        intro i from_start before
        exact incomplete_of_no_start (noStart i from_start before)
      split at h
      · rename_i complete
        obtain rfl := Option.some.inj h
        exact ⟨low, complete, unmarked⟩
      · rename_i incomplete
        obtain ⟨later, complete, between⟩ := ih h
        refine ⟨by omega, complete, fun i from_start before => ?_⟩
        rcases Nat.lt_trichotomy i found with earlier | rfl | after
        · exact unmarked i from_start earlier
        · exact Bool.not_eq_true _ ▸ incomplete
        · exact between i after before

private theorem findLoop_eq_none {buffer : Bytes} {turns start : Nat}
    (enough : buffer.length ≤ turns + start) (h : findLoop buffer turns start = none) :
    ∀ offset, start ≤ offset → isCompleteValidFrame buffer offset = false := by
  intro offset low
  by_contra complete
  rw [Bool.not_eq_false] at complete
  have here := startByte_of_complete complete
  have inside : offset < buffer.length := (List.getElem?_eq_some_iff.mp here).1
  induction turns generalizing start with
  | zero => omega
  | succ turns ih =>
    rw [findLoop] at h
    split at h
    · rename_i none
      exact findStart_eq_none none offset low here
    · rename_i found hfound
      obtain ⟨later, _, skipped⟩ := findStart_eq_some hfound
      split at h
      · cases h
      · rename_i incomplete
        have past : found + 1 ≤ offset := by
          by_contra near
          rcases Nat.lt_or_eq_of_le (Nat.le_of_lt_succ (Nat.lt_of_not_le near)) with before | same
          · exact skipped offset low before here
          · exact incomplete (same ▸ complete)
        exact ih (by omega) h past

/-- The search finds the first complete frame at or after the start, if there is one. -/
theorem findCompleteValidFrame_eq_some {buffer : Bytes} {start offset : Nat}
    (h : findCompleteValidFrame buffer start = some offset) :
    start ≤ offset ∧ isCompleteValidFrame buffer offset = true ∧
      ∀ i, start ≤ i → i < offset → isCompleteValidFrame buffer i = false := findLoop_eq_some h

theorem findCompleteValidFrame_eq_none {buffer : Bytes} {start : Nat}
    (h : findCompleteValidFrame buffer start = none) :
    ∀ offset, start ≤ offset → isCompleteValidFrame buffer offset = false :=
  findLoop_eq_none (Nat.le_add_right _ _) h

/-- A frame image in the bytes after the first. -/
def HidesFrame (bytes : Bytes) : Prop :=
  ∃ before frame after, before ≠ [] ∧ IsFrame frame ∧ bytes = before ++ frame ++ after

theorem hidesFrame_iff (bytes : Bytes) :
    HidesFrame bytes ↔ (findCompleteValidFrame bytes 1).isSome := by
  constructor
  · rintro ⟨before, frame, after, nonempty, isFrame, rfl⟩
    cases found : findCompleteValidFrame (before ++ frame ++ after) 1 with
    | some offset => rfl
    | none =>
      have low : 1 ≤ before.length := List.length_pos_of_ne_nil nonempty
      have missed := findCompleteValidFrame_eq_none found before.length low
      have complete : isCompleteValidFrame (before ++ frame ++ after) before.length = true :=
        (isCompleteValidFrame_iff _ _).mpr ⟨frame, after, isFrame, by simp⟩
      rw [missed] at complete
      cases complete
  · intro found
    obtain ⟨offset, hoffset⟩ := Option.isSome_iff_exists.mp found
    obtain ⟨low, complete, _⟩ := findCompleteValidFrame_eq_some hoffset
    obtain ⟨frame, rest, isFrame, tail⟩ := (isCompleteValidFrame_iff _ _).mp complete
    refine ⟨bytes.take offset, frame, rest, ?_, isFrame, ?_⟩
    · have inside : offset < bytes.length :=
        (List.getElem?_eq_some_iff.mp (startByte_of_complete complete)).1
      exact List.ne_nil_of_length_pos (by rw [List.length_take]; omega)
    · rw [List.append_assoc, ← tail, List.take_append_drop]

/-! ### The loop -/

/-- A frame at the front is taken by the next turn. -/
private theorem turn_frame {frame : Bytes} (isFrame : IsFrame frame) (rest : Bytes) :
    turn (frame ++ rest) = .emit frame rest := by
  obtain ⟨long, start, sized, _⟩ := (isFrame_iff frame).mp isFrame
  obtain ⟨second, hsecond, declared⟩ := Option.map_eq_some_iff.mp sized
  have complete : isCompleteValidFrame (frame ++ rest) 0 = true :=
    (isCompleteValidFrame_iff _ _).mpr ⟨frame, rest, isFrame, rfl⟩
  have first : (frame ++ rest).getD 0 0 = startByte := by
    rw [getD_eq_iff (by simp; omega), List.getElem?_append_left (by omega), start]
  have length : ((frame ++ rest).getD 1 0).toNat = frame.length := by
    rw [(getD_eq_iff (by simp; omega) second).mpr, declared]
    rw [List.getElem?_append_left (by omega), hsecond]
  have size : ¬ (frame ++ rest).length < 2 := by simp; omega
  have whole : ¬ (frame ++ rest).length < frame.length := by simp
  have sizeable : ¬ frame.length < 5 := Nat.not_lt.mpr long
  unfold turn
  simp only [size, if_false, first, ne_eq, not_true_eq_false, length, sizeable, whole, complete,
    Bool.true_eq_false, List.take_left', List.drop_left']

/-- No frame starts before the next complete one. -/
private theorem clear_before {buffer : Bytes} {next : Nat}
    (incomplete : isCompleteValidFrame buffer 0 = false)
    (found : findCompleteValidFrame buffer 1 = some next) :
    0 < next ∧ ∀ i, i < next → isCompleteValidFrame buffer i = false := by
  obtain ⟨low, _, between⟩ := findCompleteValidFrame_eq_some found
  refine ⟨low, fun i before => ?_⟩
  cases i with
  | zero => exact incomplete
  | succ i => exact between (i + 1) (Nat.le_add_left 1 i) before

private theorem clear_everywhere {buffer : Bytes}
    (incomplete : isCompleteValidFrame buffer 0 = false)
    (none : findCompleteValidFrame buffer 1 = none) (i : Nat) :
    isCompleteValidFrame buffer i = false := by
  cases i with
  | zero => exact incomplete
  | succ i => exact findCompleteValidFrame_eq_none none (i + 1) (Nat.le_add_left 1 i)

/-- What a turn does: it stops where no frame starts anywhere, drops bytes at
which none starts, or takes the frame at the front. -/
theorem turn_cases (buffer : Bytes) :
    (∃ kept, turn buffer = .stop kept ∧ ∀ i, isCompleteValidFrame buffer i = false) ∨
    (∃ dropped, turn buffer = .skip (buffer.drop dropped) ∧ 0 < dropped ∧ 2 ≤ buffer.length ∧
      ∀ i, i < dropped → isCompleteValidFrame buffer i = false) ∨
    ∃ frame rest, IsFrame frame ∧ buffer = frame ++ rest ∧ turn buffer = .emit frame rest := by
  cases complete : isCompleteValidFrame buffer 0 with
  | true =>
    obtain ⟨frame, rest, isFrame, parts⟩ := (isCompleteValidFrame_iff buffer 0).mp complete
    rw [List.drop_zero] at parts
    exact .inr (.inr ⟨frame, rest, isFrame, parts, parts ▸ turn_frame isFrame rest⟩)
  | false =>
    have onlyFirst : ∀ i, i < 1 → isCompleteValidFrame buffer i = false := by
      intro i low
      obtain rfl : i = 0 := by omega
      exact complete
    unfold turn
    by_cases short : buffer.length < 2
    · refine .inl ⟨buffer, if_pos short, fun i => ?_⟩
      have small : buffer.length - i < 5 := by omega
      unfold isCompleteValidFrame
      exact if_pos small
    rw [if_neg short]
    have long : 2 ≤ buffer.length := Nat.le_of_not_lt short
    by_cases start : buffer.getD 0 0 ≠ startByte
    · rw [if_pos start]
      cases found : findStart buffer 0 with
      | none =>
        exact .inl ⟨[], rfl, fun i =>
          incomplete_of_no_start (findStart_eq_none found i (Nat.zero_le i))⟩
      | some next =>
        obtain ⟨_, value, noStart⟩ := findStart_eq_some found
        have moved : next ≠ 0 := by
          rintro rfl
          exact start ((getD_eq_iff (by omega) _).mpr value)
        exact .inr (.inl ⟨next, rfl, Nat.pos_of_ne_zero moved, long, fun i before =>
          incomplete_of_no_start (noStart i (Nat.zero_le i) before)⟩)
    rw [if_neg start]
    dsimp only
    by_cases tiny : (buffer.getD 1 0).toNat < 5
    · rw [if_pos tiny]
      exact .inr (.inl ⟨1, rfl, Nat.one_pos, long, onlyFirst⟩)
    rw [if_neg tiny]
    by_cases unreceived : buffer.length < (buffer.getD 1 0).toNat
    · rw [if_pos unreceived]
      cases found : findCompleteValidFrame buffer 1 with
      | none => exact .inl ⟨buffer, rfl, clear_everywhere complete found⟩
      | some next =>
        obtain ⟨moved, clear⟩ := clear_before complete found
        exact .inr (.inl ⟨next, rfl, moved, long, clear⟩)
    rw [if_neg unreceived, if_pos complete]
    cases found : findCompleteValidFrame buffer 1 with
    | none => exact .inr (.inl ⟨1, rfl, Nat.one_pos, long, onlyFirst⟩)
    | some next =>
      obtain ⟨moved, clear⟩ := clear_before complete found
      exact .inr (.inl ⟨next, rfl, moved, long, clear⟩)

/-- A turn that goes on has shortened the buffer. -/
private theorem turn_shorter (buffer : Bytes) : match turn buffer with
    | .stop _ => True
    | .skip kept => kept.length < buffer.length
    | .emit _ kept => kept.length < buffer.length := by
  rcases turn_cases buffer with ⟨kept, same, _⟩ | ⟨dropped, same, moved, long, _⟩ |
    ⟨frame, rest, isFrame, parts, same⟩
  · rw [same]
    trivial
  · rw [same]
    show (buffer.drop dropped).length < buffer.length
    rw [List.length_drop]
    omega
  · have sized := isFrame.length_le.1
    rw [same]
    show rest.length < buffer.length
    rw [parts, List.length_append]
    omega

private theorem drainLoop_stable {turns more : Nat} {buffer : Bytes}
    (enough : buffer.length ≤ turns) (alsoEnough : buffer.length ≤ more) :
    drainLoop turns buffer = drainLoop more buffer := by
  have empty : ∀ n, drainLoop n [] = ([], []) := by
    intro n
    cases n <;> rfl
  induction turns generalizing more buffer with
  | zero =>
    obtain rfl := List.eq_nil_of_length_eq_zero (Nat.le_zero.mp enough)
    rw [empty, empty]
  | succ turns ih =>
    cases more with
    | zero =>
      obtain rfl := List.eq_nil_of_length_eq_zero (Nat.le_zero.mp alsoEnough)
      rw [empty, empty]
    | succ more =>
      have shorter := turn_shorter buffer
      rw [drainLoop, drainLoop]
      cases hturn : turn buffer with
      | stop kept => rfl
      | skip kept =>
        rw [hturn] at shorter
        have same : drainLoop turns kept = drainLoop more kept := ih (by omega) (by omega)
        simpa using same
      | emit frame kept =>
        rw [hturn] at shorter
        have same : drainLoop turns kept = drainLoop more kept := ih (by omega) (by omega)
        simp [same]

/-- The loop, turn by turn. -/
theorem drain_eq (buffer : Bytes) : drain buffer = match turn buffer with
    | .stop kept => ([], kept)
    | .skip kept => drain kept
    | .emit frame kept => (frame :: (drain kept).1, (drain kept).2) := by
  have shorter := turn_shorter buffer
  have oneMore : drain buffer = drainLoop (buffer.length + 1) buffer :=
    drainLoop_stable le_rfl (Nat.le_succ _)
  rw [oneMore, drainLoop]
  cases hturn : turn buffer with
  | stop kept => rfl
  | skip kept =>
    rw [hturn] at shorter
    have enough : kept.length ≤ buffer.length := Nat.le_of_lt shorter
    exact drainLoop_stable enough le_rfl
  | emit frame kept =>
    rw [hturn] at shorter
    have enough : kept.length ≤ buffer.length := Nat.le_of_lt shorter
    have same : drainLoop buffer.length kept = drain kept := drainLoop_stable enough le_rfl
    simp [same]

/-- A frame at the front of the buffer is taken. -/
theorem drain_frame {frame : Bytes} (isFrame : IsFrame frame) (rest : Bytes) :
    drain (frame ++ rest) = (frame :: (drain rest).1, (drain rest).2) := by
  rw [drain_eq, turn_frame isFrame]

theorem drain_frames {frames : List Bytes} (areFrames : ∀ frame ∈ frames, IsFrame frame)
    (rest : Bytes) :
    drain (frames.flatten ++ rest) = (frames ++ (drain rest).1, (drain rest).2) := by
  induction frames with
  | nil => rfl
  | cons frame frames ih =>
    have later := ih fun f hf => areFrames f (List.mem_cons_of_mem frame hf)
    rw [List.flatten_cons, List.append_assoc, drain_frame (areFrames frame List.mem_cons_self),
      later]
    rfl

/-- The first bytes of a frame wait for the others, unless they hide a frame. -/
private theorem turn_unfinished {bytes missing : Bytes} (isFrame : IsFrame (bytes ++ missing))
    (unfinished : missing ≠ []) : turn bytes = match findCompleteValidFrame bytes 1 with
      | some offset => .skip (bytes.drop offset)
      | none => .stop bytes := by
  obtain ⟨_, start, sized, _⟩ := (isFrame_iff _).mp isFrame
  obtain ⟨second, hsecond, declared⟩ := Option.map_eq_some_iff.mp sized
  have more : 1 ≤ missing.length := List.length_pos_of_ne_nil unfinished
  by_cases short : bytes.length < 2
  · have stopped : turn bytes = .stop bytes := if_pos short
    have nothing : findCompleteValidFrame bytes 1 = none := by
      cases found : findCompleteValidFrame bytes 1 with
      | none => rfl
      | some offset =>
        have here := startByte_of_complete (findCompleteValidFrame_eq_some found).2.1
        have low := (findCompleteValidFrame_eq_some found).1
        obtain ⟨inside, _⟩ := List.getElem?_eq_some_iff.mp here
        omega
    rw [stopped, nothing]
  · have long : 2 ≤ bytes.length := Nat.le_of_not_lt short
    rw [List.getElem?_append_left (by omega)] at start hsecond
    have first : bytes.getD 0 0 = startByte := (getD_eq_iff (by omega) _).mpr start
    have length : (bytes.getD 1 0).toNat = (bytes ++ missing).length := by
      rw [(getD_eq_iff (by omega) second).mpr hsecond, declared]
    have sizeable : ¬ (bytes ++ missing).length < 5 := Nat.not_lt.mpr isFrame.length_le.1
    have incomplete : bytes.length < (bytes ++ missing).length := by simp; omega
    unfold turn
    simp only [short, if_false, first, ne_eq, not_true_eq_false, length, sizeable, incomplete,
      if_true]

theorem drain_unfinished {bytes missing : Bytes} (isFrame : IsFrame (bytes ++ missing))
    (unfinished : missing ≠ []) (clear : ¬ HidesFrame bytes) : drain bytes = ([], bytes) := by
  have nothing : findCompleteValidFrame bytes 1 = none := by
    simpa [hidesFrame_iff] using clear
  rw [drain_eq, turn_unfinished isFrame unfinished, nothing]

/-- A hidden frame is taken for the frame that is still arriving. -/
theorem drain_hidden {bytes missing : Bytes} (isFrame : IsFrame (bytes ++ missing))
    (unfinished : missing ≠ []) (hides : HidesFrame bytes) :
    ∃ image more kept, drain bytes = (image :: more, kept) ∧
      image.length < (bytes ++ missing).length := by
  obtain ⟨offset, found⟩ := Option.isSome_iff_exists.mp ((hidesFrame_iff bytes).mp hides)
  have complete := (findCompleteValidFrame_eq_some found).2.1
  obtain ⟨image, rest, isImage, tail⟩ := (isCompleteValidFrame_iff bytes offset).mp complete
  refine ⟨image, (drain rest).1, (drain rest).2, ?_, ?_⟩
  · rw [drain_eq, turn_unfinished isFrame unfinished, found]
    simp only [tail, drain_frame isImage]
  · have more : 1 ≤ missing.length := List.length_pos_of_ne_nil unfinished
    have inside : image.length ≤ bytes.length := by
      have total := congrArg List.length tail
      rw [List.length_drop, List.length_append] at total
      omega
    rw [List.length_append]
    omega

end FrameBuffer

end MarstekBle.Protocol
