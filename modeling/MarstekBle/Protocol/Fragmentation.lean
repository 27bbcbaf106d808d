/- module: Protocol/Fragmentation
   source: standalone_test/marstek_basic_info.py
   digest: Which ways of cutting a stream of frames into chunks give the frames back. -/

import MarstekBle.Protocol.FrameBuffer

/-!
The buffer after some bytes is computed from the frames alone: what was received
of the frame that is still unfinished. A chunk boundary is harmful exactly when
that part hides a frame.
-/

set_option autoImplicit false
set_option relaxedAutoImplicit false

namespace MarstekBle.Protocol.FrameBuffer

open MarstekBle.Data

/-- The frames that lie within the first `n` bytes. -/
def completed : List Bytes → Nat → List Bytes
  | [], _ => []
  | frame :: frames, n =>
    if frame.length ≤ n then frame :: completed frames (n - frame.length) else []

/-- The other frames. -/
def remaining : List Bytes → Nat → List Bytes
  | [], _ => []
  | frame :: frames, n =>
    if frame.length ≤ n then remaining frames (n - frame.length) else frame :: frames

/-- What the first `n` bytes hold of the first frame they do not complete. -/
def unfinished : List Bytes → Nat → Bytes
  | [], _ => []
  | frame :: frames, n =>
    if frame.length ≤ n then unfinished frames (n - frame.length) else frame.take n

theorem completed_append_remaining (frames : List Bytes) (n : Nat) :
    completed frames n ++ remaining frames n = frames := by
  induction frames generalizing n with
  | nil => rfl
  | cons frame frames ih =>
    rw [completed, remaining]
    split
    · rw [List.cons_append, ih]
    · rfl

/-- The first `n` bytes are the completed frames and the unfinished part. -/
theorem take_flatten (frames : List Bytes) (n : Nat) :
    frames.flatten.take n = (completed frames n).flatten ++ unfinished frames n := by
  induction frames generalizing n with
  | nil => simp [completed, unfinished]
  | cons frame frames ih =>
    rw [List.flatten_cons, completed, unfinished]
    split
    · rename_i within
      rw [List.take_append, List.take_of_length_le within, ih, List.flatten_cons,
        List.append_assoc]
    · rename_i beyond
      rw [List.take_append_of_le_length (Nat.le_of_lt (Nat.lt_of_not_le beyond))]
      rfl

theorem unfinished_total (frames : List Bytes) :
    unfinished frames frames.flatten.length = [] := by
  induction frames with
  | nil => rfl
  | cons frame frames ih =>
    have within : frame.length ≤ (frame :: frames).flatten.length := by simp
    have rest : (frame :: frames).flatten.length - frame.length = frames.flatten.length := by simp
    rw [unfinished, if_pos within, rest, ih]

/-- Counting on from the unfinished part is counting on from the start. -/
theorem unfinished_remaining (frames : List Bytes) {n : Nat} (within : n ≤ frames.flatten.length)
    (k : Nat) : unfinished (remaining frames n) ((unfinished frames n).length + k) =
      unfinished frames (n + k) := by
  induction frames generalizing n with
  | nil => rfl
  | cons frame frames ih =>
    rw [List.flatten_cons, List.length_append] at within
    by_cases whole : frame.length ≤ n
    · have later := ih (n := n - frame.length) (by omega)
      have further : frame.length ≤ n + k := by omega
      have count : n + k - frame.length = n - frame.length + k := by omega
      simp only [remaining, unfinished, whole, further, if_true, count]
      exact later
    · have inside : (frame.take n).length = n :=
        List.length_take_of_le (Nat.le_of_lt (Nat.lt_of_not_le whole))
      have same : unfinished (frame :: frames) n = frame.take n := if_neg whole
      have all : remaining (frame :: frames) n = frame :: frames := if_neg whole
      rw [same, all, inside]

/-- The unfinished part is empty, or the proper beginning of the next frame. -/
theorem unfinished_cases (frames : List Bytes) (n : Nat) :
    (remaining frames n = [] ∧ unfinished frames n = []) ∨ ∃ frame rest missing,
      remaining frames n = frame :: rest ∧ frame = unfinished frames n ++ missing ∧
        missing ≠ [] := by
  induction frames generalizing n with
  | nil => exact .inl ⟨rfl, rfl⟩
  | cons frame frames ih =>
    by_cases whole : frame.length ≤ n
    · simp only [remaining, unfinished, whole, if_true]
      exact ih (n - frame.length)
    · simp only [remaining, unfinished, whole, if_false]
      refine .inr ⟨frame, frames, frame.drop n, rfl, (List.take_append_drop n frame).symm, ?_⟩
      exact List.ne_nil_of_length_pos (by rw [List.length_drop]; omega)

private theorem not_hidesFrame_nil : ¬ HidesFrame [] := by
  rintro ⟨before, frame, after, nonempty, _, empty⟩
  exact nonempty (List.append_eq_nil_iff.mp (List.append_eq_nil_iff.mp empty.symm).1).1

/-- Feeding up to a boundary: the completed frames, then what the unfinished part gives. -/
private theorem drain_leading {frames : List Bytes} (areFrames : ∀ frame ∈ frames, IsFrame frame)
    (n : Nat) : drain (frames.flatten.take n) =
      (completed frames n ++ (drain (unfinished frames n)).1,
        (drain (unfinished frames n)).2) := by
  have areCompleted : ∀ frame ∈ completed frames n, IsFrame frame := by
    intro frame member
    refine areFrames frame ?_
    rw [← completed_append_remaining frames n]
    exact List.mem_append_left _ member
  rw [take_flatten, drain_frames areCompleted]

/-- At a harmless boundary the completed frames are returned and the unfinished part is kept. -/
private theorem drain_clear {frames : List Bytes} (areFrames : ∀ frame ∈ frames, IsFrame frame)
    {n : Nat} (clear : ¬ HidesFrame (unfinished frames n)) :
    drain (frames.flatten.take n) = (completed frames n, unfinished frames n) := by
  have kept : drain (unfinished frames n) = ([], unfinished frames n) := by
    rcases unfinished_cases frames n with ⟨_, empty⟩ | ⟨frame, rest, missing, left, parts, lacking⟩
    · rw [empty]
      rfl
    · have isFrame : IsFrame (unfinished frames n ++ missing) := by
        rw [← parts]
        refine areFrames frame ?_
        rw [← completed_append_remaining frames n, left]
        exact List.mem_append_right _ List.mem_cons_self
      exact drain_unfinished isFrame lacking clear
  rw [drain_leading areFrames, kept, List.append_nil]

/-- At a harmful boundary something shorter is returned in place of the next frame. -/
private theorem drain_harmful {frames : List Bytes} (areFrames : ∀ frame ∈ frames, IsFrame frame)
    {n : Nat} (hides : HidesFrame (unfinished frames n)) (later : List Bytes) :
    (drain (frames.flatten.take n)).1 ++ later ≠ frames := by
  rcases unfinished_cases frames n with ⟨_, empty⟩ | ⟨frame, rest, missing, left, parts, lacking⟩
  · exact absurd (empty ▸ hides) not_hidesFrame_nil
  · have isFrame : IsFrame (unfinished frames n ++ missing) := by
      rw [← parts]
      refine areFrames frame ?_
      rw [← completed_append_remaining frames n, left]
      exact List.mem_append_right _ List.mem_cons_self
    obtain ⟨image, more, kept, drained, shorter⟩ := drain_hidden isFrame lacking hides
    intro same
    rw [drain_leading areFrames, drained] at same
    have rests : image :: more ++ later = frame :: rest := by
      have whole := same.trans (completed_append_remaining frames n).symm
      rw [left, List.append_assoc] at whole
      exact List.append_cancel_left whole
    have first : image = frame := (List.cons.inj rests).1
    rw [← parts, first] at shorter
    exact Nat.lt_irrefl _ shorter

/-- The chunk-by-chunk form, from any buffer that holds an unfinished frame. -/
private theorem feedAll_eq_iff (chunks : List Bytes) : ∀ (frames : List Bytes) (buffer : Bytes),
    (∀ frame ∈ frames, IsFrame frame) → frames.flatten = buffer ++ chunks.flatten →
    buffer = unfinished frames buffer.length → ¬ HidesFrame buffer →
    (feedAll buffer chunks = frames ↔ ∀ before after, chunks = before ++ after →
      ¬ HidesFrame (unfinished frames (buffer.length + before.flatten.length))) := by
  induction chunks with
  | nil =>
    intro frames buffer areFrames stream held clear
    have total : buffer.length = frames.flatten.length := by simp [stream]
    have empty : buffer = [] := by
      rw [held, total, unfinished_total]
    have noFrames : frames = [] := by
      rw [List.flatten_nil, List.append_nil, empty] at stream
      refine List.eq_nil_iff_forall_not_mem.mpr fun frame member => ?_
      have long := (areFrames frame member).length_le.1
      rw [List.flatten_eq_nil_iff.mp stream frame member] at long
      simp at long
    refine iff_of_true (by rw [noFrames]; rfl) fun before after split => ?_
    obtain ⟨rfl, rfl⟩ := List.append_eq_nil_iff.mp split.symm
    rwa [List.flatten_nil, List.length_nil, Nat.add_zero, ← held]
  | cons chunk chunks ih =>
    intro frames buffer areFrames stream held clear
    have received : buffer ++ chunk = frames.flatten.take (buffer.length + chunk.length) := by
      rw [stream, List.flatten_cons, ← List.append_assoc, ← List.length_append, List.take_left]
    have within : buffer.length + chunk.length ≤ frames.flatten.length := by
      rw [stream, List.flatten_cons, List.length_append, List.length_append]
      omega
    by_cases hides : HidesFrame (unfinished frames (buffer.length + chunk.length))
    · refine iff_of_false ?_ fun safe => safe [chunk] chunks rfl (by simpa using hides)
      rw [feedAll, feed, received]
      exact drain_harmful areFrames hides _
    · have fed : feed buffer chunk = (completed frames (buffer.length + chunk.length),
          unfinished frames (buffer.length + chunk.length)) := by
        rw [feed, received, drain_clear areFrames hides]
      have parts := completed_append_remaining frames (buffer.length + chunk.length)
      have areRemaining : ∀ frame ∈ remaining frames (buffer.length + chunk.length),
          IsFrame frame := by
        intro frame member
        refine areFrames frame ?_
        rw [← parts]
        exact List.mem_append_right _ member
      have streamLeft : (remaining frames (buffer.length + chunk.length)).flatten =
          unfinished frames (buffer.length + chunk.length) ++ chunks.flatten := by
        have whole : (completed frames (buffer.length + chunk.length)).flatten ++
            (remaining frames (buffer.length + chunk.length)).flatten =
              (completed frames (buffer.length + chunk.length)).flatten ++
                (unfinished frames (buffer.length + chunk.length) ++ chunks.flatten) := by
          rw [← List.flatten_append, parts, ← List.append_assoc, ← take_flatten, ← received,
            stream, List.flatten_cons, List.append_assoc]
        exact List.append_cancel_left whole
      have onward := unfinished_remaining frames within
      have next := ih _ _ areRemaining streamLeft (by
        have here := onward 0
        rwa [Nat.add_zero, Nat.add_zero, eq_comm] at here) hides
      have same : feedAll buffer (chunk :: chunks) = frames ↔
          feedAll (unfinished frames (buffer.length + chunk.length)) chunks =
            remaining frames (buffer.length + chunk.length) := by
        rw [feedAll, fed]
        dsimp only
        constructor
        · intro h
          exact List.append_cancel_left (h.trans parts.symm)
        · intro h
          rw [h, parts]
      rw [same, next]
      constructor
      · intro safe before after split
        cases before with
        | nil => rwa [List.flatten_nil, List.length_nil, Nat.add_zero, ← held]
        | cons first before =>
          rw [List.cons_append, List.cons.injEq] at split
          obtain ⟨rfl, split⟩ := split
          have there := safe before after split
          rwa [onward, Nat.add_assoc, ← List.length_append, ← List.flatten_cons] at there
      · intro safe before after split
        have there := safe (chunk :: before) after (by rw [split]; rfl)
        rwa [List.flatten_cons, List.length_append, ← Nat.add_assoc, ← onward] at there

/-- Fed chunk by chunk from an empty buffer, a stream of frames comes back
unchanged exactly when at no chunk boundary the received part of an unfinished
frame hides a frame. -/
theorem reassembles_iff {frames chunks : List Bytes}
    (areFrames : ∀ frame ∈ frames, IsFrame frame) (stream : chunks.flatten = frames.flatten) :
    feedAll [] chunks = frames ↔ ∀ before after, chunks = before ++ after →
      ¬ HidesFrame (unfinished frames before.flatten.length) := by
  have start : ([] : Bytes) = unfinished frames 0 := by
    have nothing := take_flatten frames 0
    rw [List.take_zero] at nothing
    exact (List.append_eq_nil_iff.mp nothing.symm).2.symm
  have general := feedAll_eq_iff chunks frames [] areFrames stream.symm start not_hidesFrame_nil
  simpa using general

/-- A frame cut inside its header. -/
theorem reassembles_iff_header_cut :
    feedAll [] [[0x73, 0x06], [0x23, 0x04, 0xAB, 0xF9]] = [frameOf 0x04 [0xAB]] ↔
      ∀ before after, ([[0x73, 0x06], [0x23, 0x04, 0xAB, 0xF9]] : List Bytes) = before ++ after →
        ¬ HidesFrame (unfinished [frameOf 0x04 [0xAB]] before.flatten.length) :=
  reassembles_iff (fun frame member =>
    ⟨0x04, [0xAB], by decide, List.mem_singleton.mp member⟩) (by decide)

/-- A frame whose payload carries another frame, cut right after that one. -/
theorem hidden_frame_replaces_outer :
    ¬ ∀ frames chunks : List Bytes, (∀ frame ∈ frames, IsFrame frame) →
      chunks.flatten = frames.flatten → feedAll [] chunks = frames := by
  intro claim
  have outer := claim [frameOf 0x04 (frameOf 0x05 [] ++ [0x00])]
    [[0x73, 0x0B, 0x23, 0x04, 0x73, 0x05, 0x23, 0x05, 0x50], [0x00, 0x5F]]
    (fun frame member => ⟨0x04, frameOf 0x05 [] ++ [0x00], by decide, List.mem_singleton.mp member⟩)
    (by decide)
  revert outer
  decide

end MarstekBle.Protocol.FrameBuffer
