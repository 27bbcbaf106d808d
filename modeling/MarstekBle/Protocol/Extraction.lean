/- module: Protocol/Extraction
   source: standalone_test/marstek_basic_info.py
   digest: The reassembler takes the leftmost frames of what it holds, and its loop ends. -/

import MarstekBle.Lib.GreedyExtraction
import MarstekBle.Protocol.Codec
import MarstekBle.Protocol.FrameBuffer

set_option autoImplicit false
set_option relaxedAutoImplicit false

namespace MarstekBle.Protocol.FrameBuffer

open MarstekBle.Data MarstekBle.Lib.BlockCode

/-- A run of the `while` loop of `feed` to its end, turn by turn. -/
inductive Drains : Bytes → List Bytes → Bytes → Prop
  | stop {buffer kept : Bytes} (here : turn buffer = .stop kept) : Drains buffer [] kept
  | skip {buffer kept left : Bytes} {frames : List Bytes} (here : turn buffer = .skip kept)
      (later : Drains kept frames left) : Drains buffer frames left
  | emit {buffer frame kept left : Bytes} {frames : List Bytes}
      (here : turn buffer = .emit frame kept) (later : Drains kept frames left) :
      Drains buffer (frame :: frames) left

/-- The loop ends, and in the result `drain` computes. -/
theorem drains_drain (buffer : Bytes) : Drains buffer (drain buffer).1 (drain buffer).2 := by
  induction hn : buffer.length using Nat.strong_induction_on generalizing buffer with
  | _ n ih =>
    rw [drain_eq]
    rcases turn_cases buffer with ⟨kept, here, _⟩ | ⟨dropped, here, moved, long, _⟩ |
      ⟨frame, rest, isFrame, parts, here⟩
    · rw [here]
      exact .stop here
    · have shorter : (buffer.drop dropped).length < n := by
        rw [List.length_drop]
        omega
      have later := ih _ shorter _ rfl
      rw [here]
      exact .skip here later
    · have shorter : rest.length < n := by
        have long := isFrame.length_le.1
        rw [← hn, parts, List.length_append]
        omega
      have later := ih _ shorter _ rfl
      rw [here]
      exact .emit here later

/-- The loop has one result. -/
theorem drains_iff (buffer left : Bytes) (frames : List Bytes) :
    Drains buffer frames left ↔ drain buffer = (frames, left) := by
  constructor
  · intro run
    induction run with
    | stop here => rw [drain_eq, here]
    | skip here _ ih => rw [drain_eq, here, ← ih]
    | emit here _ ih =>
      rw [drain_eq, here]
      simp only [ih]
  · intro same
    have run := drains_drain buffer
    rw [same] at run
    exact run

/-- The tool's check is the start of a frame. -/
theorem isCompleteValidFrame_iff_startsAt (buffer : Bytes) (offset : Nat) :
    isCompleteValidFrame buffer offset = true ↔ StartsAt IsFrame buffer offset := by
  rw [isCompleteValidFrame_iff]
  constructor
  · rintro ⟨frame, rest, isFrame, found⟩
    exact ⟨frame, isFrame, rest, found.symm⟩
  · rintro ⟨frame, isFrame, rest, found⟩
    exact ⟨frame, rest, isFrame, found.symm⟩

private theorem not_startsAt {buffer : Bytes} {offset : Nat}
    (incomplete : isCompleteValidFrame buffer offset = false) :
    ¬ StartsAt IsFrame buffer offset := by
  rw [← isCompleteValidFrame_iff_startsAt, incomplete]
  exact Bool.false_ne_true

/-- Each turn keeps to the leftmost frames of the buffer. -/
theorem drains_greedy {buffer left : Bytes} {frames : List Bytes}
    (run : Drains buffer frames left) : Greedy IsFrame buffer frames := by
  induction run with
  | @stop buffer kept here =>
    rcases turn_cases buffer with ⟨_, _, clear⟩ | ⟨_, other, _⟩ | ⟨_, _, _, _, other⟩
    · exact .done fun offset => not_startsAt (clear offset)
    · rw [other] at here
      cases here
    · rw [other] at here
      cases here
  | @skip buffer kept left frames here _ ih =>
    rcases turn_cases buffer with ⟨_, other, _⟩ | ⟨dropped, same, _, _, clear⟩ | ⟨_, _, _, _, other⟩
    · rw [other] at here
      cases here
    · rw [same] at here
      obtain rfl := Turn.skip.inj here
      exact .of_drop (fun offset low => not_startsAt (clear offset low)) ih
    · rw [other] at here
      cases here
  | @emit buffer frame kept left frames here _ ih =>
    rcases turn_cases buffer with ⟨_, other, _⟩ | ⟨_, other, _⟩ | ⟨_, _, isFrame, parts, same⟩
    · rw [other] at here
      cases here
    · rw [other] at here
      cases here
    · rw [same] at here
      obtain ⟨rfl, rfl⟩ := Turn.emit.inj here
      rw [parts]
      exact .cons isFrame ih

/-- What `feed` returns, and nothing else, is the greedy extraction. -/
theorem greedy_iff_feed (buffer chunk : Bytes) (frames : List Bytes) :
    Greedy IsFrame (buffer ++ chunk) frames ↔ (feed buffer chunk).1 = frames := by
  have extracted : Greedy IsFrame (buffer ++ chunk) (feed buffer chunk).1 :=
    drains_greedy (drains_drain (buffer ++ chunk))
  constructor
  · exact fun other => extracted.unique isFrame_prefixFree other
  · rintro rfl
    exact extracted

theorem isFrame_head {frame : Bytes} (isFrame : IsFrame frame) : frame.head? = some startByte := by
  rw [List.head?_eq_getElem?]
  exact ((isFrame_iff frame).mp isFrame).2.1

/-- `feed` ends for every residual buffer and chunk and returns the leftmost,
non-overlapping frames of the two together: each accepted by `parse_frame`, in
the order of the stream, and undisturbed by bytes around them that hold no start
byte. -/
theorem feed_extracts (buffer chunk : Bytes) :
    (∀ frames left, Drains (buffer ++ chunk) frames left ↔ feed buffer chunk = (frames, left)) ∧
    (∀ frames, Greedy (fun bytes => ∃ decoded, parseFrame bytes = .ok decoded) (buffer ++ chunk)
      frames ↔ (feed buffer chunk).1 = frames) ∧
    (∀ offset, isCompleteValidFrame (buffer ++ chunk) offset = true ↔
      StartsAt (fun bytes => ∃ decoded, parseFrame bytes = .ok decoded) (buffer ++ chunk) offset) ∧
    (∀ frame ∈ (feed buffer chunk).1, ∃ decoded, parseFrame frame = .ok decoded) ∧
    (∃ parts tail, (feed buffer chunk).1 = parts.map Prod.snd ∧
      buffer ++ chunk = weave parts ++ tail) ∧
    ∀ (parts : List (Bytes × Bytes)) (tail : Bytes),
      (∀ part ∈ parts, ∃ decoded, parseFrame part.2 = .ok decoded) →
      (∀ part ∈ parts, startByte ∉ part.1) → startByte ∉ tail →
      (feed [] (weave parts ++ tail)).1 = parts.map Prod.snd := by
  have accepted : IsFrame = fun bytes => ∃ decoded, parseFrame bytes = .ok decoded :=
    funext fun frame => propext (isFrame_iff_accepted frame)
  rw [← accepted]
  have extracted : Greedy IsFrame (buffer ++ chunk) (feed buffer chunk).1 :=
    (greedy_iff_feed buffer chunk _).mpr rfl
  refine ⟨fun frames left => drains_iff _ left frames, greedy_iff_feed buffer chunk,
    isCompleteValidFrame_iff_startsAt _, fun frame member => ?_, extracted.exists_weave,
    fun parts tail areAccepted free tailFree => ?_⟩
  · exact (isFrame_iff_accepted frame).mp (extracted.forall_mem frame member)
  · have areFrames : ∀ part ∈ parts, IsFrame part.2 := by
      intro part member
      exact (isFrame_iff_accepted part.2).mpr (areAccepted part member)
    apply (greedy_iff_feed [] (weave parts ++ tail) _).mp
    rw [List.nil_append]
    exact .of_weave (fun frame isFrame => isFrame_head isFrame) areFrames free tailFree

/-- Noise before, between and after two frames. -/
example : (feed [] ([0x01, 0x23] ++ frameOf 0x04 [0xAB] ++ [0x00] ++ frameOf 0x05 [] ++ [0xFF])).1 =
    [frameOf 0x04 [0xAB], frameOf 0x05 []] := by decide

end MarstekBle.Protocol.FrameBuffer
