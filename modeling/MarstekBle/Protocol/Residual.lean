/- module: Protocol/Residual
   source: standalone_test/marstek_basic_info.py
   digest: The bytes the reassembler keeps between two chunks stay few and hide no frame. -/

import Mathlib.Data.List.Induction
import MarstekBle.Protocol.Extraction

set_option autoImplicit false
set_option relaxedAutoImplicit false

namespace MarstekBle.Protocol.FrameBuffer

open MarstekBle.Data

/-- The buffer of a new instance after successive chunks. -/
def residual (chunks : List Bytes) : Bytes :=
  chunks.foldl (fun buffer chunk => (feed buffer chunk).2) []

theorem residual_snoc (chunks : List Bytes) (chunk : Bytes) :
    residual (chunks ++ [chunk]) = (feed (residual chunks) chunk).2 := by
  simp only [residual, List.foldl_append, List.foldl_cons, List.foldl_nil]

/-- A start byte and a possible length, of which not all bytes are there. -/
def StartsUnfinished (buffer : Bytes) : Prop :=
  ∃ declared, buffer[0]? = some startByte ∧ buffer[1]? = some declared ∧
    5 ≤ declared.toNat ∧ buffer.length < declared.toNat

/-- What the loop may leave for the next chunk. -/
structure IsResidual (buffer : Bytes) : Prop where
  waits : buffer.length < 2 ∨ StartsUnfinished buffer
  clear : ∀ offset, isCompleteValidFrame buffer offset = false

/-- The declared length is a byte. -/
theorem IsResidual.length_le {buffer : Bytes} (kept : IsResidual buffer) :
    buffer.length ≤ 254 := by
  rcases kept.waits with short | ⟨declared, _, _, _, longer⟩
  · omega
  · have size : declared.toNat < 256 := declared.toNat_lt
    omega

theorem IsResidual.not_isFrame {buffer before frame after : Bytes} (kept : IsResidual buffer)
    (parts : buffer = before ++ frame ++ after) : ¬ IsFrame frame := by
  intro isFrame
  have found : buffer.drop before.length = frame ++ after := by
    rw [parts, List.append_assoc, List.drop_left]
  have complete : isCompleteValidFrame buffer before.length = true :=
    (isCompleteValidFrame_iff buffer before.length).mpr ⟨frame, after, isFrame, found⟩
  rw [kept.clear before.length] at complete
  cases complete

theorem IsResidual.nil : IsResidual [] where
  waits := .inl Nat.two_pos
  clear := fun offset => by simp [isCompleteValidFrame]

private theorem getElem?_eq_getD {buffer : Bytes} {i : Nat} (inside : i < buffer.length) :
    buffer[i]? = some (buffer.getD i 0) := by
  simp [List.getD, inside]

/-- The two exits of the loop that keep bytes, and the one that clears the buffer. -/
private theorem turn_stop_waits {buffer kept : Bytes} (here : turn buffer = .stop kept) :
    kept = [] ∨ kept = buffer ∧ (buffer.length < 2 ∨ StartsUnfinished buffer) := by
  unfold turn at here
  by_cases short : buffer.length < 2
  · rw [if_pos short] at here
    obtain rfl := Turn.stop.inj here
    exact .inr ⟨rfl, .inl short⟩
  rw [if_neg short] at here
  by_cases start : buffer.getD 0 0 ≠ startByte
  · rw [if_pos start] at here
    cases found : findStart buffer 0 with
    | none =>
      rw [found] at here
      exact .inl (Turn.stop.inj here).symm
    | some next =>
      rw [found] at here
      cases here
  rw [if_neg start] at here
  dsimp only at here
  by_cases tiny : (buffer.getD 1 0).toNat < 5
  · rw [if_pos tiny] at here
    cases here
  rw [if_neg tiny] at here
  by_cases unreceived : buffer.length < (buffer.getD 1 0).toNat
  · rw [if_pos unreceived] at here
    cases found : findCompleteValidFrame buffer 1 with
    | some next =>
      rw [found] at here
      cases here
    | none =>
      rw [found] at here
      obtain rfl := Turn.stop.inj here
      have second : 1 < buffer.length := by omega
      have first : buffer[0]? = some startByte := by
        rw [getElem?_eq_getD (by omega), not_not.mp start]
      have possible : 5 ≤ (buffer.getD 1 0).toNat := Nat.le_of_not_lt tiny
      exact .inr ⟨rfl, .inr ⟨_, first, getElem?_eq_getD second, possible, unreceived⟩⟩
  rw [if_neg unreceived] at here
  split at here
  · -- a bad checksum drops bytes and goes on, whatever the search finds
    cases found : findCompleteValidFrame buffer 1 with
    | none =>
      rw [found] at here
      cases here
    | some next =>
      rw [found] at here
      cases here
  · cases here

theorem isResidual_of_stop {buffer kept : Bytes} (here : turn buffer = .stop kept) :
    IsResidual kept := by
  rcases turn_stop_waits here with rfl | ⟨rfl, waits⟩
  · exact .nil
  · refine ⟨waits, ?_⟩
    rcases turn_cases kept with ⟨_, _, clear⟩ | ⟨_, other, _⟩ | ⟨_, _, _, _, other⟩
    · exact clear
    · rw [other] at here
      cases here
    · rw [other] at here
      cases here

/-- The loop ends by its last turn. -/
theorem Drains.isResidual {buffer left : Bytes} {frames : List Bytes}
    (run : Drains buffer frames left) : IsResidual left := by
  induction run with
  | stop here => exact isResidual_of_stop here
  | skip _ _ ih => exact ih
  | emit _ _ ih => exact ih

theorem isResidual_feed (buffer chunk : Bytes) : IsResidual (feed buffer chunk).2 :=
  (drains_drain (buffer ++ chunk)).isResidual

theorem isResidual_residual (chunks : List Bytes) : IsResidual (residual chunks) := by
  induction chunks using List.reverseRecOn with
  | nil => exact .nil
  | append_singleton chunks chunk _ =>
    rw [residual_snoc]
    exact isResidual_feed _ _

/-- Between two chunks the buffer holds at most 254 bytes: none or one, or the
unfinished start of a frame; and no frame lies anywhere in it. -/
theorem residual_bounded (chunks : List Bytes) :
    (residual chunks).length ≤ 254 ∧
    ((residual chunks).length < 2 ∨ ∃ declared, (residual chunks)[0]? = some startByte ∧
      (residual chunks)[1]? = some declared ∧ 5 ≤ declared.toNat ∧
      (residual chunks).length < declared.toNat) ∧
    (∀ offset, isCompleteValidFrame (residual chunks) offset = false) ∧
    ¬ ∃ before frame after, IsFrame frame ∧ residual chunks = before ++ frame ++ after := by
  have kept := isResidual_residual chunks
  have hidden : ¬ ∃ before frame after,
      IsFrame frame ∧ residual chunks = before ++ frame ++ after := by
    rintro ⟨before, frame, after, isFrame, parts⟩
    exact kept.not_isFrame parts isFrame
  exact ⟨kept.length_le, kept.waits, kept.clear, hidden⟩

/-- A lone start byte, a header without its body, and noise. -/
example : residual [[0x00, startByte], [0x20, 0x01], [0x02]] = [startByte, 0x20, 0x01, 0x02] := by
  decide

end MarstekBle.Protocol.FrameBuffer
