/-
This file puts frames onto a stream of bytes. A codec for frames is a reader together with a way to
write a frame that the reader finds again. The usual one writes the length of a frame in front of it
and refuses lengths above its limit.
-/

import Vnt.Base.Bytes
import Vnt.Base.StreamReader

namespace Vnt.Base

/-- A codec for frames up to a limit. -/
structure FrameCodec where
  reader : StreamReader Unit (List UInt8)
  put : List UInt8 → List UInt8
  limit : Nat
  take_put : ∀ {frame : List UInt8} (later : List UInt8), frame.length ≤ limit →
    reader.take () (put frame ++ later) = .item (some frame) () later

namespace FrameCodec

/-- A frame with its length in front, as a number of so many bytes. -/
def withLength (width : Nat) (frame : List UInt8) : List UInt8 :=
  bigEndian width frame.length ++ frame

/-- Take a frame with its length in front. -/
def takeWithLength (width limit : Nat) (bytes : List UInt8) : Taken Unit (List UInt8) :=
  let length := ofBigEndian (bytes.take width)
  if bytes.length < width then .more
  else if limit < length then .ended
  else if bytes.length < width + length then .more
  else .item (some ((bytes.drop width).take length)) () (bytes.drop (width + length))

variable {width limit : Nat}

/-- What is found: the length fits, and the frame has arrived. -/
theorem takeWithLength_eq_item {bytes rest : List UInt8} {item : Option (List UInt8)} {next : Unit}
    (found : takeWithLength width limit bytes = .item item next rest) :
    width + ofBigEndian (bytes.take width) ≤ bytes.length ∧
      ofBigEndian (bytes.take width) ≤ limit ∧
      item = some ((bytes.drop width).take (ofBigEndian (bytes.take width))) ∧
      rest = bytes.drop (width + ofBigEndian (bytes.take width)) := by
  unfold takeWithLength at found
  dsimp only at found
  split at found
  · cases found
  · split at found
    · cases found
    · split at found
      · cases found
      · cases found
        exact ⟨by omega, by omega, rfl, rfl⟩

theorem takeWithLength_of_arrived {bytes : List UInt8}
    (arrived : width + ofBigEndian (bytes.take width) ≤ bytes.length)
    (fits : ofBigEndian (bytes.take width) ≤ limit) :
    takeWithLength width limit bytes =
      .item (some ((bytes.drop width).take (ofBigEndian (bytes.take width)))) ()
        (bytes.drop (width + ofBigEndian (bytes.take width))) := by
  unfold takeWithLength
  dsimp only
  rw [if_neg (by omega), if_neg (by omega), if_neg (by omega)]

theorem takeWithLength_eq_over {bytes : List UInt8}
    (found : takeWithLength width limit bytes = .ended) :
    width ≤ bytes.length ∧ limit < ofBigEndian (bytes.take width) := by
  unfold takeWithLength at found
  dsimp only at found
  split at found
  · cases found
  · split at found
    · exact ⟨by omega, by omega⟩
    · split at found <;> cases found

theorem takeWithLength_of_over {bytes : List UInt8} (known : width ≤ bytes.length)
    (exceeds : limit < ofBigEndian (bytes.take width)) :
    takeWithLength width limit bytes = .ended := by
  unfold takeWithLength
  dsimp only
  rw [if_neg (by omega), if_pos exceeds]

/-- The reader of frames with their lengths in front. -/
def lengthReader (width limit : Nat) (positive : 0 < width) : StreamReader Unit (List UInt8) where
  take _ := takeWithLength width limit
  shrinks := by
    intro _ bytes item next rest found
    obtain ⟨arrived, -, -, rfl⟩ := takeWithLength_eq_item found
    rw [List.length_drop]
    omega
  item_append := by
    intro _ bytes item next rest later found
    obtain ⟨arrived, fits, rfl, rfl⟩ := takeWithLength_eq_item found
    have head : (bytes ++ later).take width = bytes.take width :=
      List.take_append_of_le_length (by omega)
    rw [takeWithLength_of_arrived (by rw [head, List.length_append]; omega)
      (by rw [head]; exact fits),
      head, List.drop_append_of_le_length arrived, List.drop_append_of_le_length (by omega),
      List.take_append_of_le_length (by rw [List.length_drop]; omega)]
  ended_append := by
    intro _ bytes later found
    obtain ⟨known, exceeds⟩ := takeWithLength_eq_over found
    exact takeWithLength_of_over (by rw [List.length_append]; omega)
      (by rwa [List.take_append_of_le_length known])

/-- Frames with their lengths in front. -/
def lengthDelimited (width limit : Nat) (positive : 0 < width) (holds : limit < 256 ^ width) :
    FrameCodec where
  reader := lengthReader width limit positive
  put := withLength width
  limit := limit
  take_put := by
    intro frame later fits
    have number : ofBigEndian ((withLength width frame ++ later).take width) = frame.length := by
      unfold withLength
      rw [List.append_assoc, List.take_left' (length_bigEndian width frame.length),
        ofBigEndian_bigEndian (by omega)]
    have total : (withLength width frame).length = width + frame.length := by
      unfold withLength
      rw [List.length_append, length_bigEndian]
    have body : (withLength width frame ++ later).drop width = frame ++ later := by
      unfold withLength
      rw [List.append_assoc, List.drop_left' (length_bigEndian width frame.length)]
    have arrived : width + frame.length ≤ (withLength width frame ++ later).length := by
      rw [List.length_append]
      omega
    show takeWithLength width limit (withLength width frame ++ later) = _
    rw [takeWithLength_of_arrived (by rw [number]; exact arrived) (by rw [number]; exact fits),
      number, body, List.take_left, List.drop_left' total]

/-- Lengths of four bytes, up to 8 MiB. -/
def standard : FrameCodec := lengthDelimited 4 8388608 (by decide) (by decide)

/-! ### Frames under way -/

variable {codec : FrameCodec}

/-- Frames as they are put onto the stream. -/
def putAll (codec : FrameCodec) (frames : List (List UInt8)) : List UInt8 :=
  frames.flatMap codec.put

theorem putAll_append (codec : FrameCodec) (first second : List (List UInt8)) :
    codec.putAll (first ++ second) = codec.putAll first ++ codec.putAll second :=
  List.flatMap_append

/-- Without bytes the reader waits. -/
theorem take_nil (codec : FrameCodec) : codec.reader.take () [] = .more := by
  cases taken : codec.reader.take () [] with
  | more => rfl
  | ended =>
    have found : codec.reader.take () (codec.put [] ++ []) = .item (some []) () [] :=
      codec.take_put [] (Nat.zero_le _)
    rw [List.append_nil, ← List.nil_append (codec.put []),
      codec.reader.ended_append _ taken] at found
    cases found
  | item item next rest => exact absurd (codec.reader.shrinks taken) (Nat.not_lt_zero _)

/-- The reader finds the first of the frames, as soon as enough of it has arrived. -/
theorem take_arrived {frames : List (List UInt8)} {arrived underWay : List UInt8}
    (split : arrived ++ underWay = codec.putAll frames)
    (fits : ∀ frame ∈ frames, frame.length ≤ codec.limit) :
    codec.reader.take () arrived = .more ∨
      ∃ frame others rest, frames = frame :: others ∧
        codec.reader.take () arrived = .item (some frame) () rest ∧
        rest ++ underWay = codec.putAll others := by
  cases frames with
  | nil =>
    rw [(List.append_eq_nil_iff.mp split).1, take_nil]
    exact .inl rfl
  | cons frame others =>
    have whole : codec.reader.take () (arrived ++ underWay) =
        .item (some frame) () (codec.putAll others) := by
      rw [split]
      exact codec.take_put _ (fits frame List.mem_cons_self)
    cases taken : codec.reader.take () arrived with
    | more => exact .inl rfl
    | ended =>
      rw [codec.reader.ended_append underWay taken] at whole
      cases whole
    | item item next rest =>
      rw [codec.reader.item_append underWay taken] at whole
      injection whole with sameItem _ sameRest
      rw [sameItem]
      exact .inr ⟨frame, others, rest, rfl, rfl, sameRest⟩

end FrameCodec

end Vnt.Base
