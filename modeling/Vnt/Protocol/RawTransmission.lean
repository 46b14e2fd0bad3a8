/-
This file embeds the buffer a packet travels in as the source has it: an array with a length and a
capacity, and the two ends of the data in it. It settles when the ends stay in order and inside the
array. Most operations see to that themselves, but the length of the data is only checked against
the capacity of the array, and the sums wrap around. While the ends are in order, the buffer is the
concatenation of its three parts that the rest of the development works with.
-/

import Mathlib.Algebra.Group.Nat.Defs
import Vnt.Base.Indexing
import Vnt.Base.Machine
import Vnt.Protocol.Transmission

namespace Vnt

open Vnt.Base

/-! ### The array -/

/-- `BytesMut`: an array never takes more than its capacity, which is at most `isize::MAX`. -/
structure BytesMut where
  bytes : List UInt8
  capacity : Nat
  fits : bytes.length ≤ capacity
  bounded : capacity < 2 ^ 63

namespace BytesMut

/-- `len`. -/
def len (buf : BytesMut) : Nat := buf.bytes.length

/-- `BytesMut::zeroed`, which fails when there is no such array. -/
def zeroed (len : Nat) : Option BytesMut :=
  if bounded : len < 2 ^ 63 then
    some ⟨List.replicate len 0, len, Nat.le_of_eq List.length_replicate, bounded⟩
  else none

/-- The bytes, followed by copies of one up to a length. -/
def padded (bytes : List UInt8) (newLen : Nat) (value : UInt8) : List UInt8 :=
  bytes ++ List.replicate (newLen - bytes.length) value

theorem length_padded {bytes : List UInt8} {newLen : Nat} (longer : ¬newLen ≤ bytes.length)
    (value : UInt8) : (padded bytes newLen value).length = newLen := by
  unfold padded
  rw [List.length_append, List.length_replicate]
  omega

/-- `resize`. An array that becomes longer than its capacity gets a new one, which the allocator
chooses; without a large enough one it fails. -/
def resize (buf : BytesMut) (newLen : Nat) (value : UInt8) (grown : Nat) : Option BytesMut :=
  if shorter : newLen ≤ buf.bytes.length then
    some ⟨buf.bytes.take newLen, buf.capacity,
      Nat.le_trans (List.length_take_le' newLen buf.bytes) buf.fits, buf.bounded⟩
  else if inside : newLen ≤ buf.capacity then
    some ⟨padded buf.bytes newLen value, buf.capacity,
      Nat.le_trans (Nat.le_of_eq (length_padded shorter value)) inside, buf.bounded⟩
  else if large : newLen ≤ grown ∧ grown < 2 ^ 63 then
    some ⟨padded buf.bytes newLen value, grown,
      Nat.le_trans (Nat.le_of_eq (length_padded shorter value)) large.1, large.2⟩
  else none

theorem length_copied {bytes source : List UInt8} {first last : Nat}
    (inside : first ≤ last ∧ last ≤ bytes.length ∧ source.length = last - first) :
    (bytes.take first ++ source ++ bytes.drop last).length = bytes.length := by
  rw [List.length_append, List.length_append, List.length_take, List.length_drop]
  omega

/-- `copy_from_slice` onto a range. -/
def copyAt (buf : BytesMut) (first last : Nat) (source : List UInt8) : Option BytesMut :=
  if inside : first ≤ last ∧ last ≤ buf.bytes.length ∧ source.length = last - first then
    some ⟨buf.bytes.take first ++ source ++ buf.bytes.drop last, buf.capacity,
      Nat.le_trans (Nat.le_of_eq (length_copied inside)) buf.fits, buf.bounded⟩
  else none

variable {buf next : BytesMut}

/-- A resized array is cut off or filled up. -/
theorem bytes_resize {newLen grown : Nat} {value : UInt8}
    (resized : buf.resize newLen value grown = some next) :
    next.bytes = buf.bytes.take newLen ++ List.replicate (newLen - buf.len) value := by
  unfold resize at resized
  unfold len
  split at resized
  · next shorter =>
    cases resized
    rw [Nat.sub_eq_zero_of_le shorter, List.replicate_zero, List.append_nil]
  · next longer =>
    have whole := List.take_of_length_le (Nat.le_of_not_le longer)
    rw [whole]
    split at resized
    · cases resized
      rfl
    · split at resized
      · cases resized
        rfl
      · cases resized

theorem len_resize {newLen grown : Nat} {value : UInt8}
    (resized : buf.resize newLen value grown = some next) : next.len = newLen := by
  unfold len
  rw [bytes_resize resized, List.length_append, List.length_take, List.length_replicate, len]
  omega

/-- Cutting an array off never fails. -/
theorem resize_of_le {newLen : Nat} (shorter : newLen ≤ buf.len) (value : UInt8) (grown : Nat) :
    ∃ next, buf.resize newLen value grown = some next := ⟨_, dif_pos shorter⟩

theorem len_copyAt {first last : Nat} {source : List UInt8}
    (copied : buf.copyAt first last source = some next) :
    next.len = buf.len ∧ first ≤ last ∧ last ≤ buf.len := by
  unfold copyAt at copied
  split at copied
  · next inside =>
    cases copied
    exact ⟨length_copied inside, inside.1, inside.2.1⟩
  · cases copied

end BytesMut

/-! ### The buffer -/

/-- `TransmissionBytes` as the source has it: its `start` and its `end`. -/
structure RawTransmissionBytes where
  buf : BytesMut
  start : UInt64
  stop : UInt64

/-- What an operation ends with. -/
inductive BufferOutcome where
  | ok
  | error (text : String)
  | panic
  deriving DecidableEq, Repr

namespace RawTransmissionBytes

/-- `TransmissionBytes::from`. What comes as `Bytes` or as a slice is first made a `BytesMut`. -/
def ofBytesMut (buf : BytesMut) : RawTransmissionBytes := ⟨buf, 0, UInt64.ofNat buf.len⟩

def defaultBufSize : UInt64 := 2048

/-- `new_offset`. -/
def newOffset (start : UInt64) : Option RawTransmissionBytes :=
  (BytesMut.zeroed defaultBufSize.toNat).map fun buf => ⟨buf, start, start⟩

/-- `new_offset_zeroed`. -/
def newOffsetZeroed (start : UInt64) : Option RawTransmissionBytes :=
  (BytesMut.zeroed defaultBufSize.toNat).map fun buf => ⟨buf, start, defaultBufSize⟩

/-- `zeroed`. -/
def zeroed (cap : UInt64) : Option RawTransmissionBytes :=
  (BytesMut.zeroed cap.toNat).map fun buf => ⟨buf, 0, cap⟩

/-- `zeroed_size`. -/
def zeroedSize (size reserve : UInt64) : Option RawTransmissionBytes :=
  (BytesMut.zeroed (size + reserve).toNat).map fun buf => ⟨buf, 0, size⟩

/-- `with_capacity`. -/
def withCapacity (headRoom capacity : UInt64) : Option RawTransmissionBytes :=
  (BytesMut.zeroed capacity.toNat).map fun buf => ⟨buf, headRoom, headRoom⟩

/-- `len`. -/
def len (raw : RawTransmissionBytes) : UInt64 := raw.stop - raw.start

/-- `put`. -/
def put (raw : RawTransmissionBytes) (data : List UInt8) : BufferOutcome × RawTransmissionBytes :=
  let free := UInt64.ofNat raw.buf.capacity - raw.stop
  let last := raw.stop + UInt64.ofNat data.length
  if data.length > free.toNat then
    (.error s!"data too large:need={data.length},free={free}", raw)
  else
    match raw.buf.copyAt raw.stop.toNat last.toNat data with
    | none => (.panic, raw)
    | some buf => (.ok, { raw with buf := buf, stop := last })

/-- `retreat_head`. -/
def retreatHead (raw : RawTransmissionBytes) (len : UInt64) :
    BufferOutcome × RawTransmissionBytes :=
  if len > raw.start then
    (.error s!"retreat_head beyond start: len={len}, head_room={raw.start}", raw)
  else (.ok, { raw with start := raw.start - len })

/-- `advance_head`. -/
def advanceHead (raw : RawTransmissionBytes) (len : UInt64) :
    BufferOutcome × RawTransmissionBytes :=
  if len > raw.len then
    (.error s!"advance_head beyond end: len={len}, data_len={raw.len}", raw)
  else (.ok, { raw with start := raw.start + len })

/-- `set_len`: the new end is checked against the capacity. -/
def setLen (raw : RawTransmissionBytes) (newLen : UInt64) : BufferOutcome × RawTransmissionBytes :=
  let newEnd := raw.start + newLen
  let max := UInt64.ofNat raw.buf.capacity - raw.start
  if newEnd.toNat > raw.buf.capacity then
    (.error s!"set_len exceeds capacity: new_len={newLen}, max={max}", raw)
  else (.ok, { raw with stop := newEnd })

/-- `resize`. -/
def resize (raw : RawTransmissionBytes) (newLen : UInt64) (value : UInt8) (grown : Nat) :
    BufferOutcome × RawTransmissionBytes :=
  let newEnd := raw.start + newLen
  match raw.buf.resize newEnd.toNat value grown with
  | none => (.panic, raw)
  | some buf => (.ok, { raw with buf := buf, stop := newEnd })

/-- `extend_end`. -/
def extendEnd (raw : RawTransmissionBytes) (n : UInt64) (grown : Nat) :
    BufferOutcome × RawTransmissionBytes :=
  let newEnd := raw.stop + n
  if newEnd.toNat > raw.buf.len then
    match raw.buf.resize newEnd.toNat 0 grown with
    | none => (.panic, raw)
    | some buf => (.ok, { raw with buf := buf, stop := newEnd })
  else (.ok, { raw with stop := newEnd })

/-- `shrink_end`. -/
def shrinkEnd (raw : RawTransmissionBytes) (n : UInt64) : RawTransmissionBytes :=
  if n ≥ raw.len then { raw with stop := raw.start } else { raw with stop := raw.stop - n }

/-- `clear`. -/
def clear (raw : RawTransmissionBytes) : RawTransmissionBytes :=
  { raw with start := 0, stop := 0 }

/-- `into_bytes`: the array is cut off at the end of the data, and then at its start, which fails
behind the end. -/
def intoBytes (raw : RawTransmissionBytes) : Option (List UInt8) :=
  let bytes := raw.buf.bytes.take raw.stop.toNat
  if raw.start.toNat ≤ bytes.length then some (bytes.drop raw.start.toNat) else none

/-- `as_ref` and `as_mut`. -/
def asRef (raw : RawTransmissionBytes) : Option (List UInt8) :=
  slice raw.buf.bytes raw.start.toNat raw.stop.toNat

end RawTransmissionBytes

/-- The ways to build a buffer. -/
inductive BufferConstruction where
  | ofBytesMut (buf : BytesMut)
  | newOffset (start : UInt64)
  | newOffsetZeroed (start : UInt64)
  | zeroed (cap : UInt64)
  | zeroedSize (size reserve : UInt64)
  | withCapacity (headRoom capacity : UInt64)

namespace BufferConstruction

/-- The buffer, unless its array cannot be allocated. -/
def build : BufferConstruction → Option RawTransmissionBytes
  | .ofBytesMut buf => some (.ofBytesMut buf)
  | .newOffset start => RawTransmissionBytes.newOffset start
  | .newOffsetZeroed start => RawTransmissionBytes.newOffsetZeroed start
  | .zeroed cap => RawTransmissionBytes.zeroed cap
  | .zeroedSize size reserve => RawTransmissionBytes.zeroedSize size reserve
  | .withCapacity headRoom capacity => RawTransmissionBytes.withCapacity headRoom capacity

/-- The data starts within the buffer. -/
def StartsInside : BufferConstruction → Prop
  | .newOffset start => start ≤ RawTransmissionBytes.defaultBufSize
  | .newOffsetZeroed start => start ≤ RawTransmissionBytes.defaultBufSize
  | .withCapacity headRoom capacity => headRoom ≤ capacity
  | _ => True

/-- The length of the array does not wrap around. -/
def Fits : BufferConstruction → Prop
  | .zeroedSize size reserve => size.toNat + reserve.toNat < 2 ^ 64
  | _ => True

end BufferConstruction

/-- The operations, with the capacity that the allocator would choose where one needs it. -/
inductive BufferOperation where
  | put (data : List UInt8)
  | retreatHead (len : UInt64)
  | advanceHead (len : UInt64)
  | setLen (newLen : UInt64)
  | resize (newLen : UInt64) (value : UInt8) (grown : Nat)
  | extendEnd (n : UInt64) (grown : Nat)
  | shrinkEnd (n : UInt64)
  | clear

namespace RawTransmissionBytes

/-- What an operation ends with, and the buffer it leaves. -/
def apply (raw : RawTransmissionBytes) : BufferOperation → BufferOutcome × RawTransmissionBytes
  | .put data => raw.put data
  | .retreatHead len => raw.retreatHead len
  | .advanceHead len => raw.advanceHead len
  | .setLen newLen => raw.setLen newLen
  | .resize newLen value grown => raw.resize newLen value grown
  | .extendEnd n grown => raw.extendEnd n grown
  | .shrinkEnd n => (.ok, raw.shrinkEnd n)
  | .clear => (.ok, raw.clear)

end RawTransmissionBytes

/-- A buffer with the operations on it. One that panics leaves it as it is. -/
def rawMachine : Machine RawTransmissionBytes BufferOperation where
  step raw operation := some (raw.apply operation).2

/-! ### The ends of the data -/

namespace RawTransmissionBytes

variable {raw : RawTransmissionBytes}

/-- The ends of the data are in order and inside the array. -/
structure Ordered (raw : RawTransmissionBytes) : Prop where
  start : raw.start.toNat ≤ raw.stop.toNat
  stop : raw.stop.toNat ≤ raw.buf.len

/-- An operation keeps the ends in order: a new length ends inside the array or above its capacity,
and no sum wraps around to in front of the data. -/
def Fits (raw : RawTransmissionBytes) : BufferOperation → Prop
  | .setLen newLen =>
    raw.start.toNat + newLen.toNat ≤ raw.buf.len ∨
      raw.buf.capacity < raw.start.toNat + newLen.toNat ∧
        raw.start.toNat + newLen.toNat < 2 ^ 64
  | .resize newLen _ _ => raw.start.toNat + newLen.toNat < 2 ^ 64
  | .extendEnd n _ =>
    raw.stop.toNat + n.toNat < 2 ^ 64 ∨ raw.start.toNat + 2 ^ 64 ≤ raw.stop.toNat + n.toNat
  | _ => True

theorem ordered_put (ordered : raw.Ordered) (data : List UInt8) : (raw.put data).2.Ordered := by
  unfold put
  dsimp only
  split
  · exact ordered
  · split
    · exact ordered
    · next buf copied =>
      obtain ⟨same, forward, inside⟩ := BytesMut.len_copyAt copied
      exact ⟨Nat.le_trans ordered.start forward, same ▸ inside⟩

theorem ordered_retreatHead (ordered : raw.Ordered) (len : UInt64) :
    (raw.retreatHead len).2.Ordered := by
  unfold retreatHead
  split
  · exact ordered
  · next within =>
    have shorter := UInt64.toNat_sub_of_le raw.start len (UInt64.not_lt.mp within)
    refine ⟨?_, ordered.stop⟩
    have before := ordered.start
    dsimp only
    omega

theorem toNat_len (ordered : raw.Ordered) : raw.len.toNat = raw.stop.toNat - raw.start.toNat :=
  UInt64.toNat_sub_of_le raw.stop raw.start (UInt64.le_iff_toNat_le.mpr ordered.start)

theorem ordered_advanceHead (ordered : raw.Ordered) (len : UInt64) :
    (raw.advanceHead len).2.Ordered := by
  unfold advanceHead
  split
  · exact ordered
  · next within =>
    have length := toNat_len ordered
    have bound := UInt64.le_iff_toNat_le.mp (UInt64.not_lt.mp within)
    have sum := UInt64.toNat_add raw.start len
    refine ⟨?_, ordered.stop⟩
    have before := ordered.start
    have limit := raw.stop.toNat_lt
    dsimp only
    omega

theorem ordered_shrinkEnd (ordered : raw.Ordered) (n : UInt64) : (raw.shrinkEnd n).Ordered := by
  have length := toNat_len ordered
  have before := ordered.start
  have inside := ordered.stop
  unfold shrinkEnd
  split
  · exact ⟨Nat.le_refl _, Nat.le_trans before inside⟩
  · next more =>
    have less := UInt64.lt_iff_toNat_lt.mp (UInt64.not_le.mp more)
    have atMost : n ≤ raw.stop := UInt64.le_iff_toNat_le.mpr (by omega)
    have shorter := UInt64.toNat_sub_of_le raw.stop n atMost
    constructor
    · dsimp only
      omega
    · dsimp only
      omega

/-- A sum that does not wrap around is the sum, and one that does is smaller than its parts. -/
theorem toNat_add_cases (first second : UInt64) :
    first.toNat + second.toNat < 2 ^ 64 ∧ (first + second).toNat = first.toNat + second.toNat ∨
      2 ^ 64 ≤ first.toNat + second.toNat ∧
        (first + second).toNat + 2 ^ 64 = first.toNat + second.toNat := by
  have sum := UInt64.toNat_add first second
  have firstBound := first.toNat_lt
  have secondBound := second.toNat_lt
  omega

theorem ordered_setLen_iff (ordered : raw.Ordered) (newLen : UInt64) :
    (raw.setLen newLen).2.Ordered ↔ raw.Fits (.setLen newLen) := by
  have before := ordered.start
  have inside := ordered.stop
  have fits := raw.buf.fits
  have bounded := raw.buf.bounded
  have limit := newLen.toNat_lt
  have sum := toNat_add_cases raw.start newLen
  unfold setLen Fits
  unfold BytesMut.len at inside ⊢
  dsimp only
  split
  · next above => exact ⟨fun _ => .inr (by omega), fun _ => ordered⟩
  · next below =>
    constructor
    · rintro ⟨forward, within⟩
      unfold BytesMut.len at within
      dsimp only at forward within
      omega
    · intro allowed
      refine ⟨?_, ?_⟩
      · dsimp only
        omega
      · unfold BytesMut.len
        dsimp only
        omega

theorem ordered_resize_iff (ordered : raw.Ordered) (newLen : UInt64) (value : UInt8)
    (grown : Nat) :
    (raw.resize newLen value grown).2.Ordered ↔ raw.Fits (.resize newLen value grown) := by
  have before := ordered.start
  have inside := ordered.stop
  have limit := newLen.toNat_lt
  unfold resize Fits
  dsimp only
  rcases toNat_add_cases raw.start newLen with ⟨below, sum⟩ | ⟨above, sum⟩
  · refine iff_of_true ?_ below
    split
    · exact ordered
    · next buf resized =>
      refine ⟨?_, Nat.le_of_eq (BytesMut.len_resize resized).symm⟩
      dsimp only
      omega
  · refine iff_of_false ?_ (Nat.not_lt.mpr above)
    have shorter : (raw.start + newLen).toNat ≤ raw.buf.len := by omega
    obtain ⟨buf, resized⟩ := BytesMut.resize_of_le shorter value grown
    rw [resized]
    rintro ⟨forward, -⟩
    dsimp only at forward
    omega

theorem ordered_extendEnd_iff (ordered : raw.Ordered) (n : UInt64) (grown : Nat) :
    (raw.extendEnd n grown).2.Ordered ↔ raw.Fits (.extendEnd n grown) := by
  have before := ordered.start
  have inside := ordered.stop
  have limit := n.toNat_lt
  unfold extendEnd Fits
  dsimp only
  rcases toNat_add_cases raw.stop n with ⟨below, sum⟩ | ⟨above, sum⟩
  · refine iff_of_true ?_ (.inl below)
    split
    · split
      · exact ordered
      · next buf resized =>
        refine ⟨?_, Nat.le_of_eq (BytesMut.len_resize resized).symm⟩
        dsimp only
        omega
    · next shorter =>
      refine ⟨?_, Nat.le_of_not_lt shorter⟩
      dsimp only
      omega
  · rw [if_neg (by omega)]
    constructor
    · rintro ⟨forward, -⟩
      dsimp only at forward
      omega
    · intro allowed
      constructor
      · dsimp only
        omega
      · dsimp only
        omega

/-- An operation keeps the ends in order exactly if it fits. -/
theorem ordered_apply_iff (ordered : raw.Ordered) (operation : BufferOperation) :
    (raw.apply operation).2.Ordered ↔ raw.Fits operation := by
  cases operation with
  | put data => exact iff_of_true (ordered_put ordered data) trivial
  | retreatHead len => exact iff_of_true (ordered_retreatHead ordered len) trivial
  | advanceHead len => exact iff_of_true (ordered_advanceHead ordered len) trivial
  | setLen newLen => exact ordered_setLen_iff ordered newLen
  | resize newLen value grown => exact ordered_resize_iff ordered newLen value grown
  | extendEnd n grown => exact ordered_extendEnd_iff ordered n grown
  | shrinkEnd n => exact iff_of_true (ordered_shrinkEnd ordered n) trivial
  | clear => exact iff_of_true ⟨Nat.le_refl _, Nat.zero_le _⟩ trivial

/-- An operation that reports an error leaves the buffer as it is. -/
theorem apply_of_error {operation : BufferOperation} {text : String}
    (fails : (raw.apply operation).1 = .error text) : (raw.apply operation).2 = raw := by
  cases operation with
  | put data =>
    unfold apply put at fails ⊢
    dsimp only at fails ⊢
    split
    · rfl
    · next room =>
      rw [if_neg room] at fails
      split
      · rfl
      · next buf copied =>
        rw [copied] at fails
        cases fails
  | retreatHead len =>
    unfold apply retreatHead at fails ⊢
    dsimp only at fails ⊢
    split
    · rfl
    · next within =>
      rw [if_neg within] at fails
      cases fails
  | advanceHead len =>
    unfold apply advanceHead at fails ⊢
    dsimp only at fails ⊢
    split
    · rfl
    · next within =>
      rw [if_neg within] at fails
      cases fails
  | setLen newLen =>
    unfold apply setLen at fails ⊢
    dsimp only at fails ⊢
    split
    · rfl
    · next within =>
      rw [if_neg within] at fails
      cases fails
  | resize newLen value grown =>
    unfold apply resize at fails
    dsimp only at fails
    split at fails <;> cases fails
  | extendEnd n grown =>
    unfold apply extendEnd at fails
    dsimp only at fails
    split at fails
    · split at fails <;> cases fails
    · cases fails
  | shrinkEnd n => cases fails
  | clear => cases fails

/-- A buffer as it should be: its data can be read, it is what is handed out at the end, and an
operation that reports an error changes nothing. -/
structure Intact (raw : RawTransmissionBytes) : Prop where
  ordered : raw.Ordered
  readable : ∃ data, raw.asRef = some data
  handedOut : raw.intoBytes = raw.asRef
  unchanged : ∀ operation text, (raw.apply operation).1 = .error text →
    (raw.apply operation).2 = raw

theorem asRef_of_ordered (ordered : raw.Ordered) :
    raw.asRef = some ((raw.buf.bytes.take raw.stop.toNat).drop raw.start.toNat) :=
  slice_of_le ordered.start ordered.stop

theorem intoBytes_of_ordered (ordered : raw.Ordered) : raw.intoBytes = raw.asRef := by
  have cut : (raw.buf.bytes.take raw.stop.toNat).length = raw.stop.toNat :=
    List.length_take_of_le ordered.stop
  rw [asRef_of_ordered ordered]
  unfold intoBytes
  dsimp only
  rw [cut, if_pos ordered.start]

theorem intact_iff_ordered : raw.Intact ↔ raw.Ordered :=
  ⟨Intact.ordered, fun ordered => ⟨ordered, ⟨_, asRef_of_ordered ordered⟩,
    intoBytes_of_ordered ordered, fun _ _ => apply_of_error⟩⟩

/-! ### Every run -/

theorem bytes_zeroed {len : Nat} {buf : BytesMut} (built : BytesMut.zeroed len = some buf) :
    buf.bytes = List.replicate len 0 := by
  unfold BytesMut.zeroed at built
  split at built
  · cases built
    rfl
  · cases built

theorem len_zeroed {len : Nat} {buf : BytesMut} (built : BytesMut.zeroed len = some buf) :
    buf.len = len := by
  unfold BytesMut.len
  rw [bytes_zeroed built, List.length_replicate]

/-- A buffer is built in order when its length does not wrap around. -/
theorem ordered_build_iff {construction : BufferConstruction}
    (built : construction.build = some raw) (inside : construction.StartsInside) :
    raw.Ordered ↔ construction.Fits := by
  cases construction with
  | ofBytesMut buf =>
    cases built
    refine iff_of_true ⟨Nat.zero_le _, ?_⟩ trivial
    exact Nat.mod_le _ _
  | newOffset start =>
    unfold BufferConstruction.build newOffset at built
    obtain ⟨buf, isBuf, rfl⟩ := Option.map_eq_some_iff.mp built
    refine iff_of_true ⟨Nat.le_refl _, ?_⟩ trivial
    rw [len_zeroed isBuf]
    exact UInt64.le_iff_toNat_le.mp inside
  | newOffsetZeroed start =>
    unfold BufferConstruction.build newOffsetZeroed at built
    obtain ⟨buf, isBuf, rfl⟩ := Option.map_eq_some_iff.mp built
    refine iff_of_true ⟨UInt64.le_iff_toNat_le.mp inside, ?_⟩ trivial
    exact Nat.le_of_eq (len_zeroed isBuf).symm
  | zeroed cap =>
    obtain ⟨buf, isBuf, rfl⟩ := Option.map_eq_some_iff.mp built
    exact iff_of_true ⟨Nat.zero_le _, Nat.le_of_eq (len_zeroed isBuf).symm⟩ trivial
  | zeroedSize size reserve =>
    obtain ⟨buf, isBuf, rfl⟩ := Option.map_eq_some_iff.mp built
    have limit := reserve.toNat_lt
    have length := len_zeroed isBuf
    rcases toNat_add_cases size reserve with ⟨below, sum⟩ | ⟨above, sum⟩
    · refine iff_of_true ⟨Nat.zero_le _, ?_⟩ below
      dsimp only
      omega
    · refine iff_of_false ?_ (Nat.not_lt.mpr above)
      rintro ⟨-, within⟩
      dsimp only at within
      omega
  | withCapacity headRoom capacity =>
    obtain ⟨buf, isBuf, rfl⟩ := Option.map_eq_some_iff.mp built
    refine iff_of_true ⟨Nat.le_refl _, ?_⟩ trivial
    rw [len_zeroed isBuf]
    exact UInt64.le_iff_toNat_le.mp inside

/-- A buffer that starts inside its array stays intact through a run exactly if its length did not
wrap around when it was built, and each operation fits. -/
theorem intact_throughout_iff {construction : BufferConstruction}
    (built : construction.build = some raw) (inside : construction.StartsInside)
    (operations : List BufferOperation) :
    rawMachine.Throughout Intact raw operations ↔
      construction.Fits ∧ rawMachine.Guarded Fits raw operations := by
  have whenFits : construction.Fits →
      (rawMachine.Throughout Intact raw operations ↔
        rawMachine.Guarded Fits raw operations) := by
    intro fits
    refine Machine.throughout_iff_guarded (fun _ _ _ (_ : True) _ => trivial)
      (fun state operation next _ intact enabled => ?_) (fun state operation disabled => ?_) trivial
      (intact_iff_ordered.mpr ((ordered_build_iff built inside).mpr fits))
    · cases enabled
      rw [intact_iff_ordered]
      exact ordered_apply_iff intact.ordered operation
    · cases disabled
  constructor
  · intro intact
    have fits := (ordered_build_iff built inside).mp intact.start.ordered
    exact ⟨fits, (whenFits fits).mp intact⟩
  · rintro ⟨fits, guarded⟩
    exact (whenFits fits).mpr guarded

/-- Two bytes in an array that has room for eight. -/
def roomy : BytesMut := ⟨[1, 2], 8, by decide, by decide⟩

/-- A length of five fits into the room, but there are only two bytes to show. -/
theorem roomy_setLen_unreadable :
    ¬∀ (construction : BufferConstruction) (raw : RawTransmissionBytes),
      construction.build = some raw → construction.StartsInside →
      ∀ operations, rawMachine.Throughout Intact raw operations := by
  intro always
  have intact := always (.ofBytesMut roomy) _ rfl trivial [.setLen 5]
  have last : (ofBytesMut roomy).setLen 5 |>.2.Intact := (intact.2 _ rfl).start
  obtain ⟨data, isData⟩ := last.readable
  have unreadable : ((ofBytesMut roomy).setLen 5).2.asRef = none := by decide
  rw [unreadable] at isData
  cases isData

theorem intact_throughout_iff_roomy :
    rawMachine.Throughout Intact (ofBytesMut roomy) [.setLen 1, .extendEnd 9 16, .put [7]] ↔
      (BufferConstruction.ofBytesMut roomy).Fits ∧
        rawMachine.Guarded Fits (ofBytesMut roomy) [.setLen 1, .extendEnd 9 16, .put [7]] :=
  intact_throughout_iff (show (BufferConstruction.ofBytesMut roomy).build = some _ from rfl)
    trivial _

/-! ### The three parts -/

/-- The room in front of the data, the data and the room behind it. -/
def parts (raw : RawTransmissionBytes) : TransmissionBytes where
  headRoom := raw.buf.bytes.take raw.start.toNat
  data := (raw.buf.bytes.take raw.stop.toNat).drop raw.start.toNat
  tailRoom := raw.buf.bytes.drop raw.stop.toNat

theorem parts_ofBytesMut (buf : BytesMut) : (ofBytesMut buf).parts = .ofBytes buf.bytes := by
  have length : (UInt64.ofNat buf.len).toNat = buf.bytes.length := by
    refine UInt64.toNat_ofNat_of_lt (Nat.lt_of_le_of_lt buf.fits ?_)
    exact Nat.lt_trans buf.bounded (by decide)
  unfold parts ofBytesMut
  dsimp only
  rw [length, List.take_length, List.drop_length]
  rfl

theorem parts_zeroed {cap : UInt64} (built : zeroed cap = some raw) :
    raw.parts = .zeroed cap.toNat := by
  obtain ⟨buf, isBuf, rfl⟩ := Option.map_eq_some_iff.mp built
  have bytes := bytes_zeroed isBuf
  unfold parts TransmissionBytes.zeroed
  dsimp only
  rw [bytes, List.take_of_length_le (Nat.le_of_eq List.length_replicate),
    List.drop_of_length_le (Nat.le_of_eq List.length_replicate)]
  rfl

theorem parts_zeroedSize {size reserve : UInt64} (built : zeroedSize size reserve = some raw)
    (fits : (BufferConstruction.zeroedSize size reserve).Fits) :
    raw.parts = .zeroedSize size.toNat reserve.toNat := by
  obtain ⟨buf, isBuf, rfl⟩ := Option.map_eq_some_iff.mp built
  have sum : (size + reserve).toNat = size.toNat + reserve.toNat :=
    (UInt64.toNat_add size reserve).trans (Nat.mod_eq_of_lt fits)
  have bytes := bytes_zeroed isBuf
  unfold parts TransmissionBytes.zeroedSize
  dsimp only
  rw [bytes, sum, List.replicate_add, List.take_left' List.length_replicate,
    List.drop_left' List.length_replicate]
  rfl

/-- What is handed out is the data. -/
theorem intoBytes_parts (ordered : raw.Ordered) : raw.intoBytes = some raw.parts.intoBytes := by
  rw [intoBytes_of_ordered ordered, asRef_of_ordered ordered]
  rfl

theorem length_headRoom (ordered : raw.Ordered) :
    raw.parts.headRoom.length = raw.start.toNat :=
  List.length_take_of_le (Nat.le_trans ordered.start ordered.stop)

theorem length_data (ordered : raw.Ordered) :
    raw.parts.data.length = raw.stop.toNat - raw.start.toNat := by
  unfold parts
  rw [List.length_drop, List.length_take_of_le ordered.stop]

theorem length_tailRoom (raw : RawTransmissionBytes) :
    raw.parts.tailRoom.length = raw.buf.len - raw.stop.toNat :=
  List.length_drop

/-- A part of the array and what is behind it. -/
theorem drop_take_append_drop {bytes : List UInt8} {first last : Nat} (forward : first ≤ last)
    (inside : last ≤ bytes.length) :
    (bytes.take last).drop first ++ bytes.drop last = bytes.drop first := by
  have cut : first ≤ (bytes.take last).length := by
    rw [List.length_take_of_le inside]
    exact forward
  rw [← List.drop_append_of_le_length cut, List.take_append_drop]

/-- Two parts of the array that touch. -/
theorem drop_take_append_drop_take {bytes : List UInt8} {first middle last : Nat}
    (forward : first ≤ middle) (onward : middle ≤ last) (inside : middle ≤ bytes.length) :
    (bytes.take middle).drop first ++ (bytes.take last).drop middle =
      (bytes.take last).drop first := by
  have within : middle ≤ (bytes.take last).length := by
    rw [List.length_take]
    omega
  rw [← drop_take_append_drop forward within, List.take_take, Nat.min_eq_left onward]

/-- Retreating moves the boundary between the first two parts. -/
theorem parts_retreatHead (ordered : raw.Ordered) (len : UInt64) :
    raw.parts.retreatHead len.toNat =
      match raw.retreatHead len with
      | (.error text, _) => .error text
      | (_, next) => .ok next.parts := by
  unfold TransmissionBytes.retreatHead retreatHead
  rw [length_headRoom ordered]
  by_cases beyond : len > raw.start
  · rw [if_pos beyond, if_pos (UInt64.lt_iff_toNat_lt.mp beyond)]
    rfl
  · have shorter := UInt64.toNat_sub_of_le raw.start len (UInt64.not_lt.mp beyond)
    have back := Nat.sub_le raw.start.toNat len.toNat
    rw [if_neg beyond, if_neg fun more => beyond (UInt64.lt_iff_toNat_lt.mpr more)]
    unfold parts
    dsimp only
    rw [shorter, drop_take_append_drop_take back ordered.start
      (Nat.le_trans ordered.start ordered.stop), List.take_take, Nat.min_eq_left back]

/-- Shrinking moves the boundary between the last two parts. -/
theorem parts_shrinkEnd (ordered : raw.Ordered) (n : UInt64) :
    (raw.shrinkEnd n).parts = raw.parts.shrinkEnd n.toNat := by
  have before := ordered.start
  have inside := ordered.stop
  have length := toNat_len ordered
  have moved : (raw.shrinkEnd n).buf = raw.buf ∧ (raw.shrinkEnd n).start = raw.start ∧
      (raw.shrinkEnd n).stop.toNat =
        raw.start.toNat + (raw.stop.toNat - raw.start.toNat - n.toNat) := by
    unfold shrinkEnd
    split
    · next most =>
      have more := UInt64.le_iff_toNat_le.mp most
      refine ⟨rfl, rfl, ?_⟩
      dsimp only
      omega
    · next more =>
      have less := UInt64.lt_iff_toNat_lt.mp (UInt64.not_le.mp more)
      have atMost : n ≤ raw.stop := UInt64.le_iff_toNat_le.mpr (by omega)
      have shorter := UInt64.toNat_sub_of_le raw.stop n atMost
      refine ⟨rfl, rfl, ?_⟩
      dsimp only
      omega
  obtain ⟨sameBuf, sameStart, newStop⟩ := moved
  unfold TransmissionBytes.shrinkEnd
  rw [length_data ordered]
  unfold parts
  dsimp only
  have room : raw.start.toNat + (raw.stop.toNat - raw.start.toNat - n.toNat) ≤ raw.stop.toNat := by
    omega
  rw [sameBuf, sameStart, newStop, List.take_drop, List.take_take, Nat.min_eq_left room,
    List.drop_drop, drop_take_append_drop room inside]

/-- The parts of a buffer whose array was resized to where its data ends now. -/
theorem parts_resized (ordered : raw.Ordered) {newEnd : UInt64} {value : UInt8} {grown : Nat}
    {buf : BytesMut} (forward : raw.start.toNat ≤ newEnd.toNat)
    (resized : raw.buf.resize newEnd.toNat value grown = some buf) :
    RawTransmissionBytes.parts { raw with buf := buf, stop := newEnd } =
      { headRoom := raw.parts.headRoom
        data := (raw.buf.bytes.take newEnd.toNat).drop raw.start.toNat ++
          List.replicate (newEnd.toNat - raw.buf.len) value
        tailRoom := [] } := by
  have bytes := BytesMut.bytes_resize resized
  have length := BytesMut.len_resize resized
  unfold BytesMut.len at length
  have inside : raw.start.toNat ≤ (raw.buf.bytes.take newEnd.toNat).length := by
    have := Nat.le_trans ordered.start ordered.stop
    unfold BytesMut.len at this
    rw [List.length_take]
    omega
  unfold parts
  dsimp only
  rw [List.take_of_length_le (Nat.le_of_eq length), List.drop_of_length_le (Nat.le_of_eq length),
    bytes, List.drop_append_of_le_length inside, List.take_append_of_le_length inside,
    List.take_take, Nat.min_eq_left forward]

/-- A resized buffer ends with its data, which is cut off or filled up. -/
theorem parts_resize (ordered : raw.Ordered) {newLen : UInt64} {value : UInt8} {grown : Nat}
    {next : RawTransmissionBytes} (fits : raw.Fits (.resize newLen value grown))
    (resized : raw.resize newLen value grown = (.ok, next)) :
    next.parts = raw.parts.resize newLen.toNat value := by
  have inside := Nat.le_trans ordered.start ordered.stop
  have sum : (raw.start + newLen).toNat = raw.start.toNat + newLen.toNat :=
    (UInt64.toNat_add raw.start newLen).trans (Nat.mod_eq_of_lt fits)
  have whole : raw.parts.data ++ raw.parts.tailRoom = raw.buf.bytes.drop raw.start.toNat :=
    drop_take_append_drop ordered.start ordered.stop
  have count : raw.parts.data.length + raw.parts.tailRoom.length =
      raw.buf.len - raw.start.toNat := by
    rw [← List.length_append, whole, List.length_drop]
    rfl
  have missing : raw.start.toNat + newLen.toNat - raw.buf.len =
      newLen.toNat - (raw.buf.len - raw.start.toNat) := by
    omega
  unfold resize at resized
  dsimp only at resized
  split at resized
  · cases resized
  · next buf isBuf =>
    cases resized
    have forward : raw.start.toNat ≤ (raw.start + newLen).toNat := by
      rw [sum]
      exact Nat.le_add_right _ _
    rw [parts_resized ordered forward isBuf, sum, missing]
    unfold TransmissionBytes.resize
    rw [whole, count, List.take_drop]

/-- An extended buffer takes the new data from the room behind it, and then from a longer array. -/
theorem parts_extendEnd (ordered : raw.Ordered) {n : UInt64} {grown : Nat}
    {next : RawTransmissionBytes} (below : raw.stop.toNat + n.toNat < 2 ^ 64)
    (extended : raw.extendEnd n grown = (.ok, next)) :
    next.parts = raw.parts.extendEnd n.toNat := by
  have sum : (raw.stop + n).toNat = raw.stop.toNat + n.toNat :=
    (UInt64.toNat_add raw.stop n).trans (Nat.mod_eq_of_lt below)
  have taken : raw.parts.data ++ raw.parts.tailRoom.take n.toNat =
      (raw.buf.bytes.take (raw.stop.toNat + n.toNat)).drop raw.start.toNat := by
    unfold parts
    rw [List.take_drop]
    exact drop_take_append_drop_take ordered.start (Nat.le_add_right _ _) ordered.stop
  have left : raw.parts.tailRoom.drop n.toNat =
      raw.buf.bytes.drop (raw.stop.toNat + n.toNat) := List.drop_drop
  have missing : n.toNat - raw.parts.tailRoom.length =
      raw.stop.toNat + n.toNat - raw.buf.len := by
    have inside := ordered.stop
    rw [length_tailRoom]
    omega
  unfold TransmissionBytes.extendEnd
  rw [taken, left, missing]
  unfold extendEnd at extended
  dsimp only at extended
  split at extended
  · next longer =>
    split at extended
    · cases extended
    · next buf isBuf =>
      cases extended
      have forward : raw.start.toNat ≤ (raw.stop + n).toNat := by
        have before := ordered.start
        omega
      have behind : raw.buf.bytes.drop (raw.stop.toNat + n.toNat) = [] := by
        rw [← sum]
        exact List.drop_of_length_le (Nat.le_of_lt longer)
      rw [parts_resized ordered forward isBuf, sum, behind]
  · next shorter =>
    cases extended
    rw [sum] at shorter
    rw [Nat.sub_eq_zero_of_le (Nat.le_of_not_lt shorter), List.replicate_zero, List.append_nil]
    unfold parts
    dsimp only
    rw [sum]

end RawTransmissionBytes

end Vnt
