/-
This file embeds the buffer a packet travels in. The source keeps one byte array with the two
ends of the data in it; here the array is the concatenation of the room in front of the data,
the data and the room behind it, so the ends are never out of order. The header of a packet is
written into the room in front, and the tag of the cipher into the room behind.
-/

import Mathlib.Data.List.Basic

namespace Vnt

/-- `TransmissionBytes`: the array is `headRoom ++ data ++ tailRoom`, its `start` the length of
the first part and its `end` that of the first two. -/
structure TransmissionBytes where
  headRoom : List UInt8
  data : List UInt8
  tailRoom : List UInt8
  deriving DecidableEq, Repr

namespace TransmissionBytes

/-- `TransmissionBytes::from`. -/
def ofBytes (bytes : List UInt8) : TransmissionBytes := ⟨[], bytes, []⟩

/-- `TransmissionBytes::zeroed`. -/
def zeroed (capacity : Nat) : TransmissionBytes := ⟨[], List.replicate capacity 0, []⟩

/-- `TransmissionBytes::zeroed_size`. -/
def zeroedSize (size reserve : Nat) : TransmissionBytes :=
  ⟨[], List.replicate size 0, List.replicate reserve 0⟩

/-- `len`. -/
def len (buffer : TransmissionBytes) : Nat := buffer.data.length

/-- `retreat_head`. -/
def retreatHead (buffer : TransmissionBytes) (count : Nat) : Except String TransmissionBytes :=
  if count > buffer.headRoom.length then
    .error s!"retreat_head beyond start: len={count}, head_room={buffer.headRoom.length}"
  else
    .ok
      { headRoom := buffer.headRoom.take (buffer.headRoom.length - count)
        data := buffer.headRoom.drop (buffer.headRoom.length - count) ++ buffer.data
        tailRoom := buffer.tailRoom }

/-- `resize`: the array ends where the data ends. -/
def resize (buffer : TransmissionBytes) (newLen : Nat) (value : UInt8) : TransmissionBytes :=
  { headRoom := buffer.headRoom
    data := (buffer.data ++ buffer.tailRoom).take newLen ++
      List.replicate (newLen - (buffer.data.length + buffer.tailRoom.length)) value
    tailRoom := [] }

/-- `extend_end`: the array grows when the room behind the data is too short. -/
def extendEnd (buffer : TransmissionBytes) (count : Nat) : TransmissionBytes :=
  { headRoom := buffer.headRoom
    data := buffer.data ++ buffer.tailRoom.take count ++
      List.replicate (count - buffer.tailRoom.length) 0
    tailRoom := buffer.tailRoom.drop count }

/-- `shrink_end`. -/
def shrinkEnd (buffer : TransmissionBytes) (count : Nat) : TransmissionBytes :=
  { headRoom := buffer.headRoom
    data := buffer.data.take (buffer.data.length - count)
    tailRoom := buffer.data.drop (buffer.data.length - count) ++ buffer.tailRoom }

/-- `into_bytes`. -/
def intoBytes (buffer : TransmissionBytes) : List UInt8 := buffer.data

variable (buffer : TransmissionBytes) (count newLen : Nat) (value : UInt8)

@[simp] theorem intoBytes_ofBytes (bytes : List UInt8) : (ofBytes bytes).intoBytes = bytes := rfl

@[simp] theorem len_extendEnd : (buffer.extendEnd count).len = buffer.len + count := by
  simp only [len, extendEnd, List.length_append, List.length_take, List.length_replicate]
  omega

@[simp] theorem len_resize : (buffer.resize newLen value).len = newLen := by
  simp only [len, resize, List.length_append, List.length_take, List.length_replicate]
  omega

/-- Shrinking takes back what an extension added. -/
theorem data_shrinkEnd_extendEnd :
    ((buffer.extendEnd count).shrinkEnd count).data = buffer.data := by
  have extended : (buffer.extendEnd count).data.length - count = buffer.data.length := by
    have := buffer.len_extendEnd count
    unfold len at this
    omega
  unfold shrinkEnd
  dsimp only
  rw [extended]
  unfold extendEnd
  rw [List.append_assoc, List.take_left']
  rfl

/-- Room in front of the data becomes data. -/
theorem retreatHead_append (front room data tailRoom : List UInt8) :
    (TransmissionBytes.mk (front ++ room) data tailRoom).retreatHead room.length =
      .ok ⟨front, room ++ data, tailRoom⟩ := by
  have notAfter : ¬room.length > (front ++ room).length := by
    rw [List.length_append]
    omega
  have split : (front ++ room).length - room.length = front.length := by
    rw [List.length_append]
    omega
  unfold retreatHead
  rw [if_neg notAfter]
  dsimp only
  rw [split, List.take_left' rfl, List.drop_left' rfl]

end TransmissionBytes

end Vnt
