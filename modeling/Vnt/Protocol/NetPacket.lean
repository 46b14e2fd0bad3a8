/-
This file embeds the packet of the protocol: a header of 16 bytes in front of a payload. The
source reads the header in place, as a typed view of the first 16 bytes of the buffer; here a
packet is split into the two when it is built, and the writers of the view are updates of the
header. Joining the two again gives back the buffer, and each writer changes its own bytes.
-/

import Vnt.Base.Bytes
import Vnt.Protocol.Transmission

namespace Vnt

open Vnt.Base

/-- `HEAD_LENGTH`. -/
def headLength : Nat := 16

/-- `NetHeader`. -/
structure NetHeader where
  typeByte : UInt8
  ttlByte : UInt8
  flagsByte : UInt8
  reserved : UInt8
  seq : UInt32
  srcId : UInt32
  destId : UInt32
  deriving DecidableEq, Repr

/-- `COMPRESSED`. -/
def compressedMask : UInt8 := 0x80

/-- `GATEWAY`. -/
def gatewayMask : UInt8 := 0x40

/-- `FEC`. -/
def fecMask : UInt8 := 0x20

/-- `MsgType`. -/
inductive MsgType where
  | turn
  | broadcast
  | excludeBroadcast
  | targetBroadcast
  | ping
  | pong
  | pingTurn
  | pongTurn
  | punchStart1
  | punchStart2
  | punchReq
  | punchRes
  | pushClientIps
  | rpcReq
  | rpcRes
  | quic
  deriving DecidableEq, Repr

namespace MsgType

/-- `u8::from`. -/
def toByte : MsgType → UInt8
  | turn => 1
  | broadcast => 2
  | excludeBroadcast => 3
  | targetBroadcast => 4
  | ping => 5
  | pong => 6
  | pingTurn => 7
  | pongTurn => 8
  | punchStart1 => 9
  | punchStart2 => 10
  | punchReq => 11
  | punchRes => 12
  | pushClientIps => 13
  | rpcReq => 14
  | rpcRes => 15
  | quic => 17

/-- `MsgType::try_from`. -/
def ofByte (value : UInt8) : Except String MsgType :=
  match value with
  | 1 => .ok turn
  | 2 => .ok broadcast
  | 3 => .ok excludeBroadcast
  | 4 => .ok targetBroadcast
  | 5 => .ok ping
  | 6 => .ok pong
  | 7 => .ok pingTurn
  | 8 => .ok pongTurn
  | 9 => .ok punchStart1
  | 10 => .ok punchStart2
  | 11 => .ok punchReq
  | 12 => .ok punchRes
  | 13 => .ok pushClientIps
  | 14 => .ok rpcReq
  | 15 => .ok rpcRes
  | 17 => .ok quic
  | _ => .error s!"invalid msg type:{value}"

theorem ofByte_toByte (msgType : MsgType) : ofByte msgType.toByte = .ok msgType := by
  cases msgType <;> rfl

end MsgType

namespace NetHeader

/-- The 16 bytes of a header. -/
def toBytes (header : NetHeader) : List UInt8 :=
  [header.typeByte, header.ttlByte, header.flagsByte, header.reserved] ++
    (wordBytes header.seq ++ (wordBytes header.srcId ++ wordBytes header.destId))

/-- The view of the first 16 bytes. -/
def ofBytes (bytes : List UInt8) : NetHeader where
  typeByte := bytes.getD 0 0
  ttlByte := bytes.getD 1 0
  flagsByte := bytes.getD 2 0
  reserved := bytes.getD 3 0
  seq := ofWordBytes ((bytes.drop 4).take 4)
  srcId := ofWordBytes ((bytes.drop 8).take 4)
  destId := ofWordBytes ((bytes.drop 12).take 4)

/-- The header of a zeroed buffer. -/
def zero : NetHeader := ⟨0, 0, 0, 0, 0, 0, 0⟩

theorem toBytes_zero : zero.toBytes = List.replicate headLength 0 := by decide

@[simp] theorem length_toBytes (header : NetHeader) : header.toBytes.length = headLength := by
  simp [toBytes, headLength]

@[simp] theorem ofBytes_toBytes_append (header : NetHeader) (rest : List UInt8) :
    ofBytes (header.toBytes ++ rest) = header := by
  have seq : ((header.toBytes ++ rest).drop 4).take 4 = wordBytes header.seq := by
    unfold toBytes
    rw [List.append_assoc, List.drop_left' (by simp), List.append_assoc,
      List.take_left' (length_wordBytes _)]
  have src : ((header.toBytes ++ rest).drop 8).take 4 = wordBytes header.srcId := by
    unfold toBytes
    rw [← List.append_assoc, List.append_assoc, List.drop_left' (by simp), List.append_assoc,
      List.take_left' (length_wordBytes _)]
  have dest : ((header.toBytes ++ rest).drop 12).take 4 = wordBytes header.destId := by
    unfold toBytes
    rw [← List.append_assoc, ← List.append_assoc, List.append_assoc, List.drop_left' (by simp),
      List.take_left' (length_wordBytes _)]
  unfold ofBytes
  rw [seq, src, dest, ofWordBytes_wordBytes, ofWordBytes_wordBytes, ofWordBytes_wordBytes]
  rfl

theorem toBytes_ofBytes {bytes : List UInt8} (long : headLength ≤ bytes.length) :
    (ofBytes bytes).toBytes = bytes.take headLength := by
  unfold headLength at long
  have seq : ((bytes.drop 4).take 4).length = 4 := by simp; omega
  have src : ((bytes.drop 8).take 4).length = 4 := by simp; omega
  have dest : ((bytes.drop 12).take 4).length = 4 := by simp; omega
  unfold toBytes ofBytes headLength
  dsimp only
  rw [wordBytes_ofWordBytes seq, wordBytes_ofWordBytes src, wordBytes_ofWordBytes dest]
  match bytes, long with
  | first :: second :: third :: fourth :: rest, long =>
    simp only [List.length_cons] at long
    simp only [List.getD_cons_zero, List.getD_cons_succ, List.drop_succ_cons, List.drop_zero,
      List.take_succ_cons, List.cons_append, List.nil_append]
    rw [← List.take_append_drop 4 (rest.take 12), List.take_take, List.drop_take,
      ← List.take_append_drop 4 ((rest.drop 4).take (12 - 4)), List.take_take, List.drop_take,
      List.drop_drop]
    rfl

def msgType (header : NetHeader) : UInt8 := header.typeByte &&& 0x7F

def setMsgType (header : NetHeader) (msgType : UInt8) : NetHeader :=
  { header with typeByte := (msgType &&& 0x7F) ||| 0x80 }

def maxTtl (header : NetHeader) : UInt8 := header.ttlByte >>> 4

def currTtl (header : NetHeader) : UInt8 := header.ttlByte &&& 0x0F

def setTtl (header : NetHeader) (max curr : UInt8) : NetHeader :=
  { header with ttlByte := (max <<< 4) ||| (curr &&& 0x0F) }

def decrTtl (header : NetHeader) : NetHeader :=
  if header.currTtl = 0 then header
  else { header with ttlByte := (header.ttlByte &&& 0xF0) ||| (header.currTtl - 1) }

def setFlag (header : NetHeader) (mask : UInt8) (value : Bool) : NetHeader :=
  { header with
    flagsByte := if value then header.flagsByte ||| mask else header.flagsByte &&& ~~~mask }

theorem or_and_not (flags mask : UInt8) : (flags ||| mask) &&& ~~~mask = flags &&& ~~~mask := by
  refine UInt8.toBitVec_inj.mp ?_
  simp only [UInt8.toBitVec_and, UInt8.toBitVec_or, UInt8.toBitVec_not]
  ext bit inside
  simp only [BitVec.getElem_and, BitVec.getElem_or, BitVec.getElem_not]
  cases flags.toBitVec[bit] <;> cases mask.toBitVec[bit] <;> rfl

/-- A flag that was set and is cleared is as if it was cleared only. -/
theorem setFlag_setFlag (header : NetHeader) (mask : UInt8) :
    (header.setFlag mask true).setFlag mask false = header.setFlag mask false :=
  congrArg (fun flags => { header with flagsByte := flags }) (or_and_not header.flagsByte mask)

end NetHeader

/-- `NetPacket<TransmissionBytes>`: the data of its buffer is the header and the payload. -/
structure NetPacket where
  headRoom : List UInt8
  header : NetHeader
  payload : List UInt8
  tailRoom : List UInt8
  deriving DecidableEq, Repr

namespace NetPacket

/-- `NetPacket::new`. -/
def new (buffer : TransmissionBytes) : Except String NetPacket :=
  if buffer.len < headLength then .error "invalid input parameter"
  else
    .ok
      { headRoom := buffer.headRoom
        header := .ofBytes buffer.data
        payload := buffer.data.drop headLength
        tailRoom := buffer.tailRoom }

/-- `into_buffer`. -/
def intoBuffer (packet : NetPacket) : TransmissionBytes :=
  ⟨packet.headRoom, packet.header.toBytes ++ packet.payload, packet.tailRoom⟩

/-- The packet on the wire. -/
def intoBytes (packet : NetPacket) : List UInt8 := packet.intoBuffer.intoBytes

def msgType (packet : NetPacket) : Except String MsgType := MsgType.ofByte packet.header.msgType

def ttl (packet : NetPacket) : UInt8 := packet.header.currTtl

def isCompressed (packet : NetPacket) : Bool := packet.header.flagsByte &&& compressedMask != 0

def isGateway (packet : NetPacket) : Bool := packet.header.flagsByte &&& gatewayMask != 0

def isFec (packet : NetPacket) : Bool := packet.header.flagsByte &&& fecMask != 0

def setMsgType (packet : NetPacket) (msgType : MsgType) : NetPacket :=
  { packet with header := packet.header.setMsgType msgType.toByte }

def decrTtl (packet : NetPacket) : NetPacket := { packet with header := packet.header.decrTtl }

def setGatewayFlag (packet : NetPacket) (gateway : Bool) : NetPacket :=
  { packet with header := packet.header.setFlag gatewayMask gateway }

def setTtl (packet : NetPacket) (ttl : UInt8) : NetPacket :=
  { packet with header := packet.header.setTtl ttl ttl }

def setSrcId (packet : NetPacket) (id : UInt32) : NetPacket :=
  { packet with header := { packet.header with srcId := id } }

def setDestId (packet : NetPacket) (id : UInt32) : NetPacket :=
  { packet with header := { packet.header with destId := id } }

def setCompressedFlag (packet : NetPacket) (compressed : Bool) : NetPacket :=
  { packet with header := packet.header.setFlag compressedMask compressed }

def setFecFlag (packet : NetPacket) (fec : Bool) : NetPacket :=
  { packet with header := packet.header.setFlag fecMask fec }

def setPayload (packet : NetPacket) (data : List UInt8) : Except String NetPacket :=
  if packet.payload.length < data.length then .error "Invalid message length"
  else .ok { packet with payload := data ++ packet.payload.drop data.length }

/-- `source_buf_mut().resize`, for a length that leaves the header. -/
def resize (packet : NetPacket) (payloadLen : Nat) : NetPacket :=
  { packet with
    payload := (packet.payload ++ packet.tailRoom).take payloadLen ++
      List.replicate (payloadLen - (packet.payload.length + packet.tailRoom.length)) 0
    tailRoom := [] }

/-- `source_buf_mut().extend_end`. -/
def extendEnd (packet : NetPacket) (count : Nat) : NetPacket :=
  { packet with
    payload := packet.payload ++ packet.tailRoom.take count ++
      List.replicate (count - packet.tailRoom.length) 0
    tailRoom := packet.tailRoom.drop count }

/-- `source_buf_mut().shrink_end`, for a count that leaves the header. -/
def shrinkEnd (packet : NetPacket) (count : Nat) : NetPacket :=
  { packet with
    payload := packet.payload.take (packet.payload.length - count)
    tailRoom := packet.payload.drop (packet.payload.length - count) ++ packet.tailRoom }

variable (packet : NetPacket)

/-! ### The view and the buffer -/

@[simp] theorem new_intoBuffer : new packet.intoBuffer = .ok packet := by
  have long : ¬packet.intoBuffer.len < headLength := by
    simp [intoBuffer, TransmissionBytes.len]
  unfold new
  rw [if_neg long]
  unfold intoBuffer
  dsimp only
  rw [NetHeader.ofBytes_toBytes_append, List.drop_left' (NetHeader.length_toBytes _)]

theorem intoBuffer_new {buffer : TransmissionBytes} (built : new buffer = .ok packet) :
    packet.intoBuffer = buffer := by
  unfold new at built
  split at built
  · cases built
  · next long =>
    cases built
    unfold intoBuffer
    dsimp only
    rw [NetHeader.toBytes_ofBytes (Nat.le_of_not_lt long), List.take_append_drop]

theorem intoBuffer_extendEnd (count : Nat) :
    (packet.extendEnd count).intoBuffer = packet.intoBuffer.extendEnd count := by
  unfold intoBuffer extendEnd TransmissionBytes.extendEnd
  dsimp only
  rw [List.append_assoc, List.append_assoc, List.append_assoc]

theorem intoBuffer_resize (payloadLen : Nat) :
    (packet.resize payloadLen).intoBuffer =
      packet.intoBuffer.resize (headLength + payloadLen) 0 := by
  unfold intoBuffer resize TransmissionBytes.resize
  dsimp only
  rw [List.append_assoc, ← packet.header.length_toBytes, List.take_length_add_append,
    List.append_assoc, List.length_append, Nat.add_assoc, Nat.add_sub_add_left]

theorem intoBuffer_shrinkEnd {count : Nat} (leaves : count ≤ packet.payload.length) :
    (packet.shrinkEnd count).intoBuffer = packet.intoBuffer.shrinkEnd count := by
  unfold intoBuffer shrinkEnd TransmissionBytes.shrinkEnd
  dsimp only
  rw [List.length_append, Nat.add_sub_assoc leaves, List.take_length_add_append,
    List.drop_length_add_append]

/-- Reading a packet from the wire gives its header and payload back. -/
theorem new_ofBytes_intoBytes : new (.ofBytes packet.intoBytes) =
    .ok ⟨[], packet.header, packet.payload, []⟩ :=
  new_intoBuffer ⟨[], packet.header, packet.payload, []⟩

/-- A zeroed buffer is a packet with a zero header. -/
theorem new_zeroed (size : Nat) : new (.zeroed (headLength + size)) =
    .ok ⟨[], .zero, List.replicate size 0, []⟩ := by
  have split : TransmissionBytes.zeroed (headLength + size) =
      (NetPacket.mk [] .zero (List.replicate size 0) []).intoBuffer := by
    unfold TransmissionBytes.zeroed intoBuffer
    rw [← List.replicate_append_replicate, ← NetHeader.toBytes_zero]
  rw [split, new_intoBuffer]

theorem new_zeroedSize (size reserve : Nat) : new (.zeroedSize (headLength + size) reserve) =
    .ok ⟨[], .zero, List.replicate size 0, List.replicate reserve 0⟩ := by
  have split : TransmissionBytes.zeroedSize (headLength + size) reserve =
      (NetPacket.mk [] .zero (List.replicate size 0) (List.replicate reserve 0)).intoBuffer := by
    unfold TransmissionBytes.zeroedSize intoBuffer
    rw [← List.replicate_append_replicate, ← NetHeader.toBytes_zero]
  rw [split, new_intoBuffer]

/-- A payload of the length of the packet's is taken over whole. -/
theorem setPayload_of_length {data : List UInt8} (same : packet.payload.length = data.length) :
    packet.setPayload data = .ok { packet with payload := data } := by
  unfold setPayload
  rw [if_neg (by omega), ← same, List.drop_length, List.append_nil]

/-- A blank payload of the length of the data is overwritten by it. -/
theorem setPayload_blank (headRoom tailRoom : List UInt8) (header : NetHeader)
    (data : List UInt8) :
    (NetPacket.mk headRoom header (List.replicate data.length 0) tailRoom).setPayload data =
      .ok ⟨headRoom, header, data, tailRoom⟩ :=
  setPayload_of_length _ List.length_replicate

theorem length_payload_resize (payloadLen : Nat) :
    (packet.resize payloadLen).payload.length = payloadLen := by
  simp only [resize, List.length_append, List.length_take, List.length_replicate]
  omega

/-- The message type that was set is read back. -/
theorem msgType_of_typeByte {packet : NetPacket} {msgType : MsgType}
    (typeByte : packet.header.typeByte = (msgType.toByte &&& 0x7F) ||| 0x80) :
    packet.msgType = .ok msgType := by
  have read : ((msgType.toByte &&& 0x7F) ||| 0x80) &&& 0x7F = msgType.toByte := by
    cases msgType <;> decide
  unfold NetPacket.msgType NetHeader.msgType
  rw [typeByte, read, MsgType.ofByte_toByte]

end NetPacket

end Vnt
