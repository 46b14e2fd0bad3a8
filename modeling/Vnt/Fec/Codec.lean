/-
This file instantiates the codec of the message by the one its description asks for: the fields
under their numbers in the wire format of protocol buffers, a field left out when it has the
default value. A message is read back whichever of its fields are left out.
-/

import Vnt.Base.Protobuf
import Vnt.Fec.FecPacket

namespace Vnt.Fec

open Vnt.Base Vnt.Base.Protobuf

def ParityData.fields (parityData : ParityData) : List Field :=
  numberField 1 parityData.dataShards.toNat ++ numberField 2 parityData.parityShards.toNat

def FecPacket.fields (packet : FecPacket) : List Field :=
  numberField 1 packet.groupId.toNat ++ (numberField 2 packet.packetIndex.toNat ++
    (bytesField 3 packet.payload ++
      match packet.parityData with
      | some parityData => [⟨4, .delimited (encodeFields parityData.fields)⟩]
      | none => []))

/-- Merge one field into the parity data. -/
def ParityData.merge (parityData : ParityData) (field : Field) : Option ParityData :=
  match field with
  | ⟨1, .varint value⟩ => some { parityData with dataShards := UInt32.ofNat value }
  | ⟨2, .varint value⟩ => some { parityData with parityShards := UInt32.ofNat value }
  | ⟨1, _⟩ => none
  | ⟨2, _⟩ => none
  | _ => some parityData

/-- Merge one field into the packet. -/
def FecPacket.merge (packet : FecPacket) (field : Field) : Option FecPacket :=
  match field with
  | ⟨1, .varint value⟩ => some { packet with groupId := UInt64.ofNat value }
  | ⟨2, .varint value⟩ => some { packet with packetIndex := UInt32.ofNat value }
  | ⟨3, .delimited bytes⟩ => some { packet with payload := bytes }
  | ⟨4, .delimited bytes⟩ =>
    (decodeFields bytes).bind fun fields =>
      (fields.foldlM ParityData.merge (packet.parityData.getD ⟨0, 0⟩)).map fun parityData =>
        { packet with parityData := some parityData }
  | ⟨1, _⟩ => none
  | ⟨2, _⟩ => none
  | ⟨3, _⟩ => none
  | ⟨4, _⟩ => none
  | _ => some packet

def encodeFecPacket (packet : FecPacket) : List UInt8 := encodeFields packet.fields

def decodeFecPacket (bytes : List UInt8) : Except String FecPacket :=
  match (decodeFields bytes).bind fun fields => fields.foldlM FecPacket.merge ⟨0, 0, [], none⟩ with
  | some packet => .ok packet
  | none => .error "failed to decode Protobuf message"

theorem valid_fields_parityData (parityData : ParityData) :
    ∀ field ∈ parityData.fields, field.Valid := by
  have dataShards := parityData.dataShards.toNat_lt
  have parityShards := parityData.parityShards.toNat_lt
  intro field member
  rcases List.mem_append.mp member with first | second
  · exact valid_numberField (by decide) (by decide) (by omega) field first
  · exact valid_numberField (by decide) (by decide) (by omega) field second

/-- Parity data are read back on top of the default. -/
theorem merge_parityData (parityData : ParityData) :
    parityData.fields.foldlM ParityData.merge ⟨0, 0⟩ = some parityData := by
  obtain ⟨dataShards, parityShards⟩ := parityData
  have first : (numberField 1 dataShards.toNat).foldlM ParityData.merge ⟨0, 0⟩ =
      some ⟨dataShards, 0⟩ := by
    refine foldlM_numberField (fun zero => ?_) ?_
    · rw [UInt32.toNat_inj.mp (zero.trans UInt32.toNat_zero.symm)]
    · simp only [ParityData.merge, UInt32.ofNat_toNat]
  have second : (numberField 2 parityShards.toNat).foldlM ParityData.merge ⟨dataShards, 0⟩ =
      some ⟨dataShards, parityShards⟩ := by
    refine foldlM_numberField (fun zero => ?_) ?_
    · rw [UInt32.toNat_inj.mp (zero.trans UInt32.toNat_zero.symm)]
    · simp only [ParityData.merge, UInt32.ofNat_toNat]
  unfold ParityData.fields
  rw [List.foldlM_append, first]
  exact second

theorem length_numberField (tag value : Nat) :
    (encodeFields (numberField tag value)).length ≤ 20 := by
  unfold numberField
  split
  · exact Nat.zero_le _
  · have key := length_encodeGroups 10 (tag * 8 + 0)
    have number := length_encodeGroups 10 value
    simp only [encodeFields, List.flatMap_cons, List.flatMap_nil, Field.encode, FieldValue.encode,
      encodeVarint, List.length_append, List.append_nil]
    omega

theorem length_delimited (tag : Nat) (bytes : List UInt8) :
    (encodeFields [⟨tag, .delimited bytes⟩]).length ≤ bytes.length + 20 := by
  have key := length_encodeGroups 10 (tag * 8 + 2)
  have number := length_encodeGroups 10 bytes.length
  simp only [encodeFields, List.flatMap_cons, List.flatMap_nil, Field.encode, FieldValue.encode,
    encodeVarint, List.length_append, List.append_nil]
  omega

theorem length_parityData (parityData : ParityData) :
    (encodeFields parityData.fields).length ≤ 40 := by
  have dataShards := length_numberField 1 parityData.dataShards.toNat
  have parityShards := length_numberField 2 parityData.parityShards.toNat
  rw [ParityData.fields, encodeFields_append, List.length_append]
  omega

theorem length_encodeFecPacket (packet : FecPacket) :
    (encodeFecPacket packet).length ≤ packet.payload.length + 128 := by
  have groupId := length_numberField 1 packet.groupId.toNat
  have packetIndex := length_numberField 2 packet.packetIndex.toNat
  have payload : (encodeFields (bytesField 3 packet.payload)).length ≤
      packet.payload.length + 20 := by
    unfold bytesField
    split
    · exact Nat.zero_le _
    · exact length_delimited 3 packet.payload
  unfold encodeFecPacket FecPacket.fields
  rw [encodeFields_append, encodeFields_append, encodeFields_append, List.length_append,
    List.length_append, List.length_append]
  cases packet.parityData with
  | none =>
    have empty : (encodeFields []).length = 0 := rfl
    dsimp only
    omega
  | some parityData =>
    have inner := length_parityData parityData
    have outer := length_delimited 4 (encodeFields parityData.fields)
    dsimp only
    omega

theorem valid_fields {packet : FecPacket} (short : packet.payload.length < 2 ^ 32) :
    ∀ field ∈ packet.fields, field.Valid := by
  have groupId := packet.groupId.toNat_lt
  have packetIndex := packet.packetIndex.toNat_lt
  intro field member
  rcases List.mem_append.mp member with first | member
  · exact valid_numberField (by decide) (by decide) groupId field first
  rcases List.mem_append.mp member with second | member
  · exact valid_numberField (by decide) (by decide) (by omega) field second
  rcases List.mem_append.mp member with third | fourth
  · exact valid_bytesField (by decide) (by decide) (by omega) field third
  · cases parity : packet.parityData with
    | none =>
      rw [parity] at fourth
      cases fourth
    | some parityData =>
      have inner := length_parityData parityData
      rw [parity] at fourth
      rw [List.mem_singleton.mp fourth]
      refine ⟨Nat.zero_lt_succ 3, by dsimp only; omega, ?_⟩
      show (encodeFields parityData.fields).length < 2 ^ 64
      omega

/-- A message is read back on top of the default. -/
theorem merge_fecPacket (packet : FecPacket) :
    packet.fields.foldlM FecPacket.merge ⟨0, 0, [], none⟩ = some packet := by
  obtain ⟨groupId, packetIndex, payload, parityData⟩ := packet
  have first : (numberField 1 groupId.toNat).foldlM FecPacket.merge ⟨0, 0, [], none⟩ =
      some ⟨groupId, 0, [], none⟩ := by
    refine foldlM_numberField (fun zero => ?_) ?_
    · rw [UInt64.toNat_inj.mp (zero.trans UInt64.toNat_zero.symm)]
    · simp only [FecPacket.merge, UInt64.ofNat_toNat]
  have second : (numberField 2 packetIndex.toNat).foldlM FecPacket.merge ⟨groupId, 0, [], none⟩ =
      some ⟨groupId, packetIndex, [], none⟩ := by
    refine foldlM_numberField (fun zero => ?_) ?_
    · rw [UInt32.toNat_inj.mp (zero.trans UInt32.toNat_zero.symm)]
    · simp only [FecPacket.merge, UInt32.ofNat_toNat]
  have third : (bytesField 3 payload).foldlM FecPacket.merge ⟨groupId, packetIndex, [], none⟩ =
      some ⟨groupId, packetIndex, payload, none⟩ := by
    unfold bytesField
    split
    · next empty =>
      rw [empty]
      rfl
    · rfl
  unfold FecPacket.fields
  rw [List.foldlM_append, first, Option.bind_eq_bind, Option.bind_some, List.foldlM_append, second,
    Option.bind_eq_bind, Option.bind_some, List.foldlM_append, third, Option.bind_eq_bind,
    Option.bind_some]
  cases parityData with
  | none => rfl
  | some parityData =>
    dsimp only
    rw [List.foldlM_cons]
    simp only [FecPacket.merge, decodeFields_encodeFields (valid_fields_parityData parityData),
      Option.bind_some, Option.getD_none, merge_parityData, Option.map_some]
    rfl

theorem decodeFecPacket_encodeFecPacket {packet : FecPacket}
    (short : packet.payload.length < 2 ^ 32) :
    decodeFecPacket (encodeFecPacket packet) = .ok packet := by
  unfold decodeFecPacket encodeFecPacket
  rw [decodeFields_encodeFields (valid_fields short), Option.bind_some, merge_fecPacket]

/-- The codec of the message description. -/
def protobufCodec : FecCodec where
  encodeToVec := encodeFecPacket
  decode := decodeFecPacket
  length_encodeToVec := length_encodeFecPacket
  decode_encodeToVec := fun _ short => decodeFecPacket_encodeFecPacket short

end Vnt.Fec
