/-
This file gives a client the messages it reads from a server and from other clients, as their
descriptions declare them. The lists of clients that a server writes are read as they were written,
and so is the number of a request that a server answers.
-/

import Vnt.Protocol.ClientMessage
import Vnt.Server.WireCodec
import Vnt.Tunnel.ServerInbound

namespace Vnt.Tunnel

open Vnt.Base Vnt.Base.Protobuf Vnt.Server
open Vnt.Registration (decodeError)

/-! ### Reading and writing -/

/-- `ClientSimpleInfoList::from_slice`. -/
def decodeClientSimpleInfoList (buf : List UInt8) : Except String ClientSimpleInfoList :=
  match Proto.ClientSimpleInfoList.format.decode buf with
  | none => .error decodeError
  | some list =>
    .ok
      { dataVersion := list.dataVersion.toNat
        list := list.list.map fun info => ⟨info.ip, info.online⟩
        isAll := list.isAll
        time := list.time.toInt }

def ProtoNatInfo.toProto (msg : ProtoNatInfo) : Proto.NatInfo where
  natType := Int32.ofInt msg.natType
  publicIps := msg.publicIps
  publicUdpPorts := msg.publicUdpPorts
  publicPortRange := msg.publicPortRange
  localIpv4s := msg.localIpv4s
  ipv6 := msg.ipv6
  localUdpPorts := msg.localUdpPorts
  localTcpPort := msg.localTcpPort
  publicTcpPort := msg.publicTcpPort

def ProtoNatInfo.ofProto (msg : Proto.NatInfo) : ProtoNatInfo where
  natType := msg.natType.toInt
  publicIps := msg.publicIps
  publicUdpPorts := msg.publicUdpPorts
  publicPortRange := msg.publicPortRange
  localIpv4s := msg.localIpv4s
  ipv6 := msg.ipv6
  localUdpPorts := msg.localUdpPorts
  localTcpPort := msg.localTcpPort
  publicTcpPort := msg.publicTcpPort

/-- `PunchInfo::encode`. -/
def encodePunchInfo (natInfo : Option ProtoNatInfo) : List UInt8 :=
  Proto.PunchInfo.format.encode ⟨natInfo.map ProtoNatInfo.toProto⟩

/-- The messages of the descriptions. -/
def wireMessages : InboundMessages where
  clientSimpleInfoList := decodeClientSimpleInfoList
  rpcMessageResponse buf :=
    match Proto.RpcMessageResponse.format.decode buf with
    | none => .error decodeError
    | some response => .ok response.id.toNat
  punchInfo buf :=
    match Proto.PunchInfo.format.decode buf with
    | none => .error decodeError
    | some info => .ok (info.natInfo.map ProtoNatInfo.ofProto)
  encodePunchInfo := encodePunchInfo

/-! ### The lists of clients -/

/-- A list as the wire can hold it. -/
structure Holds (list : ClientSimpleInfoList) : Prop where
  dataVersion : list.dataVersion < 2 ^ 64
  time : -2 ^ 63 ≤ list.time ∧ list.time < 2 ^ 63
  fits : (encodeClientSimpleInfoList list).length < 2 ^ 64

/-- A list that the server writes is read by the client as it was written. -/
theorem decode_encodeClientSimpleInfoList {list : ClientSimpleInfoList} (holds : Holds list) :
    decodeClientSimpleInfoList (encodeClientSimpleInfoList list) = .ok list := by
  obtain ⟨dataVersion, ⟨lower, upper⟩, fits⟩ := holds
  unfold decodeClientSimpleInfoList encodeClientSimpleInfoList
  rw [Proto.ClientSimpleInfoList.format.decode_encode fits]
  dsimp only
  have version : (UInt64.ofNat list.dataVersion).toNat = list.dataVersion := by
    rw [UInt64.toNat_ofNat', Nat.mod_eq_of_lt dataVersion]
  have time : (Int64.ofInt list.time).toInt = list.time := by
    have size : Int64.size = 2 ^ 64 := rfl
    rw [Int64.toInt_ofInt, size]
    exact Int.bmod_eq_of_le (by omega) (by omega)
  have infos : (list.list.map fun info => Proto.ClientSimpleInfo.mk info.ip info.online).map
      (fun info => ClientSimpleInfo.mk info.ip info.online) = list.list := by
    rw [List.map_map]
    exact List.map_id _
  rw [version, time, infos]

theorem length_encode_clientSimpleInfo (info : Proto.ClientSimpleInfo) :
    (Proto.ClientSimpleInfo.format.encode info).length ≤ 44 := by
  have ip := Format.length_encode_implicit 1 (.refl true) .fixed32 0 info.ip
  have online := Format.length_encode_implicit 2 (.refl true) .bool false info.online
  have word : (ValueCodec.fixed32.write info.ip).content.length = 4 :=
    (List.length_reverse).trans (length_wordBytes info.ip)
  have bit : (ValueCodec.bool.write info.online).content.length = 0 := rfl
  have both : (Proto.ClientSimpleInfo.format.encode info).length ≤ _ :=
    Format.length_encode_ofEquiv_le (Format.length_encode_both_le ip online)
  omega

/-- A list is as long as its entries, at most 64 bytes each. -/
theorem length_encodeClientSimpleInfoList (list : ClientSimpleInfoList) :
    (encodeClientSimpleInfoList list).length ≤ 64 * list.list.length + 60 := by
  have version := Format.length_encode_implicit 1 (.refl true) .uint64 0
    (UInt64.ofNat list.dataVersion)
  have infos := Format.length_encode_repeated 2 (.refl true) Proto.ClientSimpleInfo.format.codec
    (list.list.map fun info => ⟨info.ip, info.online⟩) fun info _ =>
      length_encode_clientSimpleInfo info
  have isAll := Format.length_encode_implicit 3 (.refl true) .bool false list.isAll
  have time := Format.length_encode_implicit 4 (.refl true) .int64 0 (Int64.ofInt list.time)
  have versionContent :
      (ValueCodec.uint64.write (UInt64.ofNat list.dataVersion)).content.length = 0 :=
    rfl
  have isAllContent : (ValueCodec.bool.write list.isAll).content.length = 0 := rfl
  have timeContent : (ValueCodec.int64.write (Int64.ofInt list.time)).content.length = 0 := rfl
  rw [List.length_map] at infos
  have all : (encodeClientSimpleInfoList list).length ≤ _ :=
    Format.length_encode_ofEquiv_le (Format.length_encode_both_le (Format.length_encode_both_le
      (Format.length_encode_both_le version infos) isAll) time)
  omega

/-! ### The packets of the gateway -/

/-- A packet of the gateway is never compressed. -/
theorem decompress_gatewayPacket (compression : PacketCompression) (msgType : MsgType)
    (payload : List UInt8) :
    compression.decompress ⟨[], gatewayHeader msgType 0, payload, []⟩ =
      .ok ⟨[], gatewayHeader msgType 0, payload, []⟩ := by
  have plain : NetPacket.isCompressed ⟨[], gatewayHeader msgType 0, payload, []⟩ = false := by
    show (((0 : UInt8) ||| gatewayMask) &&& compressedMask != 0) = false
    decide
  unfold PacketCompression.decompress
  split
  · exact LZ4Compression.decompress_of_not_compressed plain
  · rfl

/-- The client takes a packet of the gateway by its kind. -/
theorem handleServerData_gatewayPacket (messages : InboundMessages) (client : InboundClient)
    (serverId : UInt32) (net : NetworkAddr) (now : Int) (msgType : MsgType)
    (payload : List UInt8) :
    client.handleServerData messages serverId net now (gatewayPacket msgType 0 payload) =
      client.processServerData messages serverId net now msgType
        ⟨[], gatewayHeader msgType 0, payload, []⟩ := by
  have read : NetPacket.new (.ofBytes (gatewayPacket msgType 0 payload)) =
      .ok ⟨[], gatewayHeader msgType 0, payload, []⟩ :=
    NetPacket.new_ofBytes_intoBytes ⟨[], gatewayHeader msgType 0, payload, []⟩
  have isType : NetPacket.msgType ⟨[], gatewayHeader msgType 0, payload, []⟩ = .ok msgType :=
    msgType_gatewayHeader msgType 0
  unfold InboundClient.handleServerData
  rw [read]
  dsimp only
  rw [isType]
  dsimp only
  rw [decompress_gatewayPacket]

end Vnt.Tunnel
