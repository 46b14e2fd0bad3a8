/-
This file settles whether a client ever seals two plaintexts under one nonce. The nonce is made of
the message type, the sequence number and the two addresses, and whoever puts a packet together
leaves the sequence number at zero. So the nonce tells nothing apart but the type of a packet and
its two ends, and the second packet of a type to the same client repeats the nonce of the first.
-/

import Vnt.Base.Machine
import Vnt.Fec.Batch
import Vnt.Fec.Codec
import Vnt.Fec.PairCode
import Vnt.Crypto.ChaCha20Poly1305
import Vnt.Tunnel.ServerInbound

namespace Vnt

open Vnt.Base Vnt.Fec

/-- Whether the cipher seals a packet: there is one, and it does not fail. -/
def PacketCrypto.seals (packetCrypto : PacketCrypto) (packet : NetPacket) : Bool :=
  packetCrypto.crypto.isSome && (packetCrypto.encryptInPlace packet).toOption.isSome

theorem PacketCrypto.seals_of_short {packetCrypto : PacketCrypto} {packet : NetPacket}
    (present : packetCrypto.crypto.isSome = true)
    (short : packet.payload.length ≤ 64 * (2 ^ 32 - 1)) : packetCrypto.seals packet = true := by
  obtain ⟨encrypted, outcome⟩ := packetCrypto.encryptInPlace_ok short
  unfold seals
  rw [present, outcome]
  rfl

namespace Tunnel

/-! ### The packets a client seals -/

/-- A packet with its payload that is to be sent directly. -/
def filledPacket (msgType : MsgType) (ttl : UInt8) (src dest : Ipv4Addr) (size : Nat)
    (payload : List UInt8) (reserve : Nat) : Except String NetPacket :=
  (directPacket msgType ttl src dest size reserve).bind fun packet => packet.setPayload payload

/-- What clients tell each other: the pings of `ping_all` and those of `relay_probe_task`, the
answers to them, and the four messages of a punch. -/
inductive ClientMessage where
  | ping (src dest : Ipv4Addr) (millis : Int)
  | relayProbe (src dest : Ipv4Addr) (millis : Int)
  | pong (src dest : Ipv4Addr) (payload : List UInt8)
  | punchStart1 (src dest : Ipv4Addr) (punchInfo : List UInt8)
  | punchStart2 (src dest : Ipv4Addr) (punchInfo : List UInt8)
  | punchReq (src dest : Ipv4Addr) (millis : Int)
  | punchRes (src dest : Ipv4Addr) (millis : Int)

/-- The packet of a message, before it is encrypted. -/
def ClientMessage.packet (reserve : Nat) : ClientMessage → Except String NetPacket
  | .ping src dest millis => filledPacket .ping 1 src dest 8 (timeBytes millis) reserve
  | .relayProbe src dest millis => filledPacket .ping 2 src dest 8 (timeBytes millis) reserve
  | .pong src dest payload => filledPacket .pong 1 src dest 8 payload reserve
  | .punchStart1 src dest punchInfo =>
    filledPacket .punchStart1 2 src dest punchInfo.length punchInfo reserve
  | .punchStart2 src dest punchInfo =>
    filledPacket .punchStart2 2 src dest punchInfo.length punchInfo reserve
  | .punchReq src dest millis => filledPacket .punchReq 1 src dest 8 (timeBytes millis) reserve
  | .punchRes src dest millis => filledPacket .punchRes 1 src dest 8 (timeBytes millis) reserve

/-- `outbound_raw`, up to the sending: the packet is wrapped, but not encrypted. -/
def HybridOutbound.outboundRaw (codec : FecCodec) (outbound : HybridOutbound) (now : Instant)
    (ip : Option Ipv4Addr) (packet : NetPacket) : Except String (HybridOutbound × NetPacket) :=
  if packet.header.srcId = 0 then
    match ip with
    | some ip => outbound.wrap codec now (packet.setSrcId ip)
    | none => .error "Not src ip"
  else outbound.wrap codec now packet

/-- The parity packets of batches; a batch whose coding fails has none. -/
def parityPackets (code : ErasureCode UInt8) (codec : FecCodec) (batches : List ClosedBatch) :
    List NetPacket :=
  batches.flatMap fun batch => (encodeAndSendParity code codec batch).toOption.getD []

/-- A client as far as it seals packets: the way of its data with the batches of the encoder, the
parity packets that the worker of the encoder has still to send, and the packets that were sealed
so far, as they were before. -/
structure SealingClient where
  outbound : HybridOutbound
  parity : List NetPacket
  sealedPackets : List NetPacket

/-- What makes a client seal a packet, or leads to it. -/
inductive SealEvent where
  | ipv4Outbound (now : Instant) (net : NetworkAddr) (data tailRoom : List UInt8)
  | ipv4BroadcastOutbound (net : NetworkAddr) (data tailRoom : List UInt8)
  | outboundRaw (now : Instant) (ip : Option Ipv4Addr) (packet : NetPacket)
  | takeFull
  | takeTimedOut (now : Instant)
  | sendParity
  | message (message : ClientMessage)

namespace SealingClient

/-- A buffer of the device, with zeroed room for a header. -/
def deviceBuffer (data tailRoom : List UInt8) : TransmissionBytes :=
  ⟨List.replicate headLength 0, data, tailRoom⟩

/-- `fec_encoder_worker` takes batches, when it has sent the parity of the ones before. -/
def work (code : ErasureCode UInt8) (codec : FecCodec) (client : SealingClient)
    (take : FecEncoder → Option (FecEncoder × List ClosedBatch)) : Option SealingClient :=
  if client.parity = [] then
    (client.outbound.fecEncoder.bind take).map fun taken =>
      { client with
        outbound := { client.outbound with fecEncoder := some taken.1 }
        parity := parityPackets code codec taken.2 }
  else none

/-- An event up to the encryption: the client, and the packet that is handed to
`encrypt_in_place`. -/
def prepare (code : ErasureCode UInt8) (codec : FecCodec) (client : SealingClient) :
    SealEvent → Option (SealingClient × Option NetPacket)
  | .ipv4Outbound now net data tailRoom =>
    match client.outbound.ipv4Prepared codec now net (deviceBuffer data tailRoom) with
    | .error _ => some (client, none)
    | .ok (outbound, sent) => some ({ client with outbound := outbound }, sent.map Prod.snd)
  | .ipv4BroadcastOutbound net data tailRoom =>
    some (client, (client.outbound.broadcastPrepared net (deviceBuffer data tailRoom)).toOption)
  | .outboundRaw now ip packet =>
    match client.outbound.outboundRaw codec now ip packet with
    | .error _ => some (client, none)
    | .ok (outbound, _) => some ({ client with outbound := outbound }, none)
  | .takeFull =>
    (client.work code codec fun encoder =>
      encoder.takeFull.map fun taken => (taken.1, [taken.2])).map fun next => (next, none)
  | .takeTimedOut now =>
    (client.work code codec fun encoder => some (encoder.takeTimedOut now)).map fun next =>
      (next, none)
  | .sendParity =>
    match client.parity with
    | [] => none
    | packet :: rest => some ({ client with parity := rest }, some packet)
  | .message message =>
    some (client, (message.packet client.outbound.packetCrypto.encryptReserve).toOption)

/-- The packets that a client has sealed once a packet was handed to `encrypt_in_place`. -/
def encrypt (client : SealingClient) (packet : NetPacket) : SealingClient :=
  if client.outbound.packetCrypto.seals packet = true then
    { client with sealedPackets := client.sealedPackets ++ [packet] }
  else client

/-- No two plaintexts were sealed under one nonce. -/
def NonceUnique (client : SealingClient) : Prop :=
  ∀ first ∈ client.sealedPackets, ∀ second ∈ client.sealedPackets,
    makeNonce first.header = makeNonce second.header → first.payload = second.payload

/-- Every packet that was sealed of the type and between the ends of this one has its plaintext. -/
def Repeats (client : SealingClient) (packet : NetPacket) : Prop :=
  ∀ earlier ∈ client.sealedPackets, earlier.header.typeByte = packet.header.typeByte →
    earlier.header.srcId = packet.header.srcId → earlier.header.destId = packet.header.destId →
      earlier.payload = packet.payload

/-- What an event hands to the cipher has a type or an end of its own, or a known plaintext. -/
def Distinguished (code : ErasureCode UInt8) (codec : FecCodec) (client : SealingClient)
    (event : SealEvent) : Prop :=
  ∀ packet ∈ (client.prepare code codec event).bind Prod.snd,
    client.outbound.packetCrypto.seals packet = true → client.Repeats packet

end SealingClient

/-- The runs of a client. -/
def sealingMachine (code : ErasureCode UInt8) (codec : FecCodec) :
    Machine SealingClient SealEvent where
  step client event :=
    (client.prepare code codec event).map fun prepared =>
      match prepared.2 with
      | none => prepared.1
      | some packet => prepared.1.encrypt packet

variable {code : ErasureCode UInt8} {codec : FecCodec} {client next : SealingClient}
  {packet : NetPacket}

/-! ### The sequence number -/

theorem eq_ok_of_toOption {Error Value : Type} {result : Except Error Value} {value : Value}
    (present : result.toOption = some value) : result = .ok value := by
  cases result with
  | error message => cases present
  | ok other =>
    cases present
    rfl

theorem seq_filledPacket {msgType : MsgType} {ttl : UInt8} {src dest : Ipv4Addr} {size : Nat}
    {payload : List UInt8} {reserve : Nat}
    (outcome : filledPacket msgType ttl src dest size payload reserve = .ok packet) :
    packet.header.seq = 0 := by
  unfold filledPacket directPacket at outcome
  rw [NetPacket.new_zeroedSize] at outcome
  unfold Except.map Except.bind NetPacket.setPayload at outcome
  dsimp only at outcome
  split at outcome
  · cases outcome
  · cases outcome
    rfl

theorem ClientMessage.seq_packet {message : ClientMessage} {reserve : Nat}
    (outcome : message.packet reserve = .ok packet) : packet.header.seq = 0 := by
  cases message with
  | ping src dest millis => exact seq_filledPacket outcome
  | relayProbe src dest millis => exact seq_filledPacket outcome
  | pong src dest payload => exact seq_filledPacket outcome
  | punchStart1 src dest punchInfo => exact seq_filledPacket outcome
  | punchStart2 src dest punchInfo => exact seq_filledPacket outcome
  | punchReq src dest millis => exact seq_filledPacket outcome
  | punchRes src dest millis => exact seq_filledPacket outcome

theorem seq_parityPackets {batches : List ClosedBatch}
    (member : packet ∈ parityPackets code codec batches) : packet.header.seq = 0 := by
  obtain ⟨batch, -, member⟩ := List.mem_flatMap.mp member
  unfold encodeAndSendParity at member
  split at member
  · cases member
  · split at member
    · cases member
    · next parity _ =>
      have all : (parity.zipIdx.mapM fun shard =>
          parityPacket codec batch (parityShards batch.items.length) shard.2 shard.1) =
            .ok (parity.zipIdx.map (parityWire codec batch (parityShards batch.items.length))) := by
        rw [funext (parityPacket_eq codec batch (parityShards batch.items.length))]
        exact List.mapM_pure
      rw [all] at member
      obtain ⟨shard, -, rfl⟩ := List.mem_map.mp member
      rfl

/-- The room of a buffer of the device becomes a header without a sequence number. -/
theorem address_deviceBuffer (net : NetworkAddr) (msgType : MsgType) (dest : Ipv4Addr)
    (data tailRoom : List UInt8) :
    HybridOutbound.address net msgType dest (SealingClient.deviceBuffer data tailRoom) =
      .ok ⟨[], outgoingHeader net msgType dest, data, tailRoom⟩ :=
  address_eq msgType [] data tailRoom

/-- The header and the compression leave the sequence number of the zeroed room. -/
theorem seq_compress_address {packetCompression : PacketCompression} {net : NetworkAddr}
    {msgType : MsgType} {dest : Ipv4Addr} {data tailRoom : List UInt8} {reserve : Nat}
    (outcome : packetCompression.compress
      ⟨[], outgoingHeader net msgType dest, data, tailRoom⟩ reserve = .ok packet) :
    packet.header.seq = 0 := by
  rcases PacketCompression.header_compress outcome with header | header
  · rw [header]
    rfl
  · rw [header]
    rfl

/-- The wrapping changes neither the cipher nor the sequence number. -/
theorem HybridOutbound.wrap_frame {outbound next : HybridOutbound} {now : Instant}
    {plain wrapped : NetPacket} (outcome : outbound.wrap codec now plain = .ok (next, wrapped)) :
    next.packetCrypto = outbound.packetCrypto ∧ wrapped.header.seq = plain.header.seq := by
  unfold HybridOutbound.wrap at outcome
  split at outcome
  · cases outcome
    exact ⟨rfl, rfl⟩
  · next encoder _ =>
    by_cases fits : plain.payload.length ≤ 65535
    · rw [encoder.encode_eq codec now fits] at outcome
      cases outcome
      exact ⟨rfl, rfl⟩
    · have tooBig : encoder.encode codec now plain = .error "Payload too big" := by
        unfold FecEncoder.encode
        rw [if_pos (Nat.lt_of_not_le fits)]
        rfl
      rw [tooBig] at outcome
      cases outcome

theorem HybridOutbound.packetCrypto_outboundRaw {outbound next : HybridOutbound} {now : Instant}
    {ip : Option Ipv4Addr} {plain wrapped : NetPacket}
    (outcome : outbound.outboundRaw codec now ip plain = .ok (next, wrapped)) :
    next.packetCrypto = outbound.packetCrypto := by
  unfold HybridOutbound.outboundRaw at outcome
  split at outcome
  · split at outcome
    · exact (wrap_frame outcome).1
    · cases outcome
  · exact (wrap_frame outcome).1

theorem HybridOutbound.ipv4Prepared_frame {outbound next : HybridOutbound} {now : Instant}
    {net : NetworkAddr} {data tailRoom : List UInt8} {sent : Option (Ipv4Addr × NetPacket)}
    (outcome : outbound.ipv4Prepared codec now net (SealingClient.deviceBuffer data tailRoom) =
      .ok (next, sent)) :
    next.packetCrypto = outbound.packetCrypto ∧
      ∀ packet ∈ sent.map Prod.snd, packet.header.seq = 0 := by
  unfold HybridOutbound.ipv4Prepared at outcome
  split at outcome
  · cases outcome
    exact ⟨rfl, nofun⟩
  · next address _ =>
    split at outcome
    · rw [address_deviceBuffer] at outcome
      cases outcome
      exact ⟨rfl, nofun⟩
    · next dest _ =>
      rw [address_deviceBuffer] at outcome
      dsimp only [bind, Except.bind] at outcome
      split at outcome
      · cases outcome
      · next compressed compressedOutcome =>
        split at outcome
        · cases outcome
        · next wrapped wrappedOutcome =>
          cases outcome
          obtain ⟨sameCrypto, sameSeq⟩ := wrap_frame wrappedOutcome
          refine ⟨sameCrypto, fun packet member => ?_⟩
          cases member
          exact sameSeq.trans (seq_compress_address compressedOutcome)

theorem HybridOutbound.seq_broadcastPrepared {outbound : HybridOutbound} {net : NetworkAddr}
    {data tailRoom : List UInt8}
    (outcome : outbound.broadcastPrepared net (SealingClient.deviceBuffer data tailRoom) =
      .ok packet) : packet.header.seq = 0 := by
  unfold HybridOutbound.broadcastPrepared at outcome
  rw [address_deviceBuffer] at outcome
  exact seq_compress_address outcome

/-! ### A step -/

namespace SealingClient

/-- No packet that was sealed, and none that waits for it, has a sequence number. -/
structure Unnumbered (client : SealingClient) : Prop where
  parity : ∀ packet ∈ client.parity, packet.header.seq = 0
  sealedPackets : ∀ packet ∈ client.sealedPackets, packet.header.seq = 0

/-- What an event does up to the encryption, of a client whose packets have no sequence number. -/
structure Prepared (client next : SealingClient) (sent : Option NetPacket) : Prop where
  packetCrypto : next.outbound.packetCrypto = client.outbound.packetCrypto
  sealedPackets : next.sealedPackets = client.sealedPackets
  parity : ∀ packet ∈ next.parity, packet.header.seq = 0
  sent : ∀ packet ∈ sent, packet.header.seq = 0

theorem Unnumbered.same (unnumbered : client.Unnumbered) {sent : Option NetPacket}
    (isSent : ∀ packet ∈ sent, packet.header.seq = 0) : client.Prepared client sent :=
  ⟨rfl, rfl, unnumbered.parity, isSent⟩

theorem prepared_work {take : FecEncoder → Option (FecEncoder × List ClosedBatch)}
    (outcome : client.work code codec take = some next) : client.Prepared next none := by
  unfold work at outcome
  split at outcome
  · obtain ⟨taken, -, rfl⟩ := Option.map_eq_some_iff.mp outcome
    exact ⟨rfl, rfl, fun packet member => seq_parityPackets member, nofun⟩
  · cases outcome

theorem Unnumbered.prepared (unnumbered : client.Unnumbered) {event : SealEvent}
    {sent : Option NetPacket} (outcome : client.prepare code codec event = some (next, sent)) :
    client.Prepared next sent := by
  cases event with
  | ipv4Outbound now net data tailRoom =>
    unfold prepare at outcome
    dsimp only at outcome
    split at outcome
    · cases outcome
      exact unnumbered.same nofun
    · next outbound routed preparedOutcome =>
      cases outcome
      obtain ⟨sameCrypto, isSent⟩ := HybridOutbound.ipv4Prepared_frame preparedOutcome
      exact ⟨sameCrypto, rfl, unnumbered.parity, isSent⟩
  | ipv4BroadcastOutbound net data tailRoom =>
    cases outcome
    refine unnumbered.same fun packet member => ?_
    exact HybridOutbound.seq_broadcastPrepared (eq_ok_of_toOption member)
  | outboundRaw now ip packet =>
    unfold prepare at outcome
    dsimp only at outcome
    split at outcome
    · cases outcome
      exact unnumbered.same nofun
    · next outbound wrapped rawOutcome =>
      cases outcome
      exact ⟨HybridOutbound.packetCrypto_outboundRaw rawOutcome, rfl, unnumbered.parity, nofun⟩
  | takeFull =>
    obtain ⟨worked, workOutcome, same⟩ := Option.map_eq_some_iff.mp outcome
    cases same
    exact prepared_work workOutcome
  | takeTimedOut now =>
    obtain ⟨worked, workOutcome, same⟩ := Option.map_eq_some_iff.mp outcome
    cases same
    exact prepared_work workOutcome
  | sendParity =>
    have waiting := unnumbered.parity
    unfold prepare at outcome
    dsimp only at outcome
    split at outcome
    · cases outcome
    · next packet rest found =>
      rw [found] at waiting
      obtain ⟨first, others⟩ := List.forall_mem_cons.mp waiting
      cases outcome
      refine ⟨rfl, rfl, others, fun other member => ?_⟩
      cases member
      exact first
  | message message =>
    cases outcome
    refine unnumbered.same fun packet member => ?_
    exact ClientMessage.seq_packet (eq_ok_of_toOption member)

/-- A packet that is sealed leaves the nonces unique exactly when it repeats the plaintext of every
packet of its type and between its ends. -/
theorem nonceUnique_append_iff {parity : List NetPacket} {outbound : HybridOutbound}
    (unnumbered : client.Unnumbered) (isUnnumbered : packet.header.seq = 0)
    (unique : client.NonceUnique) :
    NonceUnique ⟨outbound, parity, client.sealedPackets ++ [packet]⟩ ↔ client.Repeats packet := by
  have sameNonce : ∀ earlier ∈ client.sealedPackets,
      (makeNonce earlier.header = makeNonce packet.header ↔
        earlier.header.typeByte = packet.header.typeByte ∧
          earlier.header.srcId = packet.header.srcId ∧
            earlier.header.destId = packet.header.destId) := fun earlier member =>
    makeNonce_eq_iff ((unnumbered.sealedPackets earlier member).trans isUnnumbered.symm)
  constructor
  · intro uniqueNext earlier member typeByte src dest
    exact uniqueNext earlier (List.mem_append_left _ member) packet
      (List.mem_append_right _ (List.mem_singleton.mpr rfl))
      ((sameNonce earlier member).mpr ⟨typeByte, src, dest⟩)
  · intro repeats first firstMember second secondMember same
    have against : ∀ earlier ∈ client.sealedPackets,
        makeNonce earlier.header = makeNonce packet.header → earlier.payload = packet.payload := by
      intro earlier member nonce
      obtain ⟨typeByte, src, dest⟩ := (sameNonce earlier member).mp nonce
      exact repeats earlier member typeByte src dest
    rcases List.mem_append.mp firstMember with old | new
    · rcases List.mem_append.mp secondMember with otherOld | otherNew
      · exact unique first old second otherOld same
      · cases List.mem_singleton.mp otherNew
        exact against first old same
    · cases List.mem_singleton.mp new
      rcases List.mem_append.mp secondMember with otherOld | otherNew
      · exact (against second otherOld same.symm).symm
      · cases List.mem_singleton.mp otherNew
        rfl

variable {event : SealEvent}

theorem Prepared.unnumbered {sent : Option NetPacket} (prepared : client.Prepared next sent)
    (unnumbered : client.Unnumbered) : next.Unnumbered :=
  ⟨prepared.parity, fun packet member =>
    unnumbered.sealedPackets packet (prepared.sealedPackets ▸ member)⟩

theorem Unnumbered.encrypt (unnumbered : client.Unnumbered) (seq : packet.header.seq = 0) :
    (client.encrypt packet).Unnumbered := by
  unfold SealingClient.encrypt
  split
  · refine ⟨unnumbered.parity, fun other member => ?_⟩
    rcases List.mem_append.mp member with old | new
    · exact unnumbered.sealedPackets other old
    · cases List.mem_singleton.mp new
      exact seq
  · exact unnumbered

/-- No event sets a sequence number. -/
theorem Unnumbered.step (unnumbered : client.Unnumbered)
    (enabled : (sealingMachine code codec).step client event = some next) : next.Unnumbered := by
  obtain ⟨⟨after, sent⟩, outcome, rfl⟩ := Option.map_eq_some_iff.mp enabled
  have prepared := unnumbered.prepared outcome
  cases sent with
  | none => exact prepared.unnumbered unnumbered
  | some packet => exact (prepared.unnumbered unnumbered).encrypt (prepared.sent packet rfl)

/-- A step keeps the nonces unique exactly when it is distinguished. -/
theorem nonceUnique_step_iff (unnumbered : client.Unnumbered) (unique : client.NonceUnique)
    (enabled : (sealingMachine code codec).step client event = some next) :
    next.NonceUnique ↔ client.Distinguished code codec event := by
  obtain ⟨⟨after, sent⟩, outcome, rfl⟩ := Option.map_eq_some_iff.mp enabled
  have prepared := unnumbered.prepared outcome
  have uniqueAfter : after.NonceUnique := by
    unfold NonceUnique
    rw [prepared.sealedPackets]
    exact unique
  unfold Distinguished
  rw [outcome, Option.bind_some]
  cases sent with
  | none => exact iff_of_true uniqueAfter nofun
  | some packet =>
    have seq := prepared.sent packet rfl
    dsimp only
    unfold SealingClient.encrypt
    rw [prepared.packetCrypto]
    split
    · next isSealed =>
      rw [prepared.sealedPackets, nonceUnique_append_iff unnumbered seq unique]
      constructor
      · intro repeats other member _
        cases member
        exact repeats
      · exact fun distinguished => distinguished packet rfl isSealed
    · next isNotSealed =>
      refine iff_of_true uniqueAfter fun other member isSealed => ?_
      cases member
      exact absurd isSealed isNotSealed

end SealingClient

/-! ### Every run -/

/-- A client that has sealed nothing yet. -/
def SealingClient.start (outbound : HybridOutbound) : SealingClient := ⟨outbound, [], []⟩

/-- The nonces of a run stay unique exactly when each packet that is sealed repeats the plaintext
of all packets of its type and between its ends that were sealed before it. -/
theorem nonceUnique_throughout_iff (code : ErasureCode UInt8) (codec : FecCodec)
    (outbound : HybridOutbound) (events : List SealEvent) :
    (sealingMachine code codec).Throughout SealingClient.NonceUnique (.start outbound) events ↔
      (sealingMachine code codec).Guarded (SealingClient.Distinguished code codec)
        (.start outbound) events := by
  refine Machine.throughout_iff_guarded
    (fun client event next (unnumbered : client.Unnumbered) enabled => unnumbered.step enabled)
    (fun client event next unnumbered unique enabled =>
      SealingClient.nonceUnique_step_iff unnumbered unique enabled)
    (fun client event disabled => ?_) ⟨nofun, nofun⟩ nofun
  have absent := Option.map_eq_none_iff.mp disabled
  unfold SealingClient.Distinguished
  rw [absent]
  exact nofun

/-- A ping on its way to the cipher. -/
def pingPacket (src dest : Ipv4Addr) (millis : Int) : NetPacket :=
  ⟨[], ⟨0x85, 0x11, 0, 0, 0, src, dest⟩, timeBytes millis, List.replicate tagLen 0⟩

/-- With a password, a ping is sealed. -/
theorem step_ping (src dest : Ipv4Addr) (millis : Int)
    (hasPassword : client.outbound.packetCrypto.crypto.isSome = true) :
    (sealingMachine code codec).step client (.message (.ping src dest millis)) =
      some { client with
        sealedPackets := client.sealedPackets ++ [pingPacket src dest millis] } := by
  have reserve : client.outbound.packetCrypto.encryptReserve = tagLen := if_pos hasPassword
  have length : (timeBytes millis).length = 8 := length_bigEndian _ _
  have packet : (ClientMessage.ping src dest millis).packet tagLen =
      .ok (pingPacket src dest millis) := by
    unfold ClientMessage.packet filledPacket directPacket
    rw [NetPacket.new_zeroedSize]
    exact NetPacket.setPayload_of_length _ (List.length_replicate.trans length.symm)
  have isSealed : client.outbound.packetCrypto.seals (pingPacket src dest millis) = true :=
    PacketCrypto.seals_of_short hasPassword (length.trans_le (by decide))
  unfold sealingMachine SealingClient.prepare
  dsimp only
  rw [reserve, packet, Option.map_some]
  exact congrArg some (if_pos isSealed)

/-- A client with a password, without compression and error correction. -/
def pingingClient : SealingClient :=
  .start ⟨⟨some (ChaCha20Poly1305.aead (List.replicate 32 7))⟩, ⟨none⟩, [], none⟩

/-- Two rounds of `ping_all`, five seconds apart. -/
def twoPings : List SealEvent :=
  [.message (.ping 0x0A1A0002 0x0A1A0003 0), .message (.ping 0x0A1A0002 0x0A1A0003 5000)]

/-- The second ping to a client is sealed under the nonce of the first. -/
theorem not_nonceUnique_twoPings :
    ¬(sealingMachine pairCode protobufCodec).Throughout SealingClient.NonceUnique pingingClient
      twoPings := by
  intro throughout
  have unique := ((throughout.2 _ (step_ping _ _ _ rfl)).2 _ (step_ping _ _ _ rfl)).start
  have same := unique (pingPacket 0x0A1A0002 0x0A1A0003 0) (by simp)
    (pingPacket 0x0A1A0002 0x0A1A0003 5000) (by simp) rfl
  exact absurd same (by decide)

end Tunnel

end Vnt
