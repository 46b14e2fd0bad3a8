/-
This file proves that the handler of a session stays in the network of the session. Whatever the
bytes say, a reply goes to the session itself, a delivery and each kind of broadcast to senders of
its network state, and what is forwarded to a peer carries its network code.
-/

import Vnt.Server.Handler

namespace Vnt.Server

open Vnt.Base

/-! ### What the handler of a session reaches -/

namespace ControlHandler

/-- The action stays in the network of the session: it puts bytes into the sender of the session or
into one of its network state, or forwards them under its network code. -/
def Confined (handler : ControlHandler) (session : Session) : HandlerAction → Prop
  | .trySend sender _ =>
    sender = session.sender ∨ ∃ ip, handler.networkState.senderMap.lookup ip = some sender
  | .forward _ message => message.networkCode = session.networkCode
  | _ => True

variable {handler : ControlHandler} {session : Session} {codec : HandlerCodec}

theorem confined_deliverLocal (dest : Ipv4Addr) (data : List UInt8) :
    ∀ action ∈ handler.deliverLocal dest data, handler.Confined session action := by
  unfold deliverLocal
  cases present : handler.networkState.senderMap.lookup dest with
  | none => nofun
  | some sender =>
    refine List.forall_mem_cons.mpr ⟨trivial, List.forall_mem_singleton.mpr ?_⟩
    exact .inr ⟨dest, present⟩

theorem forwardWithBestRoute_networkCode {manager : PeerServerManager}
    {accepts : PeerConnection → ServerMessage → Bool} {networkCode : String} {dest : Ipv4Addr}
    {data : List UInt8} {peer : PeerId} {message : ServerForwardData}
    (forwards : manager.forwardWithBestRoute accepts networkCode dest data =
      some (peer, message)) : message.networkCode = networkCode := by
  unfold PeerServerManager.forwardWithBestRoute PeerServerManager.forwardToPeer at forwards
  split at forwards
  · split at forwards
    · split at forwards
      · cases forwards
        rfl
      · cases forwards
    · cases forwards
  · cases forwards

theorem confined_handleUnicast (dest : Ipv4Addr) (data : List UInt8) :
    ∀ action ∈ handler.handleUnicast session dest data, handler.Confined session action := by
  unfold handleUnicast
  split
  · split
    · next forwards =>
      exact List.forall_mem_singleton.mpr (forwardWithBestRoute_networkCode forwards)
    · exact confined_deliverLocal dest data
  · exact confined_deliverLocal dest data

theorem confined_broadcast (src : Ipv4Addr) (selects : Ipv4Addr → Bool) (data : List UInt8) :
    ∀ action ∈ broadcast (handler.networkState.broadcastList src selects) data,
      handler.Confined session action := by
  intro action member
  obtain ⟨sender, isSender, rfl⟩ := List.mem_map.mp member
  obtain ⟨entry, isEntry, rfl⟩ := List.mem_map.mp isSender
  exact .inr ⟨entry.1, (Map.mem_entries_iff _ _ _).mp (List.mem_filter.mp isEntry).1⟩

theorem confined_handleSelective (packet : NetPacket)
    (selects : List Ipv4Addr → Ipv4Addr → Bool) :
    ∀ action ∈ (handler.handleSelective packet selects).actions,
      handler.Confined session action := by
  unfold handleSelective
  split
  · nofun
  · split
    · nofun
    · split
      · nofun
      · exact confined_broadcast _ _ _

theorem confined_handleType (packet : NetPacket) (msgType : MsgType) :
    ∀ action ∈ (handler.handleType session packet msgType).actions,
      handler.Confined session action := by
  cases msgType with
  | excludeBroadcast => exact confined_handleSelective _ _
  | targetBroadcast => exact confined_handleSelective _ _
  | broadcast =>
    unfold handleType
    dsimp only
    split
    · nofun
    · exact confined_broadcast _ _ _
  | turn | ping | pong | punchStart1 | punchStart2 | quic =>
    unfold handleType
    dsimp only
    split
    · nofun
    · exact confined_handleUnicast _ _
  | _ => nofun

/-- A reply goes to the session. -/
theorem confined_reply (data : List UInt8) :
    ∀ action ∈ [HandlerAction.trySend session.sender data], handler.Confined session action :=
  List.forall_mem_singleton.mpr (.inl rfl)

theorem confined_handleGateway (now : UInt64) (packet : NetPacket) (msgType : MsgType) :
    ∀ action ∈ (handler.handleGateway codec session now packet msgType).actions,
      handler.Confined session action := by
  unfold handleGateway
  split
  · nofun
  · split
    · nofun
    · split
      · split
        · exact confined_reply _
        · nofun
        · nofun
      · unfold handlePingTurn
        dsimp only
        split
        · exact confined_reply _
        · split
          · nofun
          · split <;> exact confined_reply _
      · unfold handlePong
        split
        · exact List.forall_mem_singleton.mpr trivial
        · nofun
      · unfold handleRpc
        split
        · nofun
        · nofun
        · exact confined_reply _
      · nofun

/-- Whatever bytes arrive on a session, their handling stays in its network. -/
theorem confined_handleData (codec : HandlerCodec) (active : handler.session = some session)
    (now : UInt64) (buf : List UInt8) :
    ∀ action ∈ (handler.handleData codec now buf).actions, handler.Confined session action := by
  unfold handleData
  rw [active]
  dsimp only
  split
  · split
    · exact List.forall_mem_singleton.mpr trivial
    · nofun
  · split
    · nofun
    · split
      · nofun
      · split
        · exact confined_handleGateway _ _ _
        · exact List.forall_mem_cons.mpr ⟨trivial, confined_handleType _ _⟩

end ControlHandler

end Vnt.Server
