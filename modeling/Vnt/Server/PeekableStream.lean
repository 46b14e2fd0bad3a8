/-
This file embeds the stream that is handed on after its first word was looked at. The listener
reads four bytes to tell a WebSocket handshake from plain TCP and wraps the stream together with
that word. The wrapper puts the word into the caller's buffer and polls the inner stream in the
same call, and a caller does not look at the buffer of a poll that is pending, so what becomes of
the word depends on the inner stream at that moment.
-/

import Vnt.Base.Bytes
import Vnt.Base.Machine

namespace Vnt.Server

open Vnt.Base

/-- A caller's buffer: what was put into it and how many of its bytes are free. -/
structure ReadBuf where
  filled : List UInt8
  remaining : Nat

/-- `ReadBuf::put_slice`. -/
def ReadBuf.put (buffer : ReadBuf) (bytes : List UInt8) : ReadBuf :=
  ⟨buffer.filled ++ bytes, buffer.remaining - bytes.length⟩

/-- What a poll returns; the bytes read are in the buffer. -/
inductive Poll where
  | pending
  | ready
  | failed (error : String)

/-- How the inner stream meets a poll; `ready count` hands over that many bytes. -/
inductive InnerPoll where
  | pending
  | ready (count : Nat)
  | failed (error : String)

/-- Polling the inner stream, given by the bytes it has not handed over yet. It is ready with no
byte only at its end or when the buffer has no room. -/
def innerPollRead (stream : List UInt8) (buffer : ReadBuf) :
    InnerPoll → Option (Poll × ReadBuf × List UInt8)
  | .pending => some (.pending, buffer, stream)
  | .failed error => some (.failed error, buffer, stream)
  | .ready count =>
    if count ≤ buffer.remaining ∧ count ≤ stream.length ∧
        (count = 0 → buffer.remaining = 0 ∨ stream = []) then
      some (.ready, buffer.put (stream.take count), stream.drop count)
    else none

structure PeekableStream where
  stream : List UInt8
  peeked : Option UInt32

structure PeekableStreamWrapper where
  stream : List UInt8
  peeked : Option UInt32

def PeekableStream.new (stream : List UInt8) : PeekableStream := ⟨stream, none⟩

/-- `peek` waits for four bytes and fails when the stream ends before. -/
def PeekableStream.peek (peekable : PeekableStream) : Option (UInt32 × PeekableStream) :=
  if 4 ≤ peekable.stream.length then
    let peeked := ofWordBytes (peekable.stream.take 4)
    some (peeked, ⟨peekable.stream.drop 4, some peeked⟩)
  else none

def PeekableStream.intoInner (peekable : PeekableStream) : PeekableStreamWrapper :=
  ⟨peekable.stream, peekable.peeked⟩

/-- The bytes of `GET `. -/
def isWebsocketHandshake (firstData : UInt32) : Bool :=
  wordBytes firstData == [71, 69, 84, 32]

/-- `handle_connection` up to the protocol it hands the wrapped stream to; the first component
tells whether that is WebSocket. -/
def handleConnection (stream : List UInt8) : Option (Bool × PeekableStreamWrapper) :=
  (PeekableStream.new stream).peek.map fun (firstData, peekable) =>
    (isWebsocketHandshake firstData, peekable.intoInner)

namespace PeekableStreamWrapper

/-- `poll_read`. -/
def pollRead (wrapper : PeekableStreamWrapper) (buffer : ReadBuf) (inner : InnerPoll) :
    Option (Poll × ReadBuf × PeekableStreamWrapper) :=
  match wrapper.peeked with
  | some peeked =>
    if buffer.remaining < 4 then
      some (.failed "too small", buffer, { wrapper with peeked := none })
    else
      (innerPollRead wrapper.stream (buffer.put (wordBytes peeked)) inner).map
        fun (poll, buffer, stream) => (poll, buffer, ⟨stream, none⟩)
  | none =>
    (innerPollRead wrapper.stream buffer inner).map
      fun (poll, buffer, stream) => (poll, buffer, ⟨stream, none⟩)

/-- The bytes a wrapper has still to deliver. -/
def undelivered (wrapper : PeekableStreamWrapper) : List UInt8 :=
  (wrapper.peeked.map wordBytes).getD [] ++ wrapper.stream

end PeekableStreamWrapper

/-! ### A caller of the wrapper -/

/-- One call of a reader: the free bytes of its buffer and how the inner stream meets the poll. -/
structure ReadCall where
  free : Nat
  inner : InnerPoll

/-- A conforming reader: what it has taken from ready polls, and whether it has seen the end of the
stream, which is a ready poll that leaves a buffer with room empty. -/
structure Reader where
  wrapper : PeekableStreamWrapper
  taken : List UInt8
  ended : Bool

namespace Reader

def start (wrapper : PeekableStreamWrapper) : Reader := ⟨wrapper, [], false⟩

/-- The reader takes the buffer of a ready poll and ignores any other. -/
def take (reader : Reader) (free : Nat) : Poll × ReadBuf × PeekableStreamWrapper → Reader
  | (.ready, buffer, wrapper) =>
    ⟨wrapper, reader.taken ++ buffer.filled,
      reader.ended || (buffer.filled.isEmpty && decide (0 < free))⟩
  | (.pending, _, wrapper) => { reader with wrapper }
  | (.failed _, _, wrapper) => { reader with wrapper }

def machine : Machine Reader ReadCall where
  step reader call :=
    (reader.wrapper.pollRead ⟨[], call.free⟩ call.inner).map (reader.take call.free)

/-- What the reader took and what is still to come is the stream, and what it took is the whole
stream once it has seen the end. -/
structure Transparent (stream : List UInt8) (reader : Reader) : Prop where
  whole : reader.taken ++ reader.wrapper.undelivered = stream
  ended : reader.ended = true → reader.taken = stream

/-- The poll that hands the word over finds the inner stream ready, and room for the word. -/
def InnerReady (reader : Reader) (call : ReadCall) : Prop :=
  reader.wrapper.peeked.isSome = true → 4 ≤ call.free ∧ ∃ count, call.inner = .ready count

end Reader

/-! ### What a poll does to the bytes -/

/-- A ready inner poll moves bytes from the stream into the buffer, none only at the end of the
stream or without room. -/
theorem innerPollRead_ready {stream rest : List UInt8} {buffer after : ReadBuf} {inner : InnerPoll}
    (polled : innerPollRead stream buffer inner = some (.ready, after, rest)) :
    (∃ count, inner = .ready count) ∧
      ∃ bytes, after.filled = buffer.filled ++ bytes ∧ bytes ++ rest = stream ∧
        (bytes = [] → 0 < buffer.remaining → stream = []) := by
  cases inner with
  | pending => cases polled
  | failed error => cases polled
  | ready count =>
    obtain ⟨possible, same⟩ := Option.ite_none_right_eq_some.mp polled
    cases same
    obtain ⟨-, -, atEnd⟩ := possible
    refine ⟨⟨count, rfl⟩, stream.take count, rfl, List.take_append_drop count stream, ?_⟩
    intro empty room
    rcases List.take_eq_nil_iff.mp empty with zero | nothing
    · exact (atEnd zero).resolve_left (Nat.ne_of_gt room)
    · exact nothing

theorem innerPollRead_not_ready {stream rest : List UInt8} {buffer after : ReadBuf}
    {inner : InnerPoll} {poll : Poll}
    (polled : innerPollRead stream buffer inner = some (poll, after, rest))
    (unready : poll ≠ .ready) : rest = stream ∧ ∀ count, inner ≠ .ready count := by
  cases inner with
  | pending =>
    cases polled
    exact ⟨rfl, nofun⟩
  | failed error =>
    cases polled
    exact ⟨rfl, nofun⟩
  | ready count =>
    obtain ⟨-, same⟩ := Option.ite_none_right_eq_some.mp polled
    cases same
    exact absurd rfl unready

namespace PeekableStreamWrapper

@[simp] theorem undelivered_none (stream : List UInt8) : undelivered ⟨stream, none⟩ = stream := rfl

@[simp] theorem undelivered_some (stream : List UInt8) (peeked : UInt32) :
    undelivered ⟨stream, some peeked⟩ = wordBytes peeked ++ stream := rfl

/-- A wrapper that holds a word polls the inner stream behind it, if there is room. -/
theorem pollRead_some {stream : List UInt8} {peeked : UInt32} {free : Nat} {inner : InnerPoll} :
    pollRead ⟨stream, some peeked⟩ ⟨[], free⟩ inner =
      if free < 4 then some (.failed "too small", ⟨[], free⟩, ⟨stream, none⟩)
      else (innerPollRead stream (ReadBuf.put ⟨[], free⟩ (wordBytes peeked)) inner).map
        fun (poll, buffer, stream) => (poll, buffer, ⟨stream, none⟩) := rfl

/-- A ready poll moves bytes from the wrapper into the buffer, the word first. -/
theorem pollRead_ready {wrapper next : PeekableStreamWrapper} {free : Nat} {inner : InnerPoll}
    {buffer : ReadBuf} (polled : wrapper.pollRead ⟨[], free⟩ inner = some (.ready, buffer, next)) :
    (wrapper.peeked.isSome = true → 4 ≤ free ∧ ∃ count, inner = .ready count) ∧
      buffer.filled ++ next.undelivered = wrapper.undelivered ∧
      (buffer.filled = [] → 0 < free → wrapper.undelivered = []) := by
  obtain ⟨stream, peeked⟩ := wrapper
  cases peeked with
  | none =>
    obtain ⟨⟨poll, after, rest⟩, asked, same⟩ := Option.map_eq_some_iff.mp polled
    cases same
    obtain ⟨-, bytes, filled, moved, atEnd⟩ := innerPollRead_ready asked
    rw [List.nil_append] at filled
    subst filled
    exact ⟨nofun, moved, atEnd⟩
  | some peeked =>
    rw [pollRead_some] at polled
    split at polled
    · cases polled
    · next room =>
      obtain ⟨⟨poll, after, rest⟩, asked, same⟩ := Option.map_eq_some_iff.mp polled
      cases same
      obtain ⟨ready, bytes, filled, moved, -⟩ := innerPollRead_ready asked
      have word : buffer.filled = wordBytes peeked ++ bytes := filled
      refine ⟨fun _ => ⟨Nat.le_of_not_lt room, ready⟩, ?_, fun empty => ?_⟩
      · rw [word, undelivered_none, undelivered_some, List.append_assoc, moved]
      · have length := congrArg List.length (word.symm.trans empty)
        rw [List.length_append, length_wordBytes] at length
        exact absurd length (by simp)

/-- A poll that is not ready leaves the wrapper without its word. -/
theorem pollRead_not_ready {wrapper next : PeekableStreamWrapper} {free : Nat}
    {inner : InnerPoll} {poll : Poll} {buffer : ReadBuf}
    (polled : wrapper.pollRead ⟨[], free⟩ inner = some (poll, buffer, next))
    (unready : poll ≠ .ready) :
    next.undelivered = wrapper.stream ∧ ¬ (4 ≤ free ∧ ∃ count, inner = .ready count) := by
  obtain ⟨stream, peeked⟩ := wrapper
  cases peeked with
  | none =>
    obtain ⟨⟨poll, after, rest⟩, asked, same⟩ := Option.map_eq_some_iff.mp polled
    cases same
    obtain ⟨kept, never⟩ := innerPollRead_not_ready asked unready
    exact ⟨kept, fun ⟨_, count, equal⟩ => never count equal⟩
  | some peeked =>
    rw [pollRead_some] at polled
    split at polled
    · next small =>
      cases polled
      exact ⟨rfl, fun ⟨room, _⟩ => absurd small (Nat.not_lt.mpr room)⟩
    · obtain ⟨⟨poll, after, rest⟩, asked, same⟩ := Option.map_eq_some_iff.mp polled
      cases same
      obtain ⟨kept, never⟩ := innerPollRead_not_ready asked unready
      exact ⟨kept, fun ⟨_, count, equal⟩ => never count equal⟩

end PeekableStreamWrapper

namespace Reader

/-- A poll that does not lose bytes keeps the reader transparent, and no other poll does. -/
theorem transparent_step {stream : List UInt8} {reader next : Reader} {call : ReadCall}
    (transparent : reader.Transparent stream) (polled : machine.step reader call = some next) :
    next.Transparent stream ↔ reader.InnerReady call := by
  obtain ⟨⟨poll, buffer, wrapper⟩, asked, same⟩ := Option.map_eq_some_iff.mp polled
  have nothingLeft : reader.ended = true → reader.wrapper.undelivered = [] := fun ended => by
    have whole := transparent.whole
    rw [transparent.ended ended] at whole
    exact List.append_right_eq_self.mp whole
  by_cases ready : poll = .ready
  · subst ready same
    obtain ⟨allowed, moved, atEnd⟩ := PeekableStreamWrapper.pollRead_ready asked
    refine iff_of_true ⟨?_, fun ended => ?_⟩ allowed
    · rw [take, List.append_assoc, moved, transparent.whole]
    · have delivered : reader.wrapper.undelivered = [] := by
        rcases Bool.or_eq_true_iff.mp ended with earlier | now
        · exact nothingLeft earlier
        · obtain ⟨empty, room⟩ := Bool.and_eq_true_iff.mp now
          exact atEnd (List.isEmpty_iff.mp empty) (of_decide_eq_true room)
      have nothing := List.append_eq_nil_iff.mp (moved.trans delivered)
      have whole := transparent.whole
      rw [delivered, List.append_nil] at whole
      rw [take, nothing.1, List.append_nil, whole]
  · obtain ⟨left, unready⟩ := PeekableStreamWrapper.pollRead_not_ready asked ready
    have untaken : next = { reader with wrapper } := by
      rw [← same]
      cases poll with
      | ready => exact absurd rfl ready
      | pending => rfl
      | failed error => rfl
    subst untaken
    obtain ⟨⟨rest, peeked⟩, taken, ended⟩ := reader
    cases peeked with
    | none => exact iff_of_true ⟨left ▸ transparent.whole, transparent.ended⟩ nofun
    | some peeked =>
      refine iff_of_false (fun kept => ?_) (fun allowed => unready (allowed rfl))
      have shorter := congrArg List.length (kept.whole.trans transparent.whole.symm)
      simp [left] at shorter

/-- The peek itself loses nothing. -/
theorem transparent_start {stream : List UInt8} {websocket : Bool}
    {wrapper : PeekableStreamWrapper}
    (accepted : handleConnection stream = some (websocket, wrapper)) :
    (start wrapper).Transparent stream := by
  obtain ⟨⟨firstData, peekable⟩, looked, same⟩ := Option.map_eq_some_iff.mp accepted
  obtain ⟨enough, peeked⟩ := Option.ite_none_right_eq_some.mp looked
  cases peeked
  cases same
  refine ⟨?_, nofun⟩
  have word : (stream.take 4).length = 4 := List.length_take_of_le enough
  change [] ++ (wordBytes (ofWordBytes (stream.take 4)) ++ stream.drop 4) = stream
  rw [List.nil_append, wordBytes_ofWordBytes word, List.take_append_drop]

/-- A poll that cannot happen loses nothing. -/
theorem innerReady_of_disabled (reader : Reader) (call : ReadCall)
    (disabled : machine.step reader call = none) : reader.InnerReady call := by
  obtain ⟨⟨stream, peeked⟩, taken, ended⟩ := reader
  obtain ⟨free, inner⟩ := call
  cases peeked with
  | none => exact nofun
  | some peeked =>
    have asked := Option.map_eq_none_iff.mp disabled
    rw [PeekableStreamWrapper.pollRead_some] at asked
    split at asked
    · cases asked
    · next room =>
      have refused := Option.map_eq_none_iff.mp asked
      cases inner with
      | pending => cases refused
      | failed error => cases refused
      | ready count => exact fun _ => ⟨Nat.le_of_not_lt room, count, rfl⟩

/-- A reader of a wrapped stream takes the bytes of the stream, each once and in their order, if and
only if the inner stream is ready at the poll that hands the word over. -/
theorem throughout_transparent_iff {stream : List UInt8} (enough : 4 ≤ stream.length) :
    ∃ websocket wrapper, handleConnection stream = some (websocket, wrapper) ∧
      ∀ calls, machine.Throughout (Transparent stream) (start wrapper) calls ↔
        machine.Guarded InnerReady (start wrapper) calls := by
  have looked : (PeekableStream.new stream).peek =
      some (ofWordBytes (stream.take 4),
        ⟨stream.drop 4, some (ofWordBytes (stream.take 4))⟩) := if_pos enough
  have accepted : handleConnection stream = some
      (isWebsocketHandshake (ofWordBytes (stream.take 4)),
        ⟨stream.drop 4, some (ofWordBytes (stream.take 4))⟩) := by
    rw [handleConnection, looked]
    rfl
  refine ⟨_, _, accepted, fun calls => ?_⟩
  exact Machine.throughout_iff_guarded (fun _ _ _ _ _ => trivial)
    (fun _ _ _ _ transparent polled => transparent_step transparent polled)
    innerReady_of_disabled (trivial : True) (transparent_start accepted)

/-- A handshake whose inner stream is not ready at the first poll and after that hands over what
is left. -/
def lateHandshake : List UInt8 := [71, 69, 84, 32, 47]

def lateCalls : List ReadCall := [⟨8, .pending⟩, ⟨8, .ready 1⟩, ⟨8, .ready 0⟩]

theorem late_handshake_transparent :
    ∃ websocket wrapper, handleConnection lateHandshake = some (websocket, wrapper) ∧
      ∀ calls, machine.Throughout (Transparent lateHandshake) (start wrapper) calls ↔
        machine.Guarded InnerReady (start wrapper) calls :=
  throughout_transparent_iff (by decide)

/-- A reader with room in every buffer sees the end of the stream without its first four bytes. -/
theorem not_transparent :
    ¬ ∀ (stream : List UInt8) (websocket : Bool) (wrapper : PeekableStreamWrapper),
      handleConnection stream = some (websocket, wrapper) →
      ∀ calls : List ReadCall, (∀ call ∈ calls, 4 ≤ call.free) →
        ∀ final, machine.run (start wrapper) calls = some final → final.ended = true →
          final.taken = stream := by
  intro always
  have taken := always lateHandshake true ⟨[47], some 1195725856⟩ rfl lateCalls (by decide)
    ⟨⟨[], none⟩, [47], true⟩ rfl rfl
  exact absurd taken (by decide)

end Reader

end Vnt.Server
