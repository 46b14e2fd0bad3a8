/-
This file proves what the gateway's answer to an echo request is. The request is cut at the fields
the answer changes: the two addresses are exchanged, the type becomes an echo reply, both checksums
are renewed and verify, and everything else stays. The handler of a confirmed session panics on one
kind of packet only, an echo request that names a total length beyond its own bytes.
-/

import Vnt.Server.Handler

namespace Vnt.Server

open Vnt.Base

namespace Icmp

/-! ### Checksums that verify -/

/-- The sum of all 16-bit words, an odd last byte being the high byte of a word. -/
def wordSum : List UInt8 → Nat
  | high :: low :: rest => high.toNat * 256 + low.toNat + wordSum rest
  | [high] => high.toNat * 256
  | [] => 0

/-- The words with their checksum add up to ones. -/
def Verifies (bytes : List UInt8) : Prop := foldCarry (foldCarry (wordSum bytes)) = 65535

/-- Two folds bring a 32-bit sum into 16 bits and leave it what it is modulo 65535. -/
theorem foldCarry_foldCarry {sum : Nat} (below : sum < 2 ^ 32) :
    ∃ turns, sum = 65535 * turns + foldCarry (foldCarry sum) ∧
      foldCarry (foldCarry sum) ≤ 65535 ∧ (0 < sum → 0 < foldCarry (foldCarry sum)) := by
  unfold foldCarry
  exact ⟨sum / 65536 + (sum / 65536 + sum % 65536) / 65536, by omega, by omega, by omega⟩

/-- A sum and the complement of its fold fold to ones. -/
theorem foldCarry_complement {sum : Nat} (below : sum < 2 ^ 31) :
    foldCarry (foldCarry (sum + (65535 - foldCarry (foldCarry sum)))) = 65535 := by
  obtain ⟨turns, same, bound, -⟩ := foldCarry_foldCarry (show sum < 2 ^ 32 by omega)
  obtain ⟨again, total, least, positive⟩ :=
    foldCarry_foldCarry (show sum + (65535 - foldCarry (foldCarry sum)) < 2 ^ 32 by omega)
  have present : 0 < sum + (65535 - foldCarry (foldCarry sum)) := by omega
  have above := positive present
  omega

theorem wordSum_append {first : List UInt8} {words : Nat} (even : first.length = 2 * words)
    (rest : List UInt8) : wordSum (first ++ rest) = wordSum first + wordSum rest := by
  induction words generalizing first with
  | zero =>
    rw [List.length_eq_zero_iff.mp even, List.nil_append, wordSum, Nat.zero_add]
  | succ words inductionHypothesis =>
    match first, even with
    | high :: low :: first, even =>
      have shorter : first.length = 2 * words := by
        simp only [List.length_cons] at even
        omega
      rw [List.cons_append, List.cons_append, wordSum, wordSum, inductionHypothesis shorter,
        ← Nat.add_assoc]

theorem wordSum_le (bytes : List UInt8) : 2 * wordSum bytes ≤ 65535 * (bytes.length + 1) := by
  induction bytes using wordSum.induct with
  | case1 high low rest inductionHypothesis =>
    have highBelow := high.toNat_lt
    have lowBelow := low.toNat_lt
    rw [wordSum, List.length_cons, List.length_cons]
    omega
  | case2 high =>
    have highBelow := high.toNat_lt
    rw [wordSum, List.length_singleton]
    omega
  | case3 => exact Nat.zero_le _

/-- Behind the word that is left out every word counts. -/
theorem sumWords_behind {skipWord index : Nat} (behind : skipWord < index) (bytes : List UInt8) :
    sumWords skipWord index bytes = wordSum bytes := by
  induction bytes using wordSum.induct generalizing index with
  | case1 high low rest inductionHypothesis =>
    rw [sumWords, wordSum, if_neg (Nat.ne_of_gt behind),
      inductionHypothesis (Nat.lt_succ_of_lt behind)]
  | case2 high => rw [sumWords, wordSum, if_neg (Nat.ne_of_gt behind)]
  | case3 => rw [sumWords, wordSum]

/-- The sum over the words but one. -/
theorem sumWords_parts {first : List UInt8} {words : Nat} (even : first.length = 2 * words)
    (index : Nat) (high low : UInt8) (rest : List UInt8) :
    sumWords (index + words) index (first ++ high :: low :: rest) =
      wordSum first + wordSum rest := by
  induction words generalizing first index with
  | zero =>
    rw [List.length_eq_zero_iff.mp even, List.nil_append, sumWords,
      if_pos (Nat.add_zero index).symm, sumWords_behind (Nat.lt_succ_of_le (Nat.le_refl _)),
      wordSum, Nat.zero_add]
  | succ words inductionHypothesis =>
    match first, even with
    | left :: right :: first, even =>
      have shorter : first.length = 2 * words := by
        simp only [List.length_cons] at even
        omega
      rw [List.cons_append, List.cons_append, sumWords, if_neg (by omega), wordSum,
        ← Nat.add_assoc index, Nat.add_right_comm index, inductionHypothesis shorter]
      omega

/-- Bytes whose checksum is renewed verify. -/
theorem verifies_checksum {first old rest : List UInt8} {words : Nat}
    (even : first.length = 2 * words) (width : old.length = 2)
    (short : first.length + rest.length + 2 ≤ 65535) :
    Verifies (first ++ (checksum (first ++ old ++ rest) words ++ rest)) := by
  obtain ⟨high, low, rfl⟩ := List.length_eq_two.mp width
  have sum : sumWords words 0 (first ++ [high, low] ++ rest) = wordSum first + wordSum rest := by
    have parts := sumWords_parts even 0 high low rest
    rw [Nat.zero_add] at parts
    rw [List.append_assoc]
    exact parts
  have present : first ++ [high, low] ++ rest ≠ [] := by simp
  have bound : wordSum first + wordSum rest < 2 ^ 31 := by
    have left := wordSum_le first
    have right := wordSum_le rest
    omega
  have complement := foldCarry_complement bound
  unfold Verifies
  rw [wordSum_append even, checksum, if_neg present, sum]
  have least : 65535 - foldCarry (foldCarry (wordSum first + wordSum rest)) ≤ 65535 :=
    Nat.sub_le _ _
  generalize 65535 - foldCarry (foldCarry (wordSum first + wordSum rest)) = value
    at complement least ⊢
  have bytes : bigEndian 2 value = [UInt8.ofNat (value / 256), UInt8.ofNat value] := rfl
  rw [bytes, List.cons_append, List.singleton_append, wordSum, UInt8.toNat_ofNat',
    UInt8.toNat_ofNat']
  have whole : wordSum first + (value / 256 % 2 ^ 8 * 256 + value % 2 ^ 8 + wordSum rest) =
      wordSum first + wordSum rest + value := by omega
  rw [whole]
  exact complement

/-! ### The fields of a request -/

/-- `IcmpTypes::EchoReply`. -/
def echoReplyType : Nat := 0

/-- A payload that is an echo request over IPv4 with any options, with at least the bytes it names
as its total length. -/
structure EchoRequest (payload : List UInt8) : Prop where
  header : 5 ≤ headerLength payload
  message : headerLength payload * 4 + 8 ≤ totalLength payload
  whole : totalLength payload ≤ payload.length
  protocol : nextLevelProtocol payload = icmpProtocol
  type : byteAt payload (headerLength payload * 4) = echoRequest

/-- The reply has the length, the other header fields and the options of the request, its addresses
the other way round, the type of a reply, the identifier, sequence number and data of the request,
and checksums that verify. -/
structure Answers (request reply : List UInt8) : Prop where
  length : reply.length = totalLength request
  fields : reply.take 10 = request.take 10
  options : (reply.take (headerLength request * 4)).drop 20 =
    (request.take (headerLength request * 4)).drop 20
  source : (reply.drop 12).take 4 = (request.drop 16).take 4
  destination : (reply.drop 16).take 4 = (request.drop 12).take 4
  type : byteAt reply (headerLength request * 4) = echoReplyType
  content : reply.drop (headerLength request * 4 + 4) =
    (request.take (totalLength request)).drop (headerLength request * 4 + 4)
  headerChecksum : Verifies (reply.take (headerLength request * 4))
  messageChecksum : Verifies (reply.drop (headerLength request * 4))

/-- A request cut at the fields its reply changes: the checksum of the header, the addresses, the
type and the code, and the checksum of the message. -/
structure Parts (request : List UInt8) where
  fields : List UInt8
  headerSum : List UInt8
  source : List UInt8
  destination : List UInt8
  options : List UInt8
  kind : List UInt8
  messageSum : List UInt8
  content : List UInt8
  padding : List UInt8
  whole : request = fields ++ (headerSum ++ (source ++ (destination ++ (options ++
    (kind ++ (messageSum ++ (content ++ padding)))))))
  fieldsLength : fields.length = 10
  headerSumLength : headerSum.length = 2
  sourceLength : source.length = 4
  destinationLength : destination.length = 4
  header : headerLength request * 4 = 20 + options.length
  kindLength : kind.length = 2
  messageSumLength : messageSum.length = 2
  total : totalLength request = 20 + options.length + 4 + content.length

theorem drop_eq_take_append (bytes : List UInt8) (start length : Nat) :
    bytes.drop start = (bytes.drop start).take length ++ bytes.drop (start + length) := by
  rw [← List.drop_drop, List.take_append_drop]

/-- Every echo request is cut this way. -/
def EchoRequest.parts {payload : List UInt8} (echo : EchoRequest payload) : Parts payload where
  fields := payload.take 10
  headerSum := (payload.drop 10).take 2
  source := (payload.drop 12).take 4
  destination := (payload.drop 16).take 4
  options := (payload.drop 20).take (headerLength payload * 4 - 20)
  kind := (payload.drop (headerLength payload * 4)).take 2
  messageSum := (payload.drop (headerLength payload * 4 + 2)).take 2
  content := (payload.drop (headerLength payload * 4 + 4)).take
    (totalLength payload - (headerLength payload * 4 + 4))
  padding := payload.drop (totalLength payload)
  whole := by
    obtain ⟨header, message, whole, -, -⟩ := echo
    have optionsEnd : 20 + (headerLength payload * 4 - 20) = headerLength payload * 4 := by omega
    have contentEnd : headerLength payload * 4 + 4 +
        (totalLength payload - (headerLength payload * 4 + 4)) = totalLength payload := by omega
    have split := drop_eq_take_append payload
    have afterOptions := split 20 (headerLength payload * 4 - 20)
    have afterContent := split (headerLength payload * 4 + 4)
      (totalLength payload - (headerLength payload * 4 + 4))
    rw [optionsEnd] at afterOptions
    rw [contentEnd] at afterContent
    have afterKind := (split (headerLength payload * 4) 2).trans (congrArg _
      ((split (headerLength payload * 4 + 2) 2).trans (congrArg _ afterContent)))
    exact (List.take_append_drop 10 payload).symm.trans (congrArg _ ((split 10 2).trans
      (congrArg _ ((split 12 4).trans (congrArg _ ((split 16 4).trans (congrArg _
        (afterOptions.trans (congrArg _ afterKind)))))))))
  fieldsLength := by
    obtain ⟨header, message, whole, -, -⟩ := echo
    rw [List.length_take]
    omega
  headerSumLength := by
    obtain ⟨header, message, whole, -, -⟩ := echo
    rw [List.length_take, List.length_drop]
    omega
  sourceLength := by
    obtain ⟨header, message, whole, -, -⟩ := echo
    rw [List.length_take, List.length_drop]
    omega
  destinationLength := by
    obtain ⟨header, message, whole, -, -⟩ := echo
    rw [List.length_take, List.length_drop]
    omega
  header := by
    obtain ⟨header, message, whole, -, -⟩ := echo
    rw [List.length_take, List.length_drop]
    omega
  kindLength := by
    obtain ⟨header, message, whole, -, -⟩ := echo
    rw [List.length_take, List.length_drop]
    omega
  messageSumLength := by
    obtain ⟨header, message, whole, -, -⟩ := echo
    rw [List.length_take, List.length_drop]
    omega
  total := by
    obtain ⟨header, message, whole, -, -⟩ := echo
    rw [List.length_take, List.length_drop, List.length_take, List.length_drop]
    omega

/-! ### The reply -/

theorem byteAt_append {first : List UInt8} {index : Nat} (inside : index < first.length)
    (rest : List UInt8) : byteAt (first ++ rest) index = byteAt first index := by
  unfold byteAt
  rw [List.getD_eq_getElem?_getD, List.getD_eq_getElem?_getD, List.getElem?_append_left inside]

theorem byteAt_drop (bytes : List UInt8) (start : Nat) :
    byteAt (bytes.drop start) 0 = byteAt bytes start := by
  unfold byteAt
  rw [List.getD_eq_getElem?_getD, List.getD_eq_getElem?_getD, List.getElem?_drop, Nat.add_zero]

theorem byteAt_take {bytes : List UInt8} {index length : Nat} (inside : index < length) :
    byteAt (bytes.take length) index = byteAt bytes index := by
  unfold byteAt
  rw [List.getD_eq_getElem?_getD, List.getD_eq_getElem?_getD, List.getElem?_take_of_lt inside]

theorem splice_parts {first old new : List UInt8} {offset : Nat} (place : first.length = offset)
    (width : new.length = old.length) (rest : List UInt8) :
    splice (first ++ (old ++ rest)) offset new = first ++ (new ++ rest) := by
  unfold splice
  rw [List.take_left' place, ← List.append_assoc first old,
    List.drop_left' (by rw [List.length_append, place, width]), List.append_assoc]

/-- A slice of bytes that are cut there. -/
theorem slice_parts {first middle : List UInt8} {start length : Nat} (place : first.length = start)
    (width : middle.length = length) (rest : List UInt8) :
    ((first ++ (middle ++ rest)).drop start).take length = middle := by
  rw [List.drop_left' place, List.take_left' width]

namespace Parts

variable {request : List UInt8} (parts : Parts request)

/-- The header of the reply without its checksum, and what follows the checksum. -/
def addresses : List UInt8 := parts.destination ++ (parts.source ++ parts.options)

/-- The header of the reply. -/
def headerReply : List UInt8 :=
  parts.fields ++ (checksum (parts.fields ++ parts.headerSum ++ parts.addresses) 5 ++
    parts.addresses)

/-- The message of the reply. -/
def messageReply : List UInt8 :=
  [0, 0] ++ (checksum ([0, 0] ++ parts.messageSum ++ parts.content) 1 ++ parts.content)

theorem length_checksum {bytes : List UInt8} (skipWord : Nat) :
    (checksum bytes skipWord).length = 2 := by
  unfold checksum
  split
  · rfl
  · exact length_bigEndian 2 _

theorem length_addresses : parts.addresses.length = 8 + parts.options.length := by
  unfold addresses
  rw [List.length_append, List.length_append, parts.destinationLength, parts.sourceLength]
  omega

theorem length_headerReply : parts.headerReply.length = headerLength request * 4 := by
  unfold headerReply
  rw [List.length_append, List.length_append, length_checksum, parts.length_addresses,
    parts.fieldsLength, parts.header]
  omega

theorem byteAt_fields {index : Nat} (inside : index < 10) (rest : List UInt8) :
    byteAt (parts.fields ++ rest) index = byteAt request index := by
  have within : index < parts.fields.length := by rwa [parts.fieldsLength]
  rw [byteAt_append within]
  exact ((congrArg (byteAt · index) parts.whole).trans (byteAt_append within _)).symm

theorem headerLength_fields (rest : List UInt8) :
    headerLength (parts.fields ++ rest) = headerLength request :=
  congrArg (· % 16) (parts.byteAt_fields (by decide) rest)

/-- The bytes of the request up to its total length. -/
theorem take_totalLength : request.take (totalLength request) =
    parts.fields ++ (parts.headerSum ++ (parts.source ++ (parts.destination ++ (parts.options ++
      (parts.kind ++ (parts.messageSum ++ parts.content)))))) := by
  refine (congrArg (List.take (totalLength request)) parts.whole).trans ?_
  simp only [← List.append_assoc]
  refine List.take_left' ?_
  simp only [List.length_append, parts.fieldsLength, parts.headerSumLength, parts.sourceLength,
    parts.destinationLength, parts.kindLength, parts.messageSumLength, parts.total]

theorem source_eq : (request.drop 12).take 4 = parts.source := by
  refine (congrArg (fun bytes => (List.drop 12 bytes).take 4) parts.whole).trans ?_
  rw [← List.append_assoc parts.fields]
  refine slice_parts ?_ parts.sourceLength _
  rw [List.length_append, parts.fieldsLength, parts.headerSumLength]

theorem destination_eq : (request.drop 16).take 4 = parts.destination := by
  refine (congrArg (fun bytes => (List.drop 16 bytes).take 4) parts.whole).trans ?_
  rw [← List.append_assoc parts.fields, ← List.append_assoc (parts.fields ++ parts.headerSum)]
  refine slice_parts ?_ parts.destinationLength _
  rw [List.length_append, List.length_append, parts.fieldsLength, parts.headerSumLength,
    parts.sourceLength]

/-- The addresses are exchanged and the checksum of the header is renewed. -/
theorem swapAddresses_eq : swapAddresses request (request.take (totalLength request)) =
    parts.headerReply ++ (parts.kind ++ (parts.messageSum ++ parts.content)) := by
  have front : (parts.fields ++ parts.headerSum).length = 12 := by
    rw [List.length_append, parts.fieldsLength, parts.headerSumLength]
  have exchanged : splice (splice (request.take (totalLength request)) 12 parts.destination) 16
      parts.source = parts.fields ++ (parts.headerSum ++ (parts.addresses ++
        (parts.kind ++ (parts.messageSum ++ parts.content)))) := by
    have middle : (parts.fields ++ parts.headerSum ++ parts.destination).length = 16 := by
      rw [List.length_append, front, parts.destinationLength]
    rw [parts.take_totalLength, ← List.append_assoc parts.fields,
      splice_parts front (parts.destinationLength.trans parts.sourceLength.symm),
      ← List.append_assoc (parts.fields ++ parts.headerSum),
      splice_parts middle (parts.sourceLength.trans parts.destinationLength.symm)]
    unfold addresses
    simp only [List.append_assoc]
  have header : ipv4Checksum (parts.fields ++ (parts.headerSum ++ (parts.addresses ++
      (parts.kind ++ (parts.messageSum ++ parts.content))))) =
        checksum (parts.fields ++ parts.headerSum ++ parts.addresses) 5 := by
    have length : (parts.fields ++ parts.headerSum ++ parts.addresses).length =
        headerLength request * 4 := by
      rw [List.length_append, front, parts.length_addresses, parts.header]
      omega
    have least := parts.header
    unfold ipv4Checksum
    rw [parts.headerLength_fields, ← List.append_assoc, ← List.append_assoc,
      List.take_left' (length.trans ?_)]
    rw [List.length_append, length]
    omega
  unfold swapAddresses
  rw [parts.source_eq, parts.destination_eq]
  dsimp only
  rw [exchanged, header, splice_parts parts.fieldsLength
    ((length_checksum 5).trans parts.headerSumLength.symm)]
  unfold headerReply
  simp only [List.append_assoc]

/-- The message becomes a reply and its checksum is renewed. -/
theorem echoReply_eq : echoReply (parts.kind ++ (parts.messageSum ++ parts.content)) =
    parts.messageReply := by
  have typed : splice (parts.kind ++ (parts.messageSum ++ parts.content)) 0 [0, 0] =
      [0, 0] ++ (parts.messageSum ++ parts.content) :=
    @splice_parts [] parts.kind [0, 0] 0 rfl parts.kindLength.symm _
  unfold echoReply messageReply
  dsimp only
  rw [typed, splice_parts (show [0, 0].length = 2 from rfl)
    ((length_checksum 1).trans parts.messageSumLength.symm), List.append_assoc]

theorem length_messageReply : parts.messageReply.length = 4 + parts.content.length := by
  unfold messageReply
  rw [List.length_append, List.length_append, length_checksum]
  simp only [List.length_cons, List.length_nil]
  omega

theorem length_upToDestination :
    (parts.fields ++ parts.headerSum ++ parts.source ++ parts.destination).length = 20 := by
  simp only [List.length_append, parts.fieldsLength, parts.headerSumLength, parts.sourceLength,
    parts.destinationLength]

/-- The options of the request are what its header has behind the addresses. -/
theorem options_eq : (request.take (headerLength request * 4)).drop 20 = parts.options := by
  have before := parts.length_upToDestination
  have whole : request = parts.fields ++ parts.headerSum ++ parts.source ++ parts.destination ++
      parts.options ++ (parts.kind ++ (parts.messageSum ++ (parts.content ++ parts.padding))) := by
    refine parts.whole.trans ?_
    simp only [List.append_assoc]
  refine (congrArg (fun bytes => (List.take (headerLength request * 4) bytes).drop 20)
    whole).trans ?_
  rw [List.take_left' (by rw [List.length_append, before, parts.header]), List.drop_left' before]

/-- The content of the request is what its total length has behind the checksum of the message. -/
theorem content_eq : (request.take (totalLength request)).drop (headerLength request * 4 + 4) =
    parts.content := by
  rw [parts.take_totalLength]
  simp only [← List.append_assoc]
  refine List.drop_left' ?_
  rw [List.length_append, List.length_append, List.length_append, parts.length_upToDestination,
    parts.kindLength, parts.messageSumLength, parts.header]

theorem length_upToHeaderSum : (parts.fields ++
    checksum (parts.fields ++ parts.headerSum ++ parts.addresses) 5).length = 12 := by
  rw [List.length_append, parts.fieldsLength, length_checksum]

theorem length_upToExchanged : (parts.fields ++
    checksum (parts.fields ++ parts.headerSum ++ parts.addresses) 5 ++
      parts.destination).length = 16 := by
  rw [List.length_append, parts.length_upToHeaderSum, parts.destinationLength]

/-- The header of the reply, cut at the addresses. -/
theorem headerReply_eq : parts.headerReply = parts.fields ++
    checksum (parts.fields ++ parts.headerSum ++ parts.addresses) 5 ++
      (parts.destination ++ (parts.source ++ parts.options)) :=
  (List.append_assoc _ _ _).symm

/-- The reply has the options of the request. -/
theorem options_headerReply : parts.headerReply.drop 20 = parts.options := by
  rw [parts.headerReply_eq, ← List.append_assoc, ← List.append_assoc]
  exact List.drop_left' (by rw [List.length_append, parts.length_upToExchanged, parts.sourceLength])

/-- The reply comes from where the request went to. -/
theorem source_reply (rest : List UInt8) :
    ((parts.headerReply ++ rest).drop 12).take 4 = parts.destination := by
  rw [parts.headerReply_eq, List.append_assoc, List.append_assoc parts.destination,
    slice_parts parts.length_upToHeaderSum parts.destinationLength]

/-- The reply goes to where the request came from. -/
theorem destination_reply (rest : List UInt8) :
    ((parts.headerReply ++ rest).drop 16).take 4 = parts.source := by
  rw [parts.headerReply_eq, List.append_assoc, List.append_assoc parts.destination,
    List.append_assoc parts.source, ← List.append_assoc _ parts.destination,
    slice_parts parts.length_upToExchanged parts.sourceLength]

theorem take_headerReply (rest : List UInt8) :
    (parts.headerReply ++ rest).take (headerLength request * 4) = parts.headerReply :=
  List.take_left' parts.length_headerReply

theorem drop_headerReply (rest : List UInt8) :
    (parts.headerReply ++ rest).drop (headerLength request * 4) = rest :=
  List.drop_left' parts.length_headerReply

theorem content_messageReply : parts.messageReply.drop 4 = parts.content := by
  unfold messageReply
  rw [← List.append_assoc]
  refine List.drop_left' ?_
  rw [List.length_append, length_checksum]
  rfl

/-- The checksum of the header is right. -/
theorem verifies_headerReply : Verifies parts.headerReply := by
  have headerBound : headerLength request ≤ 15 := Nat.le_of_lt_succ (Nat.mod_lt _ (by decide))
  have header := parts.header
  unfold headerReply
  refine verifies_checksum parts.fieldsLength parts.headerSumLength ?_
  rw [parts.fieldsLength, parts.length_addresses]
  omega

/-- The checksum of the message is right. -/
theorem verifies_messageReply : Verifies parts.messageReply := by
  have totalBound : totalLength request ≤ 65535 := by
    have high := (request.getD 2 0).toNat_lt
    have low := (request.getD 3 0).toNat_lt
    unfold totalLength byteAt
    omega
  have total := parts.total
  unfold messageReply
  refine verifies_checksum rfl parts.messageSumLength ?_
  simp only [List.length_cons, List.length_nil]
  omega

/-- The reply that is put together this way answers the request. -/
theorem answers : Answers request (parts.headerReply ++ parts.messageReply) := by
  refine ⟨?_, ?_, ?_, ?_, ?_, ?_, ?_, ?_, ?_⟩
  · rw [List.length_append, parts.length_headerReply, parts.length_messageReply, parts.total,
      parts.header]
    omega
  · unfold headerReply
    rw [List.append_assoc, List.take_left' parts.fieldsLength]
    exact ((congrArg (List.take 10) parts.whole).trans (List.take_left' parts.fieldsLength)).symm
  · rw [parts.take_headerReply, parts.options_eq]
    exact parts.options_headerReply
  · rw [parts.source_reply, parts.destination_eq]
  · rw [parts.destination_reply, parts.source_eq]
  · rw [← byteAt_drop, parts.drop_headerReply]
    rfl
  · rw [parts.content_eq, ← List.drop_drop, parts.drop_headerReply]
    exact parts.content_messageReply
  · rw [parts.take_headerReply]
    exact parts.verifies_headerReply
  · rw [parts.drop_headerReply]
    exact parts.verifies_messageReply

end Parts

/-- The bytes a request carries behind its header. -/
theorem EchoRequest.ipv4Payload_eq {payload : List UInt8} (echo : EchoRequest payload) :
    ipv4Payload payload =
      (payload.take (totalLength payload)).drop (headerLength payload * 4) := by
  obtain ⟨header, message, whole, -, -⟩ := echo
  have start : 20 + (headerLength payload * 4 - 20) = headerLength payload * 4 := by omega
  have stop : min (headerLength payload * 4 + (totalLength payload - headerLength payload * 4))
      payload.length = totalLength payload := by omega
  unfold ipv4Payload
  dsimp only
  rw [start, stop, if_neg (by omega)]

/-- An echo request in an IPv4 packet that names more bytes than there are. -/
def Truncated (payload : List UInt8) : Prop :=
  20 ≤ payload.length ∧ nextLevelProtocol payload = icmpProtocol ∧
    8 ≤ (ipv4Payload payload).length ∧ byteAt (ipv4Payload payload) 0 = echoRequest ∧
      payload.length < totalLength payload

end Icmp

open Icmp

/-! ### The answer to an echo request -/

/-- The reply to every echo request answers it. -/
theorem handleIcmpPing_echoRequest (packet : NetPacket) (echo : EchoRequest packet.payload) :
    ∃ reply, handleIcmpPing packet = .ok (some (gatewayPacket .turn packet.header.seq reply)) ∧
      Answers packet.payload reply := by
  have parts := echo.parts
  refine ⟨parts.headerReply ++ parts.messageReply, ?_, parts.answers⟩
  obtain ⟨header, message, whole, protocol, type⟩ := echo
  have icmp := EchoRequest.ipv4Payload_eq ⟨header, message, whole, protocol, type⟩
  have first : byteAt (ipv4Payload packet.payload) 0 = echoRequest := by
    rw [icmp, byteAt_drop, byteAt_take (by omega)]
    exact type
  have long : 8 ≤ (ipv4Payload packet.payload).length := by
    rw [icmp, List.length_drop, List.length_take]
    omega
  have swapped := parts.swapAddresses_eq
  have dropped : (swapAddresses packet.payload (packet.payload.take
      (totalLength packet.payload))).drop (headerLength packet.payload * 4) =
        parts.kind ++ (parts.messageSum ++ parts.content) := by
    rw [swapped]
    exact List.drop_left' parts.length_headerReply
  have taken : (swapAddresses packet.payload (packet.payload.take
      (totalLength packet.payload))).take (headerLength packet.payload * 4) =
        parts.headerReply := by
    rw [swapped]
    exact List.take_left' parts.length_headerReply
  unfold handleIcmpPing
  dsimp only
  rw [if_neg, if_neg, if_neg (by omega), if_neg (by omega), if_neg (by omega), dropped, taken,
    if_neg, parts.echoReply_eq]
  · rw [List.length_append, List.length_append, parts.kindLength, parts.messageSumLength]
    omega
  · rintro (short | other)
    · omega
    · exact other first
  · rintro (short | other)
    · omega
    · exact other protocol

/-- The only packets whose answer panics are the truncated echo requests. -/
theorem handleIcmpPing_panics_iff (packet : NetPacket) :
    handleIcmpPing packet = .error .panics ↔ Truncated packet.payload := by
  have behind : 8 ≤ (ipv4Payload packet.payload).length →
      headerLength packet.payload * 4 + 8 ≤ totalLength packet.payload := by
    intro long
    unfold ipv4Payload at long
    dsimp only at long
    split at long
    · cases long
    · rw [List.length_drop, List.length_take] at long
      omega
  unfold handleIcmpPing Truncated
  dsimp only
  split
  · next other =>
    refine ⟨nofun, fun ⟨long, protocol, _⟩ => ?_⟩
    rcases other with short | other
    · exact absurd long (Nat.not_le_of_lt short)
    · exact absurd protocol other
  · next ipv4 =>
    rw [not_or, Nat.not_lt, not_not] at ipv4
    obtain ⟨long, protocol⟩ := ipv4
    split
    · next other =>
      refine ⟨nofun, fun ⟨_, _, message, type, _⟩ => ?_⟩
      rcases other with short | other
      · exact absurd message (Nat.not_le_of_lt short)
      · exact absurd type other
    · next echo =>
      rw [not_or, Nat.not_lt, not_not] at echo
      obtain ⟨message, type⟩ := echo
      have inside := behind message
      split
      · next short => exact ⟨fun _ => ⟨long, protocol, message, type, short⟩, fun _ => rfl⟩
      · next whole =>
        refine ⟨fun panics => ?_, fun ⟨_, _, _, _, short⟩ => absurd short whole⟩
        split at panics
        · cases panics
        rw [if_neg (by omega)] at panics
        split at panics <;> cases panics

/-- An answer that is no reply is a panic or none. -/
theorem handleIcmpPing_error {packet : NetPacket} {fault : Fault}
    (failed : handleIcmpPing packet = .error fault) : fault = .panics := by
  unfold handleIcmpPing at failed
  dsimp only at failed
  split at failed
  · cases failed
  split at failed
  · cases failed
  split at failed
  · exact (Except.error.inj failed).symm
  split at failed
  · cases failed
  split at failed
  · exact (Except.error.inj failed).symm
  split at failed <;> cases failed

/-! ### The handling of a packet -/

/-- The handling of a packet ended without a panic. -/
def HandlerResult.Returns (result : HandlerResult) : Prop := result.outcome ≠ .error .panics

theorem HandlerResult.returns_done (actions : List HandlerAction) : (done actions).Returns := nofun

theorem HandlerResult.returns_fail (actions : List HandlerAction) (message : String) :
    (fail actions message).Returns := nofun

namespace ControlHandler

variable (codec : HandlerCodec) (handler : ControlHandler) (session : Session) (now : UInt64)

theorem returns_handleRpc (packet : NetPacket) :
    (handler.handleRpc codec session packet).Returns := by
  unfold handleRpc
  split
  · exact HandlerResult.returns_fail _ _
  · exact HandlerResult.returns_done _
  · exact HandlerResult.returns_done _

theorem returns_handlePingTurn (packet : NetPacket) :
    (handler.handlePingTurn codec session packet).Returns := by
  unfold handlePingTurn
  dsimp only
  split
  · exact HandlerResult.returns_done _
  split
  · exact HandlerResult.returns_done _
  split
  · exact HandlerResult.returns_done _
  · exact HandlerResult.returns_done _

theorem returns_handlePong (packet : NetPacket) : (handlePong session now packet).Returns := by
  unfold handlePong
  split
  · exact HandlerResult.returns_done _
  · exact HandlerResult.returns_done _

theorem returns_handleSelective (packet : NetPacket)
    (selects : List Ipv4Addr → Ipv4Addr → Bool) :
    (handler.handleSelective packet selects).Returns := by
  unfold handleSelective
  split
  · exact HandlerResult.returns_fail _ _
  split
  · exact HandlerResult.returns_fail _ _
  split
  · exact HandlerResult.returns_done _
  · exact HandlerResult.returns_done _

theorem returns_handleType (packet : NetPacket) (msgType : MsgType) :
    (handler.handleType session packet msgType).Returns := by
  unfold handleType
  split
  iterate 7
    split
    · exact HandlerResult.returns_done _
    · exact HandlerResult.returns_done _
  · exact returns_handleSelective handler packet _
  · exact returns_handleSelective handler packet _
  · exact HandlerResult.returns_done _

/-- A packet for the gateway panics if it is a truncated echo request that is answered. -/
theorem handleGateway_panics_iff (packet : NetPacket) (msgType : MsgType) :
    (handler.handleGateway codec session now packet msgType).outcome = .error .panics ↔
      handler.senderAlive = true ∧ packet.header.currTtl ≠ 0 ∧ msgType = .turn ∧
        Truncated packet.payload := by
  unfold handleGateway
  split
  · next dropped =>
    exact ⟨nofun, fun ⟨alive, _⟩ => nomatch dropped.symm.trans alive⟩
  · next alive =>
    rw [Bool.not_eq_false] at alive
    split
    · next expired => exact ⟨nofun, fun ⟨_, live, _⟩ => absurd expired live⟩
    · next live =>
      split
      · have answer := handleIcmpPing_panics_iff packet
        split
        · next replies => exact ⟨nofun, fun ⟨_, _, _, truncated⟩ =>
            nomatch replies.symm.trans (answer.mpr truncated)⟩
        · next silent => exact ⟨nofun, fun ⟨_, _, _, truncated⟩ =>
            nomatch silent.symm.trans (answer.mpr truncated)⟩
        · next fails =>
          have panics := handleIcmpPing_error fails
          subst panics
          exact ⟨fun _ => ⟨alive, live, rfl, answer.mp fails⟩, fun _ => rfl⟩
      · exact ⟨fun panics => absurd panics (returns_handlePingTurn codec handler session packet),
          nofun⟩
      · exact ⟨fun panics => absurd panics (returns_handlePong session now packet), nofun⟩
      · exact ⟨fun panics => absurd panics (returns_handleRpc codec handler session packet),
          nofun⟩
      · next other _ _ _ => exact ⟨nofun, fun ⟨_, _, same, _⟩ => absurd same other⟩

/-- The bytes are a packet for the gateway that is answered and holds a truncated echo request. -/
def TruncatedPing (handler : ControlHandler) (buf : List UInt8) : Prop :=
  ∃ packet, NetPacket.new (.ofBytes buf) = .ok packet ∧ packet.isGateway = true ∧
    packet.msgType = .ok .turn ∧ handler.senderAlive = true ∧ packet.header.currTtl ≠ 0 ∧
      Truncated packet.payload

/-- The only bytes a confirmed session panics on are truncated echo requests. -/
theorem handleData_panics_iff (active : handler.session = some session)
    (confirmed : session.registrationStatus = .confirmed) (buf : List UInt8) :
    (handler.handleData codec now buf).outcome = .error .panics ↔ handler.TruncatedPing buf := by
  unfold handleData TruncatedPing
  rw [active]
  dsimp only
  rw [confirmed]
  dsimp only
  cases parsed : NetPacket.new (.ofBytes buf) with
  | error message => exact ⟨nofun, fun ⟨_, isPacket, _⟩ => nomatch isPacket⟩
  | ok packet =>
    dsimp only
    cases typed : packet.msgType with
    | error message =>
      refine ⟨nofun, fun ⟨_, isPacket, _, isTurn, _⟩ => ?_⟩
      rw [← Except.ok.inj isPacket, typed] at isTurn
      cases isTurn
    | ok msgType =>
      dsimp only
      split
      · next gateway =>
        rw [handleGateway_panics_iff]
        refine ⟨fun ⟨alive, live, isTurn, truncated⟩ =>
          ⟨packet, rfl, gateway, typed.trans (congrArg _ isTurn), alive, live, truncated⟩, ?_⟩
        rintro ⟨_, isPacket, _, isTurn, alive, live, truncated⟩
        cases isPacket
        exact ⟨alive, live, Except.ok.inj (typed.symm.trans isTurn), truncated⟩
      · next forwards =>
        refine ⟨fun panics => absurd panics (returns_handleType handler session packet msgType),
          ?_⟩
        rintro ⟨_, isPacket, gateway, _⟩
        cases isPacket
        exact absurd gateway forwards

/-- The bytes are handled without a panic, and where they are an echo request to the gateway the
reply answers it. -/
structure AnswersPings (codec : HandlerCodec) (handler : ControlHandler) (now : UInt64)
    (buf : List UInt8) : Prop where
  returns : (handler.handleData codec now buf).Returns
  replies : ∀ packet, NetPacket.new (.ofBytes buf) = .ok packet → packet.isGateway = true →
    packet.msgType = .ok .turn → EchoRequest packet.payload →
      ∃ reply, handleIcmpPing packet = .ok (some (gatewayPacket .turn packet.header.seq reply)) ∧
        Answers packet.payload reply

/-- A confirmed session handles every packet and answers every echo request, but panics on those
that are truncated. -/
theorem answersPings_iff (active : handler.session = some session)
    (confirmed : session.registrationStatus = .confirmed) (buf : List UInt8) :
    AnswersPings codec handler now buf ↔ ¬ handler.TruncatedPing buf := by
  rw [← handleData_panics_iff codec handler session now active confirmed]
  exact ⟨AnswersPings.returns, fun returns =>
    ⟨returns, fun packet _ _ _ echo => handleIcmpPing_echoRequest packet echo⟩⟩

/-! ### A request and one that is cut off -/

/-- A confirmed session whose messages are all packets. -/
def pingedHandler : ControlHandler where
  session := some ⟨"net", "a", 0x0A1A0002, 1, 10, .confirmed⟩
  networkState := NetworkState.exampleState
  peerManager := none
  accepts := fun _ _ => true
  senderAlive := true

def pingedCodec : HandlerCodec where
  isConfirmReg := fun _ => false
  decodeRpcRequest := fun _ => .error "failed to decode Protobuf message"
  encodeClientListResponse := fun _ _ => []
  encodeClientSimpleInfoList := fun _ => []

/-- An echo request to the gateway with one byte of data that names the total length. -/
def pingBytes (total : UInt8) : List UInt8 :=
  [0x81, 0x55, 0x40, 0, 0, 0, 0, 0, 10, 26, 0, 2, 10, 26, 0, 1,
    0x45, 0, 0, total, 0, 0, 0, 0, 64, 1, 0, 0, 10, 26, 0, 2, 10, 26, 0, 1,
    8, 0, 0, 0, 0, 1, 0, 7, 42]

theorem answersPings_pingBytes : AnswersPings pingedCodec pingedHandler 0 (pingBytes 29) := by
  refine (answersPings_iff pingedCodec pingedHandler _ 0 rfl rfl (pingBytes 29)).mpr ?_
  rintro ⟨packet, parsed, -, -, -, -, truncated⟩
  cases Except.ok.inj parsed
  exact absurd truncated.2.2.2.2 (by decide)

/-- An echo request that names one byte more than it has ends in a panic. -/
theorem not_answersPings_truncated :
    ¬ AnswersPings pingedCodec pingedHandler 0 (pingBytes 30) := fun answers =>
  answers.returns (by rfl)

end ControlHandler

end Vnt.Server
