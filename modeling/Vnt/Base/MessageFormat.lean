/-
This file builds messages out of the fields of the wire format. A format says which field numbers
a message has, what the message is when no field is there, which fields are written for it, and what
a field that arrives changes in it. Formats are put together from one for each field: values that
are left out by default, optional values, lists, packed lists, messages in messages, and choices of
which at most one is there. Each format carries the proof that a message is merged back from its own
fields, so every message that is built in this way is read as it was written. A message whose fields
do not exclude each other is moreover read alike in whatever order its fields come, and whatever
fields of other numbers are between them.
-/

import Mathlib.Logic.Equiv.Defs
import Vnt.Base.Bytes
import Vnt.Base.Protobuf

namespace Vnt.Base.Protobuf

/-! ### Values of one field -/

/-- A value of the right shape; its length is not asked for. -/
def FieldValue.Shaped : FieldValue → Prop
  | .varint value => value < 2 ^ 64
  | .fixed64 bytes => bytes.length = 8
  | .delimited _ => True
  | .fixed32 bytes => bytes.length = 4

instance instDecidableValid : (value : FieldValue) → Decidable value.Valid
  | .varint value => inferInstanceAs (Decidable (value < 2 ^ 64))
  | .fixed64 bytes => inferInstanceAs (Decidable (bytes.length = 8))
  | .delimited bytes => inferInstanceAs (Decidable (bytes.length < 2 ^ 64))
  | .fixed32 bytes => inferInstanceAs (Decidable (bytes.length = 4))

instance instDecidableFieldValid (field : Field) : Decidable field.Valid :=
  inferInstanceAs (Decidable (0 < field.tag ∧ field.tag < 2 ^ 29 ∧ field.value.Valid))

/-- How a value is written under a field number, and read from it. -/
structure ValueCodec (Value : Type) where
  write : Value → FieldValue
  read : FieldValue → Option Value
  shaped : ∀ value, (write value).Shaped
  read_write : ∀ value, (write value).Valid → read (write value) = some value

/-- The number of a varint, the bytes of a fixed value and those of a delimited one. -/
def FieldValue.varint? : FieldValue → Option Nat
  | .varint value => some value
  | _ => none

def FieldValue.fixed32? : FieldValue → Option (List UInt8)
  | .fixed32 bytes => some bytes
  | _ => none

def FieldValue.delimited? : FieldValue → Option (List UInt8)
  | .delimited bytes => some bytes
  | _ => none

namespace ValueCodec

def uint64 : ValueCodec UInt64 where
  write value := .varint value.toNat
  read field := field.varint?.map UInt64.ofNat
  shaped := UInt64.toNat_lt
  read_write _ _ := congrArg some UInt64.ofNat_toNat

def uint32 : ValueCodec UInt32 where
  write value := .varint value.toNat
  read field := field.varint?.map UInt32.ofNat
  shaped value := Nat.lt_trans value.toNat_lt (by decide)
  read_write _ _ := congrArg some UInt32.ofNat_toNat

def int64 : ValueCodec Int64 where
  write value := .varint value.toUInt64.toNat
  read field := field.varint?.map fun value => (UInt64.ofNat value).toInt64
  shaped value := value.toUInt64.toNat_lt
  read_write value _ := by
    show some (UInt64.ofNat value.toUInt64.toNat).toInt64 = some value
    rw [UInt64.ofNat_toNat, Int64.toInt64_toUInt64]

/-- The number of an enumeration, which is written with the sign of a 64-bit number. -/
def int32 : ValueCodec Int32 where
  write value := .varint value.toInt64.toUInt64.toNat
  read field := field.varint?.map fun value => (UInt64.ofNat value).toInt64.toInt32
  shaped value := value.toInt64.toUInt64.toNat_lt
  read_write value _ := by
    show some (UInt64.ofNat value.toInt64.toUInt64.toNat).toInt64.toInt32 = some value
    rw [UInt64.ofNat_toNat, Int64.toInt64_toUInt64, Int32.toInt32_toInt64]

def bool : ValueCodec Bool where
  write value := .varint value.toNat
  read field := field.varint?.map fun value => decide (value ≠ 0)
  shaped value := Nat.lt_trans value.toNat_lt (by decide)
  read_write value _ := by cases value <;> rfl

/-- Four bytes, the lowest first. -/
def fixed32 : ValueCodec UInt32 where
  write value := .fixed32 (wordBytes value).reverse
  read field := field.fixed32?.map fun bytes => ofWordBytes bytes.reverse
  shaped value := (List.length_reverse).trans (length_wordBytes value)
  read_write value _ := by
    show some (ofWordBytes (wordBytes value).reverse.reverse) = some value
    rw [List.reverse_reverse, ofWordBytes_wordBytes]

def bytes : ValueCodec (List UInt8) where
  write value := .delimited value
  read field := field.delimited?
  shaped _ := trivial
  read_write _ _ := rfl

/-- A text; the bytes have to be the encoding of one. -/
def string : ValueCodec String where
  write value := .delimited value.toUTF8.data.toList
  read field := field.delimited?.bind fun bytes => String.fromUTF8? ⟨bytes.toArray⟩
  shaped _ := trivial
  read_write value _ := by
    show String.fromUTF8? value.toUTF8 = some value
    exact dif_pos value.isValidUTF8

end ValueCodec

/-! ### The lengths of what is written -/

theorem length_encodeFields_le_of_mem {fields : List Field} {field : Field}
    (member : field ∈ fields) : field.encode.length ≤ (encodeFields fields).length := by
  obtain ⟨before, after, rfl⟩ := List.append_of_mem member
  have split : encodeFields (before ++ field :: after) =
      encodeFields before ++ (field.encode ++ encodeFields after) := by
    rw [encodeFields_append]
    rfl
  rw [split, List.length_append, List.length_append]
  omega

/-- The bytes of a value next to those that say which value it is. -/
def FieldValue.content : FieldValue → List UInt8
  | .varint _ => []
  | .fixed64 bytes => bytes
  | .delimited bytes => bytes
  | .fixed32 bytes => bytes

theorem length_encode_le (field : Field) :
    field.encode.length ≤ 20 + field.value.content.length := by
  obtain ⟨tag, value⟩ := field
  have key := length_encodeGroups 10 (tag * 8 + value.encode.1)
  have value_le : value.encode.2.length ≤ 10 + value.content.length := by
    cases value with
    | varint value => exact length_encodeGroups 10 value
    | fixed64 bytes => exact Nat.le_add_left ..
    | delimited bytes =>
      have number := length_encodeGroups 10 bytes.length
      show (encodeGroups 10 bytes.length ++ bytes).length ≤ 10 + bytes.length
      rw [List.length_append]
      omega
    | fixed32 bytes => exact Nat.le_add_left ..
  show (encodeGroups 10 (tag * 8 + value.encode.1) ++ value.encode.2).length ≤ _
  rw [List.length_append]
  dsimp only
  omega

/-- The length of fields whose contents are short. -/
theorem length_encodeFields_le {fields : List Field} {bound : Nat}
    (short : ∀ field ∈ fields, field.value.content.length ≤ bound) :
    (encodeFields fields).length ≤ fields.length * (20 + bound) := by
  induction fields with
  | nil => exact Nat.zero_le _
  | cons field rest inductionHypothesis =>
    obtain ⟨first, others⟩ := List.forall_mem_cons.mp short
    have head := length_encode_le field
    have tail := inductionHypothesis others
    have unfolded : encodeFields (field :: rest) = field.encode ++ encodeFields rest :=
      List.flatMap_cons
    rw [unfolded, List.length_append, List.length_cons, Nat.succ_mul]
    omega

theorem length_delimited_le (tag : Nat) (bytes : List UInt8) :
    bytes.length ≤ (Field.encode ⟨tag, .delimited bytes⟩).length := by
  unfold Field.encode FieldValue.encode
  rw [List.length_append, List.length_append]
  omega

/-- A value of the right shape is valid as soon as the message around it fits into memory. -/
theorem valid_of_shaped {fields : List Field} (fits : (encodeFields fields).length < 2 ^ 64)
    (tagged : ∀ field ∈ fields, 0 < field.tag ∧ field.tag < 2 ^ 29)
    (shaped : ∀ field ∈ fields, field.value.Shaped) : ∀ field ∈ fields, field.Valid := by
  intro field member
  obtain ⟨positive, bounded⟩ := tagged field member
  refine ⟨positive, bounded, ?_⟩
  have shape := shaped field member
  obtain ⟨tag, value⟩ := field
  cases value with
  | varint _ => exact shape
  | fixed64 _ => exact shape
  | fixed32 _ => exact shape
  | delimited bytes =>
    have inner := length_delimited_le tag bytes
    have outer := length_encodeFields_le_of_mem member
    show bytes.length < 2 ^ 64
    omega

/-! ### Packed lists -/

/-- A value that can stand next to others in a packed list: how it is put there and taken off. -/
structure Packable (Part : Type) extends ValueCodec Part where
  put : Part → List UInt8
  take : List UInt8 → Option (Part × List UInt8)
  put_ne_nil : ∀ value, put value ≠ []
  take_put : ∀ value rest, take (put value ++ rest) = some (value, rest)

namespace Packable

def uint32 : Packable UInt32 where
  toValueCodec := .uint32
  put value := encodeVarint value.toNat
  take bytes := (decodeVarint bytes).map fun decoded => (UInt32.ofNat decoded.1, decoded.2)
  put_ne_nil value := encodeVarint_ne_nil value.toNat
  take_put value rest := by
    rw [decodeVarint_encodeVarint (Nat.lt_trans value.toNat_lt (by decide)), Option.map_some,
      UInt32.ofNat_toNat]

def fixed32 : Packable UInt32 where
  toValueCodec := .fixed32
  put value := (wordBytes value).reverse
  take bytes := (splitBytes 4 bytes).map fun split => (ofWordBytes split.1.reverse, split.2)
  put_ne_nil value := List.reverse_ne_nil_iff.mpr fun empty => by
    have length := length_wordBytes value
    rw [empty] at length
    cases length
  take_put value rest := by
    rw [splitBytes_append ((List.length_reverse).trans (length_wordBytes value)),
      Option.map_some, List.reverse_reverse, ofWordBytes_wordBytes]

/-- The values of a packed list; each takes a byte at least. -/
def unpackWithin {Part : Type} (codec : Packable Part) : Nat → List UInt8 → Option (List Part)
  | _, [] => some []
  | 0, _ => none
  | fuel + 1, bytes =>
    (codec.take bytes).bind fun taken =>
      (codec.unpackWithin fuel taken.2).map fun later => taken.1 :: later

def pack {Part : Type} (codec : Packable Part) (values : List Part) : List UInt8 :=
  values.flatMap codec.put

def unpack {Part : Type} (codec : Packable Part) (bytes : List UInt8) : Option (List Part) :=
  codec.unpackWithin bytes.length bytes

theorem unpack_pack {Part : Type} (codec : Packable Part) (values : List Part) :
    codec.unpack (codec.pack values) = some values := by
  have enough : ∀ fuel, (codec.pack values).length ≤ fuel →
      codec.unpackWithin fuel (codec.pack values) = some values := by
    induction values with
    | nil =>
      intro fuel _
      cases fuel <;> rfl
    | cons value rest inductionHypothesis =>
      intro fuel within
      have unfolded : codec.pack (value :: rest) = codec.put value ++ codec.pack rest :=
        List.flatMap_cons
      have positive := List.length_pos_iff.mpr (codec.put_ne_nil value)
      rw [unfolded, List.length_append] at within
      obtain ⟨fuel, rfl⟩ : ∃ smaller, fuel = smaller + 1 := ⟨fuel - 1, by omega⟩
      obtain ⟨head, tail, isCons⟩ :
        ∃ head tail, codec.put value ++ codec.pack rest = head :: tail :=
        List.exists_cons_of_length_pos (by rw [List.length_append]; omega)
      rw [unfolded, isCons, unpackWithin, ← isCons, codec.take_put, Option.bind_some,
        inductionHypothesis fuel (by omega)]
      · rfl
      · exact List.cons_ne_nil _ _
  exact enough _ (Nat.le_refl _)

end Packable

/-! ### Formats -/

/-- Whether a number can stand for a field. -/
def isFieldNumber (tag : Nat) : Bool := decide (0 < tag) && decide (tag < 2 ^ 29)

theorem isFieldNumber_iff {tag : Nat} : isFieldNumber tag = true ↔ 0 < tag ∧ tag < 2 ^ 29 := by
  rw [isFieldNumber, Bool.and_eq_true, decide_eq_true_iff, decide_eq_true_iff]

/-- Whether no number is in both of two lists. -/
def apart (first second : List Nat) : Bool := first.all fun tag => decide (tag ∉ second)

theorem notMem_of_apart {first second : List Nat} {tag : Nat} (disjoint : apart first second = true)
    (member : tag ∈ first) : tag ∉ second :=
  of_decide_eq_true (List.all_eq_true.mp disjoint tag member)

/-- How a message, or a part of one, is written as fields and merged from them: the numbers of its
fields, the message when no field is there, the fields that are written for a message, and what a
field with one of the numbers changes in a message. -/
structure Format (Message : Type) where
  tags : List Nat
  default : Message
  fields : Message → List Field
  merge : Message → Field → Option Message
  tagged : ∀ tag ∈ tags, 0 < tag ∧ tag < 2 ^ 29
  owned : ∀ message, ∀ field ∈ fields message, field.tag ∈ tags
  shaped : ∀ message, ∀ field ∈ fields message, field.value.Shaped
  readBack : ∀ message, (∀ field ∈ fields message, field.Valid) →
    (fields message).foldlM merge default = some message

namespace Format

variable {Message Part : Type}

/-- What a field that arrives changes; a field of another number is passed over. -/
def step (format : Format Message) (message : Message) (field : Field) : Option Message :=
  if field.tag ∈ format.tags then format.merge message field else some message

def encode (format : Format Message) (message : Message) : List UInt8 :=
  encodeFields (format.fields message)

/-- What bytes change in a message. -/
def mergeBytes (format : Format Message) (message : Message) (bytes : List UInt8) :
    Option Message :=
  (decodeFields bytes).bind fun fields => fields.foldlM format.step message

def decode (format : Format Message) (bytes : List UInt8) : Option Message :=
  format.mergeBytes format.default bytes

theorem foldlM_step {format : Format Message} {fields : List Field}
    (owned : ∀ field ∈ fields, field.tag ∈ format.tags) (message : Message) :
    fields.foldlM format.step message = fields.foldlM format.merge message := by
  induction fields generalizing message with
  | nil => rfl
  | cons field rest inductionHypothesis =>
    obtain ⟨first, others⟩ := List.forall_mem_cons.mp owned
    have merges : format.step message field = format.merge message field := if_pos first
    rw [List.foldlM_cons, List.foldlM_cons, merges]
    exact congrArg _ (funext fun next => inductionHypothesis others next)

/-- The fields of a message that fits into memory are valid. -/
theorem valid_fields (format : Format Message) {message : Message}
    (fits : (format.encode message).length < 2 ^ 64) :
    ∀ field ∈ format.fields message, field.Valid :=
  valid_of_shaped fits (fun field member => format.tagged _ (format.owned message field member))
    (format.shaped message)

/-- A message that fits into memory is read as it was written. -/
theorem decode_encode (format : Format Message) {message : Message}
    (fits : (format.encode message).length < 2 ^ 64) :
    format.decode (format.encode message) = some message := by
  unfold decode mergeBytes
  rw [encode, decodeFields_encodeFields (format.valid_fields fits), Option.bind_some,
    foldlM_step (format.owned message), format.readBack message (format.valid_fields fits)]

/-- A message as the value of a field, read on top of the default. -/
def codec (format : Format Message) : ValueCodec Message where
  write message := .delimited (format.encode message)
  read value := value.delimited?.bind format.decode
  shaped _ := trivial
  read_write _ valid := format.decode_encode valid

/-! ### Formats of one field -/

section Fields

variable (tag : Nat) (tagged : isFieldNumber tag = true) (codec : ValueCodec Part)

/-- One field for each value of a list. -/
def listed (values : List Part) : List Field := values.map fun value => ⟨tag, codec.write value⟩

variable {tag codec} in
theorem listed_owned {values : List Part} {field : Field}
    (member : field ∈ listed tag codec values) :
    field.tag ∈ [tag] := by
  obtain ⟨_, _, rfl⟩ := List.mem_map.mp member
  exact List.mem_singleton_self tag

variable {tag codec} in
theorem listed_shaped {values : List Part} {field : Field}
    (member : field ∈ listed tag codec values) : field.value.Shaped := by
  obtain ⟨value, _, rfl⟩ := List.mem_map.mp member
  exact codec.shaped value

theorem length_listed (values : List Part) : (listed tag codec values).length = values.length :=
  List.length_map _

/-- A value that is left out when it is the default. -/
def implicit [DecidableEq Part] (default : Part) : Format Part where
  tags := [tag]
  default := default
  fields value := listed tag codec (if value = default then [] else [value])
  merge _ field := codec.read field.value
  tagged := List.forall_mem_singleton.mpr (isFieldNumber_iff.mp tagged)
  owned _ _ := listed_owned
  shaped _ _ := listed_shaped
  readBack value valid := by
    by_cases isDefault : value = default
    · rw [if_pos isDefault, isDefault]
      rfl
    · rw [if_neg isDefault] at valid ⊢
      have reads := codec.read_write value (List.forall_mem_singleton.mp valid).2.2
      show (codec.read (codec.write value)).bind some = some value
      rw [reads]
      rfl

theorem length_encode_implicit [DecidableEq Part] (default value : Part) :
    ((implicit tag tagged codec default).encode value).length ≤
      20 + (codec.write value).content.length := by
  show (encodeFields (listed tag codec (if value = default then [] else [value]))).length ≤ _
  split
  · exact Nat.zero_le _
  · have total := length_encodeFields_le
      (List.forall_mem_singleton.mpr (Nat.le_refl (codec.write value).content.length) :
        ∀ field ∈ [Field.mk tag (codec.write value)], field.value.content.length ≤ _)
    exact Nat.le_trans total (Nat.le_of_eq (Nat.one_mul _))

/-- A value that may be absent. -/
def optional : Format (Option Part) where
  tags := [tag]
  default := none
  fields value := listed tag codec value.toList
  merge _ field := (codec.read field.value).map some
  tagged := List.forall_mem_singleton.mpr (isFieldNumber_iff.mp tagged)
  owned _ _ := listed_owned
  shaped _ _ := listed_shaped
  readBack value valid := by
    cases value with
    | none => rfl
    | some value =>
      have reads := codec.read_write value (List.forall_mem_singleton.mp valid).2.2
      show ((codec.read (codec.write value)).map some).bind some = some (some value)
      rw [reads]
      rfl

/-- A list with one field for each value. -/
def repeated : Format (List Part) where
  tags := [tag]
  default := []
  fields values := listed tag codec values
  merge values field := (codec.read field.value).map fun value => values ++ [value]
  tagged := List.forall_mem_singleton.mpr (isFieldNumber_iff.mp tagged)
  owned _ _ := listed_owned
  shaped _ _ := listed_shaped
  readBack values valid := by
    have appended : ∀ before, (listed tag codec values).foldlM
        (fun values field => (codec.read field.value).map fun value => values ++ [value]) before =
          some (before ++ values) := by
      induction values with
      | nil =>
        intro before
        rw [List.append_nil]
        rfl
      | cons value rest inductionHypothesis =>
        intro before
        obtain ⟨first, others⟩ := List.forall_mem_cons.mp valid
        have reads := codec.read_write value first.2.2
        show ((codec.read (codec.write value)).map fun value => before ++ [value]).bind _ = _
        rw [reads, Option.map_some, Option.bind_some]
        have later := inductionHypothesis others (before ++ [value])
        rw [List.append_assoc] at later
        exact later
    exact appended []

theorem length_encode_repeated {bound : Nat} (values : List Part)
    (short : ∀ value ∈ values, (codec.write value).content.length ≤ bound) :
    ((repeated tag tagged codec).encode values).length ≤ values.length * (20 + bound) := by
  have contents : ∀ field ∈ listed tag codec values, field.value.content.length ≤ bound := by
    intro field member
    obtain ⟨value, isValue, rfl⟩ := List.mem_map.mp member
    exact short value isValue
  have total := length_encodeFields_le contents
  rw [length_listed] at total
  exact total

/-- A message in a message; a field that comes again is merged into the one that is there. -/
def message (format : Format Part) : Format (Option Part) where
  tags := [tag]
  default := none
  fields value := listed tag format.codec value.toList
  merge value field :=
    field.value.delimited?.bind fun bytes =>
      (format.mergeBytes (value.getD format.default) bytes).map some
  tagged := List.forall_mem_singleton.mpr (isFieldNumber_iff.mp tagged)
  owned _ _ := listed_owned
  shaped _ _ := listed_shaped
  readBack value valid := by
    cases value with
    | none => rfl
    | some value =>
      have reads := format.codec.read_write value (List.forall_mem_singleton.mp valid).2.2
      show ((format.decode (format.encode value)).map some).bind some = some (some value)
      rw [show format.decode (format.encode value) = some value from reads]
      rfl

theorem length_encode_message (format : Format Part) (part : Part) :
    ((message tag tagged format).encode (some part)).length ≤ 20 + (format.encode part).length := by
  have total := length_encodeFields_le
    (List.forall_mem_singleton.mpr (Nat.le_refl (format.encode part).length) :
      ∀ field ∈ [Field.mk tag (format.codec.write part)], field.value.content.length ≤ _)
  exact Nat.le_trans total (Nat.le_of_eq (Nat.one_mul _))

end Fields

/-- A list in one field, left out when it is empty; single values are appended as well. -/
def packed (tag : Nat) (tagged : isFieldNumber tag = true) (codec : Packable Part) :
    Format (List Part) where
  tags := [tag]
  default := []
  fields values := listed tag .bytes (if values.isEmpty = true then [] else [codec.pack values])
  merge values field :=
    match field.value with
    | .delimited bytes => (codec.unpack bytes).map fun later => values ++ later
    | value => (codec.read value).map fun later => values ++ [later]
  tagged := List.forall_mem_singleton.mpr (isFieldNumber_iff.mp tagged)
  owned _ _ := listed_owned
  shaped _ _ := listed_shaped
  readBack values _ := by
    cases values with
    | nil => rfl
    | cons value rest =>
      show ((codec.unpack (codec.pack (value :: rest))).map fun later => [] ++ later).bind some =
        some (value :: rest)
      rw [codec.unpack_pack]
      rfl

/-! ### Formats of several fields -/

/-- Merging into a part of a state is merging into the part. -/
theorem foldlM_embed {State : Type} {fields : List Field} {merge : State → Field → Option State}
    (mergePart : Part → Field → Option Part) (embed : Part → State)
    (agrees : ∀ field ∈ fields, ∀ part,
      merge (embed part) field = (mergePart part field).map embed) (part : Part) :
    fields.foldlM merge (embed part) = (fields.foldlM mergePart part).map embed := by
  induction fields generalizing part with
  | nil => rfl
  | cons field rest inductionHypothesis =>
    obtain ⟨first, others⟩ := List.forall_mem_cons.mp agrees
    rw [List.foldlM_cons, List.foldlM_cons, first]
    cases mergePart part field with
    | none => rfl
    | some next => exact inductionHypothesis others next

/-- The fields of two parts, with numbers of their own. -/
def both {First Second : Type} (first : Format First) (second : Format Second)
    (disjoint : apart first.tags second.tags = true) : Format (First × Second) where
  tags := first.tags ++ second.tags
  default := (first.default, second.default)
  fields pair := first.fields pair.1 ++ second.fields pair.2
  merge pair field :=
    if field.tag ∈ first.tags then (first.merge pair.1 field).map fun part => (part, pair.2)
    else (second.merge pair.2 field).map fun part => (pair.1, part)
  tagged tag member := (List.mem_append.mp member).elim (first.tagged tag) (second.tagged tag)
  owned pair field member := List.mem_append.mpr <|
    (List.mem_append.mp member).imp (first.owned pair.1 field) (second.owned pair.2 field)
  shaped pair field member :=
    (List.mem_append.mp member).elim (first.shaped pair.1 field) (second.shaped pair.2 field)
  readBack pair valid := by
    obtain ⟨validFirst, validSecond⟩ := List.forall_mem_append.mp valid
    rw [List.foldlM_append,
      foldlM_embed first.merge (fun part => (part, second.default))
        (fun field member part => if_pos (first.owned pair.1 field member)) first.default,
      first.readBack pair.1 validFirst]
    refine (foldlM_embed second.merge (fun part => (pair.1, part))
      (fun field member part => if_neg fun shared => ?_) second.default).trans ?_
    · exact notMem_of_apart disjoint shared (second.owned pair.2 field member)
    · rw [second.readBack pair.2 validSecond]
      rfl

theorem length_encode_both_le {First Second : Type} {first : Format First}
    {second : Format Second} {disjoint : apart first.tags second.tags = true}
    {pair : First × Second} {bound other : Nat} (short : (first.encode pair.1).length ≤ bound)
    (otherShort : (second.encode pair.2).length ≤ other) :
    ((first.both second disjoint).encode pair).length ≤ bound + other := by
  have parts : (first.both second disjoint).encode pair =
      first.encode pair.1 ++ second.encode pair.2 := encodeFields_append _ _
  rw [parts, List.length_append]
  exact Nat.add_le_add short otherShort

/-- At most one of two parts; a field of one of them puts an end to the other. -/
def either {First Second : Type} (first : Format (Option First)) (second : Format (Option Second))
    (disjoint : apart first.tags second.tags = true) (firstAbsent : first.default = none)
    (secondAbsent : second.default = none) : Format (Option (First ⊕ Second)) where
  tags := first.tags ++ second.tags
  default := none
  fields
    | none => []
    | some (.inl part) => first.fields (some part)
    | some (.inr part) => second.fields (some part)
  merge choice field :=
    if field.tag ∈ first.tags then
      (first.merge (choice.bind Sum.getLeft?) field).map (Option.map Sum.inl)
    else (second.merge (choice.bind Sum.getRight?) field).map (Option.map Sum.inr)
  tagged tag member := (List.mem_append.mp member).elim (first.tagged tag) (second.tagged tag)
  owned choice field member := List.mem_append.mpr <| by
    cases choice with
    | none => cases member
    | some choice =>
      cases choice with
      | inl part => exact .inl (first.owned _ field member)
      | inr part => exact .inr (second.owned _ field member)
  shaped choice field member := by
    cases choice with
    | none => cases member
    | some choice =>
      cases choice with
      | inl part => exact first.shaped _ field member
      | inr part => exact second.shaped _ field member
  readBack choice valid := by
    cases choice with
    | none => rfl
    | some choice =>
      cases choice with
      | inl part =>
        refine (foldlM_embed first.merge (Option.map Sum.inl)
          (fun field member choice => ?_) none).trans ?_
        · cases choice <;> exact if_pos (first.owned _ field member)
        · rw [← firstAbsent, first.readBack _ valid]
          rfl
      | inr part =>
        refine (foldlM_embed second.merge (Option.map Sum.inr)
          (fun field member choice => ?_) none).trans ?_
        · have other : field.tag ∉ first.tags := fun shared =>
            notMem_of_apart disjoint shared (second.owned _ field member)
          cases choice <;> exact if_neg other
        · rw [← secondAbsent, second.readBack _ valid]
          rfl

/-- A message that is made of its parts. -/
def ofEquiv (parts : Message ≃ Part) (format : Format Part) : Format Message where
  tags := format.tags
  default := parts.symm format.default
  fields message := format.fields (parts message)
  merge message field := (format.merge (parts message) field).map parts.symm
  tagged := format.tagged
  owned message := format.owned (parts message)
  shaped message := format.shaped (parts message)
  readBack message valid := by
    refine (foldlM_embed format.merge parts.symm
      (fun field _ part => ?_) format.default).trans ?_
    · rw [parts.apply_symm_apply]
    · rw [format.readBack _ valid, Option.map_some, parts.symm_apply_apply]

theorem length_encode_ofEquiv_le {parts : Message ≃ Part} {format : Format Part}
    {message : Message} {bound : Nat} (short : (format.encode (parts message)).length ≤ bound) :
    ((format.ofEquiv parts).encode message).length ≤ bound := short

/-- A message without fields. -/
def empty : Format Unit where
  tags := []
  default := ()
  fields _ := []
  merge _ _ := some ()
  tagged _ member := by cases member
  owned _ _ member := by cases member
  shaped _ _ member := by cases member
  readBack _ _ := rfl

/-! ### The order of the fields -/

/-- The fields of different numbers do not depend on each other: only the fields of each number
count, in their order. -/
def Separate (format : Format Message) : Prop :=
  ∀ message (fields others : List Field),
    (∀ tag ∈ format.tags, fields.filter (fun field => field.tag = tag) =
      others.filter fun field => field.tag = tag) →
    fields.foldlM format.step message = others.foldlM format.step message

/-- Fields of other numbers are passed over. -/
theorem foldlM_step_filter (format : Format Message) (fields : List Field) (message : Message) :
    fields.foldlM format.step message =
      (fields.filter fun field => field.tag ∈ format.tags).foldlM format.merge message := by
  induction fields generalizing message with
  | nil => rfl
  | cons field rest inductionHypothesis =>
    rw [List.foldlM_cons]
    by_cases known : field.tag ∈ format.tags
    · rw [List.filter_cons, if_pos (decide_eq_true known), List.foldlM_cons, step, if_pos known]
      exact congrArg _ (funext inductionHypothesis)
    · rw [List.filter_cons, if_neg (by rwa [decide_eq_true_eq]), step, if_neg known]
      exact inductionHypothesis message

theorem separate_of_tags {format : Format Message} {tag : Nat} (single : format.tags = [tag]) :
    format.Separate := by
  intro message fields others agree
  have own := agree tag (single ▸ List.mem_singleton_self tag)
  rw [foldlM_step_filter, foldlM_step_filter, single]
  simp only [List.mem_singleton]
  rw [own]

section Both

variable {First Second : Type} {first : Format First} {second : Format Second}
  {disjoint : apart first.tags second.tags = true}

theorem step_both (pair : First × Second) (field : Field) :
    (first.both second disjoint).step pair field =
      (first.step pair.1 field).bind fun part =>
        (second.step pair.2 field).map fun other => (part, other) := by
  have tags : field.tag ∈ (first.both second disjoint).tags ↔
      field.tag ∈ first.tags ∨ field.tag ∈ second.tags := List.mem_append
  unfold step
  by_cases isFirst : field.tag ∈ first.tags
  · rw [if_pos (tags.mpr (.inl isFirst)), if_pos isFirst, if_neg (notMem_of_apart disjoint isFirst)]
    exact (if_pos isFirst).trans (Option.map_eq_bind ..)
  · by_cases isSecond : field.tag ∈ second.tags
    · rw [if_pos (tags.mpr (.inr isSecond)), if_neg isFirst, if_pos isSecond]
      exact if_neg isFirst
    · rw [if_neg fun known => (tags.mp known).elim isFirst isSecond, if_neg isFirst,
        if_neg isSecond]
      rfl

/-- Each part is merged from the fields on its own. -/
theorem foldlM_both (fields : List Field) (pair : First × Second) :
    fields.foldlM (first.both second disjoint).step pair =
      (fields.foldlM first.step pair.1).bind fun part =>
        (fields.foldlM second.step pair.2).map fun other => (part, other) := by
  induction fields generalizing pair with
  | nil => rfl
  | cons field rest inductionHypothesis =>
    rw [List.foldlM_cons, List.foldlM_cons, List.foldlM_cons, step_both]
    cases first.step pair.1 field with
    | none => rfl
    | some part =>
      cases second.step pair.2 field with
      | none => exact (Option.bind_fun_none _).symm
      | some other => exact inductionHypothesis (part, other)

theorem Separate.both (firstSeparate : first.Separate) (secondSeparate : second.Separate) :
    (first.both second disjoint).Separate := by
  intro pair fields others agree
  have onFirst := firstSeparate pair.1 fields others fun tag member =>
    agree tag (List.mem_append_left _ member)
  have onSecond := secondSeparate pair.2 fields others fun tag member =>
    agree tag (List.mem_append_right _ member)
  rw [foldlM_both, foldlM_both, onFirst, onSecond]

end Both

theorem Separate.ofEquiv {format : Format Part} (separate : format.Separate)
    (parts : Message ≃ Part) : (format.ofEquiv parts).Separate := by
  intro message fields others agree
  have embedded : ∀ fields : List Field, fields.foldlM (format.ofEquiv parts).step message =
      (fields.foldlM format.step (parts message)).map parts.symm := by
    intro fields
    have agrees : ∀ field ∈ fields, ∀ part,
        (format.ofEquiv parts).step (parts.symm part) field =
          (format.step part field).map parts.symm := by
      intro field _ part
      unfold step
      by_cases known : field.tag ∈ format.tags
      · rw [if_pos known]
        refine (if_pos known).trans ?_
        show (format.merge (parts (parts.symm part)) field).map _ = _
        rw [parts.apply_symm_apply]
      · rw [if_neg known]
        exact if_neg known
    have folded := foldlM_embed format.step parts.symm agrees (parts message)
    rw [parts.symm_apply_apply] at folded
    exact folded
  rw [embedded, embedded, separate _ fields others agree]

/-- A message of separate fields is read from any valid fields that give each of its numbers the
fields that are written for it. -/
theorem Separate.decode_eq {format : Format Message} (separate : format.Separate)
    {message : Message} {fields : List Field} (valid : ∀ field ∈ fields, field.Valid)
    (agree : ∀ tag ∈ format.tags, fields.filter (fun field => field.tag = tag) =
      (format.fields message).filter fun field => field.tag = tag) :
    format.decode (encodeFields fields) = some message := by
  have written : ∀ field ∈ format.fields message, field.Valid := by
    intro field member
    have owned := format.owned message field member
    have arrives : field ∈ fields.filter fun other => other.tag = field.tag := by
      rw [agree _ owned]
      exact List.mem_filter.mpr ⟨member, decide_eq_true rfl⟩
    exact valid field (List.mem_of_mem_filter arrives)
  unfold decode mergeBytes
  rw [decodeFields_encodeFields valid, Option.bind_some, separate _ _ _ agree,
    foldlM_step (format.owned message), format.readBack message written]

end Format

end Vnt.Base.Protobuf
