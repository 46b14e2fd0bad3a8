/-
This file develops the wire format of protocol buffers: numbers as groups of seven bits, the
lowest group first, and messages as sequences of fields, each with its number and its kind in
front. Fields that are written are read back, in order and with nothing left over. Groups, which
the third version of the format does not have, are refused.
-/

import Mathlib.Algebra.Group.Nat.Defs
import Mathlib.Data.List.Basic

namespace Vnt.Base.Protobuf

/-- The value of a field, by wire type. -/
inductive FieldValue where
  | varint (value : Nat)
  | fixed64 (bytes : List UInt8)
  | delimited (bytes : List UInt8)
  | fixed32 (bytes : List UInt8)
  deriving DecidableEq, Repr

structure Field where
  tag : Nat
  value : FieldValue
  deriving DecidableEq, Repr

/-! ### Numbers -/

/-- A number in at most `count` groups of seven bits. -/
def encodeGroups : Nat → Nat → List UInt8
  | 0, _ => []
  | count + 1, value =>
    if value < 128 then [UInt8.ofNat value]
    else UInt8.ofNat (value % 128 + 128) :: encodeGroups count (value / 128)

/-- A number in at most `count` groups, and what follows it. -/
def decodeGroups : Nat → List UInt8 → Option (Nat × List UInt8)
  | 0, _ => none
  | _, [] => none
  | count + 1, byte :: rest =>
    if byte.toNat < 128 then some (byte.toNat, rest)
    else (decodeGroups count rest).map fun later => (byte.toNat % 128 + 128 * later.1, later.2)

/-- A 64-bit number. -/
def encodeVarint (value : Nat) : List UInt8 := encodeGroups 10 value

def decodeVarint (bytes : List UInt8) : Option (Nat × List UInt8) :=
  (decodeGroups 10 bytes).filter fun decoded => decide (decoded.1 < 2 ^ 64)

theorem decodeGroups_encodeGroups {count value : Nat} (fits : value < 128 ^ (count + 1))
    (rest : List UInt8) : decodeGroups (count + 1) (encodeGroups (count + 1) value ++ rest) =
      some (value, rest) := by
  induction count generalizing value with
  | zero =>
    have isSmall : (UInt8.ofNat value).toNat = value := by
      rw [UInt8.toNat_ofNat']
      omega
    rw [encodeGroups, if_pos (by omega), List.singleton_append, decodeGroups, isSmall,
      if_pos (by omega)]
  | succ count inductionHypothesis =>
    rw [encodeGroups]
    split
    · next small =>
      have isSmall : (UInt8.ofNat value).toNat = value := by
        rw [UInt8.toNat_ofNat']
        omega
      rw [List.singleton_append, decodeGroups, isSmall, if_pos small]
    · have isLarge : (UInt8.ofNat (value % 128 + 128)).toNat = value % 128 + 128 := by
        rw [UInt8.toNat_ofNat']
        omega
      have quotient : value / 128 < 128 ^ (count + 1) := by
        rw [Nat.pow_succ] at fits
        omega
      rw [List.cons_append, decodeGroups, isLarge, if_neg (by omega),
        inductionHypothesis quotient]
      simp only [Option.map_some, Option.some.injEq, Prod.mk.injEq, and_true]
      omega

theorem length_encodeGroups (count value : Nat) : (encodeGroups count value).length ≤ count := by
  induction count generalizing value with
  | zero => exact Nat.le_refl 0
  | succ count inductionHypothesis =>
    rw [encodeGroups]
    split
    · rw [List.length_singleton]
      omega
    · exact Nat.succ_le_succ (inductionHypothesis _)

theorem decodeVarint_encodeVarint {value : Nat} (fits : value < 2 ^ 64) (rest : List UInt8) :
    decodeVarint (encodeVarint value ++ rest) = some (value, rest) := by
  unfold decodeVarint encodeVarint
  rw [decodeGroups_encodeGroups (by omega) rest]
  simp only [Option.filter_some, decide_eq_true fits, if_true]

theorem encodeVarint_ne_nil (value : Nat) : encodeVarint value ≠ [] := by
  unfold encodeVarint encodeGroups
  split <;> exact List.cons_ne_nil _ _

/-! ### Fields -/

/-- The wire type of a value and its bytes. -/
def FieldValue.encode : FieldValue → Nat × List UInt8
  | .varint value => (0, encodeVarint value)
  | .fixed64 bytes => (1, bytes)
  | .delimited bytes => (2, encodeVarint bytes.length ++ bytes)
  | .fixed32 bytes => (5, bytes)

/-- A given number of bytes, and what follows them. -/
def splitBytes (count : Nat) (bytes : List UInt8) : Option (List UInt8 × List UInt8) :=
  if count ≤ bytes.length then some (bytes.take count, bytes.drop count) else none

/-- A value of a wire type, and what follows it. -/
def decodeValue (wireType : Nat) (bytes : List UInt8) : Option (FieldValue × List UInt8) :=
  match wireType with
  | 0 => (decodeVarint bytes).map fun decoded => (.varint decoded.1, decoded.2)
  | 1 => (splitBytes 8 bytes).map fun split => (.fixed64 split.1, split.2)
  | 2 =>
    (decodeVarint bytes).bind fun decoded =>
      (splitBytes decoded.1 decoded.2).map fun split => (.delimited split.1, split.2)
  | 5 => (splitBytes 4 bytes).map fun split => (.fixed32 split.1, split.2)
  | _ => none

def Field.encode (field : Field) : List UInt8 :=
  encodeVarint (field.tag * 8 + field.value.encode.1) ++ field.value.encode.2

/-- A field, and what follows it. -/
def decodeField (bytes : List UInt8) : Option (Field × List UInt8) :=
  (decodeVarint bytes).bind fun key =>
    if key.1 / 8 = 0 ∨ 2 ^ 32 ≤ key.1 then none
    else (decodeValue (key.1 % 8) key.2).map fun value => (⟨key.1 / 8, value.1⟩, value.2)

def encodeFields (fields : List Field) : List UInt8 := fields.flatMap Field.encode

/-- The fields of a message; each takes a byte at least. -/
def decodeFieldsWithin : Nat → List UInt8 → Option (List Field)
  | _, [] => some []
  | 0, _ => none
  | fuel + 1, bytes =>
    (decodeField bytes).bind fun decoded =>
      (decodeFieldsWithin fuel decoded.2).map fun later => decoded.1 :: later

def decodeFields (bytes : List UInt8) : Option (List Field) :=
  decodeFieldsWithin bytes.length bytes

theorem encodeFields_append (first second : List Field) :
    encodeFields (first ++ second) = encodeFields first ++ encodeFields second :=
  List.flatMap_append

/-- A value the format can hold. -/
def FieldValue.Valid : FieldValue → Prop
  | .varint value => value < 2 ^ 64
  | .fixed64 bytes => bytes.length = 8
  | .delimited bytes => bytes.length < 2 ^ 64
  | .fixed32 bytes => bytes.length = 4

def Field.Valid (field : Field) : Prop :=
  0 < field.tag ∧ field.tag < 2 ^ 29 ∧ field.value.Valid

theorem splitBytes_append {count : Nat} {bytes : List UInt8} (length : bytes.length = count)
    (rest : List UInt8) : splitBytes count (bytes ++ rest) = some (bytes, rest) := by
  unfold splitBytes
  rw [if_pos (by rw [List.length_append]; omega), List.take_left' length, List.drop_left' length]

theorem decodeValue_encode {value : FieldValue} (valid : value.Valid) (rest : List UInt8) :
    decodeValue value.encode.1 (value.encode.2 ++ rest) = some (value, rest) := by
  cases value with
  | varint value =>
    simp only [FieldValue.encode, decodeValue, decodeVarint_encodeVarint valid, Option.map_some]
  | fixed64 bytes =>
    simp only [FieldValue.encode, decodeValue, splitBytes_append valid, Option.map_some]
  | delimited bytes =>
    simp only [FieldValue.encode, decodeValue, List.append_assoc, decodeVarint_encodeVarint valid,
      Option.bind_some, splitBytes_append rfl, Option.map_some]
  | fixed32 bytes =>
    simp only [FieldValue.encode, decodeValue, splitBytes_append valid, Option.map_some]

theorem wireType_lt (value : FieldValue) : value.encode.1 < 8 := by
  cases value <;> simp [FieldValue.encode]

theorem decodeField_encode {field : Field} (valid : field.Valid) (rest : List UInt8) :
    decodeField (field.encode ++ rest) = some (field, rest) := by
  obtain ⟨positive, bounded, valid⟩ := valid
  have wireType := wireType_lt field.value
  have quotient : (field.tag * 8 + field.value.encode.1) / 8 = field.tag := by omega
  have remainder : (field.tag * 8 + field.value.encode.1) % 8 = field.value.encode.1 := by omega
  unfold decodeField Field.encode
  rw [List.append_assoc, decodeVarint_encodeVarint (by omega), Option.bind_some, if_neg (by omega),
    quotient, remainder, decodeValue_encode valid]
  rfl

/-- Fields that are written are read back. -/
theorem decodeFields_encodeFields {fields : List Field} (valid : ∀ field ∈ fields, field.Valid) :
    decodeFields (encodeFields fields) = some fields := by
  have enough : ∀ fuel, (encodeFields fields).length ≤ fuel →
      decodeFieldsWithin fuel (encodeFields fields) = some fields := by
    induction fields with
    | nil =>
      intro fuel _
      cases fuel <;> rfl
    | cons field rest inductionHypothesis =>
      obtain ⟨first, others⟩ := List.forall_mem_cons.mp valid
      intro fuel within
      have unfolded : encodeFields (field :: rest) = field.encode ++ encodeFields rest :=
        List.flatMap_cons
      have positive : 0 < field.encode.length := by
        unfold Field.encode
        rw [List.length_append]
        have := List.length_pos_iff.mpr
          (encodeVarint_ne_nil (field.tag * 8 + field.value.encode.1))
        omega
      rw [unfolded, List.length_append] at within
      obtain ⟨fuel, rfl⟩ : ∃ smaller, fuel = smaller + 1 := ⟨fuel - 1, by omega⟩
      obtain ⟨head, tail, isCons⟩ : ∃ head tail, field.encode ++ encodeFields rest = head :: tail :=
        List.exists_cons_of_length_pos (by rw [List.length_append]; omega)
      rw [unfolded, isCons, decodeFieldsWithin, ← isCons, decodeField_encode first,
        Option.bind_some, inductionHypothesis others fuel (by omega)]
      · rfl
      · exact List.cons_ne_nil _ _
  exact enough _ (Nat.le_refl _)

/-! ### Fields that are left out by default -/

/-- A number under a field number, left out when it is 0. -/
def numberField (tag value : Nat) : List Field := if value = 0 then [] else [⟨tag, .varint value⟩]

/-- Bytes under a field number, left out when there are none. -/
def bytesField (tag : Nat) (bytes : List UInt8) : List Field :=
  if bytes = [] then [] else [⟨tag, .delimited bytes⟩]

theorem valid_numberField {tag value : Nat} (positive : 0 < tag) (bounded : tag < 2 ^ 29)
    (fits : value < 2 ^ 64) : ∀ field ∈ numberField tag value, field.Valid := by
  intro field member
  unfold numberField at member
  split at member
  · cases member
  · rw [List.mem_singleton.mp member]
    exact ⟨positive, bounded, fits⟩

theorem valid_bytesField {tag : Nat} {bytes : List UInt8} (positive : 0 < tag)
    (bounded : tag < 2 ^ 29) (fits : bytes.length < 2 ^ 64) :
    ∀ field ∈ bytesField tag bytes, field.Valid := by
  intro field member
  unfold bytesField at member
  split at member
  · cases member
  · rw [List.mem_singleton.mp member]
    exact ⟨positive, bounded, fits⟩

/-- Merging a number that may be left out. -/
theorem foldlM_numberField {State : Type} {merge : State → Field → Option State}
    {state next : State} {tag value : Nat} (default : value = 0 → state = next)
    (merged : merge state ⟨tag, .varint value⟩ = some next) :
    (numberField tag value).foldlM merge state = some next := by
  unfold numberField
  split
  · next zero =>
    rw [default zero]
    rfl
  · rw [List.foldlM_cons, merged]
    rfl

end Vnt.Base.Protobuf
