/-
This file is about reading items off a stream of bytes that arrives in pieces. A reader looks at the
bytes that have arrived and finds an item, too little to tell, or the end of its work; what it has
found does not change when more bytes arrive. What it reads then depends on the bytes alone and not
on the pieces, and of what a writer has put onto the stream it has always read the first part.
-/

import Mathlib.Data.List.Infix

namespace Vnt.Base

variable {State Item : Type}

/-- What a reader finds at the front of the bytes that have arrived: an item, or something that is
none, with the state and the bytes after it; too little to tell; or the end of its work. -/
inductive Taken (State Item : Type) where
  | item (item : Option Item) (next : State) (rest : List UInt8)
  | more
  | ended

/-- A reader of items. What it finds takes bytes off the front and is stable under later bytes. -/
structure StreamReader (State Item : Type) where
  take : State → List UInt8 → Taken State Item
  shrinks : ∀ {state bytes item next rest}, take state bytes = .item item next rest →
    rest.length < bytes.length
  item_append : ∀ {state bytes item next rest} (later : List UInt8),
    take state bytes = .item item next rest →
      take state (bytes ++ later) = .item item next (rest ++ later)
  ended_append : ∀ {state bytes} (later : List UInt8),
    take state bytes = .ended → take state (bytes ++ later) = .ended

/-- How far a reader has come. -/
structure Reading (State Item : Type) where
  state : State
  pending : List UInt8
  items : List Item
  ended : Bool

namespace Reading

def start (state : State) : Reading State Item := ⟨state, [], [], false⟩

/-- More bytes arrive. -/
def append (reading : Reading State Item) (bytes : List UInt8) : Reading State Item :=
  { reading with pending := reading.pending ++ bytes }

/-- A bound on what is left to do. -/
def size (reading : Reading State Item) : Nat :=
  reading.pending.length + if reading.ended = true then 0 else 1

theorem append_append (reading : Reading State Item) (first second : List UInt8) :
    (reading.append first).append second = reading.append (first ++ second) := by
  unfold append
  rw [List.append_assoc]

end Reading

namespace StreamReader

variable (reader : StreamReader State Item)

/-- The next thing that the reader does, `none` when it waits or is over. -/
def advance (reading : Reading State Item) : Option (Reading State Item) :=
  if reading.ended = true then none
  else
    match reader.take reading.state reading.pending with
    | .item item next rest => some ⟨next, rest, reading.items ++ item.toList, false⟩
    | .more => none
    | .ended => some { reading with ended := true }

/-- The reader goes on, at most so often. -/
def drain : Nat → Reading State Item → Reading State Item
  | 0, reading => reading
  | fuel + 1, reading =>
    match reader.advance reading with
    | none => reading
    | some next => drain fuel next

/-- More bytes arrive, and the reader goes on as far as it can. -/
def receive (reading : Reading State Item) (bytes : List UInt8) : Reading State Item :=
  reader.drain (reading.append bytes).size (reading.append bytes)

/-- The reader comes from one point to another. -/
inductive Reaches : Reading State Item → Reading State Item → Prop where
  | refl (reading : Reading State Item) : Reaches reading reading
  | step {reading next final : Reading State Item} (advances : reader.advance reading = some next)
    (later : Reaches next final) : Reaches reading final

variable {reader} {reading next final : Reading State Item}

/-- The two ways in which a reader goes on. -/
theorem advance_cases (advances : reader.advance reading = some next) :
    reading.ended = false ∧
      ((∃ item state rest, reader.take reading.state reading.pending = .item item state rest ∧
        next = ⟨state, rest, reading.items ++ item.toList, false⟩) ∨
      (reader.take reading.state reading.pending = .ended ∧
        next = { reading with ended := true })) := by
  unfold advance at advances
  split at advances
  · cases advances
  · next running =>
    refine ⟨Bool.eq_false_iff.mpr running, ?_⟩
    split at advances
    · next item state rest found =>
      cases advances
      exact .inl ⟨item, state, rest, found, rfl⟩
    · cases advances
    · next found =>
      cases advances
      exact .inr ⟨found, rfl⟩

theorem advance_of_item {item : Option Item} {state : State} {rest : List UInt8}
    (running : reading.ended = false)
    (found : reader.take reading.state reading.pending = .item item state rest) :
    reader.advance reading = some ⟨state, rest, reading.items ++ item.toList, false⟩ := by
  unfold advance
  rw [running, if_neg Bool.false_ne_true, found]

theorem advance_of_over (running : reading.ended = false)
    (found : reader.take reading.state reading.pending = .ended) :
    reader.advance reading = some { reading with ended := true } := by
  unfold advance
  rw [running, if_neg Bool.false_ne_true, found]

theorem size_advance (advances : reader.advance reading = some next) :
    next.size < reading.size := by
  obtain ⟨running, ⟨item, state, rest, found, rfl⟩ | ⟨-, rfl⟩⟩ := advance_cases advances
  · have shorter := reader.shrinks found
    unfold Reading.size
    rw [running]
    dsimp only
    omega
  · unfold Reading.size
    rw [running]
    dsimp only
    rw [if_pos rfl, if_neg Bool.false_ne_true]
    exact Nat.lt_succ_self _

/-- Bytes that arrive later change nothing of what the reader does before. -/
theorem advance_append (advances : reader.advance reading = some next) (later : List UInt8) :
    reader.advance (reading.append later) = some (next.append later) := by
  obtain ⟨running, ⟨item, state, rest, found, rfl⟩ | ⟨found, rfl⟩⟩ := advance_cases advances
  · exact advance_of_item running (reader.item_append later found)
  · exact advance_of_over running (reader.ended_append later found)

theorem Reaches.append (reaches : Reaches reader reading final) (later : List UInt8) :
    Reaches reader (reading.append later) (final.append later) := by
  induction reaches with
  | refl reading => exact .refl _
  | step advances _ inductionHypothesis =>
    exact .step (advance_append advances later) inductionHypothesis

theorem Reaches.trans {middle : Reading State Item} (first : Reaches reader reading middle)
    (second : Reaches reader middle final) : Reaches reader reading final := by
  induction first with
  | refl reading => exact second
  | step advances _ inductionHypothesis => exact .step advances (inductionHypothesis second)

/-- The reader comes to one point at which it waits. -/
theorem Reaches.unique {other : Reading State Item} (first : Reaches reader reading final)
    (firstWaits : reader.advance final = none) (second : Reaches reader reading other)
    (secondWaits : reader.advance other = none) : final = other := by
  induction first with
  | refl reading =>
    cases second with
    | refl => rfl
    | step advances later => cases firstWaits.symm.trans advances
  | step advances _ inductionHypothesis =>
    cases second with
    | refl => cases secondWaits.symm.trans advances
    | step otherAdvances later =>
      cases advances.symm.trans otherAdvances
      exact inductionHypothesis firstWaits later

theorem reaches_drain (fuel : Nat) (reading : Reading State Item) :
    Reaches reader reading (reader.drain fuel reading) := by
  induction fuel generalizing reading with
  | zero => exact .refl reading
  | succ fuel inductionHypothesis =>
    unfold drain
    cases advances : reader.advance reading with
    | none => exact .refl reading
    | some next => exact .step advances (inductionHypothesis next)

theorem advance_drain {fuel : Nat} (enough : reading.size ≤ fuel) :
    reader.advance (reader.drain fuel reading) = none := by
  induction fuel generalizing reading with
  | zero =>
    cases advances : reader.advance reading with
    | none => exact advances
    | some next =>
      have smaller := size_advance advances
      omega
  | succ fuel inductionHypothesis =>
    unfold drain
    cases advances : reader.advance reading with
    | none => exact advances
    | some next =>
      have smaller := size_advance advances
      exact inductionHypothesis (by omega)

theorem reaches_receive (reading : Reading State Item) (bytes : List UInt8) :
    Reaches reader (reading.append bytes) (reader.receive reading bytes) := reaches_drain _ _

theorem advance_receive (reading : Reading State Item) (bytes : List UInt8) :
    reader.advance (reader.receive reading bytes) = none := advance_drain (Nat.le_refl _)

/-- Two pieces are read as one. -/
theorem receive_receive (reading : Reading State Item) (first second : List UInt8) :
    reader.receive (reader.receive reading first) second =
      reader.receive reading (first ++ second) := by
  have whole : Reaches reader (reading.append (first ++ second))
      (reader.receive reading (first ++ second)) := reaches_receive _ _
  rw [← Reading.append_append] at whole
  exact ((reaches_receive reading first).append second |>.trans (reaches_receive _ second)).unique
    (advance_receive _ second) whole (advance_receive reading _)

/-! ### Frames with a meaning -/

section Layered

variable {Frame : Type} (frames : State → Option (StreamReader Unit Frame))
  (interpret : State → Frame → Option (Option Item × State))

/-- What the frames of the state say: it may be that nothing more is read, and so it is after a
frame without a meaning. -/
def takeLayered (state : State) (bytes : List UInt8) : Taken State Item :=
  match frames state with
  | none => .ended
  | some reader =>
    match reader.take () bytes with
    | .more => .more
    | .ended => .ended
    | .item none _ rest => .item none state rest
    | .item (some frame) _ rest =>
      match interpret state frame with
      | none => .ended
      | some (item, next) => .item item next rest

variable {frames interpret}

theorem takeLayered_of_none {state : State} (none : frames state = none) (bytes : List UInt8) :
    takeLayered frames interpret state bytes = .ended := by
  unfold takeLayered
  rw [none]

theorem takeLayered_of_meaning {state next : State} {reader : StreamReader Unit Frame}
    {frame : Frame} {item : Option Item} {bytes rest : List UInt8}
    (isReader : frames state = some reader)
    (found : reader.take () bytes = .item (some frame) () rest)
    (meaning : interpret state frame = some (item, next)) :
    takeLayered frames interpret state bytes = .item item next rest := by
  unfold takeLayered
  rw [isReader]
  dsimp only
  rw [found]
  dsimp only
  rw [meaning]

variable (frames interpret)

/-- A reader that gives a meaning to the frames of another one, which may change with the state. -/
def layered : StreamReader State Item where
  take := takeLayered frames interpret
  shrinks := by
    intro state bytes item next rest found
    unfold takeLayered at found
    cases isReader : frames state with
    | none =>
      rw [isReader] at found
      cases found
    | some reader =>
      rw [isReader] at found
      dsimp only at found
      cases taken : reader.take () bytes with
      | more =>
        rw [taken] at found
        cases found
      | ended =>
        rw [taken] at found
        cases found
      | item frame _ left =>
        rw [taken] at found
        have shorter := reader.shrinks taken
        cases frame with
        | none =>
          cases found
          exact shorter
        | some frame =>
          dsimp only at found
          split at found
          · cases found
          · cases found
            exact shorter
  item_append := by
    intro state bytes item next rest later found
    unfold takeLayered at found ⊢
    cases isReader : frames state with
    | none =>
      rw [isReader] at found
      cases found
    | some reader =>
      rw [isReader] at found
      dsimp only at found ⊢
      cases taken : reader.take () bytes with
      | more =>
        rw [taken] at found
        cases found
      | ended =>
        rw [taken] at found
        cases found
      | item frame _ left =>
        rw [taken] at found
        rw [reader.item_append later taken]
        cases frame with
        | none =>
          cases found
          rfl
        | some frame =>
          dsimp only at found ⊢
          split at found
          · cases found
          · cases found
            rfl
  ended_append := by
    intro state bytes later found
    unfold takeLayered at found ⊢
    cases isReader : frames state with
    | none => rfl
    | some reader =>
      rw [isReader] at found
      dsimp only at found ⊢
      cases taken : reader.take () bytes with
      | more =>
        rw [taken] at found
        cases found
      | ended => rw [reader.ended_append later taken]
      | item frame _ left =>
        rw [taken] at found
        rw [reader.item_append later taken]
        cases frame with
        | none => cases found
        | some frame =>
          dsimp only at found ⊢
          split at found
          · rfl
          · cases found

end Layered

/-! ### What was written -/

/-- Bytes that a writer puts onto the stream for items, one after the other. -/
inductive Written (reader : StreamReader State Item) :
    State → List Item → State → List UInt8 → Prop where
  | nil (state : State) : Written reader state [] state []
  | cons {state next final : State} {item : Option Item} {items : List Item}
    {bytes rest : List UInt8}
    (reads : ∀ later, reader.take state (bytes ++ later) = .item item next later)
    (written : Written reader next items final rest) :
    Written reader state (item.toList ++ items) final (bytes ++ rest)

theorem Written.append {state middle final : State} {first second : List Item}
    {before after : List UInt8} (start : Written reader state first middle before)
    (later : Written reader middle second final after) :
    Written reader state (first ++ second) final (before ++ after) := by
  induction start with
  | nil state => exact later
  | cons reads _ inductionHypothesis =>
    rw [List.append_assoc, List.append_assoc]
    exact .cons reads (inductionHypothesis later)

theorem written_one {state final : State} {item : Option Item} {bytes : List UInt8}
    (reads : ∀ later, reader.take state (bytes ++ later) = .item item final later) :
    Written reader state item.toList final bytes := by
  have whole := Written.cons reads (.nil final)
  rwa [List.append_nil, List.append_nil] at whole

theorem Written.reaches {state final : State} {items : List Item} {bytes : List UInt8}
    (written : Written reader state items final bytes) (past : List Item) (later : List UInt8) :
    Reaches reader ⟨state, bytes ++ later, past, false⟩ ⟨final, later, past ++ items, false⟩ := by
  induction written generalizing past with
  | nil state =>
    rw [List.append_nil]
    exact .refl _
  | @cons state next final item items bytes rest reads _ inductionHypothesis =>
    rw [List.append_assoc, ← List.append_assoc past]
    exact .step (advance_of_item rfl (reads _)) (inductionHypothesis (past ++ item.toList))

theorem items_advance (advances : reader.advance reading = some next) :
    reading.items <+: next.items := by
  obtain ⟨-, ⟨item, state, rest, -, rfl⟩ | ⟨-, rfl⟩⟩ := advance_cases advances
  · exact List.prefix_append _ _
  · exact List.prefix_rfl

theorem Reaches.items (reaches : Reaches reader reading final) : reading.items <+: final.items := by
  induction reaches with
  | refl reading => exact List.prefix_rfl
  | step advances _ inductionHypothesis => exact (items_advance advances).trans inductionHypothesis

/-- Without bytes there are no further items. -/
theorem Reaches.items_of_nil (reaches : Reaches reader reading final)
    (empty : reading.pending = []) : final.items = reading.items := by
  induction reaches with
  | refl reading => rfl
  | step advances _ inductionHypothesis =>
    obtain ⟨-, ⟨item, state, rest, found, rfl⟩ | ⟨-, rfl⟩⟩ := advance_cases advances
    · have shorter := reader.shrinks found
      rw [empty] at shorter
      exact absurd shorter (Nat.not_lt_zero _)
    · exact inductionHypothesis empty

/-- When everything that was written has arrived, all items are read. -/
theorem Written.items_receive {state final : State} {items : List Item} {bytes : List UInt8}
    (written : Written reader state items final bytes) :
    (reader.receive (.start state) bytes).items = items := by
  have reads := written.reaches [] []
  rw [List.append_nil, List.nil_append] at reads
  have whole :
      Reaches reader ⟨final, [], items, false⟩ (reader.drain 1 ⟨final, [], items, false⟩) :=
    reaches_drain 1 _
  have waits : reader.advance (reader.drain 1 ⟨final, [], items, false⟩) = none :=
    advance_drain (Nat.le_refl _)
  have same := (reaches_receive (.start state) bytes).unique (advance_receive _ bytes)
    (reads.trans whole) waits
  rw [same]
  exact whole.items_of_nil rfl

/-- When nothing more is read after what was written, the items are those of it. -/
theorem Written.items_receive_of_over {state final : State} {items : List Item}
    {bytes : List UInt8} (written : Written reader state items final bytes)
    (ends : ∀ rest, reader.take final rest = .ended) (later : List UInt8) :
    (reader.receive (.start state) (bytes ++ later)).items = items := by
  have reads := written.reaches [] later
  rw [List.nil_append] at reads
  have ended : Reaches reader ⟨final, later, items, false⟩ ⟨final, later, items, true⟩ :=
    .step (advance_of_over rfl (ends later)) (.refl _)
  rw [(reaches_receive (.start state) (bytes ++ later)).unique (advance_receive _ _)
    (reads.trans ended) rfl]

end StreamReader

end Vnt.Base
