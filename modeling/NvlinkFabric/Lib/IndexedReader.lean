import NvlinkFabric.Lib.ByteReader

/-!
# Readers that index their input

A program reaches its input byte by byte, at indices that it computes with 64-bit
sums.  An index outside the input has no value, so a loop over such accesses is
partial: `none` stands for a run in which one of them was outside.

`Refines` relates such a reader to a plain one.  From every position within an input
that memory can hold, all accesses of the first are inside, its result is that of the
second, and the position it leaves is within the input again.  It composes along `do`
blocks, so the safety of a reader is one rule per field.
-/

/-- A sum of two sizes of 64 bits. -/
def sizeSum (left right : Nat) : Nat := (left + right) % 2 ^ 64

theorem sizeSum_eq {left right : Nat} (fits : left + right < 2 ^ 64) :
    sizeSum left right = left + right :=
  Nat.mod_eq_of_lt fits

/-- An input that memory can hold. -/
structure Buffer where
  bytes : List UInt8
  size : bytes.length < 2 ^ 63

/-- A position within an input that memory can hold. -/
structure Cursor.Addressable (cursor : Cursor) : Prop where
  inside : cursor.pos ≤ cursor.bytes.length
  size : cursor.bytes.length < 2 ^ 63

/-- `remaining`, with the sum as it is computed. -/
def Cursor.remaining64 (cursor : Cursor) (count : Nat) : Bool :=
  sizeSum cursor.pos count ≤ cursor.bytes.length

theorem Cursor.Addressable.remaining64_eq {cursor : Cursor}
    (addressable : cursor.Addressable) {count : Nat} (small : count < 2 ^ 63) :
    cursor.remaining64 count = cursor.remaining count := by
  have inside := addressable.inside
  have size := addressable.size
  rw [Cursor.remaining64, sizeSum_eq (by omega), Cursor.remaining]

/-- Readers whose accesses may be outside the input. -/
abbrev IndexedReader := StateT Cursor Option

namespace IndexedReader

open ByteReader (Checked)

variable {α β ε : Type}

/-- `bytes[index]`. -/
def byteAt (bytes : List UInt8) (index : Nat) : Option UInt8 := bytes[index]?

/-- The loop `value |= bytes[pos + i] << (8 * i)`. -/
def load (bytes : List UInt8) (pos : Nat) : Nat → Option Nat
  | 0 => some 0
  | count + 1 => do
      let value ← load bytes pos count
      let byte ← byteAt bytes (sizeSum pos count)
      return value ||| byte.toNat <<< (8 * count)

/-- A loop that feeds the first bytes to a register. -/
def scan (step : β → UInt8 → β) (start : β) (bytes : List UInt8) : Nat → Option β
  | 0 => some start
  | count + 1 => do
      let register ← scan step start bytes count
      let byte ← byteAt bytes count
      return step register byte

/-- A check before further accesses. -/
theorem guard_eq {condition : Prop} [Decidable condition] {refused : α} {rest : Option α}
    {result : α} (passed : ¬condition → rest = some result) :
    (if condition then some refused else rest) =
      some (if condition then refused else result) := by
  by_cases applies : condition
  · rw [if_pos applies, if_pos applies]
  · rw [if_neg applies, if_neg applies, passed applies]

theorem byteAt_eq {bytes : List UInt8} {index : Nat} (inside : index < bytes.length) :
    byteAt bytes index = some (bytes.getD index 0) := by
  simp [byteAt, inside]

/-- Inside the input a load spells the bytes in little-endian order. -/
theorem load_eq {bytes : List UInt8} {pos count : Nat}
    (inside : pos + count ≤ bytes.length) (size : bytes.length < 2 ^ 63) :
    load bytes pos count = some (LittleEndian.decode ((bytes.drop pos).take count)) := by
  induction count with
  | zero => rfl
  | succ count ih =>
      have within : pos + count < bytes.length := by omega
      have byte : byteAt bytes (sizeSum pos count) = some bytes[pos + count] := by
        rw [sizeSum_eq (by omega), byteAt, List.getElem?_eq_getElem within]
      have split : (bytes.drop pos).take (count + 1) =
          (bytes.drop pos).take count ++ [bytes[pos + count]] := by
        rw [List.take_add_one, List.getElem?_drop, List.getElem?_eq_getElem within]
        rfl
      have length : ((bytes.drop pos).take count).length = count := by
        rw [List.length_take, List.length_drop]
        omega
      have low := LittleEndian.decode_lt ((bytes.drop pos).take count)
      rw [length] at low
      rw [load, ih (by omega), byte, split, LittleEndian.decode_append, length]
      have power : 256 ^ count = 2 ^ (8 * count) := by
        rw [pow_mul]
        rfl
      rw [power] at low ⊢
      have disjoint := Nat.two_pow_add_eq_or_of_lt low bytes[pos + count].toNat
      simp only [Option.bind_eq_bind, Option.bind_some, pure,
        LittleEndian.decode, Nat.mul_zero, Nat.add_zero, Option.some.injEq,
        Nat.shiftLeft_eq]
      rw [Nat.or_comm, Nat.mul_comm, ← disjoint, Nat.add_comm]

example : load [1, 2, 3] 1 4 = none := by decide

/-- Inside the input a scan is a fold over the first bytes. -/
theorem scan_eq (step : β → UInt8 → β) (start : β) {bytes : List UInt8} {count : Nat}
    (inside : count ≤ bytes.length) :
    scan step start bytes count = some ((bytes.take count).foldl step start) := by
  induction count with
  | zero => rfl
  | succ count ih =>
      have within : count < bytes.length := by omega
      rw [scan, ih (by omega), byteAt, List.getElem?_eq_getElem within, List.take_add_one,
        List.getElem?_eq_getElem within, List.foldl_append]
      rfl

/-- A number of `count` bytes. -/
def unsigned (count : Nat) : IndexedReader Nat := fun cursor =>
  if cursor.remaining64 count then do
    let value ← load cursor.bytes cursor.pos count
    return (value, { cursor with pos := sizeSum cursor.pos count })
  else some (0, { cursor with bad := true })

def u8 : IndexedReader UInt8 := UInt8.ofNat <$> unsigned 1
def u16 : IndexedReader UInt16 := UInt16.ofNat <$> unsigned 2
def u32 : IndexedReader UInt32 := UInt32.ofNat <$> unsigned 4
def u64 : IndexedReader UInt64 := UInt64.ofNat <$> unsigned 8

/-- A byte read as a truth value. -/
def flag : IndexedReader Bool := (· != 0) <$> u8

/-- `bytes[pos++]`. -/
def next : IndexedReader UInt8 := fun cursor => do
  let byte ← byteAt cursor.bytes cursor.pos
  return (byte, { cursor with pos := sizeSum cursor.pos 1 })

/-- The loop `content.push_back(bytes[pos++])`. -/
def copy : Nat → IndexedReader (List UInt8)
  | 0 => pure []
  | count + 1 => do
      let byte ← next
      let rest ← copy count
      return byte :: rest

/-- The bytes of a string of known size; refused on a bad cursor. -/
def chunk (limit : Option Nat) (size : Nat) : IndexedReader (List UInt8) := fun cursor =>
  if cursor.bad || limit.any (size > ·) || !cursor.remaining64 size then
    some ([], { cursor with bad := true })
  else copy size cursor

/-- A string behind a 16-bit size, with an optional bound on the size. -/
def text (limit : Option Nat) : IndexedReader (List UInt8) := do
  let size ← u16
  chunk limit size.toNat

/-- A value behind a presence byte. -/
def optional (reader : IndexedReader α) : IndexedReader (Option α) := do
  if ← flag then some <$> reader else pure none

/-- Readers that can give up with an error. -/
abbrev IndexedChecked (ε : Type) := StateT Cursor (ExceptT ε Option)

/-- A plain read never gives up. -/
def read (reader : IndexedReader α) : IndexedChecked ε α := fun cursor =>
  ExceptT.lift (reader.run cursor)

/-- Give up under a condition on the cursor. -/
def refuse (condition : Cursor → Bool) (error : ε) :
    IndexedChecked ε Unit := fun cursor =>
  if condition cursor then throw error else pure ((), cursor)

/-- Read `count` records; the first one that leaves the cursor bad ends the loop. -/
def records (reader : IndexedReader α) (corrupt : ε) : Nat → IndexedChecked ε (List α)
  | 0 => pure []
  | count + 1 => do
      let record ← read reader
      refuse (·.bad) corrupt
      let rest ← records reader corrupt count
      return record :: rest

/-! ## Refinement -/

/-- From every addressable cursor the accesses are inside, and the reader does what the
plain one does. -/
def Refines (indexed : IndexedReader α) (plain : ByteReader α) : Prop :=
  ∀ cursor : Cursor, cursor.Addressable →
    indexed.run cursor = some (plain.run cursor) ∧ (plain.run cursor).2.Addressable

theorem Refines.pure (value : α) : Refines (pure value) (pure value) :=
  fun _ addressable => ⟨rfl, addressable⟩

theorem Refines.bind {indexed : IndexedReader α} {plain : ByteReader α}
    {indexedNext : α → IndexedReader β} {plainNext : α → ByteReader β}
    (head : Refines indexed plain)
    (tail : ∀ value, Refines (indexedNext value) (plainNext value)) :
    Refines (indexed >>= indexedNext) (plain >>= plainNext) := by
  intro cursor addressable
  obtain ⟨headRun, moved⟩ := head cursor addressable
  obtain ⟨tailRun, last⟩ := tail (plain.run cursor).1 _ moved
  rw [StateT.run_bind, headRun]
  exact ⟨tailRun, last⟩

theorem Refines.map {indexed : IndexedReader α} {plain : ByteReader α}
    (refines : Refines indexed plain) (image : α → β) :
    Refines (image <$> indexed) (image <$> plain) := by
  intro cursor addressable
  obtain ⟨run, moved⟩ := refines cursor addressable
  rw [StateT.run_map, run]
  exact ⟨rfl, moved⟩

theorem refines_unsigned {count : Nat} (small : count < 2 ^ 63) :
    Refines (unsigned count) (ByteReader.unsigned count) := by
  intro cursor addressable
  have inside := addressable.inside
  have size := addressable.size
  simp only [StateT.run, unsigned, ByteReader.unsigned, addressable.remaining64_eq small]
  split
  next room =>
    have fits : cursor.pos + count ≤ cursor.bytes.length := by
      simpa [Cursor.remaining] using room
    rw [load_eq fits size, sizeSum_eq (by omega)]
    exact ⟨rfl, fits, size⟩
  next short => exact ⟨rfl, inside, size⟩

theorem refines_u8 : Refines u8 ByteReader.u8 := (refines_unsigned (by decide)).map _
theorem refines_u16 : Refines u16 ByteReader.u16 := (refines_unsigned (by decide)).map _
theorem refines_u32 : Refines u32 ByteReader.u32 := (refines_unsigned (by decide)).map _
theorem refines_u64 : Refines u64 ByteReader.u64 := (refines_unsigned (by decide)).map _
theorem refines_flag : Refines flag ByteReader.flag := refines_u8.map _

/-- Copying stays inside as long as the bytes remain. -/
theorem copy_eq {count : Nat} {cursor : Cursor} (size : cursor.bytes.length < 2 ^ 63)
    (fits : cursor.pos + count ≤ cursor.bytes.length) :
    (copy count).run cursor =
      some (cursor.slice count, { cursor with pos := cursor.pos + count }) := by
  induction count generalizing cursor with
  | zero =>
      rw [Cursor.slice, List.take_zero, Nat.add_zero]
      rfl
  | succ count ih =>
      have within : cursor.pos < cursor.bytes.length := by omega
      have first : next.run cursor =
          some (cursor.bytes[cursor.pos], { cursor with pos := cursor.pos + 1 }) := by
        simp only [StateT.run, next]
        rw [byteAt, List.getElem?_eq_getElem within, sizeSum_eq (by omega)]
        rfl
      have rest : (copy count).run { cursor with pos := cursor.pos + 1 } = _ :=
        ih size (by simp only; omega)
      have split : cursor.slice (count + 1) = cursor.bytes[cursor.pos] ::
          ({ cursor with pos := cursor.pos + 1 } : Cursor).slice count := by
        rw [Cursor.slice, List.drop_eq_getElem_cons within, List.take_succ_cons]
        rfl
      rw [copy, StateT.run_bind, first, Option.bind_eq_bind, Option.bind_some,
        StateT.run_bind, rest, split]
      simp [Nat.add_assoc, Nat.add_comm 1]

theorem refines_chunk (limit : Option Nat) {size : Nat} (small : size < 2 ^ 63) :
    Refines (chunk limit size) (ByteReader.chunk limit size) := by
  intro cursor addressable
  simp only [StateT.run, chunk, ByteReader.chunk, addressable.remaining64_eq small]
  split
  next refused => exact ⟨rfl, addressable.inside, addressable.size⟩
  next accepted =>
    have fits : cursor.pos + size ≤ cursor.bytes.length := by
      simp only [Bool.or_eq_true, not_or, Bool.not_eq_true',
        Bool.not_eq_false] at accepted
      simpa [Cursor.remaining] using accepted.2
    exact ⟨copy_eq addressable.size fits, fits, addressable.size⟩

theorem refines_text (limit : Option Nat) :
    Refines (text limit) (ByteReader.text limit) :=
  refines_u16.bind fun size => refines_chunk limit (size.toNat_lt.trans (by decide))

theorem Refines.optional {indexed : IndexedReader α} {plain : ByteReader α}
    (refines : Refines indexed plain) :
    Refines (IndexedReader.optional indexed) (ByteReader.optional plain) := by
  refine refines_flag.bind fun present => ?_
  cases present with
  | false => exact .pure none
  | true => exact refines.map some

/-- The counterpart of `Refines` for readers that can give up. -/
def RefinesChecked (indexed : IndexedChecked ε α) (plain : Checked ε α) : Prop :=
  ∀ cursor : Cursor, cursor.Addressable →
    (indexed.run cursor).run = some (plain.run cursor) ∧
      ∀ value last, plain.run cursor = .ok (value, last) → last.Addressable

theorem RefinesChecked.pure (value : α) :
    RefinesChecked (pure value : IndexedChecked ε α) (pure value) := by
  intro cursor addressable
  refine ⟨rfl, fun result last ok => ?_⟩
  obtain ⟨-, rfl⟩ := Prod.mk.inj (Except.ok.inj ok)
  exact addressable

theorem RefinesChecked.bind {indexed : IndexedChecked ε α} {plain : Checked ε α}
    {indexedNext : α → IndexedChecked ε β} {plainNext : α → Checked ε β}
    (head : RefinesChecked indexed plain)
    (tail : ∀ value, RefinesChecked (indexedNext value) (plainNext value)) :
    RefinesChecked (indexed >>= indexedNext) (plain >>= plainNext) := by
  intro cursor addressable
  obtain ⟨headRun, moved⟩ := head cursor addressable
  rw [StateT.run_bind, StateT.run_bind, ExceptT.run_bind, headRun]
  cases first : plain.run cursor with
  | error error =>
      exact ⟨rfl, fun value last ok => by simp [Bind.bind, Except.bind] at ok⟩
  | ok middle => exact tail middle.1 middle.2 (moved _ _ first)

theorem refinesChecked_read {indexed : IndexedReader α} {plain : ByteReader α}
    (refines : Refines indexed plain) :
    RefinesChecked (read indexed : IndexedChecked ε α) (ByteReader.read plain) := by
  intro cursor addressable
  obtain ⟨run, moved⟩ := refines cursor addressable
  constructor
  · simp only [StateT.run, read, ByteReader.read] at run ⊢
    rw [ExceptT.run_lift, run]
    rfl
  · intro value last ok
    obtain rfl : (plain.run cursor).2 = last := (Prod.mk.inj (Except.ok.inj ok)).2
    exact moved

theorem refinesChecked_refuse (condition : Cursor → Bool) (error : ε) :
    RefinesChecked (refuse condition error) (ByteReader.refuse condition error) := by
  intro cursor addressable
  simp only [StateT.run, refuse, ByteReader.refuse]
  split
  · exact ⟨rfl, fun value last ok => by simp at ok⟩
  · refine ⟨rfl, fun value last ok => ?_⟩
    obtain ⟨-, rfl⟩ := Prod.mk.inj (Except.ok.inj ok)
    exact addressable

theorem refinesChecked_records {indexed : IndexedReader α} {plain : ByteReader α}
    (refines : Refines indexed plain) (corrupt : ε) (count : Nat) :
    RefinesChecked (records indexed corrupt count)
      (ByteReader.records plain corrupt count) := by
  induction count with
  | zero => exact .pure []
  | succ count ih =>
      refine (refinesChecked_read refines).bind fun record => ?_
      refine (refinesChecked_refuse _ _).bind fun _ => ?_
      exact ih.bind fun rest => .pure (record :: rest)

end IndexedReader
