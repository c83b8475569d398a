import NvlinkFabric.Lib.ByteReader

/-!
# Layouts of byte formats

A layout lists the fields of a format without saying what they stand for.  Bytes
of which a format may not mean every value, such as codes and presence bytes, are
marked with their kind.  `walk` moves through an input as a reader of the format
does and returns the fields as tokens.

`Follows` ties two readers that move in lockstep, in particular a reader of a
format to the walk of its layout.  It composes along `do` blocks.  What has been
read can so be compared with the bytes it was read from, field by field.
-/

namespace ByteReader

variable {κ α β γ δ ε : Type}

/-- A field of a format. -/
inductive Slot (κ : Type) where
  | number (width : Nat)
  | marked (kind : κ)
  | text (limit : Option Nat)
  | optional (kind : κ) (width : Nat)
  deriving DecidableEq

/-- A field as it was read. -/
inductive Token (κ : Type) where
  | plain (bytes : List UInt8)
  | marked (kind : κ) (byte : UInt8)
  deriving DecidableEq

/-- The bytes of a token. -/
def Token.bytes : Token κ → List UInt8
  | .plain bytes => bytes
  | .marked _ byte => [byte]

/-- A marked byte has a property that depends on its kind. -/
def Token.Meets (valid : κ → UInt8 → Prop) : Token κ → Prop
  | .plain _ => True
  | .marked kind byte => valid kind byte

/-- The bytes of a token once a marked byte is replaced by the one that is written
for it. -/
def Token.respell (canonical : κ → UInt8 → UInt8) : Token κ → List UInt8
  | .plain bytes => bytes
  | .marked kind byte => [canonical kind byte]

/-- The tokens of a field.  A read that does not fit is taken for a zero. -/
def Slot.walk : Slot κ → ByteReader (List (Token κ))
  | .number width => do
      let value ← unsigned width
      return [.plain (LittleEndian.encode width value)]
  | .marked kind => do
      let byte ← u8
      return [.marked kind byte]
  | .text limit => do
      let content ← ByteReader.text limit
      return [.plain (LittleEndian.encode 2 content.length ++ content)]
  | .optional kind width => do
      let present ← u8
      if present != 0 then
        let value ← unsigned width
        return [.marked kind present, .plain (LittleEndian.encode width value)]
      else return [.marked kind present]

/-- The tokens of a layout. -/
def walk : List (Slot κ) → ByteReader (List (Token κ))
  | [] => pure []
  | slot :: layout => do
      let first ← slot.walk
      let rest ← walk layout
      return first ++ rest

theorem walk_append (first second : List (Slot κ)) :
    walk (first ++ second) = do
      let head ← walk first
      let tail ← walk second
      return head ++ tail := by
  induction first with
  | nil => simp [walk]
  | cons slot layout ih =>
      simp only [List.cons_append, walk, ih, bind_assoc, pure_bind, List.append_assoc]

theorem run_bind (reader : ByteReader α) (next : α → ByteReader β) (cursor : Cursor) :
    (reader >>= next).run cursor =
      (next (reader.run cursor).1).run (reader.run cursor).2 := rfl

theorem run_pure (value : α) (cursor : Cursor) :
    (pure value : ByteReader α).run cursor = (value, cursor) := rfl

/-- Respelling changes nothing exactly if every marked byte is the written one. -/
theorem respell_eq_iff {canonical : κ → UInt8 → UInt8} {tokens : List (Token κ)} :
    tokens.flatMap (Token.respell canonical) = tokens.flatMap Token.bytes ↔
      ∀ token ∈ tokens, token.Meets fun kind byte => canonical kind byte = byte := by
  induction tokens with
  | nil => simp
  | cons token tokens ih =>
      have length : (token.respell canonical).length = token.bytes.length := by
        cases token <;> rfl
      have head : token.respell canonical = token.bytes ↔
          token.Meets fun kind byte => canonical kind byte = byte := by
        cases token <;> simp [Token.respell, Token.bytes, Token.Meets]
      rw [List.flatMap_cons, List.flatMap_cons, List.forall_mem_cons, ← head, ← ih]
      constructor
      · exact fun equal => List.append_inj equal length
      · rintro ⟨first, rest⟩
        rw [first, rest]

/-- The cursor has moved from good to good across the bytes. -/
structure Cursor.Crosses (cursor last : Cursor) (bytes : List UInt8) : Prop where
  good : cursor.bad = false
  moved : last = { cursor with pos := cursor.pos + bytes.length }
  slice : cursor.slice bytes.length = bytes

theorem Cursor.Crosses.refl {cursor : Cursor} (good : cursor.bad = false) :
    Crosses cursor cursor [] :=
  ⟨good, rfl, by simp [Cursor.slice]⟩

theorem Cursor.Crosses.trans {cursor middle last : Cursor} {first second : List UInt8}
    (head : Crosses cursor middle first) (tail : Crosses middle last second) :
    Crosses cursor last (first ++ second) := by
  obtain ⟨good, rfl, headSlice⟩ := head
  obtain ⟨-, rfl, tailSlice⟩ := tail
  refine ⟨good, by simp [Nat.add_assoc], ?_⟩
  simp only [Cursor.slice] at headSlice tailSlice ⊢
  rw [List.length_append, List.take_add, headSlice, List.drop_drop, tailSlice]

theorem unsigned_lt (width : Nat) (cursor : Cursor) :
    ((unsigned width).run cursor).1 < 256 ^ width := by
  simp only [StateT.run, unsigned]
  split
  · refine (LittleEndian.decode_lt _).trans_le (Nat.pow_le_pow_right (by decide) ?_)
    exact List.length_take_le _ _
  · exact Nat.pow_pos (by decide)

/-- A number that was read is spelled by the bytes that were consumed. -/
theorem crosses_unsigned {width : Nat} {cursor : Cursor}
    (good : ((unsigned width).run cursor).2.bad = false) :
    Cursor.Crosses cursor ((unsigned width).run cursor).2
      (LittleEndian.encode width ((unsigned width).run cursor).1) := by
  cases fits : cursor.remaining width with
  | false => simp [StateT.run, unsigned, fits] at good
  | true =>
      have size : (cursor.slice width).length = width := by
        simp only [Cursor.remaining, decide_eq_true_eq] at fits
        rw [Cursor.slice, List.length_take, List.length_drop]
        omega
      have spelled := LittleEndian.encode_decode (cursor.slice width)
      rw [size] at spelled
      simp only [StateT.run, unsigned, fits, if_true, spelled] at good ⊢
      exact ⟨good, by rw [size], by rw [size]⟩

theorem crosses_u8 {cursor : Cursor} (good : (u8.run cursor).2.bad = false) :
    Cursor.Crosses cursor (u8.run cursor).2 [(u8.run cursor).1] :=
  crosses_unsigned good

/-- A chunk is the bytes that were consumed, and has the size asked for. -/
theorem crosses_chunk {limit : Option Nat} {size : Nat} {cursor : Cursor}
    (good : ((chunk limit size).run cursor).2.bad = false) :
    Cursor.Crosses cursor ((chunk limit size).run cursor).2
      ((chunk limit size).run cursor).1 ∧
      ((chunk limit size).run cursor).1.length = size := by
  cases refused : cursor.bad || limit.any (size > ·) || !cursor.remaining size with
  | true =>
      simp only [StateT.run, chunk, refused, if_true] at good
      simp at good
  | false =>
      simp only [StateT.run, chunk, refused, Bool.false_eq_true, if_false] at good ⊢
      simp only [Bool.or_eq_false_iff, Bool.not_eq_false', Cursor.remaining,
        decide_eq_true_eq] at refused
      have length : (cursor.slice size).length = size := by
        rw [Cursor.slice, List.length_take, List.length_drop]
        omega
      exact ⟨⟨good, by rw [length], by rw [length]⟩, length⟩

theorem crosses_text {limit : Option Nat} {cursor : Cursor}
    (good : ((text limit).run cursor).2.bad = false) :
    Cursor.Crosses cursor ((text limit).run cursor).2
      (LittleEndian.encode 2 ((text limit).run cursor).1.length ++
        ((text limit).run cursor).1) := by
  rw [text, run_bind] at good ⊢
  obtain ⟨content, length⟩ := crosses_chunk good
  have bound := unsigned_lt 2 cursor
  have size : (u16.run cursor).1.toNat = ((unsigned 2).run cursor).1 := by
    change (UInt16.ofNat ((unsigned 2).run cursor).1).toNat = _
    rw [UInt16.toNat_ofNat']
    omega
  have prefixed : Cursor.Crosses cursor (u16.run cursor).2
      (LittleEndian.encode 2 (u16.run cursor).1.toNat) :=
        size ▸ crosses_unsigned content.good
  rw [length]
  exact prefixed.trans content

/-- A walk that leaves the cursor good has consumed the bytes of its tokens. -/
def Spells (walker : ByteReader (List (Token κ))) : Prop :=
  ∀ cursor, (walker.run cursor).2.bad = false →
    Cursor.Crosses cursor (walker.run cursor).2
      ((walker.run cursor).1.flatMap Token.bytes)

theorem Spells.append {first second : ByteReader (List (Token κ))} (head : Spells first)
    (tail : Spells second) :
    Spells (do
      let front ← first
      let back ← second
      return front ++ back) := by
  intro cursor good
  have onward := tail (first.run cursor).2 good
  have crossed := (head cursor onward.good).trans onward
  rwa [← List.flatMap_append] at crossed

theorem spells_slot (slot : Slot κ) : Spells slot.walk := by
  cases slot with
  | number width =>
      intro cursor good
      simp only [Slot.walk, run_bind, run_pure, List.flatMap_singleton,
        Token.bytes] at good ⊢
      exact crosses_unsigned good
  | marked kind => exact fun cursor good => crosses_u8 good
  | text limit =>
      intro cursor good
      simp only [Slot.walk, run_bind, run_pure, List.flatMap_singleton,
        Token.bytes] at good ⊢
      exact crosses_text good
  | optional kind width =>
      intro cursor good
      rw [Slot.walk, run_bind] at good ⊢
      split at good
      next present =>
        rw [if_pos present]
        simp only [run_bind, run_pure, List.flatMap_cons, List.flatMap_nil, Token.bytes,
          List.append_nil] at good ⊢
        have value := crosses_unsigned good
        exact (crosses_u8 value.good).trans value
      next absent =>
        rw [if_neg absent]
        exact crosses_u8 good

/-- A walk of a layout has consumed the bytes of its tokens. -/
theorem spells_walk (layout : List (Slot κ)) : Spells (walk layout) := by
  induction layout with
  | nil => exact fun cursor good => .refl good
  | cons slot layout ih => exact (spells_slot slot).append ih

/-- A number of repetitions that is itself part of the input. -/
theorem spells_counted (layout : UInt32 → List (Slot κ)) :
    Spells (do
      let count ← u32
      let tokens ← walk (layout count)
      return .plain (LittleEndian.encode 4 count.toNat) :: tokens) := by
  intro cursor good
  simp only [run_bind, run_pure] at good ⊢
  have records := spells_walk _ _ good
  have exact : (u32.run cursor).1.toNat = ((unsigned 4).run cursor).1 := by
    change (UInt32.ofNat ((unsigned 4).run cursor).1).toNat = _
    have bound := unsigned_lt 4 cursor
    rw [UInt32.toNat_ofNat']
    omega
  have count : Cursor.Crosses cursor (u32.run cursor).2
      (LittleEndian.encode 4 (u32.run cursor).1.toNat) :=
        exact ▸ crosses_unsigned records.good
  rw [List.flatMap_cons]
  exact count.trans records

/-! ## Readers in lockstep -/

/-- From every cursor both readers end at the same one, with related results. -/
def Follows (reader : ByteReader α) (walker : ByteReader γ)
    (related : α → γ → Prop) : Prop :=
  ∀ cursor, (reader.run cursor).2 = (walker.run cursor).2 ∧
    related (reader.run cursor).1 (walker.run cursor).1

theorem Follows.pure {related : α → γ → Prop} {value : α} {seen : γ}
    (holds : related value seen) : Follows (pure value) (pure seen) related :=
  fun _ => ⟨rfl, holds⟩

theorem Follows.bind {reader : ByteReader α} {next : α → ByteReader β}
    {walker : ByteReader γ} {onward : γ → ByteReader δ} {first : α → γ → Prop}
    {related : β → δ → Prop} (head : Follows reader walker first)
    (tail : ∀ value seen, first value seen → Follows (next value) (onward seen) related) :
    Follows (reader >>= next) (walker >>= onward) related := by
  intro cursor
  obtain ⟨moved, holds⟩ := head cursor
  rw [run_bind, run_bind, moved]
  exact tail _ _ holds _

theorem Follows.map {reader : ByteReader α} {walker : ByteReader γ} {first : α → γ → Prop}
    {image : α → β} {related : β → γ → Prop} (follows : Follows reader walker first)
    (maps : ∀ value seen, first value seen → related (image value) seen) :
    Follows (image <$> reader) walker related := by
  intro cursor
  obtain ⟨moved, holds⟩ := follows cursor
  exact ⟨moved, maps _ _ holds⟩

/-- The first fields of a layout. -/
theorem Follows.field {reader : ByteReader α} {next : α → ByteReader β}
    {layout : List (Slot κ)} {rest : List (List (Slot κ))}
    {first : α → List (Token κ) → Prop} {related : β → List (Token κ) → Prop}
    (head : Follows reader (walk layout) first)
    (tail : ∀ value tokens, first value tokens →
      Follows (next value) (walk rest.flatten) fun result more =>
        related result (tokens ++ more)) :
    Follows (reader >>= next) (walk (layout :: rest).flatten) related := by
  rw [List.flatten_cons, walk_append]
  refine head.bind fun value tokens holds cursor => ?_
  exact tail value tokens holds cursor

/-- The end of a layout. -/
theorem Follows.done {related : α → List (Token κ) → Prop} {value : α}
    (holds : related value []) :
    Follows (Pure.pure value) (walk ([] : List (List (Slot κ))).flatten) related :=
  .pure holds

theorem walk_singleton (slot : Slot κ) : walk [slot] = slot.walk := by
  simp [walk]

theorem follows_unsigned (width : Nat) :
    Follows (unsigned width) (walk [(.number width : Slot κ)]) fun value tokens =>
      value < 256 ^ width ∧ tokens = [.plain (LittleEndian.encode width value)] := by
  rw [walk_singleton]
  exact fun cursor => ⟨rfl, unsigned_lt width cursor, rfl⟩

theorem follows_u32 :
    Follows u32 (walk [(.number 4 : Slot κ)]) fun value tokens =>
      tokens = [.plain (LittleEndian.encode 4 value.toNat)] := by
  refine (follows_unsigned 4).map ?_
  rintro value tokens ⟨bound, rfl⟩
  have exact : (UInt32.ofNat value).toNat = value := by
    rw [UInt32.toNat_ofNat']
    omega
  rw [exact]

theorem follows_u64 :
    Follows u64 (walk [(.number 8 : Slot κ)]) fun value tokens =>
      tokens = [.plain (LittleEndian.encode 8 value.toNat)] := by
  refine (follows_unsigned 8).map ?_
  rintro value tokens ⟨bound, rfl⟩
  have exact : (UInt64.ofNat value).toNat = value := by
    rw [UInt64.toNat_ofNat']
    omega
  rw [exact]

theorem follows_u8 (kind : κ) :
    Follows u8 (walk [.marked kind]) fun value tokens =>
      tokens = [.marked kind value] := by
  rw [walk_singleton]
  exact fun cursor => ⟨rfl, rfl⟩

theorem follows_flag (kind : κ) :
    Follows flag (walk [.marked kind]) fun value tokens =>
      ∃ byte, (byte != 0) = value ∧ tokens = [.marked kind byte] :=
  (follows_u8 kind).map fun value _ read => ⟨value, rfl, read⟩

theorem follows_text (limit : Option Nat) :
    Follows (text limit) (walk [(.text limit : Slot κ)]) fun value tokens =>
      tokens = [.plain (LittleEndian.encode 2 value.length ++ value)] := by
  rw [walk_singleton]
  exact fun cursor => ⟨rfl, rfl⟩

theorem follows_optional {reader : ByteReader α} {width : Nat}
    {related : α → List (Token κ) → Prop} (kind : κ)
    (follows : Follows reader (walk [.number width]) related) :
    Follows (optional reader) (walk [.optional kind width]) fun value tokens =>
      (value = none ∧ tokens = [.marked kind 0]) ∨
        ∃ present byte more, value = some present ∧ byte ≠ 0 ∧ related present more ∧
          tokens = .marked kind byte :: more := by
  rw [walk_singleton] at follows ⊢
  have flags : Follows flag u8 fun value byte => (byte != 0) = value :=
    fun _ => ⟨rfl, rfl⟩
  refine flags.bind ?_
  rintro _ byte rfl
  cases zero : byte != 0 with
  | false =>
      rw [bne_eq_false_iff_eq] at zero
      exact .pure (.inl ⟨rfl, by rw [zero]⟩)
  | true =>
      rw [bne_iff_ne] at zero
      intro cursor
      obtain ⟨moved, holds⟩ := follows cursor
      exact ⟨moved, .inr ⟨_, byte, _, rfl, zero, holds, rfl⟩⟩

/-- Whenever the first reader succeeds, the second ends at the same cursor, with a related
result. -/
def Tracks (reader : Checked ε α) (walker : ByteReader γ)
    (related : α → γ → Prop) : Prop :=
  ∀ cursor value last, reader.run cursor = .ok (value, last) →
    (walker.run cursor).2 = last ∧ related value (walker.run cursor).1

theorem Tracks.pure {related : α → γ → Prop} {value : α} {seen : γ}
    (holds : related value seen) :
    Tracks (pure value : Checked ε α) (pure seen) related := by
  intro cursor result last ok
  obtain ⟨rfl, rfl⟩ := Prod.mk.inj (Except.ok.inj ok)
  exact ⟨rfl, holds⟩

theorem Tracks.bind {reader : Checked ε α} {next : α → Checked ε β}
    {walker : ByteReader γ} {onward : γ → ByteReader δ} {first : α → γ → Prop}
    {related : β → δ → Prop} (head : Tracks reader walker first)
    (tail : ∀ value seen, first value seen → Tracks (next value) (onward seen) related) :
    Tracks (reader >>= next) (walker >>= onward) related := by
  intro cursor result last ok
  obtain ⟨value, middle, headOk, tailOk⟩ := run_bind_ok ok
  obtain ⟨moved, holds⟩ := head _ _ _ headOk
  rw [run_bind, moved]
  exact tail _ _ holds _ _ _ tailOk

theorem tracks_read {reader : ByteReader α} {walker : ByteReader γ}
    {related : α → γ → Prop} (follows : Follows reader walker related) :
    Tracks (read reader : Checked ε α) walker related := by
  intro cursor value last ok
  obtain ⟨rfl, rfl⟩ := Prod.mk.inj (Except.ok.inj ok)
  obtain ⟨moved, holds⟩ := follows cursor
  exact ⟨moved.symm, holds⟩

/-- A check that passes moves nothing. -/
theorem Tracks.unless {condition : Cursor → Bool} {error : ε} {next : Unit → Checked ε α}
    {walker : ByteReader γ} {related : α → γ → Prop}
    (tail : Tracks (next ()) walker related) :
    Tracks (refuse condition error >>= next) walker related := by
  intro cursor result last ok
  obtain ⟨value, middle, checked, tailOk⟩ := run_bind_ok ok
  obtain ⟨-, rfl⟩ := run_refuse_ok checked
  exact tail _ _ _ tailOk

/-- The records of a loop are read from repetitions of their layout. -/
theorem tracks_records {reader : ByteReader α} {layout : List (Slot κ)}
    {related : α → List (Token κ) → Prop} (corrupt : ε)
    (follows : Follows reader (walk layout) related) (count : Nat) :
    Tracks (records reader corrupt count) (walk (List.replicate count layout).flatten)
      fun values tokens => values.length = count ∧
        ∃ groups, List.Forall₂ related values groups ∧ tokens = groups.flatten := by
  induction count with
  | zero => exact .pure ⟨rfl, [], .nil, rfl⟩
  | succ count ih =>
      rw [List.replicate_succ, List.flatten_cons, walk_append]
      refine (tracks_read follows).bind fun record tokens first => .unless ?_
      refine ih.bind ?_
      rintro rest more ⟨length, groups, others, rfl⟩
      exact .pure ⟨by rw [List.length_cons, length], tokens :: groups,
        .cons first others, rfl⟩

/-- A loop that starts from a good cursor ends at one. -/
theorem good_of_records {reader : ByteReader α} {corrupt : ε} {count : Nat}
    {cursor last : Cursor} {values : List α} (good : cursor.bad = false)
    (ok : (records reader corrupt count).run cursor = .ok (values, last)) :
    last.bad = false := by
  induction count generalizing cursor values with
  | zero =>
      obtain ⟨-, rfl⟩ := Prod.mk.inj (Except.ok.inj ok)
      exact good
  | succ count ih =>
      obtain ⟨record, middle, -, checkOk⟩ := run_bind_ok ok
      obtain ⟨_, checked, passed, restOk⟩ := run_bind_ok checkOk
      obtain ⟨stillGood, rfl⟩ := run_refuse_ok passed
      obtain ⟨rest, final, loop, pureOk⟩ := run_bind_ok restOk
      obtain ⟨-, rfl⟩ := Prod.mk.inj (Except.ok.inj pureOk)
      exact ih stillGood loop

end ByteReader
