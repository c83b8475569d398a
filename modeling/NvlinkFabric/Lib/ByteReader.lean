import NvlinkFabric.Lib.LittleEndian

/-!
# Bounded readers

A reader moves a cursor through a byte string.  A read that does not fit marks
the cursor as bad, leaves its position and returns a default; later reads still
run, and the caller looks at the mark when it wants to.

`Decodes` says that a reader undoes an encoding wherever it stands in the input.
It composes along `do` blocks, so a round trip is one rule per field.  `Yields`
bounds what a reader can return from any cursor, and composes the same way.
-/

/-- A position in a byte string. -/
structure Cursor where
  bytes : List UInt8
  pos : Nat := 0
  bad : Bool := false
  deriving DecidableEq

/-- Whether `count` more bytes can be read. -/
def Cursor.remaining (cursor : Cursor) (count : Nat) : Bool :=
  cursor.pos + count ≤ cursor.bytes.length

/-- The next `count` bytes. -/
def Cursor.slice (cursor : Cursor) (count : Nat) : List UInt8 :=
  (cursor.bytes.drop cursor.pos).take count

/-- Readers over a cursor. -/
abbrev ByteReader := StateM Cursor

namespace ByteReader

variable {α β : Type}

/-- A little-endian number of `count` bytes. -/
def unsigned (count : Nat) : ByteReader Nat := fun cursor =>
  if cursor.remaining count then
    (LittleEndian.decode (cursor.slice count), { cursor with pos := cursor.pos + count })
  else (0, { cursor with bad := true })

def u8 : ByteReader UInt8 := UInt8.ofNat <$> unsigned 1
def u16 : ByteReader UInt16 := UInt16.ofNat <$> unsigned 2
def u32 : ByteReader UInt32 := UInt32.ofNat <$> unsigned 4
def u64 : ByteReader UInt64 := UInt64.ofNat <$> unsigned 8

/-- A byte read as a truth value. -/
def flag : ByteReader Bool := (· != 0) <$> u8

/-- The bytes of a string of known size; refused on a bad cursor. -/
def chunk (limit : Option Nat) (size : Nat) : ByteReader (List UInt8) := fun cursor =>
  if cursor.bad || limit.any (size > ·) || !cursor.remaining size then
    ([], { cursor with bad := true })
  else (cursor.slice size, { cursor with pos := cursor.pos + size })

/-- A string behind a 16-bit size, with an optional bound on the size. -/
def text (limit : Option Nat) : ByteReader (List UInt8) := do
  let size ← u16
  chunk limit size.toNat

/-- A value behind a presence byte. -/
def optional (reader : ByteReader α) : ByteReader (Option α) := do
  if ← flag then some <$> reader else pure none

/-- Readers that can give up with an error. -/
abbrev Checked (ε : Type) := StateT Cursor (Except ε)

variable {ε : Type}

/-- A plain read never gives up. -/
def read (reader : ByteReader α) : Checked ε α := fun cursor => .ok (reader.run cursor)

/-- Give up under a condition on the cursor. -/
def refuse (condition : Cursor → Bool) (error : ε) : Checked ε Unit := fun cursor =>
  if condition cursor then .error error else .ok ((), cursor)

/-- Read `count` records; the first one that leaves the cursor bad ends the loop. -/
def records (reader : ByteReader α) (corrupt : ε) : Nat → Checked ε (List α)
  | 0 => pure []
  | count + 1 => do
      let record ← read reader
      refuse (·.bad) corrupt
      let rest ← records reader corrupt count
      return record :: rest

/-- Wherever the encoding stands in the input, the reader returns the value,
moves past the encoding and keeps the cursor good. -/
def Decodes (reader : ByteReader α) (encoded : List UInt8) (value : α) : Prop :=
  ∀ before after : List UInt8,
    reader.run ⟨before ++ encoded ++ after, before.length, false⟩ =
      (value, ⟨before ++ encoded ++ after, before.length + encoded.length, false⟩)

theorem Decodes.pure (value : α) : Decodes (pure value) [] value := fun _ _ => rfl

theorem Decodes.bind {reader : ByteReader α} {next : α → ByteReader β}
    {first second : List UInt8} {value : α} {result : β}
    (head : Decodes reader first value) (tail : Decodes (next value) second result) :
    Decodes (reader >>= next) (first ++ second) result := by
  intro before after
  have headRun := head before (second ++ after)
  have tailRun := tail (before ++ first) after
  simp only [List.append_assoc, List.length_append, Nat.add_assoc] at headRun tailRun ⊢
  rw [StateT.run_bind, headRun]
  exact tailRun

theorem Decodes.map {reader : ByteReader α} {encoded : List UInt8} {value : α}
    (decodes : Decodes reader encoded value) (image : α → β) :
    Decodes (image <$> reader) encoded (image value) := by
  intro before after
  rw [StateT.run_map, decodes before after]
  rfl

/-- A reader at the place where the encoding starts. -/
theorem Decodes.runAt {reader : ByteReader α} {encoded : List UInt8} {value : α}
    (decodes : Decodes reader encoded value) {bytes before after : List UInt8} {pos : Nat}
    (spelled : bytes = before ++ encoded ++ after) (start : before.length = pos) :
    reader.run ⟨bytes, pos, false⟩ =
      (value, ⟨bytes, pos + encoded.length, false⟩) := by
  rw [spelled, ← start]
  exact decodes before after

/-- A reader given nothing but the encoding. -/
theorem Decodes.runAll {reader : ByteReader α} {encoded : List UInt8} {value : α}
    (decodes : Decodes reader encoded value) :
    reader.run { bytes := encoded } = (value, ⟨encoded, encoded.length, false⟩) := by
  simpa using decodes [] []

/-- The reader takes the whole input, stays good and returns a value with the
property. -/
def TakesAll (reader : ByteReader α) (input : List UInt8) (property : α → Prop) : Prop :=
  ∃ value, reader.run { bytes := input } = (value, ⟨input, input.length, false⟩) ∧
    property value

theorem Decodes.takesAll {reader : ByteReader α} {encoded : List UInt8} {value : α}
    {property : α → Prop} (decodes : Decodes reader encoded value)
    (holds : property value) :
    TakesAll reader encoded property :=
  ⟨value, decodes.runAll, holds⟩

/-- A reader that maps the encoded form back. -/
theorem Decodes.mapped {reader : ByteReader α} {encoded : List UInt8} {code : α}
    (decodes : Decodes reader encoded code) {image : α → β} {value : β}
    (inverse : image code = value) : Decodes (image <$> reader) encoded value :=
  inverse ▸ decodes.map image

/-- The first field of a sequence of encoded fields. -/
theorem Decodes.field {reader : ByteReader α} {next : α → ByteReader β}
    {first : List UInt8} {rest : List (List UInt8)} {value : α} {result : β}
    (head : Decodes reader first value)
    (tail : Decodes (next value) rest.flatten result) :
    Decodes (reader >>= next) (first :: rest).flatten result :=
  head.bind tail

theorem slice_middle (before encoded after : List UInt8) (bad : Bool) :
    (⟨before ++ encoded ++ after, before.length, bad⟩ : Cursor).slice encoded.length =
      encoded := by
  simp [Cursor.slice]

theorem remaining_middle (before encoded after : List UInt8) (bad : Bool) :
    (⟨before ++ encoded ++ after, before.length, bad⟩ : Cursor).remaining encoded.length =
      true := by
  simp [Cursor.remaining, ← Nat.add_assoc]

theorem decodes_unsigned {count value : Nat} (fits : value < 256 ^ count) :
    Decodes (unsigned count) (LittleEndian.encode count value) value := by
  intro before after
  have slice := slice_middle before (LittleEndian.encode count value) after false
  have remaining := remaining_middle before (LittleEndian.encode count value) after false
  rw [LittleEndian.length_encode] at slice remaining ⊢
  simp only [StateT.run, unsigned, remaining, if_true, slice,
    LittleEndian.decode_encode fits]

theorem decodes_u8 (value : UInt8) :
    Decodes u8 (LittleEndian.encode 1 value.toNat) value := by
  have decodes : Decodes (unsigned 1) (LittleEndian.encode 1 value.toNat) value.toNat :=
    decodes_unsigned value.toNat_lt
  simpa [u8] using decodes.map UInt8.ofNat

theorem decodes_u16 (value : UInt16) :
    Decodes u16 (LittleEndian.encode 2 value.toNat) value := by
  have decodes : Decodes (unsigned 2) (LittleEndian.encode 2 value.toNat) value.toNat :=
    decodes_unsigned value.toNat_lt
  simpa [u16] using decodes.map UInt16.ofNat

theorem decodes_u32 (value : UInt32) :
    Decodes u32 (LittleEndian.encode 4 value.toNat) value := by
  have decodes : Decodes (unsigned 4) (LittleEndian.encode 4 value.toNat) value.toNat :=
    decodes_unsigned value.toNat_lt
  simpa [u32] using decodes.map UInt32.ofNat

theorem decodes_u64 (value : UInt64) :
    Decodes u64 (LittleEndian.encode 8 value.toNat) value := by
  have decodes : Decodes (unsigned 8) (LittleEndian.encode 8 value.toNat) value.toNat :=
    decodes_unsigned value.toNat_lt
  simpa [u64] using decodes.map UInt64.ofNat

theorem decodes_flag (value : Bool) :
    Decodes flag (LittleEndian.encode 1 (if value then 1 else 0)) value := by
  have decodes := (decodes_u8 (if value then 1 else 0)).map (· != 0)
  cases value <;> exact decodes

theorem decodes_chunk {limit : Option Nat} {content : List UInt8}
    (bounded : ∀ bound ∈ limit, content.length ≤ bound) :
    Decodes (chunk limit content.length) content content := by
  intro before after
  have slice := slice_middle before content after false
  have remaining := remaining_middle before content after false
  have within : limit.any (content.length > ·) = false := by
    cases limit with
    | none => rfl
    | some bound => simpa using bounded bound rfl
  simp only [StateT.run, chunk, slice, remaining, within, Bool.not_true, Bool.or_false,
    Bool.false_eq_true, if_false]

/-- A string is read back if its size fits in 16 bits and under the limit. -/
theorem decodes_text {limit : Option Nat} {content : List UInt8}
    (bounded : ∀ bound ∈ limit, content.length ≤ bound) (fits : content.length < 65536) :
    Decodes (text limit) (LittleEndian.encode 2 content.length ++ content) content := by
  have size : (UInt16.ofNat content.length).toNat = content.length := by
    rw [UInt16.toNat_ofNat']
    omega
  have prefixed := decodes_u16 (UInt16.ofNat content.length)
  rw [size] at prefixed
  refine Decodes.bind prefixed ?_
  rw [size]
  exact decodes_chunk bounded

/-- The encoding of an optional value: a presence byte and the value, if any. -/
def encodeOptional (encode : α → List UInt8) : Option α → List UInt8
  | none => [0]
  | some value => 1 :: encode value

theorem decodes_optional {reader : ByteReader α} {encode : α → List UInt8}
    (decodes : ∀ value, Decodes reader (encode value) value) (value : Option α) :
    Decodes (optional reader) (encodeOptional encode value) value := by
  cases value with
  | none => exact (decodes_flag false).bind (Decodes.pure none)
  | some value => exact (decodes_flag true).bind ((decodes value).map some)

/-- The counterpart of `Decodes` for readers that can give up. -/
def Accepts (reader : Checked ε α) (encoded : List UInt8) (value : α) : Prop :=
  ∀ before after : List UInt8,
    reader.run ⟨before ++ encoded ++ after, before.length, false⟩ =
      .ok (value, ⟨before ++ encoded ++ after, before.length + encoded.length, false⟩)

theorem Accepts.pure (value : α) : Accepts (pure value : Checked ε α) [] value :=
  fun _ _ => rfl

theorem Accepts.bind {reader : Checked ε α} {next : α → Checked ε β}
    {first second : List UInt8} {value : α} {result : β}
    (head : Accepts reader first value) (tail : Accepts (next value) second result) :
    Accepts (reader >>= next) (first ++ second) result := by
  intro before after
  have headRun := head before (second ++ after)
  have tailRun := tail (before ++ first) after
  simp only [List.append_assoc, List.length_append, Nat.add_assoc] at headRun tailRun ⊢
  rw [StateT.run_bind, headRun]
  exact tailRun

/-- The first field of a sequence of encoded fields. -/
theorem Accepts.field {reader : Checked ε α} {next : α → Checked ε β}
    {first : List UInt8} {rest : List (List UInt8)} {value : α} {result : β}
    (head : Accepts reader first value)
    (tail : Accepts (next value) rest.flatten result) :
    Accepts (reader >>= next) (first :: rest).flatten result :=
  head.bind tail

theorem accepts_read {reader : ByteReader α} {encoded : List UInt8} {value : α}
    (decodes : Decodes reader encoded value) :
    Accepts (read reader : Checked ε α) encoded value :=
  fun before after => congrArg Except.ok (decodes before after)

/-- A check that lets every good cursor pass consumes nothing. -/
theorem Accepts.unless {condition : Cursor → Bool} {error : ε} {next : Unit → Checked ε α}
    {encoded : List UInt8} {value : α}
    (passes : ∀ bytes pos, condition ⟨bytes, pos, false⟩ = false)
    (tail : Accepts (next ()) encoded value) :
    Accepts (refuse condition error >>= next) encoded value := by
  have checked : Accepts (refuse condition error) [] () := by
    intro before after
    simp only [StateT.run, refuse, passes, Bool.false_eq_true, if_false]
    rfl
  exact checked.bind tail

/-- Records are read one after the other, each as its own encoding is. -/
theorem accepts_records {reader : ByteReader α} {encode : β → List UInt8} {image : β → α}
    (corrupt : ε) {values : List β}
    (decodes : ∀ value ∈ values, Decodes reader (encode value) (image value)) :
    Accepts (records reader corrupt values.length) (values.flatMap encode)
      (values.map image) := by
  induction values with
  | nil => exact .pure []
  | cons value values ih =>
      have rest := ih fun other member => decodes other (List.mem_cons_of_mem _ member)
      rw [List.flatMap_cons, ← List.append_nil (values.flatMap encode)]
      refine .bind (accepts_read (decodes value List.mem_cons_self)) ?_
      refine .unless (fun _ _ => rfl) ?_
      exact rest.bind (.pure (image value :: values.map image))

/-! ## What a reader can return -/

/-- From every cursor the reader returns a value with the property. -/
def Yields (reader : ByteReader α) (property : α → Prop) : Prop :=
  ∀ cursor, property (reader.run cursor).1

theorem Yields.pure {property : α → Prop} {value : α} (holds : property value) :
    Yields (pure value) property := fun _ => holds

theorem Yields.any (reader : ByteReader α) : Yields reader fun _ => True :=
  fun _ => trivial

theorem Yields.bind {reader : ByteReader α} {next : α → ByteReader β}
    {first : α → Prop} {second : β → Prop} (head : Yields reader first)
    (tail : ∀ value, first value → Yields (next value) second) :
    Yields (reader >>= next) second :=
  fun cursor => tail _ (head cursor) _

theorem yields_text (bound : Nat) : Yields (text (some bound)) (·.length ≤ bound) := by
  refine Yields.bind (Yields.any u16) fun size _ cursor => ?_
  simp only [StateT.run, chunk]
  split
  · simp
  next accepted =>
    simp only [Option.any_some, Bool.or_eq_true, decide_eq_true_eq, Bool.not_eq_true',
      not_or, not_lt] at accepted
    exact (List.length_take_le _ _).trans accepted.1.2

/-- A run of two readers in a row is a run of both. -/
theorem run_bind_ok {reader : Checked ε α} {next : α → Checked ε β} {cursor last : Cursor}
    {result : β} (ok : (reader >>= next).run cursor = .ok (result, last)) :
    ∃ value middle, reader.run cursor = .ok (value, middle) ∧
      (next value).run middle = .ok (result, last) := by
  rw [StateT.run_bind] at ok
  cases head : reader.run cursor with
  | error error => simp [head, Bind.bind, Except.bind] at ok
  | ok moved =>
      rw [head] at ok
      exact ⟨moved.1, moved.2, rfl, ok⟩

theorem run_refuse_ok {condition : Cursor → Bool} {error : ε} {cursor last : Cursor}
    {value : Unit} (ok : (refuse condition error).run cursor = .ok (value, last)) :
    condition cursor = false ∧ last = cursor := by
  simp only [StateT.run, refuse] at ok
  split at ok
  · simp at ok
  next passed =>
    simp only [Except.ok.injEq, Prod.mk.injEq] at ok
    exact ⟨by simpa using passed, ok.2.symm⟩

/-- Whenever the reader succeeds, it returns a value with the property. -/
def Returns (reader : Checked ε α) (property : α → Prop) : Prop :=
  ∀ cursor value last, reader.run cursor = .ok (value, last) → property value

theorem Returns.pure {property : α → Prop} {value : α} (holds : property value) :
    Returns (pure value : Checked ε α) property := by
  intro cursor result last ok
  obtain ⟨rfl, -⟩ := Prod.mk.inj (Except.ok.inj ok)
  exact holds

theorem Returns.bind {reader : Checked ε α} {next : α → Checked ε β}
    {first : α → Prop} {second : β → Prop} (head : Returns reader first)
    (tail : ∀ value, first value → Returns (next value) second) :
    Returns (reader >>= next) second := by
  intro cursor result last ok
  obtain ⟨value, middle, headOk, tailOk⟩ := run_bind_ok ok
  exact tail value (head _ _ _ headOk) _ _ _ tailOk

theorem returns_read {reader : ByteReader α} {property : α → Prop}
    (yields : Yields reader property) : Returns (read reader : Checked ε α) property := by
  intro cursor value last ok
  obtain ⟨rfl, -⟩ := Prod.mk.inj (Except.ok.inj ok)
  exact yields cursor

/-- Past a check its condition is known to fail at some cursor. -/
theorem returns_refuse (condition : Cursor → Bool) (error : ε) :
    Returns (refuse condition error) fun _ => ∃ cursor, condition cursor = false := by
  intro cursor value last ok
  exact ⟨cursor, (run_refuse_ok ok).1⟩

/-- The records of a successful loop are as many as asked for and all have the
property. -/
theorem returns_records {reader : ByteReader α} {property : α → Prop}
    (yields : Yields reader property) (corrupt : ε) (count : Nat) :
    Returns (records reader corrupt count) fun values =>
      values.length = count ∧ ∀ value ∈ values, property value := by
  induction count with
  | zero => exact .pure ⟨rfl, by simp⟩
  | succ count ih =>
      refine .bind (returns_read yields) fun record first => ?_
      refine .bind (returns_refuse _ _) fun _ _ => ?_
      refine .bind ih fun rest others => .pure ?_
      exact ⟨by simp [others.1], by simpa using ⟨first, others.2⟩⟩

/-- Whenever the reader gives up, it is with an error that has the property. -/
def Fails (reader : Checked ε α) (property : ε → Prop) : Prop :=
  ∀ cursor error, reader.run cursor = .error error → property error

theorem Fails.pure (value : α) (property : ε → Prop) :
    Fails (pure value : Checked ε α) property := by
  intro cursor error failed
  cases failed

theorem Fails.bind {reader : Checked ε α} {next : α → Checked ε β} {property : ε → Prop}
    (head : Fails reader property) (tail : ∀ value, Fails (next value) property) :
    Fails (reader >>= next) property := by
  intro cursor error failed
  rw [StateT.run_bind] at failed
  cases first : reader.run cursor with
  | error early =>
      rw [first] at failed
      obtain rfl := Except.error.inj failed
      exact head _ _ first
  | ok moved =>
      rw [first] at failed
      exact tail _ _ _ failed

theorem fails_read (reader : ByteReader α) (property : ε → Prop) :
    Fails (read reader : Checked ε α) property := by
  intro cursor error failed
  cases failed

theorem fails_refuse (condition : Cursor → Bool) {error : ε} {property : ε → Prop}
    (holds : property error) : Fails (refuse condition error) property := by
  intro cursor raised failed
  simp only [StateT.run, refuse] at failed
  split at failed
  · obtain rfl := Except.error.inj failed
    exact holds
  · cases failed

theorem fails_records (reader : ByteReader α) {corrupt : ε} {property : ε → Prop}
    (holds : property corrupt) (count : Nat) :
    Fails (records reader corrupt count) property := by
  induction count with
  | zero => exact .pure [] property
  | succ count ih =>
      refine (fails_read reader property).bind fun record => ?_
      refine (fails_refuse _ holds).bind fun _ => ?_
      exact ih.bind fun rest => .pure (record :: rest) property

end ByteReader
