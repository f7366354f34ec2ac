import Mathlib.Data.List.Basic
import ServicePortScanner.Data.Bytes

namespace ServicePortScanner.Data

/-! Checked reading of a byte buffer: a pointer, a count of the bytes left, and
a fault for everything C++ leaves undefined. -/

inductive Fault where
  | outOfBounds
  | underflow
  deriving DecidableEq, Repr

def readByte (buffer : Bytes) (index : Nat) : Except Fault UInt8 :=
  match buffer[index]? with
  | some value => .ok value
  | none => .error .outOfBounds

/-- Subtraction of `std::size_t` values, where going below zero is a fault. -/
def checkedSub (left right : Nat) : Except Fault Nat :=
  if right ≤ left then .ok (left - right) else .error .underflow

def u16 (hi lo : UInt8) : UInt16 :=
  hi.toUInt16 <<< 8 ||| lo.toUInt16

def readU16 (buffer : Bytes) (index : Nat) : Except Fault UInt16 := do
  let hi ← readByte buffer index
  let lo ← readByte buffer (index + 1)
  return u16 hi lo

def putU16 (value : UInt16) : Bytes :=
  [(value >>> 8).toUInt8, value.toUInt8]

@[simp] theorem length_putU16 (value : UInt16) : (putU16 value).length = 2 := rfl

theorem toNat_u16 (hi lo : UInt8) :
    (u16 hi lo).toNat = hi.toNat * 256 + lo.toNat := by
  have hiBound := hi.toNat_lt
  have loBound := lo.toNat_lt
  have shifted : hi.toNat * 256 = hi.toNat <<< 8 := by
    rw [Nat.shiftLeft_eq]
  have disjoint : hi.toNat <<< 8 ||| lo.toNat = hi.toNat <<< 8 + lo.toNat :=
    (Nat.shiftLeft_add_eq_or_of_lt (by omega) _).symm
  simp only [u16, UInt16.toNat_or, UInt16.toNat_shiftLeft,
    UInt8.toNat_toUInt16]
  rw [shifted, ← disjoint]
  congr 1
  rw [Nat.mod_eq_of_lt]
  · rfl
  · change hi.toNat <<< 8 < 65536
    omega

theorem u16_putU16 (value : UInt16) :
    u16 (value >>> 8).toUInt8 value.toUInt8 = value := by
  apply UInt16.toNat_inj.mp
  have bound := value.toNat_lt
  have hi : (value >>> 8).toUInt8.toNat = value.toNat / 256 := by
    simp only [UInt16.toNat_toUInt8, UInt16.toNat_shiftRight]
    change value.toNat >>> 8 % 256 = _
    rw [Nat.shiftRight_eq_div_pow]
    omega
  have lo : value.toUInt8.toNat = value.toNat % 256 := by
    simp only [UInt16.toNat_toUInt8]
  rw [toNat_u16, hi, lo]
  omega

theorem putU16_inj {value other : UInt16} (same : putU16 value = putU16 other) :
    value = other := by
  rw [putU16, putU16, List.cons.injEq, List.cons.injEq] at same
  rw [← u16_putU16 value, ← u16_putU16 other, same.1, same.2.1]

theorem putU16_u16 (hi lo : UInt8) : putU16 (u16 hi lo) = [hi, lo] := by
  have hiBound := hi.toNat_lt
  have loBound := lo.toNat_lt
  have front : (u16 hi lo >>> 8).toUInt8 = hi := by
    apply UInt8.toNat_inj.mp
    simp only [UInt16.toNat_toUInt8, UInt16.toNat_shiftRight, toNat_u16]
    change (hi.toNat * 256 + lo.toNat) >>> 8 % 256 = _
    rw [Nat.shiftRight_eq_div_pow]
    omega
  have back : (u16 hi lo).toUInt8 = lo := by
    apply UInt8.toNat_inj.mp
    rw [UInt16.toNat_toUInt8, toNat_u16]
    omega
  rw [putU16, front, back]

structure Cursor where
  pos : Nat
  len : Nat
  deriving DecidableEq, Repr

/-- What the cursor has still to read is exactly `rest`. -/
structure Cursor.At (buffer : Bytes) (cursor : Cursor) (rest : Bytes) : Prop where
  suffix : buffer.drop cursor.pos = rest
  length : cursor.len = rest.length

/-- One reading step moves the cursor on, gives up (`none`), or faults. -/
def Reader (α : Type) :=
  Bytes → Cursor → Except Fault (Option (α × Cursor))

namespace Reader

def bind (reader : Reader α) (next : α → Reader β) : Reader β :=
  fun buffer cursor =>
    match reader buffer cursor with
    | .error fault => .error fault
    | .ok none => .ok none
    | .ok (some (value, cursor')) => next value buffer cursor'

instance : Monad Reader where
  pure value := fun _ cursor => .ok (some (value, cursor))
  bind := bind

theorem bind_assoc {γ : Type} (reader : Reader α) (next : α → Reader β)
    (last : β → Reader γ) :
    reader >>= next >>= last = reader >>= fun value => next value >>= last := by
  funext buffer cursor
  change bind (bind reader next) last buffer cursor =
    bind reader (fun value => bind (next value) last) buffer cursor
  unfold bind
  cases reader buffer cursor with
  | error fault => rfl
  | ok result =>
      cases result with
      | none => rfl
      | some result => rfl

theorem pure_bind (value : α) (next : α → Reader β) :
    Pure.pure value >>= next = next value := rfl

def giveUp : Reader α := fun _ _ => .ok none

def advance (count : Nat) : Reader Unit := fun _ cursor =>
  match checkedSub cursor.len count with
  | .error fault => .error fault
  | .ok len => .ok (some ((), ⟨cursor.pos + count, len⟩))

def peek (offset : Nat) : Reader UInt8 := fun buffer cursor =>
  match readByte buffer (cursor.pos + offset) with
  | .error fault => .error fault
  | .ok value => .ok (some (value, cursor))

def remaining : Reader Nat := fun _ cursor => .ok (some (cursor.len, cursor))

def takeU8 : Reader UInt8 := do
  if (← remaining) < 1 then giveUp
  else
    let value ← peek 0
    advance 1
    return value

def takeU16 : Reader UInt16 := do
  if (← remaining) < 2 then giveUp
  else
    let hi ← peek 0
    let lo ← peek 1
    advance 2
    return u16 hi lo

def skip (count : Nat) : Reader Unit := do
  if (← remaining) < count then giveUp else advance count

/-! What a reader does at a cursor. -/

/-- From any cursor at `taken ++ rest` the reader yields `value` and stops at
`rest`. -/
def Yields (reader : Reader α) (buffer : Bytes) (taken rest : Bytes)
    (value : α) : Prop :=
  ∀ cursor : Cursor, cursor.At buffer (taken ++ rest) →
    ∃ cursor', reader buffer cursor = .ok (some (value, cursor')) ∧
      cursor'.At buffer rest

theorem Yields.pure (value : α) (buffer rest : Bytes) :
    Yields (Pure.pure value) buffer [] rest value :=
  fun cursor located => ⟨cursor, rfl, located⟩

theorem Yields.bind {reader : Reader α} {next : α → Reader β}
    {buffer first second rest : Bytes} {value : α} {result : β}
    (head : Yields reader buffer first (second ++ rest) value)
    (tail : Yields (next value) buffer second rest result) :
    Yields (reader >>= next) buffer (first ++ second) rest result := by
  intro cursor located
  rw [List.append_assoc] at located
  obtain ⟨middle, headRun, middleLocated⟩ := head cursor located
  obtain ⟨finish, tailRun, finishLocated⟩ := tail middle middleLocated
  refine ⟨finish, ?_, finishLocated⟩
  change Reader.bind reader next buffer cursor = _
  simp only [Reader.bind, headRun, tailRun]

theorem readByte_of_drop {buffer rest : Bytes} {pos : Nat} {value : UInt8}
    (suffix : buffer.drop pos = value :: rest) :
    readByte buffer pos = .ok value := by
  have located : buffer[pos]? = some value := by
    have head := congrArg List.head? suffix
    simpa [List.head?_drop] using head
  simp [readByte, located]

theorem drop_succ_of_drop {buffer rest : Bytes} {pos : Nat} {value : UInt8}
    (suffix : buffer.drop pos = value :: rest) :
    buffer.drop (pos + 1) = rest := by
  rw [← List.drop_drop, suffix]
  rfl

theorem advance_at {buffer taken rest : Bytes} {cursor : Cursor}
    (located : cursor.At buffer (taken ++ rest)) :
    ∃ cursor', advance taken.length buffer cursor = .ok (some ((), cursor')) ∧
      cursor'.At buffer rest := by
  have room : taken.length ≤ cursor.len := by
    rw [located.length, List.length_append]
    omega
  refine ⟨⟨cursor.pos + taken.length, cursor.len - taken.length⟩, ?_, ?_, ?_⟩
  · simp [advance, checkedSub, room]
  · rw [← List.drop_drop, located.suffix]
    simp
  · simp [located.length]

theorem takeU8_yields (buffer rest : Bytes) (value : UInt8) :
    Yields takeU8 buffer [value] rest value := by
  intro cursor located
  obtain ⟨cursor', moved, located'⟩ := advance_at located
  have room : ¬ cursor.len < 1 := by
    rw [located.length, List.length_append]
    simp
  have head : readByte buffer cursor.pos = .ok value :=
    readByte_of_drop located.suffix
  refine ⟨cursor', ?_, located'⟩
  simp only [List.length_singleton] at moved
  simp [takeU8, Bind.bind, Reader.bind, remaining, room, peek, head, moved,
    Pure.pure]

theorem takeU16_yields (buffer rest : Bytes) (value : UInt16) :
    Yields takeU16 buffer (putU16 value) rest value := by
  intro cursor located
  obtain ⟨cursor', moved, located'⟩ := advance_at located
  have room : ¬ cursor.len < 2 := by
    rw [located.length, List.length_append, length_putU16]
    omega
  have first : readByte buffer cursor.pos = .ok (value >>> 8).toUInt8 :=
    readByte_of_drop located.suffix
  have second : readByte buffer (cursor.pos + 1) = .ok value.toUInt8 :=
    readByte_of_drop (drop_succ_of_drop located.suffix)
  refine ⟨cursor', ?_, located'⟩
  simp only [length_putU16] at moved
  simp [takeU16, Bind.bind, Reader.bind, remaining, room, peek, first, second,
    moved, Pure.pure, u16_putU16]

theorem skip_yields (buffer taken rest : Bytes) :
    Yields (skip taken.length) buffer taken rest () := by
  intro cursor located
  obtain ⟨cursor', moved, located'⟩ := advance_at located
  have room : ¬ cursor.len < taken.length := by
    rw [located.length, List.length_append]
    omega
  refine ⟨cursor', ?_, located'⟩
  simp [skip, Bind.bind, Reader.bind, remaining, room, moved]

/-- From any cursor at `rest` the reader gives up. -/
def GivesUp (reader : Reader α) (buffer rest : Bytes) : Prop :=
  ∀ cursor : Cursor, cursor.At buffer rest → reader buffer cursor = .ok none

theorem Yields.givesUp {reader : Reader α} {next : α → Reader β}
    {buffer first rest : Bytes} {value : α}
    (head : Yields reader buffer first rest value)
    (tail : GivesUp (next value) buffer rest) :
    GivesUp (reader >>= next) buffer (first ++ rest) := by
  intro cursor located
  obtain ⟨middle, headRun, middleLocated⟩ := head cursor located
  change Reader.bind reader next buffer cursor = _
  simp only [Reader.bind, headRun]
  exact tail middle middleLocated

theorem GivesUp.bind {reader : Reader α} {buffer rest : Bytes}
    (next : α → Reader β) (head : GivesUp reader buffer rest) :
    GivesUp (reader >>= next) buffer rest := by
  intro cursor located
  change Reader.bind reader next buffer cursor = _
  simp only [Reader.bind, head cursor located]

theorem takeU16_givesUp {buffer rest : Bytes} (short : rest.length < 2) :
    GivesUp takeU16 buffer rest := by
  intro cursor located
  rw [← located.length] at short
  simp [takeU16, Bind.bind, Reader.bind, remaining, short, giveUp]

/-! What a reader has read, where it has not given up. -/

/-- Wherever the reader succeeds it has taken bytes that `shape` relates to its
value. -/
def Consumes (reader : Reader α) (shape : Bytes → α → Prop) : Prop :=
  ∀ (buffer rest : Bytes) (cursor cursor' : Cursor) (value : α),
    cursor.At buffer rest →
    reader buffer cursor = .ok (some (value, cursor')) →
    ∃ taken rest', rest = taken ++ rest' ∧ cursor'.At buffer rest' ∧
      shape taken value

theorem Consumes.bind {reader : Reader α} {next : α → Reader β}
    {first : Bytes → α → Prop} {second : α → Bytes → β → Prop}
    (head : Consumes reader first)
    (tail : ∀ value, Consumes (next value) (second value)) :
    Consumes (reader >>= next) fun taken result =>
      ∃ value front back, taken = front ++ back ∧ first front value ∧
        second value back result := by
  intro buffer rest cursor cursor' result located success
  change Reader.bind reader next buffer cursor = _ at success
  unfold Reader.bind at success
  split at success
  · cases success
  · cases success
  · next value middle headRun =>
      obtain ⟨front, rest₁, rfl, located₁, shape₁⟩ :=
        head buffer rest cursor middle value located headRun
      obtain ⟨back, rest₂, rfl, located₂, shape₂⟩ :=
        tail value buffer rest₁ middle cursor' result located₁ success
      exact ⟨front ++ back, rest₂, (List.append_assoc _ _ _).symm, located₂,
        value, front, back, rfl, shape₁, shape₂⟩

theorem Consumes.pure (value : α) :
    Consumes (Pure.pure value) fun taken result => taken = [] ∧ result = value := by
  intro buffer rest cursor cursor' result located success
  cases success
  exact ⟨[], rest, rfl, located, rfl, rfl⟩

theorem Consumes.mono {reader : Reader α} {shape other : Bytes → α → Prop}
    (consumes : Consumes reader shape)
    (weaker : ∀ taken value, shape taken value → other taken value) :
    Consumes reader other := by
  intro buffer rest cursor cursor' value located success
  obtain ⟨taken, rest', split, located', shaped⟩ :=
    consumes buffer rest cursor cursor' value located success
  exact ⟨taken, rest', split, located', weaker taken value shaped⟩

theorem takeU8_consumes : Consumes takeU8 fun taken value => taken = [value] := by
  intro buffer rest cursor cursor' value located success
  cases rest with
  | nil =>
      have empty : cursor.len < 1 := by rw [located.length]; exact Nat.one_pos
      simp [takeU8, Bind.bind, Reader.bind, remaining, empty, giveUp] at success
  | cons byte rest =>
      obtain ⟨next, run, located'⟩ :=
        takeU8_yields buffer rest byte cursor located
      rw [run] at success
      cases success
      exact ⟨[value], rest, rfl, located', rfl⟩

theorem takeU16_consumes :
    Consumes takeU16 fun taken value => taken = putU16 value := by
  intro buffer rest cursor cursor' value located success
  by_cases short : cursor.len < 2
  · rw [located.length] at short
    rw [takeU16_givesUp short cursor located] at success
    cases success
  · rw [located.length] at short
    cases rest with
    | nil => exact absurd Nat.two_pos short
    | cons hi rest =>
        cases rest with
        | nil => exact absurd Nat.one_lt_two short
        | cons lo rest =>
            have shape : hi :: lo :: rest = putU16 (u16 hi lo) ++ rest := by
              rw [putU16_u16]
              rfl
            rw [shape] at located
            obtain ⟨next, run, located'⟩ :=
              takeU16_yields buffer rest (u16 hi lo) cursor located
            rw [run] at success
            cases success
            exact ⟨putU16 (u16 hi lo), rest, shape, located', rfl⟩

theorem skip_consumes (count : Nat) :
    Consumes (skip count) fun taken _ => taken.length = count := by
  intro buffer rest cursor cursor' value located success
  by_cases short : cursor.len < count
  · simp [skip, Bind.bind, Reader.bind, remaining, short, giveUp] at success
  · rw [located.length] at short
    have taken : (rest.take count).length = count :=
      List.length_take_of_le (Nat.le_of_not_lt short)
    rw [← rest.take_append_drop count] at located
    have yields := skip_yields buffer (rest.take count) (rest.drop count)
    rw [taken] at yields
    obtain ⟨next, run, located'⟩ := yields cursor located
    rw [run] at success
    cases success
    exact ⟨rest.take count, rest.drop count,
      (rest.take_append_drop count).symm, located', taken⟩

/-! Readers that never fault. -/

def Inside (buffer : Bytes) (cursor : Cursor) : Prop :=
  cursor.pos + cursor.len = buffer.length

/-- From every cursor inside a buffer the reader gives up or stops at another
cursor inside it, with a value that meets `post` there. -/
def Safe (reader : Reader α) (buffer : Bytes) (post : α → Cursor → Prop) :
    Prop :=
  ∀ cursor, Inside buffer cursor → reader buffer cursor = .ok none ∨
    ∃ value cursor', reader buffer cursor = .ok (some (value, cursor')) ∧
      Inside buffer cursor' ∧ post value cursor'

theorem Safe.pure {value : α} {buffer : Bytes} {post : α → Cursor → Prop}
    (holds : ∀ cursor, Inside buffer cursor → post value cursor) :
    Safe (Pure.pure value) buffer post :=
  fun cursor inside => .inr ⟨value, cursor, rfl, inside, holds cursor inside⟩

theorem Safe.bind {reader : Reader α} {next : α → Reader β} {buffer : Bytes}
    {first : α → Cursor → Prop} {post : β → Cursor → Prop}
    (head : Safe reader buffer first)
    (tail : ∀ value, Safe (next value) buffer post) :
    Safe (reader >>= next) buffer post := by
  intro cursor inside
  change Reader.bind reader next buffer cursor = _ ∨ ∃ _ _,
    Reader.bind reader next buffer cursor = _ ∧ _
  rcases head cursor inside with none | ⟨value, middle, headRun, inside', _⟩
  · exact .inl (by simp only [Reader.bind, none])
  · simp only [Reader.bind, headRun]
    exact tail value middle inside'

theorem takeU8_safe (buffer : Bytes) :
    Safe takeU8 buffer fun _ _ => True := by
  intro cursor inside
  by_cases room : cursor.len < 1
  · exact .inl (by simp [takeU8, Bind.bind, Reader.bind, remaining, room,
      giveUp])
  · have bound : cursor.pos < buffer.length := by
      unfold Inside at inside
      omega
    refine .inr ⟨buffer[cursor.pos], ⟨cursor.pos + 1, cursor.len - 1⟩, ?_, ?_,
      trivial⟩
    · simp [takeU8, Bind.bind, Reader.bind, remaining, room, peek, readByte,
        bound, advance, checkedSub, Nat.le_of_not_lt room, Pure.pure]
    · unfold Inside at inside ⊢
      dsimp only
      omega

theorem takeU16_safe (buffer : Bytes) :
    Safe takeU16 buffer fun _ _ => True := by
  intro cursor inside
  by_cases room : cursor.len < 2
  · exact .inl (by simp [takeU16, Bind.bind, Reader.bind, remaining, room,
      giveUp])
  · have first : cursor.pos < buffer.length := by
      unfold Inside at inside
      omega
    have second : cursor.pos + 1 < buffer.length := by
      unfold Inside at inside
      omega
    refine .inr ⟨u16 buffer[cursor.pos] buffer[cursor.pos + 1],
      ⟨cursor.pos + 2, cursor.len - 2⟩, ?_, ?_, trivial⟩
    · simp [takeU16, Bind.bind, Reader.bind, remaining, room, peek, readByte,
        first, second, advance, checkedSub, Nat.le_of_not_lt room, Pure.pure]
    · unfold Inside at inside ⊢
      dsimp only
      omega

theorem skip_safe (buffer : Bytes) (count : Nat) :
    Safe (skip count) buffer fun _ _ => True := by
  intro cursor inside
  by_cases room : cursor.len < count
  · exact .inl (by simp [skip, Bind.bind, Reader.bind, remaining, room, giveUp])
  · refine .inr ⟨(), ⟨cursor.pos + count, cursor.len - count⟩, ?_, ?_, trivial⟩
    · simp [skip, Bind.bind, Reader.bind, remaining, room, advance, checkedSub,
        Nat.le_of_not_lt room]
    · unfold Inside at inside ⊢
      dsimp only
      omega

end Reader

theorem readU16_of_drop {buffer rest : Bytes} {pos : Nat} {value : UInt16}
    (suffix : buffer.drop pos = putU16 value ++ rest) :
    readU16 buffer pos = .ok value := by
  have first : readByte buffer pos = .ok (value >>> 8).toUInt8 :=
    Reader.readByte_of_drop suffix
  have second : readByte buffer (pos + 1) = .ok value.toUInt8 :=
    Reader.readByte_of_drop (Reader.drop_succ_of_drop suffix)
  simp [readU16, first, second, Bind.bind, Except.bind, Pure.pure, Except.pure,
    u16_putU16]

theorem readByte_eq_ok_iff (buffer : Bytes) (index : Nat) :
    (∃ value, readByte buffer index = .ok value) ↔ index < buffer.length := by
  unfold readByte
  constructor
  · rintro ⟨value, read⟩
    split at read
    · next found => exact (List.getElem?_eq_some_iff.mp found).1
    · cases read
  · intro inside
    rw [List.getElem?_eq_getElem inside]
    exact ⟨buffer[index], rfl⟩

theorem readU16_inside {buffer : Bytes} {index : Nat}
    (inside : index + 1 < buffer.length) :
    ∃ value, readU16 buffer index = .ok value := by
  obtain ⟨hi, first⟩ :=
    (readByte_eq_ok_iff buffer index).mpr (Nat.lt_of_succ_lt inside)
  obtain ⟨lo, second⟩ := (readByte_eq_ok_iff buffer (index + 1)).mpr inside
  refine ⟨u16 hi lo, ?_⟩
  rw [readU16, first, second]
  rfl

end ServicePortScanner.Data
