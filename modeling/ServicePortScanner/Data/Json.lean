import ServicePortScanner.Data.Bytes

namespace ServicePortScanner.Data.Json

/-! JSON texts read byte by byte, with a stack for what is still open.  Bytes
from 0x80 on are ordinary characters of strings. -/

/-- A number is kept as it is written. -/
inductive Value where
  | null
  | boolean (value : Bool)
  | number (lexeme : Bytes)
  | string (text : Bytes)
  | array (items : List Value)
  | object (members : List (Bytes × Value))
  deriving Repr

/-! Numbers. -/

inductive NumberState where
  | start
  | minus
  | zero
  | whole
  | point
  | fraction
  | exponent
  | exponentSign
  | exponentDigits
  deriving DecidableEq, Repr

def wholePart (b : UInt8) : Option NumberState :=
  if b = 0x30 then some .zero else if IsDigit b then some .whole else none

/-- A point or an exponent may follow. -/
def pointOrExponent (b : UInt8) : Option NumberState :=
  if b = 0x2e then some .point
  else if b = 0x65 ∨ b = 0x45 then some .exponent
  else none

def exponentPart (b : UInt8) : Option NumberState :=
  if b = 0x65 ∨ b = 0x45 then some .exponent else none

def digitsThen (state : NumberState) (b : UInt8)
    (other : Option NumberState) : Option NumberState :=
  if IsDigit b then some state else other

def numberStep (state : NumberState) (b : UInt8) : Option NumberState :=
  match state with
  | .start => if b = 0x2d then some .minus else wholePart b
  | .minus => wholePart b
  | .zero => pointOrExponent b
  | .whole => digitsThen .whole b (pointOrExponent b)
  | .point => digitsThen .fraction b none
  | .fraction => digitsThen .fraction b (exponentPart b)
  | .exponent =>
      if b = 0x2b ∨ b = 0x2d then some .exponentSign
      else digitsThen .exponentDigits b none
  | .exponentSign => digitsThen .exponentDigits b none
  | .exponentDigits => digitsThen .exponentDigits b none

def NumberState.accepts : NumberState → Bool
  | .zero | .whole | .fraction | .exponentDigits => true
  | _ => false

def numberRun (state : NumberState) : Bytes → Option NumberState
  | [] => some state
  | b :: rest =>
      match numberStep state b with
      | some next => numberRun next rest
      | none => none

def IsNumber (lexeme : Bytes) : Prop :=
  (numberRun .start lexeme).any NumberState.accepts = true

instance (lexeme : Bytes) : Decidable (IsNumber lexeme) :=
  inferInstanceAs (Decidable (_ = _))

theorem numberRun_append (state : NumberState) (first second : Bytes) :
    numberRun state (first ++ second) =
      (numberRun state first).bind fun next => numberRun next second := by
  induction first generalizing state with
  | nil => rfl
  | cons b first induction =>
      simp only [List.cons_append, numberRun]
      cases numberStep state b with
      | none => rfl
      | some next => exact induction next

theorem numberRun_decimal {n : Nat} (positive : 0 < n) :
    numberRun .start (decimal n) = some .whole ∧
      numberRun .minus (decimal n) = some .whole := by
  induction n using Nat.strongRecOn with
  | ind n induction =>
      by_cases small : n < 10
      · have each : ∀ k, k < 10 → 0 < k →
            numberRun .start (decimal k) = some .whole ∧
              numberRun .minus (decimal k) = some .whole := by decide
        exact each n small positive
      · obtain ⟨start, minus⟩ := induction (n / 10) (by omega) (by omega)
        have digit : IsDigit (n % 10).digitChar.toUInt8 :=
          isDigit_digitChar (by omega)
        rw [decimal_of_le (by omega), numberRun_append, numberRun_append, start,
          minus]
        simp [numberRun, numberStep, digitsThen, digit]

theorem isNumber_decimal (n : Nat) : IsNumber (decimal n) := by
  rcases Nat.eq_zero_or_pos n with rfl | positive
  · decide
  · simp [IsNumber, numberRun_decimal positive, NumberState.accepts]

theorem isNumber_decimalInt (z : Int) : IsNumber (decimalInt z) := by
  cases z with
  | ofNat n => exact isNumber_decimal n
  | negSucc n =>
      have body : numberRun .minus (decimal (n + 1)) = some .whole :=
        (numberRun_decimal (by omega)).2
      have sign : numberStep .start 0x2d = some .minus := rfl
      simp [IsNumber, decimalInt, numberRun, sign, body, NumberState.accepts]

/-! Escapes. -/

def codePointBytes (n : Nat) : Bytes :=
  if n < 0x80 then [UInt8.ofNat n]
  else if n < 0x800 then
    [UInt8.ofNat (0xc0 + n / 0x40), UInt8.ofNat (0x80 + n % 0x40)]
  else if n < 0x10000 then
    [UInt8.ofNat (0xe0 + n / 0x1000), UInt8.ofNat (0x80 + n / 0x40 % 0x40),
      UInt8.ofNat (0x80 + n % 0x40)]
  else
    [UInt8.ofNat (0xf0 + n / 0x40000), UInt8.ofNat (0x80 + n / 0x1000 % 0x40),
      UInt8.ofNat (0x80 + n / 0x40 % 0x40), UInt8.ofNat (0x80 + n % 0x40)]

def hexDigit? (b : UInt8) : Option Nat :=
  if IsDigit b then some (b.toNat - 0x30)
  else if 0x61 ≤ b ∧ b ≤ 0x66 then some (b.toNat - 0x61 + 10)
  else if 0x41 ≤ b ∧ b ≤ 0x46 then some (b.toNat - 0x41 + 10)
  else none

def shortEscape? (b : UInt8) : Option UInt8 :=
  if b = 0x22 ∨ b = 0x5c ∨ b = 0x2f then some b
  else if b = 0x62 then some 0x08
  else if b = 0x66 then some 0x0c
  else if b = 0x6e then some 0x0a
  else if b = 0x72 then some 0x0d
  else if b = 0x74 then some 0x09
  else none

def IsHighSurrogate (unit : Nat) : Prop := 0xd800 ≤ unit ∧ unit < 0xdc00
def IsLowSurrogate (unit : Nat) : Prop := 0xdc00 ≤ unit ∧ unit < 0xe000

instance (unit : Nat) : Decidable (IsHighSurrogate unit) :=
  inferInstanceAs (Decidable (_ ∧ _))

instance (unit : Nat) : Decidable (IsLowSurrogate unit) :=
  inferInstanceAs (Decidable (_ ∧ _))

/-- The text of a string so far.  A high surrogate waits for what follows. -/
structure Partial where
  text : Bytes
  high : Option Nat := none
  deriving DecidableEq, Repr

namespace Partial

def flushed (partialText : Partial) : Bytes :=
  match partialText.high with
  | none => partialText.text
  | some high => partialText.text ++ codePointBytes high

def push (partialText : Partial) (b : UInt8) : Partial where
  text := partialText.flushed ++ [b]

def pushUnit (partialText : Partial) (unit : Nat) : Partial :=
  match partialText.high with
  | some high =>
      if IsLowSurrogate unit then
        { text := partialText.text ++
            codePointBytes (0x10000 + (high - 0xd800) * 0x400 + (unit - 0xdc00)) }
      else if IsHighSurrogate unit then
        { text := partialText.flushed, high := some unit }
      else { text := partialText.flushed ++ codePointBytes unit }
  | none =>
      if IsHighSurrogate unit then { partialText with high := some unit }
      else { text := partialText.text ++ codePointBytes unit }

end Partial

/-! The machine. -/

inductive Use where
  | value
  | key (members : List (Bytes × Value))

inductive Mode where
  | value
  | firstItem
  | firstKey
  | key (members : List (Bytes × Value))
  | inString (use : Use) (read : Partial)
  | escape (use : Use) (read : Partial)
  | hex (use : Use) (read : Partial) (digits unit : Nat)
  | colon (members : List (Bytes × Value)) (key : Bytes)
  | number (state : NumberState) (lexeme : Bytes)
  | word (rest : Bytes) (value : Value)
  | done (value : Value)

inductive Frame where
  | items (items : List Value)
  | member (members : List (Bytes × Value)) (key : Bytes)

structure State where
  mode : Mode
  stack : List Frame

def IsBlank (b : UInt8) : Prop :=
  b = 0x20 ∨ b = 0x09 ∨ b = 0x0a ∨ b = 0x0d

instance (b : UInt8) : Decidable (IsBlank b) :=
  inferInstanceAs (Decidable (_ ∨ _))

def beginValue (stack : List Frame) (b : UInt8) : Option State :=
  if IsBlank b then some ⟨.value, stack⟩
  else if b = 0x22 then some ⟨.inString .value { text := [] }, stack⟩
  else if b = 0x5b then some ⟨.firstItem, stack⟩
  else if b = 0x7b then some ⟨.firstKey, stack⟩
  else if b = 0x74 then some ⟨.word (bytes "rue") (.boolean true), stack⟩
  else if b = 0x66 then some ⟨.word (bytes "alse") (.boolean false), stack⟩
  else if b = 0x6e then some ⟨.word (bytes "ull") .null, stack⟩
  else
    match numberStep .start b with
    | some state => some ⟨.number state [b], stack⟩
    | none => none

def afterValue (value : Value) (stack : List Frame) (b : UInt8) :
    Option State :=
  if IsBlank b then some ⟨.done value, stack⟩
  else
    match stack with
    | [] => none
    | .items items :: outer =>
        if b = 0x2c then some ⟨.value, .items (items ++ [value]) :: outer⟩
        else if b = 0x5d then some ⟨.done (.array (items ++ [value])), outer⟩
        else none
    | .member members key :: outer =>
        if b = 0x2c then some ⟨.key (members ++ [(key, value)]), outer⟩
        else if b = 0x7d then
          some ⟨.done (.object (members ++ [(key, value)])), outer⟩
        else none

def beginKey (members : List (Bytes × Value)) (stack : List Frame) (b : UInt8) :
    Option State :=
  if b = 0x22 then some ⟨.inString (.key members) { text := [] }, stack⟩
  else none

def closeString (use : Use) (text : Bytes) : Mode :=
  match use with
  | .value => .done (.string text)
  | .key members => .colon members text

def step (state : State) (b : UInt8) : Option State :=
  match state.mode with
  | .value => beginValue state.stack b
  | .firstItem =>
      if IsBlank b then some state
      else if b = 0x5d then some ⟨.done (.array []), state.stack⟩
      else beginValue (.items [] :: state.stack) b
  | .firstKey =>
      if IsBlank b then some state
      else if b = 0x7d then some ⟨.done (.object []), state.stack⟩
      else beginKey [] state.stack b
  | .key members =>
      if IsBlank b then some state else beginKey members state.stack b
  | .inString use read =>
      if b = 0x22 then some ⟨closeString use read.flushed, state.stack⟩
      else if b = 0x5c then some ⟨.escape use read, state.stack⟩
      else if b < 0x20 then none
      else some ⟨.inString use (read.push b), state.stack⟩
  | .escape use read =>
      if b = 0x75 then some ⟨.hex use read 0 0, state.stack⟩
      else
        match shortEscape? b with
        | some c => some ⟨.inString use (read.push c), state.stack⟩
        | none => none
  | .hex use read digits unit =>
      match hexDigit? b with
      | none => none
      | some digit =>
          if digits = 3 then
            some ⟨.inString use (read.pushUnit (unit * 16 + digit)), state.stack⟩
          else
            some ⟨.hex use read (digits + 1) (unit * 16 + digit), state.stack⟩
  | .colon members key =>
      if IsBlank b then some state
      else if b = 0x3a then some ⟨.value, .member members key :: state.stack⟩
      else none
  | .number number lexeme =>
      match numberStep number b with
      | some next => some ⟨.number next (lexeme ++ [b]), state.stack⟩
      | none =>
          if number.accepts then afterValue (.number lexeme) state.stack b
          else none
  | .word rest value =>
      match rest with
      | [] => none
      | [c] => if b = c then some ⟨.done value, state.stack⟩ else none
      | c :: more => if b = c then some ⟨.word more value, state.stack⟩ else none
  | .done value => afterValue value state.stack b

def run (state : State) : Bytes → Option State
  | [] => some state
  | b :: rest =>
      match step state b with
      | some next => run next rest
      | none => none

def State.result? (state : State) : Option Value :=
  match state.mode, state.stack with
  | .done value, [] => some value
  | _, _ => none

/-- The value of a JSON text.  The line break behind it ends a number. -/
def parse (text : Bytes) : Option Value :=
  (run ⟨.value, []⟩ (text ++ [0x0a])).bind State.result?

theorem run_append (state : State) (first second : Bytes) :
    run state (first ++ second) =
      (run state first).bind fun next => run next second := by
  induction first generalizing state with
  | nil => rfl
  | cons b first induction =>
      simp only [List.cons_append, run]
      cases step state b with
      | none => rfl
      | some next => exact induction next

/-! Whole tokens. -/

theorem run_of_run {state next : State} {text : Bytes}
    (reads : run state text = some next) (rest : Bytes) :
    run state (text ++ rest) = run next rest := by
  rw [run_append, reads]
  rfl

theorem run_number_rest {state final : NumberState} {text : Bytes}
    (reads : numberRun state text = some final) (lexeme : Bytes)
    (stack : List Frame) :
    run ⟨.number state lexeme, stack⟩ text =
      some ⟨.number final (lexeme ++ text), stack⟩ := by
  induction text generalizing state lexeme with
  | nil =>
      cases reads
      simp [run]
  | cons b text induction =>
      simp only [numberRun] at reads
      split at reads
      · next next stepped =>
          simp only [run, step, stepped]
          rw [induction reads]
          simp
      · cases reads

/-- No number goes on with this byte. -/
def EndsNumber (b : UInt8) : Prop :=
  ∀ state, numberStep state b = none

theorem endsNumber_comma : EndsNumber 0x2c := fun state => by
  cases state <;> rfl

theorem endsNumber_newline : EndsNumber 0x0a := fun state => by
  cases state <;> rfl

theorem not_begins_of_numberStep {b : UInt8} {state : NumberState}
    (begins : numberStep .start b = some state) :
    ¬ IsBlank b ∧ b ≠ 0x22 ∧ b ≠ 0x5b ∧ b ≠ 0x7b ∧ b ≠ 0x74 ∧ b ≠ 0x66 ∧
      b ≠ 0x6e := by
  refine ⟨?_, ?_, ?_, ?_, ?_, ?_, ?_⟩
  · rintro (rfl | rfl | rfl | rfl) <;> cases begins
  all_goals
    rintro rfl
    cases begins

theorem run_number {lexeme : Bytes} (isNumber : IsNumber lexeme) {b : UInt8}
    (ends : EndsNumber b) (stack : List Frame) (rest : Bytes) :
    run ⟨.value, stack⟩ (lexeme ++ b :: rest) =
      run ⟨.done (.number lexeme), stack⟩ (b :: rest) := by
  obtain ⟨final, reads, accepts⟩ := (Option.any_eq_true _ _).mp isNumber
  cases lexeme with
  | nil =>
      cases reads
      cases accepts
  | cons first others =>
      simp only [numberRun] at reads
      split at reads
      · next state begins =>
          obtain ⟨notBlank, notQuote, notArray, notObject, notTrue, notFalse,
            notNull⟩ := not_begins_of_numberStep begins
          have opened : step ⟨.value, stack⟩ first =
              some ⟨.number state [first], stack⟩ := by
            simp [step, beginValue, notBlank, notQuote, notArray, notObject,
              notTrue, notFalse, notNull, begins]
          have body := run_of_run (run_number_rest reads [first] stack)
            (b :: rest)
          simp only [List.cons_append, run, opened]
          rw [body]
          simp only [List.singleton_append, run, step, ends final, accepts,
            if_true]
      · cases reads

end ServicePortScanner.Data.Json
