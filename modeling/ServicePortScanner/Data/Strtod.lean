import Mathlib.Data.Rat.Defs
import Mathlib.Algebra.Field.Rat
import Mathlib.Data.FinEnum
import Mathlib.Data.List.TakeWhile
import ServicePortScanner.Data.Bytes

namespace ServicePortScanner.Data

/-! `std::strtod` in the "C" locale: the number at the front of a text. -/

/-- What `strtod` reads, before it is rounded to a `double`. -/
inductive Reading where
  | nan
  | infinity (negative : Bool)
  | number (value : ℚ)
  deriving DecidableEq, Repr

/-- `std::isspace` -/
def isSpace (b : UInt8) : Bool :=
  b = 0x20 ∨ (0x09 ≤ b ∧ b ≤ 0x0d)

/-- An optional sign, and the text behind it. -/
def takeSign : Bytes → Bool × Bytes
  | [] => (false, [])
  | b :: rest =>
      if b = 0x2d then (true, rest)
      else if b = 0x2b then (false, rest)
      else (false, b :: rest)

def lower (b : UInt8) : UInt8 :=
  if 0x41 ≤ b ∧ b ≤ 0x5a then b + 0x20 else b

/-- How a number is written: decimal, or hexadecimal with a binary exponent. -/
structure Numerals where
  isDigit : UInt8 → Bool
  digitValue : UInt8 → Nat
  base : Nat
  /-- the letter in front of an exponent -/
  marker : UInt8
  exponentBase : ℚ
  /-- how much of the exponent a digit behind the point stands for -/
  perDigit : Int

namespace Numerals

variable (n : Numerals)

def value (digits : Bytes) : Nat :=
  digits.foldl (fun value b => value * n.base + n.digitValue b) 0

/-- The digits behind a point. -/
def fraction : Bytes → Bytes
  | [] => []
  | b :: rest => if b = 0x2e then rest.takeWhile n.isDigit else []

def behindFraction : Bytes → Bytes
  | [] => []
  | b :: rest =>
      if b = 0x2e then rest.dropWhile n.isDigit else b :: rest

/-- The exponent that a text begins with; zero, where it begins with none. -/
def exponent : Bytes → Int
  | [] => 0
  | b :: rest =>
      if lower b = n.marker then
        let (negative, rest) := takeSign rest
        let value : Int :=
          decimalValue (rest.takeWhile fun b => decide (IsDigit b))
        if negative then -value else value
      else 0

/-- The number that a text begins with. -/
def read (s : Bytes) : Option ℚ :=
  let whole := s.takeWhile n.isDigit
  let rest := s.dropWhile n.isDigit
  let fraction := n.fraction rest
  if whole.isEmpty ∧ fraction.isEmpty then none
  else
    some (n.value (whole ++ fraction) *
      n.exponentBase ^ (n.exponent (n.behindFraction rest) -
        n.perDigit * fraction.length))

end Numerals

def decimalNumerals : Numerals where
  isDigit b := decide (IsDigit b)
  digitValue := digitValue
  base := 10
  marker := 0x65
  exponentBase := 10
  perDigit := 1

def hexNumerals : Numerals where
  isDigit b := decide (IsDigit b) || decide (0x61 ≤ lower b ∧ lower b ≤ 0x66)
  digitValue b := if IsDigit b then b.toNat - 48 else (lower b).toNat - 87
  base := 16
  marker := 0x70
  exponentBase := 2
  perDigit := 4

/-- The text behind `0x`. -/
def hexText : Bytes → Option Bytes
  | b :: c :: rest => if b = 0x30 ∧ lower c = 0x78 then some rest else none
  | _ => none

/-- A `0x` without hexadecimal digits is the number zero. -/
def readNumber (s : Bytes) : Option ℚ :=
  match (hexText s).bind hexNumerals.read with
  | some value => some value
  | none => decimalNumerals.read s

/-- The number behind a sign. -/
def readUnsigned (negative : Bool) (text : Bytes) : Option Reading :=
  if (text.take 3).map lower = bytes "inf" then some (.infinity negative)
  else if (text.take 3).map lower = bytes "nan" then some .nan
  else
    (readNumber text).map fun value =>
      .number (if negative then -value else value)

/-- The text in which a number is looked for. -/
def numberText (s : Bytes) : Bytes :=
  (s.takeWhile (· ≠ 0)).dropWhile isSpace

/-- None, where no number stands at the front. -/
def strtod (s : Bytes) : Option Reading :=
  let signed := takeSign (numberText s)
  readUnsigned signed.1 signed.2

/-! Decimal numbers as they are written. -/

inductive Sign where
  | none
  | plus
  | minus
  deriving DecidableEq, Repr

namespace Sign

def text : Sign → Bytes
  | none => []
  | plus => [0x2b]
  | minus => [0x2d]

def negative : Sign → Bool
  | minus => true
  | _ => false

end Sign

structure Exponent where
  marker : UInt8
  sign : Sign
  digits : Bytes
  isMarker : lower marker = 0x65
  areDigits : ∀ b ∈ digits, IsDigit b
  nonempty : digits ≠ []

namespace Exponent

def text (e : Exponent) : Bytes :=
  e.marker :: (e.sign.text ++ e.digits)

def value (e : Exponent) : Int :=
  if e.sign.negative then -(decimalValue e.digits : Int)
  else decimalValue e.digits

end Exponent

structure Decimal where
  sign : Sign
  whole : Bytes
  /-- the digits behind a point -/
  fraction : Option Bytes
  exponent : Option Exponent
  wholeDigits : ∀ b ∈ whole, IsDigit b
  fractionDigits : ∀ b ∈ fraction.getD [], IsDigit b
  nonempty : whole ++ fraction.getD [] ≠ []

namespace Decimal

variable (d : Decimal)

def point : Bytes :=
  match d.fraction with
  | some digits => 0x2e :: digits
  | none => []

def exponentText : Bytes :=
  match d.exponent with
  | some e => e.text
  | none => []

def unsigned : Bytes :=
  d.whole ++ (d.point ++ d.exponentText)

def text : Bytes :=
  d.sign.text ++ d.unsigned

def exponentValue : Int :=
  match d.exponent with
  | some e => e.value
  | none => 0

def magnitude : ℚ :=
  decimalValue (d.whole ++ d.fraction.getD []) *
    10 ^ (d.exponentValue - (d.fraction.getD []).length)

def value : ℚ :=
  if d.sign.negative then -d.magnitude else d.magnitude

end Decimal

/-! The front of a text up to the first byte that does not belong to it. -/

theorem takeWhile_append_stop {p : UInt8 → Bool} {front rest : Bytes}
    (all : ∀ b ∈ front, p b = true) (stop : ∀ b ∈ rest.head?, p b = false) :
    (front ++ rest).takeWhile p = front ∧
      (front ++ rest).dropWhile p = rest := by
  rw [List.takeWhile_append_of_pos all, List.dropWhile_append_of_pos all]
  cases rest with
  | nil => exact ⟨List.append_nil front, rfl⟩
  | cons b rest =>
      have no := stop b rfl
      rw [List.takeWhile_cons, List.dropWhile_cons, no]
      exact ⟨List.append_nil front, rfl⟩

/-- The bytes that can stand in a decimal number. -/
def InDecimal (b : UInt8) : Prop :=
  IsDigit b ∨ b = 0x2e ∨ lower b = 0x65 ∨ b = 0x2b ∨ b = 0x2d

instance (b : UInt8) : Decidable (InDecimal b) :=
  inferInstanceAs (Decidable (_ ∨ _))

theorem inDecimal_spec : ∀ b, InDecimal b →
    b ≠ 0 ∧ isSpace b = false ∧ lower b ≠ 0x78 := by
  decide +kernel

theorem isSpace_spec : ∀ b, isSpace b = true →
    b ≠ 0 ∧ ¬ IsDigit b ∧ b ≠ 0x2e ∧ lower b ≠ 0x65 ∧ lower b ≠ 0x78 := by
  decide +kernel

theorem digitOrPoint_spec : ∀ b, IsDigit b ∨ b = 0x2e →
    b ≠ 0x2b ∧ b ≠ 0x2d ∧ lower b ≠ 0x69 ∧ lower b ≠ 0x6e := by
  decide +kernel

theorem marker_spec : ∀ b, lower b = 0x65 → ¬ IsDigit b ∧ b ≠ 0x2e := by
  decide +kernel

theorem Sign.inDecimal_of_mem (sign : Sign) {b : UInt8}
    (member : b ∈ sign.text) : InDecimal b := by
  cases sign with
  | none => cases member
  | plus =>
      rw [List.mem_singleton.mp member]
      decide
  | minus =>
      rw [List.mem_singleton.mp member]
      decide

theorem takeSign_text (sign : Sign) {rest : Bytes}
    (stop : ∀ b ∈ rest.head?, b ≠ 0x2b ∧ b ≠ 0x2d) :
    takeSign (sign.text ++ rest) = (sign.negative, rest) := by
  cases sign with
  | none =>
      cases rest with
      | nil => rfl
      | cons b rest =>
          obtain ⟨notPlus, notMinus⟩ := stop b rfl
          change takeSign (b :: rest) = _
          rw [takeSign, if_neg notMinus, if_neg notPlus]
          rfl
  | plus => rfl
  | minus => rfl

theorem decimalNumerals_value (digits : Bytes) :
    decimalNumerals.value digits = decimalValue digits := rfl

namespace Decimal

variable (d : Decimal)

/-- Behind the digits and the point comes an exponent, a blank, or nothing. -/
theorem exponentText_stops {blanks : Bytes}
    (spaces : ∀ b ∈ blanks, isSpace b = true) :
    ∀ b ∈ (d.exponentText ++ blanks).head?, ¬ IsDigit b ∧ b ≠ 0x2e := by
  intro b head
  unfold exponentText at head
  cases exponent : d.exponent with
  | none =>
      rw [exponent] at head
      obtain ⟨_, notDigit, notPoint, _⟩ :=
        isSpace_spec b (spaces b (List.mem_of_mem_head? head))
      exact ⟨notDigit, notPoint⟩
  | some e =>
      rw [exponent] at head
      cases head
      exact marker_spec _ e.isMarker

theorem read_exponent {blanks : Bytes}
    (spaces : ∀ b ∈ blanks, isSpace b = true) :
    decimalNumerals.exponent (d.exponentText ++ blanks) = d.exponentValue := by
  unfold exponentText exponentValue
  cases d.exponent with
  | none =>
      cases blanks with
      | nil => rfl
      | cons b blanks =>
          obtain ⟨_, _, _, notMarker, _⟩ :=
            isSpace_spec b (spaces b List.mem_cons_self)
          exact if_neg notMarker
  | some e =>
      have stop : ∀ b ∈ blanks.head?, decide (IsDigit b) = false := by
        intro b head
        obtain ⟨_, notDigit, _⟩ :=
          isSpace_spec b (spaces b (List.mem_of_mem_head? head))
        exact decide_eq_false notDigit
      have digits : ∀ b ∈ e.digits, decide (IsDigit b) = true :=
        fun b member => decide_eq_true (e.areDigits b member)
      have signed : takeSign (e.sign.text ++ (e.digits ++ blanks)) =
          (e.sign.negative, e.digits ++ blanks) := by
        apply takeSign_text
        intro b head
        have member := List.mem_of_mem_head? ((List.head?_append_of_ne_nil _
          e.nonempty).symm.trans head)
        obtain ⟨notPlus, notMinus, _⟩ :=
          digitOrPoint_spec b (.inl (e.areDigits b member))
        exact ⟨notPlus, notMinus⟩
      have split : e.text ++ blanks =
          e.marker :: (e.sign.text ++ (e.digits ++ blanks)) := by
        simp [Exponent.text]
      have isMarker : lower e.marker = decimalNumerals.marker := e.isMarker
      change decimalNumerals.exponent (e.text ++ blanks) = e.value
      rw [split, Numerals.exponent, if_pos isMarker, signed]
      dsimp only
      rw [(takeWhile_append_stop digits stop).1]
      rfl

theorem point_stops {blanks : Bytes}
    (spaces : ∀ b ∈ blanks, isSpace b = true) :
    ∀ b ∈ (d.point ++ (d.exponentText ++ blanks)).head?,
      decimalNumerals.isDigit b = false := by
  intro b head
  unfold point at head
  cases fraction : d.fraction with
  | none =>
      rw [fraction] at head
      exact decide_eq_false (d.exponentText_stops spaces b head).1
  | some digits =>
      rw [fraction] at head
      cases head
      decide

theorem read_point {blanks : Bytes}
    (spaces : ∀ b ∈ blanks, isSpace b = true) :
    decimalNumerals.fraction (d.point ++ (d.exponentText ++ blanks)) =
        d.fraction.getD [] ∧
      decimalNumerals.behindFraction
          (d.point ++ (d.exponentText ++ blanks)) =
        d.exponentText ++ blanks := by
  have stops := d.exponentText_stops spaces
  unfold point
  cases fraction : d.fraction with
  | none =>
      rw [List.nil_append]
      cases tail : d.exponentText ++ blanks with
      | nil => exact ⟨rfl, rfl⟩
      | cons b tail =>
          rw [tail] at stops
          have notPoint := (stops b rfl).2
          exact ⟨if_neg notPoint, if_neg notPoint⟩
  | some digits =>
      have areDigits : ∀ b ∈ digits, decimalNumerals.isDigit b = true := by
        intro b member
        have inFraction := d.fractionDigits b
        rw [fraction] at inFraction
        exact decide_eq_true (inFraction member)
      exact takeWhile_append_stop areDigits fun b head =>
        decide_eq_false (stops b head).1

/-- The scanner reads a number as a whole when only blanks follow it. -/
theorem read_unsigned {blanks : Bytes}
    (spaces : ∀ b ∈ blanks, isSpace b = true) :
    decimalNumerals.read (d.unsigned ++ blanks) = some d.magnitude := by
  have wholeDigits : ∀ b ∈ d.whole, decimalNumerals.isDigit b = true :=
    fun b member => decide_eq_true (d.wholeDigits b member)
  have split : d.unsigned ++ blanks =
      d.whole ++ (d.point ++ (d.exponentText ++ blanks)) := by
    simp [unsigned]
  obtain ⟨whole, rest⟩ :=
    takeWhile_append_stop wholeDigits (d.point_stops spaces)
  obtain ⟨fraction, behind⟩ := d.read_point spaces
  have some : ¬ (d.whole.isEmpty = true ∧
      (d.fraction.getD []).isEmpty = true) := by
    rintro ⟨noWhole, noFraction⟩
    apply d.nonempty
    rw [List.isEmpty_iff.mp noWhole, List.isEmpty_iff.mp noFraction]
    rfl
  rw [split, Numerals.read, whole, rest]
  simp only [fraction, behind, if_neg some, d.read_exponent spaces,
    decimalNumerals_value]
  simp [magnitude, decimalNumerals]

theorem inDecimal_of_mem_unsigned {b : UInt8} (member : b ∈ d.unsigned) :
    InDecimal b := by
  rcases List.mem_append.mp member with inWhole | behind
  · exact .inl (d.wholeDigits b inWhole)
  · rcases List.mem_append.mp behind with inPoint | inExponent
    · unfold point at inPoint
      cases fraction : d.fraction with
      | none => simp [fraction] at inPoint
      | some digits =>
          rw [fraction] at inPoint
          rcases List.mem_cons.mp inPoint with point | inDigits
          · exact .inr (.inl point)
          · have digit := d.fractionDigits b
            rw [fraction] at digit
            exact .inl (digit inDigits)
    · unfold exponentText at inExponent
      cases exponent : d.exponent with
      | none => simp [exponent] at inExponent
      | some e =>
          rw [exponent] at inExponent
          rcases List.mem_cons.mp inExponent with rfl | inDigits
          · exact .inr (.inr (.inl e.isMarker))
          · rcases List.mem_append.mp inDigits with inSign | inDigits
            · exact e.sign.inDecimal_of_mem inSign
            · exact .inl (e.areDigits b inDigits)

theorem inDecimal_of_mem_text {b : UInt8} (member : b ∈ d.text) :
    InDecimal b := by
  rcases List.mem_append.mp member with inSign | inside
  · exact d.sign.inDecimal_of_mem inSign
  · exact d.inDecimal_of_mem_unsigned inside

theorem unsigned_head : ∃ b rest, d.unsigned = b :: rest ∧
    (IsDigit b ∨ b = 0x2e) := by
  unfold unsigned point
  cases whole : d.whole with
  | cons b rest =>
      have digit := d.wholeDigits b (by rw [whole]; exact List.mem_cons_self)
      exact ⟨b, _, rfl, .inl digit⟩
  | nil =>
      cases fraction : d.fraction with
      | none =>
          have nonempty := d.nonempty
          rw [whole, fraction] at nonempty
          exact absurd rfl nonempty
      | some digits => exact ⟨0x2e, _, rfl, .inr rfl⟩

theorem hexText_unsigned {blanks : Bytes}
    (spaces : ∀ b ∈ blanks, isSpace b = true) :
    hexText (d.unsigned ++ blanks) = none := by
  have noX : ∀ b ∈ d.unsigned ++ blanks, lower b ≠ 0x78 := by
    intro b member
    rcases List.mem_append.mp member with inside | blank
    · exact (inDecimal_spec b (d.inDecimal_of_mem_unsigned inside)).2.2
    · exact (isSpace_spec b (spaces b blank)).2.2.2.2
  unfold hexText
  split
  · next b c rest shape =>
      rw [shape] at noX
      apply if_neg
      intro x
      exact noX c (List.mem_cons_of_mem b List.mem_cons_self) x.2
  · rfl

end Decimal

/-! The two sides of `strtod`: what it accepts, and what it reads in a number
that stands alone. -/

/-- A decimal number, with nothing but blanks around it. -/
def IsDecimalField (field : Bytes) (d : Decimal) : Prop :=
  ∃ front back, field = front ++ (d.text ++ back) ∧
    (∀ b ∈ front, isSpace b = true) ∧ ∀ b ∈ back, isSpace b = true

theorem dropWhile_eq_self {p : UInt8 → Bool} {s : Bytes}
    (stop : ∀ b ∈ s.head?, p b = false) : s.dropWhile p = s :=
  (takeWhile_append_stop (List.forall_mem_nil _) stop).2

theorem takeWhile_eq_self {p : UInt8 → Bool} {s : Bytes}
    (all : ∀ b ∈ s, p b = true) : s.takeWhile p = s := by
  have split := @takeWhile_append_stop _ _ [] all (by simp)
  rw [List.append_nil] at split
  exact split.1

theorem numberText_append {blanks text : Bytes}
    (spaces : ∀ b ∈ blanks, isSpace b = true) :
    numberText (blanks ++ text) = numberText text := by
  have noNul : ∀ b ∈ blanks, decide (b ≠ 0) = true := by
    intro b member
    exact decide_eq_true (isSpace_spec b (spaces b member)).1
  unfold numberText
  rw [List.takeWhile_append_of_pos noNul, List.dropWhile_append_of_pos spaces]

theorem numberText_eq_self {text : Bytes} (noNul : ∀ b ∈ text, b ≠ 0)
    (front : ∀ b ∈ text.head?, isSpace b = false) : numberText text = text := by
  have whole : text.takeWhile (· ≠ 0) = text := by
    apply takeWhile_eq_self
    intro b member
    exact decide_eq_true (noNul b member)
  unfold numberText
  rw [whole]
  exact dropWhile_eq_self front

/-- A decimal number is read as what it says. -/
theorem strtod_decimalField {field : Bytes} {d : Decimal}
    (isDecimal : IsDecimalField field d) :
    strtod field = some (.number d.value) := by
  obtain ⟨front, back, rfl, spaces, spaces'⟩ := isDecimal
  obtain ⟨b, rest, shape, first⟩ := d.unsigned_head
  obtain ⟨notPlus, notMinus, notI, notN⟩ := digitOrPoint_spec b first
  have noNul : ∀ c ∈ d.text ++ back, c ≠ 0 := by
    intro c member
    rcases List.mem_append.mp member with inside | blank
    · exact (inDecimal_spec c (d.inDecimal_of_mem_text inside)).1
    · exact (isSpace_spec c (spaces' c blank)).1
  have nonempty : d.text ≠ [] := by
    simp [Decimal.text, shape]
  have noBlank : ∀ c ∈ (d.text ++ back).head?, isSpace c = false := by
    intro c head
    rw [List.head?_append_of_ne_nil _ nonempty] at head
    have inside := d.inDecimal_of_mem_text (List.mem_of_mem_head? head)
    exact (inDecimal_spec c inside).2.1
  have signed : takeSign (d.text ++ back) =
      (d.sign.negative, d.unsigned ++ back) := by
    rw [Decimal.text, List.append_assoc]
    apply takeSign_text
    intro c head
    rw [shape] at head
    cases head
    exact ⟨notPlus, notMinus⟩
  have notWord (word : Bytes) (letter : UInt8) (tail : Bytes)
      (other : lower b ≠ letter) (shape' : word = letter :: tail) :
      ¬ ((d.unsigned ++ back).take 3).map lower = word := by
    rw [shape, shape']
    intro same
    exact other (List.cons.inj same).1
  have number : readNumber (d.unsigned ++ back) = some d.magnitude := by
    rw [readNumber, d.hexText_unsigned spaces', Option.bind_none]
    exact d.read_unsigned spaces'
  rw [strtod, numberText_append spaces, numberText_eq_self noNul noBlank,
    signed]
  dsimp only
  rw [readUnsigned, if_neg (notWord _ 0x69 (bytes "nf") notI (by decide)),
    if_neg (notWord _ 0x6e (bytes "an") notN (by decide)), number]
  rfl

/-- What a number can begin with, behind its sign. -/
def OpensNumeral (front : Bytes) : Prop :=
  (∃ b, front = [b] ∧ IsDigit b) ∨ (∃ b, front = [0x2e, b] ∧ IsDigit b) ∨
    front.map lower = bytes "inf" ∨ front.map lower = bytes "nan"

/-- A number stands at the front of the field, whatever comes behind it. -/
def BeginsNumber (field : Bytes) : Prop :=
  ∃ (blanks : Bytes) (sign : Sign) (front rest : Bytes),
    field = blanks ++ (sign.text ++ (front ++ rest)) ∧
    (∀ b ∈ blanks, isSpace b = true) ∧ OpensNumeral front

theorem letter_spec : ∀ b,
    lower b = 0x69 ∨ lower b = 0x6e ∨ lower b = 0x66 ∨ lower b = 0x61 →
    b ≠ 0 ∧ isSpace b = false ∧ b ≠ 0x2b ∧ b ≠ 0x2d := by
  decide +kernel

theorem digit_spec : ∀ b, IsDigit b ∨ b = 0x2e →
    b ≠ 0 ∧ isSpace b = false ∧ b ≠ 0x2b ∧ b ≠ 0x2d := by
  decide +kernel

theorem OpensNumeral.bytes_spec {front : Bytes} (opens : OpensNumeral front) :
    front ≠ [] ∧ ∀ b ∈ front,
      b ≠ 0 ∧ isSpace b = false ∧ b ≠ 0x2b ∧ b ≠ 0x2d := by
  have word (letters : Bytes) (same : front.map lower = letters)
      (nonempty : letters ≠ [])
      (inWord : ∀ c ∈ letters, c = 0x69 ∨ c = 0x6e ∨ c = 0x66 ∨ c = 0x61) :
      front ≠ [] ∧ ∀ b ∈ front,
        b ≠ 0 ∧ isSpace b = false ∧ b ≠ 0x2b ∧ b ≠ 0x2d := by
    constructor
    · rintro rfl
      exact nonempty same.symm
    · intro b member
      apply letter_spec b
      apply inWord
      rw [← same]
      exact List.mem_map_of_mem member
  rcases opens with ⟨b, rfl, digit⟩ | ⟨b, rfl, digit⟩ | inf | nan
  · refine ⟨List.cons_ne_nil _ _, ?_⟩
    rw [List.forall_mem_singleton]
    exact digit_spec b (.inl digit)
  · refine ⟨List.cons_ne_nil _ _, ?_⟩
    rw [List.forall_mem_cons, List.forall_mem_singleton]
    exact ⟨digit_spec 0x2e (.inr rfl), digit_spec b (.inl digit)⟩
  · exact word _ inf (by decide) (by decide)
  · exact word _ nan (by decide) (by decide)

theorem takeSign_split (s : Bytes) :
    ∃ sign : Sign, s = sign.text ++ (takeSign s).2 ∧
      (takeSign s).1 = sign.negative := by
  cases s with
  | nil => exact ⟨.none, rfl, rfl⟩
  | cons b rest =>
      rw [takeSign]
      split
      · next minus => exact ⟨.minus, by rw [minus]; rfl, rfl⟩
      · split
        · next plus => exact ⟨.plus, by rw [plus]; rfl, rfl⟩
        · exact ⟨.none, rfl, rfl⟩

theorem numberText_split (s : Bytes) :
    ∃ blanks rest, s = blanks ++ (numberText s ++ rest) ∧
      ∀ b ∈ blanks, isSpace b = true := by
  refine ⟨(s.takeWhile (· ≠ 0)).takeWhile isSpace, s.dropWhile (· ≠ 0), ?_, ?_⟩
  · rw [numberText, ← List.append_assoc, List.takeWhile_append_dropWhile,
      List.takeWhile_append_dropWhile]
  · intro b member
    exact List.mem_takeWhile_imp member

theorem Numerals.read_isSome_iff (n : Numerals) (s : Bytes) :
    (n.read s).isSome = true ↔
      s.takeWhile n.isDigit ≠ [] ∨ n.fraction (s.dropWhile n.isDigit) ≠ [] := by
  unfold Numerals.read
  simp only [List.isEmpty_iff]
  split
  · next none =>
      rw [none.1, none.2]
      simp
  · next some =>
      rw [not_and_or] at some
      exact iff_of_true rfl some

theorem decimal_read_isSome_iff (s : Bytes) :
    (decimalNumerals.read s).isSome = true ↔
      (∃ b rest, s = b :: rest ∧ IsDigit b) ∨
        ∃ b rest, s = 0x2e :: b :: rest ∧ IsDigit b := by
  rw [Numerals.read_isSome_iff]
  have isDigit (b : UInt8) : decimalNumerals.isDigit b = decide (IsDigit b) :=
    rfl
  cases s with
  | nil => simp [Numerals.fraction]
  | cons b rest =>
      rw [List.takeWhile_cons, List.dropWhile_cons, isDigit]
      by_cases digit : IsDigit b
      · simp [digit]
      · simp only [digit, decide_false, Numerals.fraction]
        by_cases point : b = 0x2e
        · subst point
          cases rest with
          | nil => simp [digit]
          | cons c rest =>
              by_cases digit' : IsDigit c
              · simp [digit', isDigit]
              · simp [digit, digit', isDigit]
        · simp [point, digit]

theorem readNumber_isSome_iff (text : Bytes) :
    (readNumber text).isSome = true ↔
      (decimalNumerals.read text).isSome = true := by
  unfold readNumber
  split
  · next value hex =>
      refine iff_of_true rfl ?_
      rw [decimal_read_isSome_iff]
      obtain ⟨rest, isHex, _⟩ := Option.bind_eq_some_iff.mp hex
      unfold hexText at isHex
      split at isHex
      · next b c rest' =>
          obtain ⟨⟨rfl, _⟩, _⟩ := Option.ite_none_right_eq_some.mp isHex
          exact .inl ⟨0x30, c :: rest', rfl, by decide⟩
      · cases isHex
  · exact Iff.rfl

theorem readUnsigned_isSome_iff (negative : Bool) (text : Bytes) :
    (readUnsigned negative text).isSome = true ↔
      ∃ front rest, text = front ++ rest ∧ OpensNumeral front := by
  have cut := text.take_append_drop 3
  have word {front rest letters : Bytes} (shape : text = front ++ rest)
      (same : front.map lower = letters) (three : letters.length = 3) :
      (text.take 3).map lower = letters := by
    have length : front.length = 3 := by
      rw [← three, ← same, List.length_map]
    rw [shape, List.take_left' length, same]
  unfold readUnsigned
  split
  · next inf =>
      exact iff_of_true rfl ⟨_, _, cut.symm, .inr (.inr (.inl inf))⟩
  · next notInf =>
      split
      · next nan =>
          exact iff_of_true rfl ⟨_, _, cut.symm, .inr (.inr (.inr nan))⟩
      · next notNan =>
          rw [Option.isSome_map, readNumber_isSome_iff,
            decimal_read_isSome_iff]
          constructor
          · rintro (⟨b, rest, rfl, digit⟩ | ⟨b, rest, rfl, digit⟩)
            · exact ⟨[b], rest, rfl, .inl ⟨b, rfl, digit⟩⟩
            · exact ⟨[0x2e, b], rest, rfl, .inr (.inl ⟨b, rfl, digit⟩)⟩
          · rintro ⟨front, rest, shape, ⟨b, rfl, digit⟩ | ⟨b, rfl, digit⟩ |
              inf | nan⟩
            · exact .inl ⟨b, rest, shape, digit⟩
            · exact .inr ⟨b, rest, shape, digit⟩
            · exact absurd (word shape inf (by decide)) notInf
            · exact absurd (word shape nan (by decide)) notNan

/-- A number is read wherever one stands at the front. -/
theorem strtod_isSome_iff (field : Bytes) :
    (strtod field).isSome = true ↔ BeginsNumber field := by
  rw [strtod, readUnsigned_isSome_iff]
  constructor
  · rintro ⟨front, rest, shape, opens⟩
    obtain ⟨blanks, behind, split, spaces⟩ := numberText_split field
    obtain ⟨sign, signed, _⟩ := takeSign_split (numberText field)
    refine ⟨blanks, sign, front, rest ++ behind, ?_, spaces, opens⟩
    rw [split, signed, shape]
    simp
  · rintro ⟨blanks, sign, front, rest, rfl, spaces, opens⟩
    obtain ⟨nonempty, each⟩ := opens.bytes_spec
    refine ⟨front, rest.takeWhile (· ≠ 0), ?_, opens⟩
    have head {b : UInt8} {tail : Bytes} (isHead : b ∈ (front ++ tail).head?) :
        b ∈ front := by
      rw [List.head?_append_of_ne_nil _ nonempty] at isHead
      exact List.mem_of_mem_head? isHead
    have kept : (sign.text ++ (front ++ rest)).takeWhile (· ≠ 0) =
        sign.text ++ (front ++ rest.takeWhile (· ≠ 0)) := by
      rw [List.takeWhile_append_of_pos, List.takeWhile_append_of_pos]
      · intro b member
        exact decide_eq_true (each b member).1
      · intro b member
        exact decide_eq_true
          (inDecimal_spec b (sign.inDecimal_of_mem member)).1
    have noBlank : ∀ b ∈ (sign.text ++
        (front ++ rest.takeWhile (· ≠ 0))).head?, isSpace b = false := by
      intro b isHead
      cases sign with
      | none => exact (each b (head isHead)).2.1
      | plus => cases isHead; decide
      | minus => cases isHead; decide
    have text : numberText (sign.text ++ (front ++ rest)) =
        sign.text ++ (front ++ rest.takeWhile (· ≠ 0)) := by
      rw [numberText, kept]
      exact dropWhile_eq_self noBlank
    rw [numberText_append spaces, text, takeSign_text]
    intro b isHead
    exact (each b (head isHead)).2.2

theorem beginsNumber_iff (field : Bytes) :
    BeginsNumber field ↔ ∃ reading, strtod field = some reading := by
  rw [← strtod_isSome_iff, Option.isSome_iff_exists]

end ServicePortScanner.Data
