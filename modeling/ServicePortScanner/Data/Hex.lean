import ServicePortScanner.Data.Bytes

namespace ServicePortScanner.Data.Hex

/-! Hexadecimal texts, with two digits for each byte. -/

def IsDigit (c : UInt8) : Prop :=
  (0x30 ≤ c ∧ c ≤ 0x39) ∨ (0x61 ≤ c ∧ c ≤ 0x66) ∨ (0x41 ≤ c ∧ c ≤ 0x46)

instance (c : UInt8) : Decidable (IsDigit c) :=
  inferInstanceAs (Decidable (_ ∨ _ ∨ _))

/-- ASCII letters in lower case. -/
def lower (c : UInt8) : UInt8 :=
  if 0x41 ≤ c ∧ c ≤ 0x5a then c + 0x20 else c

def upper (c : UInt8) : UInt8 :=
  if 0x61 ≤ c ∧ c ≤ 0x7a then c - 0x20 else c

def digit (value : UInt8) : UInt8 :=
  if value < 10 then 0x30 + value else 0x61 + (value - 10)

def high (b : UInt8) : UInt8 := b >>> 4
def low (b : UInt8) : UInt8 := b &&& 0x0f

def pair (b : UInt8) : Bytes :=
  [digit (high b), digit (low b)]

def encode (text : Bytes) : Bytes :=
  text.flatMap pair

/-- A hex text of some bytes, each digit of it in either case. -/
def Spells (hex text : Bytes) : Prop :=
  List.Forall₂ (fun c d => c = d ∨ c = upper d) hex (encode text)

@[simp] theorem encode_nil : encode [] = [] := rfl

@[simp] theorem encode_cons (b : UInt8) (text : Bytes) :
    encode (b :: text) =
      digit (high b) :: digit (low b) :: encode text := rfl

theorem toNat_high (b : UInt8) : (high b).toNat = b.toNat / 16 := by
  rw [high, UInt8.toNat_shiftRight]
  exact Nat.shiftRight_eq_div_pow b.toNat 4

theorem toNat_low (b : UInt8) : (low b).toNat = b.toNat % 16 := by
  rw [low, UInt8.toNat_and]
  exact Nat.and_two_pow_sub_one_eq_mod b.toNat 4

theorem high_lt (b : UInt8) : high b < 16 := by
  have bound := b.toNat_lt
  rw [UInt8.lt_iff_toNat_lt, toNat_high]
  exact Nat.div_lt_of_lt_mul bound

theorem low_lt (b : UInt8) : low b < 16 := by
  rw [UInt8.lt_iff_toNat_lt, toNat_low]
  exact Nat.mod_lt b.toNat (by decide)

theorem lower_eq_digit_iff {c v : UInt8} (small : v < 16) :
    lower c = digit v ↔ c = digit v ∨ c = upper (digit v) := by
  grind [lower, digit, upper]

theorem toNat_join {x y : UInt8} (first : x < 16) (second : y < 16) :
    (x <<< 4 ||| y).toNat = 16 * x.toNat + y.toNat := by
  have bound : x.toNat < 16 := UInt8.lt_iff_toNat_lt.mp first
  have small : y.toNat < 2 ^ 4 := UInt8.lt_iff_toNat_lt.mp second
  have shifted : (x <<< 4).toNat = 2 ^ 4 * x.toNat := by
    rw [UInt8.toNat_shiftLeft]
    simp only [UInt8.reduceToNat, Nat.reduceMod, Nat.shiftLeft_eq]
    omega
  rw [UInt8.toNat_or, shifted, ← Nat.two_pow_add_eq_or_of_lt small]

theorem join_high_low (b : UInt8) : high b <<< 4 ||| low b = b := by
  rw [← UInt8.toNat_inj, toNat_join (high_lt b) (low_lt b), toNat_high,
    toNat_low]
  omega

theorem high_join {x y : UInt8} (first : x < 16) (second : y < 16) :
    high (x <<< 4 ||| y) = x := by
  have small : y.toNat < 16 := UInt8.lt_iff_toNat_lt.mp second
  rw [← UInt8.toNat_inj, toNat_high, toNat_join first second]
  omega

theorem low_join {x y : UInt8} (first : x < 16) (second : y < 16) :
    low (x <<< 4 ||| y) = y := by
  have small : y.toNat < 16 := UInt8.lt_iff_toNat_lt.mp second
  rw [← UInt8.toNat_inj, toNat_low, toNat_join first second]
  omega

theorem length_encode (text : Bytes) :
    (encode text).length = 2 * text.length := by
  induction text with
  | nil => rfl
  | cons b text induction =>
      rw [encode_cons, List.length_cons, List.length_cons, induction,
        List.length_cons, Nat.mul_succ]

theorem mem_encode {d : UInt8} {text : Bytes} (member : d ∈ encode text) :
    ∃ v, v < 16 ∧ d = digit v := by
  obtain ⟨b, _, inPair⟩ := List.mem_flatMap.mp member
  rcases List.mem_pair.mp inPair with isHigh | isLow
  · exact ⟨high b, high_lt b, isHigh⟩
  · exact ⟨low b, low_lt b, isLow⟩

theorem forall₂_lower_iff {hex digits : Bytes}
    (each : ∀ d ∈ digits, ∀ c, lower c = d ↔ c = d ∨ c = upper d) :
    List.Forall₂ (fun c d => c = d ∨ c = upper d) hex digits ↔
      hex.map lower = digits := by
  induction digits generalizing hex with
  | nil =>
      cases hex with
      | nil => exact iff_of_true .nil rfl
      | cons c hex => exact iff_of_false nofun nofun
  | cons d digits induction =>
      obtain ⟨first, others⟩ := List.forall_mem_cons.mp each
      cases hex with
      | nil => exact iff_of_false nofun nofun
      | cons c hex =>
          rw [List.forall₂_cons, List.map_cons, List.cons.injEq, first c,
            induction others]

/-- A mixed text spells what it spells in lower case. -/
theorem spells_iff {hex text : Bytes} :
    Spells hex text ↔ hex.map lower = encode text := by
  refine forall₂_lower_iff ?_
  intro d member c
  obtain ⟨v, small, same⟩ := mem_encode member
  subst same
  exact lower_eq_digit_iff small

end ServicePortScanner.Data.Hex
