import Mathlib.Data.List.Basic

namespace ServicePortScanner.Data

/-! Byte strings.  A `std::string` holds arbitrary bytes, so text is a list. -/

abbrev Bytes := List UInt8

/-- A check of every byte of a text walks the text.  The instance for finite
types, which would try all 256 bytes, also applies. -/
instance (priority := 2000) decidableBallBytes (p : UInt8 → Prop)
    [DecidablePred p] (s : Bytes) : Decidable (∀ b ∈ s, p b) :=
  List.decidableBAll p s

/-- The bytes of a string literal of the source. -/
def bytes (literal : String) : Bytes :=
  literal.toByteArray.data.toList

def IsDigit (b : UInt8) : Prop :=
  0x30 ≤ b ∧ b ≤ 0x39

instance (b : UInt8) : Decidable (IsDigit b) :=
  inferInstanceAs (Decidable (_ ∧ _))

/-! Printing of integers, as `operator<<` does it in the "C" locale. -/

def decimal (n : Nat) : Bytes :=
  (Nat.toDigits 10 n).map Char.toUInt8

def decimalInt : Int → Bytes
  | .ofNat n => decimal n
  | .negSucc n => 0x2d :: decimal (n + 1)

theorem isDigit_toUInt8 {c : Char} (digit : c.isDigit = true) :
    IsDigit c.toUInt8 := by
  obtain ⟨lower, upper⟩ := Char.isDigit_iff_toNat.mp digit
  have lower : 48 ≤ c.val.toNat := lower
  have upper : c.val.toNat ≤ 57 := upper
  constructor <;>
    simp only [UInt8.le_iff_toNat_le, Char.toUInt8, UInt32.toNat_toUInt8,
      UInt8.reduceToNat] <;>
    omega

theorem isDigit_of_mem_decimal {n : Nat} {b : UInt8}
    (member : b ∈ decimal n) : IsDigit b := by
  obtain ⟨c, inDigits, rfl⟩ := List.mem_map.mp member
  exact isDigit_toUInt8 (Nat.isDigit_of_mem_toDigits (by omega) (by omega)
    inDigits)

theorem decimal_of_lt {n : Nat} (small : n < 10) :
    decimal n = [n.digitChar.toUInt8] := by
  rw [decimal, Nat.toDigits_of_lt_base small]
  rfl

theorem decimal_of_le {n : Nat} (large : 10 ≤ n) :
    decimal n = decimal (n / 10) ++ [(n % 10).digitChar.toUInt8] := by
  rw [decimal, Nat.toDigits_of_base_le (by omega) large, List.map_append]
  rfl

theorem isDigit_digitChar {n : Nat} (small : n < 10) :
    IsDigit n.digitChar.toUInt8 := by
  apply isDigit_of_mem_decimal (show _ ∈ decimal n from ?_)
  rw [decimal_of_lt small]
  exact List.mem_singleton_self _

theorem mem_decimalInt {z : Int} {b : UInt8} (member : b ∈ decimalInt z) :
    b = 0x2d ∨ IsDigit b := by
  cases z with
  | ofNat n => exact .inr (isDigit_of_mem_decimal member)
  | negSucc n =>
      rcases List.mem_cons.mp member with rfl | inDigits
      · exact .inl rfl
      · exact .inr (isDigit_of_mem_decimal inDigits)

theorem decimalInt_avoids {z : Int} {reserved : UInt8}
    (notSign : reserved ≠ 0x2d) (notDigit : ¬ IsDigit reserved) :
    reserved ∉ decimalInt z := by
  intro member
  rcases mem_decimalInt member with sign | digit
  · exact notSign sign
  · exact notDigit digit

theorem decimal_avoids {n : Nat} {reserved : UInt8}
    (notDigit : ¬ IsDigit reserved) : reserved ∉ decimal n :=
  fun member => notDigit (isDigit_of_mem_decimal member)

/-! Decimal numbers in a text. -/

def digitValue (b : UInt8) : Nat :=
  b.toNat - 48

/-- The number whose digits a text adds to those of `n`. -/
def appendDigits (n : Nat) (text : Bytes) : Nat :=
  text.foldl (fun n b => n * 10 + digitValue b) n

def decimalValue (text : Bytes) : Nat :=
  appendDigits 0 text

theorem appendDigits_append (n : Nat) (front back : Bytes) :
    appendDigits n (front ++ back) = appendDigits (appendDigits n front) back :=
  List.foldl_append

theorem digitValue_digitChar {n : Nat} (small : n < 10) :
    digitValue n.digitChar.toUInt8 = n := by
  have each : ∀ n, n < 10 → digitValue n.digitChar.toUInt8 = n := by decide
  exact each n small

/-- A printed number reads back. -/
theorem decimalValue_decimal (n : Nat) : decimalValue (decimal n) = n := by
  induction n using Nat.strongRecOn with
  | ind n induction =>
      by_cases small : n < 10
      · rw [decimal_of_lt small, decimalValue, appendDigits, List.foldl_cons,
          List.foldl_nil, digitValue_digitChar small, Nat.zero_mul, Nat.zero_add]
      · have front : appendDigits 0 (decimal (n / 10)) = n / 10 :=
          induction (n / 10) (by omega)
        rw [decimal_of_le (by omega), decimalValue, appendDigits_append, front,
          appendDigits, List.foldl_cons, List.foldl_nil,
          digitValue_digitChar (by omega)]
        omega

theorem decimal_ne_nil (n : Nat) : decimal n ≠ [] := by
  by_cases small : n < 10
  · rw [decimal_of_lt small]
    exact List.cons_ne_nil _ _
  · rw [decimal_of_le (by omega)]
    exact List.append_ne_nil_of_right_ne_nil _ (List.cons_ne_nil _ _)

theorem le_appendDigits (n : Nat) (text : Bytes) : n ≤ appendDigits n text := by
  induction text generalizing n with
  | nil => exact Nat.le_refl n
  | cons b text induction =>
      have step : n ≤ n * 10 + digitValue b := by omega
      exact Nat.le_trans step (induction _)

theorem digitValue_eq {c : UInt8} (digit : IsDigit c) :
    (c - 0x30).toNat = digitValue c :=
  UInt8.toNat_sub_of_le c 0x30 digit.1

/-! The first place of a byte, as `std::string_view::find` tells it. -/

theorem findIdx?_append_cons {front back : Bytes} {c : UInt8}
    (absent : c ∉ front) :
    (front ++ c :: back).findIdx? (· = c) = some front.length := by
  induction front with
  | nil => simp [List.findIdx?_cons]
  | cons b front induction =>
      rw [List.mem_cons, not_or] at absent
      have other : ¬ b = c := fun same => absent.1 same.symm
      simp [List.findIdx?_cons, other, induction absent.2]

theorem eq_append_cons_of_findIdx? {s : Bytes} {c : UInt8} {i : Nat}
    (found : s.findIdx? (· = c) = some i) :
    s = s.take i ++ c :: s.drop (i + 1) ∧ c ∉ s.take i := by
  obtain ⟨bound, here, before⟩ := List.findIdx?_eq_some_iff_getElem.mp found
  have value : s[i] = c := by simpa using here
  constructor
  · rw [← value, ← List.drop_eq_getElem_cons bound, List.take_append_drop]
  · intro member
    obtain ⟨j, inFront, same⟩ := List.mem_take_iff_getElem.mp member
    exact absurd same (by simpa using before j (by omega))

end ServicePortScanner.Data
