import Mathlib.Data.List.DropRight
import Mathlib.Data.Rat.Floor
import ServicePortScanner.Core.Result

namespace ServicePortScanner.Core

open ServicePortScanner.Data

/-! Exact arithmetic as a `Floating`.  It computes and prints like a `double`
where that needs no rounding and no exponent. -/

def IsNumeral (b : UInt8) : Prop :=
  IsDigit b ∨ b = 0x2e ∨ b = 0x2d

namespace Exact

/-- The sign of a value and the digits before its point, where `digits` follow
behind it. -/
def whole (digits : Nat) (x : ℚ) : Bytes :=
  (if x < 0 then [0x2d] else []) ++
    decimal (⌊|x| * 10 ^ digits + 1 / 2⌋.toNat / 10 ^ digits)

def fraction (digits : Nat) (x : ℚ) : Bytes :=
  let n := ⌊|x| * 10 ^ digits + 1 / 2⌋.toNat % 10 ^ digits
  List.replicate (digits - (decimal n).length) 0x30 ++ decimal n

def fixed (digits : Nat) (x : ℚ) : Bytes :=
  whole digits x ++ 0x2e :: fraction digits x

/-- Without trailing zeros, and without a point that nothing follows. -/
def shortest (x : ℚ) : Bytes :=
  match (fraction 5 x).rdropWhile (· == 0x30) with
  | [] => whole 5 x
  | b :: rest => whole 5 x ++ 0x2e :: b :: rest

theorem isDigit_of_mem_fraction {digits : Nat} {x : ℚ} {b : UInt8}
    (member : b ∈ fraction digits x) : IsDigit b := by
  rcases List.mem_append.mp member with zero | digit
  · rw [List.eq_of_mem_replicate zero]
    decide
  · exact isDigit_of_mem_decimal digit

theorem isNumeral_of_mem_whole {digits : Nat} {x : ℚ} {b : UInt8}
    (member : b ∈ whole digits x) : IsNumeral b := by
  rcases List.mem_append.mp member with sign | digit
  · split at sign
    · exact .inr (.inr (List.mem_singleton.mp sign))
    · cases sign
  · exact .inl (isDigit_of_mem_decimal digit)

theorem isNumeral_of_mem_fixed {digits : Nat} {x : ℚ} {b : UInt8}
    (member : b ∈ fixed digits x) : IsNumeral b := by
  rcases List.mem_append.mp member with inWhole | behind
  · exact isNumeral_of_mem_whole inWhole
  · rcases List.mem_cons.mp behind with point | inFraction
    · exact .inr (.inl point)
    · exact .inl (isDigit_of_mem_fraction inFraction)

theorem isNumeral_of_mem_shortest {x : ℚ} {b : UInt8}
    (member : b ∈ shortest x) : IsNumeral b := by
  unfold shortest at member
  split at member
  · exact isNumeral_of_mem_whole member
  · next first rest kept =>
      rcases List.mem_append.mp member with inWhole | behind
      · exact isNumeral_of_mem_whole inWhole
      · rcases List.mem_cons.mp behind with point | inKept
        · exact .inr (.inl point)
        · rw [← kept] at inKept
          exact .inl (isDigit_of_mem_fraction
            ((List.rdropWhile_prefix _ _).subset inKept))

end Exact

instance : Floating ℚ where
  literal x := x
  lt x y := decide (x < y)
  le x y := decide (x ≤ y)
  add x y := x + y
  sub x y := x - y
  mul x y := x * y
  div x y := x / y
  narrow x := x
  truncate x := if 0 ≤ x then ⌊x⌋ else ⌈x⌉
  isFinite _ := true
  put := Exact.shortest
  putFixed2 := Exact.fixed 2
  toString := Exact.fixed 6

/-- No byte that `reserved` names is ever printed for a number. -/
structure PrintsWithout (F : Type) [Floating F] (reserved : UInt8 → Prop) :
    Prop where
  put : ∀ (x : F) (b : UInt8), b ∈ Floating.put x → ¬ reserved b
  putFixed2 : ∀ (x : F) (b : UInt8), b ∈ Floating.putFixed2 x → ¬ reserved b

theorem Exact.printsWithout {reserved : UInt8 → Prop}
    (unreserved : ∀ b, IsNumeral b → ¬ reserved b) :
    PrintsWithout ℚ reserved where
  put _ b member := unreserved b (isNumeral_of_mem_shortest member)
  putFixed2 _ b member := unreserved b (isNumeral_of_mem_fixed member)

example : Floating.put (5.3 : ℚ) = bytes "5.3" := by decide +kernel

end ServicePortScanner.Core
