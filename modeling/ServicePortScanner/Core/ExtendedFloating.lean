import ServicePortScanner.Core.ExactFloating
import ServicePortScanner.Data.Strtod

namespace ServicePortScanner.Core

open ServicePortScanner.Data

/-! Arithmetic with infinities and with what is no number, as IEEE 754 has it.
It leaves out rounding and the negative zero. -/

namespace Extended

def lt : Reading → Reading → Bool
  | .nan, _ | _, .nan => false
  | .infinity negative, .infinity negative' => negative && !negative'
  | .infinity negative, .number _ => negative
  | .number _, .infinity negative => !negative
  | .number x, .number y => decide (x < y)

def le : Reading → Reading → Bool
  | .nan, _ | _, .nan => false
  | .infinity negative, .infinity negative' => negative || !negative'
  | .infinity negative, .number _ => negative
  | .number _, .infinity negative => !negative
  | .number x, .number y => decide (x ≤ y)

def neg : Reading → Reading
  | .nan => .nan
  | .infinity negative => .infinity !negative
  | .number x => .number (-x)

/-- The infinities do not add up. -/
def add : Reading → Reading → Reading
  | .nan, _ | _, .nan => .nan
  | .infinity negative, .infinity negative' =>
      if negative = negative' then .infinity negative else .nan
  | .infinity negative, .number _ | .number _, .infinity negative =>
      .infinity negative
  | .number x, .number y => .number (x + y)

/-- An infinity times zero is no number. -/
def scale (negative : Bool) (x : ℚ) : Reading :=
  if x = 0 then .nan else .infinity (negative ^^ decide (x < 0))

def mul : Reading → Reading → Reading
  | .nan, _ | _, .nan => .nan
  | .infinity negative, .infinity negative' => .infinity (negative ^^ negative')
  | .infinity negative, .number x => scale negative x
  | .number x, .infinity negative => scale negative x
  | .number x, .number y => .number (x * y)

/-- Zero by zero, or an infinity by an infinity, is no number. -/
def div : Reading → Reading → Reading
  | .nan, _ | _, .nan => .nan
  | .infinity _, .infinity _ => .nan
  | .infinity negative, .number y => .infinity (negative ^^ decide (y < 0))
  | .number _, .infinity _ => .number 0
  | .number x, .number y =>
      if y ≠ 0 then .number (x / y)
      else if x = 0 then .nan
      else .infinity (decide (x < 0))

/-- With the words of the C library for what is not finite. -/
def printed (number : ℚ → Bytes) : Reading → Bytes
  | .nan => bytes "nan"
  | .infinity negative => bytes (if negative then "-inf" else "inf")
  | .number x => number x

end Extended

/-- The conversion of what is not finite to an `int` is undefined in C++; the
usual processors give the least one. -/
instance : Floating Reading where
  literal x := .number x
  lt := Extended.lt
  le := Extended.le
  add := Extended.add
  sub x y := Extended.add x (Extended.neg y)
  mul := Extended.mul
  div := Extended.div
  narrow x := x
  truncate
    | .number x => Floating.truncate x
    | _ => -2 ^ 31
  isFinite
    | .number _ => true
    | _ => false
  put := Extended.printed Floating.put
  putFixed2 := Extended.printed Floating.putFixed2
  toString := Extended.printed Floating.toString

theorem Extended.trans {x y z : Reading} (le : Floating.le x y = true)
    (le' : Floating.le y z = true) : Floating.le x z = true := by
  simp only [Floating.le] at le le' ⊢
  cases x <;> cases y <;> cases z <;>
    simp only [Extended.le, decide_eq_true_eq, Bool.or_eq_true,
      Bool.not_eq_true', Bool.false_eq_true] at le le' ⊢ <;>
    grind

/-- Between two numbers are numbers only. -/
theorem Extended.exists_number {x : Reading} {low high : ℚ}
    (lower : Floating.le (Floating.literal low) x = true)
    (upper : Floating.le x (Floating.literal high) = true) :
    ∃ value, x = .number value ∧ low ≤ value ∧ value ≤ high := by
  cases x with
  | nan => exact absurd lower Bool.false_ne_true
  | infinity negative =>
      cases negative with
      | false => exact absurd upper Bool.false_ne_true
      | true => exact absurd lower Bool.false_ne_true
  | number value =>
      exact ⟨value, rfl, of_decide_eq_true lower, of_decide_eq_true upper⟩

theorem Extended.printsWithout {reserved : UInt8 → Prop}
    (unreserved : ∀ b, IsNumeral b → ¬ reserved b)
    (words : ∀ b ∈ bytes "-infa", ¬ reserved b) :
    PrintsWithout Reading reserved := by
  have printed {number : ℚ → Bytes}
      (numeral : ∀ x, ∀ b ∈ number x, ¬ reserved b) (x : Reading) (b : UInt8)
      (member : b ∈ Extended.printed number x) : ¬ reserved b := by
    cases x with
    | nan =>
        have within : ∀ b ∈ bytes "nan", b ∈ bytes "-infa" := by decide
        exact words b (within b member)
    | infinity negative =>
        have within : ∀ negative : Bool,
            ∀ b ∈ bytes (if negative then "-inf" else "inf"),
              b ∈ bytes "-infa" := by decide
        exact words b (within negative b member)
    | number x => exact numeral x b member
  have exact := Exact.printsWithout unreserved
  exact ⟨printed exact.put, printed exact.putFixed2⟩

example : Floating.mul (.infinity false) (Floating.literal 0) = Reading.nan := by
  decide

end ServicePortScanner.Core
