import Mathlib.Algebra.Order.Ring.Defs
import Mathlib.Order.Bounds.Basic

namespace ServicePortScanner.Data

/-! The largest product of a list of pairs, against the product of the largest
components. -/

section

variable {α : Type} [Semiring α] [LinearOrder α] [IsStrictOrderedRing α]
variable {values : List α} {m : α}

/-- The values of a list, and zero. -/
def orZero (values : List α) : Set α :=
  {x | x = 0 ∨ x ∈ values}

/-- One pair has the largest component of either side, or one side is zero. -/
def Dominated (pairs : List (α × α)) : Prop :=
  (∀ pair ∈ pairs, pair.1 = 0) ∨ (∀ pair ∈ pairs, pair.2 = 0) ∨
    ∃ top ∈ pairs, ∀ pair ∈ pairs, pair.1 ≤ top.1 ∧ pair.2 ≤ top.2

omit [IsStrictOrderedRing α] in
theorem isGreatest_orZero_of_mem {top : α} (nonneg : 0 ≤ top)
    (member : top ∈ values) (le : ∀ value ∈ values, value ≤ top) :
    IsGreatest (orZero values) top := by
  refine ⟨.inr member, ?_⟩
  intro value reached
  rcases reached with zero | inValues
  · rw [zero]
    exact nonneg
  · exact le value inValues

omit [IsStrictOrderedRing α] in
theorem isGreatest_orZero_zero (zero : ∀ value ∈ values, value = 0) :
    IsGreatest (orZero values) 0 := by
  refine ⟨.inl rfl, ?_⟩
  intro value reached
  rcases reached with isZero | inValues
  · exact isZero.le
  · exact (zero value inValues).le

omit [IsStrictOrderedRing α] in
theorem eq_zero_of_isGreatest_orZero (nonneg : ∀ value ∈ values, 0 ≤ value)
    (greatest : IsGreatest (orZero values) 0) :
    ∀ value ∈ values, value = 0 := fun value member =>
  le_antisymm (greatest.2 (.inr member)) (nonneg value member)

section

variable {pairs : List (α × α)} {n p : α}

omit [IsStrictOrderedRing α] in
/-- A value of the pairs that is largest at one of them. -/
theorem isGreatest_map_of_top {value : α × α → α} {top : α × α}
    (member : top ∈ pairs) (nonneg : 0 ≤ value top)
    (le : ∀ pair ∈ pairs, value pair ≤ value top) :
    IsGreatest (orZero (pairs.map value)) (value top) :=
  isGreatest_orZero_of_mem nonneg (List.mem_map_of_mem member)
    (List.forall_mem_map.mpr le)

omit [IsStrictOrderedRing α] in
theorem isGreatest_map_zero {value : α × α → α}
    (zero : ∀ pair ∈ pairs, value pair = 0) :
    IsGreatest (orZero (pairs.map value)) 0 :=
  isGreatest_orZero_zero (List.forall_mem_map.mpr zero)

/-- A product that is as large as that of two bounds reaches both. -/
theorem eq_bounds_of_mul_eq {a b : α} (first : a ≤ m) (second : b ≤ n)
    (nonneg : 0 ≤ a) (positive : 0 < m) (positive' : 0 < n)
    (same : m * n = a * b) : a = m ∧ b = n := by
  have above : m * n ≤ a * n := calc
    m * n = a * b := same
    _ ≤ a * n := mul_le_mul_of_nonneg_left second nonneg
  have first' : a = m :=
    le_antisymm first (le_of_mul_le_mul_right above positive')
  rw [first'] at same
  exact ⟨first', le_antisymm second (le_of_mul_le_mul_left same.le positive)⟩

theorem dominated_of_mul_eq
    (nonneg : ∀ pair ∈ pairs, 0 ≤ pair.1 ∧ 0 ≤ pair.2)
    (firsts : IsGreatest (orZero (pairs.map Prod.fst)) m)
    (seconds : IsGreatest (orZero (pairs.map Prod.snd)) n)
    (products : m * n ∈ orZero (pairs.map fun pair => pair.1 * pair.2)) :
    Dominated pairs := by
  rcases (firsts.2 (.inl rfl)).eq_or_lt with zero | positive
  · rw [← zero] at firsts
    left
    exact List.forall_mem_map.mp (eq_zero_of_isGreatest_orZero
      (List.forall_mem_map.mpr fun pair member => (nonneg pair member).1) firsts)
  rcases (seconds.2 (.inl rfl)).eq_or_lt with zero | positive'
  · rw [← zero] at seconds
    right; left
    exact List.forall_mem_map.mp (eq_zero_of_isGreatest_orZero
      (List.forall_mem_map.mpr fun pair member => (nonneg pair member).2)
      seconds)
  rcases products with zero | reached
  · exact absurd zero (mul_pos positive positive').ne'
  · obtain ⟨top, member, same⟩ := List.mem_map.mp reached
    have bounds : ∀ pair ∈ pairs, pair.1 ≤ m ∧ pair.2 ≤ n := fun pair inPairs =>
      ⟨firsts.2 (.inr (List.mem_map_of_mem inPairs)),
        seconds.2 (.inr (List.mem_map_of_mem inPairs))⟩
    obtain ⟨first, second⟩ := eq_bounds_of_mul_eq (bounds top member).1
      (bounds top member).2 (nonneg top member).1 positive positive' same.symm
    right; right
    rw [← first, ← second] at bounds
    exact ⟨top, member, bounds⟩

theorem mul_eq_iff_dominated
    (nonneg : ∀ pair ∈ pairs, 0 ≤ pair.1 ∧ 0 ≤ pair.2)
    (firsts : IsGreatest (orZero (pairs.map Prod.fst)) m)
    (seconds : IsGreatest (orZero (pairs.map Prod.snd)) n)
    (products :
      IsGreatest (orZero (pairs.map fun pair => pair.1 * pair.2)) p) :
    m * n = p ↔ Dominated pairs := by
  constructor
  · intro same
    rw [← same] at products
    exact dominated_of_mul_eq nonneg firsts seconds products.1
  · intro dominated
    rcases dominated with zero | zero | ⟨top, member, le⟩
    · have none := products.unique (isGreatest_map_zero fun pair inPairs => by
        rw [zero pair inPairs, zero_mul])
      rw [firsts.unique (isGreatest_map_zero zero), none, zero_mul]
    · have none := products.unique (isGreatest_map_zero fun pair inPairs => by
        rw [zero pair inPairs, mul_zero])
      rw [seconds.unique (isGreatest_map_zero zero), none, mul_zero]
    · obtain ⟨first, second⟩ := nonneg top member
      have largest := products.unique (isGreatest_map_of_top member
        (mul_nonneg first second) fun pair inPairs =>
          mul_le_mul (le pair inPairs).1 (le pair inPairs).2
            (nonneg pair inPairs).2 first)
      rw [firsts.unique (isGreatest_map_of_top member first
          fun pair inPairs => (le pair inPairs).1),
        seconds.unique (isGreatest_map_of_top member second
          fun pair inPairs => (le pair inPairs).2), largest]

end

end

end ServicePortScanner.Data
