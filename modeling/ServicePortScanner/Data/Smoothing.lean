import Mathlib.Algebra.Order.AbsoluteValue.Basic
import Mathlib.Analysis.Convex.Basic
import Mathlib.Tactic.Linarith

namespace ServicePortScanner.Data

/-! Exponentially weighted estimates of a mean and of a deviation from it, over
an ordered field. -/

structure Estimate (K : Type) where
  mean : K
  deviation : K
  deriving DecidableEq, Repr

namespace Estimate

variable {K : Type} [Field K] [LinearOrder K]

/-- The first sample is its own mean, and half of it the deviation. -/
def first (x : K) : Estimate K where
  mean := x
  deviation := x / 2

def next (α β : K) (estimate : Estimate K) (x : K) : Estimate K where
  mean := (1 - α) * estimate.mean + α * x
  deviation := (1 - β) * estimate.deviation + β * |estimate.mean - x|

def observe (α β : K) : Option (Estimate K) → K → Option (Estimate K)
  | none, x => some (first x)
  | some estimate, x => some (estimate.next α β x)

def ofSamples (α β : K) (samples : List K) : Option (Estimate K) :=
  samples.foldl (observe α β) none

@[simp] theorem ofSamples_append_singleton (α β : K) (samples : List K) (x : K) :
    ofSamples α β (samples ++ [x]) = observe α β (ofSamples α β samples) x := by
  simp [ofSamples]

theorem ofSamples_eq_none {α β : K} {samples : List K}
    (unseen : ofSamples α β samples = none) : samples = [] := by
  induction samples using List.reverseRecOn with
  | nil => rfl
  | append_singleton samples x _ =>
      rw [ofSamples_append_singleton] at unseen
      cases observed : ofSamples α β samples with
      | none =>
          rw [observed] at unseen
          cases unseen
      | some estimate =>
          rw [observed] at unseen
          cases unseen

/-- The mean is between two bounds, the deviation at most `spread`. -/
structure Within (low high spread : K) (estimate : Estimate K) : Prop where
  mean : estimate.mean ∈ Set.Icc low high
  deviation : estimate.deviation ∈ Set.Icc 0 spread

variable [IsStrictOrderedRing K] {low high spread : K}

theorem within_first {x : K} (between : x ∈ Set.Icc low high) (nonneg : 0 ≤ x)
    (half : x / 2 ≤ spread) : (first x).Within low high spread where
  mean := between
  deviation := ⟨div_nonneg nonneg zero_le_two, half⟩

/-- Both estimates move by a convex combination: the mean with a sample, the
deviation with a distance inside the bounds. -/
theorem Within.next {α β : K} (alpha : α ∈ Set.Icc 0 1) (beta : β ∈ Set.Icc 0 1)
    {estimate : Estimate K} (within : estimate.Within low high spread) {x : K}
    (between : x ∈ Set.Icc low high) (wide : high - low ≤ spread) :
    (estimate.next α β x).Within low high spread := by
  constructor
  · exact convex_Icc low high within.mean between (sub_nonneg.mpr alpha.2)
      alpha.1 (sub_add_cancel 1 α)
  · have distance : |estimate.mean - x| ∈ Set.Icc 0 spread := by
      refine ⟨abs_nonneg _, (abs_sub_le_iff.mpr ⟨?_, ?_⟩).trans wide⟩
      · exact sub_le_sub within.mean.2 between.1
      · exact sub_le_sub between.2 within.mean.1
    exact convex_Icc 0 spread within.deviation distance (sub_nonneg.mpr beta.2)
      beta.1 (sub_add_cancel 1 β)

theorem ofSamples_within {α β : K} (alpha : α ∈ Set.Icc 0 1)
    (beta : β ∈ Set.Icc 0 1) {x : K} {rest : List K} (nonneg : 0 ≤ x)
    (between : ∀ y ∈ x :: rest, y ∈ Set.Icc low high) :
    ∃ estimate, ofSamples α β (x :: rest) = some estimate ∧
      estimate.Within low high (max (x / 2) (high - low)) := by
  induction rest using List.reverseRecOn with
  | nil =>
      refine ⟨first x, rfl, within_first (between x List.mem_cons_self) nonneg ?_⟩
      exact le_max_left _ _
  | append_singleton rest y induction =>
      obtain ⟨estimate, seen, within⟩ := induction fun z member =>
        between z (List.mem_append_left [y] member)
      refine ⟨estimate.next α β y, ?_, ?_⟩
      · rw [← List.cons_append, ofSamples_append_singleton, seen]
        rfl
      · apply within.next alpha beta
        · exact between y (List.mem_append_right (x :: rest) List.mem_cons_self)
        · exact le_max_right _ _

end Estimate

end ServicePortScanner.Data
