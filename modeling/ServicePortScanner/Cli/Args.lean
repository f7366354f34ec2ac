import ServicePortScanner.Net.AdaptiveRate

namespace ServicePortScanner.Cli

open ServicePortScanner.Net

/-! The rate options of the command line, and the limiter that is built from
them. -/

/-- What the command line gives for `--rate`, `--max-rate` and `--adaptive`. -/
structure RateOptions where
  rate : Option ℚ := none
  maxRate : Option ℚ := none
  adaptive : Bool := false
  deriving DecidableEq, Repr

structure Args where
  rate : ℚ := 100
  maxRate : ℚ := 10000
  adaptive : Bool := false
  deriving DecidableEq, Repr

namespace Args

/-- The check `CLI::Range(1.0, 100000.0)`, made of a value that is given. -/
def inRange (value : Option ℚ) : Prop :=
  ∀ given ∈ value, 1 ≤ given ∧ given ≤ 100000

instance : DecidablePred inRange := fun value => by
  unfold inRange
  infer_instance

/-- The part of `parse` that sets the rates; `none` is a `ParseError`. -/
def parseRates (options : RateOptions) : Option Args :=
  if inRange options.rate ∧ inRange options.maxRate then
    let defaults : Args := {}
    let rate := options.rate.getD defaults.rate
    let maxRate := options.maxRate.getD defaults.maxRate
    some {
      rate := rate
      maxRate := if maxRate < rate then rate else maxRate
      adaptive := options.adaptive }
  else none

def mode (args : Args) : Mode :=
  if args.adaptive then .adaptive else .fixed

/-- The limiter of `run`, constructed when the clock reads `now`. -/
def limiter (args : Args) (now : ℚ) : RateLimiter :=
  .construct now args.rate args.rate args.mode args.maxRate

theorem one_le_getD {value : Option ℚ} (checked : inRange value) {default : ℚ}
    (one_le : 1 ≤ default) : 1 ≤ value.getD default := by
  cases value with
  | none => exact one_le
  | some given => exact (checked given rfl).1

theorem parseRates_valid {options : RateOptions} {args : Args}
    (accepted : parseRates options = some args) :
    1 ≤ args.rate ∧ args.rate ≤ args.maxRate := by
  obtain ⟨⟨checked, _⟩, made⟩ := Option.ite_none_right_eq_some.mp accepted
  cases made
  refine ⟨one_le_getD checked (by norm_num), ?_⟩
  dsimp only
  split
  · exact le_rfl
  · next above => exact not_lt.mp above

/-- With valid rates the constructor clamps nothing. -/
theorem limiter_rate {args : Args} (one_le : 1 ≤ args.rate) (now : ℚ) :
    (args.limiter now).rate = args.rate := by
  apply max_eq_right
  linarith [show (0.1 : ℚ) ≤ 1 by norm_num]

theorem limiter_maxRate {args : Args} (le : args.rate ≤ args.maxRate) (now : ℚ) :
    (args.limiter now).maxRate = args.maxRate :=
  max_eq_right le

theorem limiter_fresh {args : Args} (adaptive : args.adaptive = true) (now : ℚ) :
    (args.limiter now).Fresh where
  adaptive := by simp [limiter, RateLimiter.construct, mode, adaptive]
  sampleCount := rfl
  lossCount := rfl

theorem limiter_fixed {args : Args} (fixed : args.adaptive = false) (now : ℚ) :
    (args.limiter now).mode = .fixed := by
  simp [limiter, RateLimiter.construct, mode, fixed]

theorem limiter_bounds {args : Args} (one_le : 1 ≤ args.rate)
    (le : args.rate ≤ args.maxRate) (now : ℚ) {responses : List Response}
    {n : Nat} (within : n ≤ responses.length) :
    1 ≤ (args.limiter now).rateAfter responses n ∧
      (args.limiter now).rateAfter responses n ≤ (args.limiter now).maxRate := by
  have starts := limiter_rate one_le now
  have ceiling := limiter_maxRate le now
  cases mode : args.adaptive with
  | true =>
      rw [(limiter_fresh mode now).rateAfter_eq within]
      apply Batch.rate_bounds
      · rw [starts]
        exact one_le
      · rw [starts, ceiling]
        exact le
  | false =>
      rw [RateLimiter.rateAfter_fixed (limiter_fixed mode now), starts, ceiling]
      exact ⟨one_le, le⟩

/-- The rate after every call is that of the batch, within its bounds, and each
adjustment goes the way its losses call for; in fixed mode nothing changes. -/
theorem limiter_refines_batch {options : RateOptions} {args : Args}
    (accepted : parseRates options = some args) (now : ℚ)
    (responses : List Response) :
    let limiter := args.limiter now
    let rate := limiter.rateAfter responses
    (args.adaptive = true → ∀ n, n + 1 ≤ responses.length →
      let q := Batch.lossFraction responses (n + 1)
      (¬ 100 ∣ n + 1 → rate (n + 1) = rate n) ∧
      (100 ∣ n + 1 → q > 5 / 100 →
        rate (n + 1) = max 1 (7 / 10 * rate n) ∧ rate (n + 1) ≤ rate n) ∧
      (100 ∣ n + 1 → q < 1 / 100 →
        rate (n + 1) = min limiter.maxRate (21 / 20 * rate n) ∧
          rate n ≤ rate (n + 1)) ∧
      (100 ∣ n + 1 → q ≤ 5 / 100 → 1 / 100 ≤ q → rate (n + 1) = rate n)) ∧
    (∀ n, n ≤ responses.length → 1 ≤ rate n ∧ rate n ≤ limiter.maxRate) ∧
    (args.adaptive = false → limiter.respond responses = limiter) := by
  intro limiter rate
  obtain ⟨one_le, le⟩ := parseRates_valid accepted
  have bounds {n : Nat} (within : n ≤ responses.length) :
      1 ≤ rate n ∧ rate n ≤ limiter.maxRate :=
    limiter_bounds one_le le now within
  refine ⟨?_, fun n within => bounds within, ?_⟩
  · intro adaptive n within q
    have next : rate (n + 1) =
        if 100 ∣ n + 1 then Batch.adjusted limiter.maxRate q (rate n)
        else rate n :=
      (limiter_fresh adaptive now).rateAfter_succ within
    obtain ⟨floor, ceiling⟩ := bounds (Nat.le_of_succ_le within)
    refine ⟨?_, ?_, ?_, ?_⟩
    · intro between
      rw [next, if_neg between]
    · intro due high
      rw [next, if_pos due]
      exact ⟨if_pos high, Batch.adjusted_le_of_high high floor⟩
    · intro due low
      rw [next, if_pos due]
      have notHigh : ¬ q > 5 / 100 := by linarith
      refine ⟨?_, Batch.le_adjusted_of_low low (by linarith) ceiling⟩
      rw [Batch.adjusted, if_neg notHigh, if_pos low]
    · intro due notHigh notLow
      rw [next, if_pos due, Batch.adjusted, if_neg notHigh.not_gt,
        if_neg notLow.not_gt]
  · intro fixed
    exact RateLimiter.respond_fixed (limiter_fixed fixed now) responses

/-- A hundred responses with ten losses, at a rate that the default ceiling
would have cut. -/
theorem limiter_refines_batch_tenLosses :
    ((Args.limiter ⟨20000, 20000, true⟩ 0).rateAfter
        (List.replicate 90 ⟨5, false⟩ ++ List.replicate 10 ⟨0, true⟩) 100) =
      max 1 (7 / 10 * (Args.limiter ⟨20000, 20000, true⟩ 0).rateAfter
        (List.replicate 90 ⟨5, false⟩ ++ List.replicate 10 ⟨0, true⟩) 99) := by
  have accepted : parseRates ⟨some 20000, none, true⟩ =
      some ⟨20000, 20000, true⟩ := by decide +kernel
  have refined := limiter_refines_batch accepted 0
    (List.replicate 90 ⟨5, false⟩ ++ List.replicate 10 ⟨0, true⟩)
  have high : Batch.lossFraction
      (List.replicate 90 ⟨5, false⟩ ++ List.replicate 10 ⟨0, true⟩) 100 >
        5 / 100 := by decide +kernel
  exact ((refined.1 rfl 99 (by decide)).2.1 (by decide) high).1

end Args

end ServicePortScanner.Cli
