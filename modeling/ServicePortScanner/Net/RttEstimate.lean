import Mathlib.Data.Finset.Max
import ServicePortScanner.Data.Smoothing
import ServicePortScanner.Net.RateLimiter

namespace ServicePortScanner.Net.RateLimiter

open ServicePortScanner.Data

/-! The SRTT and RTTVAR estimates over a run, and the samples they were made
of. -/

variable {Caller : Type}

/-- The round trip time a step feeds to the estimates. -/
def Op.sample? : Op Caller → Option ℚ
  | .onResponse rtt wasLoss =>
      if wasLoss = false ∧ 0 ≤ rtt then some rtt else none
  | _ => none

def samples (ops : List (Op Caller)) : List ℚ :=
  ops.filterMap Op.sample?

/-- The step takes the branch of `on_response` that has no estimate yet. -/
def Initialises (limiter : RateLimiter) (op : Op Caller) : Prop :=
  limiter.mode = .adaptive ∧ op.sample?.isSome ∧ limiter.srttMs < 0

/-- The two members hold the estimate, or the sentinel where there is none. -/
structure Holds (limiter : RateLimiter) (estimate : Option (Estimate ℚ)) :
    Prop where
  unseen : estimate = none → limiter.srttMs = -1 ∧ limiter.rttvarMs = 0
  seen : ∀ known, estimate = some known →
    limiter.srttMs = known.mean ∧ limiter.rttvarMs = known.deviation ∧
      0 ≤ known.mean

/-! Nothing but a sample changes the estimates. -/

theorem adjust_estimates (limiter : RateLimiter) :
    limiter.adjust.srttMs = limiter.srttMs ∧
      limiter.adjust.rttvarMs = limiter.rttvarMs ∧
      limiter.adjust.mode = limiter.mode := by
  simp only [adjust]
  split
  · exact ⟨rfl, rfl, rfl⟩
  · exact ⟨rfl, rfl, rfl⟩

theorem onResponse_estimates {limiter : RateLimiter}
    (adaptive : limiter.mode = .adaptive) (rtt : Int) (wasLoss : Bool) :
    let observed := limiter.observeRtt rtt wasLoss
    (limiter.onResponse rtt wasLoss).srttMs = observed.srttMs ∧
      (limiter.onResponse rtt wasLoss).rttvarMs = observed.rttvarMs ∧
      (limiter.onResponse rtt wasLoss).mode = observed.mode := by
  intro observed
  rw [onResponse, if_neg (not_not.mpr adaptive)]
  simp only
  split
  · exact ⟨rfl, rfl, rfl⟩
  · exact adjust_estimates _

theorem updateRtt_mode (limiter : RateLimiter) (r : ℚ) :
    (limiter.updateRtt r).mode = limiter.mode := by
  unfold updateRtt
  split
  · rfl
  · rfl

/-- The updates of the two branches, as an estimate. -/
theorem updateRtt_first {limiter : RateLimiter} (unseen : limiter.srttMs < 0)
    (r : ℚ) : limiter.updateRtt r = { limiter with
      srttMs := (Estimate.first r).mean
      rttvarMs := (Estimate.first r).deviation } := by
  have half : r * 0.5 = r / 2 := by
    rw [div_eq_mul_inv]
    norm_num
  rw [updateRtt, if_pos unseen, half]
  rfl

theorem updateRtt_next {limiter : RateLimiter} (seen : ¬ limiter.srttMs < 0)
    (r : ℚ) :
    let estimate := Estimate.next kEwmaAlpha kEwmaBeta
      ⟨limiter.srttMs, limiter.rttvarMs⟩ r
    limiter.updateRtt r = { limiter with
      srttMs := estimate.mean
      rttvarMs := estimate.deviation } := by
  intro estimate
  rw [updateRtt, if_neg seen]
  rfl

theorem step_of_no_sample (limiter : RateLimiter) {op : Op Caller}
    (none : op.sample? = none) :
    (limiter.step op).srttMs = limiter.srttMs ∧
      (limiter.step op).rttvarMs = limiter.rttvarMs ∧
      (limiter.step op).mode = limiter.mode := by
  cases op with
  | iterate caller now =>
      simp only [step, acquireIteration]
      split
      · exact ⟨rfl, rfl, rfl⟩
      · exact ⟨rfl, rfl, rfl⟩
  | setRate rate => exact ⟨rfl, rfl, rfl⟩
  | storeRate rate => exact ⟨rfl, rfl, rfl⟩
  | onResponse rtt wasLoss =>
      have unused : ¬ (wasLoss = false ∧ 0 ≤ rtt) := fun used => by
        rw [Op.sample?, if_pos used] at none
        cases none
      by_cases adaptive : limiter.mode = .adaptive
      · have after := onResponse_estimates adaptive rtt wasLoss
        rw [observeRtt, if_neg unused] at after
        exact after
      · rw [step, onResponse, if_pos adaptive]
        exact ⟨rfl, rfl, rfl⟩

theorem step_of_sample {limiter : RateLimiter}
    (adaptive : limiter.mode = .adaptive) {op : Op Caller} {r : ℚ}
    (sample : op.sample? = some r) :
    (limiter.step op).srttMs = (limiter.updateRtt r).srttMs ∧
      (limiter.step op).rttvarMs = (limiter.updateRtt r).rttvarMs ∧
      (limiter.step op).mode = limiter.mode := by
  cases op with
  | iterate caller now => cases sample
  | setRate rate => cases sample
  | storeRate rate => cases sample
  | onResponse rtt wasLoss =>
      rw [Op.sample?] at sample
      obtain ⟨used, same⟩ := Option.ite_none_right_eq_some.mp sample
      have after := onResponse_estimates adaptive rtt wasLoss
      rw [observeRtt, if_pos used, Option.some.inj same] at after
      exact ⟨after.1, after.2.1, after.2.2.trans (updateRtt_mode limiter r)⟩

/-! The members follow the estimate made of the samples so far. -/

theorem weights_mem :
    kEwmaAlpha ∈ Set.Icc (0 : ℚ) 1 ∧ kEwmaBeta ∈ Set.Icc (0 : ℚ) 1 := by
  norm_num [kEwmaAlpha, kEwmaBeta]

theorem Holds.of_same {limiter : RateLimiter} {estimate : Option (Estimate ℚ)}
    (holds : limiter.Holds estimate) {next : RateLimiter}
    (srtt : next.srttMs = limiter.srttMs)
    (rttvar : next.rttvarMs = limiter.rttvarMs) : next.Holds estimate := by
  constructor
  · intro unseen
    rw [srtt, rttvar]
    exact holds.unseen unseen
  · intro known seen
    rw [srtt, rttvar]
    exact holds.seen known seen

theorem Holds.observe {limiter : RateLimiter} {estimate : Option (Estimate ℚ)}
    (holds : limiter.Holds estimate) {r : ℚ} (nonneg : 0 ≤ r)
    {next : RateLimiter} (srtt : next.srttMs = (limiter.updateRtt r).srttMs)
    (rttvar : next.rttvarMs = (limiter.updateRtt r).rttvarMs) :
    next.Holds (Estimate.observe kEwmaAlpha kEwmaBeta estimate r) := by
  cases estimate with
  | none =>
      have unseen : limiter.srttMs < 0 := by
        rw [(holds.unseen rfl).1]
        norm_num
      rw [updateRtt_first unseen] at srtt rttvar
      constructor
      · intro absurd
        cases absurd
      · intro known same
        cases same
        exact ⟨srtt, rttvar, nonneg⟩
  | some known =>
      obtain ⟨mean, deviation, meanNonneg⟩ := holds.seen known rfl
      have seen : ¬ limiter.srttMs < 0 := by
        rw [mean]
        exact not_lt.mpr meanNonneg
      rw [updateRtt_next seen, mean, deviation] at srtt rttvar
      constructor
      · intro absurd
        cases absurd
      · intro updated same
        cases same
        refine ⟨srtt, rttvar, ?_⟩
        exact add_nonneg
          (mul_nonneg (sub_nonneg.mpr weights_mem.1.2) meanNonneg)
          (mul_nonneg weights_mem.1.1 nonneg)

theorem sample_nonneg {op : Op Caller} {r : ℚ} (sample : op.sample? = some r) :
    0 ≤ r := by
  cases op with
  | iterate caller now => cases sample
  | setRate rate => cases sample
  | storeRate rate => cases sample
  | onResponse rtt wasLoss =>
      rw [Op.sample?] at sample
      obtain ⟨used, same⟩ := Option.ite_none_right_eq_some.mp sample
      rw [← Option.some.inj same]
      exact Int.cast_nonneg used.2

theorem run_holds (start tokensPerSecond bucketCapacity maxRate : ℚ)
    (ops : List (Op Caller)) :
    let limiter := construct start tokensPerSecond bucketCapacity .adaptive
      maxRate
    (limiter.run ops).mode = .adaptive ∧
      (limiter.run ops).Holds
        (Estimate.ofSamples kEwmaAlpha kEwmaBeta (samples ops)) := by
  intro limiter
  induction ops using List.reverseRecOn with
  | nil =>
      refine ⟨rfl, fun _ => ⟨rfl, rfl⟩, ?_⟩
      intro known seen
      cases seen
  | append_singleton ops op induction =>
      obtain ⟨adaptive, holds⟩ := induction
      have stepped : limiter.run (ops ++ [op]) = (limiter.run ops).step op :=
        run_append limiter ops [op]
      cases sample : op.sample? with
      | none =>
          have same : samples (ops ++ [op]) = samples ops := by
            simp [samples, sample]
          obtain ⟨srtt, rttvar, mode⟩ := step_of_no_sample (limiter.run ops) sample
          rw [stepped, same]
          exact ⟨mode.trans adaptive, holds.of_same srtt rttvar⟩
      | some r =>
          have added : samples (ops ++ [op]) = samples ops ++ [r] := by
            simp [samples, sample]
          obtain ⟨srtt, rttvar, mode⟩ := step_of_sample adaptive sample
          rw [stepped, added, Estimate.ofSamples_append_singleton]
          exact ⟨mode.trans adaptive,
            holds.observe (sample_nonneg sample) srtt rttvar⟩

theorem initialises_iff (start tokensPerSecond bucketCapacity maxRate : ℚ)
    (before : List (Op Caller)) (op : Op Caller) :
    ((construct start tokensPerSecond bucketCapacity .adaptive
      maxRate).run before).Initialises op ↔
      op.sample?.isSome ∧ samples before = [] := by
  obtain ⟨adaptive, holds⟩ :=
    run_holds start tokensPerSecond bucketCapacity maxRate before
  rw [Initialises, and_iff_right adaptive]
  apply and_congr_right
  intro _
  constructor
  · intro negative
    cases estimate : Estimate.ofSamples kEwmaAlpha kEwmaBeta (samples before) with
    | none => exact Estimate.ofSamples_eq_none estimate
    | some known =>
        obtain ⟨mean, _, nonneg⟩ := holds.seen known estimate
        rw [mean] at negative
        exact absurd nonneg (not_le.mpr negative)
  · intro none
    rw [none] at holds
    rw [(holds.unseen rfl).1]
    norm_num

theorem exists_isLeast_isGreatest (x : ℚ) (rest : List ℚ) :
    ∃ low high, IsLeast {y | y ∈ x :: rest} low ∧
      IsGreatest {y | y ∈ x :: rest} high := by
  have nonempty : (x :: rest).toFinset.Nonempty := ⟨x, by simp⟩
  have coe : ((x :: rest).toFinset : Set ℚ) = {y | y ∈ x :: rest} :=
    List.coe_toFinset _
  rw [← coe]
  exact ⟨_, _, Finset.isLeast_min' _ nonempty, Finset.isGreatest_max' _ nonempty⟩

/-- After the first sample the estimates stay inside the samples seen. -/
theorem estimates_within_samples
    (start tokensPerSecond bucketCapacity maxRate : ℚ) (ops : List (Op Caller))
    {x : ℚ} {rest : List ℚ} (seen : samples ops = x :: rest) :
    let limiter :=
      construct start tokensPerSecond bucketCapacity .adaptive maxRate
    ∃ low high, IsLeast {y | y ∈ samples ops} low ∧
      IsGreatest {y | y ∈ samples ops} high ∧
      low ≤ (limiter.run ops).srttMs ∧ (limiter.run ops).srttMs ≤ high ∧
      0 ≤ (limiter.run ops).rttvarMs ∧
      (limiter.run ops).rttvarMs ≤ max (x / 2) (high - low) := by
  intro limiter
  obtain ⟨_, holds⟩ :=
    run_holds start tokensPerSecond bucketCapacity maxRate ops
  obtain ⟨low, high, least, greatest⟩ := exists_isLeast_isGreatest x rest
  have nonneg : 0 ≤ x := by
    have member : x ∈ samples ops := seen ▸ List.mem_cons_self
    obtain ⟨op, _, sample⟩ := List.mem_filterMap.mp member
    exact sample_nonneg sample
  obtain ⟨estimate, known, within⟩ :=
    Estimate.ofSamples_within weights_mem.1 weights_mem.2 nonneg
      fun y member => ⟨least.2 member, greatest.2 member⟩
  rw [seen] at holds ⊢
  obtain ⟨mean, deviation, _⟩ := holds.seen estimate known
  rw [mean, deviation]
  exact ⟨low, high, least, greatest, within.mean.1, within.mean.2,
    within.deviation.1, within.deviation.2⟩

/-- One more step changes the estimates by the update with its sample, or not
at all. -/
theorem estimates_step (start tokensPerSecond bucketCapacity maxRate : ℚ)
    (before : List (Op Caller)) (op : Op Caller) :
    let limiter :=
      construct start tokensPerSecond bucketCapacity .adaptive maxRate
    (op.sample? = none →
      (limiter.run (before ++ [op])).srttMs = (limiter.run before).srttMs ∧
      (limiter.run (before ++ [op])).rttvarMs = (limiter.run before).rttvarMs) ∧
    (∀ r, op.sample? = some r →
      (limiter.run (before ++ [op])).srttMs =
        ((limiter.run before).updateRtt r).srttMs ∧
      (limiter.run (before ++ [op])).rttvarMs =
        ((limiter.run before).updateRtt r).rttvarMs) := by
  intro limiter
  have stepped : limiter.run (before ++ [op]) = (limiter.run before).step op :=
    run_append limiter before [op]
  rw [stepped]
  constructor
  · intro none
    obtain ⟨srtt, rttvar, _⟩ := step_of_no_sample (limiter.run before) none
    exact ⟨srtt, rttvar⟩
  · intro r sample
    have adaptive :=
      (run_holds start tokensPerSecond bucketCapacity maxRate before).1
    obtain ⟨srtt, rttvar, _⟩ := step_of_sample adaptive sample
    exact ⟨srtt, rttvar⟩

/-- In every serialised run of an adaptive limiter the estimates are the
sentinel before the first sample, and then stay inside the samples seen; the
first sample alone initialises them, and a step changes them by the update with
its sample, or not at all. -/
theorem run_estimates_within (start tokensPerSecond bucketCapacity maxRate : ℚ)
    (ops : List (Op Caller)) :
    let limiter :=
      construct start tokensPerSecond bucketCapacity .adaptive maxRate
    (samples ops = [] → (limiter.run ops).srttMs = -1) ∧
    (∀ x rest, samples ops = x :: rest →
      ∃ low high, IsLeast {y | y ∈ samples ops} low ∧
        IsGreatest {y | y ∈ samples ops} high ∧
        low ≤ (limiter.run ops).srttMs ∧ (limiter.run ops).srttMs ≤ high ∧
        0 ≤ (limiter.run ops).rttvarMs ∧
        (limiter.run ops).rttvarMs ≤ max (x / 2) (high - low)) ∧
    (∀ before op after, ops = before ++ op :: after →
      ((limiter.run before).Initialises op ↔
        op.sample?.isSome ∧ samples before = []) ∧
      (op.sample? = none →
        (limiter.run (before ++ [op])).srttMs = (limiter.run before).srttMs ∧
        (limiter.run (before ++ [op])).rttvarMs =
          (limiter.run before).rttvarMs) ∧
      (∀ r, op.sample? = some r →
        (limiter.run (before ++ [op])).srttMs =
          ((limiter.run before).updateRtt r).srttMs ∧
        (limiter.run (before ++ [op])).rttvarMs =
          ((limiter.run before).updateRtt r).rttvarMs)) := by
  intro limiter
  refine ⟨?_, ?_, ?_⟩
  · intro none
    obtain ⟨_, holds⟩ :=
      run_holds start tokensPerSecond bucketCapacity maxRate ops
    rw [none] at holds
    exact (holds.unseen rfl).1
  · intro x rest seen
    exact estimates_within_samples start tokensPerSecond bucketCapacity
      maxRate ops seen
  · intro before op after _
    exact ⟨initialises_iff start tokensPerSecond bucketCapacity maxRate
        before op,
      estimates_step start tokensPerSecond bucketCapacity maxRate before op⟩

end ServicePortScanner.Net.RateLimiter
