import Mathlib.Tactic.Linarith
import ServicePortScanner.Net.RateLimiter

namespace ServicePortScanner.Net

/-! The adaptive rate over a history of responses. -/

/-- The arguments of one call of `on_response`. -/
structure Response where
  rtt : Int
  wasLoss : Bool
  deriving DecidableEq, Repr

/-! What the control is for: every hundred responses the rate follows the share
of losses, in a window that starts anew every thousand. -/

namespace Batch

/-- The calls before the window of call `n`. -/
def windowStart (n : Nat) : Nat :=
  (n - 1) / 1000 * 1000

def lossFraction (responses : List Response) (n : Nat) : ℚ :=
  (((responses.take n).drop (windowStart n)).countP (·.wasLoss) : ℚ) /
    (n - windowStart n : Nat)

def adjusted (maxRate q rate : ℚ) : ℚ :=
  if q > 5 / 100 then max 1 (7 / 10 * rate)
  else if q < 1 / 100 then min maxRate (21 / 20 * rate)
  else rate

/-- The rate after the first `n` responses. -/
def rate (start maxRate : ℚ) (responses : List Response) : Nat → ℚ
  | 0 => start
  | n + 1 =>
      if 100 ∣ n + 1 then
        adjusted maxRate (lossFraction responses (n + 1))
          (rate start maxRate responses n)
      else rate start maxRate responses n

variable {start maxRate : ℚ} {responses : List Response}

theorem rate_of_lt {n : Nat} (early : n < 100) :
    rate start maxRate responses n = start := by
  induction n with
  | zero => rfl
  | succ n induction =>
      have between : ¬ 100 ∣ n + 1 := by omega
      rw [rate, if_neg between]
      exact induction (Nat.lt_of_succ_lt early)

theorem adjusted_le_of_high {q rate : ℚ} (high : q > 5 / 100) (one_le : 1 ≤ rate) :
    adjusted maxRate q rate ≤ rate := by
  rw [adjusted, if_pos high]
  apply max_le one_le
  linarith

theorem le_adjusted_of_low {q rate : ℚ} (low : q < 1 / 100) (nonneg : 0 ≤ rate)
    (le : rate ≤ maxRate) : rate ≤ adjusted maxRate q rate := by
  have notHigh : ¬ q > 5 / 100 := by linarith
  rw [adjusted, if_neg notHigh, if_pos low]
  apply le_min le
  linarith

/-- An adjustment keeps the rate under a ceiling, and a loss-free one, where it
starts under the ceiling, over the floor it has. -/
theorem adjusted_le {q rate : ℚ} (le : rate ≤ maxRate)
    (high : q > 5 / 100 → 1 ≤ rate) : adjusted maxRate q rate ≤ maxRate := by
  by_cases lossy : q > 5 / 100
  · exact (adjusted_le_of_high lossy (high lossy)).trans le
  · rw [adjusted, if_neg lossy]
    split_ifs
    · exact min_le_left _ _
    · exact le

theorem le_adjusted {q rate floor : ℚ} (floor_le : floor ≤ rate)
    (nonneg : 0 ≤ floor) (under : floor ≤ 1) (le : rate ≤ maxRate) :
    floor ≤ adjusted maxRate q rate := by
  by_cases lossy : q > 5 / 100
  · rw [adjusted, if_pos lossy]
    exact under.trans (le_max_left _ _)
  · by_cases low : q < 1 / 100
    · exact floor_le.trans
        (le_adjusted_of_low low (nonneg.trans floor_le) le)
    · rw [adjusted, if_neg lossy, if_neg low]
      exact floor_le

theorem rate_bounds (one_le : 1 ≤ start) (le : start ≤ maxRate) (n : Nat) :
    1 ≤ rate start maxRate responses n ∧
      rate start maxRate responses n ≤ maxRate := by
  induction n with
  | zero => exact ⟨one_le, le⟩
  | succ n induction =>
      rw [rate]
      split_ifs
      · exact ⟨le_adjusted induction.1 zero_le_one le_rfl induction.2,
          adjusted_le induction.2 fun _ => induction.1⟩
      · exact induction

end Batch

/-! The counters of the limiter follow the history. -/

namespace RateLimiter

def respond (limiter : RateLimiter) (responses : List Response) : RateLimiter :=
  responses.foldl
    (fun limiter response => limiter.onResponse response.rtt response.wasLoss)
    limiter

@[simp] theorem respond_append_singleton (limiter : RateLimiter)
    (responses : List Response) (response : Response) :
    limiter.respond (responses ++ [response]) =
      (limiter.respond responses).onResponse response.rtt response.wasLoss := by
  simp [respond]

theorem respond_fixed {limiter : RateLimiter} (fixed : limiter.mode = .fixed)
    (responses : List Response) : limiter.respond responses = limiter := by
  induction responses with
  | nil => rfl
  | cons response rest induction =>
      have unchanged :
          limiter.onResponse response.rtt response.wasLoss = limiter := by
        simp [onResponse, fixed]
      rw [respond, List.foldl_cons, unchanged]
      exact induction

/-- The RTT estimate is no part of the control. -/
theorem observeRtt_eq (limiter : RateLimiter) (rtt : Int) (wasLoss : Bool) :
    ∃ srttMs rttvarMs, limiter.observeRtt rtt wasLoss =
      { limiter with srttMs := srttMs, rttvarMs := rttvarMs } := by
  unfold observeRtt updateRtt
  split
  · split
    · exact ⟨_, _, rfl⟩
    · exact ⟨_, _, rfl⟩
  · exact ⟨_, _, rfl⟩

theorem adjustedRate_eq (limiter : RateLimiter) (samples losses : Nat) :
    limiter.adjustedRate samples losses =
      Batch.adjusted limiter.maxRate (losses / samples) limiter.rate := by
  have high : kLossHigh = 5 / 100 := by norm_num [kLossHigh]
  have low : kLossLow = 1 / 100 := by norm_num [kLossLow]
  have down : limiter.rate * kStepDown = 7 / 10 * limiter.rate := by
    rw [mul_comm, show kStepDown = 7 / 10 by norm_num [kStepDown]]
  have up : limiter.rate * kStepUp = 21 / 20 * limiter.rate := by
    rw [mul_comm, show kStepUp = 21 / 20 by norm_num [kStepUp]]
  simp only [adjustedRate, Batch.adjusted, high, low, down, up]

/-- One response in adaptive mode, on the counters and the rate. -/
theorem onResponse_adaptive {limiter : RateLimiter}
    (adaptive : limiter.mode = .adaptive) (rtt : Int) (wasLoss : Bool) :
    let samples := limiter.sampleCount + 1
    let losses := limiter.lossCount + if wasLoss then 1 else 0
    let next := limiter.onResponse rtt wasLoss
    next.mode = .adaptive ∧ next.maxRate = limiter.maxRate ∧
      next.rate = (if 100 ∣ samples then
        Batch.adjusted limiter.maxRate (losses / samples : ℚ) limiter.rate
      else limiter.rate) ∧
      next.sampleCount =
        (if 100 ∣ samples ∧ 1000 ≤ samples then 0 else samples) ∧
      next.lossCount =
        (if 100 ∣ samples ∧ 1000 ≤ samples then 0 else losses) := by
  intro samples losses next
  obtain ⟨srttMs, rttvarMs, observed⟩ := observeRtt_eq limiter rtt wasLoss
  have made : next = (if samples % 100 ≠ 0 then
        { limiter with
          srttMs := srttMs
          rttvarMs := rttvarMs
          sampleCount := samples
          lossCount := losses }
      else adjust { limiter with
          srttMs := srttMs
          rttvarMs := rttvarMs
          sampleCount := samples
          lossCount := losses }) := by
    simp only [next, onResponse, adaptive, ne_eq, not_true, if_false, observed]
    rfl
  by_cases due : 100 ∣ samples
  · rw [made, if_neg (not_not.mpr (Nat.mod_eq_zero_of_dvd due))]
    simp only [adjust, adjustedRate_eq, due, true_and, if_true]
    by_cases full : 1000 ≤ samples
    · rw [if_pos (show kWindowReset ≤ samples from full)]
      simp [adaptive, full]
    · rw [if_neg (show ¬ kWindowReset ≤ samples from full)]
      simp [adaptive, full]
  · rw [made, if_pos (mt Nat.dvd_of_mod_eq_zero due)]
    simp [adaptive, due]

/-- The counters are those of the window the last response is in, and the rate
is that of the batch. -/
structure Follows (start : RateLimiter) (responses : List Response)
    (limiter : RateLimiter) : Prop where
  mode : limiter.mode = .adaptive
  maxRate : limiter.maxRate = start.maxRate
  sampleCount : limiter.sampleCount = responses.length % 1000
  lossCount : limiter.lossCount =
    (responses.drop (responses.length / 1000 * 1000)).countP (·.wasLoss)
  rate : limiter.rate =
    Batch.rate start.rate start.maxRate responses responses.length

/-- A limiter as the constructor leaves it. -/
structure Fresh (limiter : RateLimiter) : Prop where
  adaptive : limiter.mode = .adaptive
  sampleCount : limiter.sampleCount = 0
  lossCount : limiter.lossCount = 0

end RateLimiter

theorem Batch.lossFraction_append {responses later : List Response} {n : Nat}
    (le : n ≤ responses.length) :
    lossFraction (responses ++ later) n = lossFraction responses n := by
  rw [lossFraction, lossFraction, List.take_append_of_le_length le]

theorem Batch.rate_append {start maxRate : ℚ} {responses later : List Response}
    {n : Nat} (le : n ≤ responses.length) :
    rate start maxRate (responses ++ later) n =
      rate start maxRate responses n := by
  induction n with
  | zero => rfl
  | succ n induction =>
      rw [rate, rate, induction (Nat.le_of_succ_le le), lossFraction_append le]

namespace RateLimiter

theorem Fresh.follows {start : RateLimiter} (fresh : start.Fresh)
    (responses : List Response) :
    start.Follows responses (start.respond responses) := by
  induction responses using List.reverseRecOn with
  | nil => exact ⟨fresh.adaptive, rfl, fresh.sampleCount, fresh.lossCount, rfl⟩
  | append_singleton responses response induction =>
      obtain ⟨mode, maxRate, rate, sampleCount, lossCount⟩ :=
        onResponse_adaptive induction.mode response.rtt response.wasLoss
      rw [respond_append_singleton]
      have length : (responses ++ [response]).length = responses.length + 1 := by
        simp
      have startsBefore : responses.length / 1000 * 1000 ≤ responses.length :=
        Nat.div_mul_le_self _ _
      have losses : (start.respond responses).lossCount +
          (if response.wasLoss then 1 else 0) =
          ((responses ++ [response]).drop
            (responses.length / 1000 * 1000)).countP (·.wasLoss) := by
        rw [List.drop_append_of_le_length startsBefore, List.countP_append,
          List.countP_singleton, induction.lossCount]
      refine ⟨mode, maxRate.trans induction.maxRate, ?_, ?_, ?_⟩
      · rw [sampleCount, induction.sampleCount, length]
        split_ifs <;> omega
      · rw [lossCount, losses, induction.sampleCount, length]
        split_ifs with full
        · have next : (responses.length + 1) / 1000 * 1000 =
            responses.length + 1 := by omega
          rw [next, ← length, List.drop_length]
          rfl
        · have same : (responses.length + 1) / 1000 * 1000 =
            responses.length / 1000 * 1000 := by omega
          rw [same]
      · have due : 100 ∣ responses.length % 1000 + 1 ↔
            100 ∣ responses.length + 1 := by omega
        have samples : responses.length % 1000 + 1 =
            responses.length + 1 - Batch.windowStart (responses.length + 1) := by
          rw [Batch.windowStart]
          omega
        have fraction : ((start.respond responses).lossCount +
              (if response.wasLoss then 1 else 0) : Nat) /
              ((responses.length % 1000 + 1 : Nat) : ℚ) =
            Batch.lossFraction (responses ++ [response])
              (responses.length + 1) := by
          rw [losses, samples, Batch.lossFraction, ← length, List.take_length,
            Batch.windowStart, length]
          simp
        rw [rate, length, Batch.rate, Batch.rate_append le_rfl,
          induction.sampleCount, induction.maxRate, induction.rate]
        simp only [due, fraction]

def rateAfter (limiter : RateLimiter) (responses : List Response) (n : Nat) :
    ℚ :=
  (limiter.respond (responses.take n)).rate

@[simp] theorem rateAfter_zero (limiter : RateLimiter)
    (responses : List Response) : limiter.rateAfter responses 0 = limiter.rate :=
  rfl

/-- The limiter refines the batch. -/
theorem Fresh.rateAfter_eq {start : RateLimiter} (fresh : start.Fresh)
    {responses : List Response} {n : Nat} (le : n ≤ responses.length) :
    start.rateAfter responses n =
      Batch.rate start.rate start.maxRate responses n := by
  rw [rateAfter, (fresh.follows (responses.take n)).rate,
    List.length_take_of_le le]
  conv_rhs => rw [← List.take_append_drop n responses]
  exact (Batch.rate_append (List.length_take_of_le le).ge).symm

theorem Fresh.rateAfter_succ {start : RateLimiter} (fresh : start.Fresh)
    {responses : List Response} {n : Nat} (le : n + 1 ≤ responses.length) :
    start.rateAfter responses (n + 1) =
      if 100 ∣ n + 1 then
        Batch.adjusted start.maxRate (Batch.lossFraction responses (n + 1))
          (start.rateAfter responses n)
      else start.rateAfter responses n := by
  rw [fresh.rateAfter_eq le, fresh.rateAfter_eq (Nat.le_of_succ_le le),
    Batch.rate]

theorem rateAfter_fixed {limiter : RateLimiter} (fixed : limiter.mode = .fixed)
    (responses : List Response) (n : Nat) :
    limiter.rateAfter responses n = limiter.rate := by
  rw [rateAfter, respond_fixed fixed]

/-! Responses among iterations of `acquire`. -/

section

variable {Caller : Type}

def Op.response? : Op Caller → Option Response
  | .onResponse rtt wasLoss => some ⟨rtt, wasLoss⟩
  | _ => none

/-- An operation of `acquire` or of `on_response`. -/
def Op.OfScan : Op Caller → Prop
  | .iterate .. | .onResponse .. => True
  | _ => False

def Op.ofResponse (response : Response) : Op Caller :=
  .onResponse response.rtt response.wasLoss

def rebucket (limiter : RateLimiter) (bucket : Data.Bucket ℚ) : RateLimiter :=
  { limiter with
    capacity := bucket.capacity
    tokens := bucket.tokens
    lastRefill := bucket.last }

theorem observeRtt_rebucket (limiter : RateLimiter) (bucket : Data.Bucket ℚ)
    (rtt : Int) (wasLoss : Bool) :
    (limiter.rebucket bucket).observeRtt rtt wasLoss =
      (limiter.observeRtt rtt wasLoss).rebucket bucket := by
  have srtt : (limiter.rebucket bucket).srttMs = limiter.srttMs := rfl
  unfold observeRtt updateRtt
  rw [srtt]
  split
  · split
    · rfl
    · rfl
  · rfl

theorem adjust_rebucket (limiter : RateLimiter) (bucket : Data.Bucket ℚ) :
    (limiter.rebucket bucket).adjust = limiter.adjust.rebucket bucket := by
  have samples : (limiter.rebucket bucket).sampleCount = limiter.sampleCount :=
    rfl
  unfold adjust
  rw [samples]
  dsimp only
  split
  · rfl
  · rfl

/-- A response does not look at the bucket. -/
theorem onResponse_rebucket (limiter : RateLimiter) (bucket : Data.Bucket ℚ)
    (rtt : Int) (wasLoss : Bool) :
    (limiter.rebucket bucket).onResponse rtt wasLoss =
      (limiter.onResponse rtt wasLoss).rebucket bucket := by
  have mode : (limiter.rebucket bucket).mode = limiter.mode := rfl
  have counted : ((limiter.rebucket bucket).observeRtt rtt wasLoss).countSample
      wasLoss =
        ((limiter.observeRtt rtt wasLoss).countSample wasLoss).rebucket bucket := by
    rw [observeRtt_rebucket]
    rfl
  unfold onResponse
  dsimp only
  rw [mode, counted, adjust_rebucket]
  generalize (limiter.observeRtt rtt wasLoss).countSample wasLoss = observed
  have samples : (observed.rebucket bucket).sampleCount = observed.sampleCount :=
    rfl
  rw [samples]
  split
  · rfl
  · split
    · rfl
    · rfl

/-- An iteration looks at nothing but the bucket and the rate. -/
theorem acquireIteration_rebucket (limiter : RateLimiter) (now : ℚ) :
    (limiter.acquireIteration now).2 =
      limiter.rebucket (limiter.acquireIteration now).2.bucket := by
  simp only [acquireIteration]
  split
  · rfl
  · rfl

/-- The rate and the counters are those that the responses make. -/
theorem run_control {limiter : RateLimiter} {ops : List (Op Caller)}
    (ofScan : ∀ op ∈ ops, op.OfScan) :
    limiter.run ops =
      (limiter.respond (ops.filterMap Op.response?)).rebucket
        (limiter.run ops).bucket := by
  induction ops using List.reverseRecOn with
  | nil => rfl
  | append_singleton ops op induction =>
      rw [List.forall_mem_append, List.forall_mem_singleton] at ofScan
      have before := induction ofScan.1
      rw [run_append, List.filterMap_append]
      cases op with
      | iterate caller now =>
          have step : (limiter.run ops).run [Op.iterate caller now] =
              ((limiter.run ops).acquireIteration now).2 := rfl
          rw [step, acquireIteration_rebucket, before]
          simp only [List.filterMap_cons, List.filterMap_nil, Op.response?,
            List.append_nil]
          rfl
      | onResponse rtt wasLoss =>
          have step : (limiter.run ops).run
              [(Op.onResponse rtt wasLoss : Op Caller)] =
                (limiter.run ops).onResponse rtt wasLoss := rfl
          have responded : List.filterMap Op.response?
              [(Op.onResponse rtt wasLoss : Op Caller)] = [⟨rtt, wasLoss⟩] := rfl
          rw [step, responded, respond_append_singleton, onResponse_bucket,
            ← onResponse_rebucket, ← before]
      | setRate rate => exact ofScan.2.elim
      | storeRate rate => exact ofScan.2.elim

theorem visits_append (limiter : RateLimiter) (ops later : List (Op Caller)) :
    limiter.visits (ops ++ later) =
      limiter.visits ops ++ (limiter.run ops).visits later := by
  induction ops generalizing limiter with
  | nil => rfl
  | cons op rest induction =>
      rw [List.cons_append, visits, visits, induction, List.append_assoc]
      rfl

theorem run_responses (limiter : RateLimiter) (responses : List Response) :
    limiter.run (responses.map (Op.ofResponse : Response → Op Caller)) =
      limiter.respond responses :=
  List.foldl_map

theorem visits_responses (limiter : RateLimiter) (responses : List Response) :
    limiter.visits (responses.map (Op.ofResponse : Response → Op Caller)) = [] := by
  induction responses generalizing limiter with
  | nil => rfl
  | cons response rest induction => exact induction _

theorem filterMap_responses (responses : List Response) :
    (responses.map (Op.ofResponse : Response → Op Caller)).filterMap Op.response? =
      responses := by
  rw [List.filterMap_map]
  exact List.filterMap_some

end

end RateLimiter

end ServicePortScanner.Net
