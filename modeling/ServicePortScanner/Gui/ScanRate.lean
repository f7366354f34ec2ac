import ServicePortScanner.Net.AdaptiveRate

namespace ServicePortScanner.Gui.ScanController

open ServicePortScanner.Net

/-! The rate of the controller, and the limiter a scan builds from it. -/

/-- The member `rate_` before any call of `setRate`. -/
def defaultRate : ℚ := 100

def setRate (rate pps : ℚ) : ℚ :=
  if 0 < pps then pps else rate

/-- The limiter of `runScan`, constructed when the clock reads `now`. -/
def limiter (now rate : ℚ) : RateLimiter :=
  .construct now rate rate .adaptive (rate * 10)

theorem setRate_pos {calls : List ℚ} : 0 < calls.foldl setRate defaultRate := by
  induction calls using List.reverseRecOn with
  | nil => norm_num [defaultRate]
  | append_singleton calls pps induction =>
      rw [List.foldl_append, List.foldl_cons, List.foldl_nil, setRate]
      split
      · next positive => exact positive
      · exact induction

/-- After every call the rate is between the floor of the constructor and the
ceiling, and each adjustment goes the way its losses call for. -/
def Bounded (limiter : RateLimiter) (responses : List Response) : Prop :=
  ∀ n, n + 1 ≤ responses.length →
    let q := Batch.lossFraction responses (n + 1)
    let before := limiter.rateAfter responses n
    let after := limiter.rateAfter responses (n + 1)
    1 / 10 ≤ after ∧ after ≤ max (1 / 10) limiter.maxRate ∧
      (100 ∣ n + 1 → (q > 5 / 100 → after ≤ before) ∧
        (q < 1 / 100 → before ≤ after))

/-- No adjustment slows down from under the floor of that step, and none speeds
up where the ceiling is under the floor of the constructor. -/
def Steady (pps : ℚ) (limiter : RateLimiter) (responses : List Response) :
    Prop :=
  ∀ n, n + 1 ≤ responses.length → 100 ∣ n + 1 →
    let q := Batch.lossFraction responses (n + 1)
    (q > 5 / 100 → 1 ≤ limiter.rateAfter responses n) ∧
      (q < 1 / 100 → 1 / 100 ≤ pps)

section

variable {pps : ℚ} (positive : 0 < pps) (now : ℚ)
include positive

omit positive in
theorem limiter_fresh : (limiter now pps).Fresh :=
  ⟨rfl, rfl, rfl⟩

omit positive in
theorem limiter_rate : (limiter now pps).rate = max (1 / 10) pps := by
  rw [limiter, RateLimiter.construct, show (0.1 : ℚ) = 1 / 10 by norm_num]

theorem limiter_maxRate : (limiter now pps).maxRate = pps * 10 := by
  apply max_eq_right
  linarith

/-- While the adjustments are steady, the rate stays within its bounds, and
under the ceiling wherever a step could need it. -/
theorem steady_rate {responses : List Response}
    (steady : Steady pps (limiter now pps) responses) {n : Nat}
    (within : n ≤ responses.length) :
    1 / 10 ≤ (limiter now pps).rateAfter responses n ∧
      ((limiter now pps).rateAfter responses n ≤ (limiter now pps).maxRate ∨
        (pps < 1 / 100 ∧ (limiter now pps).rateAfter responses n = 1 / 10)) := by
  have ceiling := limiter_maxRate positive now
  induction n with
  | zero =>
      rw [RateLimiter.rateAfter_zero, limiter_rate, ceiling]
      refine ⟨le_max_left _ _, ?_⟩
      by_cases small : pps < 1 / 100
      · exact .inr ⟨small, max_eq_left (by linarith)⟩
      · exact .inl (max_le (by linarith) (by linarith))
  | succ n induction =>
      obtain ⟨floor, under⟩ := induction (Nat.le_of_succ_le within)
      rw [(limiter_fresh now).rateAfter_succ within]
      by_cases due : 100 ∣ n + 1
      · obtain ⟨high, low⟩ := steady n within due
        rw [if_pos due]
        rcases under with le | ⟨small, same⟩
        · refine ⟨?_, .inl (Batch.adjusted_le le high)⟩
          exact Batch.le_adjusted floor (by norm_num) (by norm_num) le
        · have notHigh : ¬ Batch.lossFraction responses (n + 1) > 5 / 100 := by
            intro lossy
            have one_le := high lossy
            rw [same] at one_le
            norm_num at one_le
          have notLow : ¬ Batch.lossFraction responses (n + 1) < 1 / 100 := by
            intro lossless
            exact (low lossless).not_gt small
          rw [Batch.adjusted, if_neg notHigh, if_neg notLow]
          exact ⟨floor, .inr ⟨small, same⟩⟩
      · rw [if_neg due]
        exact ⟨floor, under⟩

theorem bounded_of_steady {responses : List Response}
    (steady : Steady pps (limiter now pps) responses) :
    Bounded (limiter now pps) responses := by
  intro n within q before after
  obtain ⟨floor, under⟩ := steady_rate positive now steady within
  obtain ⟨floorBefore, underBefore⟩ :=
    steady_rate positive now steady (Nat.le_of_succ_le within)
  have next := (limiter_fresh now : (limiter now pps).Fresh).rateAfter_succ within
  refine ⟨floor, ?_, ?_⟩
  · rcases under with le | ⟨_, same⟩
    · exact le_max_of_le_right le
    · exact le_max_of_le_left same.le
  · intro due
    obtain ⟨high, low⟩ := steady n within due
    rw [if_pos due] at next
    constructor
    · intro lossy
      rw [show after = _ from next]
      exact Batch.adjusted_le_of_high lossy (high lossy)
    · intro lossless
      rw [show after = _ from next]
      apply Batch.le_adjusted_of_low lossless
      · exact le_trans (by norm_num) floorBefore
      · rcases underBefore with le | ⟨small, _⟩
        · exact le
        · exact absurd small (low lossless).not_gt

theorem steady_of_bounded {responses : List Response}
    (bounded : Bounded (limiter now pps) responses) :
    Steady pps (limiter now pps) responses := by
  intro n within due q
  obtain ⟨_, _, ways⟩ := bounded n within
  obtain ⟨falls, rises⟩ := ways due
  have next := (limiter_fresh now : (limiter now pps).Fresh).rateAfter_succ within
  rw [if_pos due] at next
  constructor
  · intro lossy
    have lower := falls lossy
    rw [next, Batch.adjusted, if_pos lossy] at lower
    exact (le_max_left _ _).trans lower
  · intro lossless
    have notHigh : ¬ q > 5 / 100 := by linarith
    have higher := rises lossless
    rw [next, Batch.adjusted, if_neg notHigh, if_pos lossless,
      limiter_maxRate positive now] at higher
    have floor : 1 / 10 ≤ (limiter now pps).rateAfter responses n := by
      cases n with
      | zero =>
          rw [RateLimiter.rateAfter_zero, limiter_rate]
          exact le_max_left _ _
      | succ n => exact (bounded n (Nat.le_of_succ_le within)).1
    linarith [higher.trans (min_le_left _ _)]

theorem steady_of_one_le (one_le : 1 ≤ pps) (responses : List Response) :
    Steady pps (limiter now pps) responses := by
  intro n within _ q
  have starts : (limiter now pps).rate = pps := by
    rw [limiter_rate]
    exact max_eq_right (by linarith)
  have ceiling := limiter_maxRate positive now
  have floor : 1 ≤ (limiter now pps).rateAfter responses n := by
    rw [(limiter_fresh now).rateAfter_eq (Nat.le_of_succ_le within)]
    apply (Batch.rate_bounds _ _ n).1
    · rw [starts]
      exact one_le
    · rw [starts, ceiling]
      linarith
  exact ⟨fun _ => floor, fun _ => by linarith⟩

def hundredLosses : List Response :=
  List.replicate 100 ⟨0, true⟩

omit positive in
/-- A rate of at least one packet a second is needed: below it the first
hundred losses raise the rate. -/
theorem one_le_of_steady (steady : Steady pps (limiter now pps) hundredLosses) :
    1 ≤ pps := by
  have lossy : Batch.lossFraction hundredLosses 100 > 5 / 100 := by
    decide +kernel
  have floor := (steady 99 (by decide) (by decide)).1 lossy
  rw [(limiter_fresh now).rateAfter_eq (by decide),
    Batch.rate_of_lt (by decide), limiter_rate] at floor
  rcases le_max_iff.mp floor with absurdly | one_le
  · norm_num at absurdly
  · exact one_le

/-- The rates of a run are bounded exactly where its adjustments are steady, and
the rates of all runs exactly from one packet a second on. -/
theorem limiter_bounded_iff :
    (∀ responses, Bounded (limiter now pps) responses ↔
      Steady pps (limiter now pps) responses) ∧
    ((∀ responses, Bounded (limiter now pps) responses) ↔ 1 ≤ pps) := by
  have each (responses : List Response) :
      Bounded (limiter now pps) responses ↔
        Steady pps (limiter now pps) responses :=
    ⟨steady_of_bounded positive now, bounded_of_steady positive now⟩
  refine ⟨each, ?_, ?_⟩
  · intro all
    exact one_le_of_steady now
      ((each hundredLosses).mp (all hundredLosses))
  · intro one_le responses
    exact (each responses).mpr (steady_of_one_le positive now one_le responses)

end

/-- At half a packet a second the claim fails, and at one it holds. -/
theorem limiter_bounded_iff_half :
    (∃ responses, ¬ Bounded (limiter 0 (1 / 2)) responses) ∧
      ∀ responses, Bounded (limiter 0 1) responses := by
  have half := limiter_bounded_iff (show (0 : ℚ) < 1 / 2 by norm_num) 0
  have one := limiter_bounded_iff (show (0 : ℚ) < 1 by norm_num) 0
  refine ⟨?_, one.2.mpr le_rfl⟩
  by_contra none
  have all := half.2.mp (not_exists_not.mp none)
  norm_num at all

/-- A hundred losses raise the rate from a half to one. -/
theorem hundredLosses_raise_rate :
    (limiter 0 (1 / 2)).rateAfter hundredLosses 99 = 1 / 2 ∧
      (limiter 0 (1 / 2)).rateAfter hundredLosses 100 = 1 ∧
      Batch.lossFraction hundredLosses 100 = 1 ∧
      ¬ Bounded (limiter 0 (1 / 2)) hundredLosses := by
  have before : (limiter 0 (1 / 2)).rateAfter hundredLosses 99 = 1 / 2 := by
    decide +kernel
  have after : (limiter 0 (1 / 2)).rateAfter hundredLosses 100 = 1 := by
    decide +kernel
  have lossy : Batch.lossFraction hundredLosses 100 = 1 := by
    decide +kernel
  refine ⟨before, after, lossy, ?_⟩
  intro bounded
  have falls := ((bounded 99 (by decide)).2.2 (by decide)).1
    (by rw [lossy]; norm_num)
  rw [before, after] at falls
  norm_num at falls

end ServicePortScanner.Gui.ScanController
