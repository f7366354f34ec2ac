import ServicePortScanner.Net.AdaptiveRate

namespace ServicePortScanner.Net

/-! The losses that the header of the limiter names, against the ones
`on_response` counts. -/

/-- A negative `rtt` or `was_loss`. -/
def Response.isLoss (response : Response) : Bool :=
  decide (response.rtt < 0) || response.wasLoss

/-- A loss by the header that the counter does not see. -/
def Response.Unmarked (response : Response) : Prop :=
  response.rtt < 0 ∧ response.wasLoss = false

/-- The losses among the calls behind the first `start` up to the `n`-th. -/
def lossesBetween (isLoss : Response → Bool) (responses : List Response)
    (start n : Nat) : Nat :=
  ((responses.take n).drop start).countP isLoss

theorem isLoss_eq_wasLoss_iff (response : Response) :
    response.isLoss = response.wasLoss ↔ ¬ response.Unmarked := by
  cases marked : response.wasLoss with
  | true => simp [Response.isLoss, Response.Unmarked, marked]
  | false => simp [Response.isLoss, Response.Unmarked, marked]

theorem wasLoss_le_isLoss (responses : List Response) :
    responses.countP (·.wasLoss) ≤ responses.countP Response.isLoss :=
  List.countP_mono_left fun response _ marked => by
    simp [Response.isLoss, marked]

/-- The two ways to count agree on a list without unmarked losses only. -/
theorem countP_isLoss_eq_iff (responses : List Response) :
    responses.countP (·.wasLoss) = responses.countP Response.isLoss ↔
      ∀ response ∈ responses, ¬ response.Unmarked := by
  induction responses with
  | nil => simp
  | cons response rest induction =>
      have below := wasLoss_le_isLoss rest
      rw [List.forall_mem_cons, ← isLoss_eq_wasLoss_iff, ← induction,
        List.countP_cons, List.countP_cons]
      cases marked : response.wasLoss with
      | true => simp [Response.isLoss, marked]
      | false =>
          cases lost : response.isLoss with
          | true =>
              simp only [Bool.false_eq_true, if_false, if_true, reduceCtorEq,
                false_and, iff_false]
              omega
          | false => simp

namespace RateLimiter

/-- The samples and losses an adjustment in this call reads, if it makes one. -/
def adjustsWith (limiter : RateLimiter) (response : Response) :
    Option (Nat × Nat) :=
  if limiter.mode ≠ .adaptive then none
  else
    let counted := (limiter.observeRtt response.rtt response.wasLoss).countSample
      response.wasLoss
    if counted.sampleCount % kAdjustEvery ≠ 0 then none
    else some (counted.sampleCount, counted.lossCount)

/-- After every call, and in every adjustment, the counters are what the header
says of the calls since the last multiple of 1000. -/
structure FollowsHeader (limiter : RateLimiter) (responses : List Response) :
    Prop where
  samples : ∀ n ≤ responses.length,
    (limiter.respond (responses.take n)).sampleCount = n % 1000
  losses : ∀ n ≤ responses.length,
    (limiter.respond (responses.take n)).lossCount =
      lossesBetween Response.isLoss responses (n / 1000 * 1000) n
  ratio : ∀ n ≤ responses.length,
    (limiter.respond (responses.take n)).lossRatio =
      (lossesBetween Response.isLoss responses (n / 1000 * 1000) n : ℚ) /
        (n % 1000 : Nat)
  adjustments : ∀ n response, responses[n]? = some response →
    ∀ samples losses,
      (limiter.respond (responses.take n)).adjustsWith response =
        some (samples, losses) →
      samples = n % 1000 + 1 ∧
        losses = lossesBetween Response.isLoss responses (n / 1000 * 1000) (n + 1)

/-! What the code counts. -/

/-- The adjustment that `adjustsWith` tells of is the one that is made. -/
theorem onResponse_rate (limiter : RateLimiter) (response : Response) :
    (limiter.onResponse response.rtt response.wasLoss).rate =
      (limiter.adjustsWith response).elim limiter.rate fun counts =>
        limiter.adjustedRate counts.1 counts.2 := by
  obtain ⟨srttMs, rttvarMs, observed⟩ :=
    observeRtt_eq limiter response.rtt response.wasLoss
  rw [onResponse, adjustsWith]
  by_cases fixed : limiter.mode ≠ .adaptive
  · rw [if_pos fixed, if_pos fixed]
    rfl
  · rw [if_neg fixed, if_neg fixed]
    dsimp only
    by_cases between :
        ((limiter.observeRtt response.rtt response.wasLoss).countSample
          response.wasLoss).sampleCount % kAdjustEvery ≠ 0
    · rw [if_pos between, if_pos between, observed]
      rfl
    · rw [if_neg between, if_neg between, observed, adjust]
      split
      · rfl
      · rfl

section

variable {limiter : RateLimiter} {responses : List Response} {n : Nat}

theorem lossesBetween_succ {isLoss : Response → Bool} {response : Response}
    (here : responses[n]? = some response) {start : Nat} (started : start ≤ n) :
    lossesBetween isLoss responses start (n + 1) =
      lossesBetween isLoss responses start n +
        if isLoss response then 1 else 0 := by
  have inside : start ≤ (responses.take n).length := by
    obtain ⟨below, _⟩ := List.getElem?_eq_some_iff.mp here
    rw [List.length_take_of_le below.le]
    exact started
  rw [lossesBetween, List.take_add_one, here, Option.toList_some,
    List.drop_append_of_le_length inside, List.countP_append,
    List.countP_singleton, lossesBetween]

theorem Fresh.counts (fresh : limiter.Fresh) (le : n ≤ responses.length) :
    (limiter.respond (responses.take n)).mode = .adaptive ∧
      (limiter.respond (responses.take n)).sampleCount = n % 1000 ∧
      (limiter.respond (responses.take n)).lossCount =
        lossesBetween (·.wasLoss) responses (n / 1000 * 1000) n := by
  have follows := fresh.follows (responses.take n)
  have samples := follows.sampleCount
  have losses := follows.lossCount
  rw [List.length_take_of_le le] at samples losses
  exact ⟨follows.mode, samples, losses⟩

theorem Fresh.adjustsWith_eq (fresh : limiter.Fresh) {response : Response}
    (here : responses[n]? = some response) :
    (limiter.respond (responses.take n)).adjustsWith response =
      if 100 ∣ n + 1 then
        some (n % 1000 + 1,
          lossesBetween (·.wasLoss) responses (n / 1000 * 1000) (n + 1))
      else none := by
  obtain ⟨below, _⟩ := List.getElem?_eq_some_iff.mp here
  obtain ⟨adaptive, samples, losses⟩ := fresh.counts below.le
  obtain ⟨srttMs, rttvarMs, observed⟩ :=
    observeRtt_eq (limiter.respond (responses.take n)) response.rtt
      response.wasLoss
  have due : (n % 1000 + 1) % kAdjustEvery ≠ 0 ↔ ¬ 100 ∣ n + 1 := by
    rw [kAdjustEvery]
    omega
  rw [adjustsWith, if_neg (not_not.mpr adaptive), observed,
    lossesBetween_succ here (Nat.div_mul_le_self n 1000)]
  simp only [countSample, samples, losses, due, ite_not]

/-! The two counts agree where every loss is marked. -/

theorem lossesBetween_eq_iff (start : Nat) :
    lossesBetween (·.wasLoss) responses start n =
        lossesBetween Response.isLoss responses start n ↔
      ∀ response ∈ (responses.take n).drop start, ¬ response.Unmarked :=
  countP_isLoss_eq_iff _

theorem Fresh.followsHeader (fresh : limiter.Fresh)
    (marked : ∀ response ∈ responses, ¬ response.Unmarked) :
    limiter.FollowsHeader responses := by
  have agree (start n : Nat) : lossesBetween (·.wasLoss) responses start n =
      lossesBetween Response.isLoss responses start n :=
    (lossesBetween_eq_iff start).mpr fun response member =>
      marked response (List.mem_of_mem_take (List.mem_of_mem_drop member))
  constructor
  · intro n le
    exact (fresh.counts le).2.1
  · intro n le
    rw [(fresh.counts le).2.2, agree]
  · intro n le
    obtain ⟨_, samples, losses⟩ := fresh.counts le
    rw [lossRatio, samples, losses, agree]
    split
    · next none => rw [none, Nat.cast_zero, div_zero]
    · rfl
  · intro n response here samples losses adjusts
    rw [fresh.adjustsWith_eq here, agree] at adjusts
    obtain ⟨_, same⟩ := Option.ite_none_right_eq_some.mp adjusts
    cases same
    exact ⟨rfl, rfl⟩

theorem FollowsHeader.marked (fresh : limiter.Fresh)
    (follows : limiter.FollowsHeader responses) :
    ∀ response ∈ responses, ¬ response.Unmarked := by
  intro response member
  obtain ⟨n, below, rfl⟩ := List.getElem_of_mem member
  have here : responses[n]? = some responses[n] := List.getElem?_eq_getElem below
  have inWindow : responses[n] ∈
      (responses.take (n + 1)).drop (n / 1000 * 1000) := by
    have started : n / 1000 * 1000 ≤ (responses.take n).length := by
      rw [List.length_take_of_le below.le]
      exact Nat.div_mul_le_self n 1000
    rw [List.take_add_one, here, Option.toList_some,
      List.drop_append_of_le_length started]
    exact List.mem_append_right _ List.mem_cons_self
  have agree : lossesBetween (·.wasLoss) responses (n / 1000 * 1000) (n + 1) =
      lossesBetween Response.isLoss responses (n / 1000 * 1000) (n + 1) := by
    by_cases full : 1000 ∣ n + 1
    · -- the counters are cleared at once, but the adjustment has read them
      have adjusts := fresh.adjustsWith_eq here
      rw [if_pos (Nat.dvd_trans (by decide) full)] at adjusts
      exact (follows.adjustments n _ here _ _ adjusts).2
    · have window : (n + 1) / 1000 * 1000 = n / 1000 * 1000 := by omega
      have counted := follows.losses (n + 1) below
      rw [(fresh.counts below).2.2, window] at counted
      exact counted
  exact (lossesBetween_eq_iff _).mp agree _ inWindow

end

theorem construct_fresh (start tokensPerSecond bucketCapacity maxRate : ℚ) :
    (construct start tokensPerSecond bucketCapacity .adaptive maxRate).Fresh :=
  ⟨rfl, rfl, rfl⟩

/-- The counters follow the header in exactly the sequences of calls without a
negative `rtt` that is not marked as a loss. -/
theorem followsHeader_iff (start tokensPerSecond bucketCapacity maxRate : ℚ)
    (responses : List Response) :
    (construct start tokensPerSecond bucketCapacity .adaptive
        maxRate).FollowsHeader responses ↔
      ∀ response ∈ responses, ¬ response.Unmarked := by
  have fresh := construct_fresh start tokensPerSecond bucketCapacity maxRate
  exact ⟨fun follows => follows.marked fresh, fresh.followsHeader⟩

/-- A single call with `rtt` -1 and `was_loss` false. -/
theorem unmarkedLoss_not_counted :
    ((construct 0 100 100 .adaptive 10000).respond [⟨-1, false⟩]).lossCount = 0 ∧
      lossesBetween Response.isLoss [⟨-1, false⟩] 0 1 = 1 ∧
      ¬ (construct 0 100 100 .adaptive 10000).FollowsHeader [⟨-1, false⟩] := by
  refine ⟨by decide +kernel, by decide, ?_⟩
  intro follows
  have counted := follows.losses 1 (le_refl 1)
  revert counted
  decide +kernel

end RateLimiter

end ServicePortScanner.Net
