import Mathlib.Algebra.Order.Floor.Ring
import Mathlib.Data.List.Infix
import Mathlib.Data.Rat.Floor
import ServicePortScanner.Data.TokenBucket

namespace ServicePortScanner.Net

open ServicePortScanner.Data

/-! The token-bucket limiter in exact arithmetic, one serialised step at a time.
Times are seconds and rates are tokens per second. -/

inductive Mode where
  | fixed
  | adaptive
  deriving DecidableEq, Repr

def kEwmaAlpha : ℚ := 0.125
def kEwmaBeta : ℚ := 0.25
def kLossHigh : ℚ := 0.05
def kLossLow : ℚ := 0.01
def kStepDown : ℚ := 0.7
def kStepUp : ℚ := 1.05
def kAdjustEvery : Nat := 100
def kWindowReset : Nat := 1000

structure RateLimiter where
  rate : ℚ
  capacity : ℚ
  tokens : ℚ
  lastRefill : ℚ
  mode : Mode
  maxRate : ℚ
  srttMs : ℚ := -1
  rttvarMs : ℚ := 0
  sampleCount : Nat := 0
  lossCount : Nat := 0
  deriving DecidableEq, Repr

inductive Iteration where
  | granted
  | sleep (nanoseconds : Int)
  deriving DecidableEq, Repr

namespace RateLimiter

/-- The constructor, called when the clock reads `now`. -/
def construct (now tokensPerSecond bucketCapacity : ℚ) (mode : Mode)
    (maxRate : ℚ) : RateLimiter where
  rate := max 0.1 tokensPerSecond
  capacity := max 1 bucketCapacity
  tokens := max 1 bucketCapacity
  lastRefill := now
  mode := mode
  maxRate := max tokensPerSecond maxRate

def refillLocked (limiter : RateLimiter) (now : ℚ) : RateLimiter :=
  let dt := now - limiter.lastRefill
  { limiter with
    tokens := min limiter.capacity (limiter.tokens + dt * limiter.rate)
    lastRefill := now }

def setRate (limiter : RateLimiter) (tokensPerSecond : ℚ) : RateLimiter :=
  { limiter with rate := max 0.1 tokensPerSecond }

def lossRatio (limiter : RateLimiter) : ℚ :=
  if limiter.sampleCount = 0 then 0
  else (limiter.lossCount : ℚ) / limiter.sampleCount

/-- `duration_cast<nanoseconds>` of a duration in seconds truncates. -/
def nanosecondsOf (seconds : ℚ) : Int :=
  if 0 ≤ seconds then ⌊seconds * 1000000000⌋ else ⌈seconds * 1000000000⌉

/-- One iteration of the loop in `acquire`. -/
def acquireIteration (limiter : RateLimiter) (now : ℚ) :
    Iteration × RateLimiter :=
  let limiter := limiter.refillLocked now
  if 1 ≤ limiter.tokens then
    (.granted, { limiter with tokens := limiter.tokens - 1 })
  else
    let need := 1 - limiter.tokens
    (.sleep (nanosecondsOf (need / limiter.rate)), limiter)

/-- The SRTT and RTTVAR update with a sample that is no loss. -/
def updateRtt (limiter : RateLimiter) (r : ℚ) : RateLimiter :=
  if limiter.srttMs < 0 then
    { limiter with srttMs := r, rttvarMs := r * 0.5 }
  else
    { limiter with
      srttMs := (1 - kEwmaAlpha) * limiter.srttMs + kEwmaAlpha * r
      rttvarMs := (1 - kEwmaBeta) * limiter.rttvarMs +
        kEwmaBeta * |limiter.srttMs - r| }

/-- The rate an adjustment at `samples` samples stores. -/
def adjustedRate (limiter : RateLimiter) (samples losses : Nat) : ℚ :=
  let ratio : ℚ := losses / samples
  if ratio > kLossHigh then max 1 (limiter.rate * kStepDown)
  else if ratio < kLossLow then min limiter.maxRate (limiter.rate * kStepUp)
  else limiter.rate

def observeRtt (limiter : RateLimiter) (rtt : Int) (wasLoss : Bool) :
    RateLimiter :=
  if wasLoss = false ∧ 0 ≤ rtt then limiter.updateRtt rtt else limiter

def countSample (limiter : RateLimiter) (wasLoss : Bool) : RateLimiter :=
  { limiter with
    sampleCount := limiter.sampleCount + 1
    lossCount := limiter.lossCount + if wasLoss then 1 else 0 }

/-- The part of `on_response` behind the test for an adjustment. -/
def adjust (limiter : RateLimiter) : RateLimiter :=
  let adjusted :=
    { limiter with
      rate := limiter.adjustedRate limiter.sampleCount limiter.lossCount }
  if kWindowReset ≤ limiter.sampleCount then
    { adjusted with sampleCount := 0, lossCount := 0 }
  else
    adjusted

def onResponse (limiter : RateLimiter) (rtt : Int) (wasLoss : Bool) :
    RateLimiter :=
  if limiter.mode ≠ .adaptive then limiter
  else
    let limiter := (limiter.observeRtt rtt wasLoss).countSample wasLoss
    if limiter.sampleCount % kAdjustEvery ≠ 0 then limiter
    else limiter.adjust

/-! The bucket is touched by iterations only, the rate by everything else. -/

def bucket (limiter : RateLimiter) : Bucket ℚ where
  capacity := limiter.capacity
  tokens := limiter.tokens
  last := limiter.lastRefill

def Iteration.isGranted : Iteration → Bool
  | .granted => true
  | .sleep _ => false

/-- An iteration of `acquire` is one attempt on the bucket at the current
rate. -/
theorem acquireIteration_attempt (limiter : RateLimiter) (now : ℚ) :
    (Iteration.isGranted (limiter.acquireIteration now).1,
        (limiter.acquireIteration now).2.bucket) =
      limiter.bucket.attempt ⟨now, limiter.rate⟩ := by
  simp only [acquireIteration, Bucket.attempt]
  by_cases whole : 1 ≤ (limiter.refillLocked now).tokens
  · have filled : 1 ≤ (limiter.bucket.refill ⟨now, limiter.rate⟩).tokens := whole
    rw [if_pos whole, if_pos filled]
    rfl
  · have unfilled :
        ¬ 1 ≤ (limiter.bucket.refill ⟨now, limiter.rate⟩).tokens := whole
    rw [if_neg whole, if_neg unfilled]
    rfl

@[simp] theorem acquireIteration_rate (limiter : RateLimiter) (now : ℚ) :
    (limiter.acquireIteration now).2.rate = limiter.rate := by
  simp only [acquireIteration]
  split <;> rfl

theorem observeRtt_bucket (limiter : RateLimiter) (rtt : Int)
    (wasLoss : Bool) :
    (limiter.observeRtt rtt wasLoss).bucket = limiter.bucket := by
  unfold observeRtt updateRtt
  split
  · split <;> rfl
  · rfl

theorem adjust_bucket (limiter : RateLimiter) :
    limiter.adjust.bucket = limiter.bucket := by
  simp only [adjust]
  split <;> rfl

@[simp] theorem onResponse_bucket (limiter : RateLimiter) (rtt : Int)
    (wasLoss : Bool) :
    (limiter.onResponse rtt wasLoss).bucket = limiter.bucket := by
  have counted :
      ((limiter.observeRtt rtt wasLoss).countSample wasLoss).bucket =
        limiter.bucket :=
    observeRtt_bucket limiter rtt wasLoss
  simp only [onResponse]
  split
  · rfl
  · split
    · exact counted
    · exact (adjust_bucket _).trans counted

/-! Runs of the limiter. -/

/-- One step any of the callers can make.  `storeRate` is the store of an
`on_response` that overlaps others: what it writes was computed from values
loaded earlier, so here it is arbitrary. -/
inductive Op (Caller : Type) where
  | iterate (caller : Caller) (now : ℚ)
  | setRate (tokensPerSecond : ℚ)
  | onResponse (rtt : Int) (wasLoss : Bool)
  | storeRate (rate : ℚ)
  deriving DecidableEq, Repr

variable {Caller : Type}

def step (limiter : RateLimiter) : Op Caller → RateLimiter
  | .iterate _ now => (limiter.acquireIteration now).2
  | .setRate rate => limiter.setRate rate
  | .onResponse rtt wasLoss => limiter.onResponse rtt wasLoss
  | .storeRate rate => { limiter with rate := rate }

def run (limiter : RateLimiter) (ops : List (Op Caller)) : RateLimiter :=
  ops.foldl step limiter

@[simp] theorem run_cons (limiter : RateLimiter) (op : Op Caller)
    (rest : List (Op Caller)) :
    limiter.run (op :: rest) = (limiter.step op).run rest := rfl

theorem run_append (limiter : RateLimiter) (ops later : List (Op Caller)) :
    limiter.run (ops ++ later) = (limiter.run ops).run later :=
  List.foldl_append

def Op.clock? : Op Caller → Option ℚ
  | .iterate _ now => some now
  | _ => none

/-- A refill made in a run: who made it, when, the rate it read, and whether
the iteration went on to grant a token. -/
structure Visit (Caller : Type) where
  caller : Caller
  attempt : Attempt ℚ
  granted : Bool
  deriving DecidableEq, Repr

def visit? (limiter : RateLimiter) : Op Caller → Option (Visit Caller)
  | .iterate caller now => some
      { caller := caller
        attempt := ⟨now, limiter.rate⟩
        granted := Iteration.isGranted (limiter.acquireIteration now).1 }
  | _ => none

def visits (limiter : RateLimiter) : List (Op Caller) → List (Visit Caller)
  | [] => []
  | op :: rest => (limiter.visit? op).toList ++ visits (limiter.step op) rest

def Visit.within (visit : Visit Caller) (since till : ℚ) : Bool :=
  decide (since ≤ visit.attempt.now) && decide (visit.attempt.now ≤ till)

def grantsWithin (limiter : RateLimiter) (ops : List (Op Caller))
    (since till : ℚ) : Nat :=
  (limiter.visits ops).countP fun visit =>
    visit.granted && visit.within since till

/-- The largest rate a refill reads in a window, zero where there is none. -/
def largestRate (limiter : RateLimiter) (ops : List (Op Caller))
    (since till : ℚ) : ℚ :=
  (((limiter.visits ops).filter fun visit => visit.within since till).map
    fun visit => visit.attempt.rate).foldr max 0

/-! A run of the limiter is a run of its bucket. -/

theorem step_cases (limiter : RateLimiter) (op : Op Caller) :
    (∃ caller now, op = .iterate caller now) ∨
      (op.clock? = none ∧ limiter.visit? op = none ∧
        (limiter.step op).bucket = limiter.bucket) := by
  cases op with
  | iterate caller now => exact .inl ⟨caller, now, rfl⟩
  | setRate rate => exact .inr ⟨rfl, rfl, rfl⟩
  | onResponse rtt wasLoss =>
      exact .inr ⟨rfl, rfl, onResponse_bucket limiter rtt wasLoss⟩
  | storeRate rate => exact .inr ⟨rfl, rfl, rfl⟩

def attempts (limiter : RateLimiter) (ops : List (Op Caller)) :
    List (Attempt ℚ) :=
  (limiter.visits ops).map Visit.attempt

theorem run_bucket (limiter : RateLimiter) (ops : List (Op Caller)) :
    (limiter.run ops).bucket = limiter.bucket.run (limiter.attempts ops) := by
  induction ops generalizing limiter with
  | nil => rfl
  | cons op rest induction =>
      rcases step_cases limiter op with ⟨caller, now, rfl⟩ | ⟨_, unseen, same⟩
      · have answer :=
          congrArg Prod.snd (acquireIteration_attempt limiter now)
        have moved := induction (limiter.step (.iterate caller now))
        rw [show (limiter.step (Op.iterate caller now)).bucket =
          (limiter.bucket.attempt ⟨now, limiter.rate⟩).2 from answer] at moved
        exact moved
      · have moved := induction (limiter.step op)
        rw [same] at moved
        simpa [attempts, visits, unseen] using moved

theorem outcomes_attempts (limiter : RateLimiter) (ops : List (Op Caller)) :
    limiter.bucket.outcomes (limiter.attempts ops) =
      (limiter.visits ops).map fun visit => (visit.attempt, visit.granted) := by
  induction ops generalizing limiter with
  | nil => rfl
  | cons op rest induction =>
      rcases step_cases limiter op with ⟨caller, now, rfl⟩ | ⟨_, unseen, same⟩
      · have answer := acquireIteration_attempt limiter now
        have tail := induction (limiter.step (.iterate caller now))
        rw [show (limiter.step (Op.iterate caller now)).bucket =
          (limiter.bucket.attempt ⟨now, limiter.rate⟩).2 from
            congrArg Prod.snd answer] at tail
        simp only [attempts, visits, visit?, Option.toList_some,
          List.singleton_append, List.map_cons, Bucket.outcomes] at tail ⊢
        rw [tail, ← congrArg Prod.fst answer]
      · have tail := induction (limiter.step op)
        rw [same] at tail
        simpa [attempts, visits, unseen] using tail

theorem attempts_now (limiter : RateLimiter) (ops : List (Op Caller)) :
    (limiter.attempts ops).map Attempt.now = ops.filterMap Op.clock? := by
  induction ops generalizing limiter with
  | nil => rfl
  | cons op rest induction =>
      have tail := induction (limiter.step op)
      rcases step_cases limiter op with ⟨caller, now, rfl⟩ | ⟨timeless, unseen, _⟩
      · simpa [attempts, visits, visit?, Op.clock?] using tail
      · simpa [attempts, visits, unseen, timeless] using tail

theorem rate_of_mem_attempts {limiter : RateLimiter} {ops : List (Op Caller)}
    {next : Attempt ℚ} (member : next ∈ limiter.attempts ops) :
    ∃ before, before <+: ops ∧ next.rate = (limiter.run before).rate := by
  induction ops generalizing limiter with
  | nil => simp [attempts, visits] at member
  | cons op rest induction =>
      have later (tail : next ∈ (limiter.step op).attempts rest) :
          ∃ before, before <+: op :: rest ∧
            next.rate = (limiter.run before).rate := by
        obtain ⟨before, isPrefix, rate⟩ := induction tail
        exact ⟨op :: before, List.cons_prefix_cons.mpr ⟨rfl, isPrefix⟩, rate⟩
      rcases step_cases limiter op with ⟨caller, now, rfl⟩ | ⟨_, unseen, _⟩
      · have cases : next = ⟨now, limiter.rate⟩ ∨
            next ∈ (limiter.step (.iterate caller now)).attempts rest := by
          simpa [attempts, visits, visit?] using member
        rcases cases with rfl | tail
        · exact ⟨[], List.nil_prefix, rfl⟩
        · exact later tail
      · exact later (by simpa [attempts, visits, unseen] using member)

theorem grantsWithin_eq (limiter : RateLimiter) (ops : List (Op Caller))
    (since till : ℚ) :
    limiter.grantsWithin ops since till =
      limiter.bucket.grants (limiter.attempts ops) since till := by
  rw [grantsWithin, Bucket.grants, outcomes_attempts, List.countP_map]
  apply List.countP_congr
  intro visit _
  simp [Visit.within, and_assoc]

theorem le_foldr_max {rates : List ℚ} {rate : ℚ} (member : rate ∈ rates) :
    rate ≤ rates.foldr max 0 := by
  induction rates with
  | nil => cases member
  | cons head tail induction =>
      rcases List.mem_cons.mp member with rfl | inTail
      · exact le_max_left _ _
      · exact (induction inTail).trans (le_max_right _ _)

theorem largestRate_nonneg (limiter : RateLimiter) (ops : List (Op Caller))
    (since till : ℚ) : 0 ≤ limiter.largestRate ops since till := by
  unfold largestRate
  generalize (((limiter.visits ops).filter fun visit =>
    visit.within since till).map fun visit => visit.attempt.rate) = rates
  induction rates with
  | nil => exact le_refl 0
  | cons head tail induction => exact induction.trans (le_max_right _ _)

theorem rate_le_largestRate {limiter : RateLimiter} {ops : List (Op Caller)}
    {since till : ℚ} {next : Attempt ℚ} (member : next ∈ limiter.attempts ops)
    (started : since ≤ next.now) (inside : next.now ≤ till) :
    next.rate ≤ limiter.largestRate ops since till := by
  obtain ⟨visit, seen, rfl⟩ := List.mem_map.mp member
  apply le_foldr_max
  apply List.mem_map.mpr
  refine ⟨visit, List.mem_filter.mpr ⟨seen, ?_⟩, rfl⟩
  simp [Visit.within, started, inside]

/-! The bound over whole runs. -/

theorem construct_valid (now tokensPerSecond bucketCapacity : ℚ) (mode : Mode)
    (maxRate : ℚ) :
    (construct now tokensPerSecond bucketCapacity mode maxRate).bucket.Valid where
  nonneg := zero_le_one.trans (le_max_left 1 bucketCapacity)
  le_capacity := le_refl _

theorem admissible_attempts {limiter : RateLimiter} {ops : List (Op Caller)}
    (clock : (limiter.lastRefill :: ops.filterMap Op.clock?).Pairwise (· ≤ ·))
    (positive : ∀ before, before <+: ops → 0 < (limiter.run before).rate) :
    limiter.bucket.Admissible (limiter.attempts ops) := by
  constructor
  · rw [attempts_now]
    exact clock
  · intro next member
    obtain ⟨before, isPrefix, rate⟩ := rate_of_mem_attempts member
    rw [rate]
    exact (positive before isPrefix).le

theorem run_capacity (limiter : RateLimiter) (ops : List (Op Caller)) :
    (limiter.run ops).capacity = limiter.capacity := by
  have bucket := congrArg Bucket.capacity (run_bucket limiter ops)
  rw [Bucket.run_capacity] at bucket
  exact bucket

/-- Over every run at a non-decreasing clock with positive rates the balance
stays between zero and the capacity, and in every window the grants are at most
the capacity plus what the window's length earns at the largest rate a refill
reads inside it. -/
theorem run_tokens_and_grants_bounded {start tokensPerSecond bucketCapacity : ℚ}
    {mode : Mode} {maxRate : ℚ} {ops : List (Op Caller)}
    (clock : (start :: ops.filterMap Op.clock?).Pairwise (· ≤ ·))
    (positive : ∀ before, before <+: ops →
      0 < ((construct start tokensPerSecond bucketCapacity mode
        maxRate).run before).rate) :
    let limiter := construct start tokensPerSecond bucketCapacity mode maxRate
    (∀ before, before <+: ops →
      0 ≤ (limiter.run before).tokens ∧
        (limiter.run before).tokens ≤ (limiter.run before).capacity) ∧
    ∀ since till, since ≤ till →
      (limiter.grantsWithin ops since till : ℚ) ≤
        limiter.capacity +
          limiter.largestRate ops since till * (till - since) := by
  intro limiter
  have valid := construct_valid start tokensPerSecond bucketCapacity mode maxRate
  constructor
  · intro before isPrefix
    have clockBefore :
        (start :: before.filterMap Op.clock?).Pairwise (· ≤ ·) :=
      clock.sublist (List.cons_sublist_cons.mpr
        (isPrefix.sublist.filterMap Op.clock?))
    have admissible :
        limiter.bucket.Admissible (limiter.attempts before) :=
      admissible_attempts clockBefore
        fun shorter isShorter => positive shorter (isShorter.trans isPrefix)
    have bounds := valid.run admissible
    rw [← run_bucket] at bounds
    exact ⟨bounds.nonneg, bounds.le_capacity⟩
  · intro since till ordered
    have admissible : limiter.bucket.Admissible (limiter.attempts ops) :=
      admissible_attempts clock positive
    rw [grantsWithin_eq]
    exact Bucket.grants_le_window valid admissible
      (largestRate_nonneg limiter ops since till)
      (fun _ member started inside =>
        rate_le_largestRate member started inside)
      ordered

/-- Two callers on a bucket of one token: the second of them is granted only
after the rate change, in a run that meets the hypotheses of the bound. -/
theorem run_tokens_and_grants_bounded_two_callers :
    (construct 0 1 1 .adaptive 10).grantsWithin
        [.iterate false 0, .iterate true 0, .setRate 4, .iterate true (1 / 4)]
        0 (1 / 4) ≤
      (construct 0 1 1 .adaptive 10).capacity +
        (construct 0 1 1 .adaptive 10).largestRate
          [.iterate false 0, .iterate true 0, .setRate 4, .iterate true (1 / 4)]
          0 (1 / 4) * (1 / 4 - 0) := by
  have clock : ((0 : ℚ) ::
      [Op.iterate false 0, .iterate true 0, .setRate 4,
        .iterate true (1 / 4)].filterMap Op.clock?).Pairwise (· ≤ ·) := by
    decide +kernel
  have bounds := run_tokens_and_grants_bounded clock (by
    intro before isPrefix
    rw [← List.mem_inits] at isPrefix
    revert before
    exact (by decide +kernel :
      ∀ before ∈ [Op.iterate false 0, .iterate true 0, .setRate 4,
          .iterate true (1 / 4)].inits,
        0 < ((construct 0 1 1 .adaptive 10).run before).rate))
  exact bounds.2 0 (1 / 4) (by decide +kernel)

end RateLimiter

end ServicePortScanner.Net
