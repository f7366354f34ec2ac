import Mathlib.MeasureTheory.Integral.IntervalIntegral.Basic
import ServicePortScanner.Net.RateLimiter

namespace ServicePortScanner.Net.RateChanges

open ServicePortScanner.Data

/-! Refills and changes of the rate at non-decreasing times. -/

/-- `store` is the store of an `on_response` that overlaps others. -/
inductive Act where
  | refill
  | acquire
  | setRate (tokensPerSecond : ℚ)
  | respond (rtt : Int) (wasLoss : Bool)
  | store (rate : ℚ)
  deriving DecidableEq, Repr

structure Event where
  now : ℚ
  act : Act
  deriving DecidableEq, Repr

def Act.refills : Act → Bool
  | .refill | .acquire => true
  | _ => false

def perform (limiter : RateLimiter) (event : Event) : RateLimiter :=
  match event.act with
  | .refill => limiter.refillLocked event.now
  | .acquire => (limiter.acquireIteration event.now).2
  | .setRate tokensPerSecond => limiter.setRate tokensPerSecond
  | .respond rtt wasLoss => limiter.onResponse rtt wasLoss
  | .store rate => { limiter with rate := rate }

def run (limiter : RateLimiter) (events : List Event) : RateLimiter :=
  events.foldl perform limiter

def Ordered (limiter : RateLimiter) (events : List Event) : Prop :=
  (limiter.lastRefill :: events.map Event.now).Pairwise (· ≤ ·)

/-- What a refill at `now` adds to the tokens. -/
def added (limiter : RateLimiter) (now : ℚ) : ℚ :=
  (limiter.refillLocked now).tokens - limiter.tokens

/-- The events before an instant. -/
noncomputable def past (events : List Event) (instant : ℝ) : List Event :=
  events.takeWhile fun event => decide ((event.now : ℝ) < instant)

noncomputable def inForce (limiter : RateLimiter) (events : List Event)
    (instant : ℝ) : ℝ :=
  (run limiter (past events instant)).rate

/-- The capacity does not cut a refill at `now`. -/
def HasRoom (limiter : RateLimiter) (now : ℚ) : Prop :=
  limiter.tokens + (now - limiter.lastRefill) * limiter.rate ≤ limiter.capacity

def Uncut (limiter : RateLimiter) (events : List Event) : Prop :=
  ∀ before refill after, events = before ++ refill :: after →
    refill.act.refills = true → HasRoom (run limiter before) refill.now

/-- A refill adds at most what the rates in force since the previous one come
to. -/
def CreditsInForce (limiter : RateLimiter) (events : List Event) : Prop :=
  ∀ before refill after, events = before ++ refill :: after →
    refill.act.refills = true →
    let state := run limiter before
    (added state refill.now : ℝ) ≤
      ∫ instant in (state.lastRefill : ℝ)..refill.now,
        inForce limiter events instant

/-- One more refill leaves the tokens of each later one alone, unless the
capacity cuts one of them. -/
def IgnoresExtraRefill (limiter : RateLimiter) (events : List Event) : Prop :=
  ∀ earlier between refill after instant,
    events = earlier ++ between ++ refill :: after →
    refill.act.refills = true →
    let inserted := earlier ++ ⟨instant, .refill⟩ :: between
    Ordered limiter (inserted ++ [refill]) →
    Uncut limiter (earlier ++ between ++ [refill]) →
    Uncut limiter (inserted ++ [refill]) →
    ((run limiter inserted).refillLocked refill.now).tokens =
      ((run limiter (earlier ++ between)).refillLocked refill.now).tokens

structure NotRetroactive (limiter : RateLimiter) (events : List Event) :
    Prop where
  creditsInForce : CreditsInForce limiter events
  ignoresExtraRefill : IgnoresExtraRefill limiter events

/-- A change of the rate with a refill behind it comes at the instant of the last
refill before it. -/
def ChangesAtRefills (limiter : RateLimiter) (events : List Event) : Prop :=
  ∀ before change after, events = before ++ change :: after →
    (∃ refill ∈ after, refill.act.refills = true) →
    let state := run limiter before
    (perform state change).rate ≠ state.rate → change.now = state.lastRefill

/-! A refill touches the bucket only, and nothing else touches it. -/

theorem run_append (limiter : RateLimiter) (before after : List Event) :
    run limiter (before ++ after) = run (run limiter before) after :=
  List.foldl_append

@[simp] theorem run_cons (limiter : RateLimiter) (event : Event)
    (rest : List Event) :
    run limiter (event :: rest) = run (perform limiter event) rest := rfl

@[simp] theorem run_nil (limiter : RateLimiter) : run limiter [] = limiter := rfl

def withBucket (limiter : RateLimiter) (bucket : Bucket ℚ) : RateLimiter :=
  { limiter with
    capacity := bucket.capacity
    tokens := bucket.tokens
    lastRefill := bucket.last }

theorem withBucket_bucket (limiter : RateLimiter) :
    withBucket limiter limiter.bucket = limiter := rfl

theorem refillLocked_eq (limiter : RateLimiter) (now : ℚ) :
    limiter.refillLocked now =
      withBucket limiter (limiter.bucket.refill ⟨now, limiter.rate⟩) := rfl

theorem acquireIteration_eq (limiter : RateLimiter) (now : ℚ) :
    (limiter.acquireIteration now).2 =
      withBucket limiter (limiter.bucket.attempt ⟨now, limiter.rate⟩).2 := by
  have same := congrArg Prod.snd (limiter.acquireIteration_attempt now)
  rw [← same]
  unfold RateLimiter.acquireIteration
  dsimp only
  split
  · rfl
  · rfl

/-- A refill or an attempt, where there is one. -/
def bucketAfter (bucket : Bucket ℚ) (rate : ℚ) (event : Event) : Bucket ℚ :=
  match event.act with
  | .refill => bucket.refill ⟨event.now, rate⟩
  | .acquire => (bucket.attempt ⟨event.now, rate⟩).2
  | _ => bucket

theorem observeRtt_withBucket (limiter : RateLimiter) (bucket : Bucket ℚ)
    (rtt : Int) (wasLoss : Bool) :
    (withBucket limiter bucket).observeRtt rtt wasLoss =
      withBucket (limiter.observeRtt rtt wasLoss) bucket := by
  have srtt : (withBucket limiter bucket).srttMs = limiter.srttMs := rfl
  unfold RateLimiter.observeRtt RateLimiter.updateRtt
  rw [srtt]
  split
  · split
    · rfl
    · rfl
  · rfl

theorem adjust_withBucket (limiter : RateLimiter) (bucket : Bucket ℚ) :
    (withBucket limiter bucket).adjust = withBucket limiter.adjust bucket := by
  have samples :
      (withBucket limiter bucket).sampleCount = limiter.sampleCount := rfl
  unfold RateLimiter.adjust
  dsimp only
  rw [samples]
  split
  · rfl
  · rfl

theorem onResponse_withBucket (limiter : RateLimiter) (bucket : Bucket ℚ)
    (rtt : Int) (wasLoss : Bool) :
    (withBucket limiter bucket).onResponse rtt wasLoss =
      withBucket (limiter.onResponse rtt wasLoss) bucket := by
  have mode : (withBucket limiter bucket).mode = limiter.mode := rfl
  unfold RateLimiter.onResponse
  dsimp only
  rw [mode, observeRtt_withBucket]
  generalize limiter.observeRtt rtt wasLoss = observed
  have counted : (withBucket observed bucket).countSample wasLoss =
      withBucket (observed.countSample wasLoss) bucket := rfl
  have samples : (withBucket (observed.countSample wasLoss) bucket).sampleCount =
      (observed.countSample wasLoss).sampleCount := rfl
  rw [counted, samples, adjust_withBucket]
  split
  · rfl
  · split
    · rfl
    · rfl

/-- An event on a limiter with another bucket. -/
theorem perform_withBucket (limiter : RateLimiter) (bucket : Bucket ℚ)
    (event : Event) :
    perform (withBucket limiter bucket) event =
      withBucket (perform limiter event)
        (bucketAfter bucket limiter.rate event) := by
  unfold perform bucketAfter
  cases event.act with
  | refill => rfl
  | acquire =>
      simp only [acquireIteration_eq]
      rfl
  | setRate tokensPerSecond => rfl
  | respond rtt wasLoss => exact onResponse_withBucket _ _ _ _
  | store rate => rfl

theorem bucketAfter_of_not_refills {event : Event}
    (change : event.act.refills = false) (bucket : Bucket ℚ) (rate : ℚ) :
    bucketAfter bucket rate event = bucket := by
  unfold bucketAfter
  cases act : event.act with
  | refill => rw [act] at change; cases change
  | acquire => rw [act] at change; cases change
  | _ => rfl

theorem perform_bucket (limiter : RateLimiter) (event : Event) :
    (perform limiter event).bucket =
      bucketAfter limiter.bucket limiter.rate event := by
  have performed := perform_withBucket limiter limiter.bucket event
  rw [withBucket_bucket] at performed
  exact congrArg RateLimiter.bucket performed

theorem perform_lastRefill (limiter : RateLimiter) (event : Event) :
    (perform limiter event).lastRefill =
      if event.act.refills then event.now else limiter.lastRefill := by
  have same : (perform limiter event).lastRefill =
      (bucketAfter limiter.bucket limiter.rate event).last :=
    congrArg Bucket.last (perform_bucket limiter event)
  rw [same]
  unfold bucketAfter
  cases event.act with
  | refill => rfl
  | acquire => exact Bucket.attempt_last _ _
  | _ => rfl

/-- What a refilling event does is determined by the refilled limiter. -/
theorem perform_congr {limiter other : RateLimiter} {event : Event}
    (refills : event.act.refills = true)
    (same : limiter.refillLocked event.now = other.refillLocked event.now) :
    perform limiter event = perform other event := by
  unfold perform
  cases act : event.act with
  | refill => exact same
  | acquire =>
      simp only [RateLimiter.acquireIteration, same]
  | setRate _ => rw [act] at refills; cases refills
  | respond _ _ => rw [act] at refills; cases refills
  | store _ => rw [act] at refills; cases refills

/-- A run on a limiter with another bucket. -/
theorem run_withBucket (limiter : RateLimiter) (bucket : Bucket ℚ)
    (events : List Event) :
    ∃ bucket', run (withBucket limiter bucket) events =
      withBucket (run limiter events) bucket' := by
  induction events generalizing limiter bucket with
  | nil => exact ⟨bucket, rfl⟩
  | cons event rest induction =>
      rw [run_cons, run_cons, perform_withBucket]
      exact induction _ _

/-- Changes of the rate leave the bucket to itself. -/
theorem run_changes {events : List Event}
    (changes : ∀ event ∈ events, event.act.refills = false)
    (limiter : RateLimiter) (bucket : Bucket ℚ) :
    run (withBucket limiter bucket) events =
      withBucket (run limiter events) bucket := by
  induction events generalizing limiter with
  | nil => rfl
  | cons event rest induction =>
      have first := changes event (List.mem_cons_self ..)
      have later := fun event member =>
        changes event (List.mem_cons_of_mem _ member)
      rw [run_cons, run_cons, perform_withBucket,
        bucketAfter_of_not_refills first]
      exact induction later _

theorem run_changes_bucket {events : List Event}
    (changes : ∀ event ∈ events, event.act.refills = false)
    (limiter : RateLimiter) :
    (run limiter events).bucket = limiter.bucket := by
  have same := run_changes changes limiter limiter.bucket
  rw [withBucket_bucket] at same
  rw [same]
  rfl

/-! Times. -/

theorem ordered_cons {limiter : RateLimiter} {event : Event}
    {rest : List Event} (ordered : Ordered limiter (event :: rest)) :
    limiter.lastRefill ≤ event.now ∧ Ordered (perform limiter event) rest := by
  unfold Ordered at ordered ⊢
  rw [List.map_cons, List.pairwise_cons, List.pairwise_cons] at ordered
  obtain ⟨first, second, sorted⟩ := ordered
  refine ⟨first event.now (List.mem_cons_self ..), ?_⟩
  rw [perform_lastRefill, List.pairwise_cons]
  refine ⟨?_, sorted⟩
  intro later member
  split
  · exact second later member
  · exact first later (List.mem_cons_of_mem _ member)

theorem ordered_run {limiter : RateLimiter} {before after : List Event}
    (ordered : Ordered limiter (before ++ after)) :
    Ordered (run limiter before) after := by
  induction before generalizing limiter with
  | nil => exact ordered
  | cons event rest induction => exact induction (ordered_cons ordered).2

theorem lastRefill_le {limiter : RateLimiter} {before after : List Event}
    {event : Event} (ordered : Ordered limiter (before ++ event :: after)) :
    (run limiter before).lastRefill ≤ event.now :=
  (ordered_cons (ordered_run ordered)).1

theorem le_of_ordered {limiter : RateLimiter} {before after : List Event}
    {event : Event} (ordered : Ordered limiter (before ++ event :: after)) :
    ∀ later ∈ after, event.now ≤ later.now := by
  have sorted := ordered_run ordered
  unfold Ordered at sorted
  rw [List.map_cons, List.pairwise_cons, List.pairwise_cons] at sorted
  intro later member
  exact sorted.2.1 later.now (List.mem_map_of_mem member)

/-! Changes of the rate at refills only credit nothing else. -/

/-- Behind the last refill the rate stays what it is. -/
theorem ChangesAtRefills.rate_eq {limiter : RateLimiter}
    {before between after : List Event} {refill : Event}
    (atRefills :
      ChangesAtRefills limiter (before ++ between ++ refill :: after))
    (refills : refill.act.refills = true)
    (late : ∀ event ∈ between,
      (run limiter (before ++ between)).lastRefill < event.now) :
    (run limiter before).rate = (run limiter (before ++ between)).rate ∧
      (run limiter before).lastRefill =
        (run limiter (before ++ between)).lastRefill := by
  induction between generalizing before with
  | nil => simp
  | cons event rest induction =>
      have moved : before ++ event :: rest = before ++ [event] ++ rest := by simp
      rw [moved] at atRefills late ⊢
      obtain ⟨rate, last⟩ := induction atRefills fun other member =>
        late other (List.mem_cons_of_mem _ member)
      have lateEvent := late event (List.mem_cons_self ..)
      have performed : run limiter (before ++ [event]) =
          perform (run limiter before) event := by
        rw [run_append]
        rfl
      rw [performed] at rate last
      have stays : event.act.refills = false := by
        by_contra refilled
        rw [Bool.not_eq_false] at refilled
        rw [perform_lastRefill, if_pos refilled] at last
        exact absurd last (ne_of_gt lateEvent)
      have lastBefore : (run limiter before).lastRefill =
          (run limiter (before ++ [event] ++ rest)).lastRefill := by
        rw [← last, perform_lastRefill, stays]
        rfl
      refine ⟨?_, lastBefore⟩
      rw [← rate]
      by_contra changed
      have onTime := atRefills before event (rest ++ refill :: after)
        (by simp) ⟨refill, by simp, refills⟩ (Ne.symm changed)
      rw [lastBefore] at onTime
      exact absurd onTime (ne_of_gt lateEvent)

theorem past_append {before after : List Event} {event : Event}
    {instant : ℝ} (till : instant ≤ event.now) :
    past (before ++ event :: after) instant = past before instant := by
  have stops : decide ((event.now : ℝ) < instant) = false :=
    decide_eq_false (not_lt.mpr till)
  unfold past
  induction before with
  | nil => simp [stops]
  | cons head rest induction =>
      rw [List.cons_append, List.takeWhile_cons, List.takeWhile_cons, induction]

theorem past_split {events : List Event}
    (sorted : (events.map Event.now).Pairwise (· ≤ ·)) (instant : ℝ) :
    ∃ future, events = past events instant ++ future ∧
      ∀ event ∈ future, instant ≤ event.now := by
  induction events with
  | nil => exact ⟨[], rfl, by simp⟩
  | cons head rest induction =>
      rw [List.map_cons, List.pairwise_cons] at sorted
      unfold past at induction ⊢
      rw [List.takeWhile_cons]
      split
      · obtain ⟨future, split, late⟩ := induction sorted.2
        exact ⟨future, congrArg (head :: ·) split, late⟩
      · next stopped =>
          have reached : instant ≤ head.now := by simpa using stopped
          refine ⟨head :: rest, rfl, ?_⟩
          intro event member
          cases List.mem_cons.mp member with
          | inl isHead => exact isHead ▸ reached
          | inr inRest =>
              have ordered := sorted.1 _ (List.mem_map_of_mem inRest)
              exact reached.trans (Rat.cast_le.mpr ordered)

/-- From the last refill to the next one the rate in force is the one the next
refill reads. -/
theorem ChangesAtRefills.inForce_eq {limiter : RateLimiter}
    {before after : List Event} {refill : Event}
    (ordered : Ordered limiter (before ++ refill :: after))
    (atRefills : ChangesAtRefills limiter (before ++ refill :: after))
    (refills : refill.act.refills = true) {instant : ℝ}
    (since : ((run limiter before).lastRefill : ℝ) < instant)
    (till : instant ≤ refill.now) :
    inForce limiter (before ++ refill :: after) instant =
      (run limiter before).rate := by
  have sorted : (before.map Event.now).Pairwise (· ≤ ·) := by
    unfold Ordered at ordered
    rw [List.map_append, List.pairwise_cons, List.pairwise_append] at ordered
    exact ordered.2.1
  rw [inForce, past_append till]
  obtain ⟨future, split, late⟩ := past_split sorted instant
  generalize past before instant = reached at split ⊢
  subst split
  obtain ⟨rate, _⟩ := atRefills.rate_eq refills fun event member =>
    Rat.cast_lt.mp (since.trans_le (late event member))
  rw [rate]

theorem ChangesAtRefills.creditsInForce {limiter : RateLimiter}
    {events : List Event} (ordered : Ordered limiter events)
    (atRefills : ChangesAtRefills limiter events) :
    CreditsInForce limiter events := by
  rintro before refill after rfl refills state
  have later : state.lastRefill ≤ refill.now := lastRefill_le ordered
  have integral : ∫ instant in (state.lastRefill : ℝ)..refill.now,
      inForce limiter (before ++ refill :: after) instant =
      ((refill.now - state.lastRefill) * state.rate : ℚ) := by
    have constant : ∀ instant ∈ Set.uIoc (state.lastRefill : ℝ) refill.now,
        inForce limiter (before ++ refill :: after) instant =
          (state.rate : ℝ) := by
      intro instant inside
      rw [Set.uIoc_of_le (Rat.cast_le.mpr later)] at inside
      exact atRefills.inForce_eq ordered refills inside.1 inside.2
    rw [intervalIntegral.integral_congr_ae (.of_forall constant),
      intervalIntegral.integral_const, smul_eq_mul]
    push_cast
    rfl
  rw [integral, Rat.cast_le]
  have credit := Bucket.refill_tokens_le_credit state.bucket
    ⟨refill.now, state.rate⟩
  exact sub_le_iff_le_add'.mpr credit

/-- A refill before changes that leave the rate what it was is made up for by the
refill behind them. -/
theorem refillLocked_changes {limiter : RateLimiter} {changes : List Event}
    (onlyChanges : ∀ event ∈ changes, event.act.refills = false)
    {instant : ℚ} (now : ℚ)
    (rate : limiter.rate = (run limiter changes).rate)
    (room : HasRoom limiter instant) :
    (run (limiter.refillLocked instant) changes).refillLocked now =
      (run limiter changes).refillLocked now := by
  have merged : (limiter.bucket.refill ⟨instant, limiter.rate⟩).refill
      ⟨now, (run limiter changes).rate⟩ =
      limiter.bucket.refill ⟨now, (run limiter changes).rate⟩ :=
    Bucket.refill_refill rate room
  rw [refillLocked_eq limiter, run_changes onlyChanges,
    refillLocked_eq (run limiter changes), run_changes_bucket onlyChanges,
    ← merged]
  rfl

theorem refillLocked_lastRefill {limiter : RateLimiter}
    (room : HasRoom limiter limiter.lastRefill) :
    limiter.refillLocked limiter.lastRefill = limiter := by
  have under : limiter.tokens ≤ limiter.capacity := by
    simpa [HasRoom] using room
  simp [RateLimiter.refillLocked, under]

/-- The first refill behind an extra one makes up for it. -/
theorem ChangesAtRefills.refillLocked_eq {limiter : RateLimiter}
    {earlier changes later : List Event} {refill : Event} {instant : ℚ}
    (atRefills :
      ChangesAtRefills limiter (earlier ++ changes ++ refill :: later))
    (onlyChanges : ∀ event ∈ changes, event.act.refills = false)
    (refills : refill.act.refills = true)
    (passed : (run limiter earlier).lastRefill < instant)
    (late : ∀ event ∈ changes, instant ≤ event.now)
    (room : HasRoom (run limiter earlier) instant) :
    (run ((run limiter earlier).refillLocked instant) changes).refillLocked
        refill.now =
      (run (run limiter earlier) changes).refillLocked refill.now := by
  have last := congrArg Bucket.last
    (run_changes_bucket onlyChanges (run limiter earlier))
  have behind : ∀ event ∈ changes,
      (run limiter (earlier ++ changes)).lastRefill < event.now := by
    intro event member
    rw [run_append]
    exact last.trans_lt (passed.trans_le (late event member))
  have rate := (atRefills.rate_eq refills behind).1
  rw [run_append] at rate
  exact refillLocked_changes onlyChanges refill.now rate room

theorem ChangesAtRefills.ignoresExtraRefill {limiter : RateLimiter}
    {events : List Event} (atRefills : ChangesAtRefills limiter events) :
    IgnoresExtraRefill limiter events := by
  rintro earlier between refill after instant rfl refills inserted ordered
    uncut uncutInserted
  have split : inserted ++ [refill] =
      earlier ++ ⟨instant, .refill⟩ :: (between ++ [refill]) := by
    simp [inserted]
  rw [split] at ordered
  have room : HasRoom (run limiter earlier) instant :=
    uncutInserted earlier ⟨instant, .refill⟩ _ split rfl
  have since : (run limiter earlier).lastRefill ≤ instant :=
    lastRefill_le ordered
  have behind : ∀ event ∈ between, instant ≤ event.now := by
    intro event member
    exact le_of_ordered ordered event (List.mem_append_left _ member)
  have ranInserted : run limiter inserted =
      run ((run limiter earlier).refillLocked instant) between :=
    run_append _ _ _
  rw [ranInserted, run_append]
  rcases eq_or_lt_of_le since with same | passed
  · rw [← same] at room ⊢
    rw [refillLocked_lastRefill room]
  · cases first : between.find? fun event => event.act.refills with
    | none =>
        have onlyChanges : ∀ event ∈ between, event.act.refills = false := by
          simpa using first
        rw [atRefills.refillLocked_eq onlyChanges refills passed behind room]
    | some next =>
        obtain ⟨nextRefills, changes, later, rfl, isFirst⟩ :=
          List.find?_eq_some_iff_append.mp first
        have onlyChanges : ∀ event ∈ changes, event.act.refills = false := by
          simpa using isFirst
        have moved : earlier ++ (changes ++ next :: later) ++ refill :: after =
            earlier ++ changes ++ next :: (later ++ refill :: after) := by
          simp
        rw [moved] at atRefills
        have kept := atRefills.refillLocked_eq onlyChanges nextRefills passed
          (fun event member => behind event (by simp [member])) room
        rw [run_append, run_append, run_cons, run_cons,
          perform_congr nextRefills kept]

/-! Any other change of the rate is noticed by an extra refill. -/

theorem uncut_cons {limiter : RateLimiter} {event : Event}
    {rest : List Event} :
    Uncut limiter (event :: rest) ↔
      (event.act.refills = true → HasRoom limiter event.now) ∧
        Uncut (perform limiter event) rest := by
  constructor
  · intro uncut
    refine ⟨uncut [] event rest rfl, ?_⟩
    rintro before refill after rfl
    exact uncut (event :: before) refill after rfl
  · rintro ⟨first, later⟩ before refill after split
    cases before with
    | nil =>
        obtain ⟨rfl, rfl⟩ := List.cons_eq_cons.mp split
        exact first
    | cons head tail =>
        obtain ⟨rfl, rfl⟩ := List.cons_eq_cons.mp split
        exact later tail refill after rfl

/-- Where there is room, the capacity plays no role. -/
theorem perform_capacity {limiter : RateLimiter} {event : Event}
    {capacity : ℚ}
    (room : limiter.tokens + (event.now - limiter.lastRefill) * limiter.rate ≤
      capacity) :
    perform { limiter with capacity := capacity } event =
      { perform { limiter with
          capacity := limiter.tokens +
            (event.now - limiter.lastRefill) * limiter.rate } event with
        capacity := capacity } := by
  unfold perform
  cases event.act with
  | refill => simp [RateLimiter.refillLocked, room]
  | acquire =>
      simp only [RateLimiter.acquireIteration, RateLimiter.refillLocked,
        min_eq_right room, min_self]
      split
      · rfl
      · rfl
  | setRate tokensPerSecond => rfl
  | respond rtt wasLoss =>
      change (withBucket limiter
          ⟨capacity, limiter.tokens, limiter.lastRefill⟩).onResponse rtt wasLoss =
        { (withBucket limiter ⟨_, limiter.tokens,
            limiter.lastRefill⟩).onResponse rtt wasLoss with
          capacity := capacity }
      rw [onResponse_withBucket, onResponse_withBucket]
      rfl
  | store rate => rfl

theorem exists_uncut (limiter : RateLimiter) (events : List Event) :
    ∃ bound, ∀ capacity, bound ≤ capacity →
      Uncut { limiter with capacity := capacity } events := by
  induction events generalizing limiter with
  | nil =>
      refine ⟨0, fun capacity _ before refill after split => ?_⟩
      simp at split
  | cons event rest induction =>
      obtain ⟨bound, uncut⟩ := induction (perform { limiter with
        capacity := limiter.tokens +
          (event.now - limiter.lastRefill) * limiter.rate } event)
      refine ⟨max bound (limiter.tokens +
        (event.now - limiter.lastRefill) * limiter.rate), ?_⟩
      intro capacity large
      obtain ⟨overBound, room⟩ := max_le_iff.mp large
      rw [uncut_cons, perform_capacity room]
      exact ⟨fun _ => room, uncut capacity overBound⟩

/-- One capacity that cuts none of several schedules. -/
theorem exists_capacity (limiter : RateLimiter)
    (schedules : List (List Event)) :
    ∃ capacity, 0 ≤ capacity ∧ ∀ events ∈ schedules,
      Uncut { limiter with capacity := capacity } events := by
  have large : ∃ bound, ∀ capacity, bound ≤ capacity →
      ∀ events ∈ schedules, Uncut { limiter with capacity := capacity } events := by
    induction schedules with
    | nil => exact ⟨0, fun _ _ _ member => by cases member⟩
    | cons events rest induction =>
        obtain ⟨bound, uncut⟩ := exists_uncut limiter events
        obtain ⟨others, uncutRest⟩ := induction
        refine ⟨max bound others, ?_⟩
        intro capacity large
        obtain ⟨overBound, overOthers⟩ := max_le_iff.mp large
        exact List.forall_mem_cons.mpr
          ⟨uncut capacity overBound, uncutRest capacity overOthers⟩
  obtain ⟨bound, uncut⟩ := large
  exact ⟨max 0 bound, le_max_left 0 bound, uncut _ (le_max_right 0 bound)⟩

theorem perform_rate_of_refills (limiter : RateLimiter) {event : Event}
    (refills : event.act.refills = true) :
    (perform limiter event).rate = limiter.rate := by
  unfold perform
  cases act : event.act with
  | refill => rfl
  | acquire => exact limiter.acquireIteration_rate event.now
  | setRate _ => rw [act] at refills; cases refills
  | respond _ _ => rw [act] at refills; cases refills
  | store _ => rw [act] at refills; cases refills

theorem run_lastRefill_congr {limiter other : RateLimiter}
    (same : limiter.lastRefill = other.lastRefill) (events : List Event) :
    (run limiter events).lastRefill = (run other events).lastRefill := by
  induction events generalizing limiter other with
  | nil => exact same
  | cons event rest induction =>
      apply induction
      rw [perform_lastRefill, perform_lastRefill, same]

theorem refillLocked_tokens {limiter : RateLimiter} {now : ℚ}
    (room : HasRoom limiter now) :
    (limiter.refillLocked now).tokens =
      limiter.tokens + (now - limiter.lastRefill) * limiter.rate :=
  min_eq_right room

/-- What a refill behind changes of the rate leads to, without and with an extra
one before them. -/
theorem tokens_changes {limiter : RateLimiter} {changes : List Event}
    (onlyChanges : ∀ event ∈ changes, event.act.refills = false) {now : ℚ}
    (room : HasRoom (run limiter changes) now) :
    ((run limiter changes).refillLocked now).tokens =
      limiter.tokens +
        (now - limiter.lastRefill) * (run limiter changes).rate := by
  have same := run_changes_bucket onlyChanges limiter
  have tokens : (run limiter changes).tokens = limiter.tokens :=
    congrArg Bucket.tokens same
  have last : (run limiter changes).lastRefill = limiter.lastRefill :=
    congrArg Bucket.last same
  rw [refillLocked_tokens room, tokens, last]

theorem tokens_extra {limiter : RateLimiter} {changes : List Event}
    (onlyChanges : ∀ event ∈ changes, event.act.refills = false)
    {instant now : ℚ} (roomExtra : HasRoom limiter instant)
    (room : HasRoom (run (limiter.refillLocked instant) changes) now) :
    ((run (limiter.refillLocked instant) changes).refillLocked now).tokens =
      limiter.tokens + (instant - limiter.lastRefill) * limiter.rate +
        (now - instant) * (run limiter changes).rate := by
  have rate : (run (limiter.refillLocked instant) changes).rate =
      (run limiter changes).rate := by
    rw [refillLocked_eq, run_changes onlyChanges]
    rfl
  rw [tokens_changes onlyChanges room, rate, refillLocked_tokens roomExtra]
  rfl

theorem exists_first_refill {events : List Event}
    (occurs : ∃ refill ∈ events, refill.act.refills = true) :
    ∃ changes refill later, events = changes ++ refill :: later ∧
      (∀ event ∈ changes, event.act.refills = false) ∧
      refill.act.refills = true := by
  cases first : events.find? fun event => event.act.refills with
  | none =>
      obtain ⟨refill, member, refills⟩ := occurs
      exact absurd refills (List.find?_eq_none.mp first refill member)
  | some refill =>
      obtain ⟨refills, changes, later, split, isFirst⟩ :=
        List.find?_eq_some_iff_append.mp first
      exact ⟨changes, refill, later, split, by simpa using isFirst, refills⟩

/-- An extra refill that the one behind the changes does not notice credits the
rate that this one reads. -/
theorem rate_eq_of_ignored {limiter : RateLimiter} {changes : List Event}
    (onlyChanges : ∀ event ∈ changes, event.act.refills = false)
    {instant now : ℚ} (passed : limiter.lastRefill < instant)
    (roomExtra : HasRoom limiter instant)
    (room : HasRoom (run limiter changes) now)
    (roomBehind : HasRoom (run (limiter.refillLocked instant) changes) now)
    (ignored :
      ((run (limiter.refillLocked instant) changes).refillLocked now).tokens =
        ((run limiter changes).refillLocked now).tokens) :
    limiter.rate = (run limiter changes).rate := by
  rw [tokens_extra onlyChanges roomExtra roomBehind,
    tokens_changes onlyChanges room] at ignored
  have credited : (instant - limiter.lastRefill) * limiter.rate =
      (instant - limiter.lastRefill) * (run limiter changes).rate := by
    linarith
  exact mul_left_cancel₀ (sub_pos.mpr passed).ne' credited

theorem IgnoresExtraRefill.rate_eq {limiter : RateLimiter}
    {earlier changes later : List Event} {refill : Event} {instant : ℚ}
    (ignores :
      IgnoresExtraRefill limiter (earlier ++ changes ++ refill :: later))
    (onlyChanges : ∀ event ∈ changes, event.act.refills = false)
    (refills : refill.act.refills = true)
    (passed : (run limiter earlier).lastRefill < instant)
    (ordered :
      Ordered limiter (earlier ++ ⟨instant, .refill⟩ :: changes ++ [refill]))
    (uncut : Uncut limiter (earlier ++ changes ++ [refill]))
    (uncutInserted :
      Uncut limiter (earlier ++ ⟨instant, .refill⟩ :: changes ++ [refill])) :
    (run limiter earlier).rate = (run limiter (earlier ++ changes)).rate := by
  have ignored := ignores earlier changes refill later instant rfl refills
    ordered uncut uncutInserted
  have roomExtra : HasRoom (run limiter earlier) instant :=
    uncutInserted earlier ⟨instant, .refill⟩ (changes ++ [refill])
      (by simp) rfl
  have room := uncut (earlier ++ changes) refill [] rfl refills
  have roomBehind := uncutInserted
    (earlier ++ ⟨instant, .refill⟩ :: changes) refill [] rfl refills
  rw [run_append, run_append] at ignored
  rw [run_append] at room roomBehind ⊢
  exact rate_eq_of_ignored onlyChanges passed roomExtra room roomBehind ignored

theorem ordered_of_now {limiter : RateLimiter} {other : List Event}
    (events later : List Event)
    (ordered : Ordered limiter (events ++ later))
    (same : other.map Event.now = events.map Event.now) :
    Ordered limiter other := by
  unfold Ordered at ordered ⊢
  rw [same]
  rw [List.map_append, ← List.cons_append, List.pairwise_append] at ordered
  exact ordered.1

theorem ordered_twice {limiter : RateLimiter} {before after : List Event}
    {event : Event} (ordered : Ordered limiter (before ++ event :: after)) :
    Ordered limiter (before ++ event :: event :: after) := by
  unfold Ordered at ordered ⊢
  simp only [List.map_append, List.map_cons, List.pairwise_cons,
    List.pairwise_append, List.mem_append, List.mem_cons] at ordered ⊢
  grind

/-- Two extra refills around a change, which no refill behind them notices. -/
theorem rate_eq_of_ignores {limiter : RateLimiter}
    {before changes later : List Event} {change refill : Event}
    (isChange : change.act.refills = false)
    (onlyChanges : ∀ event ∈ changes, event.act.refills = false)
    (refills : refill.act.refills = true)
    (passed : (run limiter before).lastRefill < change.now)
    (ordered : Ordered limiter (before ++ change :: (changes ++ refill :: later)))
    (ignores : IgnoresExtraRefill limiter
      (before ++ change :: (changes ++ refill :: later)))
    (uncut : Uncut limiter (before ++ change :: changes ++ [refill]))
    (uncutBefore : Uncut limiter
      (before ++ ⟨change.now, .refill⟩ :: change :: changes ++ [refill]))
    (uncutBehind : Uncut limiter
      (before ++ [change] ++ ⟨change.now, .refill⟩ :: changes ++ [refill])) :
    (run limiter before).rate =
      (perform (run limiter before) change).rate := by
  have changesOnly : ∀ event ∈ change :: changes, event.act.refills = false :=
    List.forall_mem_cons.mpr ⟨isChange, onlyChanges⟩
  have performed : run limiter (before ++ [change]) =
      perform (run limiter before) change := run_append _ _ _
  have passedBehind :
      (run limiter (before ++ [change])).lastRefill < change.now := by
    rw [performed, perform_lastRefill, isChange]
    exact passed
  have twice : Ordered limiter
      (before ++ change :: change :: changes ++ [refill] ++ later) := by
    simpa using ordered_twice ordered
  have rateBefore : (run limiter before).rate =
      (run limiter (before ++ change :: changes)).rate := by
    have split : before ++ change :: (changes ++ refill :: later) =
        before ++ change :: changes ++ refill :: later := by simp
    rw [split] at ignores
    exact ignores.rate_eq changesOnly refills passed
      (ordered_of_now _ later twice (by simp)) uncut uncutBefore
  have rateBehind : (run limiter (before ++ [change])).rate =
      (run limiter (before ++ [change] ++ changes)).rate := by
    have split : before ++ change :: (changes ++ refill :: later) =
        before ++ [change] ++ changes ++ refill :: later := by simp
    rw [split] at ignores
    exact ignores.rate_eq onlyChanges refills passedBehind
      (ordered_of_now _ later twice (by simp)) (by simpa using uncut)
      uncutBehind
  have moved : before ++ [change] ++ changes = before ++ change :: changes := by
    simp
  rw [← performed, rateBehind, moved, ← rateBefore]

theorem changesAtRefills_of_ignoresExtraRefill {limiter : RateLimiter}
    {events : List Event} (ordered : Ordered limiter events)
    (ignores : ∀ capacity tokens, 0 ≤ tokens → tokens ≤ capacity →
      IgnoresExtraRefill
        { limiter with capacity := capacity, tokens := tokens } events) :
    ChangesAtRefills limiter events := by
  rintro before change after rfl refillBehind state changed
  by_contra elsewhere
  have isChange : change.act.refills = false := by
    by_contra refills
    rw [Bool.not_eq_false] at refills
    exact changed (perform_rate_of_refills state refills)
  obtain ⟨changes, refill, later, rfl, onlyChanges, refills⟩ :=
    exists_first_refill refillBehind
  -- an empty bucket that is large enough for all three schedules
  obtain ⟨capacity, nonneg, uncut⟩ :=
    exists_capacity { limiter with tokens := 0 }
      [before ++ change :: changes ++ [refill],
        before ++ ⟨change.now, .refill⟩ :: change :: changes ++ [refill],
        before ++ [change] ++ ⟨change.now, .refill⟩ :: changes ++ [refill]]
  let start := { limiter with capacity := capacity, tokens := 0 }
  obtain ⟨bucket, sameRun⟩ := run_withBucket limiter
    ⟨capacity, 0, limiter.lastRefill⟩ before
  have sameState : run start before = withBucket state bucket := sameRun
  have sameLast : start.lastRefill = limiter.lastRefill := rfl
  have passed : (run start before).lastRefill < change.now := by
    rw [run_lastRefill_congr sameLast before]
    exact lt_of_le_of_ne (lastRefill_le ordered) (Ne.symm elsewhere)
  have same := rate_eq_of_ignores isChange onlyChanges refills passed ordered
    (ignores capacity 0 le_rfl nonneg) (uncut _ (by simp)) (uncut _ (by simp))
    (uncut _ (by simp))
  rw [sameState, perform_withBucket] at same
  exact changed same.symm

theorem ChangesAtRefills.otherBucket {limiter : RateLimiter}
    {events : List Event} (atRefills : ChangesAtRefills limiter events)
    (capacity tokens : ℚ) :
    ChangesAtRefills
      { limiter with capacity := capacity, tokens := tokens } events := by
  intro before change after split refillBehind state changed
  obtain ⟨bucket, sameRun⟩ := run_withBucket limiter
    ⟨capacity, tokens, limiter.lastRefill⟩ before
  have sameState : state = withBucket (run limiter before) bucket := sameRun
  have sameLast :
      { limiter with capacity := capacity, tokens := tokens }.lastRefill =
        limiter.lastRefill := rfl
  have last : state.lastRefill = (run limiter before).lastRefill :=
    run_lastRefill_congr sameLast before
  rw [last]
  apply atRefills before change after split refillBehind
  rw [sameState, perform_withBucket] at changed
  exact changed

/-- No change of the rate is retroactive, whatever the bucket holds, if and only
if the changes with a refill behind them come at refills. -/
theorem notRetroactive_iff {limiter : RateLimiter} {events : List Event}
    (ordered : Ordered limiter events) :
    (∀ capacity tokens, 0 ≤ tokens → tokens ≤ capacity →
      NotRetroactive
        { limiter with capacity := capacity, tokens := tokens } events) ↔
      ChangesAtRefills limiter events := by
  constructor
  · intro holds
    apply changesAtRefills_of_ignoresExtraRefill ordered
    intro capacity tokens nonneg le
    exact (holds capacity tokens nonneg le).ignoresExtraRefill
  · intro atRefills capacity tokens _ _
    have here := atRefills.otherBucket capacity tokens
    exact ⟨here.creditsInForce ordered, here.ignoresExtraRefill⟩

theorem changesAtRefills_nil (limiter : RateLimiter) :
    ChangesAtRefills limiter [] := by
  intro before change after split
  simp at split

theorem changesAtRefills_cons {limiter : RateLimiter} {event : Event}
    {rest : List Event}
    (here : (perform limiter event).rate ≠ limiter.rate →
      event.now = limiter.lastRefill)
    (later : ChangesAtRefills (perform limiter event) rest) :
    ChangesAtRefills limiter (event :: rest) := by
  intro before change after split
  cases before with
  | nil =>
      obtain ⟨rfl, rfl⟩ := List.cons_eq_cons.mp split
      exact fun _ => here
  | cons head tail =>
      obtain ⟨rfl, rfl⟩ := List.cons_eq_cons.mp split
      exact later tail change after rfl

/-- A limiter of one token, and one token in its bucket. -/
def oneToken : RateLimiter :=
  RateLimiter.construct 0 1 1 .fixed 1

/-- A hundred times the rate, right at the refill before. -/
def raiseAtRefill : List Event :=
  [⟨0, .acquire⟩, ⟨0, .setRate 100⟩, ⟨1 / 100, .refill⟩]

theorem notRetroactive_raiseAtRefill :
    Ordered oneToken raiseAtRefill ∧ NotRetroactive oneToken raiseAtRefill := by
  have ordered : Ordered oneToken raiseAtRefill := by
    simp [Ordered, oneToken, RateLimiter.construct, raiseAtRefill]
  have atRefills : ChangesAtRefills oneToken raiseAtRefill := by
    apply changesAtRefills_cons (by decide +kernel)
    apply changesAtRefills_cons (by decide +kernel)
    apply changesAtRefills_cons (by decide +kernel)
    exact changesAtRefills_nil _
  exact ⟨ordered, (notRetroactive_iff ordered).mpr atRefills oneToken.capacity
    oneToken.tokens (by decide +kernel) (by decide +kernel)⟩

/-- The same raise at the end of the time between the refills. -/
def raiseBeforeRefill : List Event :=
  [⟨0, .acquire⟩, ⟨1 / 100, .setRate 100⟩, ⟨1 / 100, .refill⟩]

theorem raiseBeforeRefill_retroactive :
    ¬ ∀ (limiter : RateLimiter) (events : List Event),
      limiter.bucket.Valid → Ordered limiter events →
      NotRetroactive limiter events := by
  intro claimed
  have valid : oneToken.bucket.Valid := ⟨by decide +kernel, by decide +kernel⟩
  have ordered : Ordered oneToken raiseBeforeRefill := by
    simp [Ordered, oneToken, RateLimiter.construct, raiseBeforeRefill]
  have credits := (claimed _ _ valid ordered).creditsInForce
    [⟨0, .acquire⟩, ⟨1 / 100, .setRate 100⟩] ⟨1 / 100, .refill⟩ [] rfl rfl
  have whole : added (run oneToken
      [⟨0, .acquire⟩, ⟨1 / 100, .setRate 100⟩]) (1 / 100) = 1 := by
    decide +kernel
  have last : (run oneToken
      [⟨0, .acquire⟩, ⟨1 / 100, .setRate 100⟩]).lastRefill = 0 := by
    decide +kernel
  have constant : ∀ instant ∈ Set.uIoc (0 : ℝ) (1 / 100),
      inForce oneToken raiseBeforeRefill instant = 1 := by
    intro instant inside
    rw [Set.uIoc_of_le (by norm_num)] at inside
    have late : instant ≤ 100⁻¹ := by simpa using inside.2
    have stops : past raiseBeforeRefill instant = [⟨0, .acquire⟩] := by
      simp [past, raiseBeforeRefill, inside.1, late]
    have rate : (run oneToken [⟨0, .acquire⟩]).rate = 1 := by decide +kernel
    rw [inForce, stops, rate, Rat.cast_one]
  have earned : ∫ instant in (0 : ℝ)..(1 / 100),
      inForce oneToken raiseBeforeRefill instant = 1 / 100 := by
    rw [intervalIntegral.integral_congr_ae (.of_forall constant)]
    simp
  dsimp only at credits
  rw [whole, last] at credits
  push_cast at credits
  have tooMuch := credits.trans_eq earned
  norm_num at tooMuch

end ServicePortScanner.Net.RateChanges
