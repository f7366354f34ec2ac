import Mathlib.Algebra.Order.Field.Basic
import Mathlib.Tactic.Linarith
import Mathlib.Tactic.NormNum
import Mathlib.Tactic.Ring

namespace ServicePortScanner.Data

/-! Token buckets over an ordered field: a bounded balance that grows with time
and pays one token for each granted attempt. -/

structure Bucket (K : Type) where
  capacity : K
  tokens : K
  last : K
  deriving DecidableEq, Repr

/-- One attempt to take a token: when it is made, and the rate it credits. -/
structure Attempt (K : Type) where
  now : K
  rate : K
  deriving DecidableEq, Repr

namespace Bucket

variable {K : Type} [Field K] [LinearOrder K]

def refill (bucket : Bucket K) (attempt : Attempt K) : Bucket K :=
  { bucket with
    tokens := min bucket.capacity
      (bucket.tokens + (attempt.now - bucket.last) * attempt.rate)
    last := attempt.now }

def attempt (bucket : Bucket K) (next : Attempt K) : Bool × Bucket K :=
  let filled := bucket.refill next
  if 1 ≤ filled.tokens then
    (true, { filled with tokens := filled.tokens - 1 })
  else
    (false, filled)

def run (bucket : Bucket K) (attempts : List (Attempt K)) : Bucket K :=
  attempts.foldl (fun state next => (state.attempt next).2) bucket

def outcomes (bucket : Bucket K) :
    List (Attempt K) → List (Attempt K × Bool)
  | [] => []
  | next :: rest =>
      (next, (bucket.attempt next).1) :: outcomes (bucket.attempt next).2 rest

structure Valid (bucket : Bucket K) : Prop where
  nonneg : 0 ≤ bucket.tokens
  le_capacity : bucket.tokens ≤ bucket.capacity

/-- Attempts follow the clock of the bucket and credit no negative rate. -/
structure Admissible (bucket : Bucket K) (attempts : List (Attempt K)) :
    Prop where
  sorted : (bucket.last :: attempts.map Attempt.now).Pairwise (· ≤ ·)
  rates : ∀ next ∈ attempts, 0 ≤ next.rate

@[simp] theorem refill_capacity (bucket : Bucket K) (next : Attempt K) :
    (bucket.refill next).capacity = bucket.capacity := rfl

@[simp] theorem attempt_capacity (bucket : Bucket K) (next : Attempt K) :
    (bucket.attempt next).2.capacity = bucket.capacity := by
  simp only [attempt]
  split <;> rfl

@[simp] theorem attempt_last (bucket : Bucket K) (next : Attempt K) :
    (bucket.attempt next).2.last = next.now := by
  simp only [attempt]
  split <;> rfl

/-- A refused attempt leaves the refilled balance, a granted one takes exactly
one token from a balance of at least one. -/
theorem attempt_tokens (bucket : Bucket K) (next : Attempt K) :
    ((bucket.attempt next).1 = false ∧
        (bucket.attempt next).2.tokens = (bucket.refill next).tokens) ∨
      ((bucket.attempt next).1 = true ∧ 1 ≤ (bucket.refill next).tokens ∧
        (bucket.attempt next).2.tokens = (bucket.refill next).tokens - 1) := by
  unfold attempt
  by_cases whole : 1 ≤ (bucket.refill next).tokens
  · exact .inr (by simp [whole])
  · exact .inl (by simp [whole])

theorem refill_tokens_le (bucket : Bucket K) (next : Attempt K) :
    (bucket.refill next).tokens ≤ bucket.capacity :=
  min_le_left _ _

theorem refill_tokens_le_credit (bucket : Bucket K) (next : Attempt K) :
    (bucket.refill next).tokens ≤
      bucket.tokens + (next.now - bucket.last) * next.rate :=
  min_le_right _ _

/-- Where the first of two refills at one rate stays below the capacity, the
second one makes up for it. -/
theorem refill_refill {bucket : Bucket K} {first next : Attempt K}
    (rate : first.rate = next.rate)
    (room : bucket.tokens + (first.now - bucket.last) * first.rate ≤
      bucket.capacity) :
    (bucket.refill first).refill next = bucket.refill next := by
  have credits : bucket.tokens + (first.now - bucket.last) * first.rate +
      (next.now - first.now) * next.rate =
      bucket.tokens + (next.now - bucket.last) * next.rate := by
    rw [rate]
    ring
  simp only [refill, min_eq_right room, credits]

theorem Admissible.head_le {bucket : Bucket K} {next : Attempt K}
    {rest : List (Attempt K)} (admissible : bucket.Admissible (next :: rest)) :
    bucket.last ≤ next.now := by
  have sorted := admissible.sorted
  rw [List.pairwise_cons] at sorted
  exact sorted.1 next.now (by simp)

theorem Admissible.tail {bucket : Bucket K} {next : Attempt K}
    {rest : List (Attempt K)} (admissible : bucket.Admissible (next :: rest)) :
    (bucket.attempt next).2.Admissible rest := by
  have sorted := admissible.sorted
  rw [List.pairwise_cons] at sorted
  constructor
  · rw [attempt_last]
    exact sorted.2
  · intro later member
    exact admissible.rates later (List.mem_cons_of_mem next member)

@[simp] theorem run_capacity (bucket : Bucket K) (attempts : List (Attempt K)) :
    (bucket.run attempts).capacity = bucket.capacity := by
  induction attempts generalizing bucket with
  | nil => rfl
  | cons next rest induction =>
      exact (induction _).trans (attempt_capacity bucket next)

theorem admissible_cons {bucket : Bucket K} {next : Attempt K}
    {rest : List (Attempt K)} :
    bucket.Admissible (next :: rest) ↔ bucket.last ≤ next.now ∧
      0 ≤ next.rate ∧ (bucket.attempt next).2.Admissible rest := by
  constructor
  · intro admissible
    exact ⟨admissible.head_le, admissible.rates next List.mem_cons_self,
      admissible.tail⟩
  · rintro ⟨later, rate, sorted, rates⟩
    rw [attempt_last] at sorted
    refine ⟨?_, List.forall_mem_cons.mpr ⟨rate, rates⟩⟩
    refine List.pairwise_cons.mpr ⟨?_, sorted⟩
    refine List.forall_mem_cons.mpr ⟨later, ?_⟩
    intro now member
    exact later.trans ((List.pairwise_cons.mp sorted).1 now member)

/-- One attempt more, behind the last one. -/
theorem Admissible.concat {bucket : Bucket K} {attempts : List (Attempt K)}
    {next : Attempt K} (admissible : bucket.Admissible attempts)
    (later : (bucket.run attempts).last ≤ next.now) (rate : 0 ≤ next.rate) :
    bucket.Admissible (attempts ++ [next]) := by
  induction attempts generalizing bucket with
  | nil => exact admissible_cons.mpr ⟨later, rate, by simp, nofun⟩
  | cons first rest induction =>
      obtain ⟨afterLast, firstRate, others⟩ := admissible_cons.mp admissible
      exact admissible_cons.mpr ⟨afterLast, firstRate, induction others later⟩

theorem run_concat (bucket : Bucket K) (attempts : List (Attempt K))
    (next : Attempt K) :
    bucket.run (attempts ++ [next]) = ((bucket.run attempts).attempt next).2 := by
  rw [run, List.foldl_append]
  rfl

theorem outcomes_concat (bucket : Bucket K) (attempts : List (Attempt K))
    (next : Attempt K) :
    bucket.outcomes (attempts ++ [next]) = bucket.outcomes attempts ++
      [(next, ((bucket.run attempts).attempt next).1)] := by
  induction attempts generalizing bucket with
  | nil => rfl
  | cons first rest induction =>
      rw [List.cons_append, outcomes, induction]
      rfl

/-! Grants within a window of time. -/

def grants (bucket : Bucket K) (attempts : List (Attempt K)) (since till : K) :
    Nat :=
  (bucket.outcomes attempts).countP fun outcome =>
    outcome.2 && decide (since ≤ outcome.1.now) && decide (outcome.1.now ≤ till)

theorem grants_cons (bucket : Bucket K) (next : Attempt K)
    (rest : List (Attempt K)) (since till : K) :
    bucket.grants (next :: rest) since till =
      (bucket.attempt next).2.grants rest since till +
        if (bucket.attempt next).1 = true ∧ since ≤ next.now ∧ next.now ≤ till
        then 1 else 0 := by
  simp [grants, outcomes, List.countP_cons, and_assoc]

theorem grants_eq_zero_of_late {bucket : Bucket K}
    {attempts : List (Attempt K)} {since till : K}
    (sorted : (bucket.last :: attempts.map Attempt.now).Pairwise (· ≤ ·))
    (late : till < bucket.last) : bucket.grants attempts since till = 0 := by
  induction attempts generalizing bucket with
  | nil => rfl
  | cons next rest induction =>
      rw [List.map_cons, List.pairwise_cons] at sorted
      have afterLast := sorted.1 next.now (by simp)
      have tooLate : till < next.now := lt_of_lt_of_le late afterLast
      rw [grants_cons, induction (by simpa using sorted.2) (by simpa using tooLate)]
      simp [not_le.mpr tooLate]

/-- What a grant in the window takes, it takes from the refilled balance. -/
theorem grants_add_tokens (bucket : Bucket K) (next : Attempt K)
    (rest : List (Attempt K)) {since till : K} (started : since ≤ next.now)
    (inside : next.now ≤ till) :
    (bucket.grants (next :: rest) since till : K) +
        (bucket.attempt next).2.tokens =
      (bucket.attempt next).2.grants rest since till +
        (bucket.refill next).tokens := by
  rw [grants_cons]
  rcases attempt_tokens bucket next with ⟨refused, same⟩ | ⟨granted, _, paid⟩
  · simp [refused, same]
  · simp only [granted, started, inside, and_self, if_true, Nat.cast_add,
      Nat.cast_one, paid]
    ring

theorem run_last_le (bucket : Bucket K) {attempts : List (Attempt K)} {till : K}
    (started : bucket.last ≤ till) (before : ∀ next ∈ attempts, next.now ≤ till) :
    (bucket.run attempts).last ≤ till := by
  induction attempts generalizing bucket with
  | nil => exact started
  | cons next rest induction =>
      apply induction (bucket.attempt next).2
      · rw [attempt_last]
        exact before next List.mem_cons_self
      · exact fun other member => before other (List.mem_cons_of_mem next member)

/-- Below a capacity of a token nothing is cut off: a refused attempt adds all
that the time since the last one earned. -/
theorem attempt_refused {bucket : Bucket K} {next : Attempt K}
    (room : 1 ≤ bucket.capacity) (refused : (bucket.attempt next).1 = false) :
    (bucket.attempt next).2.tokens =
        bucket.tokens + (next.now - bucket.last) * next.rate ∧
      (bucket.attempt next).2.tokens < 1 := by
  have below : ¬ 1 ≤ (bucket.refill next).tokens := by
    intro whole
    rw [attempt, if_pos whole] at refused
    cases refused
  rw [attempt, if_neg below]
  rcases min_choice bucket.capacity
    (bucket.tokens + (next.now - bucket.last) * next.rate) with full | credited
  · exact absurd (room.trans full.ge) below
  · exact ⟨credited, not_le.mp below⟩

/-! The balance invariant. -/

variable [IsStrictOrderedRing K]

theorem Valid.refill {bucket : Bucket K} {next : Attempt K}
    (valid : bucket.Valid) (later : bucket.last ≤ next.now)
    (rate : 0 ≤ next.rate) : (bucket.refill next).Valid := by
  constructor
  · apply le_min
    · exact valid.nonneg.trans valid.le_capacity
    · have credit : 0 ≤ (next.now - bucket.last) * next.rate :=
        mul_nonneg (sub_nonneg.mpr later) rate
      linarith [valid.nonneg]
  · exact refill_tokens_le bucket next

theorem Valid.attempt {bucket : Bucket K} {next : Attempt K}
    (valid : bucket.Valid) (later : bucket.last ≤ next.now)
    (rate : 0 ≤ next.rate) : (bucket.attempt next).2.Valid := by
  have filled := valid.refill later rate
  have bounds := filled.le_capacity
  rw [refill_capacity] at bounds
  rcases attempt_tokens bucket next with ⟨_, same⟩ | ⟨_, whole, paid⟩
  · constructor
    · rw [same]
      exact filled.nonneg
    · rw [same, attempt_capacity]
      exact bounds
  · constructor
    · rw [paid]
      linarith
    · rw [paid, attempt_capacity]
      linarith

theorem Valid.run {bucket : Bucket K} {attempts : List (Attempt K)}
    (valid : bucket.Valid) (admissible : bucket.Admissible attempts) :
    (bucket.run attempts).Valid := by
  induction attempts generalizing bucket with
  | nil => exact valid
  | cons next rest induction =>
      have rate := admissible.rates next (by simp)
      exact induction (valid.attempt admissible.head_le rate) admissible.tail

/-- From a balance at time `last`, the grants up to `till` are paid by that
balance and by what the time since then earns at the largest rate. -/
theorem grants_le_balance {bucket : Bucket K} {attempts : List (Attempt K)}
    {since till rate : K} (valid : bucket.Valid)
    (admissible : bucket.Admissible attempts) (nonneg : 0 ≤ rate)
    (largest : ∀ next ∈ attempts, since ≤ next.now → next.now ≤ till →
      next.rate ≤ rate)
    (started : since ≤ bucket.last) (opened : bucket.last ≤ till) :
    (bucket.grants attempts since till : K) ≤
      bucket.tokens + rate * (till - bucket.last) := by
  induction attempts generalizing bucket with
  | nil =>
      have earned : 0 ≤ rate * (till - bucket.last) :=
        mul_nonneg nonneg (sub_nonneg.mpr opened)
      have none : bucket.grants [] since till = 0 := rfl
      rw [none, Nat.cast_zero]
      linarith [valid.nonneg]
  | cons next rest induction =>
      have later := admissible.head_le
      have earned : 0 ≤ rate * (till - bucket.last) :=
        mul_nonneg nonneg (sub_nonneg.mpr opened)
      by_cases inside : next.now ≤ till
      · have nextRate := largest next (by simp) (started.trans later) inside
        have tail := induction (valid.attempt later
            (admissible.rates next (by simp))) admissible.tail
          (fun other member => largest other (List.mem_cons_of_mem next member))
          (by simpa using started.trans later) (by simpa using inside)
        rw [attempt_last] at tail
        have credit := refill_tokens_le_credit bucket next
        have bound : (next.now - bucket.last) * next.rate ≤
            (next.now - bucket.last) * rate :=
          mul_le_mul_of_nonneg_left nextRate (sub_nonneg.mpr later)
        have split : rate * (till - bucket.last) =
            (next.now - bucket.last) * rate + rate * (till - next.now) := by
          ring
        have taken := grants_add_tokens bucket next rest
          (started.trans later) inside
        linarith
      · have late : till < (bucket.attempt next).2.last := by
          simpa using inside
        rw [grants_cons, grants_eq_zero_of_late admissible.tail.sorted late]
        simp only [inside, and_false, if_false, Nat.add_zero, Nat.cast_zero]
        linarith [valid.nonneg]

/-- In every window the grants are at most the capacity plus what the window's
length earns at the largest rate credited inside it. -/
theorem grants_le_window {bucket : Bucket K} {attempts : List (Attempt K)}
    {since till rate : K} (valid : bucket.Valid)
    (admissible : bucket.Admissible attempts) (nonneg : 0 ≤ rate)
    (largest : ∀ next ∈ attempts, since ≤ next.now → next.now ≤ till →
      next.rate ≤ rate)
    (ordered : since ≤ till) :
    (bucket.grants attempts since till : K) ≤
      bucket.capacity + rate * (till - since) := by
  induction attempts generalizing bucket with
  | nil =>
      have earned : 0 ≤ rate * (till - since) :=
        mul_nonneg nonneg (sub_nonneg.mpr ordered)
      have none : bucket.grants [] since till = 0 := rfl
      rw [none, Nat.cast_zero]
      linarith [valid.nonneg, valid.le_capacity]
  | cons next rest induction =>
      have later := admissible.head_le
      have validAfter := valid.attempt later (admissible.rates next (by simp))
      have largestRest : ∀ other ∈ rest, since ≤ other.now →
          other.now ≤ till → other.rate ≤ rate :=
        fun other member => largest other (List.mem_cons_of_mem next member)
      by_cases started : since ≤ next.now
      · by_cases inside : next.now ≤ till
        · -- the first attempt of the window starts from at most the capacity
          have tail := grants_le_balance validAfter admissible.tail nonneg
            largestRest (by simpa using started) (by simpa using inside)
          rw [attempt_last] at tail
          have capped := refill_tokens_le bucket next
          have shorter : rate * (till - next.now) ≤ rate * (till - since) :=
            mul_le_mul_of_nonneg_left (by linarith) nonneg
          have taken := grants_add_tokens bucket next rest started inside
          linarith
        · have tail := induction validAfter admissible.tail largestRest
          rw [attempt_capacity] at tail
          rw [grants_cons]
          simpa [inside] using tail
      · have tail := induction validAfter admissible.tail largestRest
        rw [attempt_capacity] at tail
        rw [grants_cons]
        simpa [started] using tail

end Bucket

end ServicePortScanner.Data
