import Mathlib.Tactic.FieldSimp
import ServicePortScanner.Net.Acquire

namespace ServicePortScanner.Net

open ServicePortScanner.Data

/-! A caller that waits in `acquire`, and how long it can be kept waiting. -/

/-- An iteration of the loop: when it reads the clock, and the rates it loads
for the refill and for the wait. -/
structure Round where
  now : ℚ
  refillRate : ℚ
  waitRate : ℚ
  deriving DecidableEq, Repr

namespace RateLimiter

/-- An iteration during which the rate may be changed. -/
def acquireRound (limiter : RateLimiter) (round : Round) :
    Iteration × RateLimiter :=
  let filled := { limiter with rate := round.refillRate }.refillLocked round.now
  if 1 ≤ filled.tokens then
    (.granted,
      { filled with tokens := filled.tokens - 1, rate := round.waitRate })
  else
    (.sleep (nanosecondsOf ((1 - filled.tokens) / round.waitRate)),
      { filled with rate := round.waitRate })

/-- The iterations of one call; it returns from the one that is granted. -/
def acquireRounds (limiter : RateLimiter) : List Round → List Iteration
  | [] => []
  | round :: rest =>
      (limiter.acquireRound round).1 ::
        if Iteration.isGranted (limiter.acquireRound round).1 then []
        else acquireRounds (limiter.acquireRound round).2 rest

/-- Every sleep lasts at least as long as it was requested for. -/
def Sleeps (limiter : RateLimiter) : List Round → Prop
  | [] => True
  | round :: rest =>
      ∀ wait, (limiter.acquireRound round).1 = .sleep wait →
        (∀ next ∈ rest.head?, round.now + wait / 1000000000 ≤ next.now) ∧
          Sleeps (limiter.acquireRound round).2 rest

/-- The balance behind the refill. -/
def refilled (limiter : RateLimiter) (round : Round) : ℚ :=
  min limiter.capacity
    (limiter.tokens + (round.now - limiter.lastRefill) * round.refillRate)

theorem acquireRound_of_whole {limiter : RateLimiter} {round : Round}
    (whole : 1 ≤ limiter.refilled round) :
    limiter.acquireRound round = (.granted, { limiter with
      rate := round.waitRate
      tokens := limiter.refilled round - 1
      lastRefill := round.now }) :=
  if_pos whole

theorem acquireRound_of_short {limiter : RateLimiter} {round : Round}
    (short : ¬ 1 ≤ limiter.refilled round) :
    limiter.acquireRound round =
      (.sleep (nanosecondsOf ((1 - limiter.refilled round) / round.waitRate)),
        { limiter with
          rate := round.waitRate
          tokens := limiter.refilled round
          lastRefill := round.now }) :=
  if_neg short

theorem acquireRound_eq_acquireIteration (limiter : RateLimiter) (now : ℚ) :
    limiter.acquireRound ⟨now, limiter.rate, limiter.rate⟩ =
      limiter.acquireIteration now := by
  simp only [acquireRound, acquireIteration]
  split
  · rfl
  · rfl

/-- Where the coroutine stands after an iteration. -/
def pointAfter (now : ℚ) : Iteration → Acquire.Point
  | .granted => .returned
  | .sleep wait => .sleeping (now + wait / 1000000000)

/-- The accesses of the body, with the rate stored by others before the two
loads of it. -/
theorem execs_acquireRound (limiter : RateLimiter) (round : Round) :
    ∃ dt middle point,
      Acquire.Point.execs limiter.capacity 2
          (Acquire.Memory.of limiter round.now, .readClock) =
        some (Acquire.Memory.of limiter round.now, .readRate round.now dt) ∧
      Acquire.Point.execs limiter.capacity 6
          ({ Acquire.Memory.of limiter round.now with rate := round.refillRate },
            .readRate round.now dt) = some (middle, point) ∧
      Acquire.Point.execs limiter.capacity 1
          ({ middle with rate := round.waitRate }, point) =
        some (Acquire.Memory.of (limiter.acquireRound round).2 round.now,
          pointAfter round.now (limiter.acquireRound round).1) := by
  by_cases whole : 1 ≤ limiter.refilled round
  · rw [acquireRound_of_whole whole]
    refine ⟨round.now - limiter.lastRefill,
      ⟨round.now, round.refillRate, limiter.refilled round, round.now⟩,
      .writeTokensTaken (limiter.refilled round), rfl, ?_, rfl⟩
    rw [refilled] at whole ⊢
    simp only [Acquire.Point.execs, Acquire.Point.exec, Acquire.Memory.of,
      if_pos whole]
  · rw [acquireRound_of_short whole]
    refine ⟨round.now - limiter.lastRefill,
      ⟨round.now, round.refillRate, limiter.refilled round, round.now⟩,
      .readRateForWait (1 - limiter.refilled round), rfl, ?_, rfl⟩
    rw [refilled] at whole ⊢
    simp only [Acquire.Point.execs, Acquire.Point.exec, Acquire.Memory.of,
      if_neg whole]

/-! One iteration. -/

theorem nanosecondsOf_bounds {seconds : ℚ} (nonneg : 0 ≤ seconds) :
    0 ≤ nanosecondsOf seconds ∧
      (nanosecondsOf seconds : ℚ) ≤ seconds * 1000000000 ∧
      seconds * 1000000000 < nanosecondsOf seconds + 1 := by
  rw [nanosecondsOf, if_pos nonneg]
  exact ⟨Int.floor_nonneg.mpr (mul_nonneg nonneg (by norm_num)),
    Int.floor_le _, Int.lt_floor_add_one _⟩

/-- An iteration that is not granted, with the wait it requests. -/
structure Refused (limiter : RateLimiter) (round : Round) (wait : Int) :
    Prop where
  answer : (limiter.acquireRound round).1 = .sleep wait
  tokens : (limiter.acquireRound round).2.tokens =
    limiter.tokens + (round.now - limiter.lastRefill) * round.refillRate
  short : (limiter.acquireRound round).2.tokens < 1
  wait : wait = nanosecondsOf
    ((1 - (limiter.acquireRound round).2.tokens) / round.waitRate)
  lastRefill : (limiter.acquireRound round).2.lastRefill = round.now
  capacity : (limiter.acquireRound round).2.capacity = limiter.capacity

theorem acquireRound_cases {limiter : RateLimiter} (room : 1 ≤ limiter.capacity)
    (round : Round) :
    (limiter.acquireRound round).1 = .granted ∨
      ∃ wait, limiter.Refused round wait := by
  by_cases whole : 1 ≤ limiter.refilled round
  · rw [acquireRound_of_whole whole]
    exact .inl rfl
  · have refused :
        (limiter.bucket.attempt ⟨round.now, round.refillRate⟩).1 = false := by
      rw [Bucket.attempt, if_neg (show ¬ 1 ≤ (limiter.bucket.refill
        ⟨round.now, round.refillRate⟩).tokens from whole)]
    obtain ⟨earned, short⟩ := Bucket.attempt_refused room refused
    have same : (limiter.bucket.attempt ⟨round.now, round.refillRate⟩).2.tokens =
        limiter.refilled round := by
      rw [Bucket.attempt, if_neg (show ¬ 1 ≤ (limiter.bucket.refill
        ⟨round.now, round.refillRate⟩).tokens from whole)]
      rfl
    rw [same] at earned short
    right
    refine ⟨_, ?_, ?_, ?_, rfl, ?_, ?_⟩
    · rw [acquireRound_of_short whole]
    · rw [acquireRound_of_short whole]
      exact earned
    · rw [acquireRound_of_short whole]
      exact short
    · rw [acquireRound_of_short whole]
    · rw [acquireRound_of_short whole]

section

variable {limiter : RateLimiter} {round : Round} {wait : Int}

theorem Refused.seconds_pos (refused : limiter.Refused round wait)
    (positive : 0 < round.waitRate) :
    0 < (1 - (limiter.acquireRound round).2.tokens) / round.waitRate :=
  div_pos (sub_pos.mpr refused.short) positive

theorem Refused.wait_nonneg (refused : limiter.Refused round wait)
    (positive : 0 < round.waitRate) : 0 ≤ wait := by
  rw [refused.wait]
  exact (nanosecondsOf_bounds (refused.seconds_pos positive).le).1

/-- At a rate of at least one token in ten seconds nobody is asked to wait for
more than ten seconds. -/
theorem Refused.wait_le (refused : limiter.Refused round wait)
    (nonneg : 0 ≤ (limiter.acquireRound round).2.tokens)
    (rate : 1 / 10 ≤ round.waitRate) : wait ≤ 10 ^ 10 := by
  have positive : 0 < round.waitRate := by linarith
  have seconds : (1 - (limiter.acquireRound round).2.tokens) / round.waitRate ≤
      10 := by
    rw [div_le_iff₀ positive]
    linarith
  have bound := (nanosecondsOf_bounds (refused.seconds_pos positive).le).2.1
  rw [← refused.wait] at bound
  have total : (wait : ℚ) ≤ (10 ^ 10 : Int) := by
    push_cast
    linarith
  exact Int.cast_le.mp total

theorem Refused.rounds_cons (refused : limiter.Refused round wait)
    (rest : List Round) :
    limiter.acquireRounds (round :: rest) =
      .sleep wait :: (limiter.acquireRound round).2.acquireRounds rest := by
  rw [acquireRounds, refused.answer]
  rfl

theorem rounds_cons_of_granted
    (granted : (limiter.acquireRound round).1 = .granted) (rest : List Round) :
    limiter.acquireRounds (round :: rest) = [.granted] := by
  rw [acquireRounds, granted]
  rfl

theorem Sleeps.of_append {rounds later : List Round}
    (sleeps : limiter.Sleeps (rounds ++ later)) : limiter.Sleeps rounds := by
  induction rounds generalizing limiter with
  | nil => trivial
  | cons round rest induction =>
      rw [List.cons_append] at sleeps
      intro wait asleep
      obtain ⟨woken, after⟩ := sleeps wait asleep
      refine ⟨fun next first => woken next ?_, induction after⟩
      rw [List.head?_append, Option.mem_def.mp first]
      rfl

end

/-! A whole call. -/

/-- The limiter when a call begins. -/
structure Ready (limiter : RateLimiter) (rounds : List Round) : Prop where
  room : 1 ≤ limiter.capacity
  nonneg : 0 ≤ limiter.tokens
  started : ∀ first ∈ rounds.head?, limiter.lastRefill ≤ first.now

def RatesFrom (r : ℚ) (rounds : List Round) : Prop :=
  ∀ round ∈ rounds, r ≤ round.refillRate ∧ r ≤ round.waitRate

section

variable {limiter : RateLimiter} {round : Round} {rest : List Round} {r : ℚ}
  {wait : Int}

theorem Ready.earned_nonneg (ready : limiter.Ready (round :: rest))
    (positive : 0 < r) (rates : RatesFrom r (round :: rest)) :
    0 ≤ (round.now - limiter.lastRefill) * round.refillRate := by
  have rate := (rates round List.mem_cons_self).1
  exact mul_nonneg (sub_nonneg.mpr (ready.started round rfl))
    (positive.le.trans rate)

/-- A refused caller is ready for its next iteration. -/
theorem Ready.next (ready : limiter.Ready (round :: rest)) (positive : 0 < r)
    (rates : RatesFrom r (round :: rest))
    (sleeps : limiter.Sleeps (round :: rest))
    (refused : limiter.Refused round wait) :
    (limiter.acquireRound round).2.Ready rest ∧
      (limiter.acquireRound round).2.Sleeps rest ∧ RatesFrom r rest := by
  have earned := ready.earned_nonneg positive rates
  obtain ⟨woken, after⟩ := sleeps wait refused.answer
  refine ⟨⟨?_, ?_, ?_⟩, after, ?_⟩
  · rw [refused.capacity]
    exact ready.room
  · rw [refused.tokens]
    exact add_nonneg ready.nonneg earned
  · intro next first
    have later := woken next first
    have waited : (0 : ℚ) ≤ wait := Int.cast_nonneg (refused.wait_nonneg
      (positive.trans_le (rates round List.mem_cons_self).2))
    rw [refused.lastRefill]
    have nanoseconds : (0 : ℚ) ≤ wait / 1000000000 :=
      div_nonneg waited (by norm_num)
    linarith
  · exact fun other member => rates other (List.mem_cons_of_mem round member)

/-- While nothing is granted, nothing that time earns is lost. -/
theorem tokens_lt_of_not_granted {before : List Round} {last : Round}
    (ready : limiter.Ready (before ++ [last])) (positive : 0 < r)
    (rates : RatesFrom r (before ++ [last]))
    (sleeps : limiter.Sleeps (before ++ [last]))
    (starved : .granted ∉ limiter.acquireRounds (before ++ [last])) :
    limiter.tokens + r * (last.now - limiter.lastRefill) < 1 := by
  induction before generalizing limiter with
  | nil =>
      rcases acquireRound_cases ready.room last with granted | ⟨wait, refused⟩
      · rw [List.nil_append, rounds_cons_of_granted granted] at starved
        exact absurd List.mem_cons_self starved
      · have short := refused.short
        rw [refused.tokens] at short
        have atLeast : r * (last.now - limiter.lastRefill) ≤
            (last.now - limiter.lastRefill) * last.refillRate := by
          rw [mul_comm]
          exact mul_le_mul_of_nonneg_left (rates last List.mem_cons_self).1
            (sub_nonneg.mpr (ready.started last rfl))
        linarith
  | cons round before induction =>
      rw [List.cons_append] at ready rates sleeps starved
      rcases acquireRound_cases ready.room round with granted | ⟨wait, refused⟩
      · rw [rounds_cons_of_granted granted] at starved
        exact absurd List.mem_cons_self starved
      · obtain ⟨readyNext, sleepsNext, ratesNext⟩ :=
          ready.next positive rates sleeps refused
        rw [refused.rounds_cons] at starved
        have later := induction readyNext ratesNext sleepsNext
          fun granted => starved (List.mem_cons_of_mem _ granted)
        rw [refused.tokens, refused.lastRefill] at later
        have atLeast : r * (round.now - limiter.lastRefill) ≤
            (round.now - limiter.lastRefill) * round.refillRate := by
          rw [mul_comm]
          exact mul_le_mul_of_nonneg_left (rates round List.mem_cons_self).1
            (sub_nonneg.mpr (ready.started round rfl))
        linarith

/-- The caller is granted when 1/r seconds have passed since its first
iteration. -/
theorem granted_of_late {first last : Round} {before : List Round}
    (ready : limiter.Ready (first :: (before ++ [last]))) (positive : 0 < r)
    (rates : RatesFrom r (first :: (before ++ [last])))
    (sleeps : limiter.Sleeps (first :: (before ++ [last])))
    (late : first.now + 1 / r ≤ last.now) :
    .granted ∈ limiter.acquireRounds (first :: (before ++ [last])) := by
  by_contra starved
  rcases acquireRound_cases ready.room first with granted | ⟨wait, refused⟩
  · rw [rounds_cons_of_granted granted] at starved
    exact starved List.mem_cons_self
  · obtain ⟨readyNext, sleepsNext, ratesNext⟩ :=
      ready.next positive rates sleeps refused
    rw [refused.rounds_cons] at starved
    have short := tokens_lt_of_not_granted readyNext positive ratesNext
      sleepsNext fun granted => starved (List.mem_cons_of_mem _ granted)
    have nonneg := readyNext.nonneg
    have whole : 1 ≤ r * (last.now - first.now) := by
      rw [← div_le_iff₀' positive]
      linarith
    rw [refused.lastRefill] at short
    linarith

theorem sleep_bounds {rounds : List Round} (ready : limiter.Ready rounds)
    (slowest : 1 / 10 ≤ r) (rates : RatesFrom r rounds)
    (sleeps : limiter.Sleeps rounds) {wait : Int}
    (asked : .sleep wait ∈ limiter.acquireRounds rounds) :
    0 ≤ wait ∧ wait ≤ 10 ^ 10 := by
  have positive : 0 < r := by linarith
  induction rounds generalizing limiter with
  | nil => cases asked
  | cons round rest induction =>
      rcases acquireRound_cases ready.room round with granted | ⟨first, refused⟩
      · rw [rounds_cons_of_granted granted] at asked
        cases List.mem_singleton.mp asked
      · obtain ⟨readyNext, sleepsNext, ratesNext⟩ :=
          ready.next positive rates sleeps refused
        have rate := (rates round List.mem_cons_self).2
        rw [refused.rounds_cons] at asked
        rcases List.mem_cons.mp asked with same | later
        · cases same
          exact ⟨refused.wait_nonneg (positive.trans_le rate),
            refused.wait_le readyNext.nonneg (slowest.trans rate)⟩
        · exact induction readyNext ratesNext sleepsNext later

/-- A wake-up comes less than a nanosecond's credit short of a token. -/
theorem Refused.nearly (refused : limiter.Refused round wait) {next : Round}
    (positive : 0 < round.waitRate) (same : next.refillRate = round.waitRate)
    (woken : round.now + wait / 1000000000 ≤ next.now) {nextWait : Int}
    (again : (limiter.acquireRound round).2.Refused next nextWait) :
    1 - round.waitRate / 1000000000 <
      ((limiter.acquireRound round).2.acquireRound next).2.tokens := by
  have bound := (nanosecondsOf_bounds (refused.seconds_pos positive).le).2.2
  rw [← refused.wait, div_mul_eq_mul_div, div_lt_iff₀ positive] at bound
  rw [again.tokens, refused.lastRefill, same]
  have earned : (wait / 1000000000 : ℚ) * round.waitRate ≤
      (next.now - round.now) * round.waitRate :=
    mul_le_mul_of_nonneg_right (by linarith) positive.le
  linarith

theorem granted_within_three {first second third : Round} {rate : ℚ}
    (room : 1 ≤ limiter.capacity) (positive : 0 < rate)
    (constant : ∀ round ∈ [first, second, third],
      round.refillRate = rate ∧ round.waitRate = rate)
    (sleeps : limiter.Sleeps [first, second, third])
    (advances : second.now + 1 / 1000000000 ≤ third.now) :
    .granted ∈ limiter.acquireRounds [first, second, third] := by
  by_contra starved
  obtain ⟨⟨_, firstWait⟩, ⟨secondRefill, _⟩, thirdRefill, _⟩ :
      (first.refillRate = rate ∧ first.waitRate = rate) ∧
        (second.refillRate = rate ∧ second.waitRate = rate) ∧
        third.refillRate = rate ∧ third.waitRate = rate := by
    simpa using constant
  rcases acquireRound_cases room first with granted | ⟨wait, refused⟩
  · rw [rounds_cons_of_granted granted] at starved
    exact starved List.mem_cons_self
  rw [refused.rounds_cons] at starved
  have room' := room
  rw [← refused.capacity] at room'
  rcases acquireRound_cases room' second with granted | ⟨wait', again⟩
  · rw [rounds_cons_of_granted granted] at starved
    exact starved (List.mem_cons_of_mem _ List.mem_cons_self)
  rw [again.rounds_cons] at starved
  rw [← again.capacity] at room'
  rcases acquireRound_cases room' third with granted | ⟨wait'', last⟩
  · rw [rounds_cons_of_granted granted] at starved
    exact starved (List.mem_cons_of_mem _
      (List.mem_cons_of_mem _ List.mem_cons_self))
  · have woken := (sleeps wait refused.answer).1 second rfl
    have nearly := refused.nearly (firstWait.symm ▸ positive)
      (secondRefill.trans firstWait.symm) woken again
    have short := last.short
    rw [last.tokens, again.lastRefill, thirdRefill] at short
    rw [firstWait] at nearly
    have earned : 1 / 1000000000 * rate ≤ (third.now - second.now) * rate :=
      mul_le_mul_of_nonneg_right (by linarith) positive.le
    linarith

end

/-! Calls on a limiter that has been in use. -/

variable {Caller : Type}

theorem run_ready {start tokensPerSecond bucketCapacity maxRate : ℚ}
    {mode : Mode} {ops : List (Op Caller)} {rounds : List Round}
    (clock : (start :: (ops.filterMap Op.clock? ++
      rounds.map Round.now)).Pairwise (· ≤ ·))
    (positive : ∀ before, before <+: ops →
      0 < ((construct start tokensPerSecond bucketCapacity mode
        maxRate).run before).rate) :
    ((construct start tokensPerSecond bucketCapacity mode maxRate).run
      ops).Ready rounds := by
  have valid := construct_valid start tokensPerSecond bucketCapacity mode maxRate
  rw [← List.cons_append, List.pairwise_append] at clock
  obtain ⟨sorted, _, ordered⟩ := clock
  have bounds := valid.run (admissible_attempts sorted positive)
  rw [← run_bucket] at bounds
  refine ⟨?_, bounds.nonneg, ?_⟩
  · rw [run_capacity]
    exact le_max_left 1 bucketCapacity
  · intro first isFirst
    have inRounds : first.now ∈ rounds.map Round.now :=
      List.mem_map_of_mem (List.mem_of_mem_head? isFirst)
    refine le_of_eq_of_le (congrArg Bucket.last (run_bucket _ ops)) ?_
    apply Bucket.run_last_le
    · exact ordered start List.mem_cons_self _ inRounds
    · intro next member
      have read : next.now ∈ ops.filterMap Op.clock? := by
        rw [← attempts_now (construct start tokensPerSecond bucketCapacity mode
          maxRate)]
        exact List.mem_map_of_mem member
      exact ordered _ (List.mem_cons_of_mem start read) _ inRounds

/-- A waiting call is granted by its first iteration that comes 1/r seconds
after its first one, whatever the rates from `r` on that it meets; at a constant
rate it takes three iterations; and no sleep is longer than ten seconds. -/
theorem acquire_granted {start tokensPerSecond bucketCapacity maxRate : ℚ}
    {mode : Mode} {ops : List (Op Caller)} {rounds : List Round} {r : ℚ}
    (clock : (start :: (ops.filterMap Op.clock? ++
      rounds.map Round.now)).Pairwise (· ≤ ·))
    (past : ∀ before, before <+: ops →
      0 < ((construct start tokensPerSecond bucketCapacity mode
        maxRate).run before).rate)
    (positive : 0 < r) (rates : RatesFrom r rounds)
    (sleeps : ((construct start tokensPerSecond bucketCapacity mode maxRate).run
      ops).Sleeps rounds) :
    let limiter :=
      (construct start tokensPerSecond bucketCapacity mode maxRate).run ops
    (∀ first before last after, rounds = first :: (before ++ last :: after) →
      first.now + 1 / r ≤ last.now →
        .granted ∈ limiter.acquireRounds (first :: (before ++ [last]))) ∧
    (∀ first second third after rate,
      rounds = first :: second :: third :: after →
      (∀ round ∈ [first, second, third],
        round.refillRate = rate ∧ round.waitRate = rate) →
      first.now + 1 / 1000000000 ≤ second.now →
      second.now + 1 / 1000000000 ≤ third.now →
        .granted ∈ limiter.acquireRounds [first, second, third]) ∧
    (1 / 10 ≤ r → ∀ wait, .sleep wait ∈ limiter.acquireRounds rounds →
      0 ≤ wait ∧ wait ≤ 10 ^ 10) := by
  intro limiter
  have ready : limiter.Ready rounds := run_ready clock past
  refine ⟨?_, ?_, ?_⟩
  · intro first before last after cut late
    have split : rounds = first :: (before ++ [last]) ++ after := by
      simp [cut]
    rw [split] at sleeps rates ready
    exact granted_of_late ⟨ready.room, ready.nonneg, ready.started⟩ positive
      (fun round member => rates round (List.mem_append_left after member))
      sleeps.of_append late
  · intro first second third after rate cut constant _ advances
    have split : rounds = [first, second, third] ++ after := cut
    rw [split] at sleeps rates
    have atLeast := (rates first List.mem_cons_self).1
    rw [(constant first List.mem_cons_self).1] at atLeast
    exact granted_within_three ready.room (positive.trans_le atLeast) constant
      sleeps.of_append advances
  · intro slowest wait asked
    exact sleep_bounds ready slowest rates sleeps asked

/-- The second caller of a bucket of one token at one token a second. -/
theorem acquire_granted_second :
    .granted ∈ ((construct 0 1 1 .fixed 10).run
      [.iterate () 0]).acquireRounds [⟨0, 1, 1⟩, ⟨1, 1, 1⟩] := by
  have asked : (((construct 0 1 1 .fixed 10).run
      [.iterate () 0]).acquireRound ⟨0, 1, 1⟩).1 = .sleep 1000000000 := by
    decide +kernel
  have taken : ((((construct 0 1 1 .fixed 10).run
      [.iterate () 0]).acquireRound ⟨0, 1, 1⟩).2.acquireRound
        ⟨1, 1, 1⟩).1 = .granted := by
    decide +kernel
  have sleeps : ((construct 0 1 1 .fixed 10).run
      [.iterate () 0]).Sleeps [⟨0, 1, 1⟩, ⟨1, 1, 1⟩] := by
    intro wait asleep
    rw [asked] at asleep
    cases asleep
    refine ⟨?_, ?_⟩
    · intro next first
      cases first
      norm_num
    · intro wait' asleep
      rw [taken] at asleep
      cases asleep
  have rates : RatesFrom 1 [⟨0, 1, 1⟩, ⟨1, 1, 1⟩] := by
    unfold RatesFrom
    decide +kernel
  have granted := acquire_granted (by decide +kernel) (by
    intro before isPrefix
    rw [← List.mem_inits] at isPrefix
    revert before
    exact (by decide +kernel : ∀ before ∈ [Op.iterate () 0].inits,
      0 < ((construct 0 1 1 .fixed 10).run before).rate))
    one_pos rates sleeps
  exact granted.1 ⟨0, 1, 1⟩ [] ⟨1, 1, 1⟩ [] rfl (by norm_num)

end RateLimiter

end ServicePortScanner.Net
