import Mathlib.Data.Finset.Card
import ServicePortScanner.Net.Acquire

namespace ServicePortScanner.Net.Acquire

open ServicePortScanner.Data
open ServicePortScanner.Net.RateLimiter (Visit)

/-! On a pool of one thread the accesses of the coroutines add up to attempts on
a token bucket, one after the other. -/

/-- What an attempt leaves of a refilled balance. -/
def paid (filled : ℚ) : ℚ :=
  if 1 ≤ filled then filled - 1 else filled

/-- What is asked of every rate that is stored. -/
def RateWithin (bound rate : ℚ) : Prop :=
  0 ≤ rate ∧ rate ≤ bound

namespace Memory

def bucket (memory : Memory) (capacity : ℚ) : Bucket ℚ :=
  ⟨capacity, memory.tokens, memory.lastRefill⟩

end Memory

namespace Point

/-- The bucket that is left when the coroutine at this point is through. -/
def settle (capacity : ℚ) (memory : Memory) : Point → Bucket ℚ
  | .writeTokens now _ filled => ⟨capacity, paid filled, now⟩
  | .writeLastRefill now => ⟨capacity, paid memory.tokens, now⟩
  | .testTokens => ⟨capacity, paid memory.tokens, memory.lastRefill⟩
  | .readTokensToTake | .writeTokensTaken _ =>
      ⟨capacity, memory.tokens - 1, memory.lastRefill⟩
  | _ => memory.bucket capacity

/-- The coroutine has been granted a token, or is about to be. -/
def Granted (memory : Memory) : Point → Prop
  | .writeTokens _ _ filled => 1 ≤ filled
  | .writeLastRefill _ | .testTokens => 1 ≤ memory.tokens
  | .readTokensToTake | .writeTokensTaken _ | .returned | .left => True
  | _ => False

/-- The call of `acquire` has returned. -/
def Through : Point → Prop
  | .returned | .left => True
  | _ => False

theorem through_iff (point : Point) :
    point = .returned ∨ point = .left ↔ point.Through := by
  cases point <;> simp [Through]

instance : DecidablePred Through :=
  fun point => decidable_of_iff _ (through_iff point)

/-- What the local variables have to do with the memory. -/
def Reads (bound : ℚ) (memory : Memory) : Point → Prop
  | .readLastRefill now => memory.lastRefill ≤ now ∧ now ≤ memory.clock
  | .readRate now dt => memory.lastRefill ≤ now ∧ now ≤ memory.clock ∧
      dt = now - memory.lastRefill
  | .readTokens now dt r => memory.lastRefill ≤ now ∧ now ≤ memory.clock ∧
      dt = now - memory.lastRefill ∧ RateWithin bound r
  | .writeTokens now .. | .writeLastRefill now => now ≤ memory.clock
  | _ => True

/-- The time a coroutine has read for the refill it is at. -/
def now? : Point → Option ℚ
  | .readLastRefill now | .readRate now _ | .readTokens now .. => some now
  | _ => none

/-- The refill a coroutine makes when it reads the tokens. -/
def refill? : Point → Option (Attempt ℚ)
  | .readTokens now _ r => some ⟨now, r⟩
  | _ => none

/-- What the test of the tokens comes to. -/
def test? (memory : Memory) : Point → Option Bool
  | .testTokens => some (decide (1 ≤ memory.tokens))
  | _ => none

/-- The test that belongs to a refill is still to come. -/
def Testing : Point → Prop
  | .writeTokens .. | .writeLastRefill _ | .testTokens => True
  | _ => False

theorem Testing.inBody {point : Point} (testing : point.Testing) :
    point.InBody := by
  cases point <;> trivial

theorem now?_of_refill? {point : Point} {attempt : Attempt ℚ}
    (refilled : point.refill? = some attempt) :
    point.now? = some attempt.now := by
  cases point <;> cases refilled
  rfl

/-- A test begins with the refill and ends with the answer. -/
theorem exec_testing {capacity : ℚ} {memory memory' : Memory}
    {point point' : Point}
    (executed : point.exec capacity memory = some (memory', point')) :
    (∃ now dt r, point = .readTokens now dt r ∧ point'.Testing) ∨
      (point = .testTokens ∧ ¬ point'.Testing) ∨
      (point.refill? = none ∧ point.test? memory = none ∧
        (point'.Testing ↔ point.Testing)) := by
  cases point with
  | readTokens now dt r =>
      cases executed
      exact .inl ⟨now, dt, r, rfl, trivial⟩
  | testTokens =>
      cases executed
      refine .inr (.inl ⟨rfl, ?_⟩)
      split <;> exact not_false
  | _ => cases executed <;> exact .inr (.inr ⟨rfl, rfl, Iff.rfl⟩)

theorem Through.granted {memory : Memory} {point : Point}
    (through : point.Through) : point.Granted memory := by
  cases point <;> trivial

theorem Granted.through_or_inBody {memory : Memory} {point : Point}
    (granted : point.Granted memory) : point.Through ∨ point.InBody := by
  cases point <;> first
    | exact .inl trivial
    | exact .inr trivial
    | cases granted

theorem inBody_of_now? {point : Point} {now : ℚ} (reads : point.now? = some now) :
    point.InBody := by
  cases point <;> trivial

theorem reads_of_not_inBody {bound : ℚ} {memory : Memory} {point : Point}
    (outside : ¬ point.InBody) : point.Reads bound memory := by
  cases point <;> first | trivial | exact absurd trivial outside

theorem settle_of_not_inBody {capacity : ℚ} {memory : Memory} {point : Point}
    (outside : ¬ point.InBody) :
    point.settle capacity memory = memory.bucket capacity := by
  cases point <;> first | rfl | exact absurd trivial outside

theorem granted_of_not_inBody {memory memory' : Memory} {point : Point}
    (outside : ¬ point.InBody) :
    point.Granted memory' ↔ point.Granted memory := by
  cases point <;> first | exact Iff.rfl | exact absurd trivial outside

/-- Time only goes on, and rates concern only who has not read them yet. -/
theorem Reads.later {bound : ℚ} {memory memory' : Memory} {point : Point}
    (reads : point.Reads bound memory) (last : memory'.lastRefill = memory.lastRefill)
    (clock : memory.clock ≤ memory'.clock) : point.Reads bound memory' := by
  cases point with
  | readLastRefill now => exact ⟨last ▸ reads.1, reads.2.trans clock⟩
  | readRate now dt =>
      exact ⟨last ▸ reads.1, reads.2.1.trans clock, last ▸ reads.2.2⟩
  | readTokens now dt r =>
      exact ⟨last ▸ reads.1, reads.2.1.trans clock, last ▸ reads.2.2.1,
        reads.2.2.2⟩
  | writeTokens now seen filled => exact reads.trans clock
  | writeLastRefill now => exact reads.trans clock
  | _ => trivial

/-- What one access does to the bucket that will be left. -/
structure Settles (bound capacity : ℚ) (memory : Memory) (point : Point)
    (memory' : Memory) (point' : Point) : Prop where
  reads : point'.Reads bound memory'
  bucket : point'.settle capacity memory' = point.settle capacity memory
  granted : point'.Granted memory' ↔ point.Granted memory
  now : ∀ now, point'.now? = some now → point.now? = some now ∨ now = memory.clock

theorem exec_readTokens {bound capacity now dt r : ℚ}
    {memory memory' : Memory} {point' : Point}
    (reads : (Point.readTokens now dt r).Reads bound memory)
    (executed : exec capacity memory (.readTokens now dt r) =
      some (memory', point')) :
    memory' = memory ∧ point'.now? = none ∧ point'.Reads bound memory ∧
      (point'.settle capacity memory) =
        ((memory.bucket capacity).attempt ⟨now, r⟩).2 ∧
      (point'.Granted memory ↔
        ((memory.bucket capacity).attempt ⟨now, r⟩).1 = true) := by
  cases executed
  obtain ⟨_, inTime, rfl, _⟩ := reads
  refine ⟨rfl, rfl, inTime, ?_, ?_⟩
  · by_cases whole : 1 ≤ min capacity
        (memory.tokens + (now - memory.lastRefill) * r)
    · simp [settle, Memory.bucket, Bucket.attempt, Bucket.refill, paid, whole]
    · simp only [settle, Memory.bucket, Bucket.attempt, Bucket.refill, paid,
        whole, if_false]
  · simp only [Granted, Memory.bucket, Bucket.attempt, Bucket.refill]
    by_cases whole : 1 ≤ min capacity
        (memory.tokens + (now - memory.lastRefill) * r)
    · simp only [whole, if_true]
    · simp only [whole, if_false, Bool.false_eq_true]

theorem exec_settles {bound capacity : ℚ} {memory memory' : Memory}
    {point point' : Point} (current : point.Current memory)
    (reads : point.Reads bound memory) (opened : memory.lastRefill ≤ memory.clock)
    (rate : RateWithin bound memory.rate)
    (other : ∀ now dt r, point ≠ .readTokens now dt r)
    (executed : point.exec capacity memory = some (memory', point')) :
    Settles bound capacity memory point memory' point' := by
  cases point with
  | readTokens now dt r => exact absurd rfl (other now dt r)
  | readClock =>
      cases executed
      exact ⟨⟨opened, le_rfl⟩, rfl, Iff.rfl, fun _ same =>
        .inr (Option.some.inj same).symm⟩
  | readLastRefill now =>
      cases executed
      exact ⟨⟨reads.1, reads.2, rfl⟩, rfl, Iff.rfl, fun _ same => .inl same⟩
  | readRate now dt =>
      cases executed
      exact ⟨⟨reads.1, reads.2.1, reads.2.2, rate⟩, rfl, Iff.rfl,
        fun _ same => .inl same⟩
  | writeTokens now seen filled =>
      cases executed
      exact ⟨reads, rfl, Iff.rfl, nofun⟩
  | writeLastRefill now =>
      cases executed
      exact ⟨trivial, rfl, Iff.rfl, nofun⟩
  | testTokens =>
      cases executed
      by_cases whole : 1 ≤ memory.tokens
      · rw [if_pos whole]
        refine ⟨trivial, ?_, iff_of_true trivial whole, nofun⟩
        simp only [settle, paid, if_pos whole]
      · rw [if_neg whole]
        refine ⟨trivial, ?_, iff_of_false id whole, nofun⟩
        simp only [settle, paid, if_neg whole, Memory.bucket]
  | readTokensToTake =>
      cases executed
      exact ⟨trivial, rfl, Iff.rfl, nofun⟩
  | writeTokensTaken seen =>
      cases executed
      refine ⟨trivial, ?_, Iff.rfl, nofun⟩
      simp only [settle, Memory.bucket, current.basis seen rfl]
  | readTokensForNeed =>
      cases executed
      exact ⟨trivial, rfl, Iff.rfl, nofun⟩
  | readRateForWait need =>
      cases executed
      exact ⟨trivial, rfl, Iff.rfl, nofun⟩
  | _ => cases executed

theorem exec_clock {bound capacity : ℚ} {memory memory' : Memory}
    {point point' : Point} (reads : point.Reads bound memory)
    (opened : memory.lastRefill ≤ memory.clock)
    (executed : point.exec capacity memory = some (memory', point')) :
    memory'.clock = memory.clock ∧ memory'.rate = memory.rate ∧
      memory'.lastRefill ≤ memory'.clock := by
  cases point with
  | writeLastRefill now =>
      cases executed
      exact ⟨rfl, rfl, reads⟩
  | _ => cases executed <;> exact ⟨rfl, rfl, opened⟩

end Point

namespace State

variable {Id : Type}

/-! Who is in the body of `acquire` occupies a thread. -/

section

variable [DecidableEq Id] {threads : Nat} {capacity : ℚ}

structure Occupied (threads : Nat) (state : State Id) : Prop where
  inBody_iff : ∀ id, (state.point id).InBody ↔ id ∈ state.running
  card_le : state.running.card ≤ threads

omit [DecidableEq Id] in
theorem occupied_initial (threads : Nat) (memory : Memory) :
    (initial memory : State Id).Occupied threads where
  inBody_iff := fun _ => iff_of_false id (Finset.notMem_empty _)
  card_le := Nat.zero_le _

namespace Occupied

variable {state next : State Id} (occupied : state.Occupied threads)
include occupied

theorem moveTo {id : Id} {point : Point}
    (same : point.InBody ↔ (state.point id).InBody) (memory : Memory) :
    ({ state with memory := memory }.moveTo id point).Occupied threads where
  inBody_iff := by
    intro other
    by_cases here : other = id
    · subst other
      simpa [State.moveTo, same] using occupied.inBody_iff id
    · simpa [State.moveTo, Function.update_of_ne here]
        using occupied.inBody_iff other
  card_le := occupied.card_le

theorem enter {id : Id} {point : Point} (inside : point.InBody)
    (free : state.running.card < threads) (strand : Option Id) :
    ({ state.occupy id with strand := strand }.moveTo id point).Occupied
      threads where
  inBody_iff := by
    intro other
    by_cases here : other = id
    · subst other
      simpa [State.moveTo, State.occupy] using inside
    · simpa [State.moveTo, State.occupy, Function.update_of_ne here, here]
        using occupied.inBody_iff other
  card_le := (Finset.card_insert_le _ _).trans free

theorem moveTo_release {id : Id} {point : Point} (outside : ¬ point.InBody)
    (memory : Memory) :
    (({ state with memory := memory }.moveTo id point).release id).Occupied
      threads where
  inBody_iff := by
    intro other
    by_cases here : other = id
    · subst other
      simpa [State.moveTo, State.release] using outside
    · simpa [State.moveTo, State.release, Function.update_of_ne here, here]
        using occupied.inBody_iff other
  card_le := (Finset.card_erase_le).trans occupied.card_le

theorem step {action : Action Id}
    (stepped : state.step threads capacity action = some next) :
    next.Occupied threads := by
  cases action with
  | start id =>
      obtain ⟨spawned, _, rfl⟩ := step_cases stepped
      refine occupied.moveTo ?_ state.memory
      rw [spawned]
      exact Iff.rfl
  | enterStrand id =>
      obtain ⟨_, _, free, rfl⟩ := step_cases stepped
      exact occupied.enter (by trivial) free _
  | exec id =>
      obtain ⟨memory, point, executed, ⟨inside, rfl⟩ | ⟨outside, rfl⟩⟩ :=
        step_cases stepped
      · have was := Point.inBody_of_exec executed
        exact occupied.moveTo (iff_of_true inside was) memory
      · exact occupied.moveTo_release outside memory
  | wake id =>
      obtain ⟨_, _, _, free, rfl⟩ := step_cases stepped
      exact occupied.enter (by trivial) free state.strand
  | leave id =>
      obtain ⟨_, rfl⟩ := step_cases stepped
      exact occupied.moveTo_release (by exact not_false) state.memory
  | tick elapsed =>
      obtain ⟨_, rfl⟩ := step_cases stepped
      exact ⟨occupied.inBody_iff, occupied.card_le⟩
  | storeRate rate =>
      cases step_cases stepped
      exact ⟨occupied.inBody_iff, occupied.card_le⟩

end Occupied

omit [DecidableEq Id] in
/-- On one thread, nobody else is in the body. -/
theorem Occupied.alone {state : State Id} (occupied : state.Occupied 1)
    {id other : Id} (inside : (state.point id).InBody) (different : other ≠ id) :
    ¬ (state.point other).InBody := by
  intro otherInside
  exact different (Finset.card_le_one.mp occupied.card_le other
    ((occupied.inBody_iff other).mp otherInside) id
    ((occupied.inBody_iff id).mp inside))

end

/-! The attempts that the coroutines have made. -/

/-- A refill that begins with this step, and whose it is. -/
def refill? (state : State Id) : Action Id → Option (Id × Attempt ℚ)
  | .exec id => (state.point id).refill?.map (id, ·)
  | _ => none

/-- What a coroutine is told by the test that this step makes. -/
def test? (state : State Id) : Action Id → Option (Id × Bool)
  | .exec id => ((state.point id).test? state.memory).map (id, ·)
  | _ => none

def refillOf (visit : Visit Id) : Id × Attempt ℚ :=
  (visit.caller, visit.attempt)

def testOf (visit : Visit Id) : Id × Bool :=
  (visit.caller, visit.granted)

/-- The refills and what came of them make up the log. -/
theorem log_ext {log other : List (Visit Id)}
    (refills : log.map refillOf = other.map refillOf)
    (tests : log.map testOf = other.map testOf) : log = other := by
  induction log generalizing other with
  | nil => exact (List.map_eq_nil_iff.mp refills.symm).symm
  | cons visit log induction =>
      obtain ⟨visit', other, rfl, same, rest⟩ :=
        List.map_eq_cons_iff.mp refills.symm
      obtain ⟨answer, answers⟩ := List.cons.inj tests
      have here : visit = visit' := by
        cases visit
        cases visit'
        cases same
        cases answer
        rfl
      rw [here, induction rest.symm answers]

/-- Those who have been granted a token. -/
def grantees (log : List (Visit Id)) : List Id :=
  (log.filter (·.granted)).map (·.caller)

theorem mem_grantees {log : List (Visit Id)} {id : Id} :
    id ∈ grantees log ↔
      ∃ visit ∈ log, visit.granted = true ∧ visit.caller = id := by
  simp [grantees, and_assoc]

@[simp] theorem mem_grantees_concat {log : List (Visit Id)} {visit : Visit Id}
    {id : Id} : id ∈ grantees (log ++ [visit]) ↔
      id ∈ grantees log ∨ visit.granted = true ∧ visit.caller = id := by
  simp [mem_grantees, or_and_right, exists_or]

/-- A log of attempts that the bucket answers in this way. -/
structure Logged (bound : ℚ) (start : Bucket ℚ) (clock : ℚ)
    (log : List (Visit Id)) : Prop where
  admissible : start.Admissible (log.map Visit.attempt)
  rates : ∀ visit ∈ log, RateWithin bound visit.attempt.rate
  inTime : ∀ visit ∈ log, visit.attempt.now ≤ clock
  outcomes : start.outcomes (log.map Visit.attempt) =
    log.map fun visit => (visit.attempt, visit.granted)
  once : (grantees log).Nodup

theorem logged_nil (bound : ℚ) (start : Bucket ℚ) (clock : ℚ) :
    Logged bound start clock ([] : List (Visit Id)) where
  admissible := ⟨List.pairwise_singleton _ _, nofun⟩
  rates := nofun
  inTime := nofun
  outcomes := rfl
  once := .nil

theorem Logged.later {bound clock clock' : ℚ} {start : Bucket ℚ}
    {log : List (Visit Id)} (logged : Logged bound start clock log)
    (le : clock ≤ clock') : Logged bound start clock' log :=
  { logged with inTime := fun visit member =>
      (logged.inTime visit member).trans le }

theorem Logged.concat {bound clock : ℚ} {start : Bucket ℚ}
    {log : List (Visit Id)} {visit : Visit Id}
    (logged : Logged bound start clock log)
    (later : (start.run (log.map Visit.attempt)).last ≤ visit.attempt.now)
    (inTime : visit.attempt.now ≤ clock)
    (rate : RateWithin bound visit.attempt.rate)
    (answer : visit.granted =
      ((start.run (log.map Visit.attempt)).attempt visit.attempt).1)
    (fresh : visit.caller ∉ grantees log) :
    Logged bound start clock (log ++ [visit]) where
  admissible := by
    rw [List.map_append]
    exact logged.admissible.concat later rate.1
  rates := List.forall_mem_append.mpr
    ⟨logged.rates, List.forall_mem_singleton.mpr rate⟩
  inTime := List.forall_mem_append.mpr
    ⟨logged.inTime, List.forall_mem_singleton.mpr inTime⟩
  outcomes := by
    rw [List.map_append, List.map_singleton, Bucket.outcomes_concat,
      logged.outcomes, ← answer, List.map_append, List.map_singleton]
  once := by
    rw [grantees, List.filter_append, List.map_append]
    refine logged.once.append ?_ ?_
    · cases granted : visit.granted <;> simp [granted]
    · intro id before now
      obtain ⟨other, member, rfl⟩ := List.mem_map.mp now
      have same := List.mem_singleton.mp (List.mem_filter.mp member).1
      exact fresh (same ▸ before)

/-- The accesses so far add up to the attempts of the log, the last of which may
be on its way still. -/
structure Settled (bound capacity : ℚ) (start : Bucket ℚ) (state : State Id)
    (log : List (Visit Id)) : Prop where
  current : ∀ id, (state.point id).Current state.memory
  reads : ∀ id, (state.point id).Reads bound state.memory
  opened : state.memory.lastRefill ≤ state.memory.clock
  rate : RateWithin bound state.memory.rate
  inside : ∀ id, (state.point id).InBody →
    (state.point id).settle capacity state.memory =
      start.run (log.map Visit.attempt)
  idle : (∀ id, ¬ (state.point id).InBody) →
    state.memory.bucket capacity = start.run (log.map Visit.attempt)
  logged : Logged bound start state.memory.clock log
  granted : ∀ id, (state.point id).Granted state.memory ↔ id ∈ grantees log

section

variable {bound capacity : ℚ} {start : Bucket ℚ} {state : State Id}
variable {log : List (Visit Id)}

/-- Where at most one coroutine is in the body, only that one matters. -/
theorem settled_of_alone {id : Id}
    (alone : ∀ other, other ≠ id → ¬ (state.point other).InBody)
    (current : (state.point id).Current state.memory)
    (reads : (state.point id).Reads bound state.memory)
    (opened : state.memory.lastRefill ≤ state.memory.clock)
    (rate : RateWithin bound state.memory.rate)
    (settle : (state.point id).settle capacity state.memory =
      start.run (log.map Visit.attempt))
    (logged : Logged bound start state.memory.clock log)
    (granted : ∀ id, (state.point id).Granted state.memory ↔
      id ∈ grantees log) :
    Settled bound capacity start state log where
  current := by
    intro other
    by_cases same : other = id
    · exact same ▸ current
    · exact Point.current_of_not_inBody (alone other same)
  reads := by
    intro other
    by_cases same : other = id
    · exact same ▸ reads
    · exact Point.reads_of_not_inBody (alone other same)
  opened := opened
  rate := rate
  inside := by
    intro other isInside
    by_cases same : other = id
    · exact same ▸ settle
    · exact absurd isInside (alone other same)
  idle := by
    intro nobody
    rw [← Point.settle_of_not_inBody (nobody id), settle]
  logged := logged
  granted := granted

theorem settled_initial {memory : Memory}
    (opened : memory.lastRefill ≤ memory.clock)
    (rate : RateWithin bound memory.rate) :
    Settled bound capacity (memory.bucket capacity)
      (initial memory : State Id) [] where
  current := fun _ => Point.current_of_not_inBody not_false
  reads := fun _ => trivial
  opened := opened
  rate := rate
  inside := fun _ => False.elim
  idle := fun _ => rfl
  logged := logged_nil bound _ _
  granted := fun _ => iff_of_false id List.not_mem_nil

/-- An access of the only coroutine in the body. -/
theorem Settled.exec {id : Id} {memory : Memory} {next : State Id}
    (settled : state.Settled bound capacity start log)
    (alone : ∀ other, other ≠ id → ¬ (state.point other).InBody)
    (executed : (state.point id).exec capacity state.memory =
      some (memory, next.point id))
    (same : next.memory = memory)
    (others : ∀ other, other ≠ id → next.point other = state.point other) :
    ∃ more, next.Settled bound capacity start (log ++ more) ∧
      more.map refillOf = (state.refill? (.exec id)).toList ∧
      ∀ now, (next.point id).now? = some now →
        (state.point id).now? = some now ∨ now = state.memory.clock := by
  subst same
  have isInside := Point.inBody_of_exec executed
  have stillAlone : ∀ other, other ≠ id → ¬ (next.point other).InBody := by
    intro other different
    rw [others other different]
    exact alone other different
  have othersGranted (other : Id) (different : other ≠ id) :
      (next.point other).Granted next.memory ↔ other ∈ grantees log := by
    rw [others other different,
      Point.granted_of_not_inBody (alone other different)]
    exact settled.granted other
  have settle := settled.inside id isInside
  have current := (settled.current id).exec executed
  obtain ⟨clock, rate, opened⟩ :=
    Point.exec_clock (settled.reads id) settled.opened executed
  by_cases reading : ∃ now dt r, state.point id = .readTokens now dt r
  · obtain ⟨now, dt, r, here⟩ := reading
    have reads := settled.reads id
    rw [here] at executed reads settle
    obtain ⟨unchanged, unread, readsNext, settleNext, answer⟩ :=
      Point.exec_readTokens reads executed
    have plain : state.memory.bucket capacity =
      start.run (log.map Visit.attempt) := settle
    rw [plain] at settleNext answer
    have fresh : id ∉ grantees log := by
      intro member
      have granted := (settled.granted id).mpr member
      rw [here] at granted
      exact granted
    rw [unchanged] at othersGranted current
    refine ⟨[⟨id, ⟨now, r⟩,
      ((start.run (log.map Visit.attempt)).attempt ⟨now, r⟩).1⟩],
      settled_of_alone stillAlone ?_ ?_ ?_ ?_ ?_ ?_ ?_, ?_, ?_⟩
    · exact unchanged ▸ current
    · exact unchanged ▸ readsNext
    · exact unchanged ▸ settled.opened
    · exact unchanged ▸ settled.rate
    · rw [unchanged, settleNext, List.map_append, List.map_singleton,
        Bucket.run_concat]
    · rw [unchanged]
      refine settled.logged.concat ?_ reads.2.1 reads.2.2.2 rfl fresh
      rw [← plain]
      exact reads.1
    · intro other
      rw [unchanged, mem_grantees_concat]
      by_cases same : other = id
      · subst other
        simp [answer, fresh]
      · simp [othersGranted other same, Ne.symm same]
    · rw [refill?, here]
      rfl
    · intro now' seen
      rw [unread] at seen
      cases seen
  · have settles := Point.exec_settles (settled.current id) (settled.reads id)
      settled.opened settled.rate
      (fun now dt r here => reading ⟨now, dt, r, here⟩) executed
    have unfilled : state.refill? (.exec id) = none := by
      rcases Point.exec_testing executed with
        ⟨now, dt, r, here, _⟩ | ⟨here, _⟩ | ⟨none, _⟩
      · exact absurd ⟨now, dt, r, here⟩ reading
      · rw [refill?, here]
        rfl
      · rw [refill?, none]
        rfl
    refine ⟨[], ?_, by rw [unfilled]; rfl, settles.now⟩
    rw [List.append_nil]
    refine settled_of_alone stillAlone current settles.reads opened ?_ ?_ ?_ ?_
    · exact rate ▸ settled.rate
    · rw [settles.bucket, settle]
    · exact clock ▸ settled.logged
    · intro other
      by_cases same : other = id
      · subst other
        exact settles.granted.trans (settled.granted _)
      · exact othersGranted other same

/-- A coroutine comes into the body, or leaves it, without an access. -/
theorem Settled.move {id : Id} {point : Point} {next : State Id}
    (settled : state.Settled bound capacity start log)
    (here : next.point id = point) (same : next.memory = state.memory)
    (others : ∀ other, other ≠ id → next.point other = state.point other)
    (alone : (state.point id).InBody ∨ point.InBody →
      ∀ other, other ≠ id → ¬ (state.point other).InBody)
    (plain : (state.point id).settle capacity state.memory =
      state.memory.bucket capacity)
    (current : point.Current state.memory)
    (reads : point.Reads bound state.memory)
    (plainNext : point.settle capacity state.memory =
      state.memory.bucket capacity)
    (granted : point.Granted state.memory ↔
      (state.point id).Granted state.memory) :
    next.Settled bound capacity start log where
  current := by
    intro other
    rw [same]
    by_cases this : other = id
    · rwa [this, here]
    · rw [others other this]
      exact settled.current other
  reads := by
    intro other
    rw [same]
    by_cases this : other = id
    · rwa [this, here]
    · rw [others other this]
      exact settled.reads other
  opened := same ▸ settled.opened
  rate := same ▸ settled.rate
  inside := by
    intro other isInside
    by_cases this : other = id
    · subst other
      rw [here] at isInside ⊢
      rw [same, plainNext]
      by_cases was : (state.point id).InBody
      · rw [← plain]
        exact settled.inside id was
      · apply settled.idle
        intro each
        by_cases this : each = id
        · exact this ▸ was
        · exact alone (.inr isInside) each this
    · rw [others other this] at isInside ⊢
      rw [same]
      exact settled.inside other isInside
  idle := by
    intro nobody
    rw [same]
    by_cases was : (state.point id).InBody
    · rw [← plain]
      exact settled.inside id was
    · apply settled.idle
      intro each
      by_cases this : each = id
      · exact this ▸ was
      · rw [← others each this]
        exact nobody each
  logged := same ▸ settled.logged
  granted := by
    intro other
    rw [same]
    by_cases this : other = id
    · rw [this, here]
      exact granted.trans (settled.granted id)
    · rw [others other this]
      exact settled.granted other

/-- The clock goes on, or a rate is stored. -/
theorem Settled.setMemory {memory : Memory}
    (settled : state.Settled bound capacity start log)
    (tokens : memory.tokens = state.memory.tokens)
    (last : memory.lastRefill = state.memory.lastRefill)
    (clock : state.memory.clock ≤ memory.clock)
    (rate : RateWithin bound memory.rate) :
    ({ state with memory := memory } : State Id).Settled bound capacity start
      log where
  current := fun id => (settled.current id).of_tokens_eq tokens
  reads := fun id => (settled.reads id).later last clock
  opened := last ▸ settled.opened.trans clock
  rate := rate
  inside := by
    intro id isInside
    rw [← settled.inside id isInside]
    cases state.point id <;>
      simp only [Point.settle, Memory.bucket, tokens, last]
  idle := by
    intro nobody
    rw [← settled.idle nobody, Memory.bucket, tokens, last]
    rfl
  logged := settled.logged.later clock
  granted := by
    intro id
    rw [← settled.granted id]
    cases state.point id <;> simp only [Point.Granted, tokens]

/-- What a step adds to the log is the refill it makes, and what is read is the
clock. -/
structure Adds (state next : State Id) (action : Action Id)
    (more : List (Visit Id)) : Prop where
  refills : more.map refillOf = (state.refill? action).toList
  now : ∀ id now, (next.point id).now? = some now →
    (state.point id).now? = some now ∨ now = state.memory.clock
  clock : state.memory.clock ≤ next.memory.clock

theorem Adds.seen {next : State Id} {action : Action Id} {more : List (Visit Id)}
    (adds : state.Adds next action more) {visit : Visit Id}
    (member : visit ∈ more) :
    (state.point visit.caller).now? = some visit.attempt.now := by
  have refilled : refillOf visit ∈ (state.refill? action).toList :=
    adds.refills ▸ List.mem_map_of_mem member
  cases action with
  | exec id =>
      obtain ⟨attempt, made, same⟩ :=
        Option.map_eq_some_iff.mp (Option.mem_toList.mp refilled)
      cases same
      exact Point.now?_of_refill? made
  | _ => cases refilled

theorem Settled.step [DecidableEq Id] {next : State Id} {action : Action Id}
    (settled : state.Settled bound capacity start log)
    (occupied : state.Occupied 1)
    (stores : ∀ rate, action = .storeRate rate → RateWithin bound rate)
    (stepped : state.step 1 capacity action = some next) :
    ∃ more, next.Settled bound capacity start (log ++ more) ∧
      state.Adds next action more := by
  have unread {id : Id} {point : Point} (unread : point.now? = none)
      (other : Id) (now : ℚ)
      (read : (Function.update state.point id point other).now? = some now) :
      (state.point other).now? = some now ∨ now = state.memory.clock := by
    by_cases same : other = id
    · subst other
      rw [Function.update_self, unread] at read
      cases read
    · rw [Function.update_of_ne same] at read
      exact .inl read
  have others {id : Id} {point : Point} (other : Id) (different : other ≠ id) :
      Function.update state.point id point other = state.point other :=
    Function.update_of_ne different _ _
  have here {id : Id} {point : Point} :
      Function.update state.point id point id = point := Function.update_self ..
  -- nobody is in the body where a thread is free
  have nobody (free : state.running.card < 1) (id : Id) :
      ¬ (state.point id).InBody := by
    intro inside
    have member := (occupied.inBody_iff id).mp inside
    exact absurd (Finset.card_pos.mpr ⟨id, member⟩) (by omega)
  cases action with
  | start id =>
      obtain ⟨spawned, _, rfl⟩ := step_cases stepped
      refine ⟨[], ?_, rfl, unread rfl, le_rfl⟩
      rw [List.append_nil]
      refine settled.move here rfl others ?_ ?_ ⟨nofun, nofun, nofun⟩ trivial rfl
        ?_
      · rw [spawned]
        rintro (inside | inside) <;> cases inside
      · rw [spawned]
        rfl
      · rw [spawned]
        exact Iff.rfl
  | enterStrand id =>
      obtain ⟨waiting, _, free, rfl⟩ := step_cases stepped
      refine ⟨[], ?_, rfl, unread rfl, le_rfl⟩
      rw [List.append_nil]
      refine settled.move here rfl others (fun _ other _ => nobody free other)
        (Point.settle_of_not_inBody (nobody free id)) ⟨nofun, nofun, nofun⟩
        trivial rfl ?_
      rw [waiting]
      exact Iff.rfl
  | exec id =>
      obtain ⟨memory, point, executed, moved⟩ := step_cases stepped
      have reached : next.memory = memory ∧
          next.point = Function.update state.point id point := by
        rcases moved with ⟨_, rfl⟩ | ⟨_, rfl⟩ <;> exact ⟨rfl, rfl⟩
      obtain ⟨same, points⟩ := reached
      have isInside := Point.inBody_of_exec executed
      have clock := (Point.exec_clock (settled.reads id) settled.opened
        executed).1
      obtain ⟨more, settledNext, refills, now⟩ := settled.exec
        (fun other different => occupied.alone isInside different)
        (by rw [executed, points, here]) same
        (fun other different => by rw [points, others other different])
      refine ⟨more, settledNext, refills, ?_, ?_⟩
      · intro other now' read
        by_cases this : other = id
        · subst other
          exact now now' read
        · rw [points, others other this] at read
          exact .inl read
      · rw [same, clock]
  | wake id =>
      obtain ⟨wakeAt, asleep, _, free, rfl⟩ := step_cases stepped
      refine ⟨[], ?_, rfl, unread rfl, le_rfl⟩
      rw [List.append_nil]
      refine settled.move here rfl others (fun _ other _ => nobody free other)
        (Point.settle_of_not_inBody (nobody free id)) ⟨nofun, nofun, nofun⟩
        trivial rfl ?_
      rw [asleep]
      exact Iff.rfl
  | leave id =>
      obtain ⟨returned, rfl⟩ := step_cases stepped
      have isInside : (state.point id).InBody := by
        rw [returned]
        trivial
      refine ⟨[], ?_, rfl, unread rfl, le_rfl⟩
      rw [List.append_nil]
      refine settled.move here rfl others
        (fun _ other different => occupied.alone isInside different) ?_
        ⟨nofun, nofun, nofun⟩ trivial rfl ?_
      · rw [returned]
        rfl
      · rw [returned]
        exact Iff.rfl
  | tick elapsed =>
      obtain ⟨forward, rfl⟩ := step_cases stepped
      refine ⟨[], ?_, rfl, fun _ _ => .inl, le_add_of_nonneg_right forward⟩
      rw [List.append_nil]
      exact settled.setMemory rfl rfl (le_add_of_nonneg_right forward)
        settled.rate
  | storeRate rate =>
      cases step_cases stepped
      refine ⟨[], ?_, rfl, fun _ _ => .inl, le_rfl⟩
      rw [List.append_nil]
      exact settled.setMemory rfl rfl le_rfl (stores rate rfl)

/-! What the steps have shown of the attempts, and the log. -/

/-- The log tells the refills in their order, and what came of each, but for the
last one while its test is still to come. -/
structure Told (state : State Id) (refills : List (Id × Attempt ℚ))
    (tests : List (Id × Bool)) (log : List (Visit Id)) : Prop where
  refills : log.map refillOf = refills
  tested : (∀ id, ¬ (state.point id).Testing) → tests = log.map testOf
  testing : ∀ id, (state.point id).Testing →
    ∃ front visit, log = front ++ [visit] ∧ visit.caller = id ∧
      id ∉ grantees front ∧ tests = front.map testOf

theorem told_initial (memory : Memory) :
    Told (initial memory : State Id) [] [] [] where
  refills := rfl
  tested := fun _ => rfl
  testing := fun _ => False.elim

namespace Told

variable {refills : List (Id × Attempt ℚ)} {tests : List (Id × Bool)}
variable {next : State Id}

theorem keep (told : Told state refills tests log)
    (same : ∀ id, (next.point id).Testing ↔ (state.point id).Testing) :
    Told next refills tests log where
  refills := told.refills
  tested := fun nobody => told.tested fun id => (same id).not.mp (nobody id)
  testing := fun id testing => told.testing id ((same id).mp testing)

/-- A refill begins a test. -/
theorem refill {id : Id} {visit : Visit Id}
    (told : Told state refills tests log)
    (nobody : ∀ other, ¬ (state.point other).Testing)
    (caller : visit.caller = id) (fresh : id ∉ grantees log)
    (testing : (next.point id).Testing)
    (alone : ∀ other, (next.point other).Testing → other = id) :
    Told next (refills ++ [refillOf visit]) tests (log ++ [visit]) where
  refills := by rw [List.map_append, told.refills, List.map_singleton]
  tested := fun none => absurd testing (none id)
  testing := by
    intro other otherTesting
    cases alone other otherTesting
    exact ⟨log, visit, rfl, caller, fresh, told.tested nobody⟩

/-- The answer of a test is that of the log. -/
theorem test {id : Id} {answer : Bool} (told : Told state refills tests log)
    (testing : (state.point id).Testing)
    (granted : answer = true ↔ id ∈ grantees log)
    (nobody : ∀ other, ¬ (next.point other).Testing) :
    Told next refills (tests ++ [(id, answer)]) log where
  refills := told.refills
  tested := by
    intro _
    obtain ⟨front, visit, rfl, rfl, fresh, rfl⟩ := told.testing id testing
    have same : answer = visit.granted := by
      rw [Bool.eq_iff_iff, granted, mem_grantees_concat]
      simp [fresh]
    rw [same, List.map_append, List.map_singleton]
    rfl
  testing := fun other otherTesting => absurd otherTesting (nobody other)

/-- A step that neither refills nor tests. -/
theorem still {action : Action Id} {more : List (Visit Id)}
    (told : Told state refills tests log) (adds : state.Adds next action more)
    (refilled : state.refill? action = none)
    (silent : state.test? action = none)
    (same : ∀ id, (next.point id).Testing ↔ (state.point id).Testing) :
    Told next (refills ++ (state.refill? action).toList)
      (tests ++ (state.test? action).toList) (log ++ more) := by
  have made := adds.refills
  rw [refilled, Option.toList_none] at made ⊢
  cases List.map_eq_nil_iff.mp made
  rw [silent, Option.toList_none]
  simp only [List.append_nil]
  exact told.keep same

theorem step [DecidableEq Id] {action : Action Id} {more : List (Visit Id)}
    (told : Told state refills tests log)
    (settled : state.Settled bound capacity start log)
    (occupied : state.Occupied 1) (adds : state.Adds next action more)
    (stepped : state.step 1 capacity action = some next) :
    Told next (refills ++ (state.refill? action).toList)
      (tests ++ (state.test? action).toList) (log ++ more) := by
  have unmoved {id : Id} {point : Point} (outside : ¬ point.Testing)
      (was : ¬ (state.point id).Testing) (other : Id) :
      (Function.update state.point id point other).Testing ↔
        (state.point other).Testing := by
    by_cases same : other = id
    · subst other
      rw [Function.update_self]
      exact iff_of_false outside was
    · rw [Function.update_of_ne same]
  cases action with
  | exec id =>
      obtain ⟨memory, point, executed, moved⟩ := step_cases stepped
      have points : next.point = Function.update state.point id point := by
        rcases moved with ⟨_, rfl⟩ | ⟨_, rfl⟩ <;> rfl
      have isInside := Point.inBody_of_exec executed
      have others {other : Id} (testing : (state.point other).Testing) :
          other = id := by
        by_contra different
        exact occupied.alone isInside different testing.inBody
      have othersNext {other : Id} (testing : (next.point other).Testing) :
          other = id := by
        by_contra different
        rw [points, Function.update_of_ne different] at testing
        exact different (others testing)
      have here : next.point id = point := by
        rw [points, Function.update_self]
      have made := adds.refills
      rcases Point.exec_testing executed with
        ⟨now, dt, r, reading, testing⟩ | ⟨answering, untested⟩ |
          ⟨unfilled, unanswered, same⟩
      · have refilled : state.refill? (.exec id) = some (id, ⟨now, r⟩) := by
          rw [refill?, reading]
          rfl
        have silent : state.test? (.exec id) = none := by
          rw [test?, reading]
          rfl
        rw [refilled] at made ⊢
        obtain ⟨visit, rfl, same⟩ := List.map_eq_singleton_iff.mp made
        have fresh : id ∉ grantees log := by
          rw [← settled.granted id, reading]
          exact not_false
        rw [silent, Option.toList_none, List.append_nil, ← same]
        refine told.refill ?_ (congrArg Prod.fst same) fresh
          (here ▸ testing) (fun other => othersNext)
        intro other otherTesting
        cases others otherTesting
        rw [reading] at otherTesting
        exact otherTesting
      · have refilled : state.refill? (.exec id) = none := by
          rw [refill?, answering]
          rfl
        have answered : state.test? (.exec id) =
            some (id, decide (1 ≤ state.memory.tokens)) := by
          rw [test?, answering]
          rfl
        rw [refilled, Option.toList_none] at made ⊢
        cases List.map_eq_nil_iff.mp made
        rw [answered, List.append_nil, List.append_nil]
        refine told.test ?_ ?_ ?_
        · rw [answering]
          trivial
        · rw [← settled.granted id, answering, decide_eq_true_eq]
          exact Iff.rfl
        · intro other otherTesting
          cases othersNext otherTesting
          exact untested (here ▸ otherTesting)
      · have refilled : state.refill? (.exec id) = none := by
          rw [refill?, unfilled]
          rfl
        have silent : state.test? (.exec id) = none := by
          rw [test?, unanswered]
          rfl
        refine told.still adds refilled silent ?_
        intro other
        by_cases this : other = id
        · rw [this, here]
          exact same
        · rw [points, Function.update_of_ne this]
  | start id =>
      obtain ⟨spawned, _, rfl⟩ := step_cases stepped
      refine told.still adds rfl rfl (unmoved not_false ?_)
      rw [spawned]
      exact not_false
  | enterStrand id =>
      obtain ⟨waiting, _, _, rfl⟩ := step_cases stepped
      refine told.still adds rfl rfl (unmoved not_false ?_)
      rw [waiting]
      exact not_false
  | wake id =>
      obtain ⟨wakeAt, asleep, _, _, rfl⟩ := step_cases stepped
      refine told.still adds rfl rfl (unmoved not_false ?_)
      rw [asleep]
      exact not_false
  | leave id =>
      obtain ⟨returned, rfl⟩ := step_cases stepped
      refine told.still adds rfl rfl (unmoved not_false ?_)
      rw [returned]
      exact not_false
  | tick elapsed =>
      obtain ⟨_, rfl⟩ := step_cases stepped
      exact told.still adds rfl rfl fun _ => Iff.rfl
  | storeRate rate =>
      cases step_cases stepped
      exact told.still adds rfl rfl fun _ => Iff.rfl

end Told

/-! Runs, and what is granted in a part of one. -/

/-- The refills of a run, in their order. -/
def refills [DecidableEq Id] (threads : Nat) (capacity : ℚ) (state : State Id)
    (actions : List (Action Id)) : List (Id × Attempt ℚ) :=
  Steps.seen (step threads capacity) refill? state actions

/-- What the coroutines are told by the tests of a run, in their order. -/
def tests [DecidableEq Id] (threads : Nat) (capacity : ℚ) (state : State Id)
    (actions : List (Action Id)) : List (Id × Bool) :=
  Steps.seen (step threads capacity) test? state actions

theorem refills_cons [DecidableEq Id] {threads : Nat} {next : State Id}
    {action : Action Id} {rest : List (Action Id)}
    (stepped : state.step threads capacity action = some next) :
    refills threads capacity state (action :: rest) =
      (state.refill? action).toList ++ refills threads capacity next rest :=
  Steps.seen_cons stepped

theorem tests_cons [DecidableEq Id] {threads : Nat} {next : State Id}
    {action : Action Id} {rest : List (Action Id)}
    (stepped : state.step threads capacity action = some next) :
    tests threads capacity state (action :: rest) =
      (state.test? action).toList ++ tests threads capacity next rest :=
  Steps.seen_cons stepped

theorem Settled.told [DecidableEq Id] {refilled : List (Id × Attempt ℚ)}
    {tested : List (Id × Bool)} {final : State Id} {actions : List (Action Id)}
    (settled : state.Settled bound capacity start log)
    (told : Told state refilled tested log) (occupied : state.Occupied 1)
    (stores : ∀ rate, .storeRate rate ∈ actions → RateWithin bound rate)
    (ran : state.run 1 capacity actions = some final) :
    ∃ more, final.Settled bound capacity start (log ++ more) ∧
      Told final (refilled ++ refills 1 capacity state actions)
        (tested ++ tests 1 capacity state actions) (log ++ more) := by
  rw [run_eq] at ran
  induction actions generalizing state log refilled tested with
  | nil =>
      cases ran
      refine ⟨[], ?_, ?_⟩
      · rwa [List.append_nil]
      · simpa only [refills, tests, Steps.seen, List.append_nil] using told
  | cons action rest induction =>
      obtain ⟨next, stepped, ranRest⟩ := Steps.run_cons.mp ran
      obtain ⟨more, settledNext, adds⟩ := settled.step occupied
        (fun rate same => stores rate (same ▸ List.mem_cons_self)) stepped
      obtain ⟨again, settledFinal, toldFinal⟩ := induction settledNext
        (told.step settled occupied adds stepped) (occupied.step stepped)
        (fun rate member => stores rate (List.mem_cons_of_mem action member))
        ranRest
      refine ⟨more ++ again, ?_, ?_⟩
      · rwa [← List.append_assoc]
      · rw [refills_cons stepped, tests_cons stepped]
        simpa only [List.append_assoc] using toldFinal

/-- What has been read or logged since the clock showed `since` is not older,
but for the coroutine that was in the body then. -/
structure Recent (since : ℚ) (busy : Id → Prop) (state : State Id)
    (more : List (Visit Id)) : Prop where
  visits : ∀ visit ∈ more, since ≤ visit.attempt.now ∨ busy visit.caller
  reads : ∀ id now, (state.point id).now? = some now → since ≤ now ∨ busy id
  clock : since ≤ state.memory.clock

theorem recent_nil (state : State Id) :
    Recent state.memory.clock (fun id => (state.point id).InBody) state [] where
  visits := nofun
  reads := fun _ _ read => .inr (Point.inBody_of_now? read)
  clock := le_rfl

theorem Recent.step {since : ℚ} {busy : Id → Prop} {next : State Id}
    {action : Action Id} {more again : List (Visit Id)}
    (recent : Recent since busy state more)
    (adds : state.Adds next action again) :
    Recent since busy next (more ++ again) where
  visits := by
    refine List.forall_mem_append.mpr ⟨recent.visits, ?_⟩
    intro visit member
    exact recent.reads visit.caller visit.attempt.now (adds.seen member)
  reads := by
    intro id now read
    rcases adds.now id now read with before | current
    · exact recent.reads id now before
    · exact .inl (current ▸ recent.clock)
  clock := recent.clock.trans adds.clock

/-- What holds on the way from a state between whose attempts are logged. -/
structure Underway (bound capacity : ℚ) (start : Bucket ℚ)
    (log : List (Visit Id)) (middle state : State Id) : Prop where
  occupied : state.Occupied 1
  settled : ∃ more, state.Settled bound capacity start (log ++ more) ∧
    Recent middle.memory.clock (fun id => (middle.point id).InBody) state more

theorem Settled.underway (settled : state.Settled bound capacity start log)
    (occupied : state.Occupied 1) :
    Underway bound capacity start log state state := by
  refine ⟨occupied, [], ?_, recent_nil state⟩
  rw [List.append_nil]
  exact settled

theorem Underway.step [DecidableEq Id] {middle next : State Id}
    {action : Action Id}
    (underway : Underway bound capacity start log middle state)
    (stores : ∀ rate, action = .storeRate rate → RateWithin bound rate)
    (stepped : state.step 1 capacity action = some next) :
    Underway bound capacity start log middle next := by
  obtain ⟨occupied, more, settled, recent⟩ := underway
  obtain ⟨again, settledNext, adds⟩ := settled.step occupied stores stepped
  refine ⟨occupied.step stepped, more ++ again, ?_, recent.step adds⟩
  rw [← List.append_assoc]
  exact settledNext

theorem Underway.run [DecidableEq Id] {middle final : State Id}
    {actions : List (Action Id)}
    (underway : Underway bound capacity start log middle state)
    (stores : ∀ rate, .storeRate rate ∈ actions → RateWithin bound rate)
    (ran : state.run 1 capacity actions = some final) :
    Underway bound capacity start log middle final := by
  rw [run_eq] at ran
  have along : Steps.Along (State.step 1 capacity)
      (fun _ action => ∀ rate, action = .storeRate rate → RateWithin bound rate)
      state actions := by
    rintro earlier action _ isPrefix _ rate rfl
    exact stores rate (isPrefix.subset List.mem_concat_self)
  exact Steps.run_preserves
    (fun underway stores stepped => underway.step stores stepped) underway along
    ran

def isLate (since : ℚ) (visit : Visit Id) : Bool :=
  visit.granted && decide (since ≤ visit.attempt.now)

/-- The grants of a part of a run are those of the bucket in its time, and one
that was on its way. -/
theorem Settled.card_le [DecidableEq Id] {middle : State Id}
    {more : List (Visit Id)}
    (middleSettled : middle.Settled bound capacity start log)
    (settled : state.Settled bound capacity start (log ++ more))
    (recent : Recent middle.memory.clock (fun id => (middle.point id).InBody)
      state more)
    (through : Finset Id)
    (each : ∀ id ∈ through, (state.point id).Through ∧ ¬ (middle.point id).Through) :
    through.card ≤
      (through.filter fun id => (middle.point id).InBody).card +
        start.grants ((log ++ more).map Visit.attempt) middle.memory.clock
          state.memory.clock := by
  have counted : (more.filter (isLate middle.memory.clock)).length ≤
      start.grants ((log ++ more).map Visit.attempt) middle.memory.clock
        state.memory.clock := by
    have inTime := settled.logged.inTime
    rw [Bucket.grants, settled.logged.outcomes, List.countP_map,
      List.countP_append, ← List.countP_eq_length_filter]
    refine le_trans (List.countP_mono_left ?_) (Nat.le_add_left _ _)
    intro visit member late
    have before := inTime visit (List.mem_append_right log member)
    simpa [isLate, before] using late
  have covered : through.filter (fun id => ¬ (middle.point id).InBody) ⊆
      ((more.filter (isLate middle.memory.clock)).map
        (·.caller)).toFinset := by
    intro id member
    obtain ⟨member, notBusy⟩ := Finset.mem_filter.mp member
    obtain ⟨now, notBefore⟩ := each id member
    have granted := (settled.granted id).mp now.granted
    obtain ⟨visit, logged, given, rfl⟩ := mem_grantees.mp granted
    rcases List.mem_append.mp logged with old | new
    · have already := (middleSettled.granted visit.caller).mpr
        (mem_grantees.mpr ⟨visit, old, given, rfl⟩)
      rcases already.through_or_inBody with through | busy
      · exact absurd through notBefore
      · exact absurd busy notBusy
    · have recently := (recent.visits visit new).resolve_right notBusy
      refine List.mem_toFinset.mpr (List.mem_map.mpr ⟨visit, ?_, rfl⟩)
      exact List.mem_filter.mpr ⟨new, by simp [isLate, given, recently]⟩
  rw [← Finset.card_filter_add_card_filter_not fun id => (middle.point id).InBody]
  have few := Finset.card_le_card covered
  have lengths := List.toFinset_card_le
    ((more.filter (isLate middle.memory.clock)).map (·.caller))
  rw [List.length_map] at lengths
  omega

end

/-! A limiter on a pool of one thread. -/

section

/-- The log of a run of the coroutines, as attempts on the bucket of the limiter.
It has the refills of the run in their order, each with the answer its coroutine
has been given, which is that of the bucket.  Where nobody is in the body,
nothing is on its way. -/
structure Linear [DecidableEq Id] (limiter : RateLimiter) (bound : ℚ)
    (init : State Id) (actions : List (Action Id)) (state : State Id)
    (log : List (Visit Id)) : Prop where
  refills : log.map refillOf = refills 1 limiter.capacity init actions
  answers : tests 1 limiter.capacity init actions <+: log.map testOf
  pending : log.length ≤ (tests 1 limiter.capacity init actions).length + 1
  rates : ∀ visit ∈ log, RateWithin bound visit.attempt.rate
  admissible : limiter.bucket.Admissible (log.map Visit.attempt)
  outcomes : limiter.bucket.outcomes (log.map Visit.attempt) =
    log.map fun visit => (visit.attempt, visit.granted)
  inTime : ∀ visit ∈ log, visit.attempt.now ≤ state.memory.clock
  once : (grantees log).Nodup
  through : ∀ id, (state.point id).Through → id ∈ grantees log
  granted : ∀ id ∈ grantees log,
    (state.point id).Through ∨ (state.point id).InBody
  idle : (∀ id, ¬ (state.point id).InBody) →
    tests 1 limiter.capacity init actions = log.map testOf ∧
      state.memory.bucket limiter.capacity =
        limiter.bucket.run (log.map Visit.attempt)

/-- There is only one such log. -/
theorem Linear.unique [DecidableEq Id] {limiter : RateLimiter} {bound : ℚ}
    {init state : State Id} {actions : List (Action Id)}
    {log other : List (Visit Id)}
    (linear : Linear limiter bound init actions state log)
    (linear' : Linear limiter bound init actions state other) :
    log = other := by
  have refills : log.map refillOf = other.map refillOf :=
    linear.refills.trans linear'.refills.symm
  have projected {β γ : Type} {f : Visit Id → β} (g : β → γ)
      (same : log.map f = other.map f) :
      log.map (g ∘ f) = other.map (g ∘ f) := by
    rw [← List.map_map, same, List.map_map]
  have attempts : log.map Visit.attempt = other.map Visit.attempt :=
    projected Prod.snd refills
  have callers : log.map Visit.caller = other.map Visit.caller :=
    projected Prod.fst refills
  have outcomes := linear.outcomes
  rw [attempts, linear'.outcomes] at outcomes
  have answers : log.map Visit.granted = other.map Visit.granted :=
    projected Prod.snd outcomes.symm
  have zip (visits : List (Visit Id)) : visits.map testOf =
      (visits.map Visit.caller).zip (visits.map Visit.granted) :=
    List.zip_map'.symm
  refine log_ext refills ?_
  rw [zip, zip, callers, answers]

theorem Told.prefix_tests {refills : List (Id × Attempt ℚ)}
    {tests : List (Id × Bool)} {state : State Id} {log : List (Visit Id)}
    (told : Told state refills tests log) :
    tests <+: log.map testOf ∧ log.length ≤ tests.length + 1 := by
  by_cases testing : ∃ id, (state.point id).Testing
  · obtain ⟨id, testing⟩ := testing
    obtain ⟨front, visit, rfl, _, _, rfl⟩ := told.testing id testing
    rw [List.map_append]
    exact ⟨List.prefix_append _ _, by simp⟩
  · rw [told.tested fun id here => testing ⟨id, here⟩, List.length_map]
    exact ⟨List.prefix_refl _, Nat.le_succ _⟩

theorem Settled.linear [DecidableEq Id] {bound : ℚ} {limiter : RateLimiter}
    {init state : State Id} {actions : List (Action Id)} {log : List (Visit Id)}
    (settled : state.Settled bound limiter.capacity limiter.bucket log)
    (told : Told state (refills 1 limiter.capacity init actions)
      (tests 1 limiter.capacity init actions) log) :
    Linear limiter bound init actions state log where
  refills := told.refills
  answers := told.prefix_tests.1
  pending := told.prefix_tests.2
  rates := settled.logged.rates
  admissible := settled.logged.admissible
  outcomes := settled.logged.outcomes
  inTime := settled.logged.inTime
  once := settled.logged.once
  through := fun id through => (settled.granted id).mp through.granted
  granted := fun id member =>
    ((settled.granted id).mpr member).through_or_inBody
  idle := fun nobody => ⟨told.tested fun id testing => nobody id testing.inBody,
    settled.idle nobody⟩

/-- Nothing has been attempted when the limiter has been made. -/
theorem settled_of_limiter {limiter : RateLimiter} {clock bound : ℚ}
    (opened : limiter.lastRefill ≤ clock)
    (rate : RateWithin bound limiter.rate) :
    Settled bound limiter.capacity limiter.bucket
      (initial (Memory.of limiter clock) : State Id) [] := by
  have same : limiter.bucket =
      (Memory.of limiter clock).bucket limiter.capacity := rfl
  rw [same]
  exact settled_initial opened rate

theorem run_settled [DecidableEq Id] {limiter : RateLimiter} {clock bound : ℚ}
    {actions : List (Action Id)} {state : State Id}
    (opened : limiter.lastRefill ≤ clock)
    (rate : RateWithin bound limiter.rate)
    (stores : ∀ rate, .storeRate rate ∈ actions → RateWithin bound rate)
    (ran : (initial (Memory.of limiter clock)).run 1 limiter.capacity actions =
      some state) :
    state.Occupied 1 ∧
      ∃ log, state.Settled bound limiter.capacity limiter.bucket log := by
  have begun : Settled bound limiter.capacity limiter.bucket
      (initial (Memory.of limiter clock) : State Id) [] :=
    settled_of_limiter opened rate
  obtain ⟨occupied, log, settled, _⟩ :=
    (begun.underway (occupied_initial 1 _)).run stores ran
  exact ⟨occupied, log, settled⟩

/-- What a part of a run grants, with one token more where it began while a
coroutine was in the body. -/
theorem run_card_le [DecidableEq Id] {limiter : RateLimiter} {clock bound : ℚ}
    {before during : List (Action Id)} {state final : State Id}
    (valid : limiter.bucket.Valid) (opened : limiter.lastRefill ≤ clock)
    (rate : RateWithin bound limiter.rate)
    (stores : ∀ rate, .storeRate rate ∈ before ++ during →
      RateWithin bound rate)
    (ran : (initial (Memory.of limiter clock)).run 1 limiter.capacity before =
      some state)
    (went : state.run 1 limiter.capacity during = some final)
    {through : Finset Id}
    (each : ∀ id ∈ through, (final.point id).Through ∧
      ¬ (state.point id).Through) :
    (through.card : ℚ) ≤
      (through.filter fun id => (state.point id).InBody).card +
        (limiter.capacity +
          bound * (final.memory.clock - state.memory.clock)) := by
  obtain ⟨occupied, log, settled⟩ := run_settled opened rate
    (fun rate member => stores rate (List.mem_append_left _ member)) ran
  obtain ⟨_, more, settledFinal, recent⟩ := (settled.underway occupied).run
    (fun rate member => stores rate (List.mem_append_right _ member)) went
  have counted := settled.card_le settledFinal recent through each
  have window : (limiter.bucket.grants ((log ++ more).map Visit.attempt)
      state.memory.clock final.memory.clock : ℚ) ≤
        limiter.bucket.capacity +
          bound * (final.memory.clock - state.memory.clock) := by
    refine Bucket.grants_le_window valid settledFinal.logged.admissible
      (rate.1.trans rate.2) ?_ recent.clock
    intro attempt member _ _
    obtain ⟨visit, logged, rfl⟩ := List.mem_map.mp member
    exact (settledFinal.logged.rates visit logged).2
  calc (through.card : ℚ)
      ≤ ((through.filter fun id => (state.point id).InBody).card +
          limiter.bucket.grants ((log ++ more).map Visit.attempt)
            state.memory.clock final.memory.clock : ℕ) := by exact_mod_cast counted
    _ ≤ _ := by
        push_cast
        exact add_le_add_right window _

end

/-! The main results, for a limiter from its construction on. -/

section

variable [DecidableEq Id] {limiter : RateLimiter} {opened bound : ℚ}
variable {tokensPerSecond bucketCapacity : ℚ} {mode : Mode} {maxRate : ℚ}

/-- On one thread, the bodies of `acquire` are atomic: whatever the coroutines
and the clock do, and whoever stores a rate, their accesses add up to attempts
on the bucket, one for each refill. -/
theorem run_linear_of_one_thread {actions : List (Action Id)}
    {state : State Id}
    (made : limiter =
      .construct opened tokensPerSecond bucketCapacity mode maxRate)
    (rate : limiter.rate ≤ bound)
    (stores : ∀ rate, .storeRate rate ∈ actions → 0 ≤ rate ∧ rate ≤ bound)
    (ran : (initial (Memory.of limiter opened)).run 1 limiter.capacity actions =
      some state) :
    ∃ log, Linear limiter bound (initial (Memory.of limiter opened)) actions
      state log := by
  have positive : 0 ≤ limiter.rate :=
    made ▸ le_max_of_le_left (by norm_num)
  have isOpen : limiter.lastRefill ≤ opened := made ▸ le_rfl
  have begun : Settled bound limiter.capacity limiter.bucket
      (initial (Memory.of limiter opened) : State Id) [] :=
    settled_of_limiter isOpen ⟨positive, rate⟩
  obtain ⟨log, settled, told⟩ :=
    begun.told (told_initial _) (occupied_initial 1 _) stores ran
  rw [List.nil_append] at settled told
  rw [List.nil_append, List.nil_append] at told
  exact ⟨log, settled.linear told⟩

/-- On one thread, in every part of a run at most a capacity of coroutines comes
through, and what the time earns at the largest rate, and one that was on its way
when the part began. -/
theorem run_paced_of_one_thread {before during : List (Action Id)}
    {state final : State Id} {through : Finset Id}
    (made : limiter =
      .construct opened tokensPerSecond bucketCapacity mode maxRate)
    (rate : limiter.rate ≤ bound)
    (stores : ∀ rate, .storeRate rate ∈ before ++ during →
      0 ≤ rate ∧ rate ≤ bound)
    (ran : (initial (Memory.of limiter opened)).run 1 limiter.capacity before =
      some state)
    (went : state.run 1 limiter.capacity during = some final)
    (each : ∀ id ∈ through, (final.point id).Through ∧
      ¬ (state.point id).Through) :
    (through.card : ℚ) ≤ limiter.capacity +
        bound * (final.memory.clock - state.memory.clock) + 1 ∧
      ((∀ id, ¬ (state.point id).InBody) →
        (through.card : ℚ) ≤ limiter.capacity +
          bound * (final.memory.clock - state.memory.clock)) := by
  have positive : 0 ≤ limiter.rate :=
    made ▸ le_max_of_le_left (by norm_num)
  have isOpen : limiter.lastRefill ≤ opened := made ▸ le_rfl
  have valid : limiter.bucket.Valid :=
    made ▸ RateLimiter.construct_valid _ _ _ _ _
  have bounded := run_card_le valid isOpen ⟨positive, rate⟩ stores ran went each
  constructor
  · have occupied := (run_settled isOpen ⟨positive, rate⟩
      (fun rate member => stores rate (List.mem_append_left _ member)) ran).1
    have single : (through.filter fun id => (state.point id).InBody).card ≤ 1 := by
      refine Finset.card_le_one.mpr ?_
      intro first isFirst second isSecond
      by_contra different
      exact occupied.alone (Finset.mem_filter.mp isSecond).2 different
        (Finset.mem_filter.mp isFirst).2
    have asRational : ((through.filter fun id =>
        (state.point id).InBody).card : ℚ) ≤ 1 := by exact_mod_cast single
    linarith
  · intro nobody
    rw [Finset.filter_false_of_mem fun id _ => nobody id] at bounded
    simpa using bounded

end

/-- The second coroutine sleeps until the first token has come back. -/
def inTurn : List (Action ℕ) :=
  [.start 0, .enterStrand 0] ++ List.replicate 9 (.exec 0) ++
  [.leave 0, .start 1, .enterStrand 1] ++ List.replicate 9 (.exec 1) ++
  [.tick 1, .wake 1] ++ List.replicate 9 (.exec 1)

def onePerSecond : RateLimiter :=
  .construct 0 1 1 .fixed 10

theorem inTurn_stores (rate : ℚ) :
    (.storeRate rate : Action ℕ) ∉ inTurn := by
  simp [inTurn]

theorem inTurn_through :
    ∃ state, (initial (Memory.of onePerSecond 0)).run 1 onePerSecond.capacity
        inTurn = some state ∧
      (state.point 0).Through ∧ (state.point 1).Through := by
  have granted : ((initial (Memory.of onePerSecond 0)).run 1 onePerSecond.capacity
      inTurn).any (fun state => decide ((state.point 0).Through ∧
        (state.point 1).Through)) = true := by
    decide +kernel
  obtain ⟨state, ran, both⟩ := (Option.any_eq_true _ _).mp granted
  exact ⟨state, ran, of_decide_eq_true both⟩

theorem run_linear_of_one_thread_inTurn :
    ∃ state log, (initial (Memory.of onePerSecond 0)).run 1 onePerSecond.capacity
        inTurn = some state ∧
      Linear onePerSecond 1 (initial (Memory.of onePerSecond 0)) inTurn state
        log ∧
      log = [⟨0, ⟨0, 1⟩, true⟩, ⟨1, ⟨0, 1⟩, false⟩, ⟨1, ⟨1, 1⟩, true⟩] := by
  obtain ⟨state, ran, _⟩ := inTurn_through
  have logged : ∃ log, Linear onePerSecond 1 (initial (Memory.of onePerSecond 0))
      inTurn state log :=
    run_linear_of_one_thread rfl (by decide +kernel)
      (fun rate member => absurd member (inTurn_stores rate)) ran
  obtain ⟨log, linear⟩ := logged
  refine ⟨state, log, ran, linear, ?_⟩
  have told : tests 1 onePerSecond.capacity
      (initial (Memory.of onePerSecond 0)) inTurn =
        [(0, true), (1, false), (1, true)] := by decide +kernel
  have refilled : log.map refillOf = [(0, ⟨0, 1⟩), (1, ⟨0, 1⟩), (1, ⟨1, 1⟩)] :=
    linear.refills.trans (by decide +kernel)
  have answers := told ▸ linear.answers
  have length : log.length = 3 := by simpa using congrArg List.length refilled
  exact log_ext refilled (answers.eq_of_length (by simp [length])).symm

theorem run_paced_of_one_thread_inTurn :
    ∃ state, (initial (Memory.of onePerSecond 0)).run 1 onePerSecond.capacity
        inTurn = some state ∧
      (({0, 1} : Finset ℕ).card : ℚ) ≤
        onePerSecond.capacity + 1 * (state.memory.clock - 0) := by
  obtain ⟨state, ran, first, second⟩ := inTurn_through
  have begins : (initial (Memory.of onePerSecond 0) : State ℕ).run 1
      onePerSecond.capacity [] = some (initial (Memory.of onePerSecond 0)) := rfl
  have each : ∀ id ∈ ({0, 1} : Finset ℕ), (state.point id).Through ∧
      ¬ ((initial (Memory.of onePerSecond 0) : State ℕ).point id).Through := by
    intro id member
    rcases Finset.mem_insert.mp member with rfl | member
    · exact ⟨first, not_false⟩
    · cases Finset.mem_singleton.mp member
      exact ⟨second, not_false⟩
  have stores : ∀ rate, .storeRate rate ∈ [] ++ inTurn → 0 ≤ rate ∧ rate ≤ 1 :=
    fun rate member => absurd member (inTurn_stores rate)
  have made : onePerSecond = .construct 0 1 1 .fixed 10 := rfl
  have paced := run_paced_of_one_thread made (by decide +kernel) stores begins
    ran each
  exact ⟨state, ran, paced.2 fun _ => not_false⟩

end State

end ServicePortScanner.Net.Acquire
