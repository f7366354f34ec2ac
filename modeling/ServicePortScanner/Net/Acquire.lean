import Mathlib.Data.Finset.Card
import Mathlib.Data.Finset.Insert
import ServicePortScanner.Data.Steps
import ServicePortScanner.Net.RateLimiter

namespace ServicePortScanner.Net.Acquire

open ServicePortScanner.Data

/-! `RateLimiter::acquire` as coroutines of a thread pool, one read or write of
the limiter at a time. -/

/-- The members of the limiter that `acquire` uses, and the clock. -/
structure Memory where
  clock : ℚ
  rate : ℚ
  tokens : ℚ
  lastRefill : ℚ
  deriving DecidableEq, Repr

def Memory.of (limiter : RateLimiter) (clock : ℚ) : Memory where
  clock := clock
  rate := limiter.rate
  tokens := limiter.tokens
  lastRefill := limiter.lastRefill

/-- Where a coroutine stands, with the local variables it still needs.  Each
point names the access that comes next. -/
inductive Point where
  | spawned
  | dispatching
  | readClock
  | readLastRefill (now : ℚ)
  | readRate (now dt : ℚ)
  | readTokens (now dt r : ℚ)
  | writeTokens (now seen filled : ℚ)
  | writeLastRefill (now : ℚ)
  | testTokens
  | readTokensToTake
  | writeTokensTaken (seen : ℚ)
  | readTokensForNeed
  | readRateForWait (need : ℚ)
  | sleeping (wakeAt : ℚ)
  | returned
  | left
  deriving DecidableEq, Repr

namespace Point

/-- The coroutine occupies a pool thread and is inside the body of `acquire`,
or has returned from it without suspending since. -/
def InBody : Point → Prop
  | .spawned | .dispatching | .sleeping _ | .left => False
  | _ => True

/-- Between the first read of the pair `tokens_`, `last_refill_` in
`refill_locked` and the matching write of `tokens_`. -/
def InRefill : Point → Prop
  | .readRate .. | .readTokens .. | .writeTokens .. => True
  | _ => False

/-- The next access is one of `tokens_` or `last_refill_`. -/
def Touches : Point → Prop
  | .readLastRefill _ | .readTokens .. | .writeTokens .. | .writeLastRefill _
  | .testTokens | .readTokensToTake | .writeTokensTaken _
  | .readTokensForNeed => True
  | _ => False

def basis? : Point → Option ℚ
  | .writeTokens _ seen _ => some seen
  | .writeTokensTaken seen => some seen
  | _ => none

instance : DecidablePred InBody := fun point => by
  cases point <;> simp only [InBody] <;> infer_instance

instance : DecidablePred InRefill := fun point => by
  cases point <;> simp only [InRefill] <;> infer_instance

instance : DecidablePred Touches := fun point => by
  cases point <;> simp only [Touches] <;> infer_instance

theorem InRefill.inBody {point : Point} (inside : point.InRefill) :
    point.InBody := by
  cases point <;> trivial

theorem Touches.inBody {point : Point} (touches : point.Touches) :
    point.InBody := by
  cases point <;> trivial

theorem inBody_of_basis? {point : Point} {seen : ℚ}
    (basis : point.basis? = some seen) : point.InBody := by
  cases point <;> trivial

def exec (capacity : ℚ) (memory : Memory) : Point → Option (Memory × Point)
  | .readClock => some (memory, .readLastRefill memory.clock)
  | .readLastRefill now =>
      some (memory, .readRate now (now - memory.lastRefill))
  | .readRate now dt => some (memory, .readTokens now dt memory.rate)
  | .readTokens now dt r =>
      some (memory, .writeTokens now memory.tokens
        (min capacity (memory.tokens + dt * r)))
  | .writeTokens now _ filled =>
      some ({ memory with tokens := filled }, .writeLastRefill now)
  | .writeLastRefill now =>
      some ({ memory with lastRefill := now }, .testTokens)
  | .testTokens =>
      some (memory,
        if 1 ≤ memory.tokens then .readTokensToTake else .readTokensForNeed)
  | .readTokensToTake => some (memory, .writeTokensTaken memory.tokens)
  | .writeTokensTaken seen =>
      some ({ memory with tokens := seen - 1 }, .returned)
  | .readTokensForNeed => some (memory, .readRateForWait (1 - memory.tokens))
  | .readRateForWait need =>
      let wait := RateLimiter.nanosecondsOf (need / memory.rate)
      some (memory, .sleeping (memory.clock + wait / 1000000000))
  | _ => none

def execs (capacity : ℚ) : Nat → Memory × Point → Option (Memory × Point)
  | 0, reached => some reached
  | count + 1, (memory, point) =>
      match point.exec capacity memory with
      | none => none
      | some reached => execs capacity count reached

/-- Undisturbed, the accesses of the body add up to one iteration of the
loop. -/
theorem execs_readClock (limiter : RateLimiter) (clock : ℚ) :
    execs limiter.capacity 9 (Memory.of limiter clock, .readClock) =
      match limiter.acquireIteration clock with
      | (.granted, after) => some (Memory.of after clock, .returned)
      | (.sleep wait, after) =>
          some (Memory.of after clock, .sleeping (clock + wait / 1000000000)) := by
  by_cases whole : 1 ≤ min limiter.capacity
      (limiter.tokens + (clock - limiter.lastRefill) * limiter.rate)
  · simp only [execs, exec, Memory.of, RateLimiter.acquireIteration,
      RateLimiter.refillLocked, whole, if_true]
  · simp only [execs, exec, Memory.of, RateLimiter.acquireIteration,
      RateLimiter.refillLocked, whole, if_false]

theorem inBody_of_exec {capacity : ℚ} {memory : Memory} {point : Point}
    {result : Memory × Point} (executed : point.exec capacity memory = some result) :
    point.InBody := by
  cases point <;> trivial

/-- What a coroutine relies on at its point: its pending write starts from the
current balance, and it only takes from a balance of a whole token. -/
structure Current (memory : Memory) (point : Point) : Prop where
  basis : ∀ seen, point.basis? = some seen → memory.tokens = seen
  whole : point = .readTokensToTake → 1 ≤ memory.tokens
  taken : ∀ seen, point = .writeTokensTaken seen → 1 ≤ seen

theorem current_of_not_inBody {memory : Memory} {point : Point}
    (outside : ¬ point.InBody) : point.Current memory := by
  constructor
  · intro seen basis
    exact absurd (inBody_of_basis? basis) outside
  · rintro rfl
    exact absurd trivial outside
  · rintro seen rfl
    exact absurd trivial outside

theorem Current.of_tokens_eq {memory memory' : Memory} {point : Point}
    (current : point.Current memory) (same : memory'.tokens = memory.tokens) :
    point.Current memory' where
  basis := fun seen basis => same.trans (current.basis seen basis)
  whole := fun testing => same ▸ current.whole testing
  taken := current.taken

theorem Current.exec {capacity : ℚ} {memory memory' : Memory}
    {point point' : Point} (current : point.Current memory)
    (executed : point.exec capacity memory = some (memory', point')) :
    point'.Current memory' := by
  cases point with
  | testTokens =>
      simp only [Point.exec, Option.some.injEq, Prod.mk.injEq] at executed
      obtain ⟨rfl, rfl⟩ := executed
      by_cases whole : 1 ≤ memory.tokens
      · rw [if_pos whole]
        exact ⟨nofun, fun _ => whole, nofun⟩
      · rw [if_neg whole]
        exact ⟨nofun, nofun, nofun⟩
  | readTokensToTake =>
      cases executed
      refine ⟨?_, nofun, ?_⟩
      · intro seen basis
        exact Option.some.inj basis
      · intro seen same
        cases same
        exact current.whole rfl
  | readTokens now dt r =>
      cases executed
      refine ⟨?_, nofun, nofun⟩
      intro seen basis
      exact Option.some.inj basis
  | _ =>
      cases executed <;> exact ⟨nofun, nofun, nofun⟩

end Point

variable {Id : Type} [DecidableEq Id]

/-- The limiter together with the pool: who is on the strand, which coroutines
occupy a thread, and where each stands. -/
structure State (Id : Type) where
  memory : Memory
  strand : Option Id
  running : Finset Id
  point : Id → Point

inductive Action (Id : Type) where
  | start (id : Id)
  | enterStrand (id : Id)
  | exec (id : Id)
  | wake (id : Id)
  | leave (id : Id)
  | tick (elapsed : ℚ)
  | storeRate (rate : ℚ)
  deriving DecidableEq, Repr

namespace State

def moveTo (state : State Id) (id : Id) (point : Point) : State Id :=
  { state with point := Function.update state.point id point }

/-- A suspending coroutine gives up its thread, and the strand if it is on
it. -/
def release (state : State Id) (id : Id) : State Id :=
  { state with
    running := state.running.erase id
    strand := if state.strand = some id then none else state.strand }

def occupy (state : State Id) (id : Id) : State Id :=
  { state with running := insert id state.running }

def step (threads : Nat) (capacity : ℚ) (state : State Id) :
    Action Id → Option (State Id)
  | .start id =>
      -- the awaited dispatch to `strand_` suspends the coroutine at once
      if state.point id = .spawned ∧ state.running.card < threads then
        some (state.moveTo id .dispatching)
      else none
  | .enterStrand id =>
      if state.point id = .dispatching ∧ state.strand = none ∧
          state.running.card < threads then
        some ({ state.occupy id with strand := some id }.moveTo id .readClock)
      else none
  | .exec id =>
      match (state.point id).exec capacity state.memory with
      | none => none
      | some (memory, point) =>
          let next := { state with memory := memory }.moveTo id point
          if point.InBody then some next else some (next.release id)
  | .wake id =>
      -- the timer wait was awaited with plain `use_awaitable`, so the coroutine
      -- resumes on the pool executor and the strand is not entered
      match state.point id with
      | .sleeping wakeAt =>
          if wakeAt ≤ state.memory.clock ∧ state.running.card < threads then
            some ((state.occupy id).moveTo id .readClock)
          else none
      | _ => none
  | .leave id =>
      if state.point id = .returned then
        some ((state.moveTo id .left).release id)
      else none
  | .tick elapsed =>
      if 0 ≤ elapsed then
        some { state with
          memory := { state.memory with clock := state.memory.clock + elapsed } }
      else none
  | .storeRate rate =>
      some { state with memory := { state.memory with rate := rate } }

def run (threads : Nat) (capacity : ℚ) (state : State Id) :
    List (Action Id) → Option (State Id)
  | [] => some state
  | action :: rest =>
      match state.step threads capacity action with
      | none => none
      | some next => next.run threads capacity rest

theorem step_cases {threads : Nat} {capacity : ℚ} {state next : State Id}
    {action : Action Id}
    (stepped : state.step threads capacity action = some next) :
    match action with
    | .start id => state.point id = .spawned ∧
        state.running.card < threads ∧ next = state.moveTo id .dispatching
    | .enterStrand id => state.point id = .dispatching ∧
        state.strand = none ∧ state.running.card < threads ∧
        next = { state.occupy id with strand := some id }.moveTo id .readClock
    | .exec id => ∃ memory point,
        (state.point id).exec capacity state.memory = some (memory, point) ∧
        ((point.InBody ∧ next = { state with memory := memory }.moveTo id point) ∨
          (¬ point.InBody ∧
            next = ({ state with memory := memory }.moveTo id point).release id))
    | .wake id => ∃ wakeAt, state.point id = .sleeping wakeAt ∧
        wakeAt ≤ state.memory.clock ∧ state.running.card < threads ∧
        next = (state.occupy id).moveTo id .readClock
    | .leave id => state.point id = .returned ∧
        next = (state.moveTo id .left).release id
    | .tick elapsed => 0 ≤ elapsed ∧ next = { state with
        memory := { state.memory with clock := state.memory.clock + elapsed } }
    | .storeRate rate =>
        next = { state with memory := { state.memory with rate := rate } } := by
  cases action with
  | exec id =>
      simp only [step] at stepped
      split at stepped
      · cases stepped
      · next memory point executed =>
          refine ⟨memory, point, executed, ?_⟩
          split at stepped
          · next inside => exact .inl ⟨inside, (Option.some.inj stepped).symm⟩
          · next outside => exact .inr ⟨outside, (Option.some.inj stepped).symm⟩
  | wake id =>
      simp only [step] at stepped
      split at stepped
      · next wakeAt asleep =>
          obtain ⟨⟨due, free⟩, same⟩ := Option.ite_none_right_eq_some.mp stepped
          exact ⟨wakeAt, asleep, due, free, (Option.some.inj same).symm⟩
      · cases stepped
  | start id | enterStrand id | leave id | tick elapsed =>
      obtain ⟨guard, same⟩ := Option.ite_none_right_eq_some.mp stepped
      simp only [guard, true_and]
      exact (Option.some.inj same).symm
  | storeRate rate => exact (Option.some.inj stepped).symm

theorem run_eq (threads : Nat) (capacity : ℚ) (state : State Id)
    (actions : List (Action Id)) :
    state.run threads capacity actions =
      Steps.run (step threads capacity) state actions := by
  induction actions generalizing state with
  | nil => rfl
  | cons action rest induction =>
      rw [run, Steps.run]
      cases state.step threads capacity action with
      | none => rfl
      | some next => exact induction next

def initial (memory : Memory) : State Id where
  memory := memory
  strand := none
  running := ∅
  point := fun _ => .spawned

/-- What serialising `acquire` on the strand is for. -/
structure Exclusive (state : State Id) : Prop where
  one_in_refill : ∀ first second, (state.point first).InRefill →
    (state.point second).InRefill → first = second
  on_strand : ∀ id, (state.point id).Touches → state.strand = some id
  basis_current : ∀ id seen, (state.point id).basis? = some seen →
    state.memory.tokens = seen
  taken_whole : ∀ id seen, state.point id = .writeTokensTaken seen → 1 ≤ seen

/-! Runs in which no coroutine comes back from a timer wait. -/

/-- The strand serialises the bodies, and each body relies on nothing that
another could have changed. -/
structure Serial (state : State Id) : Prop where
  inBody_iff : ∀ id, (state.point id).InBody ↔ state.strand = some id
  current : ∀ id, (state.point id).Current state.memory

omit [DecidableEq Id] in
theorem serial_initial (memory : Memory) :
    (initial memory : State Id).Serial where
  inBody_iff := fun _ => ⟨False.elim, nofun⟩
  current := fun _ => Point.current_of_not_inBody not_false

omit [DecidableEq Id] in
theorem Serial.exclusive {state : State Id} (serial : state.Serial) :
    state.Exclusive where
  one_in_refill := by
    intro first second firstInside secondInside
    have firstHolds := (serial.inBody_iff first).mp firstInside.inBody
    have secondHolds := (serial.inBody_iff second).mp secondInside.inBody
    exact Option.some.inj (firstHolds.symm.trans secondHolds)
  on_strand := fun id touches => (serial.inBody_iff id).mp touches.inBody
  basis_current := fun id => (serial.current id).basis
  taken_whole := fun id => (serial.current id).taken

/-- Moving one coroutine keeps the strand serial when its new point and the new
holder agree and everyone else is where the strand says. -/
theorem Serial.moveTo {state : State Id} {id : Id} {point : Point}
    (inBody_iff : point.InBody ↔ state.strand = some id)
    (others : ∀ other, other ≠ id →
      ((state.point other).InBody ↔ state.strand = some other))
    (current : point.Current state.memory)
    (othersCurrent : ∀ other, other ≠ id →
      (state.point other).Current state.memory) :
    (state.moveTo id point).Serial := by
  constructor
  · intro other
    by_cases same : other = id
    · subst other
      simpa [State.moveTo] using inBody_iff
    · simpa [State.moveTo, Function.update_of_ne same] using others other same
  · intro other
    by_cases same : other = id
    · subst other
      simpa [State.moveTo] using current
    · simpa [State.moveTo, Function.update_of_ne same]
        using othersCurrent other same

omit [DecidableEq Id] in
theorem Serial.others_outside {state : State Id} {id other : Id}
    (serial : state.Serial) (holds : state.strand = some id)
    (different : other ≠ id) : ¬ (state.point other).InBody := by
  intro inside
  have otherHolds := (serial.inBody_iff other).mp inside
  exact different (Option.some.inj (otherHolds.symm.trans holds))

theorem Serial.moveTo_release {state : State Id} {id : Id} {point : Point}
    (serial : state.Serial) (holds : state.strand = some id)
    (outside : ¬ point.InBody) (memory : Memory) :
    (({ state with memory := memory }.moveTo id point).release id).Serial := by
  have nobody : ∀ other,
      ¬ ((Function.update state.point id point) other).InBody := by
    intro other
    by_cases same : other = id
    · subst other
      simpa using outside
    · rw [Function.update_of_ne same]
      exact serial.others_outside holds same
  constructor
  · intro other
    refine ⟨fun inside => absurd inside (nobody other), ?_⟩
    simp [State.release, State.moveTo, holds]
  · exact fun other => Point.current_of_not_inBody (nobody other)

omit [DecidableEq Id] in
theorem Serial.of_tokens_eq {state : State Id} (serial : state.Serial)
    {memory : Memory} (same : memory.tokens = state.memory.tokens) :
    ({ state with memory := memory } : State Id).Serial where
  inBody_iff := serial.inBody_iff
  current := fun id => (serial.current id).of_tokens_eq same

theorem Serial.step {threads : Nat} {capacity : ℚ} {state next : State Id}
    {action : Action Id} (serial : state.Serial)
    (noWake : ∀ id, action ≠ .wake id)
    (stepped : state.step threads capacity action = some next) :
    next.Serial := by
  cases action with
  | start id =>
      obtain ⟨spawned, _, rfl⟩ := step_cases stepped
      refine Serial.moveTo ?_ (fun other _ => serial.inBody_iff other)
        (Point.current_of_not_inBody not_false)
        (fun other _ => serial.current other)
      refine ⟨False.elim, fun holds => ?_⟩
      have inside := (serial.inBody_iff id).mpr holds
      rw [spawned] at inside
      exact inside
  | enterStrand id =>
      obtain ⟨_, free, _, rfl⟩ := step_cases stepped
      have outside : ∀ other, ¬ (state.point other).InBody := by
        intro other inside
        have holds := (serial.inBody_iff other).mp inside
        rw [free] at holds
        cases holds
      refine Serial.moveTo ⟨fun _ => rfl, fun _ => trivial⟩ ?_
        ⟨nofun, nofun, nofun⟩ (fun other _ => serial.current other)
      intro other different
      refine ⟨fun inside => absurd inside (outside other), fun holds => ?_⟩
      exact absurd (Option.some.inj holds).symm different
  | exec id =>
      obtain ⟨memory, point, executed, ⟨inside, rfl⟩ | ⟨outside, rfl⟩⟩ :=
        step_cases stepped
      all_goals
        have holds := (serial.inBody_iff id).mp (Point.inBody_of_exec executed)
      · refine Serial.moveTo ⟨fun _ => holds, fun _ => inside⟩
          (fun other _ => serial.inBody_iff other)
          ((serial.current id).exec executed) ?_
        exact fun other different => Point.current_of_not_inBody
          (serial.others_outside holds different)
      · exact serial.moveTo_release holds outside memory
  | wake id => exact absurd rfl (noWake id)
  | leave id =>
      obtain ⟨returned, rfl⟩ := step_cases stepped
      have inside : (state.point id).InBody := by
        rw [returned]
        trivial
      have outside : ¬ Point.left.InBody := not_false
      exact serial.moveTo_release ((serial.inBody_iff id).mp inside)
        outside state.memory
  | tick elapsed =>
      obtain ⟨_, rfl⟩ := step_cases stepped
      exact serial.of_tokens_eq rfl
  | storeRate rate =>
      cases step_cases stepped
      exact serial.of_tokens_eq rfl

theorem Serial.run {threads : Nat} {capacity : ℚ} {state final : State Id}
    {actions : List (Action Id)} (serial : state.Serial)
    (noWake : ∀ id, .wake id ∉ actions)
    (ran : state.run threads capacity actions = some final) : final.Serial := by
  rw [run_eq] at ran
  refine Steps.run_preserves Serial.step serial ?_ ran
  rintro before action _ isPrefix _ id rfl
  exact noWake id (isPrefix.subset List.mem_concat_self)

/-! All runs: a coroutine that wakes from its timer is off the strand. -/

/-- Whoever is on the strand is in the body. -/
def HolderInBody (state : State Id) : Prop :=
  ∀ id, state.strand = some id → (state.point id).InBody

theorem HolderInBody.moveTo {state : State Id} {id : Id} {point : Point}
    (inside : state.strand = some id → point.InBody)
    (others : ∀ other, other ≠ id → state.strand = some other →
      (state.point other).InBody) :
    (state.moveTo id point).HolderInBody := by
  intro other holds
  by_cases same : other = id
  · subst other
    simpa [State.moveTo] using inside holds
  · simpa [State.moveTo, Function.update_of_ne same]
      using others other same holds

theorem HolderInBody.release {state : State Id} {id : Id}
    (others : ∀ other, other ≠ id → state.strand = some other →
      (state.point other).InBody) :
    (state.release id).HolderInBody := by
  intro other holds
  simp only [State.release] at holds
  split at holds
  · cases holds
  · next notHolder =>
      have different : other ≠ id := fun same => notHolder (same ▸ holds)
      exact others other different holds

theorem HolderInBody.moveTo_release {state : State Id} (holder : state.HolderInBody)
    (id : Id) (point : Point) (memory : Memory) :
    (({ state with memory := memory }.moveTo id point).release id).HolderInBody := by
  refine HolderInBody.release ?_
  intro other different holds
  simpa [State.moveTo, Function.update_of_ne different] using holder other holds

theorem HolderInBody.step {threads : Nat} {capacity : ℚ}
    {state next : State Id} {action : Action Id} (holder : state.HolderInBody)
    (stepped : state.step threads capacity action = some next) :
    next.HolderInBody := by
  cases action with
  | start id =>
      obtain ⟨spawned, _, rfl⟩ := step_cases stepped
      refine HolderInBody.moveTo (fun holds => ?_) (fun other _ => holder other)
      have inside := holder id holds
      rw [spawned] at inside
      exact inside
  | enterStrand id =>
      obtain ⟨_, _, _, rfl⟩ := step_cases stepped
      refine HolderInBody.moveTo (fun _ => trivial) ?_
      intro other different holds
      exact absurd (Option.some.inj holds).symm different
  | exec id =>
      obtain ⟨memory, point, _, ⟨inside, rfl⟩ | ⟨_, rfl⟩⟩ := step_cases stepped
      · exact HolderInBody.moveTo (fun _ => inside) (fun other _ => holder other)
      · exact holder.moveTo_release id point memory
  | wake id =>
      obtain ⟨_, _, _, _, rfl⟩ := step_cases stepped
      exact HolderInBody.moveTo (fun _ => trivial) (fun other _ => holder other)
  | leave id =>
      obtain ⟨_, rfl⟩ := step_cases stepped
      exact holder.moveTo_release id .left state.memory
  | tick elapsed =>
      obtain ⟨_, rfl⟩ := step_cases stepped
      exact holder
  | storeRate rate =>
      cases step_cases stepped
      exact holder

theorem HolderInBody.run {threads : Nat} {capacity : ℚ}
    {state final : State Id} {actions : List (Action Id)}
    (holder : state.HolderInBody)
    (ran : state.run threads capacity actions = some final) :
    final.HolderInBody := by
  rw [run_eq] at ran
  exact Steps.run_invariant HolderInBody.step holder ran

/-- The first access after a timer wait is made off the strand. -/
theorem HolderInBody.wake_not_exclusive {threads : Nat} {capacity : ℚ}
    {state woken : State Id} {id : Id} (holder : state.HolderInBody)
    (woke : state.step threads capacity (.wake id) = some woken) :
    ∃ next, woken.step threads capacity (.exec id) = some next ∧
      ¬ next.Exclusive := by
  obtain ⟨wakeAt, asleep, _, _, rfl⟩ := step_cases woke
  have off : state.strand ≠ some id := by
    intro holds
    have inside := holder id holds
    rw [asleep] at inside
    exact inside
  refine ⟨{
    memory := state.memory
    strand := state.strand
    running := insert id state.running
    point := Function.update (Function.update state.point id .readClock)
      id (.readLastRefill state.memory.clock) }, ?_, ?_⟩
  · simp [State.step, State.moveTo, State.occupy, Point.exec, Point.InBody]
  · intro exclusive
    refine off (exclusive.on_strand id ?_)
    simp [Point.Touches]

/-- In every state reached by a run that resumes no coroutine from its timer
wait, the strand does what it is for; and the first coroutine that does resume
from one breaks this with its next access. -/
theorem run_exclusive_unless_woken {threads : Nat} {capacity : ℚ}
    {memory : Memory} {actions : List (Action Id)} {state : State Id}
    (ran : (initial memory).run threads capacity actions = some state) :
    ((∀ id, .wake id ∉ actions) → state.Exclusive) ∧
      ∀ id woken, state.step threads capacity (.wake id) = some woken →
        ∃ next, woken.step threads capacity (.exec id) = some next ∧
          ¬ next.Exclusive := by
  constructor
  · intro noWake
    exact ((serial_initial memory).run noWake ran).exclusive
  · intro id woken woke
    have holder : (initial memory : State Id).HolderInBody := nofun
    exact (holder.run ran).wake_not_exclusive woke

/-- Three callers whose accesses interleave: the first has been granted the
token, the second sleeps, and the third is inside the refill. -/
def interleavedRun : List (Action (Fin 3)) :=
  [.start 0, .start 1, .enterStrand 0] ++ List.replicate 4 (.exec 0) ++
  [.start 2] ++ List.replicate 5 (.exec 0) ++
  [.leave 0, .enterStrand 1] ++ List.replicate 9 (.exec 1) ++
  [.enterStrand 2, .tick 1] ++ List.replicate 4 (.exec 2)

theorem run_exclusive_unless_woken_interleaved :
    ∃ state, (initial ⟨0, 1, 1, 0⟩).run 2 1 interleavedRun = some state ∧
      state.point 0 = .left ∧ (state.point 2).InRefill ∧ state.Exclusive ∧
      ∃ woken, state.step 2 1 (.wake 1) = some woken ∧
        ∃ next, woken.step 2 1 (.exec 1) = some next ∧ ¬ next.Exclusive := by
  have reached : ((initial ⟨0, 1, 1, 0⟩).run 2 1 interleavedRun).any
      (fun state => decide (state.point 0 = .left ∧
        (state.point 2).InRefill ∧
        (state.step 2 1 (.wake 1)).isSome = true)) = true := by
    decide +kernel
  obtain ⟨state, ran, all⟩ := (Option.any_eq_true _ _).mp reached
  obtain ⟨left, inside, due⟩ := of_decide_eq_true all
  obtain ⟨woken, woke⟩ := Option.isSome_iff_exists.mp due
  obtain ⟨exclusive, broken⟩ := run_exclusive_unless_woken ran
  have asleep : ∀ id, .wake id ∉ interleavedRun := by decide
  exact ⟨state, ran, left, inside, exclusive asleep, woken, woke,
    broken 1 woken woke⟩

/-- One coroutine from its spawning to the grant of its token. -/
def soloRun : List (Action (Fin 3)) :=
  [.start 0, .enterStrand 0] ++ List.replicate 9 (.exec 0)

/-- Three callers of a limiter with one token, the last two of which come back
from their timers together: the run stops when both are inside the refill. -/
def twoWoken : List (Action (Fin 3)) :=
  soloRun ++ [.leave 0] ++
  [.start 1, .enterStrand 1] ++ List.replicate 9 (.exec 1) ++
  [.start 2, .enterStrand 2] ++ List.replicate 9 (.exec 2) ++
  [.tick 1, .wake 1, .wake 2] ++
  List.replicate 4 (.exec 1) ++ List.replicate 4 (.exec 2)

/-- Both are then granted the one token that has been added since. -/
def lostUpdate : List (Action (Fin 3)) :=
  twoWoken ++ List.replicate 5 (.exec 1) ++ List.replicate 5 (.exec 2)

theorem run_not_exclusive :
    (∃ state, (initial ⟨0, 1, 1, 0⟩).run 2 1 twoWoken = some state ∧
      (state.point 1).InRefill ∧ (state.point 2).InRefill ∧
      state.strand = none ∧ ¬ state.Exclusive) ∧
    ∃ state, (initial ⟨0, 1, 1, 0⟩).run 2 1 lostUpdate = some state ∧
      state.memory.clock = 1 ∧ state.point 0 = .left ∧
      state.point 1 = .returned ∧ state.point 2 = .returned := by
  have together : ((initial ⟨0, 1, 1, 0⟩).run 2 1 twoWoken).any
      (fun state => decide ((state.point 1).InRefill ∧
        (state.point 2).InRefill ∧ state.strand = none)) = true := by
    decide +kernel
  have granted : ((initial ⟨0, 1, 1, 0⟩).run 2 1 lostUpdate).any
      (fun state => decide (state.memory.clock = 1 ∧ state.point 0 = .left ∧
        state.point 1 = .returned ∧ state.point 2 = .returned)) = true := by
    decide +kernel
  constructor
  · obtain ⟨state, ran, inside⟩ := (Option.any_eq_true _ _).mp together
    obtain ⟨first, second, free⟩ := of_decide_eq_true inside
    refine ⟨state, ran, first, second, free, fun exclusive => ?_⟩
    exact absurd (exclusive.one_in_refill 1 2 first second) (by decide)
  · obtain ⟨state, ran, all⟩ := (Option.any_eq_true _ _).mp granted
    exact ⟨state, ran, of_decide_eq_true all⟩

end State

end ServicePortScanner.Net.Acquire
