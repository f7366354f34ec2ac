import ServicePortScanner.Data.Steps
import ServicePortScanner.Net.AdaptiveRate

namespace ServicePortScanner.Net

open ServicePortScanner.Data

/-! Any number of overlapping `on_response` calls, one atomic operation at a
time. -/

/-- The next operation of a call, with the values it has loaded or computed. -/
inductive Point where
  | loadSrtt (r : ℚ)
  | loadRttvar (srtt r : ℚ)
  | storeSrtt (srtt rttvar : ℚ)
  | storeRttvar (rttvar : ℚ)
  | countSample (wasLoss : Bool)
  /-- `cleared` notes that the counted sample has been cleared since; no
  operation reads it. -/
  | countLoss (samples : Nat) (cleared : Bool)
  | loadLosses (samples : Nat)
  | loadRate (samples losses : Nat)
  | storeRate (samples : Nat) (next : ℚ)
  | resetSamples
  | resetLosses
  deriving DecidableEq, Repr

namespace Point

/-- The first operation of a call; a call in another mode has none. -/
def enter (limiter : RateLimiter) (rtt : Int) (wasLoss : Bool) : Option Point :=
  if limiter.mode ≠ .adaptive then none
  else if wasLoss = false ∧ 0 ≤ rtt then some (.loadSrtt rtt)
  else some (.countSample wasLoss)

/-- Behind the counters only every hundredth call goes on. -/
def afterCount (samples : Nat) : Option Point :=
  if samples % kAdjustEvery ≠ 0 then none else some (.loadLosses samples)

def afterRate (samples : Nat) : Option Point :=
  if kWindowReset ≤ samples then some .resetSamples else none

/-- The rate is stored only where it changes. -/
def afterRateLoad (cur : ℚ) (samples : Nat) (next : ℚ) : Option Point :=
  if next ≠ cur then some (.storeRate samples next) else afterRate samples

/-- The operation, and what the call does next. -/
def perform (limiter : RateLimiter) : Point → RateLimiter × Option Point
  | .loadSrtt r =>
      if limiter.srttMs < 0 then (limiter, some (.storeSrtt r (r * 0.5)))
      else (limiter, some (.loadRttvar limiter.srttMs r))
  | .loadRttvar srtt r =>
      (limiter, some (.storeSrtt
        ((1 - kEwmaAlpha) * srtt + kEwmaAlpha * r)
        ((1 - kEwmaBeta) * limiter.rttvarMs + kEwmaBeta * |srtt - r|)))
  | .storeSrtt srtt rttvar =>
      ({ limiter with srttMs := srtt }, some (.storeRttvar rttvar))
  | .storeRttvar rttvar =>
      ({ limiter with rttvarMs := rttvar }, some (.countSample false))
  | .countSample wasLoss =>
      let samples := limiter.sampleCount + 1
      ({ limiter with sampleCount := samples },
        if wasLoss then some (.countLoss samples false)
        else afterCount samples)
  | .countLoss samples _ =>
      ({ limiter with lossCount := limiter.lossCount + 1 }, afterCount samples)
  | .loadLosses samples =>
      (limiter, some (.loadRate samples limiter.lossCount))
  | .loadRate samples losses =>
      (limiter, afterRateLoad limiter.rate samples
        (limiter.adjustedRate samples losses))
  | .storeRate samples next =>
      ({ limiter with rate := next }, afterRate samples)
  | .resetSamples => ({ limiter with sampleCount := 0 }, some .resetLosses)
  | .resetLosses => ({ limiter with lossCount := 0 }, none)

/-- What a call notes of an operation of another. -/
def note : Point → Point → Point
  | .resetSamples, .countLoss samples _ => .countLoss samples true
  | _, other => other

end Point

/-- The limiter and the calls in progress. -/
structure Responses where
  limiter : RateLimiter
  calls : List Point
  deriving DecidableEq, Repr

namespace Responses

inductive Action where
  | call (rtt : Int) (wasLoss : Bool)
  | advance (index : Nat)
  deriving DecidableEq, Repr

/-- A call goes on, or it has returned. -/
def resume (calls : List Point) (index : Nat) : Option Point → List Point
  | some point => calls.set index point
  | none => calls.eraseIdx index

def step (state : Responses) : Action → Option Responses
  | .call rtt wasLoss =>
      some { state with
        calls := state.calls ++ (Point.enter state.limiter rtt wasLoss).toList }
  | .advance index =>
      match state.calls[index]? with
      | none => none
      | some point =>
          let performed := point.perform state.limiter
          some {
            limiter := performed.1
            calls := resume (state.calls.map point.note) index performed.2 }

/-- No call is in progress. -/
def Idle (state : Responses) : Prop :=
  state.calls = []

end Responses

/-! One call on its own is the serialised `on_response`. -/

namespace Responses

/-- A single call at some point can end with the limiter `final`. -/
def Ends (limiter : RateLimiter) (next : Option Point) (final : RateLimiter) :
    Prop :=
  ∃ actions, Steps.run step ⟨limiter, next.toList⟩ actions = some ⟨final, []⟩

theorem ends_none (limiter : RateLimiter) : Ends limiter none limiter :=
  ⟨[], rfl⟩

theorem step_alone (limiter : RateLimiter) (point : Point) :
    step ⟨limiter, [point]⟩ (.advance 0) =
      some ⟨(point.perform limiter).1, (point.perform limiter).2.toList⟩ := by
  have resumed (next : Option Point) :
      resume ([point].map point.note) 0 next = next.toList := by
    cases next with
    | none => rfl
    | some point' => rfl
  simp only [step, List.getElem?_cons_zero, resumed]

theorem Ends.perform {limiter final : RateLimiter} {point : Point}
    (ends : Ends (point.perform limiter).1 (point.perform limiter).2 final) :
    Ends limiter (some point) final := by
  obtain ⟨actions, ran⟩ := ends
  exact ⟨.advance 0 :: actions,
    Steps.run_cons.mpr ⟨_, step_alone limiter point, ran⟩⟩

theorem ends_afterRate (limiter : RateLimiter) (samples : Nat) :
    Ends limiter (Point.afterRate samples)
      (if kWindowReset ≤ samples then
        { limiter with sampleCount := 0, lossCount := 0 }
      else limiter) := by
  unfold Point.afterRate
  split
  · apply Ends.perform
    apply Ends.perform
    exact ends_none _
  · exact ends_none limiter

theorem ends_afterCount (limiter : RateLimiter) :
    Ends limiter (Point.afterCount limiter.sampleCount)
      (if limiter.sampleCount % kAdjustEvery ≠ 0 then limiter
      else limiter.adjust) := by
  unfold Point.afterCount
  split
  · exact ends_none limiter
  · apply Ends.perform
    apply Ends.perform
    simp only [Point.perform]
    unfold RateLimiter.adjust Point.afterRateLoad
    generalize limiter.adjustedRate limiter.sampleCount limiter.lossCount =
      next
    have ends := ends_afterRate { limiter with rate := next }
      limiter.sampleCount
    by_cases changed : next ≠ limiter.rate
    · rw [if_pos changed]
      apply Ends.perform
      exact ends
    · rw [if_neg changed]
      rw [not_not] at changed
      subst changed
      exact ends

theorem ends_countSample (limiter : RateLimiter) (wasLoss : Bool) :
    Ends limiter (some (.countSample wasLoss))
      (if (limiter.countSample wasLoss).sampleCount % kAdjustEvery ≠ 0 then
        limiter.countSample wasLoss
      else (limiter.countSample wasLoss).adjust) := by
  apply Ends.perform
  cases wasLoss with
  | false => exact ends_afterCount (limiter.countSample false)
  | true =>
      apply Ends.perform
      exact ends_afterCount (limiter.countSample true)

theorem ends_loadSrtt {limiter final : RateLimiter} {r : ℚ}
    (ends : Ends (limiter.updateRtt r) (some (.countSample false)) final) :
    Ends limiter (some (.loadSrtt r)) final := by
  apply Ends.perform
  simp only [Point.perform]
  unfold RateLimiter.updateRtt at ends
  by_cases first : limiter.srttMs < 0
  · rw [if_pos first] at ends ⊢
    apply Ends.perform
    apply Ends.perform
    exact ends
  · rw [if_neg first] at ends ⊢
    apply Ends.perform
    apply Ends.perform
    apply Ends.perform
    exact ends

/-- A call that overlaps no other does what the serialised step does. -/
theorem ends_onResponse (limiter : RateLimiter) (rtt : Int) (wasLoss : Bool) :
    Ends limiter (Point.enter limiter rtt wasLoss)
      (limiter.onResponse rtt wasLoss) := by
  unfold Point.enter RateLimiter.onResponse
  split
  · exact ends_none limiter
  · have ends := ends_countSample (limiter.observeRtt rtt wasLoss) wasLoss
    split
    · next observed =>
        obtain ⟨rfl, positive⟩ := observed
        apply ends_loadSrtt
        have same : limiter.observeRtt rtt false = limiter.updateRtt rtt :=
          if_pos ⟨rfl, positive⟩
        rw [same] at ends ⊢
        exact ends
    · next unobserved =>
        have same : limiter.observeRtt rtt wasLoss = limiter :=
          if_neg unobserved
        rw [same] at ends ⊢
        exact ends

theorem exists_serialised (limiter : RateLimiter) (rtt : Int) (wasLoss : Bool) :
    ∃ actions, Steps.run step ⟨limiter, []⟩ actions =
      some ⟨limiter.onResponse rtt wasLoss, []⟩ := by
  obtain ⟨actions, ran⟩ := ends_onResponse limiter rtt wasLoss
  exact ⟨.call rtt wasLoss :: actions, Steps.run_cons.mpr ⟨_, rfl, ran⟩⟩

end Responses

/-! What the counters owe to the calls in progress. -/

namespace Point

/-- The sample has been counted, its loss has not. -/
def isFresh : Point → Bool
  | .countLoss _ false => true
  | _ => false

/-- The sample has been counted and cleared, its loss has not been counted. -/
def isStale : Point → Bool
  | .countLoss _ true => true
  | _ => false

/-- The samples have been cleared, the losses have not. -/
def isClearing : Point → Bool
  | .resetLosses => true
  | _ => false

/-- The next operation concerns neither counter. -/
def isQuiet : Point → Bool
  | .countSample _ | .countLoss _ _ | .resetSamples | .resetLosses => false
  | _ => true

/-- The call is not between two operations on the counters. -/
def IsPlain (point : Point) : Prop :=
  point.isFresh = false ∧ point.isStale = false ∧ point.isClearing = false

theorem isPlain_of_mem_some {point next : Point} (plain : point.IsPlain)
    (isNext : next ∈ some point) : next.IsPlain := by
  cases isNext
  exact plain

theorem isPlain_afterCount {samples : Nat} {point : Point}
    (next : point ∈ afterCount samples) : point.IsPlain := by
  unfold afterCount at next
  split at next
  · cases next
  · exact isPlain_of_mem_some ⟨rfl, rfl, rfl⟩ next

theorem isPlain_afterRate {samples : Nat} {point : Point}
    (next : point ∈ afterRate samples) : point.IsPlain := by
  unfold afterRate at next
  split at next
  · exact isPlain_of_mem_some ⟨rfl, rfl, rfl⟩ next
  · cases next

theorem isPlain_of_isQuiet {point : Point} (quiet : point.isQuiet = true) :
    point.IsPlain := by
  cases point with
  | countLoss samples cleared => cases quiet
  | resetLosses => cases quiet
  | _ => exact ⟨rfl, rfl, rfl⟩

/-- Such an operation leaves both counters alone, and so does the call behind
it until it comes to one of them. -/
theorem perform_quiet (limiter : RateLimiter) {point : Point}
    (quiet : point.isQuiet = true) :
    (point.perform limiter).1.sampleCount = limiter.sampleCount ∧
    (point.perform limiter).1.lossCount = limiter.lossCount ∧
    ∀ next ∈ (point.perform limiter).2, next.IsPlain := by
  cases point with
  | loadSrtt r =>
      simp only [perform]
      split
      · exact ⟨rfl, rfl, fun _ => isPlain_of_mem_some ⟨rfl, rfl, rfl⟩⟩
      · exact ⟨rfl, rfl, fun _ => isPlain_of_mem_some ⟨rfl, rfl, rfl⟩⟩
  | loadRttvar srtt r =>
      exact ⟨rfl, rfl, fun _ => isPlain_of_mem_some ⟨rfl, rfl, rfl⟩⟩
  | storeSrtt srtt rttvar =>
      exact ⟨rfl, rfl, fun _ => isPlain_of_mem_some ⟨rfl, rfl, rfl⟩⟩
  | storeRttvar rttvar =>
      exact ⟨rfl, rfl, fun _ => isPlain_of_mem_some ⟨rfl, rfl, rfl⟩⟩
  | countSample wasLoss => cases quiet
  | countLoss samples cleared => cases quiet
  | loadLosses samples =>
      exact ⟨rfl, rfl, fun _ => isPlain_of_mem_some ⟨rfl, rfl, rfl⟩⟩
  | loadRate samples losses =>
      refine ⟨rfl, rfl, ?_⟩
      intro next isNext
      simp only [perform, afterRateLoad] at isNext
      split at isNext
      · exact isPlain_of_mem_some ⟨rfl, rfl, rfl⟩ isNext
      · exact isPlain_afterRate isNext
  | storeRate samples next => exact ⟨rfl, rfl, fun _ => isPlain_afterRate⟩
  | resetSamples => cases quiet
  | resetLosses => cases quiet

theorem note_of_ne {point : Point} (other : point ≠ .resetSamples) :
    point.note = id := by
  funext call
  cases point with
  | resetSamples => exact absurd rfl other
  | _ => rfl

theorem isFresh_note (call : Point) :
    (Point.resetSamples.note call).isFresh = false := by
  cases call with
  | countLoss samples cleared => rfl
  | _ => rfl

end Point

namespace Responses

/-- Each call that has still to count its loss is backed by a sample, unless the
samples have just been cleared; and without a clearing half done the losses are
backed by samples too. -/
structure Backed (state : Responses) : Prop where
  fresh : state.calls.countP Point.isFresh ≤ state.limiter.sampleCount
  settled : state.calls.countP Point.isClearing = 0 →
    state.calls.countP Point.isStale = 0 ∧
      state.limiter.lossCount + state.calls.countP Point.isFresh ≤
        state.limiter.sampleCount

/-- When the last clearing of the losses comes, every loss whose sample has been
cleared is among them. -/
def InTime (state : Responses) : Action → Prop
  | .call _ _ => True
  | .advance index =>
      state.calls[index]? = some .resetLosses →
      state.calls.countP Point.isClearing = 1 →
      state.calls.countP Point.isStale = 0

instance (state : Responses) : DecidablePred state.InTime
  | .call _ _ => inferInstanceAs (Decidable True)
  | .advance _ => inferInstanceAs (Decidable (_ → _ → _))

theorem countP_resume {calls : List Point} {index : Nat} {point : Point}
    (found : calls[index]? = some point) (note : Point → Point)
    (next : Option Point) (p : Point → Bool) :
    (resume (calls.map note) index next).countP p =
      next.toList.countP p +
        (calls.eraseIdx index).countP fun call => p (note call) := by
  have others : ((calls.map note).eraseIdx index).countP p =
      (calls.eraseIdx index).countP fun call => p (note call) := by
    rw [List.eraseIdx_map, List.countP_map]
    rfl
  cases next with
  | none => rw [resume, others]; exact (Nat.zero_add _).symm
  | some point' =>
      have noted : (calls.map note)[index]? = some (note point) := by
        rw [List.getElem?_map, found]
        rfl
      have moved := Steps.countP_set noted point' p
      rw [Steps.countP_eraseIdx noted p, others] at moved
      rw [resume, Option.toList_some, Steps.countP_cons_toNat, List.countP_nil]
      omega

theorem Backed.call {state next : Responses} {rtt : Int} {wasLoss : Bool}
    (backed : Backed state)
    (stepped : state.step (.call rtt wasLoss) = some next) : Backed next := by
  have plain (p : Point → Bool) (load : p (.loadSrtt rtt) = false)
      (count : p (.countSample wasLoss) = false) :
      (Point.enter state.limiter rtt wasLoss).toList.countP p = 0 := by
    unfold Point.enter
    split
    · rfl
    · split
      · simp [load]
      · simp [count]
  cases stepped
  constructor
  · rw [List.countP_append, plain Point.isFresh rfl rfl]
    exact backed.fresh
  · intro done
    rw [List.countP_append, plain Point.isClearing rfl rfl] at done
    rw [List.countP_append, List.countP_append, plain Point.isStale rfl rfl,
      plain Point.isFresh rfl rfl]
    exact backed.settled done

theorem countP_next {next : Option Point} {p : Point → Bool}
    (plain : ∀ point ∈ next, p point = false) : next.toList.countP p = 0 := by
  cases next with
  | none => rfl
  | some point => simp [plain point rfl]

/-- The numbers of calls of one kind before and after an operation of one of
them, where no call takes note of it. -/
theorem countP_advance {calls : List Point} {index : Nat} {point : Point}
    (found : calls[index]? = some point) (other : point ≠ .resetSamples)
    (next : Option Point) (p : Point → Bool) :
    (resume (calls.map point.note) index next).countP p +
        (p point).toNat =
      next.toList.countP p + calls.countP p := by
  have others : (calls.eraseIdx index).countP (fun call => p (id call)) =
      (calls.eraseIdx index).countP p := rfl
  rw [countP_resume found, Steps.countP_eraseIdx found p,
    Point.note_of_ne other]
  omega

/-- A turn of a call that changes none of the numbers. -/
theorem Backed.quiet {state : Responses} {index : Nat} {point : Point}
    (backed : Backed state) (found : state.calls[index]? = some point)
    (quiet : point.isQuiet = true) :
    Backed ⟨(point.perform state.limiter).1,
      resume (state.calls.map point.note) index
        (point.perform state.limiter).2⟩ := by
  have other : point ≠ .resetSamples := by
    rintro rfl
    cases quiet
  obtain ⟨samples, losses, plain⟩ := Point.perform_quiet state.limiter quiet
  obtain ⟨notFresh, notStale, notClearing⟩ := Point.isPlain_of_isQuiet quiet
  have same {p : Point → Bool} (notPoint : p point = false)
      (notNext : ∀ next ∈ (point.perform state.limiter).2, p next = false) :
      (resume (state.calls.map point.note) index
        (point.perform state.limiter).2).countP p = state.calls.countP p := by
    have count := countP_advance found other (point.perform state.limiter).2 p
    rw [countP_next notNext, notPoint] at count
    simpa using count
  have freshCalls := same notFresh fun next isNext => (plain next isNext).1
  have staleCalls := same notStale fun next isNext => (plain next isNext).2.1
  have clearingCalls :=
    same notClearing fun next isNext => (plain next isNext).2.2
  constructor
  · rw [freshCalls, samples]
    exact backed.fresh
  · rw [clearingCalls, freshCalls, staleCalls, samples, losses]
    exact backed.settled

/-- The numbers of calls with a state between their two operations, after an
operation that no other call takes note of. -/
theorem counts_advance {calls : List Point} {index : Nat} {point : Point}
    (found : calls[index]? = some point) (other : point ≠ .resetSamples)
    (next : Option Point) :
    (resume (calls.map point.note) index next).countP Point.isFresh +
        point.isFresh.toNat =
      next.toList.countP Point.isFresh + calls.countP Point.isFresh ∧
    (resume (calls.map point.note) index next).countP Point.isStale +
        point.isStale.toNat =
      next.toList.countP Point.isStale + calls.countP Point.isStale ∧
    (resume (calls.map point.note) index next).countP Point.isClearing +
        point.isClearing.toNat =
      next.toList.countP Point.isClearing + calls.countP Point.isClearing :=
  ⟨countP_advance found other next _, countP_advance found other next _,
    countP_advance found other next _⟩

theorem counts_afterCount (samples : Nat) :
    (Point.afterCount samples).toList.countP Point.isFresh = 0 ∧
    (Point.afterCount samples).toList.countP Point.isStale = 0 ∧
    (Point.afterCount samples).toList.countP Point.isClearing = 0 :=
  ⟨countP_next fun _ next => (Point.isPlain_afterCount next).1,
    countP_next fun _ next => (Point.isPlain_afterCount next).2.1,
    countP_next fun _ next => (Point.isPlain_afterCount next).2.2⟩

theorem Backed.countSample {state : Responses} {index : Nat} {wasLoss : Bool}
    (backed : Backed state)
    (found : state.calls[index]? = some (.countSample wasLoss)) :
    Backed ⟨((Point.countSample wasLoss).perform state.limiter).1,
      resume (state.calls.map (Point.countSample wasLoss).note) index
        ((Point.countSample wasLoss).perform state.limiter).2⟩ := by
  obtain ⟨fresh, settled⟩ := backed
  obtain ⟨freshCalls, staleCalls, clearingCalls⟩ :=
    counts_advance found (by simp)
      ((Point.countSample wasLoss).perform state.limiter).2
  cases wasLoss with
  | false =>
      obtain ⟨noFresh, noStale, noClearing⟩ :=
        counts_afterCount (state.limiter.sampleCount + 1)
      simp only [Point.perform, Bool.false_eq_true, if_false, noFresh, noStale,
        noClearing, Point.isFresh, Point.isStale, Point.isClearing,
        Bool.toNat_false] at freshCalls staleCalls clearingCalls
      constructor
      · simp only [Point.perform, Bool.false_eq_true, if_false]
        omega
      · simp only [Point.perform, Bool.false_eq_true, if_false]
        omega
  | true =>
      simp only [Point.perform, if_true, Option.toList_some,
        List.countP_singleton, Point.isFresh, Point.isStale, Point.isClearing,
        Bool.false_eq_true, if_false, Bool.toNat_false]
        at freshCalls staleCalls clearingCalls
      constructor
      · simp only [Point.perform, if_true]
        omega
      · simp only [Point.perform, if_true]
        omega

theorem Backed.countLoss {state : Responses} {index samples : Nat}
    {cleared : Bool} (backed : Backed state)
    (found : state.calls[index]? = some (.countLoss samples cleared)) :
    Backed ⟨((Point.countLoss samples cleared).perform state.limiter).1,
      resume (state.calls.map (Point.countLoss samples cleared).note) index
        ((Point.countLoss samples cleared).perform state.limiter).2⟩ := by
  obtain ⟨fresh, settled⟩ := backed
  obtain ⟨freshCalls, staleCalls, clearingCalls⟩ :=
    counts_advance found (by simp)
      ((Point.countLoss samples cleared).perform state.limiter).2
  obtain ⟨noFresh, noStale, noClearing⟩ := counts_afterCount samples
  simp only [Point.perform, noFresh, noStale, noClearing]
    at freshCalls staleCalls clearingCalls
  cases cleared with
  | false =>
      simp only [Point.isFresh, Point.isStale, Point.isClearing,
        Bool.toNat_true, Bool.toNat_false]
        at freshCalls staleCalls clearingCalls
      constructor
      · simp only [Point.perform]
        omega
      · simp only [Point.perform]
        omega
  | true =>
      simp only [Point.isFresh, Point.isStale, Point.isClearing,
        Bool.toNat_true, Bool.toNat_false]
        at freshCalls staleCalls clearingCalls
      constructor
      · simp only [Point.perform]
        omega
      · simp only [Point.perform]
        omega

/-- Every loss that is still to be counted has now lost its sample. -/
theorem Backed.resetSamples {state : Responses} {index : Nat}
    (found : state.calls[index]? = some .resetSamples) :
    Backed ⟨(Point.resetSamples.perform state.limiter).1,
      resume (state.calls.map Point.resetSamples.note) index
        (Point.resetSamples.perform state.limiter).2⟩ := by
  constructor
  · simp only [countP_resume found, Point.isFresh_note, Point.perform]
    simp [Point.isFresh]
  · intro none
    simp only [countP_resume found, Point.perform] at none
    simp [Point.isClearing] at none

theorem Backed.resetLosses {state : Responses} {index : Nat}
    (backed : Backed state) (inTime : InTime state (.advance index))
    (found : state.calls[index]? = some .resetLosses) :
    Backed ⟨(Point.resetLosses.perform state.limiter).1,
      resume (state.calls.map Point.resetLosses.note) index
        (Point.resetLosses.perform state.limiter).2⟩ := by
  obtain ⟨fresh, settled⟩ := backed
  obtain ⟨freshCalls, staleCalls, clearingCalls⟩ :=
    counts_advance found (by simp)
      (Point.resetLosses.perform state.limiter).2
  have late := inTime found
  simp only [Point.perform, Point.isFresh, Point.isStale, Point.isClearing,
    Option.toList_none, List.countP_nil, Bool.toNat_true, Bool.toNat_false]
    at freshCalls staleCalls clearingCalls
  constructor
  · simp only [Point.perform]
    omega
  · simp only [Point.perform]
    omega

theorem Backed.advance {state next : Responses} {index : Nat}
    (backed : Backed state) (inTime : InTime state (.advance index))
    (stepped : state.step (.advance index) = some next) : Backed next := by
  unfold step at stepped
  dsimp only at stepped
  split at stepped
  · cases stepped
  · next point found =>
      cases stepped
      by_cases quiet : point.isQuiet = true
      · exact backed.quiet found quiet
      · cases point with
        | countSample wasLoss => exact backed.countSample found
        | countLoss samples cleared => exact backed.countLoss found
        | resetSamples => exact Backed.resetSamples found
        | resetLosses => exact backed.resetLosses inTime found
        | _ => exact absurd rfl quiet

theorem Backed.step {state next : Responses} {action : Action}
    (backed : Backed state) (inTime : InTime state action)
    (stepped : state.step action = some next) : Backed next := by
  cases action with
  | call rtt wasLoss => exact backed.call stepped
  | advance index => exact backed.advance inTime stepped

end Responses

/-! What the counters promise while nothing is in progress. -/

namespace RateLimiter

theorem onResponse_counters {limiter : RateLimiter}
    (counters : limiter.lossCount ≤ limiter.sampleCount) (rtt : Int)
    (wasLoss : Bool) :
    (limiter.onResponse rtt wasLoss).lossCount ≤
      (limiter.onResponse rtt wasLoss).sampleCount := by
  by_cases adaptive : limiter.mode = .adaptive
  · obtain ⟨_, _, _, samples, losses⟩ :=
      onResponse_adaptive adaptive rtt wasLoss
    rw [samples, losses]
    cases wasLoss with
    | false => split_ifs <;> simp <;> omega
    | true => split_ifs <;> simp <;> omega
  · rw [onResponse, if_pos adaptive]
    exact counters

theorem respond_counters {limiter : RateLimiter}
    (counters : limiter.lossCount ≤ limiter.sampleCount)
    (responses : List Response) :
    (limiter.respond responses).lossCount ≤
      (limiter.respond responses).sampleCount := by
  induction responses generalizing limiter with
  | nil => exact counters
  | cons response rest induction =>
      exact induction (onResponse_counters counters _ _)

/-- The loss statistics make sense, now and at each later adjustment of calls
that come one after another. -/
structure Consistent (limiter : RateLimiter) : Prop where
  counters : limiter.lossCount ≤ limiter.sampleCount
  lossRatio : limiter.lossRatio ≤ 1
  adjustments : ∀ (responses : List Response) (rtt : Int) (wasLoss : Bool),
    let later := limiter.respond responses
    let counted := (later.observeRtt rtt wasLoss).countSample wasLoss
    (counted.lossCount : ℚ) / counted.sampleCount ≤ 1

theorem ratio_le_one {losses samples : Nat} (le : losses ≤ samples) :
    (losses : ℚ) / samples ≤ 1 :=
  div_le_one_of_le₀ (Nat.cast_le.mpr le) (Nat.cast_nonneg samples)

theorem consistent_of_counters {limiter : RateLimiter}
    (counters : limiter.lossCount ≤ limiter.sampleCount) :
    limiter.Consistent where
  counters := counters
  lossRatio := by
    unfold lossRatio
    split
    · exact zero_le_one
    · exact ratio_le_one counters
  adjustments := by
    intro responses rtt wasLoss later counted
    apply ratio_le_one
    have before : later.lossCount ≤ later.sampleCount :=
      respond_counters counters responses
    obtain ⟨_, _, observed⟩ := observeRtt_eq later rtt wasLoss
    simp only [counted, countSample, observed]
    split_ifs <;> omega

end RateLimiter

namespace Responses

/-- If the losses of cleared samples are always counted before the last clearing
of the losses, the statistics are consistent whenever no call is in progress. -/
theorem statistics_survive {limiter : RateLimiter} (fresh : limiter.Fresh)
    {actions : List Action}
    (inTime : Steps.Along step InTime ⟨limiter, []⟩ actions) :
    Steps.Always step (fun state => Idle state → state.limiter.Consistent)
      ⟨limiter, []⟩ actions := by
  have starts : Backed ⟨limiter, []⟩ := by
    constructor
    · exact Nat.zero_le _
    · intro _
      exact ⟨rfl, by simp [fresh.lossCount]⟩
  refine Steps.always_of_along Backed.step ?_ starts inTime
  intro state backed idle
  apply RateLimiter.consistent_of_counters
  have settled := backed.settled (by rw [idle]; rfl)
  exact Nat.le_trans (Nat.le_add_right _ _) settled.2

/-! The reset that comes between the two halves of a lost response. -/

/-- An adaptive limiter at its highest rate, behind `n` responses that were no
loss and carried no RTT. -/
def quietLimiter (n : Nat) : RateLimiter where
  rate := 100
  capacity := 100
  tokens := 100
  lastRefill := 0
  mode := .adaptive
  maxRate := 100
  sampleCount := n

theorem quietLimiter_fresh : (quietLimiter 0).Fresh :=
  ⟨rfl, rfl, rfl⟩

/-- The `n`th quiet response, from its call to its return. -/
def quietResponse (n : Nat) : List Action :=
  if n % kAdjustEvery ≠ 0 then [.call (-1) false, .advance 0]
  else [.call (-1) false, .advance 0, .advance 0, .advance 0]

def quietResponses (n : Nat) : List Action :=
  (List.range n).flatMap fun index => quietResponse (index + 1)

theorem quietLimiter_adjusted (n : Nat) :
    (quietLimiter n).adjustedRate n 0 = 100 := by
  simp [RateLimiter.adjustedRate, quietLimiter, kLossHigh, kLossLow, kStepUp]
  norm_num

theorem inTime_of_alone {limiter : RateLimiter} {point : Point}
    {action : Action} (other : point.isClearing = false) :
    InTime ⟨limiter, [point]⟩ action := by
  cases action with
  | call rtt wasLoss => trivial
  | advance index =>
      intro isReset
      cases index with
      | zero =>
          rw [Option.some.inj isReset] at other
          cases other
      | succ index => cases isReset

theorem quietResponse_runs {n : Nat} (within : n + 1 < kWindowReset) :
    Steps.run step ⟨quietLimiter n, []⟩ (quietResponse (n + 1)) =
        some ⟨quietLimiter (n + 1), []⟩ ∧
      Steps.Along step InTime ⟨quietLimiter n, []⟩ (quietResponse (n + 1)) := by
  have called : step ⟨quietLimiter n, []⟩ (.call (-1) false) =
      some ⟨quietLimiter n, [.countSample false]⟩ := rfl
  have counted : step ⟨quietLimiter n, [.countSample false]⟩ (.advance 0) =
      some ⟨quietLimiter (n + 1), (Point.afterCount (n + 1)).toList⟩ :=
    step_alone _ _
  unfold quietResponse
  split
  · next quiet =>
      rw [Point.afterCount, if_pos quiet] at counted
      constructor
      · simp only [Steps.run, called, counted, Option.bind_some,
          Option.toList_none]
      · exact .cons trivial called
          (.cons (inTime_of_alone rfl) counted Steps.along_nil)
  · next due =>
      rw [Point.afterCount, if_neg due] at counted
      have loaded : step ⟨quietLimiter (n + 1), [.loadLosses (n + 1)]⟩
          (.advance 0) =
          some ⟨quietLimiter (n + 1), [.loadRate (n + 1) 0]⟩ :=
        step_alone _ _
      have kept : step ⟨quietLimiter (n + 1), [.loadRate (n + 1) 0]⟩
          (.advance 0) = some ⟨quietLimiter (n + 1), []⟩ := by
        have same : (quietLimiter (n + 1)).rate = 100 := rfl
        rw [step_alone, Point.perform, quietLimiter_adjusted,
          Point.afterRateLoad, same, if_neg (not_not.mpr rfl), Point.afterRate,
          if_neg (Nat.not_le.mpr within)]
        rfl
      constructor
      · simp only [Steps.run, called, counted, loaded, kept, Option.bind_some,
          Option.toList_some]
      · exact .cons trivial called
          (.cons (inTime_of_alone rfl) counted
            (.cons (inTime_of_alone rfl) loaded
              (.cons (inTime_of_alone rfl) kept Steps.along_nil)))

theorem quietResponses_run {n : Nat} (within : n < kWindowReset) :
    Steps.run step ⟨quietLimiter 0, []⟩ (quietResponses n) =
        some ⟨quietLimiter n, []⟩ ∧
      Steps.Along step InTime ⟨quietLimiter 0, []⟩ (quietResponses n) := by
  induction n with
  | zero => exact ⟨rfl, Steps.along_nil⟩
  | succ n induction =>
      rw [quietResponses, List.range_succ, List.flatMap_append,
        List.flatMap_singleton]
      obtain ⟨ran, along⟩ := induction (Nat.lt_of_succ_lt within)
      obtain ⟨ranLast, alongLast⟩ := quietResponse_runs within
      constructor
      · rw [Steps.run_append]
        rw [quietResponses] at ran
        rw [ran, Option.bind_some, ranLast]
      · exact along.append ran alongLast

/-- The first call counts its sample as number 999 and the second one number
1000.  The second one clears the samples, the third one counts its own behind
that, and the first one counts its loss before the losses are cleared too. -/
def timelyLoss : List Action :=
  [.call (-1) true, .call (-1) false, .call 5 true, .advance 0, .advance 1,
    .advance 1, .advance 1, .advance 1, .advance 2, .advance 0, .advance 0,
    .advance 0]

theorem statistics_survive_timelyLoss :
    Steps.run step ⟨quietLimiter 0, []⟩ (quietResponses 998 ++ timelyLoss) =
        some ⟨{ quietLimiter 1 with lossCount := 1 }, []⟩ ∧
      Steps.Always step (fun state => Idle state → state.limiter.Consistent)
        ⟨quietLimiter 0, []⟩ (quietResponses 998 ++ timelyLoss) := by
  obtain ⟨ran, along⟩ := quietResponses_run (n := 998) (by decide)
  have inTime : Steps.Along step InTime ⟨quietLimiter 998, []⟩ timelyLoss := by
    decide +kernel
  constructor
  · rw [Steps.run_append, ran, Option.bind_some]
    decide +kernel
  · exact statistics_survive quietLimiter_fresh (along.append ran inTime)

/-- The first call counts its sample as number 999, the second one counts number
1000 and clears both counters, and then the first one counts its loss. -/
def lateLoss : List Action :=
  [.call (-1) true, .call (-1) false, .advance 0, .advance 1, .advance 1,
    .advance 1, .advance 1, .advance 1, .advance 0]

theorem run_lateLoss :
    Steps.run step ⟨quietLimiter 0, []⟩ (quietResponses 998 ++ lateLoss) =
      some ⟨{ quietLimiter 0 with lossCount := 1 }, []⟩ := by
  rw [Steps.run_append, (quietResponses_run (by decide)).1, Option.bind_some]
  decide +kernel

theorem lateLoss_inconsistent :
    ¬ ∀ (limiter : RateLimiter) (actions : List Action), limiter.Fresh →
      Steps.Always step (fun state => Idle state → state.limiter.Consistent)
        ⟨limiter, []⟩ actions := by
  intro claimed
  have consistent := claimed (quietLimiter 0) (quietResponses 998 ++ lateLoss)
    quietLimiter_fresh _ _ (List.prefix_refl _) run_lateLoss rfl
  exact absurd consistent.counters (by decide)

end Responses

end ServicePortScanner.Net
