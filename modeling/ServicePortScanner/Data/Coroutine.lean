import Mathlib.Data.List.Infix
import Mathlib.Data.List.TakeWhile

namespace ServicePortScanner.Data

/-! Coroutines and their environment.  A script is what the environment has sent
so far; the run of a coroutine on it is the state the coroutine has reached. -/

/-- What a family of coroutines exchanges with its environment. -/
structure World where
  Operation : Type
  Answer : Type
  Action : Type
  Error : Type

inductive Signal (W : World) where
  | timer
  | answer (value : W.Answer)

/-- The operation a coroutine waits for, and the time of the timer it has set
for itself, if there is one. -/
structure Wait (W : World) where
  operation : W.Operation
  guard : Option Nat

inductive Status (W : World) (α : Type) where
  | returned (value : α)
  | threw (error : W.Error)
  | waiting (wait : Wait W)

instance {W : World} [DecidableEq W.Operation] : DecidableEq (Wait W) :=
  fun wait other =>
    decidable_of_iff
      (wait.operation = other.operation ∧ wait.guard = other.guard)
      (by cases wait; cases other; simp)

instance {W : World} {α : Type} [DecidableEq W.Operation] [DecidableEq W.Error]
    [DecidableEq α] : DecidableEq (Status W α)
  | .returned value, .returned other => decidable_of_iff (value = other) (by simp)
  | .threw error, .threw other => decidable_of_iff (error = other) (by simp)
  | .waiting wait, .waiting other => decidable_of_iff (wait = other) (by simp)
  | .returned _, .threw _ | .returned _, .waiting _ | .threw _, .returned _
  | .threw _, .waiting _ | .waiting _, .returned _ | .waiting _, .threw _ =>
      .isFalse nofun

/-- The actions of a coroutine, what it has left of its script, its variables
and where it stands. -/
structure Run (W : World) (σ α : Type) where
  trace : List W.Action
  rest : List (Signal W)
  store : σ
  status : Status W α

namespace Run

variable {W : World} {σ α : Type}

def after (run : Run W σ α) (trace : List W.Action) : Run W σ α :=
  { run with trace := trace ++ run.trace }

@[simp] theorem after_trace (run : Run W σ α) (trace : List W.Action) :
    (run.after trace).trace = trace ++ run.trace := rfl

@[simp] theorem after_rest (run : Run W σ α) (trace : List W.Action) :
    (run.after trace).rest = run.rest := rfl

@[simp] theorem after_store (run : Run W σ α) (trace : List W.Action) :
    (run.after trace).store = run.store := rfl

@[simp] theorem after_status (run : Run W σ α) (trace : List W.Action) :
    (run.after trace).status = run.status := rfl

@[simp] theorem after_nil (run : Run W σ α) : run.after [] = run := rfl

/-- The coroutine has used up its script and waits for the next signal. -/
def Suspended (run : Run W σ α) (wait : Wait W) : Prop :=
  run.status = .waiting wait ∧ run.rest = []

/-- The coroutine has used up its script and is done. -/
def Finished (run : Run W σ α) : Prop :=
  run.rest = [] ∧ ∀ wait, run.status ≠ .waiting wait

/-- The coroutine is done. -/
def Ended (run : Run W σ α) : Prop :=
  ∀ wait, run.status ≠ .waiting wait

/-- The coroutine does not wait in front of a signal that it cannot take. -/
def UsedUp (run : Run W σ α) : Prop :=
  ∀ wait, run.status = .waiting wait → run.rest = []

theorem not_suspended_of_returned {run : Run W σ α} {value : α}
    (returned : run.status = .returned value) (wait : Wait W) :
    ¬ run.Suspended wait := by
  intro suspended
  cases returned.symm.trans suspended.1

theorem not_suspended_of_threw {run : Run W σ α} {error : W.Error}
    (threw : run.status = .threw error) (wait : Wait W) :
    ¬ run.Suspended wait := by
  intro suspended
  cases threw.symm.trans suspended.1

/-- The run with more signals behind its script that it does not look at. -/
def extend (run : Run W σ α) (later : List (Signal W)) : Run W σ α :=
  { run with rest := run.rest ++ later }

end Run

/-- A coroutine with variables of type `σ`.  It takes signals from the front of
its script, and only where it is suspended do later ones change its run. -/
structure Co (W : World) (σ α : Type) where
  run : σ → List (Signal W) → Run W σ α
  suffix : ∀ store script, (run store script).rest <:+ script
  settled : ∀ store script later,
    (∀ wait, ¬ (run store script).Suspended wait) →
      run store (script ++ later) = (run store script).extend later

namespace Co

variable {W : World} {σ τ α β γ : Type}

@[ext] theorem ext {body other : Co W σ α}
    (runs : ∀ store script, body.run store script = other.run store script) :
    body = other := by
  cases body with
  | mk run suffix settled =>
      cases other with
      | mk run' suffix' settled' =>
          have same : run = run' := funext₂ runs
          subst same
          rfl

def pure (value : α) : Co W σ α where
  run store script := ⟨[], script, store, .returned value⟩
  suffix _ script := List.suffix_refl script
  settled _ _ _ _ := rfl

def bind (body : Co W σ α) (next : α → Co W σ β) : Co W σ β where
  run store script :=
    let run := body.run store script
    match run.status with
    | .returned value => ((next value).run run.store run.rest).after run.trace
    | .threw error => { run with status := .threw error }
    | .waiting wait => { run with status := .waiting wait }
  suffix store script := by
    have first := body.suffix store script
    dsimp only
    split
    · next value _ => exact ((next value).suffix _ _).trans first
    · exact first
    · exact first
  settled store script later ended := by
    have first := body.settled store script later
    dsimp only at ended ⊢
    cases status : (body.run store script).status with
    | returned value =>
        rw [status] at ended
        have second := (next value).settled (body.run store script).store
          (body.run store script).rest later ended
        rw [first (Run.not_suspended_of_returned status)]
        simp only [Run.extend, status]
        rw [second]
        rfl
    | threw error =>
        rw [first (Run.not_suspended_of_threw status)]
        simp only [Run.extend, status]
    | waiting wait =>
        rw [status] at ended
        rw [first fun _ suspended => ended wait ⟨rfl, suspended.2⟩]
        simp only [Run.extend, status]

instance : Monad (Co W σ) where
  pure := pure
  bind := bind

def emit (action : W.Action) : Co W σ Unit where
  run store script := ⟨[action], script, store, .returned ()⟩
  suffix _ script := List.suffix_refl script
  settled _ _ _ _ := rfl

def load : Co W σ σ where
  run store script := ⟨[], script, store, .returned store⟩
  suffix _ script := List.suffix_refl script
  settled _ _ _ _ := rfl

def save (store : σ) : Co W σ Unit where
  run _ script := ⟨[], script, store, .returned ()⟩
  suffix _ script := List.suffix_refl script
  settled _ _ _ _ := rfl

def throw (error : W.Error) : Co W σ α where
  run store script := ⟨[], script, store, .threw error⟩
  suffix _ script := List.suffix_refl script
  settled _ _ _ _ := rfl

/-- What `accept` makes of the next signal, and the signals behind it. -/
def next? (accept : W.Answer → Option α) :
    List (Signal W) → Option (α × List (Signal W))
  | .answer answer :: rest => (accept answer).map fun value => (value, rest)
  | _ => none

theorem next?_eq_some {accept : W.Answer → Option α}
    {script rest : List (Signal W)} {value : α}
    (taken : next? accept script = some (value, rest)) :
    ∃ answer, script = .answer answer :: rest ∧ accept answer = some value := by
  unfold next? at taken
  split at taken
  · next answer rest' =>
      obtain ⟨value', accepted, same⟩ := Option.map_eq_some_iff.mp taken
      cases same
      exact ⟨answer, rfl, accepted⟩
  · cases taken

/-- Wait for an answer that `accept` takes.  Nothing else can come. -/
def await (operation : W.Operation) (accept : W.Answer → Option α) :
    Co W σ α where
  run store script :=
    match next? accept script with
    | some (value, rest) => ⟨[], rest, store, .returned value⟩
    | none => ⟨[], script, store, .waiting ⟨operation, none⟩⟩
  suffix store script := by
    split
    · next value rest taken =>
        obtain ⟨answer, rfl, _⟩ := next?_eq_some taken
        exact List.suffix_cons _ _
    · exact List.suffix_refl _
  settled store script later ended := by
    cases script with
    | nil => exact (ended _ ⟨rfl, rfl⟩).elim
    | cons signal rest =>
        cases signal with
        | timer => rfl
        | answer answer =>
            cases accepted : accept answer <;>
              simp [next?, accepted, Run.extend]

/-- A body with variables of its own, which it hands over when it returns. -/
def withStore (init : τ) (body : Co W τ α) : Co W σ (α × τ) where
  run store script :=
    let run := body.run init script
    ⟨run.trace, run.rest, store,
      match run.status with
      | .returned value => .returned (value, run.store)
      | .threw error => .threw error
      | .waiting wait => .waiting wait⟩
  suffix _ script := body.suffix init script
  settled store script later ended := by
    have inside := body.settled init script later
    dsimp only at ended ⊢
    rw [inside fun wait suspended => ended wait
      ⟨by simp only [suspended.1], suspended.2⟩]
    rfl

/-! A body raced against a timer.  The timer ends the body at whatever it waits
for, and its result is `none` then. -/

def Signal.isTimer : Signal W → Bool
  | .timer => true
  | .answer _ => false

def untilTimer (script : List (Signal W)) : List (Signal W) :=
  script.takeWhile fun signal => !Signal.isTimer signal

def fromTimer (script : List (Signal W)) : List (Signal W) :=
  script.dropWhile fun signal => !Signal.isTimer signal

theorem untilTimer_append_fromTimer (script : List (Signal W)) :
    untilTimer script ++ fromTimer script = script :=
  List.takeWhile_append_dropWhile

/-- The run of a race whose body has come this far before the timer. -/
def raceRun (milliseconds : Nat) (run : Run W σ α) (later : List (Signal W)) :
    Run W σ (Option α) :=
  match run.status with
  | .returned value => ⟨run.trace, run.rest ++ later, run.store,
      .returned (some value)⟩
  | .threw error => ⟨run.trace, run.rest ++ later, run.store, .threw error⟩
  | .waiting wait =>
      match run.rest, later with
      | [], .timer :: later => ⟨run.trace, later, run.store, .returned none⟩
      | rest, later => ⟨run.trace, rest ++ later, run.store,
          .waiting { wait with guard := some milliseconds }⟩

theorem untilTimer_append_of_open {script : List (Signal W)}
    (isOpen : fromTimer script = []) (later : List (Signal W)) :
    untilTimer (script ++ later) = script ++ untilTimer later ∧
      fromTimer (script ++ later) = fromTimer later := by
  have answers := List.dropWhile_eq_nil_iff.mp isOpen
  exact ⟨List.takeWhile_append_of_pos answers,
    List.dropWhile_append_of_pos answers⟩

theorem untilTimer_append_of_decided {script : List (Signal W)}
    (decided : fromTimer script ≠ []) (later : List (Signal W)) :
    untilTimer (script ++ later) = untilTimer script ∧
      fromTimer (script ++ later) = fromTimer script ++ later := by
  have shorter : (untilTimer script).length ≠ script.length := by
    have whole := congrArg List.length (untilTimer_append_fromTimer script)
    have some := List.length_pos_of_ne_nil decided
    rw [List.length_append] at whole
    omega
  constructor
  · exact List.takeWhile_append.trans (if_neg shorter)
  · exact List.dropWhile_append.trans
      (if_neg fun empty => decided (List.isEmpty_iff.mp empty))

theorem raceRun_append {milliseconds : Nat} {run : Run W σ α}
    {behind : List (Signal W)} (decided : behind ≠ [])
    (later : List (Signal W)) :
    raceRun milliseconds run (behind ++ later) =
      (raceRun milliseconds run behind).extend later := by
  cases behind with
  | nil => exact (decided rfl).elim
  | cons signal behind =>
      unfold raceRun
      cases run.status with
      | returned value => simp [Run.extend]
      | threw error => simp [Run.extend]
      | waiting wait =>
          cases signal <;> cases run.rest <;> simp [Run.extend]

theorem raceRun_extend {milliseconds : Nat} {run : Run W σ α}
    (settled : ∀ wait, ¬ run.Suspended wait) (front behind : List (Signal W)) :
    raceRun milliseconds (run.extend front) behind =
      (raceRun milliseconds run []).extend (front ++ behind) := by
  unfold raceRun
  cases status : run.status with
  | returned value => simp [Run.extend, status]
  | threw error => simp [Run.extend, status]
  | waiting wait =>
      cases rest : run.rest with
      | nil => exact (settled wait ⟨status, rest⟩).elim
      | cons signal rest => simp [Run.extend, status, rest]

theorem raceRun_rest {milliseconds : Nat} {run : Run W σ α}
    {later : List (Signal W)} :
    (raceRun milliseconds run later).rest <:+ run.rest ++ later := by
  unfold raceRun
  split
  · exact List.suffix_refl _
  · exact List.suffix_refl _
  · split
    · next done => exact done ▸ List.suffix_cons _ _
    · exact List.suffix_refl _

def race (milliseconds : Nat) (body : Co W σ α) : Co W σ (Option α) where
  run store script :=
    raceRun milliseconds (body.run store (untilTimer script)) (fromTimer script)
  suffix store script := by
    have kept := (body.suffix store (untilTimer script))
    have whole := untilTimer_append_fromTimer script
    refine raceRun_rest.trans ?_
    obtain ⟨taken, split⟩ := kept
    exact ⟨taken, by rw [← List.append_assoc, split, whole]⟩
  settled store script later ended := by
    by_cases isOpen : fromTimer script = []
    · have whole : untilTimer script = script := by
        simpa [isOpen] using untilTimer_append_fromTimer script
      have more := untilTimer_append_of_open isOpen later
      rw [isOpen, whole] at ended ⊢
      have notSuspended (wait : Wait W) :
          ¬ (body.run store script).Suspended wait := by
        intro suspended
        refine ended { wait with guard := some milliseconds } ?_
        simp [raceRun, Run.Suspended, suspended.1, suspended.2]
      rw [more.1, more.2, body.settled store script _ notSuspended,
        raceRun_extend notSuspended, untilTimer_append_fromTimer]
    · have more := untilTimer_append_of_decided isOpen later
      rw [more.1, more.2, raceRun_append isOpen]

/-! Loops. -/

/-- A turn that asks for another one has used up a signal. -/
def Progresses (body : Co W σ (Option α)) : Prop :=
  ∀ store script, (body.run store script).status = .returned none →
    (body.run store script).rest.length < script.length

def loopRun (body : Co W σ (Option α)) (progresses : Progresses body)
    (store : σ) (script : List (Signal W)) : Run W σ α :=
  let run := body.run store script
  match _ended : run.status with
  | .returned none =>
      (loopRun body progresses run.store run.rest).after run.trace
  | .returned (some value) => { run with status := .returned value }
  | .threw error => { run with status := .threw error }
  | .waiting wait => { run with status := .waiting wait }
termination_by script.length
decreasing_by exact progresses store script _ended

theorem loopRun_eq (body : Co W σ (Option α)) (progresses : Progresses body)
    (store : σ) (script : List (Signal W)) :
    loopRun body progresses store script =
      match (body.run store script).status with
      | .returned none =>
          (loopRun body progresses (body.run store script).store
            (body.run store script).rest).after (body.run store script).trace
      | .returned (some value) =>
          { body.run store script with status := .returned value }
      | .threw error => { body.run store script with status := .threw error }
      | .waiting wait =>
          { body.run store script with status := .waiting wait } := by
  rw [loopRun]
  split <;> simp_all

theorem loopRun_suffix (body : Co W σ (Option α))
    (progresses : Progresses body) (store : σ) (script : List (Signal W)) :
    (loopRun body progresses store script).rest <:+ script := by
  induction store, script using loopRun.induct body progresses with
  | case1 store script run ended induction =>
      rw [loopRun_eq, ended]
      exact induction.trans (body.suffix store script)
  | case2 store script run value ended =>
      rw [loopRun_eq, ended]
      exact body.suffix store script
  | case3 store script run error ended =>
      rw [loopRun_eq, ended]
      exact body.suffix store script
  | case4 store script run wait ended =>
      rw [loopRun_eq, ended]
      exact body.suffix store script

theorem loopRun_settled (body : Co W σ (Option α))
    (progresses : Progresses body) (store : σ)
    (script later : List (Signal W))
    (ended : ∀ wait, ¬ (loopRun body progresses store script).Suspended wait) :
    loopRun body progresses store (script ++ later) =
      (loopRun body progresses store script).extend later := by
  induction store, script using loopRun.induct body progresses with
  | case1 store script run status induction =>
      have first := body.settled store script later
        (Run.not_suspended_of_returned status)
      rw [loopRun_eq body progresses store script, status] at ended ⊢
      rw [loopRun_eq, first]
      have second := induction ended
      simp only [Run.extend] at second ⊢
      rw [show (body.run store script).status = .returned none from status]
      dsimp only
      rw [second]
      rfl
  | case2 store script run value status =>
      have first := body.settled store script later
        (Run.not_suspended_of_returned status)
      rw [loopRun_eq body progresses store script, status, loopRun_eq, first]
      simp only [Run.extend,
        show (body.run store script).status = .returned (some value) from status]
  | case3 store script run error status =>
      have first := body.settled store script later
        (Run.not_suspended_of_threw status)
      rw [loopRun_eq body progresses store script, status, loopRun_eq, first]
      simp only [Run.extend,
        show (body.run store script).status = .threw error from status]
  | case4 store script run wait status =>
      rw [loopRun_eq body progresses store script, status] at ended ⊢
      have first := body.settled store script later
        fun _ suspended => ended wait ⟨rfl, suspended.2⟩
      rw [loopRun_eq, first]
      simp only [Run.extend,
        show (body.run store script).status = .waiting wait from status]

/-- Take turns until one of them has a result. -/
def loop (body : Co W σ (Option α)) (progresses : Progresses body) :
    Co W σ α where
  run := loopRun body progresses
  suffix := loopRun_suffix body progresses
  settled := loopRun_settled body progresses

/-! Equations for runs. -/

@[simp] theorem pure_run (value : α) (store : σ) (script : List (Signal W)) :
    (Pure.pure value : Co W σ α).run store script =
      ⟨[], script, store, .returned value⟩ := rfl

@[simp] theorem emit_run (action : W.Action) (store : σ)
    (script : List (Signal W)) :
    (emit action : Co W σ Unit).run store script =
      ⟨[action], script, store, .returned ()⟩ := rfl

@[simp] theorem load_run (store : σ) (script : List (Signal W)) :
    (load : Co W σ σ).run store script = ⟨[], script, store, .returned store⟩ :=
  rfl

@[simp] theorem save_run (saved store : σ) (script : List (Signal W)) :
    (save saved : Co W σ Unit).run store script =
      ⟨[], script, saved, .returned ()⟩ := rfl

@[simp] theorem throw_run (error : W.Error) (store : σ)
    (script : List (Signal W)) :
    (throw error : Co W σ α).run store script =
      ⟨[], script, store, .threw error⟩ := rfl

theorem bind_run (body : Co W σ α) (next : α → Co W σ β) (store : σ)
    (script : List (Signal W)) :
    (body >>= next).run store script =
      match (body.run store script).status with
      | .returned value =>
          ((next value).run (body.run store script).store
            (body.run store script).rest).after (body.run store script).trace
      | .threw error => { body.run store script with status := .threw error }
      | .waiting wait =>
          { body.run store script with status := .waiting wait } := rfl

theorem await_run_taken {operation : W.Operation}
    {accept : W.Answer → Option α} {answer : W.Answer} {value : α}
    (accepted : accept answer = some value) (store : σ)
    (rest : List (Signal W)) :
    (await operation accept : Co W σ α).run store (.answer answer :: rest) =
      ⟨[], rest, store, .returned value⟩ := by
  simp [await, next?, accepted]

theorem bind_run_returned {body : Co W σ α} {store : σ}
    {script : List (Signal W)} {value : α}
    (returned : (body.run store script).status = .returned value)
    (next : α → Co W σ β) :
    (body >>= next).run store script =
      ((next value).run (body.run store script).store
        (body.run store script).rest).after (body.run store script).trace := by
  rw [bind_run, returned]

theorem bind_run_threw {body : Co W σ α} {store : σ}
    {script : List (Signal W)} {error : W.Error}
    (threw : (body.run store script).status = .threw error)
    (next : α → Co W σ β) :
    (body >>= next).run store script =
      { body.run store script with status := .threw error } := by
  rw [bind_run, threw]

theorem bind_run_waiting {body : Co W σ α} {store : σ}
    {script : List (Signal W)} {wait : Wait W}
    (waiting : (body.run store script).status = .waiting wait)
    (next : α → Co W σ β) :
    (body >>= next).run store script =
      { body.run store script with status := .waiting wait } := by
  rw [bind_run, waiting]

theorem bind_usedUp {body : Co W σ α} {next : α → Co W σ β} {store : σ}
    {script : List (Signal W)}
    (usedUp : ((body >>= next).run store script).UsedUp) :
    (body.run store script).UsedUp := by
  intro wait waits
  have whole := usedUp wait
  rw [bind_run_waiting waits] at whole
  exact whole rfl

theorem bind_ended {body : Co W σ α} {next : α → Co W σ β} {store : σ}
    {script : List (Signal W)} (ended : (body.run store script).Ended)
    (onward : ∀ value store script, ((next value).run store script).Ended) :
    ((body >>= next).run store script).Ended := by
  intro wait
  cases status : (body.run store script).status with
  | returned value =>
      rw [bind_run_returned status]
      exact onward value _ _ wait
  | threw error =>
      rw [bind_run_threw status]
      nofun
  | waiting wait' => exact absurd status (ended wait')

theorem bind_trace (body : Co W σ α) (next : α → Co W σ β) (store : σ)
    (script : List (Signal W)) :
    ∃ behind, ((body >>= next).run store script).trace =
      (body.run store script).trace ++ behind := by
  rw [bind_run]
  split
  · exact ⟨_, rfl⟩
  · exact ⟨[], (List.append_nil _).symm⟩
  · exact ⟨[], (List.append_nil _).symm⟩

instance : LawfulMonad (Co W σ) :=
  LawfulMonad.mk' (Co W σ)
    (by
      intro α body
      ext store script
      change (body >>= Pure.pure).run store script = _
      rw [bind_run]
      cases ended : (body.run store script).status with
      | returned value => simp [Run.after, ← ended]
      | threw error => simp [← ended]
      | waiting wait => simp [← ended])
    (by
      intro α β value next
      ext store script
      rfl)
    (by
      intro α β γ body first second
      ext store script
      cases ended : (body.run store script).status with
      | returned value =>
          rw [bind_run_returned ended]
          have head := bind_run_returned ended first
          rw [bind_run (body >>= first), head, bind_run (first value)]
          simp only [Run.after_status, Run.after_rest, Run.after_store,
            Run.after_trace]
          split <;> simp [Run.after]
      | threw error =>
          rw [bind_run_threw ended,
            bind_run_threw (by rw [bind_run_threw ended]), bind_run_threw ended]
      | waiting wait =>
          rw [bind_run_waiting ended,
            bind_run_waiting (by rw [bind_run_waiting ended]),
            bind_run_waiting ended])

/-- The first turn of a loop, and the loop again if that turn asks for it. -/
theorem loop_eq (body : Co W σ (Option α)) (progresses : Progresses body) :
    loop body progresses = body >>= fun
      | some value => Pure.pure value
      | none => loop body progresses := by
  ext store script
  change loopRun body progresses store script = _
  rw [loopRun_eq, bind_run]
  split
  · next ended => rw [ended]; rfl
  · next value ended => rw [ended]; simp [Run.after]
  · next error ended => rw [ended]
  · next wait ended => rw [ended]

theorem progresses_await (operation : W.Operation)
    (accept : W.Answer → Option α) (next : α → Co W σ (Option β)) :
    Progresses (await operation accept >>= next) := by
  intro store script ended
  rw [bind_run] at ended ⊢
  cases taken : next? accept script with
  | none => simp [await, taken] at ended
  | some pair =>
      obtain ⟨value, rest⟩ := pair
      obtain ⟨answer, rfl, accepted⟩ := next?_eq_some taken
      rw [await_run_taken accepted]
      have left := ((next value).suffix store rest).length_le
      simpa using Nat.lt_succ_of_le left

/-! A race takes the steps of its body. -/

section Race

variable {milliseconds : Nat} {store : σ}

theorem raceRun_after (run : Run W σ α) (trace : List W.Action)
    (later : List (Signal W)) :
    raceRun milliseconds (run.after trace) later =
      (raceRun milliseconds run later).after trace := by
  unfold raceRun
  simp only [Run.after_status, Run.after_rest]
  split
  · rfl
  · rfl
  · split <;> rfl

/-- A race is suspended where its body is, and the timer ends it there. -/
theorem race_suspended {body : Co W σ α} {script : List (Signal W)}
    {wait : Wait W}
    (suspended : ((race milliseconds body).run store script).Suspended wait) :
    wait.guard = some milliseconds ∧
      (race milliseconds body).run store (script ++ [.timer]) =
        ⟨((race milliseconds body).run store script).trace, [],
          ((race milliseconds body).run store script).store, .returned none⟩ := by
  obtain ⟨waits, done⟩ := suspended
  simp only [race, raceRun] at waits done ⊢
  cases status : (body.run store (untilTimer script)).status with
  | returned value => simp [status] at waits
  | threw error => simp [status] at waits
  | waiting wait' =>
      cases rest : (body.run store (untilTimer script)).rest with
      | cons signal rest => simp [status, rest] at done
      | nil =>
          cases ahead : fromTimer script with
          | cons signal later =>
              cases signal with
              | timer => simp [status, rest, ahead] at waits
              | answer answer => simp [status, rest, ahead] at done
          | nil =>
              have whole : untilTimer script = script := by
                simpa [ahead] using untilTimer_append_fromTimer script
              have more := untilTimer_append_of_open ahead [.timer]
              rw [more.1, more.2]
              have none : untilTimer [(Signal.timer : Signal W)] = [] := rfl
              have one : fromTimer [(Signal.timer : Signal W)] = [.timer] := rfl
              rw [whole] at status rest
              simp only [status, rest, ahead, whole] at waits
              cases waits
              simp [none, one, status, rest, whole]

/-- With the timer behind its script a race comes to an end. -/
theorem race_ended {body : Co W σ α} {script : List (Signal W)}
    (usedUp : ((race milliseconds body).run store script).UsedUp) :
    ((race milliseconds body).run store (script ++ [.timer])).Ended := by
  intro wait waits
  by_cases suspended :
      ∃ wait, ((race milliseconds body).run store script).Suspended wait
  · obtain ⟨_, suspended⟩ := suspended
    rw [(race_suspended suspended).2] at waits
    cases waits
  · have settled := (race milliseconds body).settled store script [.timer]
      (not_exists.mp suspended)
    rw [settled] at waits
    exact suspended ⟨wait, waits, usedUp wait waits⟩

theorem race_run_pure (value : α) (script : List (Signal W)) :
    (race milliseconds (Pure.pure value : Co W σ α)).run store script =
      ⟨[], script, store, .returned (some value)⟩ := by
  simp [race, raceRun, untilTimer_append_fromTimer]

theorem race_run_emit (action : W.Action) (next : Unit → Co W σ α)
    (script : List (Signal W)) :
    (race milliseconds (emit action >>= next)).run store script =
      ((race milliseconds (next ())).run store script).after [action] :=
  raceRun_after ((next ()).run store (untilTimer script)) [action]
    (fromTimer script)

/-- A race goes through a body that returns without waiting. -/
theorem race_run_immediate {body : Co W σ α} {store' : σ} {value : α}
    (immediate : ∀ script,
      body.run store script = ⟨[], script, store', .returned value⟩)
    (next : α → Co W σ β) (script : List (Signal W)) :
    (race milliseconds (body >>= next)).run store script =
      (race milliseconds (next value)).run store' script := by
  change raceRun milliseconds ((body >>= next).run store (untilTimer script))
    (fromTimer script) = _
  rw [bind_run, immediate]
  rfl

theorem race_run_await (operation : W.Operation)
    (accept : W.Answer → Option α) (next : α → Co W σ β)
    (script : List (Signal W)) :
    (race milliseconds (await operation accept >>= next)).run store script =
      match script with
      | [] => ⟨[], [], store, .waiting ⟨operation, some milliseconds⟩⟩
      | .timer :: rest => ⟨[], rest, store, .returned none⟩
      | .answer answer :: rest =>
          match accept answer with
          | some value => (race milliseconds (next value)).run store rest
          | none => ⟨[], .answer answer :: rest, store,
              .waiting ⟨operation, some milliseconds⟩⟩ := by
  cases script with
  | nil => rfl
  | cons signal rest =>
      cases signal with
      | timer => rfl
      | answer answer =>
          change raceRun milliseconds ((await operation accept >>= next).run
            store (.answer answer :: untilTimer rest)) (fromTimer rest) = _
          cases accepted : accept answer with
          | none =>
              simp [bind_run, await, next?, accepted, raceRun,
                untilTimer_append_fromTimer]
          | some value =>
              have taken : (await operation accept : Co W σ α).run store
                  (.answer answer :: untilTimer rest) = _ :=
                await_run_taken accepted store (untilTimer rest)
              rw [bind_run_returned (by rw [taken]), taken]
              simp only [accepted]
              rfl

end Race

end Co

end ServicePortScanner.Data
