import ServicePortScanner.Data.Steps

namespace ServicePortScanner.Net

open ServicePortScanner.Data

/-! The handlers of an `io_context`, and the threads that run them. -/

/-- What a handler does: the handlers it posts, and whether it then throws. -/
structure Handlers (Handler : Type) where
  posts : Handler → List Handler
  throws : Handler → Bool

/-- A thread of the pool: waiting in `run()` for a handler, inside one that has
some handlers left to post, or out of `run()`. -/
inductive Worker (Handler : Type) where
  | waiting
  | running (handler : Handler) (toPost : List Handler)
  | left
  deriving DecidableEq, Repr

namespace Worker

variable {Handler : Type}

def isRunning : Worker Handler → Bool
  | .running _ _ => true
  | _ => false

def hasLeft : Worker Handler → Bool
  | .left => true
  | _ => false

def isIn (worker : Worker Handler) : Bool :=
  !worker.hasLeft

end Worker

/-- Where the pool is between `start()` and the return of `stop()`. -/
inductive Phase where
  | stopped
  | running
  | stopping
  deriving DecidableEq, Repr

structure AsyncPool (Handler : Type) where
  threadCount : Nat
  phase : Phase := .stopped
  guarded : Bool := true
  queue : List Handler := []
  workers : List (Worker Handler) := []
  /-- All handlers posted so far; nothing reads it. -/
  posted : List Handler := []
  /-- All handlers that have been run so far; nothing reads it. -/
  ran : List Handler := []
  deriving DecidableEq, Repr

namespace AsyncPool

variable {Handler : Type}

def kDefaultThreads : Nat := 2

def resolveThreadCount (hardwareConcurrency requested : Nat) : Nat :=
  if requested ≠ 0 then requested
  else if hardwareConcurrency = 0 then kDefaultThreads
  else hardwareConcurrency

def construct (hardwareConcurrency requested : Nat) : AsyncPool Handler where
  threadCount := resolveThreadCount hardwareConcurrency requested

/-- `run()` returns when nothing counts as work. -/
def outstandingWork (pool : AsyncPool Handler) : Nat :=
  (if pool.guarded then 1 else 0) + pool.queue.length +
    pool.workers.countP Worker.isRunning

/-- `stop` is the call, `stopReturns` its return behind the joined threads. -/
inductive Action (Handler : Type) where
  | start
  | post (handler : Handler)
  | take (worker : Nat)
  | postNext (worker : Nat)
  | finish (worker : Nat)
  | leave (worker : Nat)
  | stop
  | stopReturns
  deriving DecidableEq, Repr

def start (pool : AsyncPool Handler) : Option (AsyncPool Handler) :=
  match pool.phase with
  | .stopped =>
      some { pool with
        phase := .running
        workers := List.replicate pool.threadCount .waiting }
  | .running => some pool
  | .stopping => none

def enqueue (pool : AsyncPool Handler) (handler : Handler) :
    AsyncPool Handler :=
  { pool with
    queue := pool.queue ++ [handler]
    posted := pool.posted ++ [handler] }

/-- From outside, handlers are posted between `start()` and `stop()`. -/
def post (pool : AsyncPool Handler) (handler : Handler) :
    Option (AsyncPool Handler) :=
  if pool.phase = .running then some (pool.enqueue handler) else none

def take (handlers : Handlers Handler) (pool : AsyncPool Handler)
    (worker : Nat) : Option (AsyncPool Handler) :=
  match pool.workers[worker]?, pool.queue with
  | some .waiting, handler :: rest =>
      some { pool with
        queue := rest
        workers := pool.workers.set worker
          (.running handler (handlers.posts handler)) }
  | _, _ => none

def postNext (pool : AsyncPool Handler) (worker : Nat) :
    Option (AsyncPool Handler) :=
  match pool.workers[worker]? with
  | some (.running handler (next :: later)) =>
      some { pool.enqueue next with
        workers := pool.workers.set worker (.running handler later) }
  | _ => none

/-- A handler that throws takes its thread out of `run()`, behind which the
thread only logs. -/
def finish (handlers : Handlers Handler) (pool : AsyncPool Handler)
    (worker : Nat) : Option (AsyncPool Handler) :=
  match pool.workers[worker]? with
  | some (.running handler []) =>
      some { pool with
        ran := pool.ran ++ [handler]
        workers := pool.workers.set worker
          (if handlers.throws handler then .left else .waiting) }
  | _ => none

def leave (pool : AsyncPool Handler) (worker : Nat) :
    Option (AsyncPool Handler) :=
  match pool.workers[worker]? with
  | some .waiting =>
      if pool.outstandingWork = 0 then
        some { pool with workers := pool.workers.set worker .left }
      else none
  | _ => none

def stop (pool : AsyncPool Handler) : Option (AsyncPool Handler) :=
  match pool.phase with
  | .stopped => some pool
  | .running => some { pool with guarded := false, phase := .stopping }
  | .stopping => none

/-- The threads are joined, and the context and the guard are made ready for the
next start; the queue stays as it is. -/
def stopReturns (pool : AsyncPool Handler) : Option (AsyncPool Handler) :=
  if pool.phase = .stopping ∧ pool.workers.all Worker.hasLeft then
    some { pool with workers := [], guarded := true, phase := .stopped }
  else none

def step (handlers : Handlers Handler) (pool : AsyncPool Handler) :
    Action Handler → Option (AsyncPool Handler)
  | .start => pool.start
  | .post handler => pool.post handler
  | .take worker => pool.take handlers worker
  | .postNext worker => pool.postNext worker
  | .finish worker => pool.finish handlers worker
  | .leave worker => pool.leave worker
  | .stop => pool.stop
  | .stopReturns => pool.stopReturns

/-- Once `stop()` has returned, each handler posted has been run exactly once. -/
def Drained (pool : AsyncPool Handler) : Prop :=
  pool.phase = .stopped → pool.ran.Perm pool.posted

/-- The threads that are still in `run()`. -/
def inRun (pool : AsyncPool Handler) : Nat :=
  pool.workers.countP Worker.isIn

/-- Handlers are posted from outside only while a thread is in `run()`, and a
handler that throws takes the last one out only if no handler is queued. -/
def KeepsWorker (handlers : Handlers Handler) (pool : AsyncPool Handler) :
    Action Handler → Prop
  | .post _ => 0 < pool.inRun
  | .finish worker =>
      ∀ handler, pool.workers[worker]? = some (.running handler []) →
        handlers.throws handler = true → pool.queue = [] ∨ 1 < pool.inRun
  | _ => True

/-! What each step can do. -/

section

variable {handlers : Handlers Handler} {pool next : AsyncPool Handler}

theorem start_cases (started : pool.start = some next) :
    (pool.phase = .stopped ∧ next = { pool with
        phase := .running
        workers := List.replicate pool.threadCount .waiting }) ∨
      next = pool := by
  unfold start at started
  split at started
  · next stopped =>
      cases started
      exact .inl ⟨stopped, rfl⟩
  · cases started
    exact .inr rfl
  · cases started

theorem post_cases {handler : Handler}
    (posted : pool.post handler = some next) :
    pool.phase = .running ∧ next = pool.enqueue handler := by
  unfold post at posted
  split at posted
  · next isRunning =>
      cases posted
      exact ⟨isRunning, rfl⟩
  · cases posted

theorem take_cases {worker : Nat}
    (taken : pool.take handlers worker = some next) :
    ∃ handler rest, pool.workers[worker]? = some .waiting ∧
      pool.queue = handler :: rest ∧
      next = { pool with
        queue := rest
        workers := pool.workers.set worker
          (.running handler (handlers.posts handler)) } := by
  unfold take at taken
  split at taken
  · next handler rest isWaiting queued =>
      cases taken
      exact ⟨handler, rest, isWaiting, queued, rfl⟩
  · cases taken

theorem postNext_cases {worker : Nat}
    (posted : pool.postNext worker = some next) :
    ∃ handler head later,
      pool.workers[worker]? = some (.running handler (head :: later)) ∧
      next = { pool.enqueue head with
        workers := pool.workers.set worker (.running handler later) } := by
  unfold postNext at posted
  split at posted
  · next handler head later isRunning =>
      cases posted
      exact ⟨handler, head, later, isRunning, rfl⟩
  · cases posted

theorem finish_cases {worker : Nat}
    (finished : pool.finish handlers worker = some next) :
    ∃ handler, pool.workers[worker]? = some (.running handler []) ∧
      next = { pool with
        ran := pool.ran ++ [handler]
        workers := pool.workers.set worker
          (if handlers.throws handler then .left else .waiting) } := by
  unfold finish at finished
  split at finished
  · next handler isRunning =>
      cases finished
      exact ⟨handler, isRunning, rfl⟩
  · cases finished

theorem leave_cases {worker : Nat} (left : pool.leave worker = some next) :
    pool.workers[worker]? = some .waiting ∧ pool.outstandingWork = 0 ∧
      next = { pool with workers := pool.workers.set worker .left } := by
  unfold leave at left
  split at left
  · next isWaiting =>
      split at left
      · next noWork =>
          cases left
          exact ⟨isWaiting, noWork, rfl⟩
      · cases left
  · cases left

theorem stop_cases (stopped : pool.stop = some next) :
    next = pool ∨ (pool.phase = .running ∧
      next = { pool with guarded := false, phase := .stopping }) := by
  unfold stop at stopped
  split at stopped
  · cases stopped
    exact .inl rfl
  · next isRunning =>
      cases stopped
      exact .inr ⟨isRunning, rfl⟩
  · cases stopped

theorem stopReturns_cases (returned : pool.stopReturns = some next) :
    pool.phase = .stopping ∧ pool.workers.all Worker.hasLeft ∧
      next = { pool with workers := [], guarded := true, phase := .stopped } := by
  unfold stopReturns at returned
  split at returned
  · next joined =>
      cases returned
      exact ⟨joined.1, joined.2, rfl⟩
  · cases returned

end

/-! Where the handlers are. -/

end AsyncPool

namespace Worker

variable {Handler : Type}

/-- The handler the thread is inside has the property. -/
def runs (p : Handler → Bool) : Worker Handler → Bool
  | .running handler _ => p handler
  | _ => false

theorem runs_of_hasLeft {p : Handler → Bool} {worker : Worker Handler}
    (left : worker.hasLeft = true) : worker.runs p = false := by
  cases worker with
  | left => rfl
  | waiting => cases left
  | running handler toPost => cases left

end Worker

namespace AsyncPool

variable {Handler : Type} {handlers : Handlers Handler}
  {pool next : AsyncPool Handler}

/-- Each handler that has been posted has been run, is being run or is
queued. -/
def Accounted (pool : AsyncPool Handler) : Prop :=
  ∀ p : Handler → Bool, pool.posted.countP p =
    pool.ran.countP p + pool.workers.countP (Worker.runs p) +
      pool.queue.countP p

theorem accounted_construct (hardwareConcurrency requested : Nat) :
    Accounted
      (construct hardwareConcurrency requested : AsyncPool Handler) :=
  fun _ => rfl

theorem countP_replicate_waiting (count : Nat) (p : Handler → Bool) :
    (List.replicate count Worker.waiting).countP (Worker.runs p) = 0 := by
  rw [List.countP_eq_zero]
  intro worker member
  rw [List.eq_of_mem_replicate member]
  exact Bool.false_ne_true

/-- Without a thread inside one, the handlers are in the queue. -/
theorem Accounted.of_hasLeft (accounted : pool.Accounted)
    (left : pool.workers.all Worker.hasLeft = true) (p : Handler → Bool) :
    pool.posted.countP p = pool.ran.countP p + pool.queue.countP p := by
  have none : pool.workers.countP (Worker.runs p) = 0 := by
    rw [List.countP_eq_zero]
    intro worker member
    rw [Worker.runs_of_hasLeft (List.all_eq_true.mp left worker member)]
    exact Bool.false_ne_true
  rw [accounted p, none, Nat.add_zero]

theorem Accounted.step (accounted : pool.Accounted)
    (idle : pool.phase = .stopped → pool.workers = [])
    {action : Action Handler}
    (stepped : pool.step handlers action = some next) : next.Accounted := by
  intro p
  have before := accounted p
  cases action with
  | start =>
      rcases start_cases stepped with ⟨stopped, rfl⟩ | rfl
      · rw [idle stopped] at before
        dsimp only
        rw [countP_replicate_waiting]
        exact before
      · exact before
  | post handler =>
      obtain ⟨_, rfl⟩ := post_cases stepped
      simp only [enqueue, List.countP_append]
      omega
  | take worker =>
      obtain ⟨handler, rest, isWaiting, queued, rfl⟩ := take_cases stepped
      have moved := Steps.countP_set isWaiting
        (.running handler (handlers.posts handler)) (Worker.runs p)
      rw [queued, Steps.countP_cons_toNat] at before
      simp only [Worker.runs, Bool.toNat_false] at moved
      dsimp only
      omega
  | postNext worker =>
      obtain ⟨handler, head, later, isRunning, rfl⟩ := postNext_cases stepped
      have moved := Steps.countP_set isRunning
        (.running handler later) (Worker.runs p)
      simp only [Worker.runs] at moved
      simp only [enqueue, List.countP_append]
      omega
  | finish worker =>
      obtain ⟨handler, isRunning, rfl⟩ := finish_cases stepped
      have moved := Steps.countP_set isRunning
        (if handlers.throws handler then .left else .waiting) (Worker.runs p)
      have outside : (if handlers.throws handler then Worker.left
          else Worker.waiting).runs p = false := by
        split
        · rfl
        · rfl
      rw [outside] at moved
      simp only [Worker.runs, Bool.toNat_false] at moved
      simp only [List.countP_append, Steps.countP_cons_toNat, List.countP_nil]
      omega
  | leave worker =>
      obtain ⟨isWaiting, _, rfl⟩ := leave_cases stepped
      have moved := Steps.countP_set isWaiting .left (Worker.runs p)
      simp only [Worker.runs, Bool.toNat_false] at moved
      dsimp only
      omega
  | stop =>
      rcases stop_cases stepped with rfl | ⟨_, rfl⟩
      · exact before
      · exact before
  | stopReturns =>
      obtain ⟨_, left, rfl⟩ := stopReturns_cases stepped
      exact accounted.of_hasLeft left p

/-! Threads left in `run()` serve the queue. -/

theorem inRun_pos {index : Nat} {worker : Worker Handler}
    (found : pool.workers[index]? = some worker) (isIn : worker.isIn = true) :
    0 < pool.inRun :=
  List.countP_pos_iff.mpr ⟨worker, List.mem_of_getElem? found, isIn⟩

theorem inRun_eq_zero (left : pool.workers.all Worker.hasLeft = true) :
    pool.inRun = 0 := by
  unfold inRun
  rw [List.countP_eq_zero]
  intro worker member
  simp [Worker.isIn, List.all_eq_true.mp left worker member]

theorem inRun_stays {index : Nat} {worker other : Worker Handler}
    (found : pool.workers[index]? = some worker) (isIn : worker.isIn = true)
    (stays : other.isIn = true) :
    0 < (pool.workers.set index other).countP Worker.isIn := by
  have moved := Steps.countP_set found other Worker.isIn
  have before := inRun_pos found isIn
  unfold inRun at before
  rw [isIn, stays] at moved
  omega

theorem inRun_leaves {index : Nat} {worker other : Worker Handler}
    (found : pool.workers[index]? = some worker) (others : 1 < pool.inRun) :
    0 < (pool.workers.set index other).countP Worker.isIn := by
  have moved := Steps.countP_set found other Worker.isIn
  have atMost : worker.isIn.toNat ≤ 1 := Bool.toNat_le _
  unfold inRun at others
  omega

/-- The queue is empty, or a thread is there to serve it. -/
structure Served (pool : AsyncPool Handler) : Prop where
  stopped : pool.phase = .stopped → pool.queue = [] ∧ pool.workers = []
  served : pool.phase ≠ .stopped → pool.queue = [] ∨ 0 < pool.inRun

theorem served_construct (hardwareConcurrency requested : Nat) :
    Served
      (construct hardwareConcurrency requested : AsyncPool Handler) :=
  ⟨fun _ => ⟨rfl, rfl⟩, fun other => absurd rfl other⟩

/-- Where a thread is found, the pool has not stopped. -/
theorem Served.ne_stopped (served : pool.Served) {index : Nat}
    {worker : Worker Handler}
    (found : pool.workers[index]? = some worker) : pool.phase ≠ .stopped := by
  intro stopped
  rw [(served.stopped stopped).2] at found
  cases found

theorem Served.step (served : pool.Served) {action : Action Handler}
    (keeps : pool.KeepsWorker handlers action)
    (stepped : pool.step handlers action = some next) : next.Served := by
  cases action with
  | start =>
      rcases start_cases stepped with ⟨stopped, rfl⟩ | rfl
      · obtain ⟨empty, _⟩ := served.stopped stopped
        constructor
        · intro stopped
          cases stopped
        · exact fun _ => .inl empty
      · exact served
  | post handler =>
      obtain ⟨isRunning, rfl⟩ := post_cases stepped
      constructor
      · intro stopped
        rw [enqueue, isRunning] at stopped
        cases stopped
      · exact fun _ => .inr keeps
  | take worker =>
      obtain ⟨handler, rest, isWaiting, _, rfl⟩ := take_cases stepped
      have onward := served.ne_stopped isWaiting
      exact ⟨fun stopped => absurd stopped onward,
        fun _ => .inr (inRun_stays isWaiting rfl rfl)⟩
  | postNext worker =>
      obtain ⟨handler, head, later, isRunning, rfl⟩ := postNext_cases stepped
      have onward := served.ne_stopped isRunning
      exact ⟨fun stopped => absurd stopped onward,
        fun _ => .inr (inRun_stays isRunning rfl rfl)⟩
  | finish worker =>
      obtain ⟨handler, isRunning, rfl⟩ := finish_cases stepped
      have onward := served.ne_stopped isRunning
      refine ⟨fun stopped => absurd stopped onward, fun _ => ?_⟩
      by_cases throws : handlers.throws handler = true
      · cases keeps handler isRunning throws with
        | inl empty => exact .inl empty
        | inr others => exact .inr (inRun_leaves isRunning others)
      · rw [if_neg throws]
        exact .inr (inRun_stays isRunning rfl rfl)
  | leave worker =>
      obtain ⟨isWaiting, noWork, rfl⟩ := leave_cases stepped
      have onward := served.ne_stopped isWaiting
      refine ⟨fun stopped => absurd stopped onward, fun _ => .inl ?_⟩
      unfold outstandingWork at noWork
      have noneQueued : pool.queue.length = 0 := by omega
      exact List.length_eq_zero_iff.mp noneQueued
  | stop =>
      rcases stop_cases stepped with rfl | ⟨isRunning, rfl⟩
      · exact served
      · have onward : pool.phase ≠ .stopped := by simp [isRunning]
        constructor
        · intro stopped
          cases stopped
        · exact fun _ => served.served onward
  | stopReturns =>
      obtain ⟨stopping, left, rfl⟩ := stopReturns_cases stepped
      have onward : pool.phase ≠ .stopped := by simp [stopping]
      refine ⟨fun _ => ⟨?_, rfl⟩, fun other => absurd rfl other⟩
      cases served.served onward with
      | inl empty => exact empty
      | inr someone =>
          rw [inRun_eq_zero left] at someone
          exact absurd someone (Nat.lt_irrefl 0)

/-- A stopped pool with an empty queue has run each handler once. -/
theorem drained_of_served (accounted : pool.Accounted)
    (served : pool.Served) : pool.Drained := by
  classical
  intro stopped
  obtain ⟨empty, gone⟩ := served.stopped stopped
  rw [List.perm_iff_count]
  intro handler
  have counts := accounted (· == handler)
  rw [empty, gone] at counts
  exact counts.symm

/-! A queue that no thread is left for. -/

structure Stranded (pool : AsyncPool Handler) : Prop where
  phase : pool.phase ≠ .stopped
  queue : pool.queue ≠ []
  inRun : pool.inRun = 0

theorem Stranded.absurd_found (stranded : pool.Stranded) {index : Nat}
    {worker : Worker Handler} (found : pool.workers[index]? = some worker)
    (isIn : worker.isIn = true) : False := by
  have someone := inRun_pos found isIn
  rw [stranded.inRun] at someone
  exact Nat.lt_irrefl 0 someone

/-- It waits for the return of `stop()`, which leaves it behind. -/
theorem Stranded.step (stranded : pool.Stranded) {action : Action Handler}
    (stepped : pool.step handlers action = some next) :
    next.Stranded ∨ (next.phase = .stopped ∧ next.queue ≠ [] ∧
      next.workers = []) := by
  cases action with
  | start =>
      rcases start_cases stepped with ⟨stopped, _⟩ | rfl
      · exact absurd stopped stranded.phase
      · exact .inl stranded
  | post handler =>
      obtain ⟨_, rfl⟩ := post_cases stepped
      exact .inl ⟨stranded.phase, by simp [enqueue], stranded.inRun⟩
  | take worker =>
      obtain ⟨_, _, isWaiting, _⟩ := take_cases stepped
      exact (stranded.absurd_found isWaiting rfl).elim
  | postNext worker =>
      obtain ⟨_, _, _, isRunning, _⟩ := postNext_cases stepped
      exact (stranded.absurd_found isRunning rfl).elim
  | finish worker =>
      obtain ⟨_, isRunning, _⟩ := finish_cases stepped
      exact (stranded.absurd_found isRunning rfl).elim
  | leave worker =>
      obtain ⟨isWaiting, _⟩ := leave_cases stepped
      exact (stranded.absurd_found isWaiting rfl).elim
  | stop =>
      rcases stop_cases stepped with rfl | ⟨_, rfl⟩
      · exact .inl stranded
      · refine .inl ⟨?_, stranded.queue, stranded.inRun⟩
        intro stopped
        cases stopped
  | stopReturns =>
      obtain ⟨_, _, rfl⟩ := stopReturns_cases stepped
      exact .inr ⟨rfl, stranded.queue, rfl⟩

/-- A step that does not keep a thread strands the queue. -/
theorem Served.stranded (served : pool.Served) {action : Action Handler}
    (stepped : pool.step handlers action = some next)
    (notKept : ¬ pool.KeepsWorker handlers action) : next.Stranded := by
  cases action with
  | post handler =>
      obtain ⟨isRunning, rfl⟩ := post_cases stepped
      have onward : pool.phase ≠ .stopped := by simp [isRunning]
      exact ⟨onward, by simp [enqueue], Nat.eq_zero_of_not_pos notKept⟩
  | finish worker =>
      obtain ⟨handler, isRunning, rfl⟩ := finish_cases stepped
      have onward := served.ne_stopped isRunning
      unfold KeepsWorker at notKept
      push Not at notKept
      obtain ⟨handler', isRunning', throws, queued, last⟩ := notKept
      rw [isRunning] at isRunning'
      cases isRunning'
      refine ⟨onward, queued, ?_⟩
      have moved := Steps.countP_set isRunning .left Worker.isIn
      unfold inRun at last ⊢
      rw [if_pos throws]
      have was : (Worker.running handler []).isIn.toNat = 1 := rfl
      have is' : (Worker.left : Worker Handler).isIn.toNat = 0 := rfl
      dsimp only
      omega
  | _ => exact absurd trivial notKept

/-- What the return of `stop()` leaves in the queue has not been run. -/
theorem not_drained (accounted : pool.Accounted)
    (stopped : pool.phase = .stopped) (queued : pool.queue ≠ [])
    (gone : pool.workers = []) : ¬ pool.Drained := by
  intro drained
  have counts := accounted fun _ => true
  have same := (drained stopped).length_eq
  rw [gone] at counts
  simp only [List.countP_true, List.countP_nil] at counts
  have noneQueued : pool.queue.length = 0 := by omega
  exact queued (List.length_eq_zero_iff.mp noneQueued)

theorem Stranded.not_always (stranded : pool.Stranded)
    (accounted : pool.Accounted) {actions : List (Action Handler)}
    {final : AsyncPool Handler}
    (ran : Steps.run (AsyncPool.step handlers) pool actions = some final)
    (stopped : final.phase = .stopped) :
    ¬ Steps.Always (AsyncPool.step handlers) Drained pool actions := by
  induction actions generalizing pool with
  | nil =>
      cases ran
      exact absurd stopped stranded.phase
  | cons action rest induction =>
      obtain ⟨next, stepped, ranRest⟩ := Steps.run_cons.mp ran
      have onward := accounted.step
        (fun isStopped => absurd isStopped stranded.phase) stepped
      intro always
      have later := (Steps.always_cons.mp always).2 next stepped
      rcases stranded.step stepped with still | ⟨isStopped, queued, gone⟩
      · exact induction still onward ranRest later
      · have drained : next.Drained := later [] next List.nil_prefix rfl
        exact not_drained onward isStopped queued gone drained

/-- Where each handler is, and that a thread is left for the queue. -/
structure Serving (pool : AsyncPool Handler) : Prop where
  accounted : pool.Accounted
  served : pool.Served

theorem Serving.step (serving : pool.Serving) {action : Action Handler}
    (keeps : pool.KeepsWorker handlers action)
    (stepped : pool.step handlers action = some next) : next.Serving where
  accounted := serving.accounted.step
    (fun stopped => (serving.served.stopped stopped).2) stepped
  served := serving.served.step keeps stepped

theorem Serving.along (serving : pool.Serving)
    {actions : List (Action Handler)} {final : AsyncPool Handler}
    (ran : Steps.run (AsyncPool.step handlers) pool actions = some final)
    (stopped : final.phase = .stopped)
    (always : Steps.Always (AsyncPool.step handlers) Drained pool actions) :
    Steps.Along (AsyncPool.step handlers) (KeepsWorker handlers) pool actions := by
  induction actions generalizing pool with
  | nil => exact Steps.along_nil
  | cons action rest induction =>
      obtain ⟨next, stepped, ranRest⟩ := Steps.run_cons.mp ran
      have later := (Steps.always_cons.mp always).2 next stepped
      have keeps : pool.KeepsWorker handlers action := by
        by_contra notKept
        have stranded := serving.served.stranded stepped notKept
        have accounted := serving.accounted.step
          (fun isStopped => (serving.served.stopped isStopped).2) stepped
        exact stranded.not_always accounted ranRest stopped later
      exact .cons keeps stepped
        (induction (serving.step keeps stepped) ranRest later)

/-- A run of the pool that keeps a thread for the queue has run each handler once
whenever `stop()` has returned, and a run behind whose last `stop()` this holds
throughout has kept one. -/
theorem gracefulStop_iff (handlers : Handlers Handler)
    (hardwareConcurrency requested : Nat) (actions : List (Action Handler)) :
    let fresh := construct hardwareConcurrency requested
    (Steps.Along (AsyncPool.step handlers) (KeepsWorker handlers) fresh actions →
      Steps.Always (AsyncPool.step handlers) Drained fresh actions) ∧
    ∀ final, Steps.run (AsyncPool.step handlers) fresh actions = some final →
      final.phase = .stopped →
      Steps.Always (AsyncPool.step handlers) Drained fresh actions →
      Steps.Along (AsyncPool.step handlers) (KeepsWorker handlers) fresh
        actions := by
  intro fresh
  have serving : fresh.Serving :=
    ⟨accounted_construct _ _, served_construct _ _⟩
  constructor
  · intro kept
    have drained {pool : AsyncPool Handler} (reached : pool.Serving) :
        pool.Drained :=
      drained_of_served reached.accounted reached.served
    exact Steps.always_of_along
      (fun reached keeps stepped => Serving.step reached keeps stepped)
      drained serving kept
  · intro final ran stopped always
    exact serving.along ran stopped always

/-- One thread, and a handler behind one that throws. -/
def throwsFirst : List (Action Bool) :=
  [.start, .post true, .post false, .take 0, .finish 0, .stop, .stopReturns]

def throwsIfTrue : Handlers Bool where
  posts := fun _ => []
  throws := id

theorem throwsFirst_notDrained :
    ¬ ∀ (handlers : Handlers Bool) (hardwareConcurrency requested : Nat)
      (actions : List (Action Bool)),
      Steps.Always (AsyncPool.step handlers) Drained
        (construct hardwareConcurrency requested) actions := by
  intro claimed
  have left : Steps.run (AsyncPool.step throwsIfTrue) (construct 0 1)
      throwsFirst = some { (construct 0 1 : AsyncPool Bool) with
        queue := [false]
        posted := [true, false]
        ran := [true] } := by
    decide
  have drained := claimed throwsIfTrue 0 1 throwsFirst throwsFirst _
    (List.prefix_refl _) left rfl
  exact absurd drained.length_eq (by decide)

end AsyncPool

end ServicePortScanner.Net
