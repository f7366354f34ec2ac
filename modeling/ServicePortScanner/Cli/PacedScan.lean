import ServicePortScanner.Cli.MainRuns
import ServicePortScanner.Data.Steps
import ServicePortScanner.Scan.LimiterReport

namespace ServicePortScanner.Cli

open ServicePortScanner.Data ServicePortScanner.Core ServicePortScanner.Net
open ServicePortScanner.Fp ServicePortScanner.Probes ServicePortScanner.Scan

/-! The tasks of a scan on a pool of one thread, and the limiter that they
share: what it grants lets them start, and what they report sets its rate. -/

/-- A task is queued in `acquire`, or has got its token at a time and has met the
signals since. -/
inductive Stage where
  | queued
  | scanning (since : ℚ) (met : Script)

structure ScanTask where
  port : UInt16
  stage : Stage := .queued

/-- With the calls that the limiter has had; an iteration has the index of its
task. -/
structure PacedScan where
  limiter : RateLimiter
  tasks : List ScanTask
  calls : List (RateLimiter.Op Nat) := []

inductive PaceAction where
  /-- a queued task, at first or when its timer has expired -/
  | iterate (index : Nat) (now : ℚ)
  | signal (index : Nat) (signal : Signal network)

def Stage.script : Stage → Script
  | .queued => []
  | .scanning _ met => .answer .granted :: met

namespace ScanTask

def startedIn (task : ScanTask) (since till : ℚ) : Bool :=
  match task.stage with
  | .queued => false
  | .scanning start _ => decide (since ≤ start) && decide (start ≤ till)

def request (args : ScanArgs) (task : ScanTask) : ScanRequest :=
  ⟨args.target, task.port, args.timeout⟩

end ScanTask

section

variable {F : Type} [Floating F]

/-- The system whose tasks have met this by now. -/
def System.met (sys : System F) (script : Script) : System F :=
  { sys with
    meets := fun request => { sys.meets request with script := script } }

namespace ScanTask

variable (sys : System F) (args : ScanArgs) (dbs : Databases F)
variable (task : ScanTask)

def spawned : Spawned F :=
  (sys.met task.stage.script).spawn args dbs task.port

def reports : List Response :=
  (task.spawned sys args dbs).run.trace.filterMap reported?

/-- What a task has to report by now. -/
def report? : Option Response :=
  match task.stage with
  | .queued => none
  | .scanning _ met =>
      (scanned? (task.request args) met).map fun state =>
        ⟨(sys.meets (task.request args)).rtt, state == .filtered⟩

end ScanTask

namespace PacedScan

variable (sys : System F) (args : ScanArgs) (dbs : Databases F)

def start (now : ℚ) : PacedScan where
  limiter := args.limiter now
  tasks := args.ports.map fun port => { port := port }

/-- A task goes on to where it waits next, and reports on its way. -/
def goOn (scan : PacedScan) (index : Nat) (task next : ScanTask) : PacedScan :=
  let responses :=
    (next.reports sys args dbs).drop (task.reports sys args dbs).length
  { limiter := scan.limiter.respond responses
    tasks := scan.tasks.set index next
    calls := scan.calls ++ responses.map .ofResponse }

def called (scan : PacedScan) (index : Nat) (now : ℚ) : PacedScan :=
  { scan with
    limiter := (scan.limiter.acquireIteration now).2
    calls := scan.calls ++ [.iterate index now] }

def step (scan : PacedScan) : PaceAction → Option PacedScan
  | .iterate index now =>
      match scan.tasks[index]? with
      | some ⟨port, .queued⟩ =>
          if now < scan.limiter.lastRefill then none
          else
            match (scan.limiter.acquireIteration now).1 with
            | .granted => some ((scan.called index now).goOn sys args dbs index
                ⟨port, .queued⟩ ⟨port, .scanning now []⟩)
            | .sleep _ => some (scan.called index now)
      | _ => none
  | .signal index signal =>
      match scan.tasks[index]? with
      | some ⟨port, .scanning since met⟩ =>
          some (scan.goOn sys args dbs index ⟨port, .scanning since met⟩
            ⟨port, .scanning since (met ++ [signal])⟩)
      | _ => none

end PacedScan

/-! What the tasks report. -/

section

variable {sys : System F} {args : ScanArgs} {dbs : Databases F}

theorem ScanTask.reports_eq (task : ScanTask) :
    task.reports sys args dbs = (task.report? sys args).toList := by
  obtain ⟨port, stage⟩ := task
  cases stage with
  | queued => rfl
  | scanning since met => exact scanOne_reported met

theorem ScanTask.spawned_queued (task : ScanTask) (queued : task.stage = .queued) :
    (task.spawned sys args dbs).run.trace = [] := by
  obtain ⟨port, stage⟩ := task
  cases queued
  rfl

theorem ScanTask.spawned_eq (task : ScanTask)
    (met : task.stage.script = (sys.meets (task.request args)).script) :
    task.spawned sys args dbs = sys.spawn args dbs task.port := by
  unfold ScanTask.spawned System.spawn System.met
  rw [met]
  rfl

/-- A task that has reported does not report anything else. -/
def KeepsReport (sys : System F) (args : ScanArgs) (task next : ScanTask) :
    Prop :=
  ∀ response, task.report? sys args = some response →
    next.report? sys args = some response

omit [Floating F] in
theorem keepsReport_start (port : UInt16) (now : ℚ) :
    KeepsReport sys args ⟨port, .queued⟩ ⟨port, .scanning now []⟩ := by
  nofun

omit [Floating F] in
theorem keepsReport_signal (port : UInt16) (since : ℚ) (met : Script)
    (signal : Signal network) :
    KeepsReport sys args ⟨port, .scanning since met⟩
      ⟨port, .scanning since (met ++ [signal])⟩ := by
  intro response reported
  obtain ⟨state, found, rfl⟩ := Option.map_eq_some_iff.mp reported
  exact Option.map_eq_some_iff.mpr ⟨state, scanned?_append found _, rfl⟩

end

namespace PacedScan

variable {sys : System F} {args : ScanArgs} {dbs : Databases F} {now : ℚ}

/-- The rate that the bucket never fills faster than. -/
def ceiling (args : Args) : ℚ :=
  if args.adaptive then args.maxRate else args.rate

def rateAfter (args : Args) (responses : List Response) : ℚ :=
  if args.adaptive then
    Batch.rate args.rate args.maxRate responses responses.length
  else args.rate

theorem rateAfter_bounds {args : Args} (one_le : 1 ≤ args.rate)
    (le : args.rate ≤ args.maxRate) (responses : List Response) :
    1 ≤ rateAfter args responses ∧ rateAfter args responses ≤ ceiling args := by
  unfold rateAfter ceiling
  split
  · exact Batch.rate_bounds one_le le _
  · exact ⟨one_le, le_rfl⟩

theorem respond_rate (now : ℚ) {args : Args} (one_le : 1 ≤ args.rate)
    (le : args.rate ≤ args.maxRate) (responses : List Response) :
    ((args.limiter now).respond responses).rate = rateAfter args responses := by
  unfold rateAfter
  cases mode : args.adaptive with
  | true =>
      have followed := (Args.limiter_fresh mode now).follows responses
      rw [followed.rate, Args.limiter_rate one_le, Args.limiter_maxRate le]
      rfl
  | false =>
      rw [RateLimiter.respond_fixed (Args.limiter_fixed mode now),
        Args.limiter_rate one_le]
      rfl

/-- The limiter is where its calls lead, and has had the reports of the tasks. -/
structure Controlled (sys : System F) (args : ScanArgs) (now : ℚ)
    (scan : PacedScan) : Prop where
  limiter : scan.limiter = (args.limiter now).run scan.calls
  ofScan : ∀ call ∈ scan.calls, call.OfScan
  admissible : (args.limiter now).bucket.Admissible
    ((args.limiter now).attempts scan.calls)
  responses : (scan.calls.filterMap RateLimiter.Op.response?).Perm
    (scan.tasks.filterMap (ScanTask.report? sys args))
  ports : scan.tasks.map ScanTask.port = args.ports

/-- The tasks that have started are those that have got a token. -/
structure Paced (sys : System F) (args : ScanArgs) (now : ℚ) (scan : PacedScan) :
    Prop extends Controlled sys args now scan where
  starts : ∀ since till,
    (args.limiter now).grantsWithin scan.calls since till =
      scan.tasks.countP (·.startedIn since till)

omit [Floating F] in
theorem Controlled.rate {scan : PacedScan}
    (controlled : Controlled sys args now scan) (one_le : 1 ≤ args.rate)
    (le : args.rate ≤ args.maxRate) :
    scan.limiter.rate =
      rateAfter args.toArgs (scan.calls.filterMap RateLimiter.Op.response?) := by
  rw [controlled.limiter, RateLimiter.run_control controlled.ofScan]
  exact respond_rate now one_le le _

omit [Floating F] in
/-- An iteration is one more attempt on the bucket. -/
theorem Controlled.visits_called {scan : PacedScan}
    (controlled : Controlled sys args now scan) (index : Nat) (time : ℚ) :
    (args.limiter now).visits (scan.called index time).calls =
      (args.limiter now).visits scan.calls ++
        [⟨index, ⟨time, scan.limiter.rate⟩,
          RateLimiter.Iteration.isGranted
            (scan.limiter.acquireIteration time).1⟩] := by
  rw [PacedScan.called, RateLimiter.visits_append, ← controlled.limiter]
  rfl

omit [Floating F] in
theorem Controlled.called {scan : PacedScan}
    (controlled : Controlled sys args now scan) (one_le : 1 ≤ args.rate)
    (le : args.rate ≤ args.maxRate) (index : Nat) {time : ℚ}
    (later : scan.limiter.lastRefill ≤ time) :
    Controlled sys args now (scan.called index time) where
  limiter := by
    rw [PacedScan.called, RateLimiter.run_append, ← controlled.limiter]
    rfl
  ofScan := by
    rw [PacedScan.called, List.forall_mem_append]
    exact ⟨controlled.ofScan, by simp [RateLimiter.Op.OfScan]⟩
  admissible := by
    have last := congrArg Bucket.last
      (RateLimiter.run_bucket (args.limiter now) scan.calls)
    rw [← controlled.limiter] at last
    rw [RateLimiter.attempts, controlled.visits_called, List.map_append]
    apply controlled.admissible.concat
    · exact last.symm.trans_le later
    · have bounds := rateAfter_bounds one_le le
        (scan.calls.filterMap RateLimiter.Op.response?)
      rw [← controlled.rate one_le le] at bounds
      exact zero_le_one.trans bounds.1
  responses := by
    have silent : (scan.called index time).calls.filterMap
        RateLimiter.Op.response? =
          scan.calls.filterMap RateLimiter.Op.response? := by
      simp [PacedScan.called, RateLimiter.Op.response?]
    rw [silent]
    exact controlled.responses
  ports := controlled.ports

/-- A task that goes on reports what it has not reported before. -/
theorem responses_goOn (dbs : Databases F) {task next : ScanTask}
    (keeps : KeepsReport sys args task next) :
    (task.report? sys args).toList ++ ((next.reports sys args dbs).drop
      (task.reports sys args dbs).length) = (next.report? sys args).toList := by
  rw [ScanTask.reports_eq, ScanTask.reports_eq]
  cases reported : task.report? sys args with
  | none => rfl
  | some response =>
      rw [keeps response reported]
      rfl

theorem Controlled.goOn {scan : PacedScan}
    (controlled : Controlled sys args now scan) {index : Nat}
    {task next : ScanTask} (found : scan.tasks[index]? = some task)
    (samePort : next.port = task.port) (keeps : KeepsReport sys args task next) :
    Controlled sys args now (scan.goOn sys args dbs index task next) where
  limiter := by
    rw [PacedScan.goOn, RateLimiter.run_append, ← controlled.limiter,
      RateLimiter.run_responses]
  ofScan := by
    rw [PacedScan.goOn, List.forall_mem_append]
    refine ⟨controlled.ofScan, ?_⟩
    rw [List.forall_mem_map]
    exact fun _ _ => trivial
  admissible := by
    rw [PacedScan.goOn, RateLimiter.attempts, RateLimiter.visits_append,
      RateLimiter.visits_responses, List.append_nil]
    exact controlled.admissible
  responses := by
    have taken := Steps.filterMap_set found next (ScanTask.report? sys args)
    rw [← responses_goOn dbs keeps] at taken
    rw [PacedScan.goOn, List.filterMap_append, RateLimiter.filterMap_responses]
    apply (controlled.responses.append_right _).trans
    apply (List.perm_append_right_iff (task.report? sys args).toList).mp
    refine List.Perm.trans ?_ taken.symm
    rw [List.append_assoc]
    exact List.perm_append_comm.append_left _
  ports := by
    obtain ⟨bound, rfl⟩ := List.getElem?_eq_some_iff.mp found
    have inside : index < (scan.tasks.map ScanTask.port).length := by
      simpa using bound
    have mapped : scan.tasks[index].port =
        (scan.tasks.map ScanTask.port)[index] := by simp
    rw [PacedScan.goOn, List.map_set, samePort, mapped, List.set_getElem_self,
      controlled.ports]

theorem grantsWithin_goOn (scan : PacedScan) (index : Nat) (task next : ScanTask)
    (since till : ℚ) :
    (args.limiter now).grantsWithin
        (scan.goOn sys args dbs index task next).calls since till =
      (args.limiter now).grantsWithin scan.calls since till := by
  unfold RateLimiter.grantsWithin
  rw [PacedScan.goOn, RateLimiter.visits_append, RateLimiter.visits_responses,
    List.append_nil]

omit [Floating F] in
theorem Controlled.grantsWithin_called {scan : PacedScan}
    (controlled : Controlled sys args now scan) (index : Nat) (time : ℚ)
    (since till : ℚ) :
    (args.limiter now).grantsWithin (scan.called index time).calls since till =
      (args.limiter now).grantsWithin scan.calls since till +
        (RateLimiter.Iteration.isGranted (scan.limiter.acquireIteration time).1 &&
          (decide (since ≤ time) && decide (time ≤ till))).toNat := by
  unfold RateLimiter.grantsWithin
  rw [controlled.visits_called, List.countP_append, Steps.countP_cons_toNat,
    List.countP_nil, Nat.zero_add]
  rfl

theorem Paced.step {scan next : PacedScan} {action : PaceAction}
    (paced : Paced sys args now scan) (one_le : 1 ≤ args.rate)
    (le : args.rate ≤ args.maxRate)
    (stepped : scan.step sys args dbs action = some next) :
    Paced sys args now next := by
  cases action with
  | iterate index time =>
      unfold PacedScan.step at stepped
      dsimp only at stepped
      split at stepped
      · next port found =>
          obtain ⟨running, stepped⟩ := Option.ite_none_left_eq_some.mp stepped
          have controlled := paced.called one_le le index (not_lt.mp running)
          have granted := paced.grantsWithin_called index time
          split at stepped
          · next grants =>
              cases stepped
              refine ⟨controlled.goOn found rfl (keepsReport_start port time), ?_⟩
              intro since till
              have moved := Steps.countP_set found ⟨port, .scanning time []⟩
                (·.startedIn since till)
              rw [grantsWithin_goOn, granted, grants, paced.starts]
              exact moved.symm
          · next wait sleeps =>
              cases stepped
              refine ⟨controlled, ?_⟩
              intro since till
              rw [granted, sleeps, paced.starts]
              rfl
      · cases stepped
  | signal index signal =>
      unfold PacedScan.step at stepped
      dsimp only at stepped
      split at stepped
      · next port since met found =>
          cases stepped
          refine ⟨paced.goOn found rfl (keepsReport_signal port since met signal), ?_⟩
          intro from' till
          have moved := Steps.countP_set found
            ⟨port, .scanning since (met ++ [signal])⟩ (·.startedIn from' till)
          rw [grantsWithin_goOn, paced.starts]
          exact (Nat.add_right_cancel moved).symm
      · cases stepped

omit [Floating F] in
theorem paced_start (sys : System F) (args : ScanArgs) (now : ℚ) :
    Paced sys args now (start args now) where
  limiter := rfl
  ofScan := nofun
  admissible := ⟨List.pairwise_singleton _ _, nofun⟩
  responses := by
    have silent : (start args now).tasks.filterMap
        (ScanTask.report? sys args) = [] := by
      rw [List.filterMap_eq_nil_iff]
      intro task member
      obtain ⟨port, _, rfl⟩ := List.mem_map.mp member
      rfl
    rw [silent]
    exact List.Perm.refl _
  ports := by
    rw [start, List.map_map]
    exact List.map_id _
  starts since till := by
    have queued : (start args now).tasks.countP (·.startedIn since till) = 0 := by
      rw [List.countP_eq_zero]
      intro task member
      obtain ⟨port, _, rfl⟩ := List.mem_map.mp member
      nofun
    rw [queued]
    rfl

omit [Floating F] in
/-- The starts in a window are paid for at no more than the ceiling. -/
theorem Paced.starts_le {scan : PacedScan} (paced : Paced sys args now scan)
    (one_le : 1 ≤ args.rate) (le : args.rate ≤ args.maxRate) {since till : ℚ}
    (ordered : since ≤ till) :
    (scan.tasks.countP (·.startedIn since till) : ℚ) ≤
      args.rate + ceiling args.toArgs * (till - since) := by
  have valid : (args.limiter now).bucket.Valid :=
    RateLimiter.construct_valid _ _ _ _ _
  have bounds (responses : List Response) :=
    rateAfter_bounds one_le le responses
  have nonneg : 0 ≤ ceiling args.toArgs :=
    zero_le_one.trans ((bounds []).1.trans (bounds []).2)
  have largest : ∀ next ∈ (args.limiter now).attempts scan.calls,
      since ≤ next.now → next.now ≤ till → next.rate ≤ ceiling args.toArgs := by
    intro next member _ _
    obtain ⟨before, isPrefix, rate⟩ := RateLimiter.rate_of_mem_attempts member
    have ofScan : ∀ call ∈ before, call.OfScan :=
      fun call inside => paced.ofScan call (isPrefix.subset inside)
    have made := respond_rate now one_le le
      (before.filterMap RateLimiter.Op.response?)
    rw [rate, RateLimiter.run_control ofScan]
    exact made.trans_le (bounds _).2
  have capacity : (args.limiter now).bucket.capacity = args.rate :=
    max_eq_right one_le
  rw [← paced.starts, RateLimiter.grantsWithin_eq, ← capacity]
  exact Bucket.grants_le_window valid paced.admissible nonneg largest ordered

/-- Where the tasks have met what the system lets them meet, they are those of the
program. -/
theorem Controlled.tasks_eq {scan : PacedScan}
    (controlled : Controlled sys args now scan)
    (met : ∀ task ∈ scan.tasks,
      task.stage.script = (sys.meets (task.request args)).script) :
    scan.tasks.map (ScanTask.spawned sys args dbs) = sys.tasks args dbs := by
  rw [System.tasks, ← controlled.ports, List.map_map]
  apply List.map_congr_left
  exact fun task member => task.spawned_eq (met task member)

/-- On every command line, in whatever order the tasks go on and whatever is
answered to them: no task starts without its token, and in every window of time
at most the burst and what the ceiling of the rate makes of the window start.  The
limiter has had each report of the tasks once, and its rate is what the batch
makes of them. -/
theorem run_paced (sys : System F) (options : Options) (dbs : Databases F)
    (now : ℚ) {actions : List PaceAction} {scan : PacedScan}
    (ran : Steps.run (step sys options.args dbs) (start options.args now)
      actions = some scan) :
    let args := options.args
    let responses := scan.calls.filterMap RateLimiter.Op.response?
    ((∀ task ∈ scan.tasks,
        task.stage.script = (sys.meets (task.request args)).script) →
      scan.tasks.map (ScanTask.spawned sys args dbs) = sys.tasks args dbs) ∧
    (∀ task ∈ scan.tasks, task.stage = .queued →
      (task.spawned sys args dbs).run.trace = []) ∧
    (∀ since till, since ≤ till →
      (scan.tasks.countP (·.startedIn since till) : ℚ) ≤
        args.rate + ceiling args.toArgs * (till - since)) ∧
    responses.Perm (scan.tasks.filterMap (ScanTask.report? sys args)) ∧
    scan.limiter.rate = rateAfter args.toArgs responses ∧
    1 ≤ scan.limiter.rate ∧ scan.limiter.rate ≤ ceiling args.toArgs := by
  intro args responses
  obtain ⟨one_le, le⟩ : 1 ≤ args.rate ∧ args.rate ≤ args.maxRate :=
    Args.parseRates_valid (Option.some_get options.parseRates_isSome).symm
  have paced : Paced sys args now scan :=
    Steps.run_invariant (fun paced stepped => paced.step one_le le stepped)
      (paced_start sys args now) ran
  have rate := paced.rate one_le le
  refine ⟨paced.tasks_eq, fun task _ => task.spawned_queued,
    fun since till => paced.starts_le one_le le, paced.responses, rate, ?_⟩
  rw [rate]
  exact rateAfter_bounds one_le le _

end PacedScan

end

/-- Two tasks get a token each, and the scan of one of them times out. -/
def labPacing : List PaceAction :=
  [.iterate 1 0, .iterate 0 (1 / 1000),
    .signal 1 (.answer (.resolved [⟨bytes "10.0.0.5", 23⟩])), .signal 1 .timer]

theorem run_paced_lab :
    ∃ scan, Steps.run (PacedScan.step labSystem labOptions.args
        ⟨none, [.tls], ⟨[]⟩, {}⟩) (PacedScan.start labOptions.args 0)
          labPacing = some scan ∧
      scan.calls.filterMap RateLimiter.Op.response? = [⟨1, true⟩] ∧
      (scan.calls.filterMap RateLimiter.Op.response?).Perm
        (scan.tasks.filterMap (ScanTask.report? labSystem labOptions.args)) := by
  have responded : ((Steps.run (PacedScan.step labSystem labOptions.args
      ⟨none, [.tls], ⟨[]⟩, {}⟩) (PacedScan.start labOptions.args 0)
        labPacing).any fun scan =>
          scan.calls.filterMap RateLimiter.Op.response? == [⟨1, true⟩]) = true := by
    decide +kernel
  obtain ⟨scan, ran, responses⟩ := (Option.any_eq_true _ _).mp responded
  exact ⟨scan, ran, eq_of_beq responses,
    (PacedScan.run_paced labSystem labOptions _ 0 ran).2.2.2.1⟩

end ServicePortScanner.Cli
