import ServicePortScanner.Core.ExactFloating
import ServicePortScanner.Gui.ScanEvents

namespace ServicePortScanner.Gui.ScanController

open ServicePortScanner.Data ServicePortScanner.Core ServicePortScanner.Fp

/-! The protocol between the threads, over every run from the initial state. -/

section

variable {F : Type} [Floating F]

omit [Floating F] in
/-- The request of an accepted `startScan` whose thread is yet to be
constructed. -/
def UiPoint.pending : UiPoint → List Request
  | .idle => []
  | .storeCancel request | .join request | .spawn request => [request]

namespace State

omit [Floating F] in
/-- Every scan so far, the latest last. -/
def scans (state : State F) : List (Worker F) :=
  state.joined ++ state.worker.toList

omit [Floating F] in
/-- What has come out of the event queue. -/
def delivered (state : State F) : List (Event F) :=
  state.emitted.filterMap fun emission =>
    match emission.connection with
    | .queued => some emission.event
    | .direct => none

structure Traffic (databases : Databases F) (state : State F) : Prop where
  fifo : state.delivered ++ state.queue = state.scans.flatMap (·.posted)
  requests : state.accepted =
    state.scans.map (·.request) ++ state.ui.pending
  exited : ∀ worker ∈ state.joined, worker.point.hasExited = true
  stages : ∀ worker ∈ state.scans, worker.Stage databases
  fitting : ∀ worker ∈ state.scans, worker.Fitting

variable {databases : Databases F}

theorem traffic_initial : (initial : State F).Traffic databases where
  fifo := rfl
  requests := rfl
  exited := nofun
  stages := nofun
  fitting := nofun

/-- The current thread may change, and post to the end of the queue. -/
theorem Traffic.setWorker {state next : State F}
    (traffic : state.Traffic databases) {worker worker' : Worker F}
    {events : List (Event F)} (present : state.worker = some worker)
    (changed : next.worker = some worker') (ui : next.ui = state.ui)
    (accepted : next.accepted = state.accepted)
    (joined : next.joined = state.joined)
    (emitted : next.emitted = state.emitted)
    (queue : next.queue = state.queue ++ events)
    (request : worker'.request = worker.request)
    (posted : worker'.posted = worker.posted ++ events)
    (stage : worker.Stage databases → worker'.Stage databases)
    (fitting : worker.Fitting → worker'.Fitting) : next.Traffic databases := by
  have before : state.scans = state.joined ++ [worker] := by
    rw [scans, present]
    rfl
  have after : next.scans = state.joined ++ [worker'] := by
    rw [scans, changed, joined]
    rfl
  have each {property : Worker F → Prop}
      (all : ∀ worker ∈ state.scans, property worker)
      (keeps : property worker → property worker') :
      ∀ worker ∈ next.scans, property worker := by
    intro other member
    rw [after] at member
    rw [before] at all
    rcases List.mem_append.mp member with old | new
    · exact all other (List.mem_append_left _ old)
    · cases List.mem_singleton.mp new
      exact keeps (all worker (List.mem_append_right _ (by simp)))
  refine ⟨?_, ?_, ?_, each traffic.stages stage, each traffic.fitting fitting⟩
  · have fifo := traffic.fifo
    rw [before] at fifo
    rw [delivered, emitted, queue, after, ← List.append_assoc]
    rw [delivered] at fifo
    simp [fifo, posted]
  · rw [accepted, ui, after, traffic.requests, before]
    simp [request]
  · rw [joined]
    exact traffic.exited

/-- The scans may stay as they are, and the UI thread go on. -/
theorem Traffic.sameScans {state next : State F}
    (traffic : state.Traffic databases) (scans : next.scans = state.scans)
    (joined : ∀ worker ∈ next.joined, worker.point.hasExited = true)
    (fifo : next.delivered ++ next.queue = state.delivered ++ state.queue)
    (requests : next.accepted =
      state.scans.map (·.request) ++ next.ui.pending) :
    next.Traffic databases where
  fifo := by rw [fifo, scans, traffic.fifo]
  requests := by rw [requests, scans]
  exited := joined
  stages := by rw [scans]; exact traffic.stages
  fitting := by rw [scans]; exact traffic.fitting

/-- The thread of an accepted request may be constructed. -/
theorem Traffic.addWorker {state next : State F}
    (traffic : state.Traffic databases) {request : Request}
    (absent : state.worker = none)
    (changed : next.worker = some { request := request })
    (here : state.ui.pending = [request]) (ui : next.ui.pending = [])
    (accepted : next.accepted = state.accepted)
    (joined : next.joined = state.joined)
    (emitted : next.emitted = state.emitted)
    (queue : next.queue = state.queue) : next.Traffic databases := by
  have before : state.scans = state.joined := by
    rw [scans, absent]
    exact List.append_nil _
  have after : next.scans = state.joined ++ [{ request := request }] := by
    rw [scans, changed, joined]
    rfl
  have each {property : Worker F → Prop}
      (all : ∀ worker ∈ state.scans, property worker)
      (starts : property { request := request }) :
      ∀ worker ∈ next.scans, property worker := by
    rw [after, List.forall_mem_append, List.forall_mem_singleton, ← before]
    exact ⟨all, starts⟩
  refine ⟨?_, ?_, ?_, each traffic.stages ⟨rfl, rfl, rfl⟩,
    each traffic.fitting ?_⟩
  · have fifo := traffic.fifo
    rw [before, delivered] at fifo
    rw [delivered, emitted, queue, after, fifo]
    simp
  · rw [accepted, ui, after, traffic.requests, before, here]
    simp
  · rw [joined]
    exact traffic.exited
  · intro fut member
    cases member

theorem Traffic.step {state next : State F} {action : Action F}
    (traffic : state.Traffic databases) (control : state.Control)
    (stepped : state.step databases action = some next) :
    next.Traffic databases := by
  have requests := traffic.requests
  have cases := step_cases stepped
  cases action with
  | startScan request =>
      obtain ⟨idle, ⟨_, rfl⟩ | ⟨_, rfl⟩⟩ := cases
      · refine traffic.sameScans rfl traffic.exited ?_ requests
        simp [delivered, emit, rejection]
      · rw [idle] at requests
        refine traffic.sameScans rfl traffic.exited rfl ?_
        simp [accept, requests, UiPoint.pending]
  | cancelScan =>
      obtain ⟨_, rfl⟩ := cases
      cases present : state.worker with
      | none =>
          refine traffic.sameScans ?_ traffic.exited rfl requests
          simp [scans, present]
      | some worker =>
          exact traffic.setWorker present rfl rfl rfl rfl rfl
            (List.append_nil _).symm rfl (List.append_nil _).symm
            Worker.Stage.noteCancel id
  | ui =>
      rcases cases with ⟨request, here, rfl⟩ | ⟨request, here, absent, rfl⟩ |
        ⟨request, worker, here, present, exited, rfl⟩ | ⟨request, here, rfl⟩
      · rw [here] at requests
        exact traffic.sameScans rfl traffic.exited rfl requests
      · rw [here] at requests
        exact traffic.sameScans rfl traffic.exited rfl requests
      · rw [here] at requests
        refine traffic.sameScans ?_ ?_ rfl requests
        · simp [scans, present]
        · rw [List.forall_mem_append, List.forall_mem_singleton]
          exact ⟨traffic.exited, exited⟩
      · have absent := (control.spawning request here).1
        have pending : state.ui.pending = [request] := by
          rw [here]
          rfl
        exact traffic.addWorker absent rfl pending rfl rfl rfl rfl rfl
  | take =>
      obtain ⟨_, event, rest, queued, rfl⟩ := cases
      refine traffic.sameScans rfl traffic.exited ?_ requests
      simp [delivered, emit, queued]
  | handled =>
      obtain ⟨_, entry, rest, _, rfl⟩ := cases
      exact traffic.sameScans rfl traffic.exited rfl requests
  | worker =>
      obtain ⟨worker, worker', event, present, moved, rfl⟩ := cases
      have follows := Worker.step_follows moved
      refine traffic.setWorker present rfl rfl rfl rfl rfl rfl follows.request
        follows.posted ?_ ?_
      · intro stage
        apply stage.step _ moved
        intro scanning cancelling
        apply control.noted worker _ present scanning cancelling
        by_contra busy
        have stored := control.starting worker busy present
        cases here : worker.point <;>
          simp_all [Point.beforeStore, Point.scanning]
      · intro fitting fut member outcome returned
        rcases follows.futs fut member with old | pending
        · exact fitting fut old outcome returned
        · rw [pending] at returned
          cases returned
  | fail what =>
      obtain ⟨worker, present, mayFail, rfl⟩ := cases
      refine traffic.setWorker present rfl rfl rfl rfl rfl
        (List.append_nil _).symm rfl (List.append_nil _).symm
        (fun stage => stage.fail mayFail what) ?_
      intro _ fut member
      cases member
  | complete index outcome =>
      obtain ⟨worker, fut, present, atIndex, pending, accepts, rfl⟩ := cases
      refine traffic.setWorker present rfl rfl rfl rfl rfl
        (List.append_nil _).symm rfl (List.append_nil _).symm ?_ ?_
      · intro stage
        exact stage.completes (Worker.completes_set atIndex pending outcome)
          rfl rfl
      · intro fitting other member result returned
        rcases List.mem_or_eq_of_mem_set member with old | rfl
        · exact fitting other old result returned
        · cases returned
          exact accepts

end State

/-! Each scan is worked off in a bounded number of steps of its thread. -/

omit [Floating F] in
def Action.isWorker : Action F → Bool
  | .worker => true
  | _ => false

namespace Request

def budget (request : Request) : Nat :=
  6 * request.ports.length + 7

end Request

namespace Worker

/-- A bound on the steps the thread has still to make. -/
def workload (worker : Worker F) : Nat :=
  let total := worker.futs.length
  match worker.point with
  | .startPool => 6 * worker.request.ports.length + 7
  | .checkSpawn rest => 4 * total + 6 * rest.length + 6
  | .spawn _ rest => 4 * total + 6 * rest.length + 11
  | .checkCollect done => 4 * (total - done) + 5
  | .get done => 4 * (total - done) + 4
  | .postResult done _ => 4 * (total - done) + 3
  | .postProgress done => 4 * (total - done) + 2
  | .stopPool | .emitError _ => 4
  | .postFinished => 3
  | .clearRunning => 2
  | .leaving => 1
  | .exited => 0

theorem workload_step {worker worker' : Worker F} {cancel : Bool}
    {event : Option (Event F)} (stage : worker.Stage databases)
    (stepped : worker.step databases cancel = some (worker', event)) :
    worker'.workload + 1 ≤ worker.workload := by
  unfold Stage at stage
  cases here : worker.point with
  | startPool =>
      simp only [Worker.step, here] at stepped stage
      cases stepped
      simp [workload, moveTo, here, stage.2.2]
  | checkSpawn rest =>
      cases rest with
      | nil =>
          simp only [Worker.step, here] at stepped
          cases stepped
          simp [workload, moveTo, here]
      | cons port rest =>
          simp only [Worker.step, here] at stepped
          cases stepped
          cases cancel with
          | false =>
              simp [workload, moveTo, here]
              omega
          | true => simp [workload, moveTo, here]
  | spawn port rest =>
      simp only [Worker.step, here] at stepped
      cases stepped
      simp [workload, here]
      omega
  | checkCollect done =>
      simp only [Worker.step, here] at stepped
      cases stepped
      split_ifs <;> simp [workload, moveTo, here]
  | get done =>
      obtain ⟨fut, _, _, same⟩ := step_get here stepped
      cases same
      split <;> simp [workload, moveTo, here]
  | postResult done r =>
      simp only [Worker.step, here] at stepped
      cases stepped
      simp [workload, post, here]
  | postProgress done =>
      simp only [Worker.step, here] at stepped stage
      cases stepped
      have within := stage.1.le
      simp only [workload, post, here]
      omega
  | stopPool =>
      simp only [Worker.step, here] at stepped
      obtain ⟨_, same⟩ := Option.ite_none_right_eq_some.mp stepped
      cases same
      simp [workload, moveTo, here]
  | exited =>
      simp only [Worker.step, here] at stepped
      cases stepped
  | _ =>
      simp only [Worker.step, here] at stepped
      cases stepped
      simp [workload, moveTo, post, here]

omit [Floating F] in
theorem workload_fail {worker : Worker F}
    (mayFail : worker.point.mayFail = true) (what : Bytes) :
    workload { worker with
      point := .emitError what
      futs := []
      failed := some what } ≤ worker.workload := by
  cases here : worker.point with
  | startPool | spawn port rest =>
      simp [workload, here]
  | _ =>
      rw [here] at mayFail
      cases mayFail

/-- A thread waits only for tasks. -/
theorem step_enabled {worker : Worker F} (stage : worker.Stage databases)
    (left : worker.point.hasExited = false)
    (ready : ∀ fut ∈ worker.futs, fut.Done) (cancel : Bool) :
    ∃ result, worker.step databases cancel = some result := by
  unfold Stage at stage
  cases here : worker.point with
  | checkSpawn rest =>
      cases rest with
      | nil => exact ⟨_, by simp only [Worker.step, here]; rfl⟩
      | cons port rest => exact ⟨_, by simp only [Worker.step, here]; rfl⟩
  | get done =>
      simp only [here] at stage
      have atDone := List.getElem?_eq_getElem stage.2.2
      have isDone := ready _ (List.getElem_mem stage.2.2)
      generalize worker.futs[done] = fut at atDone isDone
      obtain ⟨port, outcome⟩ := fut
      cases outcome with
      | none => cases isDone
      | some outcome =>
          cases outcome with
          | returned r => exact ⟨_, by simp only [Worker.step, here, atDone]; rfl⟩
          | exception => exact ⟨_, by simp only [Worker.step, here, atDone]; rfl⟩
  | stopPool =>
      refine ⟨(worker.moveTo .postFinished, none), ?_⟩
      simp only [Worker.step, here]
      apply if_pos
      exact List.all_eq_true.mpr ready
  | exited =>
      rw [here] at left
      cases left
  | _ => exact ⟨_, by simp only [Worker.step, here]; rfl⟩

end Worker

namespace State

omit [Floating F] in
/-- The steps that the accepted scans have still to make. -/
def stock (state : State F) : Nat :=
  (state.worker.toList.map Worker.workload).sum +
    (state.ui.pending.map Request.budget).sum

omit [Floating F] in
def budget (state : State F) : Nat :=
  (state.accepted.map Request.budget).sum

theorem step_paid {state next : State F} {action : Action F}
    (traffic : state.Traffic databases)
    (stepped : state.step databases action = some next) :
    (if Action.isWorker action then 1 else 0) + next.stock + state.budget ≤
      state.stock + next.budget := by
  have cases := step_cases stepped
  cases action with
  | startScan request =>
      obtain ⟨idle, ⟨_, rfl⟩ | ⟨_, rfl⟩⟩ := cases
      · simp [Action.isWorker, stock, budget, emit]
      · simp [Action.isWorker, stock, budget, accept, idle, UiPoint.pending]
        omega
  | cancelScan =>
      obtain ⟨_, rfl⟩ := cases
      cases present : state.worker with
      | none => simp [Action.isWorker, stock, budget, present]
      | some worker =>
          simp [Action.isWorker, stock, budget, present, Worker.noteCancel,
            Worker.workload]
  | ui =>
      rcases cases with ⟨request, here, rfl⟩ | ⟨request, here, absent, rfl⟩ |
        ⟨request, worker, here, present, exited, rfl⟩ | ⟨request, here, rfl⟩
      · simp [Action.isWorker, stock, budget, here, UiPoint.pending]
      · simp [Action.isWorker, stock, budget, here, UiPoint.pending]
      · simp [Action.isWorker, stock, budget, here, UiPoint.pending]
      · simp [Action.isWorker, stock, budget, here, UiPoint.pending,
          Worker.workload, Request.budget]
  | take =>
      obtain ⟨_, event, rest, _, rfl⟩ := cases
      simp [Action.isWorker, stock, budget, emit]
  | handled =>
      obtain ⟨_, entry, rest, _, rfl⟩ := cases
      simp [Action.isWorker, stock, budget]
  | worker =>
      obtain ⟨worker, worker', event, present, moved, rfl⟩ := cases
      have less := Worker.workload_step
        (traffic.stages worker (by simp [scans, present])) moved
      simp only [Action.isWorker, stock, budget, present, Option.toList_some,
        List.map_cons, List.map_nil, List.sum_cons, List.sum_nil, if_true]
      omega
  | fail what =>
      obtain ⟨worker, present, mayFail, rfl⟩ := cases
      have less := Worker.workload_fail mayFail what
      simpa [Action.isWorker, stock, budget, setWorker, present] using less
  | complete index outcome =>
      obtain ⟨worker, fut, present, _, _, _, rfl⟩ := cases
      simp [Action.isWorker, stock, budget, setWorker, present,
        Worker.workload]

/-- Wherever the threads stand, with what can happen next. -/
structure Protocol (databases : Databases F) (state : State F) : Prop where
  /-- The queue hands on what the scans post, one scan after the other. -/
  fifo : state.delivered ++ state.queue = state.scans.flatMap (·.posted)
  requests : state.accepted =
    state.scans.map (·.request) ++ state.ui.pending
  /-- A scan that has finished has reported its tasks in port order, all of them
  unless it was cancelled or failed, and `scanFinished` behind them. -/
  finished : ∀ worker ∈ state.scans, worker.point.scanning = false →
    ∃ events count, worker.posted = events ++ [.scanFinished] ∧
      .scanFinished ∉ events ∧ worker.Reported databases events count
  /-- Until then it is on its way. -/
  underway : ∀ worker ∈ state.scans, worker.point.scanning = true →
    .scanFinished ∉ worker.posted ∧ ∃ count, count ≤ worker.futs.length ∧
      worker.posted <+:
        reports databases worker.request.target worker.futs count ++
          worker.errors
  earlier : ∀ worker ∈ state.joined, worker.point.scanning = false
  onePerPort : ∀ worker ∈ state.scans,
    (resultPorts worker.posted).Sublist worker.request.ports
  rejected : state.ui = .idle → state.running = true → ∀ request,
    state.step databases (.startScan request) = some (state.emit rejection)
  cancelBefore : state.ui = .idle → state.running = false →
    state.step databases .cancelScan = some { state with cancel := true }
  afresh : state.ui = .idle → state.running = false → ∀ request cancel,
    Steps.run (State.step databases) { state with cancel := cancel }
        [.startScan request, .ui] =
      some { state.accept request with cancel := false, ui := .join request }
  /-- No thread waits for anything but the tasks it has spawned. -/
  workerMoves : ∀ worker, state.worker = some worker →
    worker.point.hasExited = false → (∀ fut ∈ worker.futs, fut.Done) →
    ∃ next, state.step databases .worker = some next
  uiMoves : state.ui ≠ .idle →
    (∃ next, state.step databases .ui = some next) ∨
      ∃ next, state.step databases .worker = some next

omit [Floating F] in
theorem Control.settled {state : State F} (control : state.Control)
    (stopped : state.running = false) {worker : Worker F}
    (present : state.worker = some worker) :
    worker.point.beforeStore = false := by
  by_contra before
  have running := control.running_iff.mpr
    (.inr ⟨worker, present, by simpa using before⟩)
  rw [stopped] at running
  cases running

theorem Traffic.protocol {state : State F} (traffic : state.Traffic databases)
    (control : state.Control) : state.Protocol databases where
  fifo := traffic.fifo
  requests := traffic.requests
  finished := by
    intro worker member done
    obtain ⟨events, count, posted, reported⟩ :=
      (traffic.stages worker member).ended done
    refine ⟨events, count, posted, ?_, reported⟩
    rw [reported.events_eq]
    simp [scanFinished_notMem_reports, Job.scanFinished_notMem_errors]
  underway := by
    intro worker member scans
    obtain ⟨_, count, le, front⟩ := (traffic.stages worker member).front scans
    refine ⟨?_, count, le, front⟩
    intro posted
    have reported := front.subset posted
    simp [scanFinished_notMem_reports, Job.scanFinished_notMem_errors] at reported
  earlier := by
    intro worker member
    have exited := traffic.exited worker member
    cases here : worker.point <;> simp_all [Point.hasExited, Point.scanning]
  onePerPort := by
    intro worker member
    have stage := traffic.stages worker member
    have fitting := traffic.fitting worker member
    cases scans : worker.point.scanning with
    | true =>
        obtain ⟨spawned, count, le, front⟩ := stage.front scans
        have posted : (resultPorts worker.posted).Sublist (resultPorts _) :=
          front.sublist.filterMap _
        exact posted.trans (Worker.resultPorts_sublist fitting spawned le)
    | false =>
        obtain ⟨events, count, posted, reported⟩ := stage.ended scans
        rw [posted, resultPorts_append, reported.events_eq]
        simpa [resultPorts] using
          Worker.resultPorts_sublist fitting reported.spawned reported.le
  rejected := by
    intro idle running request
    simp [State.step, idle, running]
  cancelBefore := by
    intro idle stopped
    have unmarked : state.worker.map Worker.noteCancel = state.worker := by
      cases present : state.worker with
      | none => rfl
      | some worker =>
          have stored := control.settled stopped present
          have finished : worker.point.scanning = false := by
            cases here : worker.point <;>
              simp_all [Point.beforeStore, Point.scanning]
          exact congrArg some (Worker.noteCancel_of_finished finished)
    simp [State.step, idle, unmarked]
  afresh := by
    intro idle stopped request cancel
    simp [Steps.run, State.step, stepUi, accept, idle, stopped]
  workerMoves := by
    intro worker present left ready
    have member : worker ∈ state.scans := by simp [scans, present]
    obtain ⟨⟨worker', event⟩, moved⟩ := Worker.step_enabled
      (traffic.stages worker member) left ready state.cancel
    refine ⟨{ state with
      worker := some worker'
      queue := state.queue ++ event.toList
      running := state.running && !worker.point.storesRunning }, ?_⟩
    simp only [State.step, present, Option.bind_some, stepWorker, moved]
  uiMoves := by
    intro busy
    cases here : state.ui with
    | idle => exact absurd here busy
    | storeCancel request | spawn request =>
        exact .inl (Option.isSome_iff_exists.mp (by
          simp [State.step, stepUi, here]))
    | join request =>
        cases present : state.worker with
        | none =>
            exact .inl (Option.isSome_iff_exists.mp (by
              simp [State.step, stepUi, here, present]))
        | some worker =>
            have stored := control.starting worker busy present
            cases stands : worker.point with
            | exited =>
                exact .inl (Option.isSome_iff_exists.mp (by
                  simp [State.step, stepUi, here, present, stands,
                    Point.hasExited]))
            | leaving =>
                exact .inr (Option.isSome_iff_exists.mp (by
                  simp [State.step, present, stepWorker, Worker.step, stands]))
            | _ =>
                rw [stands] at stored
                cases stored

end State

/-! Every run. -/

theorem reachable_step {databases : Databases F} {state next : State F}
    {action : Action F} (holds : state.Control ∧ state.Traffic databases)
    (stepped : state.step databases action = some next) :
    next.Control ∧ next.Traffic databases :=
  ⟨holds.1.step stepped, holds.2.step holds.1 stepped⟩

theorem reachable_initial {databases : Databases F} :
    (initial : State F).Control ∧ (initial : State F).Traffic databases :=
  ⟨State.control_initial, State.traffic_initial⟩

/-- Every run keeps the protocol, and the threads of the scans it accepts make
no more steps than the ports of those scans call for. -/
theorem run_protocol {databases : Databases F} {actions : List (Action F)}
    {state : State F}
    (ran : Steps.run (State.step databases) initial actions = some state) :
    state.Protocol databases ∧
      actions.countP Action.isWorker ≤
        (state.accepted.map Request.budget).sum := by
  obtain ⟨control, traffic⟩ :=
    Steps.run_invariant reachable_step reachable_initial ran
  refine ⟨traffic.protocol control, ?_⟩
  have counted : actions.countP Action.isWorker + state.stock +
      (initial : State F).budget ≤ (initial : State F).stock + state.budget :=
    Steps.run_count_le reachable_step
      (fun holds stepped => State.step_paid holds.2 stepped)
      reachable_initial ran
  have settled : (initial : State F).stock = 0 := rfl
  have unpaid : (initial : State F).budget = 0 := rfl
  rw [settled, unpaid, State.budget] at counted
  omega

end

def noDatabases : Databases ℚ where
  cdnProvider := fun _ => []
  epss := {}

def localhost : Request where
  target := bytes "127.0.0.1"
  ports := [22, 80]

def closedResult : ScanResult ℚ where
  targetHost := bytes "127.0.0.1"
  port := 22
  state := .closed

/-- A scan of two ports up to its `postFinished`; the task of the second port
ends first, in an exception. -/
def scanTwoPorts : List (Action ℚ) :=
  [.startScan localhost, .ui, .ui, .ui] ++ List.replicate 6 .worker ++
    [.complete 1 .exception, .complete 0 (.returned closedResult)] ++
    List.replicate 10 .worker

theorem run_protocol_twoPorts :
    ∃ state, Steps.run (State.step noDatabases) initial scanTwoPorts =
        some state ∧
      state.Protocol noDatabases ∧
      state.queue = [.resultReady closedResult, .progressChanged 1 2,
        .progressChanged 2 2, .scanFinished] := by
  have ends : (Steps.run (State.step noDatabases) initial
      scanTwoPorts).isSome = true := by decide +kernel
  obtain ⟨state, ran⟩ := Option.isSome_iff_exists.mp ends
  refine ⟨state, ran, (run_protocol ran).1, ?_⟩
  have queued : (Steps.run (State.step noDatabases) initial
      scanTwoPorts).map State.queue = some [.resultReady closedResult,
        .progressChanged 1 2, .progressChanged 2 2, .scanFinished] := by
    decide +kernel
  rw [ran] at queued
  exact Option.some.inj queued

end ServicePortScanner.Gui.ScanController
