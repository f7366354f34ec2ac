import ServicePortScanner.Data.Joined
import ServicePortScanner.Gui.MainWindow

namespace ServicePortScanner.Gui

open ServicePortScanner.Data ServicePortScanner.Core ServicePortScanner.Cli
open ServicePortScanner.Gui.BannerPreview (QString)

/-! Runs of the main window, with the scans behind it. -/

namespace ScanController

section

variable {F : Type}

def Event.result? : Event F → Option (ScanResult F)
  | .resultReady r => some r
  | _ => none

def resultsOf (events : List (Event F)) : List (ScanResult F) :=
  events.filterMap Event.result?

@[simp] theorem resultsOf_append (events later : List (Event F)) :
    resultsOf (events ++ later) = resultsOf events ++ resultsOf later :=
  List.filterMap_append

@[simp] theorem resultsOf_flatMap {β : Type} (posted : β → List (Event F))
    (scans : List β) :
    resultsOf (scans.flatMap posted) =
      scans.flatMap fun scan => resultsOf (posted scan) := by
  induction scans with
  | nil => rfl
  | cons scan scans induction =>
      rw [List.flatMap_cons, resultsOf_append, induction, List.flatMap_cons]

@[simp] theorem resultsOf_errors (job : Job F) : resultsOf job.errors = [] := by
  unfold Job.errors
  cases job.failed with
  | none => rfl
  | some what => rfl

variable [Floating F] {databases : Databases F}

/-- The results among the events of a scan are those of its tasks. -/
theorem resultsOf_reports (target : Bytes) {futs : List (Future F)}
    {count : Nat} (le : count ≤ futs.length) :
    resultsOf (reports databases target futs count) =
      (futs.take count).filterMap (Worker.kept databases target) := by
  induction count with
  | zero => rfl
  | succ done induction =>
      have atDone := List.getElem?_eq_getElem le
      have here : resultsOf (resultEvents databases target futs done) =
          (Worker.kept databases target futs[done]).toList := by
        simp only [resultEvents, atDone]
        cases Worker.kept databases target futs[done] with
        | none => rfl
        | some r => rfl
      rw [reports, resultsOf_append, resultsOf_append, here,
        induction (Nat.le_of_succ_le le), List.take_add_one, atDone,
        List.filterMap_append]
      cases kept : Worker.kept databases target futs[done] with
      | none => simp [resultsOf, Event.result?, kept]
      | some r => simp [resultsOf, Event.result?, kept]

namespace Worker

/-- A thread posts `scanFinished` behind everything else. -/
theorem Stage.marksEnd {worker : Worker F} (stage : worker.Stage databases) :
    MarksEnd .scanFinished worker.posted := by
  cases scans : worker.point.scanning with
  | true =>
      obtain ⟨_, count, _, front⟩ := stage.front scans
      left
      intro posted
      have reported := front.subset posted
      simp [scanFinished_notMem_reports, Job.scanFinished_notMem_errors]
        at reported
  | false =>
      obtain ⟨events, count, posted, reported⟩ := stage.ended scans
      refine .inr ⟨events, posted, ?_⟩
      rw [reported.events_eq]
      simp [scanFinished_notMem_reports, Job.scanFinished_notMem_errors]

/-- The scan has reported every port it was asked for, in order. -/
structure Complete (databases : Databases F) (worker : Worker F) : Prop where
  ports : worker.futs.map Future.port = worker.request.ports
  done : ∀ fut ∈ worker.futs, fut.Done
  results : resultsOf worker.posted =
    worker.futs.filterMap (kept databases worker.request.target)

theorem Stage.complete {worker : Worker F} (stage : worker.Stage databases)
    (ended : worker.point.scanning = false) (uncancelled : worker.cancelled = false)
    (unfailed : worker.failed = none) : worker.Complete databases := by
  obtain ⟨events, count, posted, reported⟩ := stage.ended ended
  obtain ⟨all, ports⟩ := reported.all uncancelled unfailed
  refine ⟨ports, ?_, ?_⟩
  · intro fut member
    obtain ⟨index, within, same⟩ := List.mem_iff_getElem.mp member
    obtain ⟨fut', atIndex, isDone⟩ := reported.ready index (all ▸ within)
    rw [List.getElem?_eq_getElem within, same] at atIndex
    cases atIndex
    exact isDone
  · rw [posted, resultsOf_append, reported.events_eq, resultsOf_append,
      resultsOf_reports _ reported.le, all, List.take_length,
      resultsOf_errors, List.append_nil]
    exact List.append_nil _

end Worker

namespace State

omit [Floating F] in
/-- What one step takes off the queue. -/
theorem delivered_emit_queued (state : State F) (event : Event F) :
    (state.emit ⟨.queued, event⟩).delivered = state.delivered ++ [event] := by
  simp [delivered, emit]

/-- Only the event loop delivers events. -/
theorem delivered_step {state next : State F} {action : Action F}
    (other : action ≠ .take)
    (stepped : state.step databases action = some next) :
    next.delivered = state.delivered := by
  have cases := step_cases stepped
  cases action with
  | startScan request =>
      obtain ⟨_, ⟨_, rfl⟩ | ⟨_, rfl⟩⟩ := cases
      · simp [delivered, emit, rejection]
      · rfl
  | cancelScan =>
      obtain ⟨_, rfl⟩ := cases
      rfl
  | ui =>
      rcases cases with ⟨_, _, rfl⟩ | ⟨_, _, _, rfl⟩ | ⟨_, _, _, _, _, rfl⟩ |
        ⟨_, _, rfl⟩ <;> rfl
  | take => exact absurd rfl other
  | handled =>
      obtain ⟨_, _, _, _, rfl⟩ := cases
      rfl
  | worker =>
      obtain ⟨_, _, _, _, _, rfl⟩ := cases
      rfl
  | fail what =>
      obtain ⟨_, _, _, rfl⟩ := cases
      rfl
  | complete index outcome =>
      obtain ⟨_, _, _, _, _, _, rfl⟩ := cases
      rfl

omit [Floating F] in
/-- Nobody has cancelled a scan. -/
def Uncancelled (state : State F) : Prop :=
  ∀ worker ∈ state.scans, worker.cancelled = false

theorem Uncancelled.step {state next : State F} {action : Action F}
    (uncancelled : state.Uncancelled) (other : action ≠ .cancelScan)
    (stepped : state.step databases action = some next) :
    next.Uncancelled := by
  have cases := step_cases stepped
  have replaced {worker worker' : Worker F} (present : state.worker = some worker)
      (same : worker'.cancelled = worker.cancelled) :
      ∀ each ∈ state.joined ++ [worker'], each.cancelled = false := by
    rw [Uncancelled, scans, present, Option.toList_some,
      List.forall_mem_append, List.forall_mem_singleton] at uncancelled
    rw [List.forall_mem_append, List.forall_mem_singleton, same]
    exact uncancelled
  cases action with
  | startScan request =>
      obtain ⟨_, ⟨_, rfl⟩ | ⟨_, rfl⟩⟩ := cases
      · exact uncancelled
      · exact uncancelled
  | cancelScan => exact absurd rfl other
  | ui =>
      rcases cases with ⟨_, _, rfl⟩ | ⟨_, _, _, rfl⟩ |
        ⟨_, worker, _, present, _, rfl⟩ | ⟨_, _, rfl⟩
      · exact uncancelled
      · exact uncancelled
      · simpa [Uncancelled, scans, present] using uncancelled
      · simp only [Uncancelled, scans, List.forall_mem_append] at uncancelled ⊢
        exact ⟨uncancelled.1, by simp⟩
  | take =>
      obtain ⟨_, _, _, _, rfl⟩ := cases
      exact uncancelled
  | handled =>
      obtain ⟨_, _, _, _, rfl⟩ := cases
      exact uncancelled
  | worker =>
      obtain ⟨worker, worker', event, present, moved, rfl⟩ := cases
      exact replaced present (Worker.step_follows moved).cancelled
  | fail what =>
      obtain ⟨worker, present, _, rfl⟩ := cases
      exact replaced present rfl
  | complete index outcome =>
      obtain ⟨worker, _, present, _, _, _, rfl⟩ := cases
      exact replaced present rfl

/-- Only a call accepts a request. -/
theorem accepted_step {state next : State F} {action : Action F}
    (stepped : state.step databases action = some next) :
    ∀ request ∈ next.accepted,
      request ∈ state.accepted ∨ action = .startScan request := by
  have cases := step_cases stepped
  intro request member
  cases action with
  | startScan given =>
      obtain ⟨_, ⟨_, rfl⟩ | ⟨_, rfl⟩⟩ := cases
      · exact .inl member
      · rcases List.mem_append.mp member with before | now
        · exact .inl before
        · exact .inr (List.mem_singleton.mp now ▸ rfl)
  | cancelScan =>
      obtain ⟨_, rfl⟩ := cases
      exact .inl member
  | ui =>
      rcases cases with ⟨_, _, rfl⟩ | ⟨_, _, _, rfl⟩ | ⟨_, _, _, _, _, rfl⟩ |
        ⟨_, _, rfl⟩ <;> exact .inl member
  | take =>
      obtain ⟨_, _, _, _, rfl⟩ := cases
      exact .inl member
  | handled =>
      obtain ⟨_, _, _, _, rfl⟩ := cases
      exact .inl member
  | worker =>
      obtain ⟨_, _, _, _, _, rfl⟩ := cases
      exact .inl member
  | fail what =>
      obtain ⟨_, _, _, rfl⟩ := cases
      exact .inl member
  | complete index outcome =>
      obtain ⟨_, _, _, _, _, _, rfl⟩ := cases
      exact .inl member

/-- A front of the scans whose last one has posted `scanFinished` has ended. -/
theorem Protocol.ended {state : State F} (protocol : state.Protocol databases)
    {front : List (Worker F)} (isPrefix : front <+: state.scans)
    (last : ∀ scan ∈ front.getLast?, .scanFinished ∈ scan.posted) :
    ∀ scan ∈ front, scan.point.scanning = false := by
  intro scan member
  cases present : state.worker with
  | none =>
      rw [scans, present, Option.toList_none, List.append_nil] at isPrefix
      exact protocol.earlier scan (isPrefix.subset member)
  | some worker =>
      have current : worker ∈ state.scans := by simp [scans, present]
      rw [scans, present, Option.toList_some, List.prefix_concat_iff] at isPrefix
      rcases isPrefix with rfl | isPrefix
      · rcases List.mem_append.mp member with before | here
        · exact protocol.earlier scan before
        · cases List.mem_singleton.mp here
          have posted : .scanFinished ∈ scan.posted := last scan (by simp)
          rw [← Bool.not_eq_true]
          intro scanning
          exact (protocol.underway scan current scanning).1 posted
      · exact protocol.earlier scan (isPrefix.subset member)

end State

end

end ScanController

namespace MainWindow

open ScanController (Databases Event Worker resultsOf resultsOf_append
  resultsOf_flatMap)

section

variable {F : Type} [Floating F]
variable {databases : Databases F} {toStdString : QString → Bytes}
variable {makeAddress : Bytes → Option Address} {dummy : List (ScanResult F)}

/-! The table and the chart are what the event loop has delivered. -/

structure Records (databases : Databases F) (dummy : List (ScanResult F))
    (window : MainWindow F) : Prop where
  control : window.controller.Control
  traffic : window.controller.Traffic databases
  uncancelled : window.controller.Uncancelled
  rows : window.table.results = dummy ++ resultsOf window.controller.delivered
  chart : ∃ before later, window.controller.delivered = before ++ later ∧
    .scanFinished ∉ later ∧
    (∀ event ∈ before.getLast?, event = .scanFinished) ∧
    window.charts = .updateData (dummy ++ resultsOf before)

theorem records_construct : Records databases dummy (construct dummy) where
  control := ScanController.State.control_initial
  traffic := ScanController.State.traffic_initial
  uncancelled := nofun
  rows := (List.append_nil dummy).symm
  chart := by
    refine ⟨[], [], rfl, List.not_mem_nil, nofun, ?_⟩
    rw [resultsOf, List.filterMap_nil, List.append_nil]
    rfl

namespace Records

variable {window next : MainWindow F} (records : Records databases dummy window)
include records

theorem sameData (same : window.SameData next) :
    Records databases dummy next where
  control := same.controller ▸ records.control
  traffic := same.controller ▸ records.traffic
  uncancelled := same.controller ▸ records.uncancelled
  rows := by rw [same.table, same.controller, records.rows]
  chart := by
    rw [same.controller, same.charts]
    exact records.chart

theorem setController {controller : ScanController.State F}
    {action : ScanController.Action F} (takes : action ≠ .take)
    (cancels : action ≠ .cancelScan)
    (stepped : window.controller.step databases action = some controller)
    (isOpen : Bool) :
    Records databases dummy
      { window with controller := controller, dialogOpen := isOpen } where
  control := records.control.step stepped
  traffic := records.traffic.step records.control stepped
  uncancelled := records.uncancelled.step cancels stepped
  rows := by
    dsimp only
    rw [ScanController.State.delivered_step takes stepped, records.rows]
  chart := by
    dsimp only
    rw [ScanController.State.delivered_step takes stepped]
    exact records.chart

theorem start {controller : ScanController.State F}
    {request : ScanController.Request}
    (stepped : window.controller.step databases (.startScan request) =
      some controller) (isOpen : Bool) :
    Records databases dummy
      { window with controller := controller, dialogOpen := isOpen } :=
  records.setController (by nofun) (by nofun) stepped isOpen

theorem take {event : Event F} {rest : List (Event F)}
    {controller : ScanController.State F}
    (queued : window.controller.queue = event :: rest)
    (stepped : window.controller.step databases .take = some controller) :
    Records databases dummy
      ({ window with controller := controller }.receive event) := by
  have control := records.control.step stepped
  have traffic := records.traffic.step records.control stepped
  have uncancelled :=
    records.uncancelled.step (by simp) stepped
  obtain ⟨_, event', rest', queued', rfl⟩ :=
    ScanController.State.step_cases stepped
  rw [queued] at queued'
  cases queued'
  have delivered : (ScanController.State.emit
      { window.controller with queue := rest } ⟨.queued, event⟩).delivered =
        window.controller.delivered ++ [event] :=
    ScanController.State.delivered_emit_queued _ event
  obtain ⟨before, later, split, unfinished, last, chart⟩ := records.chart
  have open' (other : event ≠ .scanFinished) :
      window.controller.delivered ++ [event] = before ++ (later ++ [event]) ∧
        .scanFinished ∉ later ++ [event] := by
    refine ⟨by rw [split, List.append_assoc], ?_⟩
    simp [unfinished, other.symm]
  cases event with
  | resultReady r =>
      refine ⟨control, traffic, uncancelled, ?_, ?_⟩
      · rw [receive]
        dsimp only [Table.appendResult]
        rw [delivered, resultsOf_append, records.rows, List.append_assoc]
        rfl
      · rw [receive]
        dsimp only
        rw [delivered]
        obtain ⟨split', unfinished'⟩ := open' (by simp)
        exact ⟨before, _, split', unfinished', last, chart⟩
  | scanFinished =>
      refine ⟨control, traffic, uncancelled, ?_, ?_⟩
      · rw [receive]
        dsimp only
        rw [delivered, resultsOf_append, records.rows]
        exact (List.append_nil _).symm ▸ rfl
      · rw [receive]
        dsimp only
        rw [delivered, records.rows]
        refine ⟨_, [], (List.append_nil _).symm, List.not_mem_nil, ?_, ?_⟩
        · simp
        · rw [resultsOf_append]
          exact congrArg ChartsPanel.updateData
            (congrArg (dummy ++ ·) (List.append_nil _).symm)
  | progressChanged done total | scanError message =>
      refine ⟨control, traffic, uncancelled, ?_, ?_⟩
      · rw [receive]
        dsimp only
        rw [delivered, resultsOf_append, records.rows]
        exact congrArg (dummy ++ ·) (List.append_nil _).symm
      · rw [receive]
        dsimp only
        rw [delivered]
        obtain ⟨split', unfinished'⟩ := open' (by simp)
        exact ⟨before, _, split', unfinished', last, chart⟩

theorem step {action : Action F}
    (stepped : window.step databases toStdString makeAddress action =
      some next) : Records databases dummy next := by
  have moves := (step_moves stepped).2
  clear stepped
  cases moves with
  | threads moved starts cancels takes =>
      exact records.setController takes cancels moved _
  | take queued moved => exact records.take queued moved
  | demoScan moved => exact records.start moved _
  | dialogScan accepted moved => exact records.start moved _
  | dialog isOpen =>
      exact ⟨records.control, records.traffic, records.uncancelled,
        records.rows, records.chart⟩
  | sort perm =>
      exact ⟨records.control, records.traffic, records.uncancelled,
        records.rows, records.chart⟩
  | select row => exact records.sameData (setCurrentIndex_sameData _ _)
  | click clicked => exact records.sameData (pointClicked_sameData _ _)

end Records

/-- The table has what the scans have reported, and the chart what the scans had
that have finished for the window. -/
structure Ledger (databases : Databases F) (dummy : List (ScanResult F))
    (window : MainWindow F) : Prop where
  table : window.table.results ++ resultsOf window.controller.queue =
    dummy ++ window.controller.scans.flatMap fun scan => resultsOf scan.posted
  complete : ∀ scan ∈ window.controller.scans,
    scan.point.scanning = false → scan.failed = none → scan.Complete databases
  chart : ∃ finished later, finished <+: window.controller.scans ∧
    (∀ scan ∈ finished, scan.point.scanning = false) ∧
    window.controller.delivered = finished.flatMap (·.posted) ++ later ∧
    .scanFinished ∉ later ∧
    window.charts = .updateData
      (dummy ++ finished.flatMap fun scan => resultsOf scan.posted)

theorem Records.ledger {window : MainWindow F}
    (records : Records databases dummy window) :
    window.Ledger databases dummy where
  table := by
    rw [records.rows, List.append_assoc, ← resultsOf_append,
      records.traffic.fifo, resultsOf_flatMap]
  complete := by
    intro scan member ended unfailed
    exact (records.traffic.stages scan member).complete ended
      (records.uncancelled scan member) unfailed
  chart := by
    obtain ⟨before, later, split, unfinished, last, chart⟩ := records.chart
    have fifo := records.traffic.fifo
    rw [split, List.append_assoc] at fifo
    obtain ⟨finished, isPrefix, blocks, marked⟩ :=
      exists_blocks (fun scan member =>
        (records.traffic.stages scan member).marksEnd) fifo last
    have protocol := records.traffic.protocol records.control
    refine ⟨finished, later, isPrefix, protocol.ended isPrefix marked, ?_,
      unfinished, ?_⟩
    · rw [split, blocks]
    · rw [chart, blocks, resultsOf_flatMap]

/-! A scan of one port. -/

def latin : QString → Bytes :=
  List.map UInt16.toUInt8

def onlyLocalhost (target : Bytes) : Option Address :=
  if target = bytes "127.0.0.1" then some (.v4 0x7f000001) else none

def dialogForHttp : ScanDialog where
  ports := BannerPreview.literal "80"

def riskyHttp : ScanResult ℚ where
  targetHost := bytes "127.0.0.1"
  port := 80
  state := .opened
  service := { name := bytes "http" }
  cves := [⟨bytes "CVE-2021-41773", [], 15 / 2, .high, 0, 0, false⟩]

/-- From the menu to the chart, and a click on it. -/
def scanHttp : List (Action ℚ) :=
  [.openScanDialog, .acceptDialog dialogForHttp] ++
    List.replicate 3 (.background .ui) ++
    List.replicate 4 (.background .worker) ++
    [.background (.complete 0 (.returned riskyHttp))] ++
    List.replicate 7 (.background .worker) ++
    List.replicate 3 (.background .take) ++ [.click ⟨0, 0⟩]

theorem scanHttp_ends : ∃ window,
    Steps.run (step ScanController.noDatabases latin onlyLocalhost)
        (construct []) scanHttp = some window ∧
      window.table.results = [riskyHttp] ∧ window.detail = some riskyHttp := by
  have ends : (Steps.run (step ScanController.noDatabases latin onlyLocalhost)
      (construct []) scanHttp).map
        (fun window => (window.table.results, window.detail)) =
      some ([riskyHttp], some riskyHttp) := by
    decide +kernel
  obtain ⟨window, ran, shows⟩ := Option.map_eq_some_iff.mp ends
  exact ⟨window, ran, congrArg Prod.fst shows, congrArg Prod.snd shows⟩

/-! Every run. -/

/-- Whatever the user and the threads do. -/
theorem run_ledger {actions : List (Action F)} {window : MainWindow F}
    (ran : Steps.run (step databases toStdString makeAddress) (construct dummy)
      actions = some window) : window.Ledger databases dummy :=
  (Steps.run_invariant (fun records stepped => records.step stepped)
    records_construct ran).ledger

theorem run_ledger_scanHttp : ∃ window,
    Steps.run (step ScanController.noDatabases latin onlyLocalhost)
        (construct []) scanHttp = some window ∧
      window.Ledger ScanController.noDatabases [] ∧
      window.table.results = [riskyHttp] := by
  obtain ⟨window, ran, results, _⟩ := scanHttp_ends
  exact ⟨window, ran, run_ledger ran, results⟩

/-! What the user finds in the window, where distances are exact. -/

/-- What the user selects or clicks on is what the details show. -/
structure Browsable (window : MainWindow ℚ) : Prop where
  alive : window.terminated = false
  detail : window.detail = window.current.bind (window.table.results[·]?)
  select : ∀ row source, window.table.rows[row]? = some source →
    ∃ r, window.table.results[source]? = some r ∧
      window.setCurrentIndex row =
        { window with current := some source, detail := some r }
  /-- A click finds a drawn result, and no other drawn one is closer. -/
  click : ∀ point idx, window.charts.onScatterClicked point = some idx →
    ∃ r, window.table.results[idx]? = some r ∧ ChartsPanel.IsDrawn r ∧
      (∀ p ∈ window.charts.pointMap,
        ChartsPanel.distance point (ChartsPanel.infoOf r idx) ≤
          ChartsPanel.distance point p) ∧
      window.pointClicked idx =
        { window with current := some idx, detail := some r }
  /-- A click on a point finds the first result of the table with its
  coordinates. -/
  point : ∀ point, (∃ series, point ∈ window.charts.points series) →
    ∃ idx r, window.charts.onScatterClicked point = some idx ∧
      window.table.results[idx]? = some r ∧ ChartsPanel.IsDrawn r ∧
      ChartsPanel.pointOf r = point ∧
      ∀ (other : Nat) (r' : ScanResult ℚ),
        window.table.results[other]? = some r' → ChartsPanel.IsDrawn r' →
          ChartsPanel.pointOf r' = point → idx ≤ other

theorem Views.browsable {window : MainWindow ℚ} (views : window.Views) :
    window.Browsable where
  alive := views.alive
  detail := views.detail
  select := fun _ _ found => views.select found
  click := by
    intro point idx clicked
    obtain ⟨shown, ⟨later, whole⟩, same⟩ := views.chart
    rw [same] at clicked
    obtain ⟨r, atIndex, drawn, nearest⟩ :=
      ChartsPanel.onScatterClicked_some clicked
    have within := (List.getElem?_eq_some_iff.mp atIndex).1
    have inTable : window.table.results[idx]? = some r := by
      rw [← whole, List.getElem?_append_left within, atIndex]
    refine ⟨r, inTable, drawn, ?_, views.click inTable⟩
    intro p member
    rw [same] at member
    obtain ⟨r', atOther, drawn', info⟩ :=
      ChartsPanel.mem_pointMap_iff.mp member
    rw [info]
    exact nearest p.resultIndex r' atOther drawn'
  point := by
    intro point drawn
    obtain ⟨shown, ⟨later, whole⟩, same⟩ := views.chart
    rw [same] at drawn ⊢
    obtain ⟨idx, r, found, atIndex, isDrawn, here, first⟩ :=
      ChartsPanel.onScatterClicked_point drawn
    have within := (List.getElem?_eq_some_iff.mp atIndex).1
    refine ⟨idx, r, found, ?_, isDrawn, here, ?_⟩
    · rw [← whole, List.getElem?_append_left within, atIndex]
    · intro other r' atOther isDrawn' here'
      by_cases old : other < shown.length
      · rw [← whole, List.getElem?_append_left old] at atOther
        exact first other r' atOther isDrawn' here'
      · omega

theorem run_browsable {databases : Databases ℚ} {dummy : List (ScanResult ℚ)}
    {actions : List (Action ℚ)} {window : MainWindow ℚ}
    (ran : Steps.run (step databases toStdString makeAddress) (construct dummy)
      actions = some window) : window.Browsable :=
  (Steps.run_invariant (fun views stepped => views.step stepped)
    (views_construct dummy) ran).browsable

theorem run_browsable_scanHttp : ∃ window,
    Steps.run (step ScanController.noDatabases latin onlyLocalhost)
        (construct []) scanHttp = some window ∧
      window.Browsable ∧ window.detail = some riskyHttp := by
  obtain ⟨window, ran, _, detail⟩ := scanHttp_ends
  exact ⟨window, ran, run_browsable ran, detail⟩

/-! What is scanned. -/

/-- The request comes from an accepted dialog with the box checked. -/
def Consented (toStdString : QString → Bytes) (actions : List (Action F))
    (request : ScanController.Request) : Prop :=
  ∃ dialog, .acceptDialog dialog ∈ actions ∧ dialog.allowExternal = true ∧
    request = ⟨toStdString (dialog.request toStdString).target,
      (dialog.request toStdString).ports⟩

/-- What every request of the window meets. -/
structure Permitted (toStdString : QString → Bytes)
    (makeAddress : Bytes → Option Address) (actions : List (Action F))
    (request : ScanController.Request) : Prop where
  ports : request.ports ≠ []
  ascending : request.ports.Pairwise (· < ·)
  inScope : InScope makeAddress (Consented toStdString actions request)
    request.target

@[simp] theorem receive_controller (window : MainWindow F) (event : Event F) :
    (window.receive event).controller = window.controller := by
  cases event <;> rfl

section

variable {actions : List (Action F)}

omit [Floating F] in
theorem permitted_demo
    (demo : makeAddress (toStdString demoTarget) = some (.v4 0x7f000001)) :
    Permitted toStdString makeAddress actions
      ⟨toStdString demoTarget, demoPorts⟩ where
  ports := nofun
  ascending := by
    change demoPorts.Pairwise (· < ·)
    decide
  inScope := ⟨_, demo, .inr (by decide)⟩

omit [Floating F] in
theorem permitted_dialog {dialog : ScanDialog}
    (accepted : dialog.accept toStdString makeAddress = .ok ())
    (pressed : .acceptDialog dialog ∈ actions) :
    Permitted toStdString makeAddress actions
      ⟨toStdString (dialog.request toStdString).target,
        (dialog.request toStdString).ports⟩ := by
  obtain ⟨ports, ascending, address, valid, permission⟩ :=
    ScanDialog.accept_ok accepted
  refine ⟨ports, ascending, address, valid, ?_⟩
  rcases permission with consent | inside
  · exact .inl ⟨dialog, pressed, consent, rfl⟩
  · exact .inr inside

theorem permitted_step {window next : MainWindow F} {action : Action F}
    (demo : makeAddress (toStdString demoTarget) = some (.v4 0x7f000001))
    (permitted : ∀ request ∈ window.controller.accepted,
      Permitted toStdString makeAddress actions request)
    (member : action ∈ actions)
    (stepped : window.step databases toStdString makeAddress action =
      some next) :
    ∀ request ∈ next.controller.accepted,
      Permitted toStdString makeAddress actions request := by
  have moves := (step_moves stepped).2
  clear stepped
  intro request accepted
  cases moves with
  | threads moved starts cancels takes =>
      rcases ScanController.State.accepted_step moved request accepted with
        before | now
      · exact permitted request before
      · exact absurd now (starts request)
  | take queued moved =>
      rw [receive_controller] at accepted
      rcases ScanController.State.accepted_step moved request accepted with
        before | now
      · exact permitted request before
      · cases now
  | demoScan moved =>
      rcases ScanController.State.accepted_step moved request accepted with
        before | now
      · exact permitted request before
      · cases now
        exact permitted_demo demo
  | dialogScan isAccepted moved =>
      rcases ScanController.State.accepted_step moved request accepted with
        before | now
      · exact permitted request before
      · cases now
        exact permitted_dialog isAccepted member
  | dialog isOpen => exact permitted request accepted
  | sort perm => exact permitted request accepted
  | select row =>
      rw [(setCurrentIndex_sameData _ _).controller] at accepted
      exact permitted request accepted
  | click clicked =>
      rw [(pointClicked_sameData _ _).controller] at accepted
      exact permitted request accepted

/-- Every scan is of ports in ascending order, at an address that the guard lets
through or with the consent of a dialog. -/
theorem run_permitted {window : MainWindow F}
    (demo : makeAddress (toStdString demoTarget) = some (.v4 0x7f000001))
    (ran : Steps.run (step databases toStdString makeAddress) (construct dummy)
      actions = some window) :
    ∀ scan ∈ window.controller.scans,
      Permitted toStdString makeAddress actions scan.request := by
  intro scan member
  have along : Steps.Along (step databases toStdString makeAddress)
      (fun _ action => action ∈ actions) (construct dummy) actions :=
    fun before action _ isPrefix _ => isPrefix.subset (by simp)
  have permitted := Steps.run_preserves
    (fun holds member stepped => permitted_step demo holds member stepped)
    (fun _ none => absurd none List.not_mem_nil) along ran
  have records : Records databases dummy window := Steps.run_invariant
    (fun records stepped => records.step stepped) records_construct ran
  apply permitted
  rw [records.traffic.requests]
  exact List.mem_append_left _ (List.mem_map_of_mem member)

theorem run_permitted_scanHttp : ∃ window,
    Steps.run (step ScanController.noDatabases latin onlyLocalhost)
        (construct []) scanHttp = some window ∧
      ∀ scan ∈ window.controller.scans,
        Permitted latin onlyLocalhost scanHttp scan.request := by
  obtain ⟨window, ran, _⟩ := scanHttp_ends
  exact ⟨window, ran, run_permitted (by decide) ran⟩

end

end

end MainWindow

end ServicePortScanner.Gui
