import ServicePortScanner.Gui.WindowRuns
import ServicePortScanner.Scan.PortReport

namespace ServicePortScanner.Gui

open ServicePortScanner.Data ServicePortScanner.Core ServicePortScanner.Cli
open ServicePortScanner.Net ServicePortScanner.Fp ServicePortScanner.Scan
open ServicePortScanner.Gui.BannerPreview (QString)

/-! The rows of the table, and the tasks that they come from. -/

namespace ScanController

section

variable {F : Type} [Floating F]

/-- What the tasks of the controller have in common. -/
structure Pipeline (F : Type) where
  sha256Hex : Bytes → Bytes
  /-- in milliseconds -/
  timeout : Nat
  probes : Option (List ProbeVariant)
  cves : Option (CveDb F)

namespace Pipeline

/-- The task of a port ends so on something that it can meet. -/
def ComesTo (pipeline : Pipeline F) (request : Request) (port : UInt16)
    (outcome : Outcome F) : Prop :=
  ∃ script rtt timestamp,
    outcome? ((scanOne pipeline.sha256Hex
      ⟨request.target, port, pipeline.timeout⟩ rtt timestamp pipeline.probes
      pipeline.cves : Task Unit (ScanResult F)).run () script) = some outcome

/-- Futures are completed by their tasks. -/
def Completes (pipeline : Pipeline F) (state : State F) : Action F → Prop
  | .complete index outcome => ∀ worker fut, state.worker = some worker →
      worker.futs[index]? = some fut →
        pipeline.ComesTo worker.request fut.port outcome
  | _ => True

/-- Every future that is done has been completed by its task. -/
def Genuine (pipeline : Pipeline F) (worker : Worker F) : Prop :=
  ∀ fut ∈ worker.futs, ∀ outcome ∈ fut.outcome,
    pipeline.ComesTo worker.request fut.port outcome

/-- The result is what a task of the request has been answered, and what the
controller has looked up for it. -/
def Told (pipeline : Pipeline F) (databases : Databases F) (request : Request)
    (r : ScanResult F) : Prop :=
  ∃ port ∈ request.ports, ∃ script rtt timestamp plain,
    r = decorate (databases.cdnProvider request.target) databases.epss plain ∧
    Tells ⟨request.target, port, pipeline.timeout⟩ rtt timestamp
      pipeline.probes pipeline.cves script plain

variable {pipeline : Pipeline F} {databases : Databases F}

theorem Genuine.step {worker worker' : Worker F} {cancel : Bool}
    {event : Option (Event F)} (genuine : pipeline.Genuine worker)
    (stepped : worker.step databases cancel = some (worker', event)) :
    pipeline.Genuine worker' := by
  have follows := Worker.step_follows stepped
  intro fut member outcome done
  rw [follows.request]
  rcases follows.futs fut member with before | fresh
  · exact genuine fut before outcome done
  · rw [fresh] at done
    cases done

theorem Genuine.complete {worker : Worker F} {index : Nat} {fut : Future F}
    {outcome : Outcome F} (genuine : pipeline.Genuine worker)
    (comesTo : pipeline.ComesTo worker.request fut.port outcome) :
    pipeline.Genuine { worker with
      futs := worker.futs.set index { fut with outcome := some outcome } } := by
  intro each member other done
  rcases List.mem_or_eq_of_mem_set member with before | rfl
  · exact genuine each before other done
  · cases done
    exact comesTo

/-- All scans stay genuine while tasks complete their futures. -/
theorem genuine_step {state next : State F} {action : Action F}
    (genuine : ∀ scan ∈ state.scans, pipeline.Genuine scan)
    (completes : pipeline.Completes state action)
    (stepped : state.step databases action = some next) :
    ∀ scan ∈ next.scans, pipeline.Genuine scan := by
  have cases := State.step_cases stepped
  have replaced {worker worker' : Worker F} (present : state.worker = some worker)
      (keeps : pipeline.Genuine worker → pipeline.Genuine worker') :
      ∀ each ∈ state.joined ++ [worker'], pipeline.Genuine each := by
    rw [State.scans, present, Option.toList_some, List.forall_mem_append,
      List.forall_mem_singleton] at genuine
    rw [List.forall_mem_append, List.forall_mem_singleton]
    exact ⟨genuine.1, keeps genuine.2⟩
  cases action with
  | startScan request =>
      obtain ⟨_, ⟨_, rfl⟩ | ⟨_, rfl⟩⟩ := cases
      · exact genuine
      · exact genuine
  | cancelScan =>
      obtain ⟨_, rfl⟩ := cases
      cases present : state.worker with
      | none => simpa [State.scans, present] using genuine
      | some worker =>
          simp only [State.scans, Option.map_some, Option.toList_some]
          exact replaced present fun same => same
  | ui =>
      rcases cases with ⟨_, _, rfl⟩ | ⟨_, _, _, rfl⟩ |
        ⟨_, worker, _, present, _, rfl⟩ | ⟨_, _, rfl⟩
      · exact genuine
      · exact genuine
      · simpa [State.scans, present] using genuine
      · simp only [State.scans, List.forall_mem_append] at genuine ⊢
        exact ⟨genuine.1, by simp [Genuine]⟩
  | take =>
      obtain ⟨_, _, _, _, rfl⟩ := cases
      exact genuine
  | handled =>
      obtain ⟨_, _, _, _, rfl⟩ := cases
      exact genuine
  | worker =>
      obtain ⟨worker, worker', event, present, moved, rfl⟩ := cases
      exact replaced present fun before => before.step moved
  | fail what =>
      obtain ⟨worker, present, _, rfl⟩ := cases
      exact replaced present fun _ => by simp [Genuine]
  | complete index outcome =>
      obtain ⟨worker, fut, present, atIndex, _, _, rfl⟩ := cases
      exact replaced present fun before =>
        before.complete (completes worker fut present atIndex)

theorem ComesTo.tells {request : Request} {port : UInt16} {plain : ScanResult F}
    (comesTo : pipeline.ComesTo request port (.returned plain)) :
    ∃ script rtt timestamp, Tells ⟨request.target, port, pipeline.timeout⟩ rtt
      timestamp pipeline.probes pipeline.cves script plain := by
  obtain ⟨script, rtt, timestamp, ends⟩ := comesTo
  unfold outcome? at ends
  split at ends
  · next r returned =>
      cases ends
      exact ⟨script, rtt, timestamp, scanOne_tells returned⟩
  · cases ends
  · cases ends

theorem Genuine.told_of_kept {worker : Worker F}
    (genuine : pipeline.Genuine worker)
    (spawned : worker.futs.map Future.port <+: worker.request.ports)
    {fut : Future F} (member : fut ∈ worker.futs) {r : ScanResult F}
    (kept : Worker.kept databases worker.request.target fut = some r) :
    pipeline.Told databases worker.request r := by
  unfold Worker.kept at kept
  split at kept
  · next plain done =>
      cases kept
      obtain ⟨script, rtt, timestamp, tells⟩ := (genuine fut member _ done).tells
      exact ⟨fut.port, spawned.subset (List.mem_map_of_mem member), script, rtt,
        timestamp, plain, rfl, tells⟩
  · cases kept

/-- What a genuine scan has posted is what its tasks have been answered. -/
theorem Genuine.told {worker : Worker F} (genuine : pipeline.Genuine worker)
    (stage : worker.Stage databases) {r : ScanResult F}
    (posted : r ∈ resultsOf worker.posted) :
    pipeline.Told databases worker.request r := by
  have reported {count : Nat} (le : count ≤ worker.futs.length)
      (spawned : worker.futs.map Future.port <+: worker.request.ports)
      (among : r ∈ resultsOf
        (reports databases worker.request.target worker.futs count ++
          worker.errors)) : pipeline.Told databases worker.request r := by
    rw [resultsOf_append, resultsOf_errors, List.append_nil,
      resultsOf_reports _ le] at among
    obtain ⟨fut, taken, kept⟩ := List.mem_filterMap.mp among
    exact genuine.told_of_kept spawned (List.mem_of_mem_take taken) kept
  cases scanning : worker.point.scanning with
  | true =>
      obtain ⟨spawned, count, le, front⟩ := stage.front scanning
      exact reported le spawned ((front.filterMap Event.result?).subset posted)
  | false =>
      obtain ⟨events, count, split, all⟩ := stage.ended scanning
      have quiet : resultsOf [(.scanFinished : Event F)] = [] := rfl
      rw [split, resultsOf_append, quiet, List.append_nil, all.events_eq] at posted
      exact reported all.le all.spawned posted

end Pipeline

end

end ScanController

namespace MainWindow

open ScanController (Future Pipeline)

variable {F : Type} [Floating F] {databases : ScanController.Databases F}
variable {toStdString : QString → Bytes} {makeAddress : Bytes → Option Address}
variable {dummy : List (ScanResult F)} {pipeline : Pipeline F}

/-- The pool of the controller completes futures by their tasks. -/
def Completes (pipeline : Pipeline F) (window : MainWindow F) : Action F → Prop
  | .background action => pipeline.Completes window.controller action
  | _ => True

theorem genuine_step {window next : MainWindow F} {action : Action F}
    (genuine : ∀ scan ∈ window.controller.scans, pipeline.Genuine scan)
    (completes : Completes pipeline window action)
    (stepped : window.step databases toStdString makeAddress action =
      some next) :
    ∀ scan ∈ next.controller.scans, pipeline.Genuine scan := by
  have moves := (step_moves stepped).2
  clear stepped
  have others {action : ScanController.Action F}
      {controller : ScanController.State F}
      (completes : pipeline.Completes window.controller action)
      (moved : window.controller.step databases action = some controller) :
      ∀ scan ∈ controller.scans, pipeline.Genuine scan :=
    Pipeline.genuine_step genuine completes moved
  cases moves with
  | threads moved starts cancels takes => exact others completes moved
  | take queued moved =>
      rw [receive_controller]
      exact others (by trivial) moved
  | demoScan moved => exact others (by trivial) moved
  | dialogScan isAccepted moved => exact others (by trivial) moved
  | dialog isOpen => exact genuine
  | sort perm => exact genuine
  | select row =>
      rw [(setCurrentIndex_sameData _ _).controller]
      exact genuine
  | click clicked =>
      rw [(pointClicked_sameData _ _).controller]
      exact genuine

/-- Whatever happens in whatever order, each row of the table behind the initial
data tells what the peer has answered to a task of one of the scans. -/
theorem run_told {actions : List (Action F)} {window : MainWindow F}
    (completes : Steps.Along (step databases toStdString makeAddress)
      (Completes pipeline) (construct dummy) actions)
    (ran : Steps.run (step databases toStdString makeAddress) (construct dummy)
      actions = some window) :
    ∃ rows, window.table.results = dummy ++ rows ∧
      ∀ r ∈ rows, ∃ scan ∈ window.controller.scans,
        pipeline.Told databases scan.request r := by
  have records := Steps.run_invariant
    (fun records stepped => Records.step records stepped) records_construct ran
  have genuine := Steps.run_preserves
    (fun genuine completes stepped => genuine_step genuine completes stepped)
    (fun _ none => absurd none List.not_mem_nil) completes ran
  refine ⟨_, records.rows, fun r delivered => ?_⟩
  obtain ⟨event, isDelivered, isResult⟩ := List.mem_filterMap.mp delivered
  have posted := List.mem_append_left window.controller.queue isDelivered
  rw [records.traffic.fifo] at posted
  obtain ⟨scan, member, fromScan⟩ := List.mem_flatMap.mp posted
  exact ⟨scan, member, (genuine scan member).told
    (records.traffic.stages scan member)
    (List.mem_filterMap.mpr ⟨event, fromScan, isResult⟩)⟩

/-! A scan of a web server, with hits in each of the databases. -/

def probing : Pipeline ℚ where
  sha256Hex _ := []
  timeout := 1000
  probes := some defaultProbes
  cves := some
    { entries := [⟨bytes "http", bytes "1.18", bytes "CVE-2021-23017", 77 / 10⟩] }

def labelled : ScanController.Databases ℚ where
  cdnProvider host := if host = bytes "127.0.0.1" then bytes "Lab" else []
  epss := { map := [(bytes "CVE-2021-23017", ⟨1 / 2, 9 / 10⟩)] }

def nginxAnswers : Script :=
  answers [.granted, .resolved [⟨bytes "127.0.0.1", 80⟩], .connected,
    .resolved [⟨bytes "127.0.0.1", 80⟩], .connected, .written,
    .received (bytes "HTTP/1.1 200 OK\r\nServer: nginx/1.18.0\r\n")] ++
  [.timer, .answer (.searched (.found
    [bytes "HTTP/1.1 200 OK\r\nServer: nginx/1.18.0", bytes "nginx/1.18.0"]))]

/-- What the task returns. -/
def nginxHttp : ScanResult ℚ where
  targetHost := bytes "127.0.0.1"
  port := 80
  state := .opened
  service :=
    { name := bytes "http"
      version := bytes "nginx/1.18.0"
      bannerRaw := bytes "HTTP/1.1 200 OK\r\nServer: nginx/1.18.0\r\n" }
  cves := [⟨bytes "CVE-2021-23017", [], 77 / 10, .high, 0, 0, false⟩]
  rtt := 1

def nginxRow : ScanResult ℚ :=
  { nginxHttp with
    cdn := bytes "Lab"
    cves := [⟨bytes "CVE-2021-23017", [], 77 / 10, .high, 1 / 2, 9 / 10, false⟩] }

theorem nginxHttp_comesTo :
    probing.ComesTo ⟨bytes "127.0.0.1", [80]⟩ 80 (.returned nginxHttp) :=
  ⟨nginxAnswers, 1, 0, by decide +kernel⟩

/-- Up to the wait for the task. -/
def untilGet : List (Action ℚ) :=
  [.openScanDialog, .acceptDialog dialogForHttp] ++
    List.replicate 3 (.background .ui) ++ List.replicate 4 (.background .worker)

/-- Up to the table. -/
def fromGet : List (Action ℚ) :=
  List.replicate 7 (.background .worker) ++
    List.replicate 3 (.background .take)

def probeHttp : List (Action ℚ) :=
  untilGet ++ .background (.complete 0 (.returned nginxHttp)) :: fromGet

theorem probeHttp_completes :
    Steps.Along (step labelled latin onlyLocalhost) (Completes probing)
      (construct []) probeHttp := by
  apply Steps.along_of_step
  · intro action member window
    simp only [untilGet, fromGet, List.replicate, List.cons_append,
      List.nil_append, List.mem_cons, List.not_mem_nil, or_false] at member
    rcases member with rfl | rfl | rfl | rfl | rfl | rfl | rfl | rfl | rfl | rfl |
      rfl | rfl | rfl | rfl | rfl | rfl | rfl | rfl | rfl <;> trivial
  · intro window ran worker fut present atIndex
    have waits : (Steps.run (step labelled latin onlyLocalhost) (construct [])
        untilGet).bind (fun window => window.controller.worker.map fun worker =>
          (worker.request, worker.futs.map Future.port)) =
          some (⟨bytes "127.0.0.1", [80]⟩, [80]) := by
      decide +kernel
    rw [ran, Option.bind_some, present, Option.map_some, Option.some_inj,
      Prod.mk.injEq] at waits
    obtain ⟨request, ports⟩ := waits
    have port : fut.port ∈ worker.futs.map Future.port :=
      List.mem_map_of_mem (List.mem_of_getElem? atIndex)
    rw [ports, List.mem_singleton] at port
    rw [request, port]
    exact nginxHttp_comesTo

theorem run_told_probeHttp : ∃ window,
    Steps.run (step labelled latin onlyLocalhost) (construct []) probeHttp =
        some window ∧
      window.table.results = [nginxRow] ∧
      ∃ scan ∈ window.controller.scans,
        probing.Told labelled scan.request nginxRow := by
  have ends : (Steps.run (step labelled latin onlyLocalhost) (construct [])
      probeHttp).map (fun window => window.table.results) =
        some [nginxRow] := by
    decide +kernel
  obtain ⟨window, ran, shows⟩ := Option.map_eq_some_iff.mp ends
  obtain ⟨rows, split, told⟩ := run_told probeHttp_completes ran
  rw [shows, List.nil_append] at split
  exact ⟨window, ran, shows, told nginxRow (split ▸ List.mem_singleton_self _)⟩

end MainWindow

end ServicePortScanner.Gui
