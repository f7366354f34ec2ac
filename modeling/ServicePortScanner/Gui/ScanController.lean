import ServicePortScanner.Data.Steps
import ServicePortScanner.Scan.ProbeFailure

namespace ServicePortScanner.Gui.ScanController

open ServicePortScanner.Data ServicePortScanner.Core ServicePortScanner.Fp
open ServicePortScanner.Net ServicePortScanner.Scan

/-! The controller between the UI thread and the worker thread of a scan.  Each
step is one access that the other thread can see. -/

structure Request where
  target : Bytes
  ports : List UInt16
  deriving DecidableEq, Repr

/-- A signal of the controller, with its arguments. -/
inductive Event (F : Type) where
  | resultReady (r : ScanResult F)
  | progressChanged (done total : Nat)
  | scanFinished
  | scanError (msg : Bytes)
  deriving DecidableEq, Repr

inductive Outcome (F : Type) where
  | returned (r : ScanResult F)
  | exception
  deriving DecidableEq, Repr

/-- A future of `futs`, and the port its task scans. -/
structure Future (F : Type) where
  port : UInt16
  outcome : Option (Outcome F) := none
  deriving DecidableEq, Repr

/-- Where the worker thread stands.  Each point names what comes next. -/
inductive Point (F : Type) where
  | startPool
  | checkSpawn (rest : List UInt16)
  | spawn (port : UInt16) (rest : List UInt16)
  | checkCollect (done : Nat)
  | get (done : Nat)
  | postResult (done : Nat) (r : ScanResult F)
  | postProgress (done : Nat)
  | stopPool
  | emitError (what : Bytes)
  | postFinished
  | clearRunning
  | leaving
  | exited
  deriving DecidableEq, Repr

/-- The scan of a request, with a record of a `cancelScan` during it and of an
exception outside the futures. -/
structure Job (F : Type) where
  request : Request
  futs : List (Future F) := []
  cancelled : Bool := false
  failed : Option Bytes := none
  deriving DecidableEq, Repr

/-- The thread in `worker_`, with a record of what it has posted. -/
structure Worker (F : Type) extends Job F where
  point : Point F := .startPool
  posted : List (Event F) := []
  deriving DecidableEq, Repr

/-- Where the UI thread stands in an accepted `startScan`. -/
inductive UiPoint where
  | idle
  | storeCancel (request : Request)
  | join (request : Request)
  | spawn (request : Request)
  deriving DecidableEq, Repr

inductive Connection where
  | direct
  | queued
  deriving DecidableEq, Repr

structure Emission (F : Type) where
  connection : Connection
  event : Event F
  deriving DecidableEq, Repr

/-- The controller and the event loop.  An event is being handled from its
emission on, and a handler may run an event loop of its own; it is kept with
the number of scans accepted until then. -/
structure State (F : Type) where
  running : Bool := false
  cancel : Bool := false
  worker : Option (Worker F) := none
  ui : UiPoint := .idle
  queue : List (Event F) := []
  handling : List (Event F × Nat) := []
  emitted : List (Emission F) := []
  accepted : List Request := []
  joined : List (Worker F) := []
  deriving DecidableEq, Repr

inductive Action (F : Type) where
  | startScan (request : Request)
  | cancelScan
  | ui
  | take
  | handled
  | worker
  | fail (what : Bytes)
  | complete (index : Nat) (outcome : Outcome F)
  deriving DecidableEq, Repr

def initial {F : Type} : State F := {}

/-- The databases the scans look hosts and CVEs up in. -/
structure Databases (F : Type) where
  cdnProvider : Bytes → Bytes
  epss : EpssDb F

section

variable {F : Type}

def Point.hasExited : Point F → Bool
  | .exited => true
  | _ => false

/-- The lambda of the thread has not stored `false` to `running_` yet. -/
def Point.beforeStore : Point F → Bool
  | .leaving | .exited => false
  | _ => true

/-- `runScan` has not posted `scanFinished` yet. -/
def Point.scanning : Point F → Bool
  | .clearRunning | .leaving | .exited => false
  | _ => true

def Point.mayFail : Point F → Bool
  | .startPool | .spawn .. => true
  | _ => false

def Point.storesRunning : Point F → Bool
  | .clearRunning => true
  | _ => false

/-- The task of a future scans the port of the future. -/
def Future.Accepts (fut : Future F) : Outcome F → Prop
  | .returned r => r.port = fut.port
  | .exception => True

instance (fut : Future F) : DecidablePred fut.Accepts := fun outcome => by
  cases outcome <;> simp only [Future.Accepts] <;> infer_instance

namespace Worker

def moveTo (worker : Worker F) (point : Point F) : Worker F :=
  { worker with point := point }

def post (worker : Worker F) (event : Event F) (point : Point F) : Worker F :=
  { worker with posted := worker.posted ++ [event], point := point }

/-- A record of `cancelScan`, where the scan has not finished. -/
def noteCancel (worker : Worker F) : Worker F :=
  { worker with cancelled := worker.cancelled || worker.point.scanning }

/-- An exception out of the pool or of a spawn takes the pool and the futures
with it. -/
def fail (worker : Worker F) (what : Bytes) : Option (Worker F) :=
  if worker.point.mayFail then
    some { worker with
      point := .emitError what
      futs := []
      failed := some what }
  else none

def complete (worker : Worker F) (index : Nat) (outcome : Outcome F) :
    Option (Worker F) :=
  match worker.futs[index]? with
  | some fut =>
      if fut.outcome.isNone ∧ fut.Accepts outcome then
        some { worker with
          futs := worker.futs.set index { fut with outcome := some outcome } }
      else none
  | none => none

variable [Floating F]

/-- One step of the worker thread, and the event it posts. -/
def step (databases : Databases F) (cancel : Bool) (worker : Worker F) :
    Option (Worker F × Option (Event F)) :=
  let total := worker.futs.length
  match worker.point with
  | .startPool => some (worker.moveTo (.checkSpawn worker.request.ports), none)
  | .checkSpawn [] => some (worker.moveTo (.checkCollect 0), none)
  | .checkSpawn (port :: rest) =>
      some (worker.moveTo (if cancel then .checkCollect 0 else .spawn port rest),
        none)
  | .spawn port rest =>
      some ({ worker with
        futs := worker.futs ++ [{ port := port }]
        point := .checkSpawn rest }, none)
  | .checkCollect done =>
      let next : Point F :=
        if total ≤ done then .stopPool
        else if cancel then .stopPool
        else .get done
      some (worker.moveTo next, none)
  | .get done =>
      match worker.futs[done]? with
      | some { outcome := some (.returned r), .. } =>
          let provider := databases.cdnProvider worker.request.target
          some (worker.moveTo
            (.postResult done (decorate provider databases.epss r)), none)
      | some { outcome := some .exception, .. } =>
          some (worker.moveTo (.postProgress done), none)
      | _ => none
  | .postResult done r =>
      some (worker.post (.resultReady r) (.postProgress done),
        some (.resultReady r))
  | .postProgress done =>
      -- `done` is counted up between the task and its event
      some (worker.post (.progressChanged (done + 1) total)
          (.checkCollect (done + 1)),
        some (.progressChanged (done + 1) total))
  | .stopPool =>
      -- a graceful stop joins the pool threads behind the last task
      if worker.futs.all (·.outcome.isSome) then
        some (worker.moveTo .postFinished, none)
      else none
  | .emitError what =>
      let event : Event F := .scanError (bytes "Scan error: " ++ what)
      some (worker.post event .postFinished, some event)
  | .postFinished =>
      some (worker.post .scanFinished .clearRunning, some .scanFinished)
  | .clearRunning => some (worker.moveTo .leaving, none)
  | .leaving => some (worker.moveTo .exited, none)
  | .exited => none

end Worker

namespace State

def emit (state : State F) (emission : Emission F) : State F :=
  { state with
    emitted := state.emitted ++ [emission]
    handling := (emission.event, state.accepted.length) :: state.handling }

def accept (state : State F) (request : Request) : State F :=
  { state with
    running := true
    ui := .storeCancel request
    accepted := state.accepted ++ [request] }

def rejection : Emission F :=
  ⟨.direct, .scanError (bytes "Scan already in progress")⟩

/-- The rest of an accepted `startScan`. -/
def stepUi (state : State F) : Option (State F) :=
  match state.ui with
  | .idle => none
  | .storeCancel request =>
      some { state with cancel := false, ui := .join request }
  | .join request =>
      match state.worker with
      | none => some { state with ui := .spawn request }
      | some worker =>
          if worker.point.hasExited then
            some { state with
              worker := none
              joined := state.joined ++ [worker]
              ui := .spawn request }
          else none
  | .spawn request =>
      some { state with worker := some { request := request }, ui := .idle }

/-- The event loop takes the first event off the queue. -/
def take (state : State F) : Option (State F) :=
  match state.queue with
  | [] => none
  | event :: rest => some ({ state with queue := rest }.emit ⟨.queued, event⟩)

def setWorker (state : State F) (worker : Worker F) : State F :=
  { state with worker := some worker }

variable [Floating F]

def stepWorker (databases : Databases F) (state : State F)
    (worker : Worker F) : Option (State F) :=
  match worker.step databases state.cancel with
  | none => none
  | some (worker', event) =>
      some { state with
        worker := some worker'
        queue := state.queue ++ event.toList
        running := state.running && !worker.point.storesRunning }

def step (databases : Databases F) (state : State F) :
    Action F → Option (State F)
  | .startScan request =>
      if state.ui = .idle then
        some (if state.running then state.emit rejection
          else state.accept request)
      else none
  | .cancelScan =>
      if state.ui = .idle then
        some { state with
          cancel := true
          worker := state.worker.map Worker.noteCancel }
      else none
  | .ui => state.stepUi
  | .take => if state.ui = .idle then state.take else none
  | .handled =>
      if state.ui = .idle then
        match state.handling with
        | [] => none
        | _ :: rest => some { state with handling := rest }
      else none
  | .worker => state.worker.bind (state.stepWorker databases)
  | .fail what =>
      (state.worker.bind (Worker.fail · what)).map state.setWorker
  | .complete index outcome =>
      (state.worker.bind (Worker.complete · index outcome)).map state.setWorker

end State

end

/-! The tasks are runs of `scan_one`. -/

section

variable {F : Type}

def outcome? (run : Run network Unit (ScanResult F)) : Option (Outcome F) :=
  match run.status with
  | .returned r => some (.returned r)
  | .threw _ => some .exception
  | .waiting _ => none

theorem accepts_scanOne [Floating F] {sha256Hex : Bytes → Bytes}
    {request : ScanRequest} {rtt timestamp : Int}
    {probes : Option (List ProbeVariant)} {cves : Option (CveDb F)}
    {script : Script} {fut : Future F} {outcome : Outcome F}
    (samePort : request.port = fut.port)
    (done : outcome? ((scanOne sha256Hex request rtt timestamp probes cves :
      Task Unit (ScanResult F)).run () script) = some outcome) :
    fut.Accepts outcome := by
  unfold outcome? at done
  split at done
  · next r returned =>
      cases done
      obtain ⟨state, identified⟩ := scanOne_returns.of_returned returned
      exact identified.samePort.2.trans samePort
  · cases done
    exact trivial
  · cases done

end

/-! What each step does. -/

section

variable {F : Type} [Floating F] {databases : Databases F}

namespace Worker

/-- The result a future gives the controller, as it is posted. -/
def kept (databases : Databases F) (target : Bytes) (fut : Future F) :
    Option (ScanResult F) :=
  match fut.outcome with
  | some (.returned r) =>
      some (decorate (databases.cdnProvider target) databases.epss r)
  | _ => none

theorem step_get {cancel : Bool} {worker : Worker F} {done : Nat}
    {result : Worker F × Option (Event F)} (waits : worker.point = .get done)
    (stepped : worker.step databases cancel = some result) :
    ∃ fut, worker.futs[done]? = some fut ∧ fut.outcome.isSome = true ∧
      result = (worker.moveTo (match kept databases worker.request.target fut with
        | some r => .postResult done r
        | none => .postProgress done), none) := by
  simp only [step, waits] at stepped
  split at stepped
  · next port r found =>
      exact ⟨_, found, rfl, (Option.some.inj stepped).symm⟩
  · next port found =>
      exact ⟨_, found, rfl, (Option.some.inj stepped).symm⟩
  · cases stepped

/-- What a step leaves of the other parts of the thread. -/
structure Follows (worker worker' : Worker F) (event : Option (Event F)) :
    Prop where
  request : worker'.request = worker.request
  cancelled : worker'.cancelled = worker.cancelled
  failed : worker'.failed = worker.failed
  posted : worker'.posted = worker.posted ++ event.toList
  beforeStore : worker'.point.beforeStore =
    (worker.point.beforeStore && !worker.point.storesRunning)
  scanning : worker'.point.scanning = true → worker.point.scanning = true
  futs : ∀ fut ∈ worker'.futs, fut ∈ worker.futs ∨ fut.outcome = none

omit [Floating F] in
theorem follows_moveTo {worker : Worker F} {point : Point F}
    (beforeStore : point.beforeStore =
      (worker.point.beforeStore && !worker.point.storesRunning))
    (scanning : point.scanning = true → worker.point.scanning = true) :
    worker.Follows (worker.moveTo point) none :=
  ⟨rfl, rfl, rfl, (List.append_nil _).symm, beforeStore, scanning,
    fun _ => .inl⟩

theorem step_follows {cancel : Bool} {worker worker' : Worker F}
    {event : Option (Event F)}
    (stepped : worker.step databases cancel = some (worker', event)) :
    worker.Follows worker' event := by
  cases here : worker.point with
  | get done =>
      obtain ⟨fut, _, _, same⟩ := step_get here stepped
      cases same
      apply follows_moveTo
      · rw [here]
        split <;> rfl
      · intro _
        rw [here]
        rfl
  | checkSpawn rest =>
      cases rest with
      | nil =>
          simp only [step, here] at stepped
          cases stepped
          apply follows_moveTo <;> simp [here, Point.beforeStore,
            Point.storesRunning, Point.scanning]
      | cons port rest =>
          simp only [step, here] at stepped
          cases stepped
          apply follows_moveTo <;> cases cancel <;> simp [here,
            Point.beforeStore, Point.storesRunning, Point.scanning]
  | checkCollect done =>
      simp only [step, here] at stepped
      cases stepped
      apply follows_moveTo <;> split_ifs <;> simp [here, Point.beforeStore,
        Point.storesRunning, Point.scanning]
  | stopPool =>
      simp only [step, here] at stepped
      obtain ⟨_, same⟩ := Option.ite_none_right_eq_some.mp stepped
      cases same
      apply follows_moveTo <;> simp [here, Point.beforeStore,
        Point.storesRunning, Point.scanning]
  | exited =>
      simp only [step, here] at stepped
      cases stepped
  | _ =>
      simp only [step, here] at stepped
      cases stepped
      constructor <;> simp +contextual [here, moveTo, post, or_imp,
        Point.beforeStore, Point.storesRunning, Point.scanning]

omit [Floating F] in
theorem noteCancel_of_finished {worker : Worker F}
    (finished : worker.point.scanning = false) : worker.noteCancel = worker := by
  rw [Worker.noteCancel, finished, Bool.or_false]

end Worker

namespace State

theorem step_cases {state next : State F} {action : Action F}
    (stepped : state.step databases action = some next) :
    match action with
    | .startScan request => state.ui = .idle ∧
        ((state.running = true ∧ next = state.emit rejection) ∨
          (state.running = false ∧ next = state.accept request))
    | .cancelScan => state.ui = .idle ∧ next = { state with
        cancel := true
        worker := state.worker.map Worker.noteCancel }
    | .ui => (∃ request, state.ui = .storeCancel request ∧
          next = { state with cancel := false, ui := .join request }) ∨
        (∃ request, state.ui = .join request ∧ state.worker = none ∧
          next = { state with ui := .spawn request }) ∨
        (∃ request worker, state.ui = .join request ∧
          state.worker = some worker ∧ worker.point.hasExited = true ∧
          next = { state with
            worker := none
            joined := state.joined ++ [worker]
            ui := .spawn request }) ∨
        (∃ request, state.ui = .spawn request ∧ next = { state with
          worker := some { request := request }
          ui := .idle })
    | .take => state.ui = .idle ∧ ∃ event rest, state.queue = event :: rest ∧
        next = ({ state with queue := rest }.emit ⟨.queued, event⟩)
    | .handled => state.ui = .idle ∧ ∃ entry rest,
        state.handling = entry :: rest ∧ next = { state with handling := rest }
    | .worker => ∃ worker worker' event, state.worker = some worker ∧
        worker.step databases state.cancel = some (worker', event) ∧
        next = { state with
          worker := some worker'
          queue := state.queue ++ event.toList
          running := state.running && !worker.point.storesRunning }
    | .fail what => ∃ worker, state.worker = some worker ∧
        worker.point.mayFail = true ∧ next = state.setWorker { worker with
          point := .emitError what
          futs := []
          failed := some what }
    | .complete index outcome => ∃ worker fut, state.worker = some worker ∧
        worker.futs[index]? = some fut ∧ fut.outcome = none ∧
        fut.Accepts outcome ∧ next = state.setWorker { worker with
          futs := worker.futs.set index { fut with outcome := some outcome } } := by
  cases action with
  | startScan request =>
      obtain ⟨idle, same⟩ := Option.ite_none_right_eq_some.mp stepped
      refine ⟨idle, ?_⟩
      cases running : state.running with
      | true => exact .inl ⟨rfl, by simpa [running] using same.symm⟩
      | false => exact .inr ⟨rfl, by simpa [running] using same.symm⟩
  | cancelScan =>
      obtain ⟨idle, same⟩ := Option.ite_none_right_eq_some.mp stepped
      exact ⟨idle, (Option.some.inj same).symm⟩
  | ui =>
      simp only [step, stepUi] at stepped
      split at stepped
      · cases stepped
      · next request here =>
          exact .inl ⟨request, here, (Option.some.inj stepped).symm⟩
      · next request here =>
          split at stepped
          · next absent =>
              exact .inr (.inl
                ⟨request, here, absent, (Option.some.inj stepped).symm⟩)
          · next worker present =>
              obtain ⟨exited, same⟩ :=
                Option.ite_none_right_eq_some.mp stepped
              exact .inr (.inr (.inl ⟨request, worker, here, present, exited,
                (Option.some.inj same).symm⟩))
      · next request here =>
          exact .inr (.inr (.inr
            ⟨request, here, (Option.some.inj stepped).symm⟩))
  | take =>
      obtain ⟨idle, same⟩ := Option.ite_none_right_eq_some.mp stepped
      simp only [take] at same
      split at same
      · cases same
      · next event rest queued =>
          exact ⟨idle, event, rest, queued, (Option.some.inj same).symm⟩
  | handled =>
      obtain ⟨idle, same⟩ := Option.ite_none_right_eq_some.mp stepped
      split at same
      · cases same
      · next entry rest handling =>
          exact ⟨idle, entry, rest, handling, (Option.some.inj same).symm⟩
  | worker =>
      obtain ⟨worker, present, same⟩ := Option.bind_eq_some_iff.mp stepped
      simp only [stepWorker] at same
      split at same
      · cases same
      · next worker' event moved =>
          exact ⟨worker, worker', event, present, moved,
            (Option.some.inj same).symm⟩
  | fail what =>
      obtain ⟨failed, found, same⟩ := Option.map_eq_some_iff.mp stepped
      obtain ⟨worker, present, fails⟩ := Option.bind_eq_some_iff.mp found
      obtain ⟨mayFail, made⟩ := Option.ite_none_right_eq_some.mp fails
      refine ⟨worker, present, mayFail, ?_⟩
      rw [← same, ← Option.some.inj made]
  | complete index outcome =>
      obtain ⟨completed, found, same⟩ := Option.map_eq_some_iff.mp stepped
      obtain ⟨worker, present, completes⟩ := Option.bind_eq_some_iff.mp found
      simp only [Worker.complete] at completes
      split at completes
      · next fut atIndex =>
          obtain ⟨⟨pending, fits⟩, made⟩ :=
            Option.ite_none_right_eq_some.mp completes
          refine ⟨worker, fut, present, atIndex, ?_, fits, ?_⟩
          · exact Option.isNone_iff_eq_none.mp pending
          · rw [← same, ← Option.some.inj made]
      · cases completes

/-- What the flags say about the two threads. -/
structure Control (state : State F) : Prop where
  running_iff : state.running = true ↔ state.ui ≠ .idle ∨
    ∃ worker, state.worker = some worker ∧ worker.point.beforeStore = true
  starting : ∀ worker, state.ui ≠ .idle → state.worker = some worker →
    worker.point.beforeStore = false
  spawning : ∀ request, state.ui = .spawn request →
    state.worker = none ∧ state.cancel = false
  joining : ∀ request, state.ui = .join request → state.cancel = false
  noted : ∀ worker, state.ui = .idle → state.worker = some worker →
    worker.point.scanning = true → state.cancel = true →
    worker.cancelled = true

omit [Floating F] in
theorem control_initial : (initial : State F).Control where
  running_iff := by simp [initial]
  starting := by simp [initial]
  spawning := by simp [initial]
  joining := by simp [initial]
  noted := by simp [initial]

omit [Floating F] in
/-- A thread that stays where it is with respect to both flags changes
nothing. -/
theorem Control.setWorker {state : State F} (control : state.Control)
    {worker worker' : Worker F} (present : state.worker = some worker)
    (beforeStore : worker'.point.beforeStore = worker.point.beforeStore)
    (scanning : worker'.point.scanning = true → worker.point.scanning = true)
    (cancelled : worker'.cancelled = worker.cancelled) :
    (state.setWorker worker').Control where
  running_iff := by
    rw [show (state.setWorker worker').running = state.running from rfl,
      control.running_iff]
    simp [State.setWorker, present, beforeStore]
  starting := by
    rintro _ busy ⟨⟩
    rw [beforeStore]
    exact control.starting worker busy present
  spawning := by
    intro request here
    have absent := (control.spawning request here).1
    rw [present] at absent
    cases absent
  joining := control.joining
  noted := by
    rintro _ idle ⟨⟩ scans cancel
    rw [cancelled]
    exact control.noted worker idle present (scanning scans) cancel

omit [Floating F] in
theorem Control.idle_of_not_running {state : State F} (control : state.Control)
    (stopped : state.running = false) : state.ui = .idle := by
  by_contra busy
  have running := control.running_iff.mpr (.inl busy)
  rw [stopped] at running
  cases running

theorem Control.step {state next : State F} {action : Action F}
    (control : state.Control)
    (stepped : state.step databases action = some next) : next.Control := by
  have cases := step_cases stepped
  cases action with
  | startScan request =>
      obtain ⟨idle, ⟨_, rfl⟩ | ⟨stopped, rfl⟩⟩ := cases
      · exact ⟨control.running_iff, control.starting, control.spawning,
          control.joining, control.noted⟩
      · refine ⟨by simp [accept], ?_, by simp [accept], by simp [accept],
          by simp [accept]⟩
        intro worker _ present
        by_contra before
        have running := control.running_iff.mpr
          (.inr ⟨worker, present, by simpa using before⟩)
        rw [stopped] at running
        cases running
  | cancelScan =>
      obtain ⟨idle, rfl⟩ := cases
      refine ⟨?_, ?_, ?_, ?_, ?_⟩
      · rw [show ({ state with
            cancel := true
            worker := state.worker.map Worker.noteCancel } : State F).running =
          state.running from rfl, control.running_iff]
        simp [Worker.noteCancel]
      · intro worker busy
        exact absurd idle busy
      · intro request here
        rw [show state.ui = .spawn request from here] at idle
        cases idle
      · intro request here
        rw [show state.ui = .join request from here] at idle
        cases idle
      · intro worker _ present scans _
        obtain ⟨before, _, rfl⟩ := Option.map_eq_some_iff.mp present
        have scanning : before.point.scanning = true := scans
        simp [Worker.noteCancel, scanning]
  | ui =>
      rcases cases with ⟨request, here, rfl⟩ | ⟨request, here, absent, rfl⟩ |
        ⟨request, worker, here, present, exited, rfl⟩ | ⟨request, here, rfl⟩
      · have busy : state.ui ≠ .idle := by simp [here]
        refine ⟨?_, ?_, by simp, by simp, by simp⟩
        · simpa [busy] using control.running_iff
        · intro worker _ present
          exact control.starting worker busy present
      · have busy : state.ui ≠ .idle := by simp [here]
        have off := control.joining request here
        refine ⟨?_, by simp [absent], by simp [absent, off], by simp, by simp⟩
        simpa [busy] using control.running_iff
      · have busy : state.ui ≠ .idle := by simp [here]
        have off := control.joining request here
        refine ⟨?_, by simp, by simp [off], by simp, by simp⟩
        simpa [busy] using control.running_iff
      · have busy : state.ui ≠ .idle := by simp [here]
        have off := (control.spawning request here).2
        refine ⟨?_, by simp, by simp, by simp, by simp [off]⟩
        simpa [busy, Point.beforeStore] using control.running_iff
  | take =>
      obtain ⟨_, event, rest, _, rfl⟩ := cases
      exact ⟨control.running_iff, control.starting, control.spawning,
        control.joining, control.noted⟩
  | handled =>
      obtain ⟨_, entry, rest, _, rfl⟩ := cases
      exact ⟨control.running_iff, control.starting, control.spawning,
        control.joining, control.noted⟩
  | worker =>
      obtain ⟨worker, worker', event, present, moved, rfl⟩ := cases
      have follows := Worker.step_follows moved
      refine ⟨?_, ?_, ?_, control.joining, ?_⟩
      · have running := control.running_iff
        simp only [present, Option.some.injEq, exists_eq_left'] at running
        simp only [Option.some.injEq, exists_eq_left', follows.beforeStore,
          Bool.and_eq_true]
        constructor
        · rintro ⟨on, silent⟩
          rcases running.mp on with busy | before
          · exact .inl busy
          · exact .inr ⟨before, silent⟩
        · rintro (busy | ⟨before, silent⟩)
          · refine ⟨running.mpr (.inl busy), ?_⟩
            have stored := control.starting worker busy present
            cases here : worker.point <;>
              simp_all [Point.beforeStore, Point.storesRunning]
          · exact ⟨running.mpr (.inr before), silent⟩
      · rintro _ busy ⟨⟩
        rw [follows.beforeStore, control.starting worker busy present]
        rfl
      · intro request here
        have absent := (control.spawning request here).1
        rw [present] at absent
        cases absent
      · rintro _ idle ⟨⟩ scans cancel
        rw [follows.cancelled]
        exact control.noted worker idle present (follows.scanning scans) cancel
  | fail what =>
      obtain ⟨worker, present, mayFail, rfl⟩ := cases
      have early : worker.point.beforeStore = true ∧
          worker.point.scanning = true := by
        cases here : worker.point <;> simp_all [Point.mayFail,
          Point.beforeStore, Point.scanning]
      exact control.setWorker present early.1.symm (fun _ => early.2) rfl
  | complete index outcome =>
      obtain ⟨worker, fut, present, _, _, _, rfl⟩ := cases
      exact control.setWorker present rfl id rfl

end State

end

end ServicePortScanner.Gui.ScanController
