import ServicePortScanner.Gui.ScanProtocol

namespace ServicePortScanner.Gui.ScanController

open ServicePortScanner.Data ServicePortScanner.Core ServicePortScanner.Fp

/-! Whether a handler of `scanFinished` finds the controller idle. -/

section

variable {F : Type}

namespace State

def isScanning (state : State F) : Bool :=
  state.running

/-- The event loop takes a `scanFinished` only where no worker thread is before
its store to `running_`: neither the one that has posted it, nor that of a scan
accepted since. -/
def Prompt (state : State F) (action : Action F) : Prop :=
  action = .take → state.queue.head? = some .scanFinished →
    ∀ worker, state.worker = some worker → worker.point.beforeStore = false

/-- The numbers kept with the events are from before. -/
def Numbered (state : State F) : Prop :=
  ∀ entry ∈ state.handling, entry.2 ≤ state.accepted.length

variable [Floating F]

/-- While a handler of `scanFinished` has started no scan yet, there is none
and it can start one. -/
def FinishedIsIdle (databases : Databases F) (state : State F) : Prop :=
  (.scanFinished, state.accepted.length) ∈ state.handling →
    state.isScanning = false ∧ ∀ request,
      state.step databases (.startScan request) = some (state.accept request)

variable {databases : Databases F}

theorem finishedIsIdle_iff_running {state : State F} (control : state.Control) :
    state.FinishedIsIdle databases ↔
      ((.scanFinished, state.accepted.length) ∈ state.handling →
        state.running = false) := by
  constructor
  · intro idle handles
    exact (idle handles).1
  · intro stopped handles
    refine ⟨stopped handles, ?_⟩
    intro request
    have idle := control.idle_of_not_running (stopped handles)
    simp [State.step, idle, stopped handles]

theorem Numbered.step {state next : State F} {action : Action F}
    (numbered : state.Numbered)
    (stepped : state.step databases action = some next) : next.Numbered := by
  have emitted (emission : Emission F) : (state.emit emission).Numbered := by
    intro entry member
    rcases List.mem_cons.mp member with rfl | old
    · exact le_refl _
    · exact numbered entry old
  have cases := step_cases stepped
  cases action with
  | startScan request =>
      obtain ⟨_, ⟨_, rfl⟩ | ⟨_, rfl⟩⟩ := cases
      · exact emitted rejection
      · intro entry member
        have before := numbered entry member
        simp only [accept, List.length_append, List.length_singleton]
        omega
  | cancelScan =>
      obtain ⟨_, rfl⟩ := cases
      exact numbered
  | ui =>
      rcases cases with ⟨_, _, rfl⟩ | ⟨_, _, _, rfl⟩ | ⟨_, _, _, _, _, rfl⟩ |
        ⟨_, _, rfl⟩ <;> exact numbered
  | take =>
      obtain ⟨_, event, rest, _, rfl⟩ := cases
      exact emitted ⟨.queued, event⟩
  | handled =>
      obtain ⟨_, entry, rest, handling, rfl⟩ := cases
      intro other member
      exact numbered other (handling ▸ List.mem_cons_of_mem entry member)
  | worker =>
      obtain ⟨_, _, _, _, _, rfl⟩ := cases
      exact numbered
  | fail what =>
      obtain ⟨_, _, _, rfl⟩ := cases
      exact numbered
  | complete index outcome =>
      obtain ⟨_, _, _, _, _, _, rfl⟩ := cases
      exact numbered

theorem running_of_prompt {state next : State F} {action : Action F}
    (control : state.Control) (numbered : state.Numbered)
    (idle : (.scanFinished, state.accepted.length) ∈ state.handling →
      state.running = false)
    (prompt : state.Prompt action)
    (stepped : state.step databases action = some next) :
    (.scanFinished, next.accepted.length) ∈ next.handling →
      next.running = false := by
  have cases := step_cases stepped
  cases action with
  | startScan request =>
      obtain ⟨_, ⟨_, rfl⟩ | ⟨_, rfl⟩⟩ := cases
      · intro handles
        rcases List.mem_cons.mp handles with other | old
        · cases other
        · exact idle old
      · intro handles
        have before := numbered _ handles
        simp [accept] at before
  | cancelScan =>
      obtain ⟨_, rfl⟩ := cases
      exact idle
  | ui =>
      rcases cases with ⟨_, _, rfl⟩ | ⟨_, _, _, rfl⟩ | ⟨_, _, _, _, _, rfl⟩ |
        ⟨_, _, rfl⟩ <;> exact idle
  | take =>
      obtain ⟨notBusy, event, rest, queued, rfl⟩ := cases
      intro handles
      rcases List.mem_cons.mp handles with new | old
      · have finished : event = .scanFinished := congrArg Prod.fst new.symm
        have settled := prompt rfl (by rw [queued, finished]; rfl)
        by_contra running
        have on : state.running = true :=
          Bool.not_eq_false _ |>.mp running
        rcases control.running_iff.mp on with busy | ⟨worker, present, before⟩
        · exact busy notBusy
        · rw [settled worker present] at before
          cases before
      · exact idle old
  | handled =>
      obtain ⟨_, entry, rest, handling, rfl⟩ := cases
      intro handles
      exact idle (handling ▸ List.mem_cons_of_mem entry handles)
  | worker =>
      obtain ⟨worker, _, _, _, _, rfl⟩ := cases
      intro handles
      have stopped : state.running = false := idle handles
      rw [show state.running = false from stopped, Bool.false_and]
  | fail what =>
      obtain ⟨_, _, _, rfl⟩ := cases
      exact idle
  | complete index outcome =>
      obtain ⟨_, _, _, _, _, _, rfl⟩ := cases
      exact idle

theorem prompt_of_idle {state : State F} {action : Action F}
    (control : state.Control)
    (onward : ∀ next, state.step databases action = some next →
      (.scanFinished, next.accepted.length) ∈ next.handling →
        next.running = false) : state.Prompt action := by
  rintro rfl front worker present
  by_cases idle : state.ui = .idle
  · cases queued : state.queue with
    | nil =>
        rw [queued] at front
        cases front
    | cons event rest =>
        rw [queued] at front
        cases front
        have stopped := onward _ (by
          simp only [State.step, idle, if_true, State.take, queued]; rfl)
          List.mem_cons_self
        exact control.settled stopped present
  · exact control.starting worker idle present

end State

variable [Floating F]

/-- A run finds the controller idle in every handler of `scanFinished` if and
only if it takes each of these events behind the store of every thread there
is. -/
theorem finishedIsIdle_iff (databases : Databases F)
    (actions : List (Action F)) :
    Steps.Always (State.step databases) (State.FinishedIsIdle databases)
        initial actions ↔
      Steps.Along (State.step databases) State.Prompt initial actions := by
  have preserved {state next : State F} {action : Action F}
      (holds : state.Control ∧ state.Numbered)
      (stepped : state.step databases action = some next) :
      next.Control ∧ next.Numbered :=
    ⟨holds.1.step stepped, holds.2.step stepped⟩
  apply Steps.always_iff_along preserved
  · intro state next action holds idle prompt stepped
    have control := (preserved holds stepped).1
    rw [State.finishedIsIdle_iff_running control]
    exact State.running_of_prompt holds.1 holds.2
      ((State.finishedIsIdle_iff_running holds.1).mp idle) prompt stepped
  · intro state action holds _ onward
    apply State.prompt_of_idle holds.1
    intro next stepped
    have control := (preserved holds stepped).1
    exact (State.finishedIsIdle_iff_running control).mp (onward next stepped)
  · exact ⟨State.control_initial, nofun⟩
  · exact nofun

end

/-! The event that overtakes the store. -/

/-- The UI thread gets to the last event before the worker thread goes on. -/
def overtaking : List (Action ℚ) :=
  scanTwoPorts ++ [.take, .handled, .take, .handled, .take, .handled, .take]

/-- The handler of `scanFinished` sees a scan running, and cannot start one. -/
theorem overtaking_not_idle :
    ∃ state, Steps.run (State.step noDatabases) initial overtaking = some state ∧
      (.scanFinished, state.accepted.length) ∈ state.handling ∧
      state.isScanning = true ∧
      state.step noDatabases (.startScan localhost) =
        some (state.emit State.rejection) := by
  refine ⟨(Steps.run (State.step noDatabases) initial overtaking).get
    (by decide +kernel), ?_⟩
  decide +kernel

end ServicePortScanner.Gui.ScanController
