import ServicePortScanner.Core.Result
import ServicePortScanner.Net.Network

namespace ServicePortScanner.Core

open ServicePortScanner.Data ServicePortScanner.Net

/-! The TCP connect scan of a single port. -/

structure ScanRequest where
  host : Bytes
  port : UInt16
  /-- in milliseconds -/
  timeout : Nat
  deriving DecidableEq, Repr

/-- `std::to_string` of a port. -/
def portText (port : UInt16) : Bytes :=
  decimal port.toNat

def doConnect {σ : Type} (request : ScanRequest) : Task σ Bool := do
  match ← asyncResolve request.host (portText request.port) with
  | none => return false
  | some results => asyncConnect results

/-- `timestamp` is what the system clock reads. -/
def makeResult {F : Type} (request : ScanRequest) (state : PortState)
    (timestamp : Int) : ScanResult F where
  targetHost := request.host
  port := request.port
  state := state
  timestamp := timestamp

def connectScan {σ F : Type} (request : ScanRequest) (timestamp : Int) :
    Task σ (ScanResult F) := do
  match ← Co.race request.timeout (doConnect request) with
  | none => return makeResult request .filtered timestamp
  | some false => return makeResult request .closed timestamp
  | some true => return makeResult request .opened timestamp

/-! When a port is reported open. -/

section

variable {σ F : Type}

/-- One of the endpoints accepts before the timer expires. -/
def connectsTo : List Endpoint → Script → Bool
  | _ :: endpoints, .answer answer :: script =>
      match answer.connection? with
      | some true => true
      | some false => connectsTo endpoints script
      | none => false
  | _, _ => false

def connects : Script → Bool
  | .answer (.resolved endpoints) :: script => connectsTo endpoints script
  | _ => false

theorem race_asyncConnect_cons (timeout : Nat) (endpoint : Endpoint)
    (endpoints : List Endpoint) (store : σ) (script : Script) :
    (Co.race timeout (asyncConnect (endpoint :: endpoints))).run store script =
      Run.after (match script with
        | [] => ⟨[], [], store, .waiting ⟨Operation.connect endpoint, some timeout⟩⟩
        | .timer :: rest => ⟨[], rest, store, .returned none⟩
        | .answer answer :: rest =>
            match answer.connection? with
            | some true => ⟨[], rest, store, .returned (some true)⟩
            | some false => (Co.race timeout (asyncConnect endpoints)).run store rest
            | none => ⟨[], script, store,
                .waiting ⟨Operation.connect endpoint, some timeout⟩⟩)
        [.attempt endpoint] := by
  rw [asyncConnect, Co.race_run_emit, Co.race_run_await]
  congr 1
  split
  · rfl
  · rfl
  · split
    · next connected accepted => cases connected <;> simp [Co.race_run_pure, *]
    · next accepted => simp [accepted]

theorem race_doConnect (request : ScanRequest) (store : σ)
    (script : Script) :
    (Co.race request.timeout (doConnect request)).run store script =
      match script with
      | [] => ⟨[], [], store, .waiting
          ⟨Operation.resolve request.host (portText request.port),
            some request.timeout⟩⟩
      | .timer :: rest => ⟨[], rest, store, .returned none⟩
      | .answer answer :: rest =>
          match answer.resolution? with
          | some (some endpoints) =>
              (Co.race request.timeout (asyncConnect endpoints)).run store rest
          | some none => ⟨[], rest, store, .returned (some false)⟩
          | none => ⟨[], script, store, .waiting
              ⟨Operation.resolve request.host (portText request.port),
                some request.timeout⟩⟩ := by
  rw [doConnect, asyncResolve, Co.race_run_await]
  split
  · rfl
  · rfl
  · split
    · next results accepted => cases results <;> simp [Co.race_run_pure, *]
    · next accepted => simp [accepted]

theorem race_asyncConnect_status (timeout : Nat) (endpoints : List Endpoint)
    (store : σ) (script : Script) :
    ((Co.race timeout (asyncConnect endpoints)).run store script).status =
        .returned (some true) ↔ connectsTo endpoints script = true := by
  induction endpoints generalizing script with
  | nil => simp [asyncConnect, Co.race_run_pure, connectsTo]
  | cons endpoint endpoints induction =>
      rw [race_asyncConnect_cons, Run.after_status]
      cases script with
      | nil => simp [connectsTo]
      | cons signal rest =>
          cases signal with
          | timer => simp [connectsTo]
          | answer answer =>
              cases accepted : answer.connection? with
              | none => simp [connectsTo, accepted]
              | some connected =>
                  cases connected with
                  | true => simp [connectsTo, accepted]
                  | false => simpa [connectsTo, accepted] using induction rest

theorem race_asyncConnect_front {timeout : Nat} {endpoints : List Endpoint}
    {script : Script}
    (accepts : connectsTo endpoints script = true) (store : σ) :
    ∃ front rest trace, script = front ++ rest ∧ ∀ later,
      (Co.race timeout (asyncConnect endpoints)).run store (front ++ later) =
        ⟨trace, later, store, .returned (some true)⟩ := by
  induction endpoints generalizing script with
  | nil => simp [connectsTo] at accepts
  | cons endpoint endpoints induction =>
      cases script with
      | nil => simp [connectsTo] at accepts
      | cons signal rest =>
          cases signal with
          | timer => simp [connectsTo] at accepts
          | answer answer =>
              cases accepted : answer.connection? with
              | none => simp [connectsTo, accepted] at accepts
              | some connected =>
                  cases connected with
                  | true =>
                      refine ⟨[.answer answer], rest, [.attempt endpoint], rfl, ?_⟩
                      intro later
                      rw [race_asyncConnect_cons]
                      simp [accepted, Run.after]
                  | false =>
                      simp only [connectsTo, accepted] at accepts
                      obtain ⟨front, behind, trace, rfl, runs⟩ :=
                        induction accepts
                      refine ⟨.answer answer :: front, behind,
                        .attempt endpoint :: trace, rfl, ?_⟩
                      intro later
                      rw [race_asyncConnect_cons]
                      simp [accepted, runs, Run.after]

/-! The scan reports a port open exactly where it connects. -/

/-- The state a race comes out with, where the timer is the second racer. -/
def portState : Option Bool → PortState
  | none => .filtered
  | some false => .closed
  | some true => .opened

theorem connectScan_eq (request : ScanRequest) (timestamp : Int) :
    (connectScan request timestamp : Task σ (ScanResult F)) =
      Co.race request.timeout (doConnect request) >>= fun which =>
        pure (makeResult request (portState which) timestamp) := by
  unfold connectScan
  congr 1
  funext which
  match which with
  | none => rfl
  | some false => rfl
  | some true => rfl

theorem race_doConnect_status (request : ScanRequest) (store : σ)
    (script : Script) :
    ((Co.race request.timeout (doConnect request)).run store script).status =
        .returned (some true) ↔ connects script = true := by
  rw [race_doConnect]
  cases script with
  | nil => simp [connects]
  | cons signal rest =>
      cases signal with
      | timer => simp [connects]
      | answer answer =>
          cases answer with
          | resolved endpoints =>
              exact race_asyncConnect_status request.timeout endpoints store rest
          | _ => simp [connects, Answer.resolution?]

theorem race_doConnect_front {request : ScanRequest}
    {script : Script} (accepts : connects script = true)
    (store : σ) :
    ∃ front rest trace, script = front ++ rest ∧ ∀ later,
      (Co.race request.timeout (doConnect request)).run store (front ++ later) =
        ⟨trace, later, store, .returned (some true)⟩ := by
  unfold connects at accepts
  split at accepts
  · next endpoints rest =>
      obtain ⟨front, behind, trace, rfl, runs⟩ :=
        race_asyncConnect_front accepts store
      refine ⟨.answer (.resolved endpoints) :: front, behind, trace, rfl, ?_⟩
      intro later
      rw [race_doConnect]
      exact runs later
  · cases accepts

theorem connectScan_trace (request : ScanRequest) (timestamp : Int) (store : σ)
    (script : Script) :
    ((connectScan request timestamp :
        Task σ (ScanResult F)).run store script).trace =
      ((Co.race request.timeout (doConnect request)).run store script).trace := by
  rw [connectScan_eq, Co.bind_run]
  split <;> simp

/-- An accepting script has a front on which the scan is done, and reports the
port open. -/
theorem connectScan_front {request : ScanRequest} {timestamp : Int}
    {script : Script} (accepts : connects script = true)
    (store : σ) :
    ∃ front rest trace, script = front ++ rest ∧ ∀ later,
      (connectScan request timestamp : Task σ (ScanResult F)).run store
          (front ++ later) =
        ⟨trace, later, store,
          .returned (makeResult request .opened timestamp)⟩ := by
  obtain ⟨front, rest, trace, split, runs⟩ := race_doConnect_front accepts store
  refine ⟨front, rest, trace, split, ?_⟩
  intro later
  rw [connectScan_eq, Co.bind_run, runs later]
  simp [portState, Run.after]

theorem connectScan_state {request : ScanRequest} {timestamp : Int}
    {store : σ} {script : Script} {base : ScanResult F}
    (rejects : connects script = false)
    (returned : ((connectScan request timestamp).run store script).status =
      .returned base) : base.state ≠ .opened := by
  have undecided := mt (race_doConnect_status request store script).mp
    (by simp [rejects])
  rw [connectScan_eq, Co.bind_run] at returned
  split at returned
  · next which status =>
      cases returned
      rcases which with _ | _ | _
      · simp [portState, makeResult]
      · simp [portState, makeResult]
      · exact (undecided status).elim
  · cases returned
  · cases returned

end

end ServicePortScanner.Core
