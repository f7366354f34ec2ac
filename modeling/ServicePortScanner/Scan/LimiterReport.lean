import ServicePortScanner.Net.AdaptiveRate
import ServicePortScanner.Scan.PortReport

namespace ServicePortScanner.Scan

open ServicePortScanner.Data ServicePortScanner.Core ServicePortScanner.Net
open ServicePortScanner.Fp ServicePortScanner.Probes

/-! What a task reports to the limiter. -/

def reported? : Action → Option Response
  | .respond rtt wasLoss => some ⟨rtt, wasLoss⟩
  | _ => none

/-- The tasks report nothing. -/
def unreported : Co.Contract network where
  relies _ := True
  guarantees
    | .respond .. => False
    | _ => True

/-- The state that the connect scan has found by now. -/
def scanned? (request : ScanRequest) (script : Script) : Option PortState :=
  match ((Co.race request.timeout (doConnect request) :
      Task Unit (Option Bool)).run () script).status with
  | .returned which => some (portState which)
  | _ => none

theorem unreported_lets : Lets unreported fun _ => True where
  resolved _ _ _ _ := trivial
  attempt _ _ := trivial
  fed _ := trivial

theorem reports_of_unreported {σ α : Type} {body : Task σ α}
    {post : α → Prop} (keeps : Co.Keeps unreported post body) (store : σ)
    (script : Script) :
    (body.run store script).trace.filterMap reported? = [] := by
  have relied : unreported.Relied script := fun _ _ => trivial
  have quiet := (keeps.of_relied relied store).1
  rw [List.filterMap_eq_nil_iff]
  intro action member
  have allowed := quiet action member
  cases action with
  | respond rtt wasLoss => exact allowed.elim
  | _ => rfl

section

variable {request : ScanRequest} {script : Script} {state : PortState}

theorem scanned?_eq_some :
    scanned? request script = some state ↔ Answers script state := by
  unfold scanned?
  constructor
  · intro found
    split at found
    · next which returned =>
        cases found
        exact (race_doConnect_returned request () script which).mp returned
    · cases found
  · intro answers
    obtain ⟨which, rfl⟩ := exists_portState answers
    rw [(race_doConnect_returned request () script which).mpr answers]

/-- Once a state is found, it stays. -/
theorem scanned?_append (found : scanned? request script = some state)
    (later : Script) : scanned? request (script ++ later) = some state := by
  unfold scanned? at found ⊢
  split at found
  · next which returned =>
      have settled := (Co.race request.timeout (doConnect request) :
        Task Unit (Option Bool)).settled () script later
          (Run.not_suspended_of_returned returned)
      rw [settled]
      simp only [Run.extend, returned]
      exact found
  · cases found

end

section

variable {sha256Hex : Bytes → Bytes} {F : Type} [Floating F]
variable {request : ScanRequest} {rtt timestamp : Int}
variable {probes : Option (List ProbeVariant)} {cves : Option (CveDb F)}

theorem afterConnect_reports (base : ScanResult F) (script : Script) :
    ((afterConnect sha256Hex request rtt probes cves base :
      Task Unit (ScanResult F)).run () script).trace.filterMap reported? =
        [⟨rtt, base.state == .filtered⟩] := by
  by_cases skipped : base.state ≠ .opened ∨ probes = none
  · rw [afterConnect_eq skipped]
    rfl
  · rw [not_or, not_not] at skipped
    obtain ⟨opened, probed⟩ := skipped
    obtain ⟨probes, rfl⟩ := Option.ne_none_iff_exists'.mp probed
    have identifies : (afterConnect sha256Hex request rtt (some probes) cves base :
        Task Unit (ScanResult F)).run () script =
        ((identifyService sha256Hex request probes cves
          { base with rtt := rtt }).run () script).after
            [.respond rtt (base.state == .filtered)] := by
      unfold afterConnect
      dsimp only
      rw [opened]
      rfl
    rw [identifies, Run.after_trace, List.filterMap_append,
      reports_of_unreported (identifyService_keeps unreported_lets probes _)]
    rfl

/-- A task reports once, when its connect scan has found a state, and a loss
exactly where the port is filtered. -/
theorem scanOne_reported (rest : Script) :
    ((scanOne sha256Hex request rtt timestamp probes cves :
      Task Unit (ScanResult F)).run () (.answer .granted :: rest)).trace.filterMap
        reported? =
      ((scanned? request rest).map fun state =>
        ⟨rtt, state == .filtered⟩).toList := by
  have scanning : ((Co.race request.timeout (doConnect request) : Task Unit
      (Option Bool)).run () rest).trace.filterMap reported? = [] :=
    reports_of_unreported
      (Co.Keeps.race (doConnect_keeps unreported_lets request)) () rest
  rw [scanOne_granted, Run.after_trace, List.filterMap_append, connectScan_eq,
    bind_assoc, scanned?]
  cases status : ((Co.race request.timeout (doConnect request) : Task Unit
      (Option Bool)).run () rest).status with
  | returned which =>
      rw [Co.bind_run_returned status, pure_bind, Run.after_trace,
        List.filterMap_append, scanning, afterConnect_reports]
      rfl
  | threw error =>
      rw [Co.bind_run_threw status, scanning]
      rfl
  | waiting wait =>
      rw [Co.bind_run_waiting status, scanning]
      rfl

end

end ServicePortScanner.Scan
