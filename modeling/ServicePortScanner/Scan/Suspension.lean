import ServicePortScanner.Core.ExactFloating
import ServicePortScanner.Scan.ScanPipeline

namespace ServicePortScanner.Scan

open ServicePortScanner.Data ServicePortScanner.Core ServicePortScanner.Net
open ServicePortScanner.Fp ServicePortScanner.Probes

/-! Which suspensions of the pipeline a timer can end. -/

section

variable {sha256Hex : Bytes → Bytes} {F : Type} [Floating F]
variable {request : ScanRequest} {rtt timestamp : Int}
variable {probes : Option (List ProbeVariant)} {cves : Option (CveDb F)}

theorem connects_append_timer (script : Script) :
    connects (script ++ [.timer]) = connects script := by
  let request : ScanRequest := ⟨[], 0, 0⟩
  let task : Task Unit (Option Bool) :=
    Co.race request.timeout (doConnect request)
  rw [Bool.eq_iff_iff]
  refine (race_doConnect_status request () _).symm.trans
    (.trans ?_ (race_doConnect_status request () _))
  change (task.run () (script ++ [.timer])).status = _ ↔
    (task.run () script).status = _
  by_cases suspended : ∃ wait, (task.run () script).Suspended wait
  · obtain ⟨wait, suspended⟩ := suspended
    rw [(Co.race_suspended suspended).2, suspended.1]
    simp
  · rw [task.settled () script [.timer] (not_exists.mp suspended)]
    rfl

theorem connects_append {script : Script} (accepted : connects script = true)
    (later : Script) : connects (script ++ later) = true := by
  let request : ScanRequest := ⟨[], 0, 0⟩
  let task : Task Unit (Option Bool) :=
    Co.race request.timeout (doConnect request)
  have connected : (task.run () script).status = .returned (some true) :=
    (race_doConnect_status request () script).mpr accepted
  apply (race_doConnect_status request () (script ++ later)).mp
  change (task.run () (script ++ later)).status = _
  rw [task.settled () script later (Run.not_suspended_of_returned connected)]
  exact connected

theorem accepts_append_timer (script : Script) :
    accepts (script ++ [.timer]) = accepts script := by
  cases script with
  | nil => rfl
  | cons signal rest =>
      cases signal with
      | timer => rfl
      | answer answer =>
          cases answer with
          | granted => exact connects_append_timer rest
          | _ => rfl

theorem accepts_mono {reached script : Script}
    (isPrefix : reached <+: script) (accepted : accepts reached = true) :
    accepts script = true := by
  obtain ⟨later, rfl⟩ := isPrefix
  unfold accepts at accepted
  split at accepted
  · exact connects_append accepted later
  · cases accepted

/-- Up to the end of the connect scan every socket operation is raced. -/
theorem scanOne_guarded_of_no_probes :
    Co.Guarded Operation.OnSocket request.timeout
      (scanOne sha256Hex request rtt timestamp none cves :
        Task Unit (ScanResult F)) := by
  have acquired : Co.Guarded Operation.OnSocket request.timeout
      (acquire : Task Unit Unit) :=
    (Co.Guarded.await _ id).bind fun _ => Co.Guarded.emit _
  have scanned : Co.Guarded Operation.OnSocket request.timeout
      (connectScan request timestamp : Task Unit (ScanResult F)) := by
    rw [connectScan_eq]
    exact (Co.Guarded.race _ _).bind fun _ => Co.Guarded.pure _
  refine acquired.bind fun _ => scanned.bind fun base => ?_
  rw [afterConnect_eq (.inr rfl)]
  exact (Co.Guarded.emit _).bind fun _ => Co.Guarded.pure _

/-- Every suspension on a socket that a run passes through can be ended by the
timer if and only if there are no probes, or nothing accepts the connect
scan. -/
theorem scanOne_guarded_iff (script : Script) :
    (∀ reached, reached <+: script →
      Co.GuardedAt Operation.OnSocket request.timeout
        (scanOne sha256Hex request rtt timestamp probes cves :
          Task Unit (ScanResult F)) () reached) ↔
      probes = none ∨ accepts script = false := by
  constructor
  · intro guarded
    cases probes with
    | none => exact .inl rfl
    | some probes =>
        right
        by_contra accepted
        rw [Bool.not_eq_false] at accepted
        have front : ∃ front rest trace, script = front ++ rest ∧ ∀ later,
            (scanOne sha256Hex request rtt timestamp (some probes) cves :
              Task Unit (ScanResult F)).run () (front ++ later) = _ :=
          scanOne_front accepted ()
        obtain ⟨front, rest, trace, rfl, runs⟩ := front
        -- behind the front the task resolves the name again, without a timer
        have waits := runs []
        rw [List.append_nil, afterConnect_opened] at waits
        have guard := (guarded front (List.prefix_append front rest)
          ⟨Operation.resolve request.host (portText request.port), none⟩
          (by rw [waits]; exact ⟨rfl, rfl⟩) trivial).1
        cases guard
  · rintro (rfl | rejected) reached isPrefix
    · exact scanOne_guarded_of_no_probes () reached
    · have notYet : accepts reached = false := by
        by_contra accepted
        rw [Bool.not_eq_false] at accepted
        rw [accepts_mono isPrefix accepted] at rejected
        cases rejected
      have notThen : accepts (reached ++ [.timer]) = false := by
        rw [accepts_append_timer, notYet]
      unfold Co.GuardedAt
      rw [scanOne_rejects notYet, scanOne_rejects notThen]
      exact scanOne_guarded_of_no_probes () reached

end

/-- A peer that accepts every connection, takes the ClientHello and says nothing
more. -/
def silentPeer : Script :=
  answers [.granted, .resolved [⟨bytes "10.0.0.5", 443⟩], .connected,
    .resolved [⟨bytes "10.0.0.5", 443⟩], .connected, .created true,
    .created true, .created true, .stepped .wantRead [0x16, 0x03, 0x01],
    .written]

theorem silentPeer_not_guarded :
    ¬ ∀ reached, reached <+: silentPeer →
      Co.GuardedAt Operation.OnSocket 2000
        (scanOne (fun _ => []) ⟨bytes "10.0.0.5", 443, 2000⟩ 1 0
          (some defaultProbes) none : Task Unit (ScanResult ℚ)) () reached := by
  intro guarded
  have suspended : ((scanOne (fun _ => []) ⟨bytes "10.0.0.5", 443, 2000⟩ 1 0
      (some defaultProbes) none : Task Unit (ScanResult ℚ)).run ()
        silentPeer).Suspended ⟨Operation.read 4096, none⟩ :=
    ⟨by decide +kernel, List.eq_nil_of_length_eq_zero (by decide +kernel)⟩
  have timer := (guarded silentPeer (List.prefix_refl _) _ suspended trivial).1
  cases timer

end ServicePortScanner.Scan
