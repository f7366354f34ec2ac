import ServicePortScanner.Core.Scanner
import ServicePortScanner.Fp.CveLookup
import ServicePortScanner.Fp.EpssLookup
import ServicePortScanner.Probes.TlsProbe

namespace ServicePortScanner.Scan

open ServicePortScanner.Data ServicePortScanner.Core ServicePortScanner.Net
open ServicePortScanner.Fp ServicePortScanner.Probes

/-! The pipeline of one port: token, connect, probes, CVE lookup. -/

inductive ProbeVariant where
  | json (rule : ProbeRule)
  | tls
  deriving DecidableEq, Repr

namespace ProbeVariant

def hintPorts : ProbeVariant → List UInt16
  | .json rule => rule.ports
  | .tls => TlsProbe.hintPorts

def identify {σ : Type} (sha256Hex : Bytes → Bytes) (probe : ProbeVariant)
    (timeout : Nat) : Task σ ProbeOutcome :=
  match probe with
  | .json rule => rule.identify timeout
  | .tls => TlsProbe.identify sha256Hex timeout

def matchesHint (probe : ProbeVariant) (port : UInt16) : Bool :=
  probe.hintPorts.isEmpty || probe.hintPorts.contains port

end ProbeVariant

/-- The embedded rules, and the TLS probe behind them. -/
def defaultProbes : List ProbeVariant :=
  defaultRules.map .json ++ [.tls]

section

variable (sha256Hex : Bytes → Bytes) {σ F : Type}

def recordOutcome (base : ScanResult F) (out : ProbeOutcome) : ScanResult F :=
  { base with
    service := { base.service with
      name := out.service
      version := out.version
      bannerRaw := out.banner }
    ja4s := out.ja4s
    ja4x := out.ja4x }

/-- The loop over the probes.  A new connection follows every failing one. -/
def probeLoop (port : UInt16) (timeout : Nat) (results : List Endpoint) :
    List ProbeVariant → ScanResult F → Task σ (ScanResult F)
  | [], base => return base
  | probe :: rest, base =>
      if !probe.matchesHint port then probeLoop port timeout results rest base
      else do
        let out ← probe.identify sha256Hex timeout
        if out.matched then return recordOutcome base out
        if ← asyncConnect results then
          probeLoop port timeout results rest base
        else return base

variable [Floating F]

def lookupCves (cves : Option (CveDb F)) (base : ScanResult F) : ScanResult F :=
  match cves with
  | some db =>
      if !db.isEmpty && !base.service.name.isEmpty &&
          !base.service.version.isEmpty then
        { base with cves := db.lookup base.service.name base.service.version }
      else base
  | none => base

/-- The part of `scan_one` for a port that is open, when there are probes. -/
def identifyService (request : ScanRequest) (probes : List ProbeVariant)
    (cves : Option (CveDb F)) (base : ScanResult F) : Task σ (ScanResult F) := do
  match ← asyncResolve request.host (portText request.port) with
  | none => return base
  | some results =>
      if ← asyncConnect results then
        let base ← probeLoop sha256Hex request.port request.timeout results
          probes base
        return lookupCves cves base
      else return base

/-- `scan_one` behind its `connect_scan`.  `rtt` is what the steady clock
measures for that, and a null pointer is `none`. -/
def afterConnect (request : ScanRequest) (rtt : Int)
    (probes : Option (List ProbeVariant)) (cves : Option (CveDb F))
    (base : ScanResult F) : Task σ (ScanResult F) := do
  let base := { base with rtt := rtt }
  Co.emit (.respond rtt (base.state == .filtered))
  match base.state, probes with
  | .opened, some probes => identifyService sha256Hex request probes cves base
  | _, _ => return base

/-- `timestamp` is what the system clock reads behind the connect. -/
def scanOne (request : ScanRequest) (rtt timestamp : Int)
    (probes : Option (List ProbeVariant)) (cves : Option (CveDb F)) :
    Task σ (ScanResult F) := do
  acquire
  let base ← connectScan request timestamp
  afterConnect sha256Hex request rtt probes cves base

end

/-! What the first part of the pipeline does. -/

section

variable {sha256Hex : Bytes → Bytes} {σ F : Type} [Floating F]
variable {request : ScanRequest} {rtt timestamp : Int}
variable {probes : Option (List ProbeVariant)} {cves : Option (CveDb F)}

/-- The token is granted, and the connect scan reports the port open. -/
def accepts : Script → Bool
  | .answer .granted :: script => connects script
  | _ => false

def openResult (request : ScanRequest) (rtt timestamp : Int) : ScanResult F :=
  { makeResult request .opened timestamp with rtt := rtt }

theorem scanOne_granted (store : σ) (script : Script) :
    (scanOne sha256Hex request rtt timestamp probes cves :
      Task σ (ScanResult F)).run store (.answer .granted :: script) =
      ((connectScan request timestamp >>=
        afterConnect sha256Hex request rtt probes cves).run store
          script).after [.token] := rfl

theorem scanOne_ungranted {script : Script}
    (ungranted : ∀ rest, script ≠ .answer .granted :: rest) (store : σ) :
    (scanOne sha256Hex request rtt timestamp probes cves :
      Task σ (ScanResult F)).run store script =
      ⟨[], script, store, .waiting ⟨Operation.acquire, none⟩⟩ := by
  cases script with
  | nil => rfl
  | cons signal rest =>
      cases signal with
      | timer => rfl
      | answer answer =>
          cases answer with
          | granted => exact (ungranted rest rfl).elim
          | _ => rfl

theorem afterConnect_eq {base : ScanResult F}
    (skipped : base.state ≠ .opened ∨ probes = none) :
    (afterConnect sha256Hex request rtt probes cves base :
      Task σ (ScanResult F)) = do
        Co.emit (.respond rtt (base.state == .filtered))
        return { base with rtt := rtt } := by
  unfold afterConnect
  dsimp only
  congr 1
  funext _
  split
  · next opened =>
      rcases skipped with closed | absent
      · exact (closed opened).elim
      · cases absent
  · rfl

theorem afterConnect_opened (probes : List ProbeVariant) (store : σ)
    (script : Script) :
    (afterConnect sha256Hex request rtt (some probes) cves
        (makeResult request .opened timestamp) :
      Task σ (ScanResult F)).run store script =
      ((identifyService sha256Hex request probes cves
        (openResult request rtt timestamp)).run store script).after
          [.respond rtt false] := rfl

/-- Without a connection it makes no difference whether there are probes. -/
theorem scanOne_rejects {script : Script}
    (rejects : accepts script = false) (store : σ) :
    (scanOne sha256Hex request rtt timestamp probes cves :
      Task σ (ScanResult F)).run store script =
      (scanOne sha256Hex request rtt timestamp none cves).run store script := by
  by_cases granted : ∃ rest, script = .answer .granted :: rest
  · obtain ⟨rest, rfl⟩ := granted
    rw [scanOne_granted, scanOne_granted]
    congr 1
    cases status : ((connectScan request timestamp :
        Task σ (ScanResult F)).run store rest).status with
    | returned base =>
        have closed := connectScan_state rejects status
        rw [Co.bind_run_returned status, Co.bind_run_returned status,
          afterConnect_eq (.inl closed), afterConnect_eq (.inl closed)]
    | threw error => rw [Co.bind_run_threw status, Co.bind_run_threw status]
    | waiting wait =>
        rw [Co.bind_run_waiting status, Co.bind_run_waiting status]
  · have ungranted (rest : Script) :
        script ≠ .answer .granted :: rest :=
      fun same => granted ⟨rest, same⟩
    rw [scanOne_ungranted ungranted, scanOne_ungranted ungranted]

theorem scanOne_front {script : Script} (accepted : accepts script = true)
    (store : σ) :
    ∃ front rest trace, script = front ++ rest ∧ ∀ later,
      (scanOne sha256Hex request rtt timestamp probes cves :
        Task σ (ScanResult F)).run store (front ++ later) =
        ((afterConnect sha256Hex request rtt probes cves
          (makeResult request .opened timestamp)).run store later).after trace := by
  unfold accepts at accepted
  split at accepted
  · next script =>
      have decided : ∃ front rest trace, script = front ++ rest ∧ ∀ later,
          (connectScan request timestamp : Task σ (ScanResult F)).run store
              (front ++ later) =
            ⟨trace, later, store,
              .returned (makeResult request .opened timestamp)⟩ :=
        connectScan_front accepted store
      obtain ⟨front, rest, trace, rfl, runs⟩ := decided
      refine ⟨.answer .granted :: front, rest, .token :: trace, rfl, ?_⟩
      intro later
      rw [List.cons_append, scanOne_granted, Co.bind_run_returned (by rw [runs]),
        runs]
      rfl
  · cases accepted

end

/-! What the pipeline can return. -/

section

variable {sha256Hex : Bytes → Bytes} {σ F : Type}
variable {request : ScanRequest} {rtt timestamp : Int}

theorem connectScan_returns :
    Co.Returns (fun base => ∃ state, base = makeResult request state timestamp)
      (connectScan request timestamp : Task σ (ScanResult F)) := by
  rw [connectScan_eq]
  exact (Co.Returns.trivial _).bind fun which _ =>
    Co.Returns.pure ⟨portState which, rfl⟩

theorem probeLoop_returns (port : UInt16) (timeout : Nat)
    (results : List Endpoint) (probes : List ProbeVariant)
    (base : ScanResult F) :
    Co.Returns (fun result => result = base ∨
        ∃ out, out.matched = true ∧ result = recordOutcome base out)
      (probeLoop sha256Hex port timeout results probes base :
        Task σ (ScanResult F)) := by
  induction probes with
  | nil => exact Co.Returns.pure (.inl rfl)
  | cons probe probes induction =>
      refine Co.Returns.ite induction ((Co.Returns.trivial _).bind fun out _ => ?_)
      split
      · next matched => exact Co.Returns.pure (.inr ⟨out, matched, rfl⟩)
      · exact (Co.Returns.trivial _).bind fun _ _ =>
          Co.Returns.ite induction (Co.Returns.pure (.inl rfl))

variable [Floating F] {probes : Option (List ProbeVariant)}
variable {cves : Option (CveDb F)}

/-- The result of the connect scan, with the hits for its service if the probes
have been run, and with the service if one of them has matched. -/
def Identified (cves : Option (CveDb F)) (base result : ScanResult F) : Prop :=
  result = base ∨ result = lookupCves cves base ∨
    ∃ out, out.matched = true ∧ result = lookupCves cves (recordOutcome base out)

theorem identifyService_returns (probes : List ProbeVariant)
    (base : ScanResult F) :
    Co.Returns (Identified cves base)
      (identifyService sha256Hex request probes cves base :
        Task σ (ScanResult F)) := by
  refine (Co.Returns.trivial _).bind fun resolved _ => ?_
  cases resolved with
  | none => exact Co.Returns.pure (.inl rfl)
  | some results =>
      refine (Co.Returns.trivial _).bind fun _ _ =>
        Co.Returns.ite ?_ (Co.Returns.pure (.inl rfl))
      refine (probeLoop_returns _ _ results probes base).bind
        fun probed recorded => Co.Returns.pure ?_
      rcases recorded with rfl | ⟨out, matched, rfl⟩
      · exact .inr (.inl rfl)
      · exact .inr (.inr ⟨out, matched, rfl⟩)

theorem afterConnect_returns (base : ScanResult F) :
    Co.Returns (Identified cves { base with rtt := rtt })
      (afterConnect sha256Hex request rtt probes cves base :
        Task σ (ScanResult F)) := by
  refine (Co.Returns.trivial _).bind fun _ _ => ?_
  split
  · exact identifyService_returns _ _
  · exact Co.Returns.pure (.inl rfl)

theorem scanOne_returns :
    Co.Returns (fun result => ∃ state, Identified cves
        { makeResult request state timestamp with rtt := rtt } result)
      (scanOne sha256Hex request rtt timestamp probes cves :
        Task σ (ScanResult F)) := by
  refine (Co.Returns.trivial _).bind fun _ _ =>
    connectScan_returns.bind fun base made => ?_
  obtain ⟨state, rfl⟩ := made
  exact Co.Returns.mono (afterConnect_returns _) fun _ found => ⟨state, found⟩

end

/-! What the caller makes of its tasks. -/

section

variable {F : Type} [Floating F]

def decorate (cdnProvider : Bytes) (epss : EpssDb F) (r : ScanResult F) :
    ScanResult F :=
  { r with
    cdn := cdnProvider
    cves :=
      if epss.isEmpty then r.cves
      else r.cves.map fun hit =>
        let e := epss.lookup hit.cveId
        { hit with epss := e.epss, percentile := e.percentile } }

/-- The loop over the futures in `run`.  A task that has thrown is reported and
dropped. -/
def collect (cdnProvider : Bytes) (epss : EpssDb F)
    (futs : List (Except RegexError (ScanResult F))) : List (ScanResult F) :=
  futs.filterMap fun
    | .ok r => some (decorate cdnProvider epss r)
    | .error _ => none

end

end ServicePortScanner.Scan
