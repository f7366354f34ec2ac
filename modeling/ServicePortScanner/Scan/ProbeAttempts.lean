import ServicePortScanner.Data.CoroutineNotes
import ServicePortScanner.Probes.ProbeDatabase
import ServicePortScanner.Scan.ScanPipeline

namespace ServicePortScanner.Scan

open ServicePortScanner.Data ServicePortScanner.Core ServicePortScanner.Net
open ServicePortScanner.Fp ServicePortScanner.Probes

/-! Which probes a scan attempts. -/

/-! The pipeline with a hook in front of each call of `identify`. -/

section

variable (sha256Hex : Bytes → Bytes) {σ F : Type}
variable (before : ProbeVariant → Task σ Unit)

def probeLoopWith (port : UInt16) (timeout : Nat) (results : List Endpoint) :
    List ProbeVariant → ScanResult F → Task σ (ScanResult F)
  | [], base => return base
  | probe :: rest, base =>
      if !probe.matchesHint port then
        probeLoopWith port timeout results rest base
      else do
        before probe
        let out ← probe.identify sha256Hex timeout
        if out.matched then return recordOutcome base out
        if ← asyncConnect results then
          probeLoopWith port timeout results rest base
        else return base

variable [Floating F]

def identifyServiceWith (request : ScanRequest) (probes : List ProbeVariant)
    (cves : Option (CveDb F)) (base : ScanResult F) : Task σ (ScanResult F) := do
  match ← asyncResolve request.host (portText request.port) with
  | none => return base
  | some results =>
      if ← asyncConnect results then
        let base ← probeLoopWith sha256Hex before request.port request.timeout
          results probes base
        return lookupCves cves base
      else return base

def afterConnectWith (request : ScanRequest) (rtt : Int)
    (probes : Option (List ProbeVariant)) (cves : Option (CveDb F))
    (base : ScanResult F) : Task σ (ScanResult F) := do
  let base := { base with rtt := rtt }
  Co.emit (.respond rtt (base.state == .filtered))
  match base.state, probes with
  | .opened, some probes =>
      identifyServiceWith sha256Hex before request probes cves base
  | _, _ => return base

def scanOneWith (request : ScanRequest) (rtt timestamp : Int)
    (probes : Option (List ProbeVariant)) (cves : Option (CveDb F)) :
    Task σ (ScanResult F) := do
  acquire
  let base ← connectScan request timestamp
  afterConnectWith sha256Hex before request rtt probes cves base

end

section

variable {sha256Hex : Bytes → Bytes} {σ F : Type}

/-- A hook that does nothing leaves the pipeline as it is. -/
theorem probeLoopWith_pure (port : UInt16) (timeout : Nat)
    (results : List Endpoint) (probes : List ProbeVariant)
    (base : ScanResult F) :
    (probeLoopWith sha256Hex (fun _ => pure ()) port timeout results probes
      base : Task σ (ScanResult F)) =
      probeLoop sha256Hex port timeout results probes base := by
  induction probes with
  | nil => rfl
  | cons probe probes induction =>
      simp only [probeLoopWith, probeLoop, pure_bind, induction]

variable [Floating F]

theorem identifyServiceWith_pure :
    identifyServiceWith sha256Hex (fun _ => (pure () : Task σ Unit)) =
      (identifyService sha256Hex : ScanRequest → List ProbeVariant →
        Option (CveDb F) → ScanResult F → Task σ (ScanResult F)) := by
  funext request probes cves base
  simp only [identifyServiceWith, probeLoopWith_pure]
  rfl

theorem scanOneWith_pure (request : ScanRequest) (rtt timestamp : Int)
    (probes : Option (List ProbeVariant)) (cves : Option (CveDb F)) :
    (scanOneWith sha256Hex (fun _ => pure ()) request rtt timestamp probes
      cves : Task σ (ScanResult F)) =
      scanOne sha256Hex request rtt timestamp probes cves := by
  unfold scanOneWith afterConnectWith
  rw [identifyServiceWith_pure]
  rfl

end

/-! Notes of the probes that are attempted. -/

section

variable {sha256Hex : Bytes → Bytes} {F : Type} {Note : Type}
variable {allowed : Note → Prop}

theorem acquire_notes :
    Co.Notes allowed (acquire : Task (List Note) Unit) acquire :=
  (Co.Notes.await _ _).bind fun _ => Co.Notes.emit _

theorem asyncResolve_notes (host service : Bytes) :
    Co.Notes allowed (asyncResolve host service : Task (List Note) _)
      (asyncResolve host service) :=
  Co.Notes.await _ _

theorem asyncConnect_notes (endpoints : List Endpoint) :
    Co.Notes allowed (asyncConnect endpoints : Task (List Note) Bool)
      (asyncConnect endpoints) := by
  induction endpoints with
  | nil => exact Co.Notes.pure _
  | cons endpoint endpoints induction =>
      exact (Co.Notes.emit _).bind fun _ => (Co.Notes.await _ _).bind fun _ =>
        Co.Notes.ite (fun _ => Co.Notes.pure _) fun _ => induction

theorem regexSearch_notes (subject pattern : Bytes) :
    Co.Notes allowed (regexSearch subject pattern : Task (List Note) _)
      (regexSearch subject pattern) := by
  refine (Co.Notes.await _ _).bind fun search => ?_
  cases search with
  | noMatch => exact Co.Notes.pure _
  | found groups => exact Co.Notes.pure _
  | threw what => exact Co.Notes.throw _

theorem writeAll_notes (payload : Bytes) (timeout : Nat) :
    Co.Notes allowed (writeAll payload timeout : Task (List Note) Bool)
      (writeAll payload timeout) := by
  refine (Co.Notes.race (Co.Notes.await _ _)).bind fun written => ?_
  cases written with
  | none => exact Co.Notes.pure _
  | some ok => exact Co.Notes.pure _

theorem connectScan_notes (request : ScanRequest) (timestamp : Int) :
    Co.Notes allowed
      (connectScan request timestamp : Task (List Note) (ScanResult F))
      (connectScan request timestamp) := by
  have connects : Co.Notes allowed (doConnect request : Task (List Note) Bool)
      (doConnect request) := by
    refine (asyncResolve_notes _ _).bind fun resolved => ?_
    cases resolved with
    | none => exact Co.Notes.pure _
    | some results => exact asyncConnect_notes results
  refine (Co.Notes.race connects).bind fun which => ?_
  rcases which with _ | _ | _
  · exact Co.Notes.pure _
  · exact Co.Notes.pure _
  · exact Co.Notes.pure _

theorem firstMatch_notes (banner : Bytes) (rules : List MatchRule) :
    Co.Notes allowed (firstMatch banner rules : Task (List Note) ProbeOutcome)
      (firstMatch banner rules) := by
  induction rules with
  | nil => exact Co.Notes.pure _
  | cons rule rules induction =>
      refine (regexSearch_notes _ _).bind fun groups => ?_
      cases groups with
      | none => exact induction
      | some groups => exact Co.Notes.pure _

theorem probeRule_identify_notes (rule : ProbeRule) (timeout : Nat) :
    Co.Notes allowed (rule.identify timeout : Task (List Note) ProbeOutcome)
      (rule.identify timeout) := by
  have reads : Co.Notes allowed
      (rule.readAndMatch timeout : Task (List Note) ProbeOutcome)
      (rule.readAndMatch timeout) := by
    refine (Co.Notes.withStore _ _).bind fun (read, banner) => ?_
    exact Co.Notes.ite (fun _ => Co.Notes.pure _)
      fun _ => firstMatch_notes banner rule.matchRules
  exact Co.Notes.ite (fun _ => reads) fun _ =>
    (writeAll_notes _ _).bind fun _ =>
      Co.Notes.ite (fun _ => Co.Notes.pure _) fun _ => reads

theorem sendPending_notes (timeout : Nat) (chunks : List Bytes) :
    Co.Notes allowed (sendPending timeout chunks : Task (List Note) Bool)
      (sendPending timeout chunks) := by
  induction chunks with
  | nil => exact Co.Notes.pure _
  | cons chunk chunks induction =>
      exact (writeAll_notes _ _).bind fun _ =>
        Co.Notes.ite (fun _ => induction) fun _ => Co.Notes.pure _

theorem feedHandshake_notes :
    Co.Notes allowed (feedHandshake : Task (List Note) (Option Bool))
      feedHandshake := by
  refine (Co.Notes.await _ _).bind fun received => ?_
  rcases received with _ | _ | ⟨first, rest⟩
  · exact Co.Notes.pure _
  · exact Co.Notes.pure _
  · exact (Co.Notes.emit _).bind fun _ => Co.Notes.pure _

theorem driveHandshake_notes (timeout : Nat) :
    Co.Notes allowed (driveHandshake timeout : Task (List Note) Bool)
      (driveHandshake timeout) := by
  apply Co.Notes.loop
  refine (Co.Notes.await _ _).bind fun (handshake, pending) => ?_
  refine Co.Notes.ite (fun _ => Co.Notes.pure _) fun _ =>
    (sendPending_notes _ _).bind fun _ =>
      Co.Notes.ite (fun _ => Co.Notes.pure _) fun _ => ?_
  cases handshake with
  | wantRead => exact feedHandshake_notes
  | done | wantWrite | failed => exact Co.Notes.pure _

theorem tlsProbe_identify_notes (timeout : Nat) :
    Co.Notes allowed
      (TlsProbe.identify sha256Hex timeout : Task (List Note) ProbeOutcome)
      (TlsProbe.identify sha256Hex timeout) := by
  refine (Co.Notes.await _ _).bind fun _ =>
    Co.Notes.ite (fun _ => Co.Notes.pure _) fun _ =>
      (Co.Notes.await _ _).bind fun _ =>
        Co.Notes.ite (fun _ => Co.Notes.pure _) fun _ =>
          (Co.Notes.await _ _).bind fun _ =>
            Co.Notes.ite (fun _ => Co.Notes.pure _) fun _ => ?_
  exact (driveHandshake_notes _).bind fun _ =>
    Co.Notes.ite (fun _ => Co.Notes.pure _) fun _ =>
      (Co.Notes.await _ _).bind fun _ => Co.Notes.pure _

theorem probeVariant_identify_notes (probe : ProbeVariant) (timeout : Nat) :
    Co.Notes allowed
      (probe.identify sha256Hex timeout : Task (List Note) ProbeOutcome)
      (probe.identify sha256Hex timeout) := by
  cases probe with
  | json rule => exact probeRule_identify_notes rule timeout
  | tls => exact tlsProbe_identify_notes timeout

end

section

variable {sha256Hex : Bytes → Bytes} {F : Type}

/-- A probe the loop may attempt: one of the list, whose hints match. -/
def Hinted (port : UInt16) (probes : List ProbeVariant)
    (probe : ProbeVariant) : Prop :=
  probe ∈ probes ∧ probe.matchesHint port = true

/-- The rest of a turn of the loop, once its probe has been noted. -/
theorem identify_notes {allowed : ProbeVariant → Prop} {probe : ProbeVariant}
    {timeout : Nat} {results : List Endpoint} {base : ScanResult F}
    {onward : Task (List ProbeVariant) (ScanResult F)}
    {plain : Task Unit (ScanResult F)} (notes : Co.Notes allowed onward plain) :
    Co.Notes allowed
      (do
        let out ← probe.identify sha256Hex timeout
        if out.matched then return recordOutcome base out
        if ← asyncConnect results then onward else return base)
      (do
        let out ← probe.identify sha256Hex timeout
        if out.matched then return recordOutcome base out
        if ← asyncConnect results then plain else return base) :=
  (probeVariant_identify_notes _ _).bind fun _ =>
    Co.Notes.ite (fun _ => Co.Notes.pure _) fun _ =>
      (asyncConnect_notes _).bind fun _ =>
        Co.Notes.ite (fun _ => notes) fun _ => Co.Notes.pure _

theorem probeLoopWith_notes {allowed : ProbeVariant → Prop} (port : UInt16)
    (timeout : Nat) (results : List Endpoint) (probes : List ProbeVariant)
    (base : ScanResult F)
    (hinted : ∀ probe, Hinted port probes probe → allowed probe) :
    Co.Notes allowed
      (probeLoopWith sha256Hex Co.note port timeout results probes base)
      (probeLoop sha256Hex port timeout results probes base) := by
  induction probes with
  | nil => exact Co.Notes.pure _
  | cons probe probes induction =>
      have onward := induction fun later found =>
        hinted later ⟨List.mem_cons_of_mem probe found.1, found.2⟩
      refine Co.Notes.ite (fun _ => onward) fun matching => ?_
      have isAllowed : allowed probe :=
        hinted probe ⟨List.mem_cons_self, by simpa using matching⟩
      exact Co.Notes.note_bind isAllowed (identify_notes onward)

variable [Floating F]

/-- With notes the pipeline runs as it does without, and notes only probes of
its list whose hints match its port. -/
theorem scanOneWith_notes (request : ScanRequest) (rtt timestamp : Int)
    (probes : List ProbeVariant) (cves : Option (CveDb F)) :
    Co.Notes (Hinted request.port probes)
      (scanOneWith sha256Hex Co.note request rtt timestamp (some probes) cves)
      (scanOne sha256Hex request rtt timestamp (some probes) cves) := by
  refine acquire_notes.bind fun _ => (connectScan_notes _ _).bind fun base => ?_
  refine (Co.Notes.emit _).bind fun _ => ?_
  dsimp only
  cases base.state with
  | opened =>
      refine (asyncResolve_notes _ _).bind fun resolved => ?_
      cases resolved with
      | none => exact Co.Notes.pure _
      | some results =>
          refine (asyncConnect_notes _).bind fun _ =>
            Co.Notes.ite (fun _ => ?_) fun _ => Co.Notes.pure _
          exact (probeLoopWith_notes _ _ _ _ _ fun _ found => found).bind
            fun _ => Co.Notes.pure _
  | closed | filtered | unknown => exact Co.Notes.pure _

variable (F) in
/-- Some scan of the port attempts the probe. -/
def AttemptedOn (probe : ProbeVariant) (port : UInt16) : Prop :=
  ∃ (sha256Hex : Bytes → Bytes) (request : ScanRequest) (rtt timestamp : Int)
    (probes : List ProbeVariant) (cves : Option (CveDb F)) (script : Script),
    request.port = port ∧
      probe ∈ ((scanOneWith sha256Hex Co.note request rtt timestamp
        (some probes) cves).run [] script).store

variable (F) in
theorem attemptedOn_iff (probe : ProbeVariant) (port : UInt16) :
    AttemptedOn F probe port ↔ probe.matchesHint port = true := by
  constructor
  · rintro ⟨sha256Hex, request, rtt, timestamp, probes, cves, script, rfl,
      attempted⟩
    obtain ⟨more, hinted, same⟩ :=
      scanOneWith_notes request rtt timestamp probes cves [] script
    rw [same] at attempted
    exact (hinted probe attempted).2
  · intro matching
    let request : ScanRequest := ⟨[], port, 0⟩
    let endpoint : Endpoint := ⟨[], port⟩
    refine ⟨id, request, 0, 0, [probe], none, answers [.granted,
      .resolved [endpoint], .connected, .resolved [endpoint], .connected],
      rfl, ?_⟩
    have reaches : (scanOneWith id Co.note request 0 0 (some [probe])
          (none : Option (CveDb F))).run [] (answers [.granted,
            .resolved [endpoint], .connected, .resolved [endpoint],
            .connected]) =
        ((probeLoopWith id Co.note port 0 [endpoint] [probe]
          (openResult request 0 0 : ScanResult F) >>= fun base =>
            pure (lookupCves none base)).run [] []).after
          [.token, .attempt endpoint, .respond 0 false, .attempt endpoint] := by
      rfl
    rw [reaches]
    have turn : probeLoopWith id Co.note port 0 [endpoint] [probe]
        (openResult request 0 0 : ScanResult F) = _ :=
      if_neg (by simp [matching])
    rw [turn, bind_assoc]
    apply Co.Notes.mem_of_note
    exact (identify_notes (Co.Notes.pure _)).bind fun _ =>
      (Co.Notes.pure _ : Co.Notes (Hinted port [probe]) _ _)

end

end ServicePortScanner.Scan
