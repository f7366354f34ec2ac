import ServicePortScanner.Data.CoroutineContract
import ServicePortScanner.Scan.CveCoverage
import ServicePortScanner.Scan.ProbeFailure

namespace ServicePortScanner.Scan

open ServicePortScanner.Data ServicePortScanner.Core ServicePortScanner.Net
open ServicePortScanner.Fp ServicePortScanner.Probes

/-! Where the pipeline of a port connects to, and what its result says about the
peer. -/

/-- The endpoints of a name are those in `target`, and no others are tried. -/
def connectsOnly (target : Endpoint → Prop) : Co.Contract network where
  relies
    | .resolved endpoints => ∀ endpoint ∈ endpoints, target endpoint
    | _ => True
  guarantees
    | .attempt endpoint => target endpoint
    | _ => True

/-- A contract under which the tasks contact the target. -/
structure Lets (contract : Co.Contract network) (target : Endpoint → Prop) :
    Prop where
  resolved : ∀ endpoints, contract.relies (.resolved endpoints) →
    ∀ endpoint ∈ endpoints, target endpoint
  attempt : ∀ endpoint, target endpoint → contract.guarantees (.attempt endpoint)
  fed : ∀ input, contract.guarantees (.fed input)

theorem connectsOnly_lets (target : Endpoint → Prop) :
    Lets (connectsOnly target) target where
  resolved _ relied := relied
  attempt _ aimed := aimed
  fed _ := trivial

section

variable {σ : Type} {contract : Co.Contract network} {target : Endpoint → Prop}

theorem asyncResolve_keeps (lets : Lets contract target) (host service : Bytes) :
    Co.Keeps contract
      (fun resolved => ∀ endpoints ∈ resolved, ∀ endpoint ∈ endpoints,
        target endpoint)
      (asyncResolve host service : Task σ (Option (List Endpoint))) := by
  refine Co.Keeps.await ?_
  intro answer resolved accepted relied
  cases answer with
  | resolved endpoints =>
      cases accepted
      rintro _ ⟨⟩
      exact lets.resolved endpoints relied
  | unresolved =>
      cases accepted
      nofun
  | _ => cases accepted

theorem asyncConnect_keeps (lets : Lets contract target)
    {endpoints : List Endpoint} (aimed : ∀ endpoint ∈ endpoints, target endpoint) :
    Co.Keeps contract (fun _ => True)
      (asyncConnect endpoints : Task σ Bool) := by
  induction endpoints with
  | nil => exact Co.Keeps.pure trivial
  | cons endpoint endpoints induction =>
      obtain ⟨first, others⟩ := List.forall_mem_cons.mp aimed
      refine (Co.Keeps.emit (lets.attempt endpoint first)).bind fun _ _ => ?_
      refine Co.Keeps.await_any.bind fun connected _ => ?_
      exact Co.Keeps.ite (Co.Keeps.pure trivial) (induction others)

theorem regexSearch_keeps (subject pattern : Bytes) :
    Co.Keeps contract (fun _ => True)
      (regexSearch subject pattern : Task σ (Option (List Bytes))) := by
  refine Co.Keeps.await_any.bind fun search _ => ?_
  cases search with
  | threw what => exact Co.Keeps.throw _
  | _ => exact Co.Keeps.pure trivial

theorem writeAll_keeps (payload : Bytes) (timeout : Nat) :
    Co.Keeps contract (fun _ => True)
      (writeAll payload timeout : Task σ Bool) := by
  refine (Co.Keeps.race Co.Keeps.await_any).bind fun which _ => ?_
  split <;> exact Co.Keeps.pure trivial

theorem readUntilQuiet_keeps (timeout cap : Nat) :
    Co.Keeps contract (fun _ => True)
      (readUntilQuiet timeout cap) := by
  have turn : Co.Keeps contract (fun _ => True) (readTurn cap) := by
    refine Co.Keeps.await_any.bind fun received _ => ?_
    refine Co.Keeps.load.bind fun banner _ => ?_
    split
    · exact Co.Keeps.pure trivial
    · exact Co.Keeps.pure trivial
    · exact Co.Keeps.ite (Co.Keeps.pure trivial)
        ((Co.Keeps.save _).bind fun _ _ =>
          Co.Keeps.ite (Co.Keeps.pure trivial) (Co.Keeps.pure trivial))
  have turns : Co.Keeps contract (fun _ => True)
      (Co.loop (readTurn cap) (readTurn_progresses cap)) :=
    Co.Keeps.loop (turn.mono fun _ _ _ _ => trivial)
  refine (Co.Keeps.race turns).bind fun which _ => ?_
  split
  · exact Co.Keeps.load.bind fun _ _ => Co.Keeps.pure trivial
  · exact Co.Keeps.pure trivial

theorem firstMatch_keeps (banner : Bytes) (rules : List MatchRule) :
    Co.Keeps contract (fun _ => True)
      (firstMatch banner rules : Task σ ProbeOutcome) := by
  induction rules with
  | nil => exact Co.Keeps.pure trivial
  | cons rule rules induction =>
      refine (regexSearch_keeps banner rule.rawPattern).bind fun groups _ => ?_
      cases groups with
      | none => exact induction
      | some groups => exact Co.Keeps.pure trivial

theorem probeRule_identify_keeps (rule : ProbeRule) (timeout : Nat) :
    Co.Keeps contract (fun _ => True)
      (rule.identify timeout : Task σ ProbeOutcome) := by
  have readAndMatch : Co.Keeps contract (fun _ => True)
      (rule.readAndMatch timeout : Task σ ProbeOutcome) :=
    (Co.Keeps.withStore (readUntilQuiet_keeps timeout _)).bind
      fun (_, banner) _ => Co.Keeps.ite (Co.Keeps.pure trivial)
        (firstMatch_keeps banner rule.matchRules)
  exact Co.Keeps.ite readAndMatch ((writeAll_keeps _ timeout).bind fun _ _ =>
    Co.Keeps.ite (Co.Keeps.pure trivial) readAndMatch)

theorem sendPending_keeps (timeout : Nat) (chunks : List Bytes) :
    Co.Keeps contract (fun _ => True)
      (sendPending timeout chunks : Task σ Bool) := by
  induction chunks with
  | nil => exact Co.Keeps.pure trivial
  | cons chunk chunks induction =>
      exact (writeAll_keeps chunk timeout).bind fun _ _ =>
        Co.Keeps.ite induction (Co.Keeps.pure trivial)

theorem feedHandshake_keeps (lets : Lets contract target) :
    Co.Keeps contract (fun _ => True)
      (feedHandshake : Task σ (Option Bool)) := by
  refine Co.Keeps.await_any.bind fun received _ => ?_
  split
  · exact Co.Keeps.pure trivial
  · exact Co.Keeps.pure trivial
  · exact (Co.Keeps.emit (lets.fed _)).bind fun _ _ => Co.Keeps.pure trivial

theorem driveHandshake_keeps (lets : Lets contract target) (timeout : Nat) :
    Co.Keeps contract (fun _ => True)
      (driveHandshake timeout : Task σ Bool) := by
  have turn : Co.Keeps contract (fun _ => True)
      (handshakeTurn timeout : Task σ (Option Bool)) := by
    refine Co.Keeps.await_any.bind fun (handshake, pending) _ => ?_
    refine Co.Keeps.ite (Co.Keeps.pure trivial) ?_
    refine (sendPending_keeps timeout _).bind fun ok _ =>
      Co.Keeps.ite (Co.Keeps.pure trivial) ?_
    cases handshake with
    | wantRead => exact feedHandshake_keeps lets
    | _ => exact Co.Keeps.pure trivial
  exact Co.Keeps.loop (turn.mono fun _ _ _ _ => trivial)

theorem tlsProbe_identify_keeps (lets : Lets contract target)
    (sha256Hex : Bytes → Bytes) (timeout : Nat) :
    Co.Keeps contract (fun _ => True)
      (TlsProbe.identify sha256Hex timeout : Task σ ProbeOutcome) := by
  refine Co.Keeps.await_any.bind fun _ _ =>
    Co.Keeps.ite (Co.Keeps.pure trivial) ?_
  refine Co.Keeps.await_any.bind fun _ _ =>
    Co.Keeps.ite (Co.Keeps.pure trivial) ?_
  refine Co.Keeps.await_any.bind fun _ _ =>
    Co.Keeps.ite (Co.Keeps.pure trivial) ?_
  refine (driveHandshake_keeps lets timeout).bind fun _ _ =>
    Co.Keeps.ite (Co.Keeps.pure trivial) ?_
  exact Co.Keeps.await_any.bind fun _ _ => Co.Keeps.pure trivial

variable {sha256Hex : Bytes → Bytes} {F : Type}
variable {request : ScanRequest} {rtt timestamp : Int}

theorem probeLoop_keeps (lets : Lets contract target) (port : UInt16)
    (timeout : Nat) {results : List Endpoint} (aimed : ∀ endpoint ∈ results, target endpoint)
    (probes : List ProbeVariant) (base : ScanResult F) :
    Co.Keeps contract (fun _ => True)
      (probeLoop sha256Hex port timeout results probes base :
        Task σ (ScanResult F)) := by
  induction probes with
  | nil => exact Co.Keeps.pure trivial
  | cons probe probes induction =>
      refine Co.Keeps.ite induction ?_
      have identified : Co.Keeps contract (fun _ => True)
          (probe.identify sha256Hex timeout : Task σ ProbeOutcome) := by
        cases probe with
        | json rule => exact probeRule_identify_keeps rule timeout
        | tls => exact tlsProbe_identify_keeps lets sha256Hex timeout
      refine identified.bind fun out _ =>
        Co.Keeps.ite (Co.Keeps.pure trivial) ?_
      exact (asyncConnect_keeps lets aimed).bind fun _ _ =>
        Co.Keeps.ite induction (Co.Keeps.pure trivial)

theorem doConnect_keeps (lets : Lets contract target) (request : ScanRequest) :
    Co.Keeps contract (fun _ => True)
      (doConnect request : Task σ Bool) := by
  refine (asyncResolve_keeps lets _ _).bind fun resolved aimed => ?_
  cases resolved with
  | none => exact Co.Keeps.pure trivial
  | some endpoints => exact asyncConnect_keeps lets (aimed endpoints rfl)

variable [Floating F] {cves : Option (CveDb F)}

theorem identifyService_keeps (lets : Lets contract target)
    (probes : List ProbeVariant) (base : ScanResult F) :
    Co.Keeps contract (fun _ => True)
      (identifyService sha256Hex request probes cves base :
        Task σ (ScanResult F)) := by
  refine (asyncResolve_keeps lets _ _).bind fun resolved aimed => ?_
  cases resolved with
  | none => exact Co.Keeps.pure trivial
  | some results =>
      have onTarget := aimed results rfl
      refine (asyncConnect_keeps lets onTarget).bind fun _ _ =>
        Co.Keeps.ite ?_ (Co.Keeps.pure trivial)
      exact (probeLoop_keeps lets _ _ onTarget probes base).bind fun _ _ =>
        Co.Keeps.pure trivial

theorem scanOne_keeps (probes : Option (List ProbeVariant)) :
    Co.Keeps (connectsOnly target) (fun _ => True)
      (scanOne sha256Hex request rtt timestamp probes cves :
        Task σ (ScanResult F)) := by
  have lets := connectsOnly_lets target
  have acquired : Co.Keeps (connectsOnly target) (fun _ => True)
      (acquire : Task σ Unit) :=
    Co.Keeps.await_any.bind fun _ _ => Co.Keeps.emit trivial
  have scanned : Co.Keeps (connectsOnly target) (fun _ => True)
      (connectScan request timestamp : Task σ (ScanResult F)) := by
    rw [connectScan_eq]
    exact (Co.Keeps.race (doConnect_keeps lets request)).bind fun _ _ =>
      Co.Keeps.pure trivial
  refine acquired.bind fun _ _ => scanned.bind fun base _ => ?_
  refine (Co.Keeps.emit trivial).bind fun _ _ => ?_
  split
  · exact identifyService_keeps lets _ _
  · exact Co.Keeps.pure trivial

end

/-! What the peer has to answer for each state of the port. -/

def refusal : Signal network :=
  .answer .refused

/-- An endpoint meets the signal behind those that refuse. -/
def Meets (signal : Signal network) (endpoints : List Endpoint)
    (script : Script) : Prop :=
  ∃ refused later, refused < endpoints.length ∧
    script = List.replicate refused refusal ++ signal :: later

def AllRefuse (endpoints : List Endpoint) (script : Script) : Prop :=
  ∃ later, script = List.replicate endpoints.length refusal ++ later

/-- How a connect to the endpoints can end: with a connection, without one, or
by the timer. -/
def Tried (endpoints : List Endpoint) (script : Script) : Option Bool → Prop
  | some true => Meets (.answer .connected) endpoints script
  | some false => AllRefuse endpoints script
  | none => Meets .timer endpoints script

/-- What is answered to a connect scan that finds the port in a state. -/
def Answers (script : Script) : PortState → Prop
  | .opened => ∃ endpoints rest,
      script = .answer (.resolved endpoints) :: rest ∧
        Meets (.answer .connected) endpoints rest
  | .closed => (∃ rest, script = .answer .unresolved :: rest) ∨
      ∃ endpoints rest, script = .answer (.resolved endpoints) :: rest ∧
        AllRefuse endpoints rest
  | .filtered => (∃ rest, script = .timer :: rest) ∨
      ∃ endpoints rest, script = .answer (.resolved endpoints) :: rest ∧
        Meets .timer endpoints rest
  | .unknown => False

theorem meets_nil (signal : Signal network) (script : Script) :
    ¬ Meets signal [] script := by
  rintro ⟨_, _, shorter, _⟩
  exact Nat.not_lt_zero _ shorter

theorem meets_cons {signal : Signal network} (ends : signal ≠ refusal)
    (endpoint : Endpoint) (endpoints : List Endpoint) (first : Signal network)
    (rest : Script) :
    Meets signal (endpoint :: endpoints) (first :: rest) ↔
      first = signal ∨ first = refusal ∧ Meets signal endpoints rest := by
  constructor
  · rintro ⟨refused, later, shorter, same⟩
    cases refused with
    | zero =>
        cases same
        exact .inl rfl
    | succ refused =>
        cases same
        exact .inr ⟨rfl, refused, later, Nat.lt_of_succ_lt_succ shorter, rfl⟩
  · rintro (rfl | ⟨rfl, refused, later, shorter, rfl⟩)
    · exact ⟨0, rest, Nat.succ_pos _, rfl⟩
    · exact ⟨refused + 1, later, Nat.succ_lt_succ shorter, rfl⟩

theorem allRefuse_cons (endpoint : Endpoint) (endpoints : List Endpoint)
    (first : Signal network) (rest : Script) :
    AllRefuse (endpoint :: endpoints) (first :: rest) ↔
      first = refusal ∧ AllRefuse endpoints rest := by
  constructor
  · rintro ⟨later, same⟩
    cases same
    exact ⟨rfl, later, rfl⟩
  · rintro ⟨rfl, later, rfl⟩
    exact ⟨later, rfl⟩

theorem not_tried_nil (endpoint : Endpoint) (endpoints : List Endpoint)
    (which : Option Bool) : ¬ Tried (endpoint :: endpoints) [] which := by
  have unmet (signal : Signal network) :
      ¬ Meets signal (endpoint :: endpoints) [] := by
    rintro ⟨refused, later, _, same⟩
    cases refused <;> cases same
  rcases which with _ | _ | _
  · exact unmet .timer
  · rintro ⟨later, same⟩
    cases same
  · exact unmet (.answer .connected)

theorem tried_cons (endpoint : Endpoint) (endpoints : List Endpoint)
    (first : Signal network) (rest : Script) (which : Option Bool) :
    Tried (endpoint :: endpoints) (first :: rest) which ↔
      (first = .timer ∧ which = none) ∨
      (first = .answer .connected ∧ which = some true) ∨
      (first = refusal ∧ Tried endpoints rest which) := by
  rcases which with _ | _ | _
  · have ends : (.timer : Signal network) ≠ refusal := by simp [refusal]
    simp [Tried, meets_cons ends]
  · simp [Tried, allRefuse_cons]
  · have ends : (.answer .connected : Signal network) ≠ refusal := by
      simp [refusal]
    simp [Tried, meets_cons ends]

theorem race_asyncConnect_returned {σ : Type} (timeout : Nat)
    (endpoints : List Endpoint) (store : σ) (script : Script)
    (which : Option Bool) :
    ((Co.race timeout (asyncConnect endpoints)).run store script).status =
        .returned which ↔ Tried endpoints script which := by
  induction endpoints generalizing script with
  | nil =>
      rw [asyncConnect, Co.race_run_pure]
      rcases which with _ | _ | _
      · simp [Tried, meets_nil]
      · simp [Tried, AllRefuse]
      · simp [Tried, meets_nil]
  | cons endpoint endpoints induction =>
      rw [race_asyncConnect_cons, Run.after_status]
      cases script with
      | nil => simp [not_tried_nil]
      | cons signal rest =>
          rw [tried_cons]
          cases signal with
          | timer => simp [refusal, eq_comm]
          | answer answer =>
              cases answer with
              | connected => simp [Answer.connection?, refusal, eq_comm]
              | refused => simpa [Answer.connection?, refusal] using induction rest
              | _ => simp [Answer.connection?, refusal]

theorem race_doConnect_returned {σ : Type} (request : ScanRequest) (store : σ)
    (script : Script) (which : Option Bool) :
    ((Co.race request.timeout (doConnect request)).run store script).status =
        .returned which ↔ Answers script (portState which) := by
  rw [race_doConnect]
  cases script with
  | nil => rcases which with _ | _ | _ <;> simp [Answers, portState]
  | cons signal rest =>
      cases signal with
      | timer => rcases which with _ | _ | _ <;> simp [Answers, portState]
      | answer answer =>
          cases answer with
          | resolved endpoints =>
              simp only [Answer.resolution?, race_asyncConnect_returned]
              rcases which with _ | _ | _ <;> simp [Answers, portState, Tried]
          | _ =>
              rcases which with _ | _ | _ <;>
                simp [Answers, portState, Answer.resolution?]

theorem exists_portState {script : Script} {state : PortState}
    (answers : Answers script state) : ∃ which, state = portState which := by
  cases state with
  | opened => exact ⟨some true, rfl⟩
  | closed => exact ⟨some false, rfl⟩
  | filtered => exact ⟨none, rfl⟩
  | unknown => exact answers.elim

/-! What a result says about its port. -/

section

variable {σ F : Type} {request : ScanRequest} {rtt timestamp : Int}

theorem connectScan_returned_iff (store : σ) (script : Script)
    (result : ScanResult F) :
    ((connectScan request timestamp :
        Task σ (ScanResult F)).run store script).status = .returned result ↔
      ∃ state, Answers script state ∧
        result = makeResult request state timestamp := by
  rw [connectScan_eq, Co.bind_run]
  constructor
  · intro returned
    split at returned
    · next which status =>
        cases returned
        exact ⟨portState which,
          (race_doConnect_returned request store script which).mp status, rfl⟩
    · cases returned
    · cases returned
  · rintro ⟨state, answers, rfl⟩
    obtain ⟨which, rfl⟩ := exists_portState answers
    rw [(race_doConnect_returned request store script which).mpr answers]
    rfl

theorem answers_unique {script : Script} {state other : PortState}
    (answers : Answers script state) (others : Answers script other) :
    state = other := by
  have scanned (state : PortState) (answers : Answers script state) :
      ((connectScan ⟨[], 0, 0⟩ 0 : Task Unit (ScanResult Unit)).run ()
        script).status = .returned (makeResult ⟨[], 0, 0⟩ state 0) :=
    (connectScan_returned_iff () script _).mpr ⟨state, answers, rfl⟩
  have same := (scanned state answers).symm.trans (scanned other others)
  injection same with same
  exact congrArg ScanResult.state same

variable {sha256Hex : Bytes → Bytes} [Floating F]
variable {probes : Option (List ProbeVariant)} {cves : Option (CveDb F)}

/-- What only the connect scan and the caller decide stays as it is. -/
theorem Identified.unchanged {base result : ScanResult F}
    (identified : Identified cves base result) :
    result = { base with
      service := result.service
      ja4s := result.ja4s
      ja4x := result.ja4x
      cves := result.cves } := by
  have looked (base : ScanResult F) :
      lookupCves cves base = { base with cves := (lookupCves cves base).cves } := by
    unfold lookupCves
    split
    · split <;> rfl
    · rfl
  rcases identified with rfl | rfl | ⟨out, _, rfl⟩
  · rfl
  · rw [looked base]
  · rw [looked (recordOutcome base out)]
    rfl

/-- The result of the connect scan, with the time that it has taken. -/
def scannedResult (request : ScanRequest) (rtt timestamp : Int)
    (state : PortState) : ScanResult F :=
  { makeResult request state timestamp with rtt := rtt }

/-- What a result says about the run of its task: host and port of the request,
the state that the connect scan has been answered, and more only of an open
port. -/
structure Tells (request : ScanRequest) (rtt timestamp : Int)
    (probes : Option (List ProbeVariant)) (cves : Option (CveDb F))
    (script : Script) (result : ScanResult F) : Prop where
  answered : ∃ rest, script = .answer .granted :: rest ∧
    Answers rest result.state
  scanned : result = {
    (scannedResult request rtt timestamp result.state : ScanResult F) with
    service := result.service
    ja4s := result.ja4s
    ja4x := result.ja4x
    cves := result.cves }
  plain : result.state ≠ .opened ∨ probes = none →
    result = scannedResult request rtt timestamp result.state
  lookedUp : LookedUp cves result

theorem scanOne_tells {script : Script} {result : ScanResult F}
    (returned : ((scanOne sha256Hex request rtt timestamp probes cves :
      Task Unit (ScanResult F)).run () script).status = .returned result) :
    Tells request rtt timestamp probes cves script result := by
  by_cases granted : ∃ rest, script = .answer .granted :: rest
  · obtain ⟨rest, rfl⟩ := granted
    rw [scanOne_granted, Run.after_status, Co.bind_run] at returned
    split at returned
    · next base status =>
        obtain ⟨state, answers, rfl⟩ :=
          (connectScan_returned_iff () rest base).mp status
        have identified : Identified cves
            (scannedResult request rtt timestamp state) result :=
          (afterConnect_returns _).of_returned returned
        have unchanged := identified.unchanged
        have sameState : result.state = state := by
          rw [unchanged]
          rfl
        subst sameState
        refine ⟨⟨rest, rfl, answers⟩, unchanged, fun skipped => ?_,
          lookedUp_of_identified rfl identified⟩
        have skippedBase : (makeResult request result.state timestamp :
            ScanResult F).state ≠ .opened ∨ probes = none := skipped
        rw [Run.after_status, afterConnect_eq skippedBase] at returned
        exact (Status.returned.inj returned).symm
    · cases returned
    · cases returned
  · have ungranted (rest : Script) : script ≠ .answer .granted :: rest :=
      fun same => granted ⟨rest, same⟩
    rw [scanOne_ungranted ungranted] at returned
    cases returned

end

end ServicePortScanner.Scan
