import ServicePortScanner.Core.ExactFloating
import ServicePortScanner.Probes.Templates
import ServicePortScanner.Scan.Suspension
import ServicePortScanner.Scan.TaskEnds

namespace ServicePortScanner.Scan

open ServicePortScanner.Data ServicePortScanner.Core ServicePortScanner.Net
open ServicePortScanner.Fp ServicePortScanner.Probes

/-! What becomes of a port when a regex search throws. -/

/-- A search that ends in a `std::regex_error`. -/
def Throwing : Answer → Prop
  | .searched (.threw _) => True
  | _ => False

section

variable {σ : Type}

theorem acquire_reports : Co.Reports Throwing (acquire : Task σ Unit) := by
  refine (Co.Reports.await ?_).bind fun _ => Co.Reports.emit _
  intro answer _ accepted
  cases answer <;> simp_all [Answer.granted?, Throwing]

theorem asyncResolve_reports (host service : Bytes) :
    Co.Reports Throwing (asyncResolve host service :
      Task σ (Option (List Endpoint))) := by
  refine Co.Reports.await ?_
  intro answer _ accepted
  cases answer <;> simp_all [Answer.resolution?, Throwing]

theorem asyncConnect_reports (endpoints : List Endpoint) :
    Co.Reports Throwing (asyncConnect endpoints : Task σ Bool) := by
  induction endpoints with
  | nil => exact Co.Reports.pure false
  | cons endpoint endpoints induction =>
      refine (Co.Reports.emit _).bind fun _ => ?_
      refine (Co.Reports.await ?_).bind fun connected => ?_
      · intro answer _ accepted
        cases answer <;> simp_all [Answer.connection?, Throwing]
      · exact Co.Reports.ite (Co.Reports.pure true) induction

theorem regexSearch_reports (subject pattern : Bytes) :
    Co.Reports Throwing (regexSearch subject pattern :
      Task σ (Option (List Bytes))) := by
  intro store script
  rw [regexSearch_run]
  split
  · exact ⟨[.answer (.searched .noMatch)], rfl, by
      simp [Co.Status.Reports, Throwing]⟩
  · next groups rest =>
      exact ⟨[.answer (.searched (.found groups))], rfl, by
        simp [Co.Status.Reports, Throwing]⟩
  · next what rest =>
      exact ⟨[.answer (.searched (.threw what))], rfl, by
        simp [Co.Status.Reports, Throwing]⟩
  · exact ⟨[], rfl, by simp [Co.Status.Reports]⟩

theorem writeAll_reports (payload : Bytes) (timeout : Nat) :
    Co.Reports Throwing (writeAll payload timeout : Task σ Bool) := by
  refine (Co.Reports.race (Co.Reports.await ?_)).bind fun which => ?_
  · intro answer _ accepted
    cases answer <;> simp_all [Answer.writing?, Throwing]
  · split <;> exact Co.Reports.pure _

theorem read_reports (size : Nat) :
    Co.Reports Throwing (Co.await (.read size) Answer.reading? :
      Task σ (Option Bytes)) := by
  refine Co.Reports.await ?_
  intro answer _ accepted
  cases answer <;> simp_all [Answer.reading?, Throwing]

theorem readUntilQuiet_reports (timeout cap : Nat) :
    Co.Reports Throwing (readUntilQuiet timeout cap) := by
  have turn : Co.Reports Throwing (readTurn cap) := by
    refine (read_reports 1024).bind fun received => ?_
    refine Co.Reports.load.bind fun banner => ?_
    split
    · exact Co.Reports.pure _
    · exact Co.Reports.pure _
    · exact Co.Reports.ite (Co.Reports.pure _)
        ((Co.Reports.save _).bind fun _ =>
          Co.Reports.ite (Co.Reports.pure _) (Co.Reports.pure _))
  refine (Co.Reports.race (Co.Reports.loop turn)).bind fun which => ?_
  split
  · exact Co.Reports.load.bind fun banner => Co.Reports.pure _
  · exact Co.Reports.pure _

theorem firstMatch_reports (banner : Bytes) (rules : List MatchRule) :
    Co.Reports Throwing (firstMatch banner rules : Task σ ProbeOutcome) := by
  induction rules with
  | nil => exact Co.Reports.pure _
  | cons rule rules induction =>
      refine (regexSearch_reports banner rule.rawPattern).bind fun groups => ?_
      cases groups with
      | none => exact induction
      | some groups => exact Co.Reports.pure _

theorem probeRule_identify_reports (rule : ProbeRule) (timeout : Nat) :
    Co.Reports Throwing (rule.identify timeout : Task σ ProbeOutcome) := by
  have readAndMatch : Co.Reports Throwing
      (rule.readAndMatch timeout : Task σ ProbeOutcome) :=
    (Co.Reports.withStore (readUntilQuiet_reports timeout _)).bind
      fun (_, banner) => Co.Reports.ite (Co.Reports.pure _)
        (firstMatch_reports banner rule.matchRules)
  exact Co.Reports.ite readAndMatch ((writeAll_reports _ timeout).bind fun _ =>
    Co.Reports.ite (Co.Reports.pure _) readAndMatch)

theorem sendPending_reports (timeout : Nat) (chunks : List Bytes) :
    Co.Reports Throwing (sendPending timeout chunks : Task σ Bool) := by
  induction chunks with
  | nil => exact Co.Reports.pure true
  | cons chunk chunks induction =>
      exact (writeAll_reports chunk timeout).bind fun _ =>
        Co.Reports.ite induction (Co.Reports.pure false)

theorem feedHandshake_reports :
    Co.Reports Throwing (feedHandshake : Task σ (Option Bool)) := by
  refine (read_reports 4096).bind fun received => ?_
  split
  · exact Co.Reports.pure _
  · exact Co.Reports.pure _
  · exact (Co.Reports.emit _).bind fun _ => Co.Reports.pure _

theorem driveHandshake_reports (timeout : Nat) :
    Co.Reports Throwing (driveHandshake timeout : Task σ Bool) := by
  refine Co.Reports.loop ((Co.Reports.await ?_).bind fun (handshake, pending) =>
    Co.Reports.ite (Co.Reports.pure _)
      ((sendPending_reports timeout _).bind fun _ =>
        Co.Reports.ite (Co.Reports.pure _) ?_))
  · intro answer _ accepted
    cases answer <;> simp_all [Answer.stepped?, Throwing]
  · cases handshake with
    | wantRead => exact feedHandshake_reports
    | _ => exact Co.Reports.pure _

theorem created_reports (operation : Operation) :
    Co.Reports Throwing (Co.await operation Answer.created? : Task σ Bool) := by
  refine Co.Reports.await ?_
  intro answer _ accepted
  cases answer <;> simp_all [Answer.created?, Throwing]

theorem tlsProbe_identify_reports (sha256Hex : Bytes → Bytes) (timeout : Nat) :
    Co.Reports Throwing (TlsProbe.identify sha256Hex timeout :
      Task σ ProbeOutcome) := by
  refine (created_reports _).bind fun _ => Co.Reports.ite (Co.Reports.pure _) ?_
  refine (created_reports _).bind fun _ => Co.Reports.ite (Co.Reports.pure _) ?_
  refine (created_reports _).bind fun _ => Co.Reports.ite (Co.Reports.pure _) ?_
  refine (driveHandshake_reports timeout).bind fun _ =>
    Co.Reports.ite (Co.Reports.pure _) ?_
  refine (Co.Reports.await ?_).bind fun _ => Co.Reports.pure _
  intro answer _ accepted
  cases answer <;> simp_all [Answer.session?, Throwing]

end

section

variable {sha256Hex : Bytes → Bytes} {F : Type}
variable {request : ScanRequest} {rtt timestamp : Int}

theorem probeLoop_reports (port : UInt16) (timeout : Nat)
    (results : List Endpoint) (probes : List ProbeVariant)
    (base : ScanResult F) :
    Co.Reports Throwing (probeLoop sha256Hex port timeout results probes base :
      Task Unit (ScanResult F)) := by
  induction probes with
  | nil => exact Co.Reports.pure base
  | cons probe probes induction =>
      refine Co.Reports.ite induction (Co.Reports.bind ?_ fun out =>
        Co.Reports.ite (Co.Reports.pure _)
          ((asyncConnect_reports results).bind fun _ =>
            Co.Reports.ite induction (Co.Reports.pure base)))
      cases probe with
      | json rule => exact probeRule_identify_reports rule timeout
      | tls => exact tlsProbe_identify_reports sha256Hex timeout

variable [Floating F] {cves : Option (CveDb F)}

theorem identifyService_reports (probes : List ProbeVariant)
    (base : ScanResult F) :
    Co.Reports Throwing (identifyService sha256Hex request probes cves base :
      Task Unit (ScanResult F)) := by
  refine (asyncResolve_reports _ _).bind fun resolved => ?_
  cases resolved with
  | none => exact Co.Reports.pure base
  | some results =>
      exact (asyncConnect_reports results).bind fun _ =>
        Co.Reports.ite
          ((probeLoop_reports _ _ results probes base).bind fun _ =>
            Co.Reports.pure _)
          (Co.Reports.pure base)

omit [Floating F] in
theorem connectScan_reports :
    Co.Reports Throwing (connectScan request timestamp :
      Task Unit (ScanResult F)) := by
  rw [connectScan_eq]
  refine (Co.Reports.race ?_).bind fun _ => Co.Reports.pure _
  refine (asyncResolve_reports _ _).bind fun resolved => ?_
  cases resolved with
  | none => exact Co.Reports.pure false
  | some results => exact asyncConnect_reports results

theorem scanOne_reports (probes : Option (List ProbeVariant)) :
    Co.Reports Throwing
      (scanOne sha256Hex request rtt timestamp probes cves :
        Task Unit (ScanResult F)) := by
  refine acquire_reports.bind fun _ => connectScan_reports.bind fun base => ?_
  refine (Co.Reports.emit _).bind fun _ => ?_
  split
  · exact identifyService_reports _ _
  · exact Co.Reports.pure _

end

/-! A probe that finds nothing says so, and none of its waits lasts longer than
its time limit. -/

section

variable {σ α : Type}

/-- What is reported as matched has been found. -/
def Found (body : Task σ ProbeOutcome) : Prop :=
  Co.Satisfies body fun used _ status => ∀ outcome,
    status = .returned outcome → outcome.matched = true →
      ∃ groups, .answer (.searched (.found groups)) ∈ used

theorem probeRule_identify_found (rule : ProbeRule) (timeout : Nat) :
    Found (rule.identify timeout : Task σ ProbeOutcome) := by
  refine Co.Satisfies.mono (identify_foundAs rule timeout) ?_
  intro used _ status found outcome same matched
  obtain ⟨groups, member, _⟩ := found outcome same matched
  exact ⟨groups, member⟩

theorem writeAll_guarded (payload : Bytes) (timeout : Nat) :
    Co.Guarded Operation.OnSocket timeout (writeAll payload timeout :
      Task σ Bool) := by
  refine (Co.Guarded.race timeout _).bind fun which => ?_
  split <;> exact Co.Guarded.pure _

theorem firstMatch_guarded (timeout : Nat) (banner : Bytes)
    (rules : List MatchRule) :
    Co.Guarded Operation.OnSocket timeout
      (firstMatch banner rules : Task σ ProbeOutcome) := by
  induction rules with
  | nil => exact Co.Guarded.pure _
  | cons rule rules induction =>
      refine Co.Guarded.bind ((Co.Guarded.await _ id).bind fun search => ?_)
        fun groups => ?_
      · cases search with
        | threw what => exact Co.Guarded.throw _
        | _ => exact Co.Guarded.pure _
      · cases groups with
        | none => exact induction
        | some groups => exact Co.Guarded.pure _

theorem probeRule_identify_guarded (rule : ProbeRule) (timeout : Nat) :
    Co.Guarded Operation.OnSocket timeout
      (rule.identify timeout : Task σ ProbeOutcome) := by
  have read : Co.Guarded Operation.OnSocket timeout
      (readUntilQuiet timeout kMaxBannerBytes) := by
    refine (Co.Guarded.race timeout _).bind fun which => ?_
    split
    · exact Co.Guarded.load.bind fun _ => Co.Guarded.pure _
    · exact Co.Guarded.pure _
  have readAndMatch : Co.Guarded Operation.OnSocket timeout
      (rule.readAndMatch timeout : Task σ ProbeOutcome) :=
    (Co.Guarded.withStore read).bind fun (_, banner) =>
      Co.Guarded.ite (Co.Guarded.pure _)
        (firstMatch_guarded timeout banner rule.matchRules)
  exact Co.Guarded.ite readAndMatch ((writeAll_guarded _ timeout).bind fun _ =>
    Co.Guarded.ite (Co.Guarded.pure _) readAndMatch)

end

/-! An open port and the results of the caller. -/

section

variable {F : Type} [Floating F]

/-- What `f.get()` gives the caller, once the task is done. -/
def future (run : Run network Unit (ScanResult F)) :
    List (Except RegexError (ScanResult F)) :=
  match run.status with
  | .returned result => [.ok result]
  | .threw error => [.error error]
  | .waiting _ => []

/-- The port is kept: the task returns it as open, and so does every list of
results that the caller collects with this task among the others. -/
def Kept (port : UInt16) (run : Run network Unit (ScanResult F)) : Prop :=
  (∃ result, run.status = .returned result ∧ result.state = .opened ∧
    result.port = port) ∧
  ∀ cdnProvider epss before behind,
    ∃ result ∈ collect cdnProvider epss (before ++ future run ++ behind),
      result.state = .opened ∧ result.port = port

variable {sha256Hex : Bytes → Bytes} {request : ScanRequest}
variable {rtt timestamp : Int} {probes : Option (List ProbeVariant)}
variable {cves : Option (CveDb F)}

theorem Identified.samePort {base result : ScanResult F}
    (identified : Identified cves base result) :
    result.state = base.state ∧ result.port = base.port := by
  have kept (base : ScanResult F) : (lookupCves cves base).state = base.state ∧
      (lookupCves cves base).port = base.port := by
    unfold lookupCves
    split
    · split <;> exact ⟨rfl, rfl⟩
    · exact ⟨rfl, rfl⟩
  rcases identified with rfl | rfl | ⟨out, _, rfl⟩
  · exact ⟨rfl, rfl⟩
  · exact kept base
  · exact kept (recordOutcome base out)

theorem scanOne_returns_open {script : Script}
    (accepted : accepts script = true) {result : ScanResult F}
    (returned : ((scanOne sha256Hex request rtt timestamp probes cves :
      Task Unit (ScanResult F)).run () script).status = .returned result) :
    result.state = .opened ∧ result.port = request.port := by
  have front : ∃ front rest trace, script = front ++ rest ∧ ∀ later,
      (scanOne sha256Hex request rtt timestamp probes cves :
        Task Unit (ScanResult F)).run () (front ++ later) = _ :=
    scanOne_front accepted ()
  obtain ⟨front, rest, trace, rfl, runs⟩ := front
  rw [runs rest] at returned
  exact (afterConnect_returns (makeResult request .opened timestamp)
    |>.of_returned returned).samePort

omit [Floating F] in
/-- A finished task that throws only at failing searches has returned if and
only if its script has none. -/
theorem returned_iff {σ α : Type} {body : Task σ α} {store : σ}
    {script : Script} (reports : Co.Reports Throwing body)
    (finished : (body.run store script).Finished) :
    (∃ value, (body.run store script).status = .returned value) ↔
      ∀ answer, .answer answer ∈ script → ¬ Throwing answer := by
  have threw := reports.threw_iff finished.1
  cases status : (body.run store script).status with
  | returned value =>
      rw [status] at threw
      refine iff_of_true ⟨value, rfl⟩ fun answer member throwing => ?_
      obtain ⟨error, same⟩ := threw.mpr ⟨answer, member, throwing⟩
      cases same
  | threw error =>
      rw [status] at threw
      obtain ⟨answer, member, throwing⟩ := threw.mp ⟨error, rfl⟩
      refine iff_of_false ?_ fun clean => clean answer member throwing
      rintro ⟨value, same⟩
      cases same
  | waiting wait => exact (finished.2 wait status).elim

theorem kept_of_returned {port : UInt16}
    {run : Run network Unit (ScanResult F)} {result : ScanResult F}
    (returned : run.status = .returned result) (isOpen : result.state = .opened)
    (samePort : result.port = port) : Kept port run := by
  refine ⟨⟨result, returned, isOpen, samePort⟩, ?_⟩
  intro cdnProvider epss before behind
  refine ⟨decorate cdnProvider epss result, ?_, isOpen, samePort⟩
  simp [collect, future, returned]

/-- What an exception leaves of the port. -/
theorem collect_threw {run : Run network Unit (ScanResult F)}
    {error : RegexError} (threw : run.status = .threw error)
    (cdnProvider : Bytes) (epss : EpssDb F)
    (before behind : List (Except RegexError (ScanResult F))) :
    collect cdnProvider epss (before ++ future run ++ behind) =
      collect cdnProvider epss (before ++ behind) := by
  simp [collect, future, threw]

theorem kept_returns {port : UInt16} {run : Run network Unit (ScanResult F)}
    (kept : Kept port run) : ∃ result, run.status = .returned result := by
  obtain ⟨⟨result, returned, _⟩, _⟩ := kept
  exact ⟨result, returned⟩

end

/-! What the environment sends a task, as time goes on. -/

/-- At each time a signal, or nothing. -/
abbrev Environment := Nat → Option (Signal network)

namespace Environment

def feed (env : Environment) : Co.Feed network where
  heard n := (List.range n).filterMap env
  grows n := by
    rw [List.range_succ, List.filterMap_append]
    exact List.prefix_append _ _

/-- The environment that sends these signals and then nothing more. -/
def ofScript (script : Script) : Environment :=
  fun n => script[n]?

theorem heard_ofScript (script : Script) (n : Nat) :
    (ofScript script).feed.heard n = script.take n := by
  induction n with
  | zero => rfl
  | succ n induction =>
      have step : (ofScript script).feed.heard (n + 1) =
          (ofScript script).feed.heard n ++ script[n]?.toList := by
        simp only [feed, List.range_succ, List.filterMap_append]
        cases sent : script[n]? <;> simp [ofScript, sent]
      rw [step, induction, List.take_add_one]

theorem mem_heard_iff {env : Environment} {signal : Signal network} :
    (∃ n, signal ∈ env.feed.heard n) ↔ ∃ n, env n = some signal := by
  constructor
  · rintro ⟨n, member⟩
    obtain ⟨k, _, sent⟩ := List.mem_filterMap.mp member
    exact ⟨k, sent⟩
  · rintro ⟨n, sent⟩
    exact ⟨n + 1, List.mem_filterMap.mpr
      ⟨n, List.mem_range.mpr (Nat.lt_succ_self n), sent⟩⟩

/-- No search that the environment decides ends in an exception. -/
def Searches (env : Environment) : Prop :=
  ∀ n answer, env n = some (.answer answer) → ¬ Throwing answer

/-- The steps of OpenSSL behind which a handshake goes on come to an end. -/
def HandshakesEnd (env : Environment) : Prop :=
  ∃ bound, env.feed.Bounded goesOn bound

/-- All that is sent to the task is what it waits for. -/
def Heeded (env : Environment) {α : Type} (body : Task Unit α) : Prop :=
  ∀ n, (body.run () (env.feed.heard n)).rest = []

/-- Each wait of the task is answered, also those that have no timer. -/
def Answers (env : Environment) {α : Type} (body : Task Unit α) : Prop :=
  Co.Served body () env.feed

end Environment

section

variable {α : Type} {body : Task Unit α} {env : Environment}

theorem heard_of_settled (heeded : env.Heeded body) {n m : Nat} (le : n ≤ m)
    (settled : ∀ wait, ¬ (body.run () (env.feed.heard n)).Suspended wait) :
    env.feed.heard m = env.feed.heard n := by
  obtain ⟨later, whole⟩ := env.feed.mono le
  have rest := heeded m
  rw [← whole, body.settled () _ later settled] at rest
  have none : later = [] := (List.append_eq_nil_iff.mp rest).2
  rw [← whole, none, List.append_nil]

theorem finished_of_settled (heeded : env.Heeded body) {n : Nat}
    (settled : ∀ wait, ¬ (body.run () (env.feed.heard n)).Suspended wait) :
    (body.run () (env.feed.heard n)).Finished :=
  ⟨heeded n, fun wait waits => settled wait ⟨waits, heeded n⟩⟩

/-- A task that throws only at failing searches returns if and only if none of
them fails and each of its waits is answered. -/
theorem returns_iff (reports : Co.Reports Throwing body)
    (ends : Co.EndsOn body () env.feed) (heeded : env.Heeded body) :
    (∃ n value, (body.run () (env.feed.heard n)).status = .returned value) ↔
      env.Searches ∧ env.Answers body := by
  constructor
  · rintro ⟨n, value, returned⟩
    have settled := Run.not_suspended_of_returned returned
    have finished := finished_of_settled heeded settled
    have clean := (returned_iff reports finished).mp ⟨value, returned⟩
    constructor
    · intro k answer sent
      obtain ⟨m, member⟩ := Environment.mem_heard_iff.mpr ⟨k, sent⟩
      refine clean answer ?_
      rcases Nat.le_total m n with le | le
      · exact (env.feed.mono le).subset member
      · rwa [← heard_of_settled heeded le settled]
    · intro m wait suspended
      rcases Nat.le_total m n with le | le
      · refine ⟨n, le, fun same => ?_⟩
        rw [same] at settled
        exact settled wait suspended
      · rw [heard_of_settled heeded le settled] at suspended
        exact (settled wait suspended).elim
  · rintro ⟨searches, answered⟩
    obtain ⟨n, settled⟩ := ends answered
    refine ⟨n, (returned_iff reports (finished_of_settled heeded settled)).mpr ?_⟩
    intro answer member
    obtain ⟨k, sent⟩ := Environment.mem_heard_iff.mp ⟨n, member⟩
    exact searches k answer sent

theorem handshakesEnd_of_settled (heeded : env.Heeded body) {n : Nat}
    (settled : ∀ wait, ¬ (body.run () (env.feed.heard n)).Suspended wait) :
    env.HandshakesEnd := by
  refine ⟨(env.feed.heard n).countP goesOn, fun m => ?_⟩
  rcases Nat.le_total m n with le | le
  · exact (env.feed.mono le).sublist.countP_le
  · rw [heard_of_settled heeded le settled]

end

/-- The probe of a rule comes to its result without an exception, and reports a
match only where it has found one.  On its socket it waits only with a timer. -/
structure Completes (rule : ProbeRule) (timeout : Nat) (env : Environment) :
    Prop where
  outcome : ∃ n outcome, ((rule.identify timeout :
      Task Unit ProbeOutcome).run () (env.feed.heard n)).status =
        .returned outcome ∧
    (outcome.matched = true →
      ∃ groups, .answer (.searched (.found groups)) ∈ env.feed.heard n)
  guarded : ∀ n, Co.GuardedAt Operation.OnSocket timeout
    (rule.identify timeout : Task Unit ProbeOutcome) () (env.feed.heard n)

theorem completes_iff {rule : ProbeRule} {timeout : Nat} {env : Environment}
    (heeded : env.Heeded (rule.identify timeout : Task Unit ProbeOutcome)) :
    Completes rule timeout env ↔ env.Searches ∧
      env.Answers (rule.identify timeout : Task Unit ProbeOutcome) := by
  have none : env.feed.Bounded (fun _ => false) 0 := by
    intro n
    simp
  have ends := probeRule_identify_ends rule timeout () env.feed 0 none
  rw [← returns_iff (probeRule_identify_reports rule timeout) ends heeded]
  constructor
  · rintro ⟨⟨n, outcome, returned, _⟩, _⟩
    exact ⟨n, outcome, returned⟩
  · rintro ⟨n, outcome, returned⟩
    refine ⟨⟨n, outcome, returned, ?_⟩, fun n =>
      probeRule_identify_guarded rule timeout () _⟩
    obtain ⟨used, whole, found⟩ :=
      probeRule_identify_found rule timeout () (env.feed.heard n)
    rw [heeded n, List.append_nil] at whole
    rw [whole]
    rw [whole] at returned found
    exact found outcome returned

section

variable {F : Type} [Floating F] {sha256Hex : Bytes → Bytes}
variable {request : ScanRequest} {rtt timestamp : Int}
variable {probes : Option (List ProbeVariant)} {cves : Option (CveDb F)}

/-- The probe of a rule completes if and only if none of its searches throws and
each of its waits is answered.  The task of a port that is found open comes to a
result that keeps the port if and only if none of its searches throws, each of its
waits is answered and no handshake goes on forever. -/
theorem failures_lose_nothing_iff (rule : ProbeRule) (timeout : Nat)
    {probed env : Environment}
    (heededByProbe :
      probed.Heeded (rule.identify timeout : Task Unit ProbeOutcome))
    (heeded : env.Heeded (scanOne sha256Hex request rtt timestamp probes cves :
      Task Unit (ScanResult F)))
    (accepted : ∃ n, accepts (env.feed.heard n) = true) :
    (Completes rule timeout probed ↔ probed.Searches ∧
      probed.Answers (rule.identify timeout : Task Unit ProbeOutcome)) ∧
    ((∃ n, Kept request.port
        ((scanOne sha256Hex request rtt timestamp probes cves :
          Task Unit (ScanResult F)).run () (env.feed.heard n))) ↔
      env.Searches ∧ env.HandshakesEnd ∧
        env.Answers (scanOne sha256Hex request rtt timestamp probes cves :
          Task Unit (ScanResult F))) := by
  refine ⟨completes_iff heededByProbe, ?_⟩
  have reports : Co.Reports Throwing
      (scanOne sha256Hex request rtt timestamp probes cves :
        Task Unit (ScanResult F)) := scanOne_reports probes
  have ends : Ends goesOn (scanOne sha256Hex request rtt timestamp probes cves :
      Task Unit (ScanResult F)) := scanOne_ends probes
  constructor
  · rintro ⟨n, kept⟩
    obtain ⟨result, returned⟩ := kept_returns kept
    have settled := Run.not_suspended_of_returned returned
    have handshakes := handshakesEnd_of_settled heeded settled
    obtain ⟨bound, bounded⟩ := handshakes
    obtain ⟨searches, answered⟩ :=
      (returns_iff reports (ends () env.feed bound bounded) heeded).mp
        ⟨n, result, returned⟩
    exact ⟨searches, ⟨bound, bounded⟩, answered⟩
  · rintro ⟨searches, ⟨bound, bounded⟩, answered⟩
    obtain ⟨n, result, returned⟩ :=
      (returns_iff reports (ends () env.feed bound bounded) heeded).mpr
        ⟨searches, answered⟩
    have settled := Run.not_suspended_of_returned returned
    have acceptedBefore : accepts (env.feed.heard n) = true := by
      obtain ⟨m, accepted⟩ := accepted
      rcases Nat.le_total m n with le | le
      · exact accepts_mono (env.feed.mono le) accepted
      · rwa [← heard_of_settled heeded le settled]
    obtain ⟨isOpen, samePort⟩ := scanOne_returns_open acceptedBefore returned
    exact ⟨n, kept_of_returned returned isOpen samePort⟩

end

/-- A rule with a pattern that can exhaust the regex engine. -/
def backtrackingRule : ProbeRule where
  name := bytes "letters"
  ports := [9999]
  sendPayload := []
  matchRules := [⟨bytes "^(a+)+$", bytes "letters", []⟩]

def searchOnce (search : Search) : Script :=
  [.answer (.received (bytes "aaaaaaaa!")), .timer, .answer (.searched search)]

def openPort : Script :=
  answers [.granted, .resolved [⟨bytes "10.0.0.5", 9999⟩], .connected,
    .resolved [⟨bytes "10.0.0.5", 9999⟩], .connected]

def scanLetters : Task Unit (ScanResult ℚ) :=
  scanOne (fun _ => []) ⟨bytes "10.0.0.5", 9999, 2000⟩ 1 0
    (some [.json backtrackingRule]) none

namespace Environment

variable {script : Script}

theorem searches_ofScript
    (clean : ∀ answer, .answer answer ∈ script → ¬ Throwing answer) :
    (ofScript script).Searches :=
  fun _ answer sent => clean answer (List.mem_of_getElem? sent)

theorem handshakesEnd_ofScript : (ofScript script).HandshakesEnd := by
  refine ⟨script.length, fun n => List.countP_le_length.trans ?_⟩
  rw [heard_ofScript]
  exact List.length_take_le' n script

variable {α : Type} {body : Task Unit α}

theorem heeded_ofScript (heeded : ∀ n ≤ script.length,
    (body.run () (script.take n)).rest.isEmpty = true) :
    (ofScript script).Heeded body := by
  intro n
  rw [heard_ofScript]
  rcases Nat.le_total n script.length with le | le
  · exact List.isEmpty_iff.mp (heeded n le)
  · have whole := heeded script.length le_rfl
    rw [List.take_length] at whole
    rw [List.take_of_length_le le]
    exact List.isEmpty_iff.mp whole

theorem answers_ofScript {value : α}
    (returned : (body.run () script).status = .returned value) :
    (ofScript script).Answers body := by
  intro n wait suspended
  rcases Nat.lt_or_ge n script.length with less | le
  · refine ⟨script.length, less.le, fun same => ?_⟩
    have length := congrArg List.length same
    simp only [heard_ofScript, List.length_take] at length
    omega
  · rw [heard_ofScript, List.take_of_length_le le] at suspended
    exact (Run.not_suspended_of_returned returned wait suspended).elim

/-- What throws in the end has not returned before. -/
theorem not_returned_ofScript {error : RegexError}
    (threw : (body.run () script).status = .threw error) (n : Nat) (value : α) :
    (body.run () ((ofScript script).feed.heard n)).status ≠ .returned value := by
  intro returned
  rw [heard_ofScript] at returned
  have settled := body.settled () (script.take n) (script.drop n)
    (Run.not_suspended_of_returned returned)
  rw [List.take_append_drop] at settled
  rw [settled] at threw
  simp [Run.extend, returned] at threw

end Environment

/-- The server refuses the connection for the next probe. -/
def unmatchedPort : Script :=
  openPort ++ searchOnce .noMatch ++ [.answer .refused]

theorem failures_lose_nothing_iff_noMatch :
    Completes backtrackingRule 2000 (.ofScript (searchOnce .noMatch)) ∧
    ∃ n, Kept 9999
      (scanLetters.run () ((Environment.ofScript unmatchedPort).feed.heard n)) := by
  have probed : ((backtrackingRule.identify 2000 :
      Task Unit ProbeOutcome).run () (searchOnce .noMatch)).status =
        .returned {} := by decide +kernel
  have scanned : (scanLetters.run () unmatchedPort).status = .returned
      { targetHost := bytes "10.0.0.5", port := 9999, state := .opened,
        rtt := 1 } := by decide +kernel
  have heededByProbe : (Environment.ofScript (searchOnce .noMatch)).Heeded
      (backtrackingRule.identify 2000 : Task Unit ProbeOutcome) :=
    Environment.heeded_ofScript (by decide +kernel)
  have heeded : (Environment.ofScript unmatchedPort).Heeded scanLetters :=
    Environment.heeded_ofScript (by decide +kernel)
  have accepted : accepts
      ((Environment.ofScript unmatchedPort).feed.heard 9) = true := by
    rw [Environment.heard_ofScript]
    decide
  have nothing := failures_lose_nothing_iff backtrackingRule 2000
    heededByProbe heeded ⟨9, accepted⟩
  refine ⟨nothing.1.mpr ⟨Environment.searches_ofScript ?_,
      Environment.answers_ofScript probed⟩,
    nothing.2.mpr ⟨Environment.searches_ofScript ?_,
      Environment.handshakesEnd_ofScript,
      Environment.answers_ofScript scanned⟩⟩
  · simp [searchOnce, Throwing]
  · simp [unmatchedPort, openPort, answers, searchOnce, Throwing]

def complexityError : Search :=
  .threw (bytes "regex_error(error_complexity)")

def explodingPort : Script :=
  openPort ++ searchOnce complexityError

/-- Where that search throws, so does the probe, and the open port is in no list
of results. -/
theorem complexityError_loses_port :
    ¬ Completes backtrackingRule 2000 (.ofScript (searchOnce complexityError)) ∧
    accepts explodingPort = true ∧
    (∀ n, ¬ Kept 9999 (scanLetters.run ()
      ((Environment.ofScript explodingPort).feed.heard n))) ∧
    collect [] {} (future (scanLetters.run () explodingPort)) = [] := by
  have probeThrew : ((backtrackingRule.identify 2000 :
      Task Unit ProbeOutcome).run () (searchOnce complexityError)).status =
        .threw ⟨bytes "regex_error(error_complexity)"⟩ := by decide +kernel
  have threw : (scanLetters.run () explodingPort).status =
      .threw ⟨bytes "regex_error(error_complexity)"⟩ := by decide +kernel
  refine ⟨?_, by decide, ?_, ?_⟩
  · rintro ⟨⟨n, outcome, returned, _⟩, _⟩
    exact Environment.not_returned_ofScript probeThrew n outcome returned
  · intro n kept
    obtain ⟨result, returned⟩ := kept_returns kept
    exact Environment.not_returned_ofScript threw n result returned
  · have lost := collect_threw threw [] {} [] []
    rwa [List.nil_append, List.append_nil] at lost

end ServicePortScanner.Scan
