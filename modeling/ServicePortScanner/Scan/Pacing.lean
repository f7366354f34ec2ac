import ServicePortScanner.Core.ExactFloating
import ServicePortScanner.Scan.ScanPipeline

namespace ServicePortScanner.Scan

open ServicePortScanner.Data ServicePortScanner.Core ServicePortScanner.Net
open ServicePortScanner.Fp ServicePortScanner.Probes

/-! How many connection attempts a token of the limiter pays for. -/

def isToken : Action → Bool
  | .token => true
  | _ => false

def isAttempt : Action → Bool
  | .attempt _ => true
  | _ => false

/-- At no point have more connections been started than tokens acquired. -/
def Paid (trace : List Action) : Prop :=
  ∀ reached, reached <+: trace →
    reached.countP isAttempt ≤ reached.countP isToken

theorem Paid.nil : Paid [] := by
  intro reached isPrefix
  rw [List.prefix_nil.mp isPrefix]
  exact le_refl _

theorem Paid.cons_token {trace : List Action}
    (few : trace.countP isAttempt ≤ 1) : Paid (.token :: trace) := by
  intro reached isPrefix
  rcases List.prefix_cons_iff.mp isPrefix with rfl | ⟨rest, rfl, shorter⟩
  · exact le_refl _
  · have fewer : rest.countP isAttempt ≤ trace.countP isAttempt :=
      shorter.sublist.countP_le
    simp only [List.countP_cons, isAttempt, isToken]
    simp only [Bool.false_eq_true, if_false, if_true]
    omega

theorem not_paid_of_front (front : List Action)
    (many : 2 ≤ front.countP isAttempt) (unpaid : front.countP isToken = 0)
    (behind : List Action) : ¬ Paid (.token :: (front ++ behind)) := by
  intro paid
  have counts := paid (.token :: front)
    (List.cons_prefix_cons.mpr ⟨rfl, List.prefix_append front behind⟩)
  simp only [List.countP_cons, isAttempt, isToken, unpaid] at counts
  simp only [Bool.false_eq_true, if_false, if_true] at counts
  omega

theorem asyncConnect_trace {σ : Type} (first : Endpoint)
    (endpoints : List Endpoint) (store : σ) (script : Script) :
    ∃ behind, ((asyncConnect (first :: endpoints)).run store script).trace =
      Action.attempt first :: behind :=
  Co.bind_trace (Co.emit (Action.attempt first)) _ store script

section

variable {sha256Hex : Bytes → Bytes} {F : Type} [Floating F]
variable {request : ScanRequest} {rtt timestamp : Int}
variable {probes : Option (List ProbeVariant)} {cves : Option (CveDb F)}

/-- The first endpoint refuses and there is another one, or the connect scan
succeeds and, with probes, the name resolves to an endpoint once more. -/
def secondAttempt (probed : Bool) : Script → Bool
  | .answer .granted :: .answer (.resolved (_ :: _ :: _)) ::
      .answer .refused :: _ => true
  | .answer .granted :: .answer (.resolved (_ :: _)) :: .answer .connected ::
      .answer (.resolved (_ :: _)) :: _ => probed
  | _ => false

/-- The race for the first endpoint goes on to the second one, or ends with a
connection, or has made its only attempt. -/
theorem race_asyncConnect_trace (timeout : Nat) (first : Endpoint)
    (endpoints : List Endpoint) (script : Script) :
    let run := (Co.race timeout (asyncConnect (first :: endpoints)) :
      Task Unit (Option Bool)).run () script
    (∃ second others rest behind, endpoints = second :: others ∧
      script = .answer .refused :: rest ∧
      run.trace = .attempt first :: .attempt second :: behind) ∨
    (∃ rest, script = .answer .connected :: rest ∧
      run = ⟨[.attempt first], rest, (), .returned (some true)⟩) ∨
    (run.trace = [.attempt first] ∧
      connectsTo (first :: endpoints) script = false ∧
      ∀ probed, secondAttempt probed (.answer .granted ::
        .answer (.resolved (first :: endpoints)) :: script) = false) := by
  rw [race_asyncConnect_cons]
  cases script with
  | nil => simp [connectsTo, secondAttempt]
  | cons signal rest =>
      cases signal with
      | timer => simp [connectsTo, secondAttempt]
      | answer answer =>
          cases answer with
          | connected =>
              exact .inr (.inl ⟨rest, rfl, rfl⟩)
          | refused =>
              cases endpoints with
              | nil =>
                  simp [connectsTo, secondAttempt, Answer.connection?,
                    asyncConnect, Co.race_run_pure]
              | cons second others =>
                  simp only [Answer.connection?, race_asyncConnect_cons]
                  exact .inl ⟨second, others, rest, _, rfl, rfl, rfl⟩
          | _ => simp [connectsTo, secondAttempt, Answer.connection?]

theorem race_doConnect_trace (request : ScanRequest) (script : Script) :
    let run := (Co.race request.timeout (doConnect request) :
      Task Unit (Option Bool)).run () script
    (∃ first second endpoints rest behind,
      script = .answer (.resolved (first :: second :: endpoints)) ::
        .answer .refused :: rest ∧
      run.trace = .attempt first :: .attempt second :: behind) ∨
    (∃ first endpoints rest,
      script = .answer (.resolved (first :: endpoints)) ::
        .answer .connected :: rest ∧
      run = ⟨[.attempt first], rest, (), .returned (some true)⟩) ∨
    (run.trace.countP isAttempt ≤ 1 ∧ connects script = false ∧
      ∀ probed, secondAttempt probed (.answer .granted :: script) = false) := by
  rw [race_doConnect]
  cases script with
  | nil => simp [connects, secondAttempt]
  | cons signal rest =>
      cases signal with
      | timer => simp [connects, secondAttempt]
      | answer answer =>
          cases answer with
          | resolved endpoints =>
              cases endpoints with
              | nil =>
                  simp [connects, connectsTo, secondAttempt, Answer.resolution?,
                    asyncConnect, Co.race_run_pure]
              | cons first endpoints =>
                  simp only [Answer.resolution?]
                  rcases race_asyncConnect_trace request.timeout first endpoints
                    rest with
                    ⟨second, others, rest, behind, rfl, rfl, trace⟩ |
                    ⟨rest, rfl, run⟩ | ⟨trace, rejects, single⟩
                  · exact .inl ⟨first, second, others, rest, behind, rfl, trace⟩
                  · exact .inr (.inl ⟨first, endpoints, rest, rfl, run⟩)
                  · refine .inr (.inr ⟨?_, rejects, single⟩)
                    rw [trace]
                    exact Nat.le_refl _
          | _ => simp [connects, secondAttempt, Answer.resolution?]

theorem identifyService_trace (sha256Hex : Bytes → Bytes)
    (request : ScanRequest) (probes : List ProbeVariant)
    (cves : Option (CveDb F)) (base : ScanResult F) (script : Script) :
    let run := (identifyService sha256Hex request probes cves base :
      Task Unit (ScanResult F)).run () script
    (∃ first endpoints rest behind,
      script = .answer (.resolved (first :: endpoints)) :: rest ∧
      run.trace = .attempt first :: behind) ∨
    (run.trace = [] ∧ ∀ first endpoints rest,
      script ≠ .answer (.resolved (first :: endpoints)) :: rest) := by
  cases script with
  | nil => exact .inr ⟨rfl, nofun⟩
  | cons signal rest =>
      cases signal with
      | timer => exact .inr ⟨rfl, nofun⟩
      | answer answer =>
          cases answer with
          | resolved endpoints =>
              cases endpoints with
              | nil => exact .inr ⟨rfl, nofun⟩
              | cons first endpoints =>
                  have tried : ∃ next, (identifyService sha256Hex request probes
                      cves base : Task Unit (ScanResult F)).run ()
                        (.answer (.resolved (first :: endpoints)) :: rest) =
                      ((asyncConnect (first :: endpoints) >>= next).run ()
                        rest).after [] := ⟨_, rfl⟩
                  obtain ⟨next, tried⟩ := tried
                  obtain ⟨later, trace⟩ := Co.bind_trace
                    (asyncConnect (first :: endpoints)) next () rest
                  obtain ⟨behind, begun⟩ :=
                    asyncConnect_trace first endpoints () rest
                  refine .inl ⟨first, endpoints, rest, behind ++ later, rfl, ?_⟩
                  rw [tried, Run.after_nil, trace, begun, List.cons_append]
          | _ => exact .inr ⟨rfl, nofun⟩

theorem connectScan_connected (timestamp : Int) {first : Endpoint}
    {endpoints : List Endpoint} {rest : Script}
    (connected : (Co.race request.timeout (doConnect request) :
        Task Unit (Option Bool)).run ()
        (.answer (.resolved (first :: endpoints)) ::
          .answer .connected :: rest) =
      ⟨[.attempt first], rest, (), .returned (some true)⟩) :
    (Paid (.token :: ((connectScan request timestamp >>=
        afterConnect sha256Hex request rtt probes cves :
          Task Unit (ScanResult F)).run ()
        (.answer (.resolved (first :: endpoints)) ::
          .answer .connected :: rest)).trace) ↔
      secondAttempt probes.isSome (.answer .granted ::
        .answer (.resolved (first :: endpoints)) ::
          .answer .connected :: rest) = false) := by
  have opened : (connectScan request timestamp :
      Task Unit (ScanResult F)).run () (.answer (.resolved
        (first :: endpoints)) :: .answer .connected :: rest) =
      ⟨[.attempt first], rest, (),
        .returned (makeResult request .opened timestamp)⟩ := by
    rw [connectScan_eq, Co.bind_run, connected]
    rfl
  rw [Co.bind_run_returned (by rw [opened]), opened]
  cases probes with
  | none =>
      rw [afterConnect_eq (.inr rfl)]
      refine iff_of_true (Paid.cons_token (Nat.le_refl 1)) ?_
      unfold secondAttempt
      split <;> simp_all
  | some probes =>
      rw [afterConnect_opened]
      rcases identifyService_trace sha256Hex request probes cves
        (openResult request rtt timestamp : ScanResult F) rest with
        ⟨second, others, rest, behind, rfl, trace⟩ | ⟨trace, unresolved⟩
      · simp only [Run.after_trace, trace]
        refine iff_of_false ?_ (by simp [secondAttempt])
        exact not_paid_of_front
          [.attempt first, .respond rtt false, .attempt second]
          (Nat.le_refl 2) rfl behind
      · simp only [Run.after_trace, trace]
        refine iff_of_true (Paid.cons_token (Nat.le_refl 1)) ?_
        unfold secondAttempt
        split <;> simp_all

theorem few_attempts (timestamp : Int) {script : Script}
    (few : ((Co.race request.timeout (doConnect request) :
      Task Unit (Option Bool)).run () script).trace.countP isAttempt ≤ 1) :
    ((connectScan request timestamp >>=
        afterConnect sha256Hex request rtt none cves :
      Task Unit (ScanResult F)).run () script).trace.countP isAttempt ≤ 1 := by
  have same : ((connectScan request timestamp :
      Task Unit (ScanResult F)).run () script).trace = _ :=
    connectScan_trace request timestamp () script
  rw [← same] at few
  rw [Co.bind_run]
  split
  · rw [afterConnect_eq (.inr rfl), Run.after_trace, List.countP_append]
    exact few
  · exact few
  · exact few

/-- Every attempt is paid for by a token if and only if the environment does not
cause a second attempt. -/
theorem scanOne_paid_iff (script : Script) :
    Paid ((scanOne sha256Hex request rtt timestamp probes cves :
      Task Unit (ScanResult F)).run () script).trace ↔
      secondAttempt probes.isSome script = false := by
  by_cases granted : ∃ rest, script = .answer .granted :: rest
  · obtain ⟨script, rfl⟩ := granted
    rcases race_doConnect_trace request script with
      ⟨first, second, endpoints, rest, behind, rfl, trace⟩ |
      ⟨first, endpoints, rest, rfl, connected⟩ | ⟨few, rejects, single⟩
    · obtain ⟨later, whole⟩ := Co.bind_trace
        (connectScan request timestamp : Task Unit (ScanResult F))
        (afterConnect sha256Hex request rtt probes cves) ()
        (.answer (.resolved (first :: second :: endpoints)) ::
          .answer .refused :: rest)
      rw [connectScan_trace, trace] at whole
      rw [scanOne_granted, Run.after_trace, whole]
      refine iff_of_false ?_ (by simp [secondAttempt])
      exact not_paid_of_front [.attempt first, .attempt second]
        (Nat.le_refl 2) rfl _
    · exact connectScan_connected timestamp connected
    · have rejected : accepts (.answer .granted :: script) = false := rejects
      rw [scanOne_rejects rejected, scanOne_granted, Run.after_trace]
      exact iff_of_true (Paid.cons_token (few_attempts timestamp few)) (single _)
  · have ungranted (rest : Script) : script ≠ .answer .granted :: rest :=
      fun same => granted ⟨rest, same⟩
    rw [scanOne_ungranted ungranted]
    refine iff_of_true Paid.nil ?_
    unfold secondAttempt
    split
    · exact (ungranted _ rfl).elim
    · exact (ungranted _ rfl).elim
    · rfl

end

/-- An open port, no probe for it, and a peer that accepts both connections. -/
theorem scanOne_not_paid :
    ¬ Paid ((scanOne (fun _ => []) ⟨bytes "10.0.0.5", 9999, 2000⟩ 1 0
      (some defaultProbes) none : Task Unit (ScanResult ℚ)).run ()
        (answers [.granted, .resolved [⟨bytes "10.0.0.5", 9999⟩], .connected,
          .resolved [⟨bytes "10.0.0.5", 9999⟩], .connected])).trace := by
  intro paid
  have counts := paid _ (List.prefix_refl _)
  revert counts
  decide +kernel

end ServicePortScanner.Scan
