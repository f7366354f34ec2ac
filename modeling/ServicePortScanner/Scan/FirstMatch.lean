import ServicePortScanner.Data.CoroutineLog
import ServicePortScanner.Scan.ProbeAttempts

namespace ServicePortScanner.Scan

open ServicePortScanner.Data ServicePortScanner.Core ServicePortScanner.Net
open ServicePortScanner.Fp ServicePortScanner.Probes

/-! Which probe of a scan is picked, and on which connection it runs. -/

/-! The pipeline over any calls in the places of `connect_scan`,
`async_resolve`, `async_connect` and `identify`. -/

structure Calls (σ F : Type) where
  scan : Task σ (ScanResult F)
  resolve : Task σ (Option (List Endpoint))
  connect : List Endpoint → Task σ Bool
  identify : ProbeVariant → Task σ ProbeOutcome

section

variable {σ F : Type}

def probeLoopOf (calls : Calls σ F) (port : UInt16) (results : List Endpoint) :
    List ProbeVariant → ScanResult F → Task σ (ScanResult F)
  | [], base => return base
  | probe :: rest, base =>
      if !probe.matchesHint port then probeLoopOf calls port results rest base
      else do
        let out ← calls.identify probe
        if out.matched then return recordOutcome base out
        if ← calls.connect results then
          probeLoopOf calls port results rest base
        else return base

variable [Floating F]

def identifyServiceOf (calls : Calls σ F) (port : UInt16)
    (probes : List ProbeVariant) (cves : Option (CveDb F))
    (base : ScanResult F) : Task σ (ScanResult F) := do
  match ← calls.resolve with
  | none => return base
  | some results =>
      if ← calls.connect results then
        let base ← probeLoopOf calls port results probes base
        return lookupCves cves base
      else return base

def afterConnectOf (calls : Calls σ F) (port : UInt16) (rtt : Int)
    (probes : Option (List ProbeVariant)) (cves : Option (CveDb F))
    (base : ScanResult F) : Task σ (ScanResult F) := do
  let base := { base with rtt := rtt }
  Co.emit (.respond rtt (base.state == .filtered))
  match base.state, probes with
  | .opened, some probes => identifyServiceOf calls port probes cves base
  | _, _ => return base

def scanOneOf (calls : Calls σ F) (port : UInt16) (rtt : Int)
    (probes : Option (List ProbeVariant)) (cves : Option (CveDb F)) :
    Task σ (ScanResult F) := do
  acquire
  let base ← calls.scan
  afterConnectOf calls port rtt probes cves base

variable {calls : Calls σ F} {port : UInt16} {rtt : Int}
variable {probes : Option (List ProbeVariant)} {cves : Option (CveDb F)}

theorem afterConnectOf_skipped {base : ScanResult F}
    (skipped : base.state ≠ .opened ∨ probes = none) :
    afterConnectOf calls port rtt probes cves base = do
      Co.emit (.respond rtt (base.state == .filtered))
      return { base with rtt := rtt } := by
  unfold afterConnectOf
  dsimp only
  congr 1
  funext _
  split
  · next opened =>
      rcases skipped with closed | absent
      · exact absurd opened closed
      · cases absent
  · rfl

theorem afterConnectOf_opened {base : ScanResult F}
    (opened : base.state = .opened) (probes : List ProbeVariant) :
    afterConnectOf calls port rtt (some probes) cves base = (do
      Co.emit (.respond rtt (base.state == .filtered))
      identifyServiceOf calls port probes cves { base with rtt := rtt }) := by
  unfold afterConnectOf
  dsimp only
  congr 1
  funext _
  rw [opened]

end

section

variable (sha256Hex : Bytes → Bytes) {σ F : Type}
variable (request : ScanRequest) (rtt timestamp : Int)

/-- The calls that `scan_one` makes. -/
def plainCalls : Calls σ F where
  scan := connectScan request timestamp
  resolve := asyncResolve request.host (portText request.port)
  connect := asyncConnect
  identify probe := probe.identify sha256Hex request.timeout

theorem probeLoopOf_plainCalls (results : List Endpoint)
    (probes : List ProbeVariant) (base : ScanResult F) :
    probeLoopOf (plainCalls sha256Hex request timestamp : Calls σ F)
        request.port results probes base =
      probeLoop sha256Hex request.port request.timeout results probes base := by
  induction probes with
  | nil => rfl
  | cons probe probes induction =>
      simp only [probeLoopOf, probeLoop, induction]
      rfl

variable [Floating F]

theorem scanOneOf_plainCalls (probes : Option (List ProbeVariant))
    (cves : Option (CveDb F)) :
    (scanOneOf (plainCalls sha256Hex request timestamp) request.port rtt probes
      cves : Task σ (ScanResult F)) =
      scanOne sha256Hex request rtt timestamp probes cves := by
  have service : identifyServiceOf
      (plainCalls sha256Hex request timestamp : Calls σ F) request.port =
        identifyService sha256Hex request := by
    funext probes cves base
    unfold identifyServiceOf
    simp only [probeLoopOf_plainCalls]
    rfl
  unfold scanOneOf afterConnectOf
  rw [service]
  rfl

end

/-! The log of a scan. -/

inductive Event (F : Type) where
  /-- what `connect_scan` has returned -/
  | scanned (base : ScanResult F)
  /-- a new connection -/
  | connected
  | unreachable
  | identified (probe : ProbeVariant) (out : ProbeOutcome)

section

variable {F : Type}

def connectEntries (ok : Bool) : List (Event F) :=
  [if ok then .connected else .unreachable]

def resolveEntries (results : Option (List Endpoint)) : List (Event F) :=
  if results.isSome then [] else [.unreachable]

/-- The same calls, noting down what they return. -/
def loggedCalls (calls : Calls (List (Event F)) F) :
    Calls (List (Event F)) F where
  scan := Co.logged (fun base => [.scanned base]) calls.scan
  resolve := Co.logged resolveEntries calls.resolve
  connect results := Co.logged connectEntries (calls.connect results)
  identify probe :=
    Co.logged (fun out => [.identified probe out]) (calls.identify probe)

/-- One call of `identify`, with the number of the connection it runs on. -/
structure Attempt where
  probe : ProbeVariant
  out : ProbeOutcome
  connection : Nat

/-- The attempts of a log, where `connection` connections have been made. -/
def attemptsFrom (connection : Nat) : List (Event F) → List Attempt
  | [] => []
  | .connected :: log => attemptsFrom (connection + 1) log
  | .identified probe out :: log =>
      ⟨probe, out, connection⟩ :: attemptsFrom connection log
  | _ :: log => attemptsFrom connection log

def attempts (log : List (Event F)) : List Attempt :=
  attemptsFrom 0 log

def Attempt.matched (attempt : Attempt) : Bool :=
  attempt.out.matched

/-- The rounds of the loop over the probes whose hints match: a connection, an
attempt on it, and the next round after a failing one. -/
inductive Rounds : List ProbeVariant → List (Event F) → Option ProbeOutcome → Prop
  | unreachable {hinted : List ProbeVariant} : Rounds hinted [.unreachable] none
  | exhausted : Rounds [] [.connected] none
  | matched {probe : ProbeVariant} {hinted : List ProbeVariant}
      {out : ProbeOutcome} (matched : out.matched = true) :
      Rounds (probe :: hinted) [.connected, .identified probe out] (some out)
  | unmatched {probe : ProbeVariant} {hinted : List ProbeVariant}
      {out : ProbeOutcome} {log : List (Event F)} {found : Option ProbeOutcome}
      (unmatched : out.matched = false) (rest : Rounds hinted log found) :
      Rounds (probe :: hinted) (.connected :: .identified probe out :: log) found

theorem mem_dropLast_cons {α : Type} {a b : α} {list : List α}
    (member : b ∈ (a :: list).dropLast) : b = a ∨ b ∈ list.dropLast := by
  cases list with
  | nil => cases member
  | cons c list => exact List.mem_cons.mp member

namespace Rounds

variable {hinted : List ProbeVariant} {log : List (Event F)}
variable {found : Option ProbeOutcome}

theorem segment (rounds : Rounds hinted log found) (n : Nat) :
    (attemptsFrom n log).map Attempt.probe <+: hinted := by
  induction rounds generalizing n with
  | unreachable => exact List.nil_prefix
  | exhausted => exact List.nil_prefix
  | matched matched =>
      exact List.cons_prefix_cons.mpr ⟨rfl, List.nil_prefix⟩
  | unmatched unmatched rest induction =>
      exact List.cons_prefix_cons.mpr ⟨rfl, induction (n + 1)⟩

theorem earlier (rounds : Rounds hinted log found) (n : Nat) :
    ∀ attempt ∈ (attemptsFrom n log).dropLast, attempt.matched = false := by
  induction rounds generalizing n with
  | unreachable => exact List.forall_mem_nil _
  | exhausted => exact List.forall_mem_nil _
  | matched matched => exact List.forall_mem_nil _
  | unmatched unmatched rest induction =>
      intro attempt member
      rcases mem_dropLast_cons member with rfl | later
      · exact unmatched
      · exact induction (n + 1) attempt later

theorem ne_nil (rounds : Rounds hinted log found) : log ≠ [] := by
  cases rounds with
  | unreachable => exact List.cons_ne_nil _ _
  | exhausted => exact List.cons_ne_nil _ _
  | matched matched => exact List.cons_ne_nil _ _
  | unmatched unmatched rest => exact List.cons_ne_nil _ _

theorem reached (rounds : Rounds hinted log found) :
    .unreachable ∉ log.dropLast := by
  induction rounds with
  | unreachable => exact List.not_mem_nil
  | exhausted => exact List.not_mem_nil
  | matched matched =>
      intro member
      cases List.mem_singleton.mp member
  | unmatched unmatched rest induction =>
      intro member
      rcases mem_dropLast_cons member with other | member
      · cases other
      · rcases mem_dropLast_cons member with other | member
        · cases other
        · exact induction member

/-- The rounds end for one of three reasons. -/
theorem ends (rounds : Rounds hinted log found) (n : Nat) :
    (attemptsFrom n log).map Attempt.probe = hinted ∨
      (∃ attempt ∈ attemptsFrom n log, attempt.matched = true) ∨
      log.getLast? = some .unreachable := by
  induction rounds generalizing n with
  | unreachable => exact .inr (.inr rfl)
  | exhausted => exact .inl rfl
  | matched matched => exact .inr (.inl ⟨_, List.mem_cons_self, matched⟩)
  | unmatched unmatched rest induction =>
      rcases induction (n + 1) with all | ⟨attempt, member, matched⟩ | last
      · exact .inl (congrArg _ all)
      · exact .inr (.inl ⟨attempt, List.mem_cons_of_mem _ member, matched⟩)
      · refine .inr (.inr ?_)
        rw [List.getLast?_cons_of_ne_nil (List.cons_ne_nil _ _),
          List.getLast?_cons_of_ne_nil rest.ne_nil]
        exact last

theorem above (rounds : Rounds hinted log found) (n : Nat) :
    ∀ attempt ∈ attemptsFrom n log, n < attempt.connection := by
  induction rounds generalizing n with
  | unreachable => exact List.forall_mem_nil _
  | exhausted => exact List.forall_mem_nil _
  | matched matched =>
      intro attempt member
      cases List.mem_singleton.mp member
      exact Nat.lt_succ_self n
  | unmatched unmatched rest induction =>
      intro attempt member
      rcases List.mem_cons.mp member with rfl | later
      · exact Nat.lt_succ_self n
      · exact Nat.lt_of_succ_lt (induction (n + 1) attempt later)

theorem fresh (rounds : Rounds hinted log found) (n : Nat) :
    (attemptsFrom n log).Pairwise fun first later =>
      first.connection < later.connection := by
  induction rounds generalizing n with
  | unreachable => exact List.Pairwise.nil
  | exhausted => exact List.Pairwise.nil
  | matched matched => exact List.pairwise_singleton _ _
  | unmatched unmatched rest induction =>
      exact List.pairwise_cons.mpr ⟨rest.above (n + 1), induction (n + 1)⟩

theorem found_eq (rounds : Rounds hinted log found) (n : Nat) :
    ((attemptsFrom n log).find? Attempt.matched).map Attempt.out = found := by
  induction rounds generalizing n with
  | unreachable => rfl
  | exhausted => rfl
  | @matched probe hinted out matched =>
      have first : Attempt.matched ⟨probe, out, n + 1⟩ = true := matched
      change ([⟨probe, out, n + 1⟩].find? Attempt.matched).map Attempt.out = _
      rw [List.find?_cons_of_pos first]
      rfl
  | @unmatched probe hinted out log found unmatched rest induction =>
      have first : ¬ Attempt.matched ⟨probe, out, n + 1⟩ = true :=
        Bool.eq_false_iff.mp unmatched
      change ((⟨probe, out, n + 1⟩ :: attemptsFrom (n + 1) log).find?
        Attempt.matched).map Attempt.out = _
      rw [List.find?_cons_of_neg first]
      exact induction (n + 1)

end Rounds

/-- The attempts of a log on the probes whose hints match. -/
structure PicksFirst (hinted : List ProbeVariant) (log : List (Event F)) :
    Prop where
  /-- they are an initial segment, in the order of the list -/
  segment : (attempts log).map Attempt.probe <+: hinted
  /-- which goes on behind a failing attempt only -/
  earlier : ∀ attempt ∈ (attempts log).dropLast, attempt.matched = false
  /-- and behind a connection only -/
  reached : .unreachable ∉ log.dropLast
  /-- and ends for no other reason -/
  ends : (attempts log).map Attempt.probe = hinted ∨
    (∃ attempt ∈ attempts log, attempt.matched = true) ∨
    log.getLast? = some .unreachable
  connected : ∀ attempt ∈ attempts log, 0 < attempt.connection
  fresh : (attempts log).Pairwise fun first later =>
    first.connection < later.connection

theorem Rounds.picksFirst {hinted : List ProbeVariant} {log : List (Event F)}
    {found : Option ProbeOutcome} (rounds : Rounds hinted log found) :
    PicksFirst hinted log where
  segment := rounds.segment 0
  earlier := rounds.earlier 0
  reached := rounds.reached
  ends := rounds.ends 0
  connected := rounds.above 0
  fresh := rounds.fresh 0

/-! The log of any calls. -/

/-- A result of `connect_scan` says nothing about the service. -/
structure Blank (base : ScanResult F) : Prop where
  service : base.service = {}
  ja4s : base.ja4s = []
  ja4x : base.ja4x = []
  cves : base.cves = []

/-- The same calls, with and without notes, and the calls add none. -/
structure Quiet (calls : Calls (List (Event F)) F) (plain : Calls Unit F) :
    Prop where
  scan : Co.Notes (fun _ => False) calls.scan plain.scan
  blank : Co.Returns Blank plain.scan
  resolve : Co.Notes (fun _ => False) calls.resolve plain.resolve
  connect : ∀ results,
    Co.Notes (fun _ => False) (calls.connect results) (plain.connect results)
  identify : ∀ probe,
    Co.Notes (fun _ => False) (calls.identify probe) (plain.identify probe)

def hinted (port : UInt16) (probes : List ProbeVariant) : List ProbeVariant :=
  probes.filter fun probe => probe.matchesHint port

theorem hinted_cons (port : UInt16) (probe : ProbeVariant)
    (probes : List ProbeVariant) :
    hinted port (probe :: probes) =
      if probe.matchesHint port = true then probe :: hinted port probes
      else hinted port probes :=
  List.filter_cons

/-- The result with the service of the probe that is picked. -/
def record (base : ScanResult F) (picked : Option ProbeOutcome) : ScanResult F :=
  picked.elim base (recordOutcome base)

section

variable {calls : Calls (List (Event F)) F} {plain : Calls Unit F}

/-- The loop starts on a connection. -/
theorem probeLoopOf_logs (quiet : Quiet calls plain) (port : UInt16)
    (results : List Endpoint) (probes : List ProbeVariant)
    (base : ScanResult F) :
    Co.Logs (fun result log => ∃ picked,
        Rounds (hinted port probes) (.connected :: log) picked ∧
          result = record base picked)
      (probeLoopOf (loggedCalls calls) port results probes base)
      (probeLoopOf plain port results probes base) := by
  induction probes with
  | nil => exact Co.Logs.pure ⟨none, .exhausted, rfl⟩
  | cons probe probes induction =>
      unfold probeLoopOf
      refine Co.Logs.ite (fun skipped => ?_) (fun hints => ?_)
      · have other : ¬ probe.matchesHint port = true := by
          simpa using skipped
        rw [hinted_cons, if_neg other]
        exact induction
      · have matching : probe.matchesHint port = true := by
          simpa using hints
        rw [hinted_cons, if_pos matching]
        refine (Co.Logs.logged (quiet.identify probe)).bind ?_
        intro out front same
        subst same
        refine Co.Logs.ite (fun matched => ?_) (fun unmatched => ?_)
        · exact Co.Logs.pure ⟨some out, .matched matched, rfl⟩
        · have failing : out.matched = false := Bool.eq_false_iff.mpr unmatched
          refine (Co.Logs.logged (quiet.connect results)).bind ?_
          intro ok front same
          subst same
          cases ok with
          | false =>
              exact Co.Logs.pure ⟨none, .unmatched failing .unreachable, rfl⟩
          | true =>
              refine induction.mono ?_
              intro result log found
              obtain ⟨picked, rounds, same⟩ := found
              exact ⟨picked, .unmatched failing rounds, same⟩

variable [Floating F]

/-- The hits for a service that is known with its version. -/
def hits (cves : Option (CveDb F)) (name version : Bytes) : List (CveInfo F) :=
  match cves with
  | some db =>
      if !db.isEmpty && !name.isEmpty && !version.isEmpty then
        db.lookup name version
      else []
  | none => []

theorem lookupCves_eq (cves : Option (CveDb F)) {base : ScanResult F}
    (empty : base.cves = []) :
    lookupCves cves base =
      { base with cves := hits cves base.service.name base.service.version } := by
  have same : base = { base with cves := [] } := by
    rw [← empty]
  cases cves with
  | none => exact same
  | some db =>
      unfold lookupCves hits
      dsimp only
      split
      · rfl
      · exact same

/-- Without a service there is nothing to look up. -/
theorem lookupCves_blank (cves : Option (CveDb F)) {base : ScanResult F}
    (blank : Blank base) : lookupCves cves base = base := by
  unfold lookupCves
  rw [blank.service]
  cases cves with
  | none => rfl
  | some db => simp

theorem identifyServiceOf_logs (quiet : Quiet calls plain) (port : UInt16)
    (probes : List ProbeVariant) (cves : Option (CveDb F))
    {base : ScanResult F} (blank : Blank base) :
    Co.Logs (fun result log => ∃ picked, Rounds (hinted port probes) log picked ∧
        result = lookupCves cves (record base picked))
      (identifyServiceOf (loggedCalls calls) port probes cves base)
      (identifyServiceOf plain port probes cves base) := by
  have nothing : base = lookupCves cves (record base none) :=
    (lookupCves_blank cves blank).symm
  refine (Co.Logs.logged quiet.resolve).bind ?_
  intro resolved front same
  subst same
  cases resolved with
  | none => exact Co.Logs.pure ⟨none, .unreachable, nothing⟩
  | some results =>
      refine (Co.Logs.logged (quiet.connect results)).bind ?_
      intro ok front same
      subst same
      cases ok with
      | false => exact Co.Logs.pure ⟨none, .unreachable, nothing⟩
      | true =>
          refine (probeLoopOf_logs quiet port results probes base).bind ?_
          intro probed log found
          obtain ⟨picked, rounds, rfl⟩ := found
          refine Co.Logs.pure ⟨picked, ?_, rfl⟩
          rw [List.append_nil]
          exact rounds

/-- What a result holds if `base` is that of `connect_scan` and the probe with
the outcome `picked` has matched. -/
structure Filled (cves : Option (CveDb F)) (base : ScanResult F)
    (picked : Option ProbeOutcome) (result : ScanResult F) : Prop where
  targetHost : result.targetHost = base.targetHost
  port : result.port = base.port
  state : result.state = base.state
  timestamp : result.timestamp = base.timestamp
  name : result.service.name = (picked.map ProbeOutcome.service).getD []
  version : result.service.version = (picked.map ProbeOutcome.version).getD []
  banner : result.service.bannerRaw = (picked.map ProbeOutcome.banner).getD []
  ja4s : result.ja4s = (picked.map ProbeOutcome.ja4s).getD []
  ja4x : result.ja4x = (picked.map ProbeOutcome.ja4x).getD []
  cves : result.cves = hits cves result.service.name result.service.version

theorem record_filled (cves : Option (CveDb F)) {base : ScanResult F}
    (blank : Blank base) (rtt : Int) (picked : Option ProbeOutcome) :
    Filled cves base picked
      (lookupCves cves (record { base with rtt := rtt } picked)) := by
  have empty : (record { base with rtt := rtt } picked).cves = [] := by
    cases picked with
    | none => exact blank.cves
    | some out => exact blank.cves
  rw [lookupCves_eq cves empty]
  cases picked with
  | none =>
      exact ⟨rfl, rfl, rfl, rfl, congrArg ServiceInfo.name blank.service,
        congrArg ServiceInfo.version blank.service,
        congrArg ServiceInfo.bannerRaw blank.service, blank.ja4s, blank.ja4x,
        rfl⟩
  | some out => exact ⟨rfl, rfl, rfl, rfl, rfl, rfl, rfl, rfl, rfl, rfl⟩

/-- What happens behind a `connect_scan` that has returned `base`. -/
structure ScanLaw (port : UInt16) (probes : Option (List ProbeVariant))
    (cves : Option (CveDb F)) (base : ScanResult F) (events : List (Event F))
    (result : ScanResult F) : Prop where
  skipped : base.state ≠ .opened ∨ probes = none → events = []
  picks : ∀ list, base.state = .opened → probes = some list →
    PicksFirst (hinted port list) events
  filled : Filled cves base
    (((attempts events).find? Attempt.matched).map Attempt.out) result

theorem afterConnectOf_logs (quiet : Quiet calls plain) (port : UInt16)
    (rtt : Int) (probes : Option (List ProbeVariant)) (cves : Option (CveDb F))
    {base : ScanResult F} (blank : Blank base) :
    Co.Logs (fun result events => ScanLaw port probes cves base events result)
      (afterConnectOf (loggedCalls calls) port rtt probes cves base)
      (afterConnectOf plain port rtt probes cves base) := by
  have still : Blank { base with rtt := rtt } :=
    ⟨blank.service, blank.ja4s, blank.ja4x, blank.cves⟩
  have unprobed : Filled cves base none { base with rtt := rtt } := by
    have filled := record_filled cves blank rtt none
    rw [record, Option.elim_none, lookupCves_blank cves still] at filled
    exact filled
  by_cases skipped : base.state ≠ .opened ∨ probes = none
  · rw [afterConnectOf_skipped skipped, afterConnectOf_skipped skipped]
    refine Co.Logs.quiet_bind (Co.Notes.emit _) fun _ => Co.Logs.pure ?_
    refine ⟨fun _ => rfl, ?_, unprobed⟩
    intro list opened given
    rcases skipped with closed | absent
    · exact absurd opened closed
    · cases given.symm.trans absent
  · rw [not_or, not_not] at skipped
    obtain ⟨opened, given⟩ := skipped
    obtain ⟨list, rfl⟩ := Option.ne_none_iff_exists'.mp given
    rw [afterConnectOf_opened opened, afterConnectOf_opened opened]
    refine Co.Logs.quiet_bind (Co.Notes.emit _) fun _ => ?_
    refine (identifyServiceOf_logs quiet port list cves still).mono ?_
    intro result events found
    obtain ⟨picked, rounds, rfl⟩ := found
    refine ⟨?_, ?_, ?_⟩
    · intro either
      rcases either with closed | absent
      · exact absurd opened closed
      · exact absurd absent given
    · intro other _ same
      cases same
      exact rounds.picksFirst
    · rw [attempts, rounds.found_eq]
      exact record_filled cves blank rtt picked

/-- The log of a scan starts with what `connect_scan` has returned. -/
theorem scanOneOf_logs (quiet : Quiet calls plain) (port : UInt16) (rtt : Int)
    (probes : Option (List ProbeVariant)) (cves : Option (CveDb F)) :
    Co.Logs (fun result log => ∃ base events, log = .scanned base :: events ∧
        ScanLaw port probes cves base events result)
      (scanOneOf (loggedCalls calls) port rtt probes cves)
      (scanOneOf plain port rtt probes cves) := by
  refine Co.Logs.quiet_bind acquire_notes fun _ => ?_
  refine ((Co.Logs.logged quiet.scan).and_returns quiet.blank).bind ?_
  intro base front found
  obtain ⟨rfl, blank⟩ := found
  refine (afterConnectOf_logs quiet port rtt probes cves blank).mono ?_
  intro result events law
  exact ⟨base, events, rfl, law⟩

end

end

/-! The log of `scan_one`. -/

section

variable {F : Type} (sha256Hex : Bytes → Bytes) (request : ScanRequest)
variable (rtt timestamp : Int)

theorem plainCalls_quiet :
    Quiet (plainCalls sha256Hex request timestamp :
        Calls (List (Event F)) F)
      (plainCalls sha256Hex request timestamp) where
  scan := connectScan_notes request timestamp
  blank := connectScan_returns.mono fun base made => by
    obtain ⟨state, rfl⟩ := made
    exact ⟨rfl, rfl, rfl, rfl⟩
  resolve := asyncResolve_notes _ _
  connect := asyncConnect_notes
  identify := fun probe => probeVariant_identify_notes probe request.timeout

variable [Floating F]

/-- `scan_one`, noting down what its calls return. -/
def scanOneLogged (probes : Option (List ProbeVariant))
    (cves : Option (CveDb F)) : Task (List (Event F)) (ScanResult F) :=
  scanOneOf (loggedCalls (plainCalls sha256Hex request timestamp)) request.port
    rtt probes cves

/-- A scan that returns has attempted the probes whose hints match, each on a
connection of its own, up to the first that matches, and its result is that of
`connect_scan` with the service of this probe. -/
theorem scanOne_picks_first (probes : Option (List ProbeVariant))
    (cves : Option (CveDb F)) (script : Script) :
    ∃ log,
      (scanOneLogged sha256Hex request rtt timestamp probes cves).run [] script =
          { (scanOne sha256Hex request rtt timestamp probes cves :
              Task Unit (ScanResult F)).run () script with store := log } ∧
        ∀ result,
          ((scanOne sha256Hex request rtt timestamp probes cves :
            Task Unit (ScanResult F)).run () script).status =
              .returned result →
          ∃ base events, log = .scanned base :: events ∧
            ScanLaw request.port probes cves base events result := by
  have logs := scanOneOf_logs (plainCalls_quiet sha256Hex request timestamp)
    request.port rtt probes cves
  rw [scanOneOf_plainCalls] at logs
  exact logs [] script

end

end ServicePortScanner.Scan
