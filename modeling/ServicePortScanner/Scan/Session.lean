import ServicePortScanner.Data.CoroutineProtocol
import ServicePortScanner.Scan.ScanPipeline

namespace ServicePortScanner.Scan

open ServicePortScanner.Data ServicePortScanner.Data.Co ServicePortScanner.Core
open ServicePortScanner.Net ServicePortScanner.Fp ServicePortScanner.Probes

/-! What the task of a port may ask for, and when: the token, the connect scan,
and then one connection after the other on which a probe speaks. -/

inductive Session where
  | idle
  | granted
  /-- the connect scan, with the endpoints it has not tried yet -/
  | scanning (left : List Endpoint)
  | accepted
  /-- a connection for the probes, to one of these endpoints -/
  | connecting (all left : List Endpoint)
  | connected (all : List Endpoint)
  | ended
  deriving DecidableEq, Repr

/-- The operations of the probes, which need a connection. -/
def Speaking : Operation → Prop
  | .acquire | .resolve .. | .connect _ => False
  | _ => True

namespace Session

def Permits (request : ScanRequest) : Session → Operation → Prop
  | .idle, .acquire => True
  | .granted, .resolve host service | .accepted, .resolve host service =>
      host = request.host ∧ service = portText request.port
  | .scanning (endpoint :: _), .connect asked
  | .connecting _ (endpoint :: _), .connect asked => asked = endpoint
  | .connected all, .connect asked => all.head? = some asked
  | .connected _, operation => Speaking operation
  | _, _ => False

def next : Session → Operation → Signal network → Session
  | .idle, .acquire, .answer .granted => .granted
  | .granted, .resolve .., .answer (.resolved endpoints) => .scanning endpoints
  | .scanning _, .connect _, .answer .connected => .accepted
  | .scanning (_ :: left), .connect _, .answer .refused => .scanning left
  | .accepted, .resolve .., .answer (.resolved endpoints) =>
      .connecting endpoints endpoints
  | .connecting all _, .connect _, .answer .connected => .connected all
  | .connecting all (_ :: left), .connect _, .answer .refused =>
      .connecting all left
  -- a new connection, the old one is closed before it
  | .connected all, .connect _, .answer .connected => .connected all
  | .connected all, .connect _, .answer .refused => .connecting all all.tail
  | .connected _, .connect _, _ => .ended
  | .connected all, _, _ => .connected all
  | _, _, _ => .ended

end Session

def session (request : ScanRequest) : Protocol network Session where
  Permits := Session.Permits request
  next := Session.next

section

variable {request : ScanRequest} {all : List Endpoint}

theorem permits_speaking {operation : Operation} (speaking : Speaking operation) :
    (session request).Permits (.connected all) operation := by
  cases operation <;> first | exact speaking | exact speaking.elim

theorem next_speaking {operation : Operation} (speaking : Speaking operation)
    (signal : Signal network) :
    (session request).next (.connected all) operation signal =
      .connected all := by
  cases operation <;> first | rfl | exact speaking.elim

/-- A task that speaks on the connection it has, and leaves it open. -/
def Stays (request : ScanRequest) (all : List Endpoint) {σ α : Type}
    (body : Task σ α) : Prop :=
  Obeys (session request) (· = .connected all)
    (fun state operation => state = .connected all ∧ Speaking operation)
    (fun _ state => state = .connected all) body

namespace Stays

variable {σ α β : Type}

theorem pure (value : α) : Stays request all (Pure.pure value : Task σ α) :=
  Obeys.pure fun _ same => same

theorem await {operation : Operation} {accept : Answer → Option α}
    (speaking : Speaking operation) :
    Stays request all (Co.await operation accept : Task σ α) := by
  refine Obeys.await ?_ ?_
  · rintro _ rfl
    exact ⟨permits_speaking speaking, rfl, speaking⟩
  · rintro _ answer value rfl _
    exact next_speaking speaking _

theorem bind {body : Task σ α} {next : α → Task σ β}
    (head : Stays request all body)
    (tail : ∀ value, Stays request all (next value)) :
    Stays request all (body >>= next) :=
  Obeys.bind head tail

theorem ite {condition : Prop} [Decidable condition] {body other : Task σ α}
    (yes : Stays request all body) (no : Stays request all other) :
    Stays request all (if condition then body else other) :=
  Obeys.ite (fun _ => yes) fun _ => no

theorem race {milliseconds : Nat} {body : Task σ α}
    (inside : Stays request all body) :
    Stays request all (Co.race milliseconds body) := by
  refine Obeys.race inside ?_
  rintro _ operation ⟨rfl, speaking⟩
  exact next_speaking speaking _

theorem loop {body : Task σ (Option α)} {progresses : Co.Progresses body}
    (inside : Stays request all body) :
    Stays request all (Co.loop body progresses) := by
  refine Obeys.loop
    (Obeys.mono inside (fun _ same => same) (fun _ _ waits => waits) ?_)
  intro turn state same
  cases turn <;> exact same

end Stays

/-! The probes stay on their connection. -/

variable {σ : Type}

theorem regexSearch_stays (subject pattern : Bytes) :
    Stays request all
      (regexSearch subject pattern : Task σ (Option (List Bytes))) := by
  refine (Stays.await (by trivial)).bind fun search => ?_
  cases search with
  | threw what => exact Obeys.throw
  | noMatch | found groups => exact Stays.pure _

theorem writeAll_stays (payload : Bytes) (timeout : Nat) :
    Stays request all (writeAll payload timeout : Task σ Bool) := by
  refine (Stays.race (Stays.await (by trivial))).bind fun which => ?_
  cases which with
  | none => exact Stays.pure _
  | some ok => exact Stays.pure _

theorem readTurn_stays (cap : Nat) : Stays request all (readTurn cap) := by
  refine (Stays.await (by trivial)).bind fun received => ?_
  have loaded : Stays request all (Co.load : Task Bytes Bytes) :=
    Obeys.load fun _ _ same => same
  refine loaded.bind fun banner => ?_
  rcases received with _ | _ | ⟨first, rest⟩
  · exact Stays.pure _
  · exact Stays.pure _
  · refine Stays.ite (Stays.pure _) ?_
    have saved (banner : Bytes) :
        Stays request all (Co.save banner : Task Bytes Unit) :=
      Obeys.save fun _ same => same
    exact (saved _).bind fun _ => Stays.ite (Stays.pure _) (Stays.pure _)

theorem readUntilQuiet_stays (timeout cap : Nat) :
    Stays request all (readUntilQuiet timeout cap) := by
  refine (Stays.race (Stays.loop (readTurn_stays cap))).bind fun which => ?_
  cases which with
  | none =>
      have loaded : Stays request all (Co.load : Task Bytes Bytes) :=
        Obeys.load fun _ _ same => same
      exact loaded.bind fun _ => Stays.pure _
  | some ok => exact Stays.pure _

theorem firstMatch_stays (banner : Bytes) (rules : List MatchRule) :
    Stays request all (firstMatch banner rules : Task σ ProbeOutcome) := by
  induction rules with
  | nil => exact Stays.pure _
  | cons rule rules induction =>
      refine (regexSearch_stays banner rule.rawPattern).bind fun groups => ?_
      cases groups with
      | none => exact induction
      | some groups => exact Stays.pure _

theorem probeRule_identify_stays (rule : ProbeRule) (timeout : Nat) :
    Stays request all (rule.identify timeout : Task σ ProbeOutcome) := by
  have readAndMatch : Stays request all
      (rule.readAndMatch timeout : Task σ ProbeOutcome) := by
    have read : Stays request all (Co.withStore []
        (readUntilQuiet timeout kMaxBannerBytes) : Task σ (Bool × Bytes)) :=
      Obeys.withStore (readUntilQuiet_stays timeout kMaxBannerBytes)
    exact read.bind fun (_, banner) =>
      Stays.ite (Stays.pure _) (firstMatch_stays banner rule.matchRules)
  exact Stays.ite readAndMatch ((writeAll_stays _ timeout).bind fun _ =>
    Stays.ite (Stays.pure _) readAndMatch)

theorem sendPending_stays (timeout : Nat) (chunks : List Bytes) :
    Stays request all (sendPending timeout chunks : Task σ Bool) := by
  induction chunks with
  | nil => exact Stays.pure _
  | cons chunk chunks induction =>
      exact (writeAll_stays chunk timeout).bind fun _ =>
        Stays.ite induction (Stays.pure _)

theorem feedHandshake_stays :
    Stays request all (feedHandshake : Task σ (Option Bool)) := by
  refine (Stays.await (by trivial)).bind fun received => ?_
  rcases received with _ | _ | ⟨first, rest⟩
  · exact Stays.pure _
  · exact Stays.pure _
  · have fed : Stays request all
        (Co.emit (.fed (first :: rest)) : Task σ Unit) :=
      Obeys.emit fun _ same => same
    exact fed.bind fun _ => Stays.pure _

theorem driveHandshake_stays (timeout : Nat) :
    Stays request all (driveHandshake timeout : Task σ Bool) := by
  refine Stays.loop ((Stays.await (by trivial)).bind fun (handshake, pending) => ?_)
  refine Stays.ite (Stays.pure _) ((sendPending_stays timeout _).bind fun _ =>
    Stays.ite (Stays.pure _) ?_)
  cases handshake with
  | wantRead => exact feedHandshake_stays
  | done | wantWrite | failed => exact Stays.pure _

variable {sha256Hex : Bytes → Bytes}

theorem tlsProbe_identify_stays (timeout : Nat) :
    Stays request all
      (TlsProbe.identify sha256Hex timeout : Task σ ProbeOutcome) := by
  refine (Stays.await (by trivial)).bind fun _ => Stays.ite (Stays.pure _) ?_
  refine (Stays.await (by trivial)).bind fun _ => Stays.ite (Stays.pure _) ?_
  refine (Stays.await (by trivial)).bind fun _ => Stays.ite (Stays.pure _) ?_
  refine (driveHandshake_stays timeout).bind fun _ =>
    Stays.ite (Stays.pure _) ?_
  exact (Stays.await (by trivial)).bind fun _ => Stays.pure _

theorem identify_stays (probe : ProbeVariant) (timeout : Nat) :
    Stays request all
      (probe.identify sha256Hex timeout : Task σ ProbeOutcome) := by
  cases probe with
  | json rule => exact probeRule_identify_stays rule timeout
  | tls => exact tlsProbe_identify_stays timeout

end

/-! Connecting, one endpoint after the other. -/

section

variable {request : ScanRequest} {σ : Type}

abbrev Anytime (_ : Session) (_ : Operation) : Prop :=
  True

/-- `ready` holds where these endpoints are still to be tried, `won` behind a
connection. -/
theorem asyncConnect_obeys {ready : List Endpoint → Session → Prop}
    {won : Session → Prop}
    (permitted : ∀ endpoint left state, ready (endpoint :: left) state →
      state.Permits request (.connect endpoint))
    (connected : ∀ endpoint left state, ready (endpoint :: left) state →
      won (state.next (.connect endpoint) (.answer .connected)))
    (refused : ∀ endpoint left state, ready (endpoint :: left) state →
      ready left (state.next (.connect endpoint) (.answer .refused)))
    (endpoints : List Endpoint) :
    Obeys (session request) (ready endpoints) Anytime
      (fun ok state => ok = true → won state)
      (asyncConnect endpoints : Task σ Bool) := by
  induction endpoints with
  | nil => exact Obeys.pure fun _ _ => nofun
  | cons endpoint left induction =>
      have emitted : Obeys (session request) (ready (endpoint :: left)) Anytime
          (fun _ => ready (endpoint :: left))
          (Co.emit (.attempt endpoint) : Task σ Unit) :=
        Obeys.emit fun _ holds => holds
      have asked : Obeys (session request) (ready (endpoint :: left)) Anytime
          (fun ok state => if ok then won state else ready left state)
          (Co.await (.connect endpoint) Answer.connection? : Task σ Bool) := by
        refine Obeys.await ?_ ?_
        · exact fun state holds => ⟨permitted _ _ _ holds, trivial⟩
        · intro state answer ok holds accepted
          cases answer with
          | connected =>
              cases accepted
              exact connected _ _ _ holds
          | refused =>
              cases accepted
              exact refused _ _ _ holds
          | _ => cases accepted
      refine emitted.bind fun _ => asked.bind fun ok => ?_
      cases ok with
      | true => exact Obeys.pure fun _ holds _ => holds
      | false => exact induction

/-- The endpoints that a connection for the probes can still try. -/
def Reconnecting (all left : List Endpoint) (state : Session) : Prop :=
  state = .connecting all left ∨ state = .connected all ∧ left = all

theorem reconnect_obeys (all left : List Endpoint) :
    Obeys (session request) (Reconnecting all left) Anytime
      (fun ok state => ok = true → state = .connected all)
      (asyncConnect left : Task σ Bool) := by
  apply asyncConnect_obeys
  · rintro endpoint left state (rfl | ⟨rfl, rfl⟩)
    · rfl
    · rfl
  · rintro endpoint left state (rfl | ⟨rfl, rfl⟩)
    · rfl
    · rfl
  · rintro endpoint left state (rfl | ⟨rfl, rfl⟩)
    · exact .inl rfl
    · exact .inl rfl

/-- The name is resolved, in the connect scan and once more for the probes. -/
theorem asyncResolve_obeys {start : Session}
    {trying : List Endpoint → Session}
    (permitted : start.Permits request
      (.resolve request.host (portText request.port)))
    (resolved : ∀ endpoints, start.next
      (.resolve request.host (portText request.port))
      (.answer (.resolved endpoints)) = trying endpoints) :
    Obeys (session request) (· = start) Anytime
      (fun resolution state => ∀ endpoints, resolution = some endpoints →
        state = trying endpoints)
      (asyncResolve request.host (portText request.port) :
        Task σ (Option (List Endpoint))) := by
  refine Obeys.await ?_ ?_
  · rintro _ rfl
    exact ⟨permitted, trivial⟩
  · rintro _ answer resolution rfl accepted endpoints rfl
    cases answer with
    | resolved endpoints' =>
        cases accepted
        exact resolved endpoints
    | _ => cases accepted

/-- The endpoints that the connect scan can still try. -/
def Scanning (left : List Endpoint) (state : Session) : Prop :=
  state = .scanning left

theorem doConnect_obeys :
    Obeys (session request) (· = .granted) Anytime
      (fun ok state => ok = true → state = .accepted)
      (doConnect request : Task σ Bool) := by
  have resolved : Obeys (session request) (· = .granted) Anytime
      (fun resolution state => ∀ endpoints, resolution = some endpoints →
        state = .scanning endpoints)
      (asyncResolve request.host (portText request.port) :
        Task σ (Option (List Endpoint))) :=
    asyncResolve_obeys ⟨rfl, rfl⟩ fun _ => rfl
  refine resolved.bind fun resolution => ?_
  cases resolution with
  | none => exact Obeys.pure fun _ _ => nofun
  | some endpoints =>
      have scanned : Obeys (session request) (Scanning endpoints) Anytime
          (fun ok state => ok = true → state = .accepted)
          (asyncConnect endpoints : Task σ Bool) := by
        apply asyncConnect_obeys
        · rintro endpoint left _ rfl
          rfl
        · rintro endpoint left _ rfl
          rfl
        · rintro endpoint left _ rfl
          rfl
      exact scanned.mono (fun _ holds => holds endpoints rfl)
        (fun _ _ waits => waits) fun _ _ holds => holds

end

section

variable {sha256Hex : Bytes → Bytes} {σ F : Type}
variable {request : ScanRequest} {rtt timestamp : Int}

abbrev Anywhere {α : Type} (_ : α) (_ : Session) : Prop :=
  True

theorem probeLoop_obeys (timeout : Nat) (results : List Endpoint)
    (probes : List ProbeVariant) (base : ScanResult F) :
    Obeys (session request) (· = .connected results) Anytime Anywhere
      (probeLoop sha256Hex request.port timeout results probes base :
        Task σ (ScanResult F)) := by
  induction probes with
  | nil => exact Obeys.pure fun _ _ => trivial
  | cons probe probes induction =>
      refine Obeys.ite (fun _ => induction) fun _ => ?_
      have identified : Obeys (session request) (· = .connected results) Anytime
          (fun _ state => state = .connected results)
          (probe.identify sha256Hex timeout : Task σ ProbeOutcome) :=
        Obeys.mono (identify_stays probe timeout) (fun _ same => same)
          (fun _ _ _ => trivial) fun _ _ same => same
      refine identified.bind fun out =>
        Obeys.ite (fun _ => Obeys.pure fun _ _ => trivial) fun _ => ?_
      have again : Obeys (session request) (· = .connected results) Anytime
          (fun ok state => ok = true → state = .connected results)
          (asyncConnect results : Task σ Bool) :=
        (reconnect_obeys results results).mono (fun _ same => .inr ⟨same, rfl⟩)
          (fun _ _ waits => waits) fun _ _ holds => holds
      refine again.bind fun ok => ?_
      cases ok with
      | true =>
          exact induction.mono (fun _ holds => holds rfl)
            (fun _ _ waits => waits) fun _ _ holds => holds
      | false => exact Obeys.pure fun _ _ => trivial

theorem connectScan_obeys :
    Obeys (session request) (· = .granted) Anytime
      (fun (base : ScanResult F) state =>
        base.state = .opened → state = .accepted)
      (connectScan request timestamp : Task σ (ScanResult F)) := by
  have raced : Obeys (session request) (· = .granted) Anytime
      (fun which state => which = some true → state = .accepted)
      (Co.race request.timeout (doConnect request) : Task σ (Option Bool)) := by
    refine Obeys.race (doConnect_obeys.mono (fun _ same => same)
      (fun _ _ waits => waits) ?_) (fun _ _ _ => nofun)
    rintro ok state holds same
    cases same
    exact holds rfl
  refine raced.bind fun which => ?_
  rcases which with _ | _ | _
  · exact Obeys.pure fun _ _ => nofun
  · exact Obeys.pure fun _ _ => nofun
  · exact Obeys.pure fun _ holds _ => holds rfl

variable [Floating F] {cves : Option (CveDb F)}

theorem identifyService_obeys (probes : List ProbeVariant)
    (base : ScanResult F) :
    Obeys (session request) (· = .accepted) Anytime Anywhere
      (identifyService sha256Hex request probes cves base :
        Task σ (ScanResult F)) := by
  have resolved : Obeys (session request) (· = .accepted) Anytime
      (fun resolution state => ∀ endpoints, resolution = some endpoints →
        state = .connecting endpoints endpoints)
      (asyncResolve request.host (portText request.port) :
        Task σ (Option (List Endpoint))) :=
    asyncResolve_obeys ⟨rfl, rfl⟩ fun _ => rfl
  refine resolved.bind fun resolution => ?_
  cases resolution with
  | none => exact Obeys.pure fun _ _ => trivial
  | some results =>
      have connected := (reconnect_obeys results results :
        Obeys (session request) _ _ _ (asyncConnect results : Task σ Bool))
      refine (connected.mono (fun _ holds => .inl (holds results rfl))
        (fun _ _ waits => waits) fun _ _ holds => holds).bind fun ok => ?_
      cases ok with
      | false => exact Obeys.pure fun _ _ => trivial
      | true =>
          have probed := (probeLoop_obeys request.timeout results probes base :
            Obeys (session request) _ _ _
              (probeLoop sha256Hex request.port request.timeout results probes
                base : Task σ (ScanResult F)))
          exact (probed.mono (fun _ holds => holds rfl) (fun _ _ waits => waits)
            fun _ _ holds => holds).bind fun _ =>
              Obeys.pure fun _ _ => trivial

theorem scanOne_obeys (probes : Option (List ProbeVariant)) :
    Obeys (session request) (· = .idle) Anytime Anywhere
      (scanOne sha256Hex request rtt timestamp probes cves :
        Task σ (ScanResult F)) := by
  have acquired : Obeys (session request) (· = .idle) Anytime
      (fun _ state => state = .granted) (acquire : Task σ Unit) := by
    have granted : Obeys (session request) (· = .idle) Anytime
        (fun _ state => state = .granted)
        (Co.await .acquire Answer.granted? : Task σ Unit) := by
      refine Obeys.await ?_ ?_
      · rintro _ rfl
        exact ⟨trivial, trivial⟩
      · rintro _ answer _ rfl accepted
        cases answer with
        | granted => rfl
        | _ => cases accepted
    exact granted.bind fun _ => Obeys.emit fun _ same => same
  refine acquired.bind fun _ => connectScan_obeys.bind fun base => ?_
  have responded : Obeys (session request)
      (fun state => base.state = .opened → state = .accepted) Anytime
      (fun _ state => base.state = .opened → state = .accepted)
      (Co.emit (.respond rtt (base.state == .filtered)) : Task σ Unit) :=
    Obeys.emit fun _ holds => holds
  refine responded.bind fun _ => ?_
  split
  · next opened =>
      exact (identifyService_obeys _ _).mono (fun _ holds => holds opened)
        (fun _ _ waits => waits) fun _ _ holds => holds
  · exact Obeys.pure fun _ _ => trivial

end

/-! Behind which connection an operation is asked for. -/

/-- The endpoint that is tried in an exchange, and whether it accepts. -/
def connection? : Exchange network → Option (Endpoint × Bool)
  | ⟨⟨.connect endpoint, _⟩, signal⟩ =>
      some (endpoint, match signal with
        | .answer .connected => true
        | _ => false)
  | _ => none

/-- The last of the connections that have been tried is established. -/
def Connected (exchanges : List (Exchange network)) : Prop :=
  ∃ endpoint,
    (exchanges.filterMap connection?).getLast? = some (endpoint, true)

/-- The operations on the stream of a connection. -/
def OnStream : Operation → Prop
  | .read _ | .write _ => True
  | _ => False

namespace Session

variable {request : ScanRequest}

theorem connected_append {front : List (Exchange network)}
    {exchange : Exchange network} (connected : Connected front)
    (other : connection? exchange = none) : Connected (front ++ [exchange]) := by
  obtain ⟨endpoint, last⟩ := connected
  refine ⟨endpoint, ?_⟩
  rw [List.filterMap_append, List.filterMap_cons_none other, List.filterMap_nil,
    List.append_nil]
  exact last

theorem connected_of_connect (front : List (Exchange network))
    (endpoint : Endpoint) (guard : Option Nat) :
    Connected (front ++
      [⟨⟨Operation.connect endpoint, guard⟩, .answer .connected⟩]) := by
  refine ⟨endpoint, ?_⟩
  rw [List.filterMap_append]
  exact List.getLast?_concat

theorem next_eq_connected {state : Session} {operation : Operation}
    {signal : Signal network} {all : List Endpoint}
    (reached : state.next operation signal = .connected all) :
    (∃ endpoint, operation = .connect endpoint ∧
        signal = .answer .connected) ∨
      state = .connected all ∧ ∀ endpoint, operation ≠ .connect endpoint := by
  unfold next at reached
  split at reached
  all_goals try cases reached
  · exact .inl ⟨_, rfl, rfl⟩
  · exact .inl ⟨_, rfl, rfl⟩
  · next unlike _ _ => exact .inr ⟨rfl, unlike⟩

/-- The session is connected only where the last connection has been accepted. -/
theorem connected_of_after {all : List Endpoint}
    (exchanges : List (Exchange network))
    (reached : (session request).after .idle exchanges = .connected all) :
    Connected exchanges := by
  induction exchanges using List.reverseRecOn with
  | nil => cases reached
  | append_singleton front exchange induction =>
      obtain ⟨⟨operation, guard⟩, signal⟩ := exchange
      rw [Protocol.after_append] at reached
      rcases next_eq_connected reached with ⟨endpoint, rfl, rfl⟩ | ⟨before, other⟩
      · exact connected_of_connect front endpoint guard
      · refine connected_append (induction before) ?_
        cases operation with
        | connect endpoint => exact (other endpoint rfl).elim
        | _ => rfl

theorem exists_connected {state : Session} {operation : Operation}
    (onStream : OnStream operation)
    (permitted : state.Permits request operation) :
    ∃ all, state = .connected all := by
  cases operation with
  | read size | write payload =>
      cases state with
      | connected all => exact ⟨all, rfl⟩
      | scanning left | connecting all left =>
          cases left <;> exact permitted.elim
      | idle | granted | accepted | ended => exact permitted.elim
  | _ => exact onStream.elim

theorem connected_of_permits {exchanges : List (Exchange network)}
    {operation : Operation} (onStream : OnStream operation)
    (permitted : (session request).Permits
      ((session request).after .idle exchanges) operation) :
    Connected exchanges := by
  obtain ⟨all, reached⟩ := exists_connected onStream permitted
  exact connected_of_after exchanges reached

end Session

section

variable {sha256Hex : Bytes → Bytes} {σ F : Type} [Floating F]
variable {request : ScanRequest} {rtt timestamp : Int}
variable {probes : Option (List ProbeVariant)} {cves : Option (CveDb F)}

/-- The operations of a task and the answers to them are those of a session, and
so is what it waits for; it reads and writes only on a connection. -/
structure InSession (request : ScanRequest) (exchanges : List (Exchange network))
    {α : Type} (status : Status network α) : Prop where
  follows : (session request).Follows .idle exchanges
  waiting : ∀ wait, status = .waiting wait →
    (session request).Permits ((session request).after .idle exchanges)
      wait.operation
  connected : ∀ front exchange back, exchanges = front ++ exchange :: back →
    OnStream exchange.wait.operation → Connected front
  streaming : ∀ wait, status = .waiting wait → OnStream wait.operation →
    Connected exchanges

theorem scanOne_inSession (store : σ) (script : Script) :
    ∃ exchanges rest, script = signals exchanges ++ rest ∧
      Transcript (scanOne sha256Hex request rtt timestamp probes cves :
        Task σ (ScanResult F)) store exchanges rest ∧
      InSession request exchanges
        ((scanOne sha256Hex request rtt timestamp probes cves :
          Task σ (ScanResult F)).run store script).status := by
  obtain ⟨exchanges, rest, whole, transcript, reaches⟩ :=
    (scanOne_obeys probes : Obeys (session request) _ _ _
      (scanOne sha256Hex request rtt timestamp probes cves :
        Task σ (ScanResult F))) store script
  obtain ⟨follows, -, waiting⟩ := reaches .idle rfl
  refine ⟨exchanges, rest, whole, transcript, follows, ?_, ?_, ?_⟩
  · exact fun wait waits => (waiting wait waits).1
  · intro front exchange back split onStream
    exact Session.connected_of_permits onStream (follows.permits split)
  · intro wait waits onStream
    exact Session.connected_of_permits onStream (waiting wait waits).1

end

end ServicePortScanner.Scan
