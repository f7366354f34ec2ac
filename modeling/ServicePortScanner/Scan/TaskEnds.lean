import ServicePortScanner.Data.CoroutineEnding
import ServicePortScanner.Probes.BannerChunks
import ServicePortScanner.Scan.ScanPipeline

namespace ServicePortScanner.Scan

open ServicePortScanner.Data ServicePortScanner.Core ServicePortScanner.Net
open ServicePortScanner.Fp ServicePortScanner.Probes

/-! The task of a port comes to its end, if its waits are answered and OpenSSL
does not go on with a handshake forever. -/

/-- A step behind which the handshake goes on. -/
def goesOn : Signal network → Bool
  | .answer (.stepped .wantRead _) | .answer (.stepped .wantWrite _) => true
  | _ => false

/-- The task ends, unless signals of this kind go on forever. -/
def Ends (kind : Signal network → Bool) {σ α : Type} (body : Task σ α) : Prop :=
  ∀ store (feed : Co.Feed network) bound, feed.Bounded kind bound →
    Co.EndsOn body store feed

namespace Ends

variable {kind : Signal network → Bool} {σ α β : Type}

theorem pure (value : α) : Ends kind (Pure.pure value : Task σ α) :=
  fun _ _ _ _ => .pure value

theorem emit (action : Action) : Ends kind (Co.emit action : Task σ Unit) :=
  fun _ _ _ _ => @Co.EndsOn.emit network _ _ _ action

theorem await (operation : Operation) (accept : Answer → Option α) :
    Ends kind (Co.await operation accept : Task σ α) :=
  fun _ _ _ _ => @Co.EndsOn.await network _ _ _ _ operation accept

theorem bind {body : Task σ α} {next : α → Task σ β} (head : Ends kind body)
    (tail : ∀ value, Ends kind (next value)) : Ends kind (body >>= next) :=
  fun store feed bound bounded => (head store feed bound bounded).bind
    fun _ value _ _ => tail value _ _ bound bounded.behind

theorem ite {condition : Prop} [Decidable condition] {body other : Task σ α}
    (yes : Ends kind body) (no : Ends kind other) :
    Ends kind (if condition then body else other) :=
  fun store feed bound bounded =>
    .ite (yes store feed bound bounded) (no store feed bound bounded)

theorem race {milliseconds : Nat} {body : Task σ α} (inside : Ends kind body) :
    Ends kind (Co.race milliseconds body) :=
  fun store feed bound bounded => (inside store feed bound bounded).race

end Ends

section

variable {kind : Signal network → Bool} {σ : Type}

theorem acquire_ends : Ends kind (acquire : Task σ Unit) :=
  (Ends.await _ _).bind fun _ => Ends.emit _

theorem asyncConnect_ends (endpoints : List Endpoint) :
    Ends kind (asyncConnect endpoints : Task σ Bool) := by
  induction endpoints with
  | nil => exact Ends.pure _
  | cons endpoint endpoints induction =>
      refine (Ends.emit _).bind fun _ => (Ends.await _ _).bind fun connected => ?_
      exact Ends.ite (Ends.pure _) induction

theorem regexSearch_ends (subject pattern : Bytes) :
    Ends kind (regexSearch subject pattern : Task σ (Option (List Bytes))) := by
  refine (Ends.await _ _).bind fun search => ?_
  cases search with
  | threw what => exact fun _ _ _ _ => .throw _
  | noMatch | found groups => exact Ends.pure _

theorem writeAll_ends (payload : Bytes) (timeout : Nat) :
    Ends kind (writeAll payload timeout : Task σ Bool) := by
  refine (Ends.race (Ends.await _ _)).bind fun which => ?_
  cases which with
  | none => exact Ends.pure _
  | some ok => exact Ends.pure _

/-- A turn that asks for another one has made the banner longer, and there was
room for that. -/
theorem readTurn_longer {cap : Nat} {banner : Bytes} {script : Script}
    (again : ((readTurn cap).run banner script).status = .returned none) :
    banner.length < cap ∧
      banner.length < ((readTurn cap).run banner script).store.length := by
  rw [readTurn_eq] at again ⊢
  cases taken : Co.next? Answer.reading? script with
  | none => simp [Co.bind_run, Co.await, taken] at again
  | some pair =>
      obtain ⟨received, rest⟩ := pair
      obtain ⟨answer, rfl, accepted⟩ := Co.next?_eq_some taken
      rw [Co.bind_run_returned
        (by rw [Co.await_run_taken accepted])] at again ⊢
      rw [Co.await_run_taken accepted] at again ⊢
      rcases received with _ | _ | ⟨first, chunk⟩
      · cases again
      · cases again
      · by_cases below : banner.length < cap
        · have some : first :: chunk ≠ [] := List.cons_ne_nil first chunk
          simp only [Run.after_status, Run.after_store,
            takeChunk_run_chunk some below] at again ⊢
          refine ⟨below, ?_⟩
          rw [List.length_take, List.length_append, List.length_cons]
          omega
        · have full : (takeChunk cap (some (first :: chunk))).run banner rest =
              ⟨[], rest, banner, .returned (some true)⟩ := by
            simp [takeChunk, Co.bind_run, below, Run.after]
          rw [Run.after_status, full] at again
          cases again

theorem readUntilQuiet_ends (timeout cap : Nat) :
    Ends kind (readUntilQuiet timeout cap) := by
  have turn : Ends kind (readTurn cap) := by
    refine (Ends.await _ _).bind fun received => ?_
    have loaded : Ends kind (Co.load : Task Bytes Bytes) := fun _ _ _ _ => .load
    refine loaded.bind fun banner => ?_
    rcases received with _ | _ | ⟨first, rest⟩
    · exact Ends.pure _
    · exact Ends.pure _
    · refine Ends.ite (Ends.pure _) ?_
      have saved (banner : Bytes) : Ends kind (Co.save banner : Task Bytes Unit) :=
        fun _ _ _ _ => .save banner
      exact (saved _).bind fun _ => Ends.ite (Ends.pure _) (Ends.pure _)
  have turns : Ends kind (Co.loop (readTurn cap) (readTurn_progresses cap)) := by
    intro banner feed bound bounded
    let left (banner : Bytes) (feed : Co.Feed network) (k : Nat) : Prop :=
      feed.Bounded kind bound ∧ k = cap - banner.length
    have first : left banner feed (cap - banner.length) := ⟨bounded, rfl⟩
    refine Co.EndsOn.loop ?_ ?_ first
    · rintro k banner feed ⟨bounded, _⟩
      exact turn banner feed bound bounded
    · rintro k banner feed n settled ⟨bounded, rfl⟩ again
      obtain ⟨below, longer⟩ := readTurn_longer again
      exact ⟨_, by omega, bounded.behind, rfl⟩
  refine (Ends.race turns).bind fun which => ?_
  cases which with
  | none =>
      have loaded : Ends kind (Co.load : Task Bytes Bytes) :=
        fun _ _ _ _ => .load
      exact loaded.bind fun _ => Ends.pure _
  | some ok => exact Ends.pure _

theorem firstMatch_ends (banner : Bytes) (rules : List MatchRule) :
    Ends kind (firstMatch banner rules : Task σ ProbeOutcome) := by
  induction rules with
  | nil => exact Ends.pure _
  | cons rule rules induction =>
      refine (regexSearch_ends banner rule.rawPattern).bind fun groups => ?_
      cases groups with
      | none => exact induction
      | some groups => exact Ends.pure _

theorem probeRule_identify_ends (rule : ProbeRule) (timeout : Nat) :
    Ends kind (rule.identify timeout : Task σ ProbeOutcome) := by
  have readAndMatch :
      Ends kind (rule.readAndMatch timeout : Task σ ProbeOutcome) := by
    have read : Ends kind (Co.withStore []
        (readUntilQuiet timeout kMaxBannerBytes) : Task σ (Bool × Bytes)) :=
      fun _ feed bound bounded => Co.EndsOn.withStore
        (readUntilQuiet_ends timeout kMaxBannerBytes [] feed bound bounded)
    exact read.bind fun (_, banner) =>
      Ends.ite (Ends.pure _) (firstMatch_ends banner rule.matchRules)
  exact Ends.ite readAndMatch ((writeAll_ends _ timeout).bind fun _ =>
    Ends.ite (Ends.pure _) readAndMatch)

theorem sendPending_ends (timeout : Nat) (chunks : List Bytes) :
    Ends kind (sendPending timeout chunks : Task σ Bool) := by
  induction chunks with
  | nil => exact Ends.pure _
  | cons chunk chunks induction =>
      exact (writeAll_ends chunk timeout).bind fun _ =>
        Ends.ite induction (Ends.pure _)

theorem feedHandshake_ends :
    Ends kind (feedHandshake : Task σ (Option Bool)) := by
  refine (Ends.await _ _).bind fun received => ?_
  rcases received with _ | _ | ⟨first, rest⟩
  · exact Ends.pure _
  · exact Ends.pure _
  · exact (Ends.emit _).bind fun _ => Ends.pure _

/-- What a turn does with the outcome of its step. -/
def behindStep (timeout : Nat) (step : Handshake × Bytes) :
    Task σ (Option Bool) := do
  let (handshake, pending) := step
  if handshake = .done then return some true
  let ok ← sendPending timeout (pending.toChunks 4096)
  if !ok then return some false
  match handshake with
  | .wantRead => feedHandshake
  | .wantWrite => return none
  | _ => return some false

theorem handshakeTurn_eq (timeout : Nat) :
    (handshakeTurn timeout : Task σ (Option Bool)) =
      Co.await Operation.doHandshake Answer.stepped? >>= behindStep timeout :=
  rfl

theorem behindStep_ends (timeout : Nat) (step : Handshake × Bytes) :
    Ends kind (behindStep timeout step : Task σ (Option Bool)) := by
  obtain ⟨handshake, pending⟩ := step
  refine Ends.ite (Ends.pure _) ((sendPending_ends timeout _).bind fun _ =>
    Ends.ite (Ends.pure _) ?_)
  cases handshake with
  | wantRead => exact feedHandshake_ends
  | done | wantWrite | failed => exact Ends.pure _

/-- A turn asks for another one only where OpenSSL wants to go on. -/
theorem handshakeTurn_again {timeout : Nat} {store : σ} {script : Script}
    (again : ((handshakeTurn timeout : Task σ (Option Bool)).run store
      script).status = .returned none) :
    ∃ signal rest, script = signal :: rest ∧ goesOn signal = true ∧
      ((handshakeTurn timeout : Task σ (Option Bool)).run store script).rest <:+
        rest := by
  rw [handshakeTurn_eq] at again ⊢
  cases taken : Co.next? Answer.stepped? script with
  | none => simp [Co.bind_run, Co.await, taken] at again
  | some pair =>
      obtain ⟨⟨handshake, pending⟩, rest⟩ := pair
      obtain ⟨answer, rfl, accepted⟩ := Co.next?_eq_some taken
      have taken : (Co.await Operation.doHandshake Answer.stepped? :
          Task σ (Handshake × Bytes)).run store (.answer answer :: rest) = _ :=
        Co.await_run_taken accepted store rest
      rw [Co.bind_run_returned (by rw [taken]), taken] at again ⊢
      refine ⟨_, rest, rfl, ?_, (behindStep timeout _).suffix store rest⟩
      cases answer with
      | stepped handshake' pending' =>
          cases accepted
          have concluded (ended : Bool) : some ended = none →
              goesOn (.answer (.stepped handshake pending)) = true := by
            intro isNone
            cases isNone
          have ends : Co.Returns (fun turn => turn = none →
              goesOn (.answer (.stepped handshake pending)) = true)
              (behindStep timeout (handshake, pending) :
                Task σ (Option Bool)) := by
            refine Co.Returns.ite (Co.Returns.pure (concluded _)) ?_
            refine (Co.Returns.trivial _).bind fun ok _ =>
              Co.Returns.ite (Co.Returns.pure (concluded _)) ?_
            cases handshake with
            | wantRead => exact (Co.Returns.trivial _).mono fun _ _ _ => rfl
            | wantWrite => exact Co.Returns.pure fun _ => rfl
            | done | failed => exact Co.Returns.pure (concluded _)
          exact ends.of_returned again rfl
      | _ => cases accepted

theorem driveHandshake_ends (timeout : Nat) :
    Ends goesOn (driveHandshake timeout : Task σ Bool) := by
  intro store feed bound bounded
  let left (_ : σ) (feed : Co.Feed network) (k : Nat) : Prop :=
    feed.Bounded goesOn k
  have first : left store feed bound := bounded
  refine Co.EndsOn.loop ?_ ?_ first
  · intro k store feed bounded
    have turn : Ends goesOn (handshakeTurn timeout : Task σ (Option Bool)) :=
      (Ends.await _ _).bind (behindStep_ends timeout)
    exact turn store feed k bounded
  · intro k store feed n settled bounded again
    obtain ⟨signal, rest, whole, wants, isSuffix⟩ := handshakeTurn_again again
    obtain ⟨used, split, later⟩ := Co.Feed.exists_used settled
    have taken : 1 ≤ used.countP goesOn := by
      have same : signal :: rest = used ++ _ := whole.symm.trans split
      cases used with
      | nil =>
          have short := isSuffix.length_le
          rw [List.nil_append] at same
          rw [← same, List.length_cons] at short
          omega
      | cons signal' used =>
          obtain ⟨rfl, _⟩ := List.cons.inj same
          rw [List.countP_cons_of_pos wants]
          omega
    have enough (j : Nat) := bounded (n + j)
    simp only [later, List.countP_append] at enough
    refine ⟨k - 1, ?_, fun j => ?_⟩
    · have none := enough 0
      omega
    · have some := enough j
      omega

variable {sha256Hex : Bytes → Bytes}

theorem tlsProbe_identify_ends (timeout : Nat) :
    Ends goesOn (TlsProbe.identify sha256Hex timeout : Task σ ProbeOutcome) := by
  refine (Ends.await _ _).bind fun _ => Ends.ite (Ends.pure _) ?_
  refine (Ends.await _ _).bind fun _ => Ends.ite (Ends.pure _) ?_
  refine (Ends.await _ _).bind fun _ => Ends.ite (Ends.pure _) ?_
  refine (driveHandshake_ends timeout).bind fun _ => Ends.ite (Ends.pure _) ?_
  exact (Ends.await _ _).bind fun _ => Ends.pure _

end

section

variable {sha256Hex : Bytes → Bytes} {σ F : Type}
variable {request : ScanRequest} {rtt timestamp : Int}

theorem probeLoop_ends (port : UInt16) (timeout : Nat)
    (results : List Endpoint) (probes : List ProbeVariant)
    (base : ScanResult F) :
    Ends goesOn (probeLoop sha256Hex port timeout results probes base :
      Task σ (ScanResult F)) := by
  induction probes with
  | nil => exact Ends.pure _
  | cons probe probes induction =>
      have identified : Ends goesOn
          (probe.identify sha256Hex timeout : Task σ ProbeOutcome) := by
        cases probe with
        | json rule => exact probeRule_identify_ends rule timeout
        | tls => exact tlsProbe_identify_ends timeout
      exact Ends.ite induction (identified.bind fun _ =>
        Ends.ite (Ends.pure _) ((asyncConnect_ends results).bind fun _ =>
          Ends.ite induction (Ends.pure _)))

theorem connectScan_ends :
    Ends goesOn (connectScan request timestamp : Task σ (ScanResult F)) := by
  have connected : Ends goesOn (doConnect request : Task σ Bool) := by
    refine (Ends.await _ _).bind fun resolved => ?_
    cases resolved with
    | none => exact Ends.pure _
    | some endpoints => exact asyncConnect_ends endpoints
  rw [connectScan_eq]
  exact (Ends.race connected).bind fun _ => Ends.pure _

variable [Floating F] {cves : Option (CveDb F)}

theorem identifyService_ends (probes : List ProbeVariant)
    (base : ScanResult F) :
    Ends goesOn (identifyService sha256Hex request probes cves base :
      Task σ (ScanResult F)) := by
  refine (Ends.await _ _).bind fun resolved => ?_
  cases resolved with
  | none => exact Ends.pure _
  | some results =>
      exact (asyncConnect_ends results).bind fun _ =>
        Ends.ite ((probeLoop_ends _ _ results probes base).bind fun _ =>
          Ends.pure _) (Ends.pure _)

theorem scanOne_ends (probes : Option (List ProbeVariant)) :
    Ends goesOn (scanOne sha256Hex request rtt timestamp probes cves :
      Task σ (ScanResult F)) := by
  refine acquire_ends.bind fun _ => connectScan_ends.bind fun base =>
    (Ends.emit _).bind fun _ => ?_
  split
  · exact identifyService_ends _ _
  · exact Ends.pure _

end

end ServicePortScanner.Scan
