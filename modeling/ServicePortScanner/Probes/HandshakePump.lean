import ServicePortScanner.Data.CoroutineProtocol
import ServicePortScanner.Probes.TlsProbe

namespace ServicePortScanner.Probes

open ServicePortScanner.Data ServicePortScanner.Data.Co ServicePortScanner.Net

/-! The handshake as a pump between OpenSSL's buffers and the socket: nothing is
lost, sent twice or sent out of order. -/

section

variable {α : Type} {n : Nat}

/-- What `toChunks` cuts a list into. -/
def IsChunk (n : Nat) (chunk : List α) : Prop :=
  chunk ≠ [] ∧ chunk.length ≤ n

theorem toChunks_go (positive : 0 < n) (rest : List α) (current : Array α)
    (done : Array (List α)) (isChunk : IsChunk n current.toList)
    (chunks : ∀ chunk ∈ done.toList, IsChunk n chunk) :
    (List.toChunks.go n rest current done).flatten =
        done.toList.flatten ++ current.toList ++ rest ∧
      ∀ chunk ∈ List.toChunks.go n rest current done, IsChunk n chunk := by
  induction rest generalizing current done with
  | nil =>
      rw [List.toChunks.go]
      refine ⟨by simp, ?_⟩
      intro chunk member
      rcases List.mem_append.mp (Array.toList_push ▸ member) with earlier | last
      · exact chunks chunk earlier
      · exact List.mem_singleton.mp last ▸ isChunk
  | cons x rest induction =>
      rw [List.toChunks.go]
      split
      · have single : IsChunk n ((Array.mkEmpty n).push x).toList :=
          ⟨by simp, Nat.succ_le_of_lt positive⟩
        have chunks' : ∀ chunk ∈ (done.push current.toList).toList,
            IsChunk n chunk := by
          intro chunk member
          rcases List.mem_append.mp (Array.toList_push ▸ member) with
            earlier | last
          · exact chunks chunk earlier
          · exact List.mem_singleton.mp last ▸ isChunk
        obtain ⟨whole, each⟩ := induction _ _ single chunks'
        exact ⟨by rw [whole]; simp, each⟩
      · next unfilled =>
        have room : current.size ≠ n := by simpa using unfilled
        have short : current.size ≤ n := by simpa using isChunk.2
        have longer : IsChunk n (current.push x).toList := by
          refine ⟨by simp, ?_⟩
          rw [Array.toList_push, List.length_append, Array.length_toList,
            List.length_singleton]
          omega
        obtain ⟨whole, each⟩ := induction _ _ longer chunks
        exact ⟨by rw [whole]; simp, each⟩

theorem toChunks_spec (positive : 0 < n) (list : List α) :
    (list.toChunks n).flatten = list ∧
      ∀ chunk ∈ list.toChunks n, IsChunk n chunk := by
  cases list with
  | nil => exact ⟨by simp [List.toChunks], by simp [List.toChunks]⟩
  | cons x rest =>
      cases n with
      | zero => cases positive
      | succ n =>
          have single : IsChunk (n + 1) (#[x] : Array α).toList :=
            ⟨by simp, by simp⟩
          exact toChunks_go positive rest #[x] #[] single (by simp)

end

/-! The protocol of the pump.  Its state is what OpenSSL has put out and has not
been written yet, and whether the handshake is done. -/

structure Pump where
  unsent : Bytes := []
  done : Bool := false
  deriving DecidableEq, Repr

namespace Pump

/-- OpenSSL goes on, and the socket is read, only when everything is written. -/
def Permits (pump : Pump) : Operation → Prop
  | .doHandshake => pump.done = false ∧ pump.unsent = []
  | .read size => pump.done = false ∧ pump.unsent = [] ∧ size = 4096
  | .write payload =>
      pump.done = false ∧ IsChunk 4096 payload ∧ payload <+: pump.unsent
  | _ => False

/-- What the last step leaves in the buffer is not sent any more. -/
def next (pump : Pump) : Operation → Signal network → Pump
  | .doHandshake, .answer (.stepped .done _) => { pump with done := true }
  | .doHandshake, .answer (.stepped _ pending) =>
      { pump with unsent := pump.unsent ++ pending }
  | .write payload, .answer .written =>
      { pump with unsent := pump.unsent.drop payload.length }
  | _, _ => pump

theorem next_timer (pump : Pump) (operation : Operation) :
    pump.next operation .timer = pump := by
  cases operation <;> rfl

/-- The handshake goes on, whatever the operation is. -/
def Open (pump : Pump) (_ : Operation) : Prop :=
  pump.done = false

end Pump

def pump : Protocol network Pump where
  Permits := Pump.Permits
  next := Pump.next

section

variable {σ : Type} {timeout : Nat}

/-- A write that does not succeed ends the handshake. -/
def Wrote (rest : Bytes) (ok : Bool) (pump : Pump) : Prop :=
  pump.done = false ∧ (ok = true → pump = ⟨rest, false⟩)

theorem writeAll_pumps {chunk : Bytes} (isChunk : IsChunk 4096 chunk)
    (rest : Bytes) :
    Obeys pump (· = ⟨chunk ++ rest, false⟩) Pump.Open (Wrote rest)
      (writeAll chunk timeout : Task σ Bool) := by
  have raced : Obeys pump (· = ⟨chunk ++ rest, false⟩) Pump.Open
      (fun which => Wrote rest (which.getD false))
      (Co.race timeout (Co.await (.write chunk) Answer.writing?) :
        Task σ (Option Bool)) := by
    refine Obeys.race (Obeys.await ?_ ?_) ?_
    · rintro _ rfl
      exact ⟨⟨rfl, isChunk, List.prefix_append chunk rest⟩, rfl⟩
    · rintro _ answer ok rfl accepted
      cases answer with
      | written =>
          cases accepted
          refine ⟨rfl, fun _ => ?_⟩
          change Pump.mk ((chunk ++ rest).drop chunk.length) false = _
          rw [List.drop_left]
      | writeFailed =>
          cases accepted
          exact ⟨rfl, nofun⟩
      | _ => cases accepted
    · intro state operation isOpen
      change Wrote rest false (state.next operation .timer)
      rw [Pump.next_timer]
      exact ⟨isOpen, nofun⟩
  refine raced.bind fun which => ?_
  cases which with
  | none => exact Obeys.pure fun _ wrote => wrote
  | some ok => exact Obeys.pure fun _ wrote => wrote

theorem sendPending_pumps {chunks : List Bytes}
    (isChunk : ∀ chunk ∈ chunks, IsChunk 4096 chunk) :
    Obeys pump (· = ⟨chunks.flatten, false⟩) Pump.Open (Wrote [])
      (sendPending timeout chunks : Task σ Bool) := by
  induction chunks with
  | nil =>
      apply Obeys.pure
      rintro _ rfl
      exact ⟨rfl, fun _ => rfl⟩
  | cons chunk chunks induction =>
      have first := isChunk chunk List.mem_cons_self
      have others := induction fun chunk member =>
        isChunk chunk (List.mem_cons_of_mem _ member)
      refine (writeAll_pumps first chunks.flatten).bind fun ok => ?_
      cases ok with
      | true =>
          exact others.mono (fun _ wrote => wrote.2 rfl) (fun _ _ isOpen => isOpen)
            fun _ _ wrote => wrote
      | false => exact Obeys.pure fun _ wrote => ⟨wrote.1, nofun⟩

/-- What a turn leaves to the next one, or returns. -/
def Turned (turn : Option Bool) (pump : Pump) : Prop :=
  turn.elim (pump = {}) fun ok => pump.done = ok ∧ (ok = true → pump.unsent = [])

theorem feedHandshake_pumps :
    Obeys pump (· = {}) Pump.Open Turned
      (feedHandshake : Task σ (Option Bool)) := by
  have read : Obeys pump (· = {}) Pump.Open (fun _ pump => pump = {})
      (Co.await (.read 4096) Answer.reading? : Task σ (Option Bytes)) := by
    refine Obeys.await ?_ ?_
    · rintro _ rfl
      exact ⟨⟨rfl, rfl, rfl⟩, rfl⟩
    · rintro _ answer value rfl _
      rfl
  refine read.bind fun received => ?_
  rcases received with _ | _ | ⟨first, rest⟩
  · exact Obeys.pure fun _ same => same ▸ ⟨rfl, nofun⟩
  · exact Obeys.pure fun _ same => same ▸ ⟨rfl, nofun⟩
  · have fed : Obeys pump (· = {}) Pump.Open (fun _ pump => pump = {})
        (Co.emit (.fed (first :: rest)) : Task σ Unit) :=
      Obeys.emit fun _ same => same
    exact fed.bind fun _ => Obeys.pure fun _ same => same

/-- Where a step of the handshake leaves the pump. -/
def Stepped : Handshake × Bytes → Pump → Prop
  | (.done, _), pump => pump = ⟨[], true⟩
  | (_, pending), pump => pump = ⟨pending, false⟩

theorem handshakeTurn_pumps :
    Obeys pump (· = {}) Pump.Open Turned
      (handshakeTurn timeout : Task σ (Option Bool)) := by
  have stepped : Obeys pump (· = {}) Pump.Open Stepped
      (Co.await .doHandshake Answer.stepped? : Task σ (Handshake × Bytes)) := by
    refine Obeys.await ?_ ?_
    · rintro _ rfl
      exact ⟨⟨rfl, rfl⟩, rfl⟩
    · rintro _ answer ⟨handshake, pending⟩ rfl accepted
      cases answer with
      | stepped handshake' pending' =>
          cases accepted
          cases handshake <;> rfl
      | _ => cases accepted
  refine stepped.bind fun (handshake, pending) => ?_
  by_cases done : handshake = .done
  · subst done
    exact Obeys.pure fun _ same => same ▸ ⟨rfl, fun _ => rfl⟩
  · obtain ⟨whole, isChunk⟩ := toChunks_spec (show 0 < 4096 by decide) pending
    have sent : Obeys pump (Stepped (handshake, pending)) Pump.Open (Wrote [])
        (sendPending timeout (pending.toChunks 4096) : Task σ Bool) := by
      refine (sendPending_pumps isChunk).mono ?_ (fun _ _ isOpen => isOpen)
        fun _ _ wrote => wrote
      intro state same
      rw [whole]
      cases handshake with
      | done => exact (done rfl).elim
      | wantRead | wantWrite | failed => exact same
    refine Obeys.ite (fun same => (done same).elim) fun _ =>
      sent.bind fun ok => ?_
    cases ok with
    | false => exact Obeys.pure fun _ wrote => ⟨wrote.1, nofun⟩
    | true =>
        cases handshake with
        | done => exact (done rfl).elim
        | wantRead =>
            exact feedHandshake_pumps.mono (fun _ wrote => wrote.2 rfl)
              (fun _ _ isOpen => isOpen) fun _ _ turned => turned
        | wantWrite => exact Obeys.pure fun _ wrote => wrote.2 rfl
        | failed =>
            exact Obeys.pure fun _ wrote => ⟨wrote.1, nofun⟩

theorem driveHandshake_obeys :
    Obeys pump (· = {}) Pump.Open (fun ok => Turned (some ok))
      (driveHandshake timeout : Task σ Bool) := by
  refine Obeys.loop (handshakeTurn_pumps.mono (fun _ same => same)
    (fun _ _ isOpen => isOpen) ?_)
  intro turn state turned
  cases turn with
  | none => exact turned
  | some ok => exact turned

end

/-! What has been put out is what has been sent and what is still to be sent. -/

namespace Pump

/-- The bytes that the step of an exchange has put out. -/
def produced : Exchange network → Bytes
  | ⟨⟨.doHandshake, _⟩, .answer (.stepped .done _)⟩ => []
  | ⟨⟨.doHandshake, _⟩, .answer (.stepped _ pending)⟩ => pending
  | _ => []

/-- The bytes that the write of an exchange has brought to the peer. -/
def sent : Exchange network → Bytes
  | ⟨⟨.write payload, _⟩, .answer .written⟩ => payload
  | _ => []

theorem next_unsent {state : Pump} {exchange : Exchange network}
    (permitted : state.Permits exchange.wait.operation) :
    state.unsent ++ produced exchange =
      sent exchange ++
        (state.next exchange.wait.operation exchange.signal).unsent := by
  obtain ⟨⟨operation, guard⟩, signal⟩ := exchange
  cases signal with
  | timer =>
      rw [next_timer]
      cases operation <;> simp [produced, sent]
  | answer answer =>
      cases operation with
      | doHandshake =>
          cases answer with
          | stepped handshake pending =>
              cases handshake <;> simp [produced, sent, next]
          | _ => simp [produced, sent, next]
      | write payload =>
          cases answer with
          | written =>
              obtain ⟨-, -, rest, split⟩ := permitted
              simp [produced, sent, next, ← split]
          | _ => simp [produced, sent, next]
      | _ => simp [produced, sent, next]

theorem unsent_append {state : Pump} {exchanges : List (Exchange network)}
    (follows : pump.Follows state exchanges) :
    state.unsent ++ exchanges.flatMap produced =
      exchanges.flatMap sent ++ (pump.after state exchanges).unsent := by
  induction exchanges generalizing state with
  | nil => simp [Protocol.after]
  | cons exchange exchanges induction =>
      obtain ⟨permitted, later⟩ := follows
      have first := next_unsent permitted
      have others := induction later
      rw [List.flatMap_cons, List.flatMap_cons, ← List.append_assoc, first,
        List.append_assoc, List.append_assoc]
      exact congrArg (sent exchange ++ ·) others

end Pump

/-! What OpenSSL is fed is what has been received. -/

/-- What a signal brings that goes into OpenSSL's buffer. -/
def fed? : Signal network → Option Action
  | .answer (.received (first :: rest)) => some (.fed (first :: rest))
  | _ => none

def Feeds {σ α : Type} (body : Task σ α) : Prop :=
  Co.Satisfies body fun used trace _ => trace = used.filterMap fed?

namespace Feeds

variable {σ α β : Type}

theorem append {used used' : Script} {trace trace' : List Action}
    (front : trace = used.filterMap fed?) (back : trace' = used'.filterMap fed?) :
    trace ++ trace' = (used ++ used').filterMap fed? := by
  rw [List.filterMap_append, ← front, ← back]

theorem pure (value : α) : Feeds (Pure.pure value : Task σ α) :=
  Co.Satisfies.pure rfl

theorem await {operation : Operation} {accept : Answer → Option α}
    (quiet : ∀ answer value, accept answer = some value →
      fed? (.answer answer) = none) :
    Feeds (Co.await operation accept : Task σ α) :=
  Co.Satisfies.await rfl fun answer value accepted => by
    rw [List.filterMap_cons_none (quiet answer value accepted)]
    rfl

theorem bind {body : Task σ α} {next : α → Task σ β} (head : Feeds body)
    (tail : ∀ value, Feeds (next value)) : Feeds (body >>= next) :=
  Co.Satisfies.bind head tail (fun _ _ _ _ _ _ => append)
    (fun _ _ _ same => same) (fun _ _ _ same => same)

theorem ite {condition : Prop} [Decidable condition] {body other : Task σ α}
    (yes : Feeds body) (no : Feeds other) :
    Feeds (if condition then body else other) := by
  split
  · exact yes
  · exact no

theorem race {milliseconds : Nat} {body : Task σ α} (inside : Feeds body) :
    Feeds (Co.race milliseconds body) :=
  Co.Satisfies.race inside (fun _ _ _ same => same) (fun _ _ _ same => same)
    (fun _ _ _ same => same) fun _ _ _ same => by
      rw [List.filterMap_append, ← same]
      exact (List.append_nil _).symm

theorem loop {body : Task σ (Option α)} {progresses : Co.Progresses body}
    (inside : Feeds body) : Feeds (Co.loop body progresses) :=
  Co.Satisfies.loop inside (fun _ _ _ _ _ => append) (fun _ _ _ same => same)
    (fun _ _ _ same => same) (fun _ _ _ same => same)

end Feeds

section

variable {σ : Type} {timeout : Nat}

theorem writeAll_feeds (payload : Bytes) :
    Feeds (writeAll payload timeout : Task σ Bool) := by
  have raced : Feeds (Co.race timeout (Co.await (.write payload)
      Answer.writing?) : Task σ (Option Bool)) := by
    apply Feeds.race
    apply Feeds.await
    intro answer value accepted
    cases answer <;> first | rfl | cases accepted
  refine raced.bind fun which => ?_
  cases which with
  | none => exact Feeds.pure _
  | some ok => exact Feeds.pure _

theorem sendPending_feeds (chunks : List Bytes) :
    Feeds (sendPending timeout chunks : Task σ Bool) := by
  induction chunks with
  | nil => exact Feeds.pure _
  | cons chunk chunks induction =>
      exact (writeAll_feeds chunk).bind fun _ =>
        Feeds.ite induction (Feeds.pure _)

/-- What is fed after a read. -/
def fedOf : Option Bytes → List Action
  | some (first :: rest) => [.fed (first :: rest)]
  | _ => []

theorem feedHandshake_feeds :
    Feeds (feedHandshake : Task σ (Option Bool)) := by
  have read : Co.Satisfies
      (Co.await (.read 4096) Answer.reading? : Task σ (Option Bytes))
      fun used trace status => trace = [] ∧ ((∀ value, status ≠ .returned value) →
          used = []) ∧
        ∀ value, status = .returned value → used.filterMap fed? = fedOf value := by
    refine Co.Satisfies.await ⟨rfl, fun _ => rfl, nofun⟩ ?_
    intro answer value accepted
    refine ⟨rfl, fun other => (other value rfl).elim, ?_⟩
    rintro _ ⟨⟩
    cases answer with
    | received chunk =>
        cases accepted
        cases chunk <;> rfl
    | readFailed =>
        cases accepted
        rfl
    | _ => cases accepted
  let second (received : Option Bytes) : Co.Post network (Option Bool) :=
    fun used trace _ => used = [] ∧ trace = fedOf received
  refine Co.Satisfies.bind read
    (fun received => (?_ : Co.Satisfies _ (second received))) ?_ ?_ ?_
  · rcases received with _ | _ | ⟨first, rest⟩
    · exact Co.Satisfies.pure ⟨rfl, rfl⟩
    · exact Co.Satisfies.pure ⟨rfl, rfl⟩
    · exact fun _ _ => ⟨[], rfl, rfl, rfl⟩
  · rintro used trace value used' trace' status ⟨rfl, -, fed⟩ ⟨rfl, rfl⟩
    rw [List.append_nil, fed value rfl]
    rfl
  · rintro used trace error ⟨rfl, none, -⟩
    rw [none nofun]
    rfl
  · rintro used trace wait ⟨rfl, none, -⟩
    rw [none nofun]
    rfl

theorem driveHandshake_feeds :
    Feeds (driveHandshake timeout : Task σ Bool) := by
  apply Feeds.loop
  have stepped : Feeds
      (Co.await .doHandshake Answer.stepped? : Task σ (Handshake × Bytes)) := by
    apply Feeds.await
    intro answer value accepted
    cases answer <;> first | rfl | cases accepted
  refine stepped.bind fun (handshake, pending) => ?_
  refine Feeds.ite (Feeds.pure _) ((sendPending_feeds _).bind fun _ =>
    Feeds.ite (Feeds.pure _) ?_)
  cases handshake with
  | wantRead => exact feedHandshake_feeds
  | done | wantWrite | failed => exact Feeds.pure _

/-- At each point of a run, what OpenSSL has put out has been written in order and
once, but for what is still to be written; and it has been fed what has been
received. -/
structure Pumps (exchanges : List (Exchange network)) (run : Run network σ Bool) :
    Prop where
  follows : pump.Follows {} exchanges
  sent : ∀ front, front <+: exchanges → front.flatMap Pump.produced =
    front.flatMap Pump.sent ++ (pump.after {} front).unsent
  fed : run.trace = (signals exchanges).filterMap fed?
  waiting : ∀ wait, run.status = .waiting wait →
    (pump.after {} exchanges).Permits wait.operation
  returned : ∀ ok, run.status = .returned ok →
    (pump.after {} exchanges).done = ok ∧
      (ok = true → (pump.after {} exchanges).unsent = [])

theorem driveHandshake_pumps (timeout : Nat) (store : σ) (script : Script) :
    ∃ exchanges rest, script = signals exchanges ++ rest ∧
      Transcript (driveHandshake timeout : Task σ Bool) store exchanges rest ∧
      Pumps exchanges
        ((driveHandshake timeout : Task σ Bool).run store script) := by
  obtain ⟨exchanges, rest, whole, transcript, reaches⟩ :=
    (driveHandshake_obeys : Obeys pump _ _ _ (driveHandshake timeout : Task σ Bool))
      store script
  have reached := reaches {} rfl
  obtain ⟨used, whole', fed⟩ :=
    (driveHandshake_feeds : Feeds (driveHandshake timeout : Task σ Bool)) store
      script
  have left : ((driveHandshake timeout : Task σ Bool).run store script).rest =
      rest := by
    rw [whole, transcript.unread, Run.extend, transcript.usedUp]
    rfl
  have same : used = signals exchanges := by
    rw [left, whole] at whole'
    exact (List.append_cancel_right whole').symm
  refine ⟨exchanges, rest, whole, transcript, reached.follows, ?_, ?_, ?_, ?_⟩
  · rintro front ⟨back, split⟩
    have follows := reached.follows
    rw [← split, Protocol.follows_append] at follows
    exact Pump.unsent_append follows.1
  · rw [fed, same]
  · exact fun wait waits => (reached.waiting wait waits).1
  · exact fun ok returns => reached.returned ok returns

end

end ServicePortScanner.Probes
