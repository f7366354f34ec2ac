import ServicePortScanner.Probes.BannerIo

namespace ServicePortScanner.Probes

open ServicePortScanner.Data ServicePortScanner.Net

/-! What `read_until_quiet` makes of a stream, however it is cut. -/

/-- What a read can come to.  The end of the stream is an error of its own, or a
read of no bytes. -/
inductive ReadEvent where
  | chunk (received : Bytes)
  | closed
  | failed
  | timer
  deriving DecidableEq, Repr

namespace ReadEvent

def signal : ReadEvent → Signal network
  | .chunk received => .answer (.received received)
  | .closed => .answer (.received [])
  | .failed => .answer .readFailed
  | .timer => .timer

def isChunk : ReadEvent → Bool
  | .chunk _ => true
  | _ => false

def received : ReadEvent → Bytes
  | .chunk received => received
  | _ => []

/-- A read fills some of the buffer. -/
def Fits (event : ReadEvent) : Prop :=
  event.isChunk = true → 1 ≤ event.received.length ∧ event.received.length ≤ 1024

end ReadEvent

def receivedBytes (events : List ReadEvent) : Bytes :=
  events.flatMap ReadEvent.received

def scriptOf (events : List ReadEvent) : Script :=
  events.map ReadEvent.signal

/-- The part of a turn behind the read. -/
def takeChunk (cap : Nat) (received : Option Bytes) : Task Bytes (Option Bool) := do
  let banner ← Co.load
  match received with
  | none | some [] => return some !banner.isEmpty
  | some chunk =>
      let room := if banner.length < cap then cap - banner.length else 0
      if room = 0 then return some true
      let banner := banner ++ chunk.take (min chunk.length room)
      Co.save banner
      if cap ≤ banner.length then return some true
      return none

theorem readTurn_eq (cap : Nat) :
    readTurn cap =
      (Co.await (.read 1024) Answer.reading? : Task Bytes _) >>= takeChunk cap :=
  rfl

/-- The race of the read operation against the timer. -/
def quietRace (timeout cap : Nat) : Task Bytes (Option Bool) :=
  Co.race timeout (Co.loop (readTurn cap) (readTurn_progresses cap))

section

variable {timeout cap : Nat} {banner : Bytes}

theorem takeChunk_run_ended {received : Option Bytes}
    (ended : received = none ∨ received = some []) (script : Script) :
    (takeChunk cap received).run banner script =
      ⟨[], script, banner, .returned (some !banner.isEmpty)⟩ := by
  rcases ended with rfl | rfl
  · rfl
  · rfl

/-- Below the cap a chunk is appended, as much of it as there is room for. -/
theorem takeChunk_run_chunk {received : Bytes} (some : received ≠ [])
    (below : banner.length < cap) (script : Script) :
    (takeChunk cap (.some received)).run banner script =
      ⟨[], script, (banner ++ received).take cap,
        .returned (if cap ≤ (banner ++ received).length then .some true
          else none)⟩ := by
  cases received with
  | nil => exact absurd rfl some
  | cons b chunk =>
      have room : (if banner.length < cap then cap - banner.length else 0) =
          cap - banner.length := if_pos below
      have some : cap - banner.length ≠ 0 := by omega
      have appended : banner ++
          (b :: chunk).take (min (b :: chunk).length (cap - banner.length)) =
          (banner ++ b :: chunk).take cap := by
        rw [List.take_append, List.take_of_length_le below.le, min_comm,
          ← List.take_eq_take_min]
      have full : cap ≤ ((banner ++ b :: chunk).take cap).length ↔
          cap ≤ (banner ++ b :: chunk).length := by
        rw [List.length_take]
        omega
      rw [takeChunk, Co.bind_run_returned rfl]
      simp only [Co.load_run, room, if_neg some, appended, full]
      rw [Co.bind_run_returned rfl]
      split
      · rfl
      · rfl

/-- What the loop does with the result of a turn. -/
def afterTurn (cap : Nat) : Option Bool → Task Bytes Bool
  | some ok => pure ok
  | none => Co.loop (readTurn cap) (readTurn_progresses cap)

theorem loop_readTurn (cap : Nat) :
    Co.loop (readTurn cap) (readTurn_progresses cap) =
      readTurn cap >>= afterTurn cap := by
  rw [Co.loop_eq]
  apply congrArg (readTurn cap >>= ·)
  funext result
  cases result with
  | none => rfl
  | some ok => rfl

theorem quietRace_eq (timeout cap : Nat) :
    quietRace timeout cap = Co.race timeout
      ((Co.await (.read 1024) Answer.reading? : Task Bytes _) >>= fun received =>
        takeChunk cap received >>= afterTurn cap) := by
  rw [quietRace, loop_readTurn, readTurn_eq, bind_assoc]

theorem quietRace_run_nil (timeout cap : Nat) (banner : Bytes) :
    (quietRace timeout cap).run banner [] =
      ⟨[], [], banner, .waiting ⟨Operation.read 1024, some timeout⟩⟩ := by
  rw [quietRace_eq, Co.race_run_await]

theorem quietRace_run_timer (timeout cap : Nat) (banner : Bytes)
    (rest : Script) :
    (quietRace timeout cap).run banner (.timer :: rest) =
      ⟨[], rest, banner, .returned none⟩ := by
  rw [quietRace_eq, Co.race_run_await]

theorem quietRace_run_ended {answer : Answer} {received : Option Bytes}
    (read : answer.reading? = some received)
    (ended : received = none ∨ received = some []) (rest : Script) :
    (quietRace timeout cap).run banner (.answer answer :: rest) =
      ⟨[], rest, banner, .returned (some !banner.isEmpty)⟩ := by
  rw [quietRace_eq, Co.race_run_await]
  simp only [read]
  rw [Co.race_run_immediate (takeChunk_run_ended ended)]
  exact Co.race_run_pure _ _

theorem quietRace_run_chunk {received : Bytes} (some : received ≠ [])
    (below : banner.length < cap) (rest : Script) :
    (quietRace timeout cap).run banner (.answer (.received received) :: rest) =
      if cap ≤ (banner ++ received).length then
        ⟨[], rest, (banner ++ received).take cap, .returned (.some true)⟩
      else (quietRace timeout cap).run (banner ++ received) rest := by
  have read : Answer.reading? (.received received) = .some (.some received) := rfl
  rw [quietRace_eq, Co.race_run_await]
  simp only [read]
  rw [Co.race_run_immediate (takeChunk_run_chunk some below)]
  by_cases reached : cap ≤ (banner ++ received).length
  · rw [if_pos reached, if_pos reached]
    exact Co.race_run_pure _ _
  · rw [if_neg reached, if_neg reached,
      List.take_of_length_le (not_le.mp reached).le, ← quietRace_eq]
    rfl

end

/-! The banner is the front of what has been received. -/

/-- How the reading of these events goes: what is received until it stops, what
is left then, and whether it has stopped. -/
inductive Reads (cap : Nat) :
    Bytes → List ReadEvent → Bytes → List ReadEvent → Bool → Prop where
  | waits (received : Bytes) : Reads cap received [] received [] false
  | ended (received : Bytes) {event : ReadEvent} (rest : List ReadEvent)
      (other : event.isChunk = false) :
      Reads cap received (event :: rest) received rest true
  | full {received chunk : Bytes} (rest : List ReadEvent)
      (reached : cap ≤ (received ++ chunk).length) :
      Reads cap received (.chunk chunk :: rest) (received ++ chunk) rest true
  | more {received chunk total : Bytes} {events rest : List ReadEvent}
      {stopped : Bool} (below : (received ++ chunk).length < cap)
      (later : Reads cap (received ++ chunk) events total rest stopped) :
      Reads cap received (.chunk chunk :: events) total rest stopped

theorem exists_reads (cap : Nat) (received : Bytes) (events : List ReadEvent) :
    ∃ total rest stopped, Reads cap received events total rest stopped := by
  induction events generalizing received with
  | nil => exact ⟨_, _, _, .waits received⟩
  | cons event events induction =>
      cases event with
      | chunk bytes =>
          by_cases reached : cap ≤ (received ++ bytes).length
          · exact ⟨_, _, _, .full events reached⟩
          · obtain ⟨total, rest, stopped, later⟩ := induction (received ++ bytes)
            exact ⟨total, rest, stopped, .more (not_le.mp reached) later⟩
      | closed => exact ⟨_, _, _, .ended received events rfl⟩
      | failed => exact ⟨_, _, _, .ended received events rfl⟩
      | timer => exact ⟨_, _, _, .ended received events rfl⟩

def readStatus (timeout : Nat) (banner : Bytes) (stopped : Bool) :
    Status network Bool :=
  if stopped then .returned !banner.isEmpty
  else .waiting ⟨Operation.read 1024, some timeout⟩

section

variable {timeout cap : Nat} {banner store : Bytes} {script rest : Script}

theorem readUntilQuiet_run_congr {banner' : Bytes} {script' : Script}
    (raced : (quietRace timeout cap).run banner script =
      (quietRace timeout cap).run banner' script') :
    (readUntilQuiet timeout cap).run banner script =
      (readUntilQuiet timeout cap).run banner' script' := by
  change (quietRace timeout cap >>= _).run banner script =
    (quietRace timeout cap >>= _).run banner' script'
  rw [Co.bind_run, raced, Co.bind_run]

theorem readUntilQuiet_run_of_timer
    (raced : (quietRace timeout cap).run banner script =
      ⟨[], rest, store, .returned none⟩) :
    (readUntilQuiet timeout cap).run banner script =
      ⟨[], rest, store, .returned !store.isEmpty⟩ := by
  change (quietRace timeout cap >>= _).run banner script = _
  rw [Co.bind_run, raced]
  rfl

theorem readUntilQuiet_run_of_read {ok : Bool}
    (raced : (quietRace timeout cap).run banner script =
      ⟨[], rest, store, .returned (some ok)⟩) :
    (readUntilQuiet timeout cap).run banner script =
      ⟨[], rest, store, .returned ok⟩ := by
  change (quietRace timeout cap >>= _).run banner script = _
  rw [Co.bind_run, raced]
  rfl

theorem readUntilQuiet_run_of_waiting {wait : Wait network}
    (raced : (quietRace timeout cap).run banner script =
      ⟨[], rest, store, .waiting wait⟩) :
    (readUntilQuiet timeout cap).run banner script =
      ⟨[], rest, store, .waiting wait⟩ := by
  change (quietRace timeout cap >>= _).run banner script = _
  rw [Co.bind_run, raced]

end

theorem Reads.run (timeout : Nat) {cap : Nat} {received total : Bytes}
    {events rest : List ReadEvent} {stopped : Bool}
    (reads : Reads cap received events total rest stopped)
    (fits : ∀ event ∈ events, event.Fits) (positive : 0 < cap)
    (below : received.length < cap) :
    (readUntilQuiet timeout cap).run received (scriptOf events) =
      ⟨[], scriptOf rest, total.take cap,
        readStatus timeout (total.take cap) stopped⟩ := by
  induction reads with
  | waits received =>
      rw [List.take_of_length_le below.le]
      exact readUntilQuiet_run_of_waiting (quietRace_run_nil timeout cap received)
  | @ended received event rest other =>
      rw [List.take_of_length_le below.le]
      cases event with
      | chunk bytes => cases other
      | closed =>
          exact readUntilQuiet_run_of_read
            (quietRace_run_ended rfl (.inr rfl) (scriptOf rest))
      | failed =>
          exact readUntilQuiet_run_of_read
            (quietRace_run_ended rfl (.inl rfl) (scriptOf rest))
      | timer =>
          exact readUntilQuiet_run_of_timer
            (quietRace_run_timer timeout cap received (scriptOf rest))
  | @full received chunk rest reached =>
      have some : chunk ≠ [] :=
        List.ne_nil_of_length_pos (fits _ List.mem_cons_self rfl).1
      have raced : (quietRace timeout cap).run received
          (.answer (.received chunk) :: scriptOf rest) = _ :=
        quietRace_run_chunk some below (scriptOf rest)
      rw [if_pos reached] at raced
      have nonempty : ((received ++ chunk).take cap).isEmpty = false := by
        simp [some, positive.ne']
      rw [readStatus, if_pos rfl, nonempty]
      exact readUntilQuiet_run_of_read raced
  | @more received chunk total events rest stopped belowNext later induction =>
      have some : chunk ≠ [] :=
        List.ne_nil_of_length_pos (fits _ List.mem_cons_self rfl).1
      have raced : (quietRace timeout cap).run received
          (.answer (.received chunk) :: scriptOf events) = _ :=
        quietRace_run_chunk some below (scriptOf events)
      rw [if_neg (not_le.mpr belowNext)] at raced
      have tail := induction
        (fun event member => fits event (List.mem_cons_of_mem _ member)) belowNext
      exact (readUntilQuiet_run_congr raced).trans tail

/-! What a reading comes to, and two readings of one stream. -/

theorem Reads.decompose {cap : Nat} {received total : Bytes}
    {events rest : List ReadEvent} {stopped : Bool}
    (reads : Reads cap received events total rest stopped)
    (below : received.length < cap) :
    ∃ before, events = before ++ rest ∧ total = received ++ receivedBytes before ∧
      if stopped then
        ∃ earlier last, before = earlier ++ [last] ∧
          (∀ event ∈ earlier, event.isChunk = true) ∧
          (received ++ receivedBytes earlier).length < cap ∧
          (last.isChunk = false ∨ cap ≤ total.length)
      else
        rest = [] ∧ (∀ event ∈ before, event.isChunk = true) ∧
          total.length < cap := by
  induction reads with
  | waits received =>
      exact ⟨[], rfl, (List.append_nil _).symm, rfl, by simp, below⟩
  | @ended received event rest other =>
      have none : receivedBytes [event] = [] := by
        cases event with
        | chunk bytes => cases other
        | _ => rfl
      refine ⟨[event], rfl, ?_, [], event, rfl, by simp, ?_, .inl other⟩
      · rw [none, List.append_nil]
      · exact (List.append_nil received).symm ▸ below
  | @full received chunk rest reached =>
      refine ⟨[.chunk chunk], rfl, ?_, [], .chunk chunk, rfl, by simp, ?_,
        .inr reached⟩
      · simp [receivedBytes, ReadEvent.received]
      · exact (List.append_nil received).symm ▸ below
  | @more received chunk total events rest stopped belowNext later induction =>
      obtain ⟨before, split, sum, ending⟩ := induction belowNext
      have bytes : receivedBytes (.chunk chunk :: before) =
          chunk ++ receivedBytes before := rfl
      refine ⟨.chunk chunk :: before, congrArg _ split, ?_, ?_⟩
      · rw [sum, bytes, List.append_assoc]
      · cases stopped with
        | true =>
            obtain ⟨earlier, last, cut, chunks, short, ends⟩ := ending
            refine ⟨.chunk chunk :: earlier, last, congrArg _ cut, ?_, ?_, ends⟩
            · exact List.forall_mem_cons.mpr ⟨rfl, chunks⟩
            · rw [List.append_assoc] at short
              exact short
        | false =>
            obtain ⟨done, chunks, short⟩ := ending
            exact ⟨done, List.forall_mem_cons.mpr ⟨rfl, chunks⟩, short⟩

/-- The stream in chunks, all of it and then its end, or up to the cap. -/
def Delivers (cap : Nat) (stream : Bytes) (events : List ReadEvent) : Prop :=
  ∃ chunks : List Bytes,
    (∀ chunk ∈ chunks, 1 ≤ chunk.length ∧ chunk.length ≤ 1024) ∧
      ((chunks.flatten = stream ∧
          (events = chunks.map .chunk ++ [.closed] ∨
            events = chunks.map .chunk ++ [.failed])) ∨
        (chunks.flatten <+: stream ∧ cap ≤ chunks.flatten.length ∧
          events = chunks.map .chunk))

theorem exists_reads_of_closed {cap : Nat} {received : Bytes}
    (below : received.length < cap) (last : ReadEvent)
    (other : last.isChunk = false) (chunks : List Bytes) :
    ∃ total rest, Reads cap received (chunks.map .chunk ++ [last]) total rest true ∧
      total.take cap = (received ++ chunks.flatten).take cap := by
  induction chunks generalizing received with
  | nil =>
      refine ⟨received, [], .ended received [] other, ?_⟩
      rw [List.flatten_nil, List.append_nil]
  | cons chunk chunks induction =>
      rw [List.flatten_cons, ← List.append_assoc]
      by_cases reached : cap ≤ (received ++ chunk).length
      · refine ⟨received ++ chunk, _, .full _ reached, ?_⟩
        exact (List.take_append_of_le_length reached).symm
      · obtain ⟨total, rest, reads, same⟩ := induction (not_le.mp reached)
        exact ⟨total, rest, .more (not_le.mp reached) reads, same⟩

theorem exists_reads_of_full {cap : Nat} {received : Bytes}
    (below : received.length < cap) (chunks : List Bytes)
    (enough : cap ≤ (received ++ chunks.flatten).length) :
    ∃ total rest, Reads cap received (chunks.map .chunk) total rest true ∧
      total.take cap = (received ++ chunks.flatten).take cap := by
  induction chunks generalizing received with
  | nil =>
      rw [List.flatten_nil, List.append_nil] at enough
      exact absurd below (not_lt.mpr enough)
  | cons chunk chunks induction =>
      rw [List.flatten_cons, ← List.append_assoc] at enough ⊢
      by_cases reached : cap ≤ (received ++ chunk).length
      · refine ⟨received ++ chunk, _, .full _ reached, ?_⟩
        exact (List.take_append_of_le_length reached).symm
      · obtain ⟨total, rest, reads, same⟩ := induction (not_le.mp reached) enough
        exact ⟨total, rest, .more (not_le.mp reached) reads, same⟩

theorem fits_chunks {chunks : List Bytes} (tail : List ReadEvent)
    (sizes : ∀ chunk ∈ chunks, 1 ≤ chunk.length ∧ chunk.length ≤ 1024)
    (others : ∀ event ∈ tail, event.isChunk = false) :
    ∀ event ∈ chunks.map ReadEvent.chunk ++ tail, event.Fits := by
  intro event member isChunk
  rcases List.mem_append.mp member with inChunks | inTail
  · obtain ⟨chunk, inside, rfl⟩ := List.mem_map.mp inChunks
    exact sizes chunk inside
  · rw [others event inTail] at isChunk
    cases isChunk

/-- Both ends of a delivery leave the front of the stream. -/
theorem Delivers.run (timeout : Nat) {cap : Nat} (positive : 0 < cap) {stream : Bytes}
    {events : List ReadEvent} (delivers : Delivers cap stream events) :
    ∃ rest, (readUntilQuiet timeout cap).run [] (scriptOf events) =
      ⟨[], rest, stream.take cap, .returned !(stream.take cap).isEmpty⟩ := by
  have below : ([] : Bytes).length < cap := positive
  obtain ⟨chunks, sizes, ⟨rfl, rfl | rfl⟩ | ⟨front, enough, rfl⟩⟩ := delivers
  · obtain ⟨total, rest, reads, same⟩ :=
      exists_reads_of_closed below .closed rfl chunks
    have fits := fits_chunks [.closed] sizes (by simp [ReadEvent.isChunk])
    refine ⟨scriptOf rest, ?_⟩
    rw [reads.run timeout fits positive below, same]
    rfl
  · obtain ⟨total, rest, reads, same⟩ :=
      exists_reads_of_closed below .failed rfl chunks
    have fits := fits_chunks [.failed] sizes (by simp [ReadEvent.isChunk])
    refine ⟨scriptOf rest, ?_⟩
    rw [reads.run timeout fits positive below, same]
    rfl
  · obtain ⟨total, rest, reads, same⟩ :=
      exists_reads_of_full below chunks enough
    have fits := fits_chunks [] sizes (by simp)
    rw [List.append_nil] at fits
    obtain ⟨behind, rfl⟩ := front
    refine ⟨scriptOf rest, ?_⟩
    rw [reads.run timeout fits positive below, same,
      List.nil_append, List.take_append_of_le_length enough]
    rfl

/-- Up to the cap the banner is what has been received, whatever the chunks. -/
theorem banner_of_stream {cap : Nat} (positive : 0 < cap) (timeout : Nat) :
    (∀ events : List ReadEvent, (∀ event ∈ events, event.Fits) →
      let run := (readUntilQuiet timeout cap).run [] (scriptOf events)
      ∃ before rest, events = before ++ rest ∧ run.rest = scriptOf rest ∧
        run.store = (receivedBytes before).take cap ∧ run.store.length ≤ cap ∧
        ((rest = [] ∧ (∀ event ∈ before, event.isChunk = true) ∧
            (receivedBytes before).length < cap ∧
            run.status = .waiting ⟨Operation.read 1024, some timeout⟩) ∨
          ∃ earlier last, before = earlier ++ [last] ∧
            (∀ event ∈ earlier, event.isChunk = true) ∧
            (receivedBytes earlier).length < cap ∧
            (last.isChunk = false ∨ cap ≤ (receivedBytes before).length) ∧
            ∃ ok, run.status = .returned ok ∧ (ok = true ↔ run.store ≠ []))) ∧
    ∀ stream events others, Delivers cap stream events →
      Delivers cap stream others →
        ((readUntilQuiet timeout cap).run [] (scriptOf events)).store =
            stream.take cap ∧
          ((readUntilQuiet timeout cap).run [] (scriptOf others)).store =
            stream.take cap ∧
          ((readUntilQuiet timeout cap).run [] (scriptOf events)).status =
            .returned (!(stream.take cap).isEmpty) ∧
          ((readUntilQuiet timeout cap).run [] (scriptOf others)).status =
            .returned (!(stream.take cap).isEmpty) := by
  constructor
  · intro events fits run
    have below : ([] : Bytes).length < cap := positive
    obtain ⟨total, rest, stopped, reads⟩ := exists_reads cap [] events
    obtain ⟨before, split, sum, ending⟩ := reads.decompose below
    have same : run = _ := reads.run timeout fits positive below
    rw [List.nil_append] at sum
    rw [same]
    refine ⟨before, rest, split, rfl, congrArg _ sum, ?_, ?_⟩
    · exact List.length_take_le cap total
    · cases stopped with
      | false =>
          obtain ⟨done, chunks, short⟩ := ending
          exact .inl ⟨done, chunks, sum ▸ short, rfl⟩
      | true =>
          obtain ⟨earlier, last, cut, chunks, short, ends⟩ := ending
          refine .inr ⟨earlier, last, cut, chunks, short, sum ▸ ends, _, rfl, ?_⟩
          simp
  · intro stream events others delivers delivers'
    obtain ⟨rest, first⟩ := delivers.run timeout positive
    obtain ⟨rest', second⟩ := delivers'.run timeout positive
    rw [first, second]
    exact ⟨rfl, rfl, rfl, rfl⟩

/-- A banner that comes whole, and one that comes in three parts. -/
theorem banner_of_stream_ssh :
    ((readUntilQuiet 1000 kMaxBannerBytes).run []
        (scriptOf [.chunk (bytes "SSH-2.0-x"), .closed])).store =
      ((readUntilQuiet 1000 kMaxBannerBytes).run [] (scriptOf
        [.chunk (bytes "SSH"), .chunk (bytes "-2.0-"), .chunk (bytes "x"),
          .failed])).store := by
  have same := (banner_of_stream (show 0 < kMaxBannerBytes by decide) 1000).2
    (bytes "SSH-2.0-x") [.chunk (bytes "SSH-2.0-x"), .closed]
    [.chunk (bytes "SSH"), .chunk (bytes "-2.0-"), .chunk (bytes "x"), .failed]
    ⟨[bytes "SSH-2.0-x"], by decide, .inl ⟨by decide, .inl rfl⟩⟩
    ⟨[bytes "SSH", bytes "-2.0-", bytes "x"], by decide,
      .inl ⟨by decide, .inr rfl⟩⟩
  exact same.1.trans same.2.1.symm

end ServicePortScanner.Probes
