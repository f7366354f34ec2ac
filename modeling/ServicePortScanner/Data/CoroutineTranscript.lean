import ServicePortScanner.Data.CoroutineRules

namespace ServicePortScanner.Data.Co

/-! The transcript of a run: each signal that it uses up, with what the coroutine
waited for when the signal came. -/

structure Exchange (W : World) where
  wait : Wait W
  signal : Signal W

variable {W : World} {σ τ α β : Type}

def signals (exchanges : List (Exchange W)) : List (Signal W) :=
  exchanges.map Exchange.signal

theorem signals_append (front back : List (Exchange W)) :
    signals (front ++ back) = signals front ++ signals back :=
  List.map_append

/-- Before each of the signals the coroutine has waited for just this. -/
def Asked (body : Co W σ α) (store : σ) (exchanges : List (Exchange W)) : Prop :=
  ∀ front exchange back, exchanges = front ++ exchange :: back →
    (body.run store (signals front)).Suspended exchange.wait

/-- The run uses up the signals of the transcript, and does not look at those
behind it. -/
structure Transcript (body : Co W σ α) (store : σ)
    (exchanges : List (Exchange W)) (rest : List (Signal W)) : Prop where
  usedUp : (body.run store (signals exchanges)).rest = []
  unread : body.run store (signals exchanges ++ rest) =
    (body.run store (signals exchanges)).extend rest
  asked : Asked body store exchanges

/-- What every run of a coroutine satisfies, as a relation between its
transcript, its actions and where it ends up. -/
abbrev Record (W : World) (α : Type) :=
  List (Exchange W) → List W.Action → Status W α → Prop

def SpeaksAt (body : Co W σ α) (record : Record W α) (store : σ)
    (script : List (Signal W)) : Prop :=
  ∃ exchanges rest, script = signals exchanges ++ rest ∧
    Transcript body store exchanges rest ∧
    record exchanges (body.run store script).trace (body.run store script).status

def Speaks (body : Co W σ α) (record : Record W α) : Prop :=
  ∀ store script, SpeaksAt body record store script

namespace Asked

variable {body : Co W σ α} {store : σ} {exchanges later : List (Exchange W)}

theorem nil : Asked body store [] := by
  intro front exchange back split
  cases front <;> cases split

theorem singleton {exchange : Exchange W}
    (suspended : (body.run store []).Suspended exchange.wait) :
    Asked body store [exchange] := by
  intro front other back split
  cases front with
  | nil =>
      cases split
      exact suspended
  | cons first front =>
      cases front <;> cases split

/-- A coroutine that waits where another one does, at each part of the
signals. -/
theorem map {other : Co W τ β} {store' : τ} {change : Exchange W → Exchange W}
    (asked : Asked body store exchanges)
    (signal : ∀ exchange, (change exchange).signal = exchange.signal)
    (waits : ∀ front exchange, (∃ back, exchanges = front ++ exchange :: back) →
      (body.run store (signals front)).Suspended exchange.wait →
      (other.run store' (signals front)).Suspended (change exchange).wait) :
    Asked other store' (exchanges.map change) := by
  intro front exchange back split
  obtain ⟨front', tail, whole, rfl, mapped⟩ := List.map_eq_append_iff.mp split
  obtain ⟨exchange', back', rfl, rfl, -⟩ := List.map_eq_cons_iff.mp mapped
  have same : signals (front'.map change) = signals front' := by
    simp [signals, signal]
  rw [same]
  exact waits front' exchange' ⟨back', whole⟩ (asked front' exchange' back' whole)

/-- The transcript of a coroutine, and what it waits for behind it. -/
theorem append (asked : Asked body store exchanges)
    (behind : ∀ front exchange back, later = front ++ exchange :: back →
      (body.run store (signals (exchanges ++ front))).Suspended exchange.wait) :
    Asked body store (exchanges ++ later) := by
  intro front exchange back split
  rcases List.append_eq_append_iff.mp split with
    ⟨middle, rfl, tail⟩ | ⟨middle, whole, tail⟩
  · exact behind middle exchange back tail
  · cases middle with
    | nil =>
        rw [List.append_nil] at whole
        have first := behind [] exchange back tail.symm
        rw [List.append_nil, whole] at first
        exact first
    | cons next middle =>
        cases tail
        exact asked front exchange middle whole

end Asked

/-! The transcript of a bind is that of its body, with that of the rest behind it
if the body returns. -/

section

variable {body : Co W σ α} {store : σ} {value : α}
variable {exchanges exchanges' : List (Exchange W)}
variable {rest rest' : List (Signal W)}

theorem Asked.bind (asked : Asked body store exchanges)
    (next : α → Co W σ β) : Asked (body >>= next) store exchanges := by
  intro front exchange back whole
  obtain ⟨waiting, done⟩ := asked front exchange back whole
  rw [Run.Suspended, bind_run_waiting waiting]
  exact ⟨rfl, done⟩

namespace Transcript

/-- Behind a transcript that ends with a result the rest of the bind goes on. -/
theorem bind_run (transcript : Transcript body store exchanges rest)
    (returned : (body.run store (signals exchanges)).status = .returned value)
    (next : α → Co W σ β) (later : List (Signal W)) :
    (body >>= next).run store (signals exchanges ++ later) =
      ((next value).run (body.run store (signals exchanges)).store later).after
        (body.run store (signals exchanges)).trace := by
  have more := body.settled store (signals exchanges) later
    (Run.not_suspended_of_returned returned)
  rw [bind_run_returned (by rw [more]; exact returned), more]
  simp [Run.extend, transcript.usedUp]

theorem bind {next : α → Co W σ β}
    (transcript : Transcript body store exchanges rest)
    (returned : (body.run store (signals exchanges)).status = .returned value)
    (behind : Transcript (next value)
      (body.run store (signals exchanges)).store exchanges' rest') :
    Transcript (body >>= next) store (exchanges ++ exchanges') rest' := by
  have runs := transcript.bind_run returned next
  refine ⟨?_, ?_, (transcript.asked.bind next).append ?_⟩
  · rw [signals_append, runs]
    exact behind.usedUp
  · rw [signals_append, List.append_assoc, runs, runs, behind.unread]
    rfl
  · intro front exchange back whole
    rw [signals_append, runs]
    exact behind.asked front exchange back whole

theorem bind_unreturned (transcript : Transcript body store exchanges rest)
    (unreturned : ∀ value,
      (body.run store (signals exchanges)).status ≠ .returned value)
    (next : α → Co W σ β) :
    Transcript (body >>= next) store exchanges rest := by
  obtain ⟨usedUp, unread, asked⟩ := transcript
  refine ⟨?_, ?_, asked.bind next⟩
  · rw [Co.bind_run]
    split
    · next value returned => exact (unreturned value returned).elim
    · exact usedUp
    · exact usedUp
  · rw [Co.bind_run, Co.bind_run, unread]
    simp only [Run.extend]
    split
    · next value returned => exact (unreturned value returned).elim
    · rfl
    · rfl

end Transcript

end

namespace SpeaksAt

variable {store : σ} {script : List (Signal W)}

theorem mono {body : Co W σ α} {first record : Record W α}
    (speaks : SpeaksAt body first store script)
    (weaker : ∀ exchanges trace status,
      first exchanges trace status → record exchanges trace status) :
    SpeaksAt body record store script := by
  obtain ⟨exchanges, rest, whole, transcript, holds⟩ := speaks
  exact ⟨exchanges, rest, whole, transcript, weaker _ _ _ holds⟩

/-- A coroutine that ends at once says nothing. -/
theorem of_silent {body : Co W σ α} {record : Record W α}
    (silent : ∀ script, body.run store script =
      (body.run store []).extend script)
    (holds : record [] (body.run store []).trace (body.run store []).status) :
    SpeaksAt body record store script := by
  refine ⟨[], script, rfl, ⟨?_, silent script, .nil⟩, ?_⟩
  · exact List.suffix_nil.mp (body.suffix store [])
  · rw [silent script]
    exact holds

theorem bind {body : Co W σ α} {next : α → Co W σ β} {first : Record W α}
    {second : α → Record W β} {record : Record W β}
    (head : SpeaksAt body first store script)
    (tail : ∀ value, (body.run store script).status = .returned value →
      SpeaksAt (next value) (second value) (body.run store script).store
        (body.run store script).rest)
    (returned : ∀ exchanges trace value exchanges' trace' status,
      first exchanges trace (.returned value) →
      second value exchanges' trace' status →
        record (exchanges ++ exchanges') (trace ++ trace') status)
    (threw : ∀ exchanges trace error,
      first exchanges trace (.threw error) → record exchanges trace (.threw error))
    (waits : ∀ exchanges trace wait, first exchanges trace (.waiting wait) →
      record exchanges trace (.waiting wait)) :
    SpeaksAt (body >>= next) record store script := by
  obtain ⟨exchanges, rest, rfl, transcript, holds⟩ := head
  have unread := transcript.unread
  rw [unread] at holds tail
  cases ended : (body.run store (signals exchanges)).status with
  | returned value =>
      simp only [Run.extend, ended, transcript.usedUp, List.nil_append]
        at holds tail
      obtain ⟨exchanges', rest', split, behind, holds'⟩ := tail value rfl
      refine ⟨exchanges ++ exchanges', rest', ?_,
        transcript.bind ended behind, ?_⟩
      · rw [split, signals_append, List.append_assoc]
      · rw [transcript.bind_run ended]
        exact returned _ _ _ _ _ _ holds holds'
  | threw error =>
      have ended' : (body.run store (signals exchanges ++ rest)).status =
          .threw error := by
        rw [unread]
        exact ended
      refine ⟨exchanges, rest, rfl, transcript.bind_unreturned ?_ next, ?_⟩
      · simp [ended]
      · rw [bind_run_threw ended', unread]
        simp only [Run.extend, ended] at holds ⊢
        exact threw _ _ _ holds
  | waiting wait =>
      have ended' : (body.run store (signals exchanges ++ rest)).status =
          .waiting wait := by
        rw [unread]
        exact ended
      refine ⟨exchanges, rest, rfl, transcript.bind_unreturned ?_ next, ?_⟩
      · simp [ended]
      · rw [bind_run_waiting ended', unread]
        simp only [Run.extend, ended] at holds ⊢
        exact waits _ _ _ holds

end SpeaksAt

namespace Speaks

theorem mono {body : Co W σ α} {first record : Record W α}
    (speaks : Speaks body first)
    (weaker : ∀ exchanges trace status,
      first exchanges trace status → record exchanges trace status) :
    Speaks body record :=
  fun store script => (speaks store script).mono weaker

theorem pure {value : α} {record : Record W α}
    (holds : record [] [] (.returned value)) :
    Speaks (Pure.pure value : Co W σ α) record :=
  fun _ _ => .of_silent (fun _ => rfl) holds

theorem emit {action : W.Action} {record : Record W Unit}
    (holds : record [] [action] (.returned ())) :
    Speaks (Co.emit action : Co W σ Unit) record :=
  fun _ _ => .of_silent (fun _ => rfl) holds

theorem load {record : Record W σ}
    (holds : ∀ store, record [] [] (.returned store)) :
    Speaks (Co.load : Co W σ σ) record :=
  fun store _ => .of_silent (fun _ => rfl) (holds store)

theorem save {saved : σ} {record : Record W Unit}
    (holds : record [] [] (.returned ())) :
    Speaks (Co.save saved : Co W σ Unit) record :=
  fun _ _ => .of_silent (fun _ => rfl) holds

theorem throw {error : W.Error} {record : Record W α}
    (holds : record [] [] (.threw error)) :
    Speaks (Co.throw error : Co W σ α) record :=
  fun _ _ => .of_silent (fun _ => rfl) holds

theorem await {operation : W.Operation} {accept : W.Answer → Option α}
    {record : Record W α} (waits : record [] [] (.waiting ⟨operation, none⟩))
    (taken : ∀ answer value, accept answer = some value →
      record [⟨⟨operation, none⟩, .answer answer⟩] [] (.returned value)) :
    Speaks (Co.await operation accept : Co W σ α) record := by
  intro store script
  cases next : next? accept script with
  | none =>
      have waiting : (Co.await operation accept : Co W σ α).run store script =
          ⟨[], script, store, .waiting ⟨operation, none⟩⟩ := by
        simp [Co.await, next]
      refine ⟨[], script, rfl, ⟨rfl, waiting, .nil⟩, ?_⟩
      rw [waiting]
      exact waits
  | some pair =>
      obtain ⟨value, rest⟩ := pair
      obtain ⟨answer, rfl, accepted⟩ := next?_eq_some next
      have runs (later : List (Signal W)) :
          (Co.await operation accept : Co W σ α).run store
            (.answer answer :: later) = ⟨[], later, store, .returned value⟩ :=
        await_run_taken accepted store later
      refine ⟨[⟨⟨operation, none⟩, .answer answer⟩], rest, rfl,
        ⟨?_, ?_, .singleton ⟨rfl, rfl⟩⟩, ?_⟩
      · exact congrArg Run.rest (runs [])
      · exact (runs rest).trans (congrArg (Run.extend · rest) (runs []).symm)
      · rw [runs]
        exact taken answer value accepted

theorem bind {body : Co W σ α} {next : α → Co W σ β} {first : Record W α}
    {second : α → Record W β} {record : Record W β} (head : Speaks body first)
    (tail : ∀ value, Speaks (next value) (second value))
    (returned : ∀ exchanges trace value exchanges' trace' status,
      first exchanges trace (.returned value) →
      second value exchanges' trace' status →
        record (exchanges ++ exchanges') (trace ++ trace') status)
    (threw : ∀ exchanges trace error,
      first exchanges trace (.threw error) → record exchanges trace (.threw error))
    (waits : ∀ exchanges trace wait, first exchanges trace (.waiting wait) →
      record exchanges trace (.waiting wait)) :
    Speaks (body >>= next) record :=
  fun store script => (head store script).bind
    (fun value _ => tail value _ _) returned threw waits

theorem loop {body : Co W σ (Option α)} {progresses : Progresses body}
    {turn : Record W (Option α)} {record : Record W α}
    (inside : Speaks body turn)
    (again : ∀ exchanges trace exchanges' trace' status,
      turn exchanges trace (.returned none) → record exchanges' trace' status →
        record (exchanges ++ exchanges') (trace ++ trace') status)
    (done : ∀ exchanges trace value,
      turn exchanges trace (.returned (some value)) →
        record exchanges trace (.returned value))
    (threw : ∀ exchanges trace error,
      turn exchanges trace (.threw error) → record exchanges trace (.threw error))
    (waits : ∀ exchanges trace wait, turn exchanges trace (.waiting wait) →
      record exchanges trace (.waiting wait)) :
    Speaks (Co.loop body progresses) record := by
  intro store script
  induction length : script.length using Nat.strong_induction_on
    generalizing store script with
  | _ n induction =>
      rw [loop_eq]
      -- a turn that asks for another one leaves a shorter script to the loop
      let onward (result : Option α) : Record W α :=
        fun exchanges trace status => result.elim (record exchanges trace status)
          fun value => exchanges = [] ∧ trace = [] ∧ status = .returned value
      refine (inside store script).bind
        (fun result ended => (?_ : SpeaksAt _ (onward result) _ _)) ?_ threw waits
      · cases result with
        | none =>
            have shorter := progresses store script ended
            exact induction _ (length ▸ shorter) _ _ rfl
        | some value => exact Speaks.pure ⟨rfl, rfl, rfl⟩ _ _
      · intro exchanges trace result exchanges' trace' status first second
        cases result with
        | none => exact again _ _ _ _ _ first second
        | some value =>
            obtain ⟨rfl, rfl, rfl⟩ := second
            rw [List.append_nil, List.append_nil]
            exact done _ _ _ first

theorem withStore {init : τ} {body : Co W τ α} {first : Record W α}
    {record : Record W (α × τ)} (inside : Speaks body first)
    (returned : ∀ exchanges trace value store,
      first exchanges trace (.returned value) →
        record exchanges trace (.returned (value, store)))
    (threw : ∀ exchanges trace error,
      first exchanges trace (.threw error) → record exchanges trace (.threw error))
    (waits : ∀ exchanges trace wait, first exchanges trace (.waiting wait) →
      record exchanges trace (.waiting wait)) :
    Speaks (Co.withStore init body : Co W σ (α × τ)) record := by
  intro store script
  obtain ⟨exchanges, rest, rfl, transcript, holds⟩ := inside init script
  obtain ⟨usedUp, unread, asked⟩ := transcript
  refine ⟨exchanges, rest, rfl, ⟨usedUp, ?_, ?_⟩, ?_⟩
  · simp only [Co.withStore, unread]
    rfl
  · intro front exchange back whole
    obtain ⟨waiting, done⟩ := asked front exchange back whole
    exact ⟨by simp only [Co.withStore, waiting], done⟩
  · change record exchanges (body.run init _).trace _
    simp only [Co.withStore]
    split
    · next value ended => exact returned _ _ _ _ (ended ▸ holds)
    · next error ended => exact threw _ _ _ (ended ▸ holds)
    · next wait ended => exact waits _ _ _ (ended ▸ holds)

end Speaks

/-! The transcript of a race is that of its body, until the timer ends it. -/

/-- The timer of a race is set for whatever its body waits for. -/
def Exchange.raced (milliseconds : Nat) (exchange : Exchange W) : Exchange W :=
  { exchange with wait := { exchange.wait with guard := some milliseconds } }

theorem signals_raced (milliseconds : Nat) (exchanges : List (Exchange W)) :
    signals (exchanges.map (Exchange.raced milliseconds)) = signals exchanges :=
  List.map_map.trans rfl

theorem fromTimer_cases (script : List (Signal W)) :
    fromTimer script = [] ∨ ∃ later, fromTimer script = .timer :: later := by
  cases ahead : fromTimer script with
  | nil => exact .inl rfl
  | cons signal later =>
      right
      have first := List.head?_dropWhile_not
        (fun signal : Signal W => !Signal.isTimer signal) script
      rw [show List.dropWhile _ script = signal :: later from ahead] at first
      cases signal with
      | timer => exact ⟨later, rfl⟩
      | answer value => simp [Signal.isTimer] at first

section

variable {body : Co W σ α} {store : σ} {milliseconds : Nat}
variable {exchanges : List (Exchange W)} {rest script : List (Signal W)}

theorem race_run_of_open (isOpen : fromTimer script = []) :
    (race milliseconds body).run store script =
      raceRun milliseconds (body.run store script) [] := by
  have whole : untilTimer script = script := by
    simpa [isOpen] using untilTimer_append_fromTimer script
  simp only [race, isOpen, whole]

theorem race_run_front {front : List (Signal W)}
    (isPrefix : front <+: untilTimer script) :
    (race milliseconds body).run store front =
      raceRun milliseconds (body.run store front) [] := by
  refine race_run_of_open (List.dropWhile_eq_nil_iff.mpr ?_)
  intro signal member
  have within : signal ∈ script.takeWhile fun signal =>
      !Signal.isTimer signal := isPrefix.subset member
  have unlike := List.mem_takeWhile_imp within
  exact unlike

namespace Transcript

theorem asked_race (transcript : Transcript body store exchanges rest)
    (split : untilTimer script = signals exchanges ++ rest) :
    Asked (Co.race milliseconds body) store
      (exchanges.map (.raced milliseconds)) := by
  refine transcript.asked.map (fun _ => rfl) ?_
  rintro front exchange ⟨back, cut⟩ ⟨waiting, done⟩
  have isPrefix : signals front <+: untilTimer script := by
    rw [split, cut, signals_append, List.append_assoc]
    exact List.prefix_append _ _
  rw [race_run_front isPrefix]
  simp [raceRun, waiting, done, Run.Suspended, Exchange.raced]

/-- The body has ended before the timer, or it waits in front of a signal that it
does not take, or there is no timer. -/
theorem race (transcript : Transcript body store exchanges rest)
    (split : untilTimer script = signals exchanges ++ rest)
    (unread : raceRun milliseconds
        ((body.run store (signals exchanges)).extend rest) (fromTimer script) =
      (raceRun milliseconds (body.run store (signals exchanges)) []).extend
        (rest ++ fromTimer script)) :
    Transcript (Co.race milliseconds body) store
      (exchanges.map (.raced milliseconds)) (rest ++ fromTimer script) := by
  have whole := untilTimer_append_fromTimer script
  rw [split, List.append_assoc] at whole
  have atEnd : (Co.race milliseconds body).run store (signals exchanges) = _ :=
    race_run_front (split ▸ List.prefix_append _ _)
  have run : (Co.race milliseconds body).run store script =
      raceRun milliseconds (body.run store (untilTimer script))
        (fromTimer script) := rfl
  refine ⟨?_, ?_, transcript.asked_race split⟩
  · rw [signals_raced, atEnd]
    have left : (raceRun milliseconds (body.run store (signals exchanges))
        []).rest <:+ _ := raceRun_rest
    rw [transcript.usedUp] at left
    exact List.suffix_nil.mp left
  · rw [signals_raced, whole, run, split, transcript.unread, unread, atEnd]

/-- The timer has come while the body was waiting. -/
theorem race_expired {wait : Wait W} {later : List (Signal W)}
    (transcript : Transcript body store exchanges [])
    (split : untilTimer script = signals exchanges)
    (waiting : (body.run store (signals exchanges)).status = .waiting wait)
    (ahead : fromTimer script = .timer :: later) :
    Transcript (Co.race milliseconds body) store
        (exchanges.map (.raced milliseconds) ++
          [⟨{ wait with guard := some milliseconds }, .timer⟩]) later ∧
      (Co.race milliseconds body).run store script =
        ⟨(body.run store (signals exchanges)).trace, later,
          (body.run store (signals exchanges)).store, .returned none⟩ := by
  have whole := untilTimer_append_fromTimer script
  rw [split, ahead] at whole
  have isPrefix : signals exchanges <+: untilTimer script := by rw [split]
  have atEnd : (Co.race milliseconds body).run store (signals exchanges) = _ :=
    race_run_front isPrefix
  have suspended : ((Co.race milliseconds body).run store
      (signals exchanges)).Suspended { wait with guard := some milliseconds } := by
    rw [atEnd]
    simp [raceRun, waiting, transcript.usedUp, Run.Suspended]
  have atTimer := (race_suspended suspended).2
  have unread : (Co.race milliseconds body).run store
      (signals exchanges ++ .timer :: later) =
        ((Co.race milliseconds body).run store
          (signals exchanges ++ [.timer])).extend later := by
    rw [List.append_cons]
    refine (Co.race milliseconds body).settled _ _ _ ?_
    rw [atTimer]
    exact Run.not_suspended_of_returned rfl
  have spoken (last : Exchange W) (timer : last.signal = .timer) :
      signals (exchanges.map (.raced milliseconds) ++ [last]) =
        signals exchanges ++ [.timer] := by
    rw [signals_append, signals_raced, ← timer]
    rfl
  have asked : Asked (Co.race milliseconds body) store
      (exchanges.map (.raced milliseconds)) :=
    transcript.asked_race (split.trans (List.append_nil _).symm)
  refine ⟨⟨?_, ?_, asked.append ?_⟩, ?_⟩
  · rw [spoken _ rfl, atTimer]
  · rw [spoken _ rfl, ← List.append_cons, unread]
  · intro front exchange back last
    cases front with
    | nil =>
        cases last
        rw [List.append_nil, signals_raced]
        exact suspended
    | cons first front => cases front <;> cases last
  · rw [← whole, unread, atTimer, atEnd]
    simp [Run.extend, raceRun, waiting, transcript.usedUp]

end Transcript

end

theorem Speaks.race {milliseconds : Nat} {body : Co W σ α} {first : Record W α}
    {record : Record W (Option α)} (inside : Speaks body first)
    (returned : ∀ exchanges trace value,
      first exchanges trace (.returned value) →
        record (exchanges.map (.raced milliseconds)) trace
          (.returned (some value)))
    (threw : ∀ exchanges trace error, first exchanges trace (.threw error) →
      record (exchanges.map (.raced milliseconds)) trace (.threw error))
    (waits : ∀ exchanges trace wait, first exchanges trace (.waiting wait) →
      record (exchanges.map (.raced milliseconds)) trace
        (.waiting { wait with guard := some milliseconds }))
    (expires : ∀ exchanges trace wait, first exchanges trace (.waiting wait) →
      record (exchanges.map (.raced milliseconds) ++
        [⟨{ wait with guard := some milliseconds }, .timer⟩]) trace
          (.returned none)) :
    Speaks (Co.race milliseconds body) record := by
  intro store script
  obtain ⟨exchanges, rest, split, transcript, holds⟩ :=
    inside store (untilTimer script)
  have whole := untilTimer_append_fromTimer script
  have run : (Co.race milliseconds body).run store script =
      raceRun milliseconds (body.run store (untilTimer script))
        (fromTimer script) := rfl
  rw [split, transcript.unread] at holds run
  rw [split, List.append_assoc] at whole
  have unexpired
      (unread : raceRun milliseconds
          ((body.run store (signals exchanges)).extend rest) (fromTimer script) =
        (raceRun milliseconds (body.run store (signals exchanges)) []).extend
          (rest ++ fromTimer script))
      (recorded : record (exchanges.map (.raced milliseconds))
        (raceRun milliseconds (body.run store (signals exchanges)) []).trace
        (raceRun milliseconds (body.run store (signals exchanges)) []).status) :
      SpeaksAt (Co.race milliseconds body) record store script := by
    refine ⟨_, _, ?_, transcript.race split unread, ?_⟩
    · rw [signals_raced]
      exact whole.symm
    · rw [run, unread]
      exact recorded
  cases ended : (body.run store (signals exchanges)).status with
  | returned value =>
      refine unexpired (raceRun_extend (Run.not_suspended_of_returned ended) _ _) ?_
      simp only [Run.extend, raceRun, ended] at holds ⊢
      exact returned _ _ _ holds
  | threw error =>
      refine unexpired (raceRun_extend (Run.not_suspended_of_threw ended) _ _) ?_
      simp only [Run.extend, raceRun, ended] at holds ⊢
      exact threw _ _ _ holds
  | waiting wait =>
      simp only [Run.extend, ended] at holds
      have waits' := waits _ _ _ holds
      rcases fromTimer_cases script with none | ⟨later, ahead⟩
      · refine unexpired ?_ ?_
        · cases rest with
          | nil => simp [raceRun, Run.extend, ended, transcript.usedUp, none]
          | cons signal rest =>
              simp [raceRun, Run.extend, ended, transcript.usedUp]
        · simp only [raceRun, ended, transcript.usedUp]
          exact waits'
      · cases rest with
        | nil =>
            rw [List.append_nil] at split
            obtain ⟨expired, run'⟩ :=
              transcript.race_expired split ended ahead
            refine ⟨_, later, ?_, expired, ?_⟩
            · rw [signals_append, signals_raced, ← whole, ahead]
              simp [signals]
            · rw [run']
              exact expires _ _ _ holds
        | cons signal rest =>
            refine unexpired ?_ ?_
            · simp [raceRun, Run.extend, ended, transcript.usedUp]
            · simp only [raceRun, ended, transcript.usedUp]
              exact waits'

end ServicePortScanner.Data.Co
