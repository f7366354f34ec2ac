import ServicePortScanner.Data.Coroutine

namespace ServicePortScanner.Data.Co

variable {W : World} {σ τ α β : Type}

/-! What every run of a coroutine satisfies, as a relation between the signals
it uses up, its actions and where it ends up. -/

abbrev Post (W : World) (α : Type) :=
  List (Signal W) → List W.Action → Status W α → Prop

def Satisfies (body : Co W σ α) (post : Post W α) : Prop :=
  ∀ store script, ∃ used, script = used ++ (body.run store script).rest ∧
    post used (body.run store script).trace (body.run store script).status

namespace Satisfies

theorem pure {value : α} {post : Post W α}
    (holds : post [] [] (.returned value)) :
    Satisfies (Pure.pure value : Co W σ α) post :=
  fun _ _ => ⟨[], rfl, holds⟩

theorem emit {action : W.Action} {post : Post W Unit}
    (holds : post [] [action] (.returned ())) :
    Satisfies (emit action : Co W σ Unit) post :=
  fun _ _ => ⟨[], rfl, holds⟩

theorem await {operation : W.Operation} {accept : W.Answer → Option α}
    {post : Post W α} (waits : post [] [] (.waiting ⟨operation, none⟩))
    (taken : ∀ answer value, accept answer = some value →
      post [.answer answer] [] (.returned value)) :
    Satisfies (await operation accept : Co W σ α) post := by
  intro store script
  cases next : next? accept script with
  | none => exact ⟨[], by simp [Co.await, next], by simpa [Co.await, next]⟩
  | some pair =>
      obtain ⟨value, rest⟩ := pair
      obtain ⟨answer, rfl, accepted⟩ := next?_eq_some next
      rw [await_run_taken accepted]
      exact ⟨[.answer answer], rfl, taken answer value accepted⟩

theorem bind {body : Co W σ α} {next : α → Co W σ β} {first : Post W α}
    {second : α → Post W β} {post : Post W β} (head : Satisfies body first)
    (tail : ∀ value, Satisfies (next value) (second value))
    (returned : ∀ used trace value used' trace' status,
      first used trace (.returned value) → second value used' trace' status →
        post (used ++ used') (trace ++ trace') status)
    (threw : ∀ used trace error,
      first used trace (.threw error) → post used trace (.threw error))
    (waits : ∀ used trace wait,
      first used trace (.waiting wait) → post used trace (.waiting wait)) :
    Satisfies (body >>= next) post := by
  intro store script
  obtain ⟨used, split, holds⟩ := head store script
  cases ended : (body.run store script).status with
  | returned value =>
      obtain ⟨used', split', holds'⟩ :=
        tail value (body.run store script).store (body.run store script).rest
      rw [bind_run_returned ended]
      refine ⟨used ++ used', ?_, returned _ _ _ _ _ _ (ended ▸ holds) holds'⟩
      rw [List.append_assoc, Run.after_rest, ← split', ← split]
  | threw error =>
      rw [bind_run_threw ended]
      exact ⟨used, split, threw _ _ _ (ended ▸ holds)⟩
  | waiting wait =>
      rw [bind_run_waiting ended]
      exact ⟨used, split, waits _ _ _ (ended ▸ holds)⟩

theorem withStore {init : τ} {body : Co W τ α} {first : Post W α}
    {post : Post W (α × τ)} (inside : Satisfies body first)
    (returned : ∀ used trace value store,
      first used trace (.returned value) →
        post used trace (.returned (value, store)))
    (threw : ∀ used trace error,
      first used trace (.threw error) → post used trace (.threw error))
    (waits : ∀ used trace wait,
      first used trace (.waiting wait) → post used trace (.waiting wait)) :
    Satisfies (withStore init body : Co W σ (α × τ)) post := by
  intro store script
  obtain ⟨used, split, holds⟩ := inside init script
  refine ⟨used, split, ?_⟩
  change post used (body.run init script).trace _
  simp only [Co.withStore]
  split
  · next value ended => exact returned _ _ _ _ (ended ▸ holds)
  · next error ended => exact threw _ _ _ (ended ▸ holds)
  · next wait ended => exact waits _ _ _ (ended ▸ holds)

theorem race {milliseconds : Nat} {body : Co W σ α} {first : Post W α}
    {post : Post W (Option α)} (inside : Satisfies body first)
    (returned : ∀ used trace value, first used trace (.returned value) →
      post used trace (.returned (some value)))
    (threw : ∀ used trace error,
      first used trace (.threw error) → post used trace (.threw error))
    (waits : ∀ used trace wait, first used trace (.waiting wait) →
      post used trace (.waiting { wait with guard := some milliseconds }))
    (expires : ∀ used trace wait, first used trace (.waiting wait) →
      post (used ++ [.timer]) trace (.returned none)) :
    Satisfies (race milliseconds body) post := by
  intro store script
  obtain ⟨used, split, holds⟩ := inside store (untilTimer script)
  have whole := untilTimer_append_fromTimer script
  rw [split, List.append_assoc] at whole
  simp only [Co.race, raceRun]
  cases ended : (body.run store (untilTimer script)).status with
  | returned value =>
      rw [ended] at holds
      exact ⟨used, whole.symm, returned _ _ _ holds⟩
  | threw error =>
      rw [ended] at holds
      exact ⟨used, whole.symm, threw _ _ _ holds⟩
  | waiting wait =>
      rw [ended] at holds
      dsimp only
      split
      · next later done ahead =>
          rw [done, ahead] at whole
          exact ⟨used ++ [.timer], by rw [← whole]; simp,
            expires _ _ _ holds⟩
      · exact ⟨used, whole.symm, waits _ _ _ holds⟩

theorem loop {body : Co W σ (Option α)} {progresses : Progresses body}
    {turn : Post W (Option α)} {post : Post W α} (inside : Satisfies body turn)
    (again : ∀ used trace used' trace' status,
      turn used trace (.returned none) → post used' trace' status →
        post (used ++ used') (trace ++ trace') status)
    (done : ∀ used trace value, turn used trace (.returned (some value)) →
      post used trace (.returned value))
    (threw : ∀ used trace error,
      turn used trace (.threw error) → post used trace (.threw error))
    (waits : ∀ used trace wait,
      turn used trace (.waiting wait) → post used trace (.waiting wait)) :
    Satisfies (loop body progresses) post := by
  intro store script
  change ∃ used, script = used ++ (loopRun body progresses store script).rest ∧
    post used (loopRun body progresses store script).trace
      (loopRun body progresses store script).status
  induction store, script using loopRun.induct body progresses with
  | case1 store script run ended induction =>
      obtain ⟨used, split, holds⟩ := inside store script
      obtain ⟨used', split', holds'⟩ := induction
      rw [loopRun_eq, ended]
      refine ⟨used ++ used', ?_, again _ _ _ _ _ (ended ▸ holds) holds'⟩
      rw [List.append_assoc, Run.after_rest, ← split']
      exact split
  | case2 store script run value ended =>
      obtain ⟨used, split, holds⟩ := inside store script
      rw [ended] at holds
      rw [loopRun_eq, ended]
      exact ⟨used, split, done _ _ _ holds⟩
  | case3 store script run error ended =>
      obtain ⟨used, split, holds⟩ := inside store script
      rw [ended] at holds
      rw [loopRun_eq, ended]
      exact ⟨used, split, threw _ _ _ holds⟩
  | case4 store script run wait ended =>
      obtain ⟨used, split, holds⟩ := inside store script
      rw [ended] at holds
      rw [loopRun_eq, ended]
      exact ⟨used, split, waits _ _ _ holds⟩

theorem mono {body : Co W σ α} {first post : Post W α}
    (satisfies : Satisfies body first)
    (weaker : ∀ used trace status,
      first used trace status → post used trace status) :
    Satisfies body post := by
  intro store script
  obtain ⟨used, split, holds⟩ := satisfies store script
  exact ⟨used, split, weaker _ _ _ holds⟩

theorem trivial (body : Co W σ α) : Satisfies body fun _ _ _ => True := by
  intro store script
  obtain ⟨used, split⟩ := body.suffix store script
  exact ⟨used, split.symm, True.intro⟩

end Satisfies

/-! The values a coroutine can return. -/

def Returns (post : α → Prop) (body : Co W σ α) : Prop :=
  Satisfies body fun _ _ status => ∀ value, status = .returned value → post value

namespace Returns

theorem pure {post : α → Prop} {value : α} (holds : post value) :
    Returns post (Pure.pure value : Co W σ α) :=
  Satisfies.pure fun _ same => Status.returned.inj same ▸ holds

theorem trivial (body : Co W σ α) : Returns (fun _ => True) body :=
  (Satisfies.trivial body).mono fun _ _ _ _ _ _ => True.intro

theorem mono {post weaker : α → Prop} {body : Co W σ α}
    (returns : Returns post body) (implies : ∀ value, post value → weaker value) :
    Returns weaker body :=
  Satisfies.mono returns fun _ _ _ holds value same =>
    implies value (holds value same)

theorem bind {body : Co W σ α} {next : α → Co W σ β} {first : α → Prop}
    {post : β → Prop} (head : Returns first body)
    (tail : ∀ value, first value → Returns post (next value)) :
    Returns post (body >>= next) := by
  have conditional (value : α) : Satisfies (next value) fun _ _ status =>
      first value → ∀ result, status = .returned result → post result := by
    by_cases holds : first value
    · exact Satisfies.mono (tail value holds) fun _ _ _ satisfied _ => satisfied
    · exact (Satisfies.trivial _).mono fun _ _ _ _ absurd => (holds absurd).elim
  refine Satisfies.bind head conditional ?_ ?_ ?_
  · exact fun _ _ value _ _ _ reached rest => rest (reached value rfl)
  · intro used trace error _ value same
    cases same
  · intro used trace wait _ value same
    cases same

theorem ite {post : α → Prop} {condition : Prop} [Decidable condition]
    {body other : Co W σ α} (yes : Returns post body)
    (no : Returns post other) :
    Returns post (if condition then body else other) := by
  split
  · exact yes
  · exact no

theorem of_returned {body : Co W σ α} {post : α → Prop}
    (returns : Returns post body) {store : σ} {script : List (Signal W)}
    {value : α} (returned : (body.run store script).status = .returned value) :
    post value := by
  obtain ⟨_, _, holds⟩ := returns store script
  exact holds value returned

end Returns

/-! Coroutines that set a timer for every operation that needs one. -/

/-- If the script leaves the coroutine suspended on such an operation, a timer is
pending, and that timer resumes it. -/
def GuardedAt (needs : W.Operation → Prop) (milliseconds : Nat)
    (body : Co W σ α) (store : σ) (script : List (Signal W)) : Prop :=
  ∀ wait, (body.run store script).Suspended wait → needs wait.operation →
    wait.guard = some milliseconds ∧
      (body.run store (script ++ [.timer])).rest = []

def Guarded (needs : W.Operation → Prop) (milliseconds : Nat)
    (body : Co W σ α) : Prop :=
  ∀ store script, GuardedAt needs milliseconds body store script

namespace Guarded

variable {needs : W.Operation → Prop} {milliseconds : Nat}

theorem pure (value : α) :
    Guarded needs milliseconds (Pure.pure value : Co W σ α) :=
  fun _ _ _ suspended => nomatch suspended.1

theorem emit (action : W.Action) :
    Guarded needs milliseconds (emit action : Co W σ Unit) :=
  fun _ _ _ suspended => nomatch suspended.1

theorem load : Guarded needs milliseconds (load : Co W σ σ) :=
  fun _ _ _ suspended => nomatch suspended.1

theorem await {operation : W.Operation} (accept : W.Answer → Option α)
    (unneeded : ¬ needs operation) :
    Guarded needs milliseconds (await operation accept : Co W σ α) := by
  intro store script wait suspended needed
  have waits := suspended.1
  unfold Co.await at waits
  dsimp only at waits
  split at waits
  · cases waits
  · cases waits
    exact (unneeded needed).elim

theorem bind {body : Co W σ α} {next : α → Co W σ β}
    (head : Guarded needs milliseconds body)
    (tail : ∀ value, Guarded needs milliseconds (next value)) :
    Guarded needs milliseconds (body >>= next) := by
  intro store script wait suspended needed
  cases status : (body.run store script).status with
  | returned value =>
      rw [bind_run_returned status] at suspended
      obtain ⟨guard, resumes⟩ := tail value _ _ wait suspended needed
      have more := body.settled store script [.timer]
        (Run.not_suspended_of_returned status)
      have status' : (body.run store (script ++ [.timer])).status =
          .returned value := by
        rw [more]
        exact status
      rw [bind_run_returned status', more]
      exact ⟨guard, resumes⟩
  | threw error =>
      rw [bind_run_threw status] at suspended
      cases suspended.1
  | waiting wait' =>
      rw [bind_run_waiting status] at suspended
      obtain ⟨same, done⟩ := suspended
      cases same
      obtain ⟨guard, resumes⟩ :=
        head store script wait ⟨status, done⟩ needed
      refine ⟨guard, ?_⟩
      rw [bind_run]
      split
      · next value _ =>
          have left := (next value).suffix
            (body.run store (script ++ [.timer])).store
            (body.run store (script ++ [.timer])).rest
          rw [resumes] at left ⊢
          exact List.suffix_nil.mp left
      · exact resumes
      · exact resumes

theorem race (milliseconds : Nat) (body : Co W σ α) :
    Guarded needs milliseconds (race milliseconds body) := by
  intro store script wait suspended _
  obtain ⟨guard, resumes⟩ := race_suspended suspended
  exact ⟨guard, by rw [resumes]⟩

theorem ite {condition : Prop} [Decidable condition] {body other : Co W σ α}
    (yes : Guarded needs milliseconds body)
    (no : Guarded needs milliseconds other) :
    Guarded needs milliseconds (if condition then body else other) := by
  split
  · exact yes
  · exact no

theorem throw (error : W.Error) :
    Guarded needs milliseconds (throw error : Co W σ α) :=
  fun _ _ _ suspended => nomatch suspended.1

theorem withStore {init : τ} {body : Co W τ α}
    (inside : Guarded needs milliseconds body) :
    Guarded needs milliseconds (withStore init body : Co W σ (α × τ)) := by
  intro store script wait suspended needed
  obtain ⟨waits, done⟩ := suspended
  refine inside init script wait ⟨?_, done⟩ needed
  cases status : (body.run init script).status with
  | returned value => simp [Co.withStore, status] at waits
  | threw error => simp [Co.withStore, status] at waits
  | waiting wait' =>
      simp only [Co.withStore, status] at waits
      cases waits
      rfl

end Guarded

/-! Coroutines that throw exactly at the answers in `bad`. -/

/-- The status behind a used-up part is an exception exactly if that part has a
bad answer in it. -/
def Status.Reports (bad : W.Answer → Prop) (used : List (Signal W))
    (status : Status W α) : Prop :=
  (∃ error, status = .threw error) ↔ ∃ answer, .answer answer ∈ used ∧ bad answer

def Reports (bad : W.Answer → Prop) (body : Co W σ α) : Prop :=
  Satisfies body fun used _ status => Status.Reports bad used status

namespace Reports

variable {bad : W.Answer → Prop}

theorem append {used used' : List (Signal W)} {value : α} {status : Status W β}
    (first : Status.Reports bad used (.returned value : Status W α))
    (second : Status.Reports bad used' status) :
    Status.Reports bad (used ++ used') status := by
  have clean : ¬ ∃ answer, .answer answer ∈ used ∧ bad answer :=
    fun found => nomatch (first.mpr found).choose_spec
  unfold Status.Reports at second ⊢
  rw [second]
  simp only [List.mem_append]
  constructor
  · rintro ⟨answer, member, isBad⟩
    exact ⟨answer, .inr member, isBad⟩
  · rintro ⟨answer, earlier | later, isBad⟩
    · exact (clean ⟨answer, earlier, isBad⟩).elim
    · exact ⟨answer, later, isBad⟩

theorem of_threw {used : List (Signal W)} {error : W.Error}
    (reported : Status.Reports bad used (.threw error : Status W α)) :
    Status.Reports bad used (.threw error : Status W β) := by
  simpa [Status.Reports] using reported

theorem of_quiet {used : List (Signal W)} {status : Status W α}
    {status' : Status W β} (reported : Status.Reports bad used status)
    (quiet : ∀ error, status ≠ .threw error)
    (quiet' : ∀ error, status' ≠ .threw error) :
    Status.Reports bad used status' := by
  simpa [Status.Reports, quiet, quiet'] using reported

theorem pure (value : α) : Reports bad (Pure.pure value : Co W σ α) :=
  Satisfies.pure (by simp [Status.Reports])

theorem emit (action : W.Action) : Reports bad (emit action : Co W σ Unit) :=
  Satisfies.emit (by simp [Status.Reports])

theorem load : Reports bad (load : Co W σ σ) :=
  fun _ _ => ⟨[], rfl, by simp [Status.Reports]⟩

theorem save (saved : σ) : Reports bad (save saved : Co W σ Unit) :=
  fun _ _ => ⟨[], rfl, by simp [Status.Reports]⟩

theorem await {operation : W.Operation} {accept : W.Answer → Option α}
    (good : ∀ answer value, accept answer = some value → ¬ bad answer) :
    Reports bad (await operation accept : Co W σ α) :=
  Satisfies.await (by simp [Status.Reports]) fun answer value accepted => by
    simp [Status.Reports, good answer value accepted]

theorem bind {body : Co W σ α} {next : α → Co W σ β} (head : Reports bad body)
    (tail : ∀ value, Reports bad (next value)) :
    Reports bad (body >>= next) :=
  Satisfies.bind head tail (fun _ _ _ _ _ _ => append)
    (fun _ _ _ => of_threw) (fun _ _ _ reported => of_quiet reported nofun nofun)

theorem ite {condition : Prop} [Decidable condition] {body other : Co W σ α}
    (yes : Reports bad body) (no : Reports bad other) :
    Reports bad (if condition then body else other) := by
  split
  · exact yes
  · exact no

theorem withStore {init : τ} {body : Co W τ α} (inside : Reports bad body) :
    Reports bad (withStore init body : Co W σ (α × τ)) :=
  Satisfies.withStore inside
    (fun _ _ _ _ reported => of_quiet reported nofun nofun)
    (fun _ _ _ => of_threw) (fun _ _ _ reported => of_quiet reported nofun nofun)

theorem race {milliseconds : Nat} {body : Co W σ α}
    (inside : Reports bad body) : Reports bad (race milliseconds body) :=
  Satisfies.race inside (fun _ _ _ reported => of_quiet reported nofun nofun)
    (fun _ _ _ => of_threw)
    (fun _ _ _ reported => of_quiet reported nofun nofun)
    (fun _ _ _ reported => by simpa [Status.Reports] using reported)

theorem loop {body : Co W σ (Option α)} {progresses : Progresses body}
    (inside : Reports bad body) : Reports bad (loop body progresses) :=
  Satisfies.loop inside (fun _ _ _ _ _ => append)
    (fun _ _ _ reported => of_quiet reported nofun nofun)
    (fun _ _ _ => of_threw) (fun _ _ _ reported => of_quiet reported nofun nofun)

theorem threw_iff {body : Co W σ α} (reports : Reports bad body) {store : σ}
    {script : List (Signal W)} (usedUp : (body.run store script).rest = []) :
    (∃ error, (body.run store script).status = .threw error) ↔
      ∃ answer, .answer answer ∈ script ∧ bad answer := by
  obtain ⟨used, whole, reported⟩ := reports store script
  rw [usedUp, List.append_nil] at whole
  rw [whole]
  rw [whole] at reported
  exact reported

end Reports

end ServicePortScanner.Data.Co
