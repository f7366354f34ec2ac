import ServicePortScanner.Data.CoroutineRules

namespace ServicePortScanner.Data.Co

/-! When a coroutine comes to an end, if each of its waits is answered. -/

variable {W : World} {σ τ α β : Type}

/-- What has been sent to a coroutine, as time goes on. -/
structure Feed (W : World) where
  heard : Nat → List (Signal W)
  grows : ∀ n, heard n <+: heard (n + 1)

namespace Feed

theorem mono (feed : Feed W) {n m : Nat} (le : n ≤ m) :
    feed.heard n <+: feed.heard m := by
  induction le with
  | refl => exact List.prefix_refl _
  | step _ induction => exact induction.trans (feed.grows _)

/-- What the body of a bind leaves to the rest, from the time on when it has
come to its end. -/
def behind (feed : Feed W) (body : Co W σ α) (store : σ) (n : Nat)
    (settled : ∀ wait, ¬ (body.run store (feed.heard n)).Suspended wait) :
    Feed W where
  heard k := (body.run store (feed.heard (n + k))).rest
  grows k := by
    obtain ⟨later, whole⟩ := feed.mono (Nat.le_add_right n k)
    obtain ⟨more, whole'⟩ := feed.grows (n + k)
    rw [← Nat.add_assoc, ← whole', ← whole, List.append_assoc,
      body.settled store _ _ settled, body.settled store _ _ settled]
    simp only [Run.extend, ← List.append_assoc]
    exact List.prefix_append _ _

variable {feed : Feed W} {body : Co W σ α} {store : σ} {n : Nat}
variable (settled : ∀ wait, ¬ (body.run store (feed.heard n)).Suspended wait)

theorem behind_run (k : Nat) :
    body.run store (feed.heard (n + k)) =
      { body.run store (feed.heard n) with
        rest := (feed.behind body store n settled).heard k } := by
  obtain ⟨later, whole⟩ := feed.mono (Nat.le_add_right n k)
  simp only [behind]
  rw [← whole, body.settled store _ _ settled]
  rfl

/-- The body has taken the same signals ever since. -/
theorem exists_used :
    ∃ used, feed.heard n = used ++ (body.run store (feed.heard n)).rest ∧
      ∀ k, feed.heard (n + k) =
        used ++ (feed.behind body store n settled).heard k := by
  obtain ⟨used, split⟩ := body.suffix store (feed.heard n)
  refine ⟨used, split.symm, ?_⟩
  intro k
  obtain ⟨later, whole⟩ := feed.mono (Nat.le_add_right n k)
  simp only [behind]
  rw [← whole, body.settled store _ _ settled]
  simp only [Run.extend, ← List.append_assoc, split]

/-- At most so many of the signals are of this kind. -/
def Bounded (feed : Feed W) (kind : Signal W → Bool) (bound : Nat) : Prop :=
  ∀ n, (feed.heard n).countP kind ≤ bound

variable {settled} in
theorem Bounded.behind {kind : Signal W → Bool} {bound : Nat}
    (bounded : feed.Bounded kind bound) :
    (feed.behind body store n settled).Bounded kind bound := by
  intro k
  have suffix := body.suffix store (feed.heard (n + k))
  exact (suffix.sublist.countP_le).trans (bounded (n + k))

end Feed

/-- Whatever the coroutine waits for, more comes. -/
def Served (body : Co W σ α) (store : σ) (feed : Feed W) : Prop :=
  ∀ n wait, (body.run store (feed.heard n)).Suspended wait →
    ∃ m, n ≤ m ∧ feed.heard m ≠ feed.heard n

/-- If all its waits are answered, there is a time from which it does not wait. -/
def EndsOn (body : Co W σ α) (store : σ) (feed : Feed W) : Prop :=
  Served body store feed →
    ∃ n, ∀ wait, ¬ (body.run store (feed.heard n)).Suspended wait

namespace EndsOn

variable {store : σ} {feed : Feed W}

theorem of_run {body : Co W σ α}
    (unsuspended : ∀ script wait, ¬ (body.run store script).Suspended wait) :
    EndsOn body store feed :=
  fun _ => ⟨0, unsuspended _⟩

theorem pure (value : α) : EndsOn (Pure.pure value : Co W σ α) store feed :=
  of_run fun _ _ suspended => nomatch suspended.1

theorem emit (action : W.Action) :
    EndsOn (Co.emit action : Co W σ Unit) store feed :=
  of_run fun _ _ suspended => nomatch suspended.1

theorem load : EndsOn (Co.load : Co W σ σ) store feed :=
  of_run fun _ _ suspended => nomatch suspended.1

theorem save (saved : σ) : EndsOn (Co.save saved : Co W σ Unit) store feed :=
  of_run fun _ _ suspended => nomatch suspended.1

theorem throw (error : W.Error) :
    EndsOn (Co.throw error : Co W σ α) store feed :=
  of_run fun _ _ suspended => nomatch suspended.1

theorem await (operation : W.Operation) (accept : W.Answer → Option α) :
    EndsOn (Co.await operation accept : Co W σ α) store feed := by
  have decided {script : List (Signal W)} (some : script ≠ []) (wait : Wait W) :
      ¬ ((Co.await operation accept : Co W σ α).run store script).Suspended
        wait := by
    rintro ⟨waiting, done⟩
    cases next : next? accept script with
    | none =>
        simp only [Co.await, next] at done
        exact some done
    | some pair => simp [Co.await, next] at waiting
  intro served
  by_cases first : feed.heard 0 = []
  · have suspended : ((Co.await operation accept : Co W σ α).run store
        (feed.heard 0)).Suspended ⟨operation, none⟩ := by
      rw [first]
      exact ⟨rfl, rfl⟩
    obtain ⟨m, _, more⟩ := served 0 _ suspended
    exact ⟨m, decided (first ▸ more)⟩
  · exact ⟨0, decided first⟩

theorem bind {body : Co W σ α} {next : α → Co W σ β}
    (head : EndsOn body store feed)
    (tail : ∀ n value settled,
      (body.run store (feed.heard n)).status = .returned value →
        EndsOn (next value) (body.run store (feed.heard n)).store
          (feed.behind body store n settled)) :
    EndsOn (body >>= next) store feed := by
  intro served
  have inside : Served body store feed := by
    intro n wait suspended
    refine served n wait ?_
    rw [Run.Suspended, bind_run_waiting suspended.1]
    exact ⟨rfl, suspended.2⟩
  obtain ⟨n, settled⟩ := head inside
  cases ended : (body.run store (feed.heard n)).status with
  | returned value =>
      have runs (k : Nat) : (body >>= next).run store (feed.heard (n + k)) =
          ((next value).run (body.run store (feed.heard n)).store
            ((feed.behind body store n settled).heard k)).after
              (body.run store (feed.heard n)).trace := by
        have same := Feed.behind_run settled k
        rw [bind_run_returned (by rw [same]; exact ended), same]
      have onward : Served (next value) (body.run store (feed.heard n)).store
          (feed.behind body store n settled) := by
        intro k wait suspended
        have whole : ((body >>= next).run store
            (feed.heard (n + k))).Suspended wait := by
          rw [runs]
          exact suspended
        obtain ⟨m, later, more⟩ := served (n + k) wait whole
        obtain ⟨used, _, split⟩ := Feed.exists_used settled
        refine ⟨m - n, by omega, fun same => more ?_⟩
        rw [split k, ← same, ← split, Nat.add_sub_cancel' (by omega)]
      obtain ⟨k, unsuspended⟩ := tail n value settled ended onward
      refine ⟨n + k, ?_⟩
      intro wait suspended
      rw [runs] at suspended
      exact unsuspended wait suspended
  | threw error =>
      refine ⟨n, ?_⟩
      intro wait suspended
      rw [bind_run_threw ended] at suspended
      cases suspended.1
  | waiting wait' =>
      refine ⟨n, ?_⟩
      intro wait suspended
      rw [bind_run_waiting ended] at suspended
      exact settled wait' ⟨ended, suspended.2⟩

theorem ite {condition : Prop} [Decidable condition] {body other : Co W σ α}
    (yes : EndsOn body store feed) (no : EndsOn other store feed) :
    EndsOn (if condition then body else other) store feed := by
  split
  · exact yes
  · exact no

theorem withStore {init : τ} {body : Co W τ α}
    (inside : EndsOn body init feed) :
    EndsOn (Co.withStore init body : Co W σ (α × τ)) store feed := by
  have same (script : List (Signal W)) (wait : Wait W) :
      ((Co.withStore init body : Co W σ (α × τ)).run store script).Suspended
          wait ↔ (body.run init script).Suspended wait := by
    unfold Run.Suspended
    refine and_congr ?_ Iff.rfl
    simp only [Co.withStore]
    cases (body.run init script).status <;> simp
  intro served
  obtain ⟨n, settled⟩ := inside fun n wait suspended =>
    served n wait ((same _ wait).mpr suspended)
  exact ⟨n, fun wait suspended => settled wait ((same _ wait).mp suspended)⟩

/-- A race waits only where its body does. -/
theorem race {milliseconds : Nat} {body : Co W σ α}
    (inside : EndsOn body store feed) :
    EndsOn (Co.race milliseconds body) store feed := by
  have waits {script : List (Signal W)} {wait : Wait W}
      (suspended : ((Co.race milliseconds body).run store script).Suspended
        wait) :
      ∃ wait', (body.run store script).Suspended wait' := by
    obtain ⟨waiting, done⟩ := suspended
    have whole := untilTimer_append_fromTimer script
    simp only [Co.race, raceRun] at waiting done
    cases status : (body.run store (untilTimer script)).status with
    | returned value => simp [status] at waiting
    | threw error => simp [status] at waiting
    | waiting wait' =>
        cases rest : (body.run store (untilTimer script)).rest with
        | cons signal rest => simp [status, rest] at done
        | nil =>
            cases ahead : fromTimer script with
            | nil =>
                rw [ahead, List.append_nil] at whole
                rw [whole] at status rest
                exact ⟨wait', status, rest⟩
            | cons signal later =>
                cases signal with
                | timer => simp [status, rest, ahead] at waiting
                | answer answer => simp [status, rest, ahead] at done
  intro served
  by_contra never
  have always (n : Nat) : ∃ wait, ((Co.race milliseconds body).run store
      (feed.heard n)).Suspended wait := by
    by_contra unsuspended
    exact never ⟨n, not_exists.mp unsuspended⟩
  obtain ⟨n, settled⟩ := inside fun n _ _ =>
    (always n).elim fun wait suspended => served n wait suspended
  obtain ⟨wait, suspended⟩ := always n
  obtain ⟨wait', inBody⟩ := waits suspended
  exact settled wait' inBody

/-- A loop whose turns end, and in which each turn leaves less to the next one. -/
theorem loop {body : Co W σ (Option α)} {progresses : Progresses body}
    {left : σ → Feed W → Nat → Prop}
    (turn : ∀ k store feed, left store feed k → EndsOn body store feed)
    (again : ∀ k store feed n settled, left store feed k →
      (body.run store (feed.heard n)).status = .returned none →
        ∃ k' < k, left (body.run store (feed.heard n)).store
          (feed.behind body store n settled) k')
    {k : Nat} (first : left store feed k) :
    EndsOn (Co.loop body progresses) store feed := by
  induction k using Nat.strong_induction_on generalizing store feed with
  | _ k induction =>
      rw [loop_eq]
      refine (turn k store feed first).bind ?_
      intro n result settled ended
      cases result with
      | none =>
          obtain ⟨k', less, next⟩ := again k store feed n settled first ended
          exact induction k' less next
      | some value => exact pure value

end EndsOn

end ServicePortScanner.Data.Co
