import ServicePortScanner.Data.Coroutine

namespace ServicePortScanner.Data.Co

variable {W : World} {α β τ Note : Type}

/-! Coroutines that keep notes in their store, next to the ones that do not. -/

/-- `body` runs like `plain` on every script, and adds only notes that are
allowed. -/
def Notes (allowed : Note → Prop) (body : Co W (List Note) α)
    (plain : Co W Unit α) : Prop :=
  ∀ notes script, ∃ more, (∀ note ∈ more, allowed note) ∧
    body.run notes script =
      { plain.run () script with store := notes ++ more }

def note (entry : Note) : Co W (List Note) Unit := do
  let notes ← load
  save (notes ++ [entry])

namespace Notes

variable {allowed : Note → Prop}

theorem note {entry : Note} (holds : allowed entry) :
    Notes allowed (note entry : Co W (List Note) Unit) (Pure.pure ()) := by
  intro notes script
  refine ⟨[entry], ?_, rfl⟩
  intro other member
  cases List.mem_singleton.mp member
  exact holds

/-- A body that leaves its store alone keeps no notes. -/
theorem of_run {body : Co W (List Note) α} {plain : Co W Unit α}
    (same : ∀ notes script,
      body.run notes script = { plain.run () script with store := notes }) :
    Notes allowed body plain := by
  intro notes script
  refine ⟨[], nofun, ?_⟩
  rw [List.append_nil]
  exact same notes script

theorem pure (value : α) :
    Notes allowed (Pure.pure value : Co W (List Note) α) (Pure.pure value) :=
  of_run fun _ _ => rfl

theorem emit (action : W.Action) :
    Notes allowed (emit action : Co W (List Note) Unit) (emit action) :=
  of_run fun _ _ => rfl

theorem throw (error : W.Error) :
    Notes allowed (throw error : Co W (List Note) α) (throw error) :=
  of_run fun _ _ => rfl

theorem await (operation : W.Operation) (accept : W.Answer → Option α) :
    Notes allowed (await operation accept : Co W (List Note) α)
      (await operation accept) := by
  apply of_run
  intro notes script
  unfold Co.await
  dsimp only
  split <;> rfl

theorem withStore (init : τ) (body : Co W τ α) :
    Notes allowed (withStore init body : Co W (List Note) (α × τ))
      (withStore init body) :=
  of_run fun _ _ => rfl

theorem bind {body : Co W (List Note) α} {plain : Co W Unit α}
    {next : α → Co W (List Note) β} {plainNext : α → Co W Unit β}
    (head : Notes allowed body plain)
    (tail : ∀ value, Notes allowed (next value) (plainNext value)) :
    Notes allowed (body >>= next) (plain >>= plainNext) := by
  intro notes script
  obtain ⟨more, holds, same⟩ := head notes script
  rw [bind_run, bind_run, same]
  cases ended : (plain.run () script).status with
  | returned value =>
      obtain ⟨later, holds', same'⟩ :=
        tail value (notes ++ more) (plain.run () script).rest
      refine ⟨more ++ later, ?_, ?_⟩
      · intro note member
        exact (List.mem_append.mp member).elim (holds note) (holds' note)
      · dsimp only
        rw [same', ← List.append_assoc]
        rfl
  | threw error => exact ⟨more, holds, rfl⟩
  | waiting wait => exact ⟨more, holds, rfl⟩

theorem note_bind {entry : Note} {body : Co W (List Note) α}
    {plain : Co W Unit α} (holds : allowed entry)
    (tail : Notes allowed body plain) :
    Notes allowed (Co.note entry >>= fun _ => body) plain := by
  have both := (note holds : Notes allowed (Co.note entry) _).bind fun _ => tail
  rwa [pure_bind] at both

/-- A note stays in the store, whatever follows. -/
theorem mem_of_note {entry : Note} {body : Co W (List Note) α}
    {plain : Co W Unit α} (tail : Notes allowed body plain)
    (notes : List Note) (script : List (Signal W)) :
    entry ∈ ((Co.note entry >>= fun _ => body).run notes script).store := by
  obtain ⟨more, _, same⟩ := tail (notes ++ [entry]) script
  change entry ∈ ((body.run (notes ++ [entry]) script).after []).store
  rw [same]
  simp

theorem ite {condition : Prop} [Decidable condition]
    {body other : Co W (List Note) α} {plain plainOther : Co W Unit α}
    (yes : condition → Notes allowed body plain)
    (no : ¬ condition → Notes allowed other plainOther) :
    Notes allowed (if condition then body else other)
      (if condition then plain else plainOther) := by
  split
  · next holds => exact yes holds
  · next fails => exact no fails

theorem race {milliseconds : Nat} {body : Co W (List Note) α}
    {plain : Co W Unit α} (inside : Notes allowed body plain) :
    Notes allowed (race milliseconds body) (race milliseconds plain) := by
  intro notes script
  obtain ⟨more, holds, same⟩ := inside notes (untilTimer script)
  refine ⟨more, holds, ?_⟩
  simp only [Co.race, same, raceRun]
  split
  · rfl
  · rfl
  · split <;> rfl

theorem loop {body : Co W (List Note) (Option α)} {plain : Co W Unit (Option α)}
    {progresses : Progresses body} {plainProgresses : Progresses plain}
    (inside : Notes allowed body plain) :
    Notes allowed (loop body progresses) (loop plain plainProgresses) := by
  intro notes script
  induction length : script.length using Nat.strong_induction_on
    generalizing notes script with
  | _ n induction =>
      obtain ⟨more, holds, same⟩ := inside notes script
      rw [loop_eq body, loop_eq plain, bind_run, bind_run, same]
      cases ended : (plain.run () script).status with
      | returned value =>
          cases value with
          | some value =>
              exact ⟨more, holds, by simp [Run.after]⟩
          | none =>
              have shorter := plainProgresses () script ended
              obtain ⟨later, holds', same'⟩ :=
                induction _ (length ▸ shorter) (notes ++ more) _ rfl
              refine ⟨more ++ later, ?_, ?_⟩
              · intro note member
                exact (List.mem_append.mp member).elim (holds note)
                  (holds' note)
              · dsimp only
                rw [same', ← List.append_assoc]
                rfl
      | threw error => exact ⟨more, holds, rfl⟩
      | waiting wait => exact ⟨more, holds, rfl⟩

end Notes

end ServicePortScanner.Data.Co
