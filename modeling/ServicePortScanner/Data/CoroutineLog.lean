import ServicePortScanner.Data.CoroutineNotes
import ServicePortScanner.Data.CoroutineRules

namespace ServicePortScanner.Data.Co

variable {W : World} {α β Note : Type}

/-! What the notes of a coroutine say about its result. -/

/-- `body` runs like `plain` on every script, and where it returns, `post` holds
of its result and of the notes it has added. -/
def Logs (post : α → List Note → Prop) (body : Co W (List Note) α)
    (plain : Co W Unit α) : Prop :=
  ∀ notes script, ∃ more,
    body.run notes script =
        { plain.run () script with store := notes ++ more } ∧
      ∀ value, (plain.run () script).status = .returned value → post value more

/-- A body that notes down its result. -/
def logged (entries : α → List Note) (body : Co W (List Note) α) :
    Co W (List Note) α := do
  let value ← body
  let notes ← load
  save (notes ++ entries value)
  return value

namespace Logs

theorem pure {value : α} {post : α → List Note → Prop} (holds : post value []) :
    Logs post (Pure.pure value : Co W (List Note) α) (Pure.pure value) := by
  intro notes script
  refine ⟨[], ?_, ?_⟩
  · rw [List.append_nil]
    rfl
  · intro result returned
    cases returned
    exact holds

/-- A body that never adds a note adds none. -/
theorem of_notes {body : Co W (List Note) α} {plain : Co W Unit α}
    (notes : Notes (fun _ => False) body plain) :
    Logs (fun _ more => more = []) body plain := by
  intro before script
  obtain ⟨more, none, same⟩ := notes before script
  have empty : more = [] := List.eq_nil_iff_forall_not_mem.mpr none
  exact ⟨more, same, fun _ _ => empty⟩

theorem mono {post weaker : α → List Note → Prop} {body : Co W (List Note) α}
    {plain : Co W Unit α} (logs : Logs post body plain)
    (weaken : ∀ value more, post value more → weaker value more) :
    Logs weaker body plain := by
  intro notes script
  obtain ⟨more, same, holds⟩ := logs notes script
  exact ⟨more, same, fun value returned => weaken _ _ (holds value returned)⟩

theorem bind {first : α → List Note → Prop} {post : β → List Note → Prop}
    {body : Co W (List Note) α} {plain : Co W Unit α}
    {next : α → Co W (List Note) β} {plainNext : α → Co W Unit β}
    (head : Logs first body plain)
    (tail : ∀ value front, first value front →
      Logs (fun result back => post result (front ++ back)) (next value)
        (plainNext value)) :
    Logs post (body >>= next) (plain >>= plainNext) := by
  intro notes script
  obtain ⟨front, same, holds⟩ := head notes script
  rw [bind_run, bind_run, same]
  cases ended : (plain.run () script).status with
  | returned value =>
      obtain ⟨back, same', holds'⟩ := tail value front (holds value ended)
        (notes ++ front) (plain.run () script).rest
      refine ⟨front ++ back, ?_, holds'⟩
      dsimp only
      rw [same', ← List.append_assoc]
      rfl
  | threw error =>
      refine ⟨front, rfl, ?_⟩
      intro value returned
      cases returned
  | waiting wait =>
      refine ⟨front, rfl, ?_⟩
      intro value returned
      cases returned

/-- A body without notes in front of another one. -/
theorem quiet_bind {post : β → List Note → Prop} {body : Co W (List Note) α}
    {plain : Co W Unit α} {next : α → Co W (List Note) β}
    {plainNext : α → Co W Unit β} (head : Notes (fun _ => False) body plain)
    (tail : ∀ value, Logs post (next value) (plainNext value)) :
    Logs post (body >>= next) (plain >>= plainNext) := by
  refine (of_notes head).bind ?_
  intro value front same
  subst same
  exact tail value

theorem ite {post : α → List Note → Prop} {condition : Prop}
    [Decidable condition] {body other : Co W (List Note) α}
    {plain plainOther : Co W Unit α}
    (yes : condition → Logs post body plain)
    (no : ¬ condition → Logs post other plainOther) :
    Logs post (if condition then body else other)
      (if condition then plain else plainOther) := by
  split
  · next holds => exact yes holds
  · next fails => exact no fails

theorem logged {entries : α → List Note} {body : Co W (List Note) α}
    {plain : Co W Unit α} (quiet : Notes (fun _ => False) body plain) :
    Logs (fun value more => more = entries value) (logged entries body)
      plain := by
  have whole : plain = plain >>= fun value => Pure.pure value :=
    (bind_pure plain).symm
  rw [whole]
  refine quiet_bind quiet ?_
  intro value notes script
  refine ⟨entries value, rfl, ?_⟩
  intro result returned
  cases returned
  rfl

/-- What is known of the values that the plain body returns. -/
theorem and_returns {post : α → List Note → Prop} {holds : α → Prop}
    {body : Co W (List Note) α} {plain : Co W Unit α}
    (logs : Logs post body plain) (returns : Returns holds plain) :
    Logs (fun value more => post value more ∧ holds value) body plain := by
  intro notes script
  obtain ⟨more, same, satisfied⟩ := logs notes script
  refine ⟨more, same, ?_⟩
  intro value returned
  exact ⟨satisfied value returned, returns.of_returned returned⟩

end Logs

end ServicePortScanner.Data.Co
