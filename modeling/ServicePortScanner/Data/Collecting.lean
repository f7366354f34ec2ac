import Mathlib.Data.List.Basic

namespace ServicePortScanner.Data

/-! Loops that collect what their items yield, and stop with an error at an item
they do not accept. -/

section

variable {α β ε : Type} {turn : List β → α → Except ε (List β)}
variable {accepted : α → Prop} {error : ε} {yields : α → List β}

/-- A turn adds what its item yields, or throws. -/
structure Collects (turn : List β → α → Except ε (List β))
    (accepted : α → Prop) (error : ε) (yields : α → List β) : Prop where
  adds : ∀ found item, accepted item →
    turn found item = .ok (found ++ yields item)
  throws : ∀ found item, ¬ accepted item → turn found item = .error error

namespace Collects

theorem foldlM_adds (each : Collects turn accepted error yields)
    (items : List α) (found : List β) (all : ∀ item ∈ items, accepted item) :
    items.foldlM turn found = .ok (found ++ items.flatMap yields) := by
  induction items generalizing found with
  | nil => simp [pure, Except.pure]
  | cons item items induction =>
      obtain ⟨first, later⟩ := List.forall_mem_cons.mp all
      rw [List.foldlM_cons, each.adds found item first, List.flatMap_cons,
        ← List.append_assoc]
      exact induction (found ++ yields item) later

/-- What the items before the bad one yield is lost with it. -/
theorem foldlM_throws (each : Collects turn accepted error yields)
    (items : List α) (found : List β)
    (notAll : ¬ ∀ item ∈ items, accepted item) :
    items.foldlM turn found = .error error := by
  induction items generalizing found with
  | nil => simp at notAll
  | cons item items induction =>
      rw [List.foldlM_cons]
      by_cases first : accepted item
      · rw [each.adds found item first]
        apply induction
        intro later
        exact notAll (List.forall_mem_cons.mpr ⟨first, later⟩)
      · rw [each.throws found item first]
        rfl

/-- A loop over lists is such a turn again. -/
theorem foldlM (each : Collects turn accepted error yields) :
    Collects (fun found (items : List α) => items.foldlM turn found)
      (fun items => ∀ item ∈ items, accepted item) error
      (fun items => items.flatMap yields) where
  adds found items := each.foldlM_adds items found
  throws found items := each.foldlM_throws items found

end Collects

end

end ServicePortScanner.Data
