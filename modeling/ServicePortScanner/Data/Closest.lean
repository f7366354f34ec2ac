import Mathlib.Data.List.MinMax

namespace ServicePortScanner.Data

/-! The loop that keeps the first item with the smallest key so far, from a
bound that the key must go below. -/

section

variable {α β : Type*} (lt : β → β → Bool) (key : α → β) (bound : β)

def closestTurn (best : β × Option α) (item : α) : β × Option α :=
  if lt (key item) best.1 then (key item, some item) else best

def closest (items : List α) : Option α :=
  (items.foldl (closestTurn lt key) (bound, none)).2

variable {lt key bound}

theorem closest_mem {items : List α} {item : α}
    (found : closest lt key bound items = some item) : item ∈ items := by
  induction items using List.reverseRecOn with
  | nil => cases found
  | append_singleton items last induction =>
      rw [closest, List.foldl_append, List.foldl_cons, List.foldl_nil,
        closestTurn] at found
      split at found
      · cases found
        exact List.mem_concat_self
      · exact List.mem_append_left _ (induction found)

end

section

variable {α β : Type*} [LinearOrder β] (key : α → β) (bound : β)

def isLess (x y : β) : Bool :=
  decide (x < y)

variable {key} in
theorem closestTurn_isLess (best : β × Option α) (item : α) :
    closestTurn isLess key best item =
      if key item < best.1 then (key item, some item) else best := by
  simp only [closestTurn, isLess, decide_eq_true_eq]

/-- The items the loop looks at as candidates. -/
def below (items : List α) : List α :=
  items.filter fun item => key item < bound

variable {key bound}

theorem mem_below {items : List α} {item : α} :
    item ∈ below key bound items ↔ item ∈ items ∧ key item < bound := by
  simp [below]

theorem below_concat (items : List α) (item : α) :
    below key bound (items ++ [item]) =
      below key bound items ++ if key item < bound then [item] else [] := by
  rw [below, List.filter_append, List.filter_singleton]
  by_cases candidate : key item < bound
  · simp [below, candidate]
  · simp [below, candidate]

theorem foldl_closestTurn (items : List α) :
    items.foldl (closestTurn isLess key) (bound, none) =
      ((below key bound items).argmin key).elim (bound, none)
        fun item => (key item, some item) := by
  induction items using List.reverseRecOn with
  | nil => rfl
  | append_singleton items item induction =>
      rw [List.foldl_append, List.foldl_cons, List.foldl_nil, induction,
        below_concat, closestTurn_isLess]
      by_cases candidate : key item < bound
      · rw [if_pos candidate, List.argmin_concat]
        cases (below key bound items).argmin key with
        | none => exact if_pos candidate
        | some least =>
            by_cases nearer : key item < key least
            · simp [nearer]
            · simp [nearer]
      · rw [if_neg candidate, List.append_nil]
        cases best : (below key bound items).argmin key with
        | none => exact if_neg candidate
        | some least =>
            have near := (mem_below.mp (List.argmin_mem best)).2
            exact if_neg fun nearer => candidate (nearer.trans near)

theorem closest_eq_argmin (items : List α) :
    closest isLess key bound items = (below key bound items).argmin key := by
  rw [closest, foldl_closestTurn]
  cases (below key bound items).argmin key with
  | none => rfl
  | some item => rfl

theorem closest_le {items : List α} {item other : α}
    (found : closest isLess key bound items = some item) (member : other ∈ items) :
    key item ≤ key other := by
  rw [closest_eq_argmin] at found
  rcases lt_or_ge (key other) bound with candidate | far
  · exact List.le_of_mem_argmin (mem_below.mpr ⟨member, candidate⟩) found
  · exact ((mem_below.mp (List.argmin_mem found)).2.trans_le far).le

/-- Where the items come in some order, no other one with this key comes before
the item that is kept. -/
theorem closest_first {order : α → α → Prop} {items : List α} {item other : α}
    (ordered : items.Pairwise order)
    (found : closest isLess key bound items = some item) (member : other ∈ items)
    (same : key other = key item) : other = item ∨ order item other := by
  classical
  rw [closest_eq_argmin] at found
  obtain ⟨isBelow, _, first⟩ := List.mem_argmin_iff.mp found
  have otherBelow : other ∈ below key bound items :=
    mem_below.mpr ⟨member, same ▸ (mem_below.mp isBelow).2⟩
  have position := List.idxOf_lt_length_iff.mpr isBelow
  have position' := List.idxOf_lt_length_iff.mpr otherBelow
  have orderedBelow : (below key bound items).Pairwise order :=
    ordered.sublist List.filter_sublist
  rcases (first other otherBelow same.le).lt_or_eq with before | atOnce
  · have related := List.pairwise_iff_getElem.mp orderedBelow _ _ position
      position' before
    rw [List.getElem_idxOf, List.getElem_idxOf] at related
    exact .inr related
  · exact .inl ((List.idxOf_inj otherBelow).mp atOnce.symm)

theorem exists_closest {items : List α} {item : α} (member : item ∈ items)
    (candidate : key item < bound) :
    ∃ least, closest isLess key bound items = some least := by
  rw [closest_eq_argmin]
  cases found : (below key bound items).argmin key with
  | some least => exact ⟨least, rfl⟩
  | none =>
      have candidates := mem_below.mpr ⟨member, candidate⟩
      rw [List.argmin_eq_none.mp found] at candidates
      cases candidates

end

end ServicePortScanner.Data
