import Mathlib.Data.List.Basic

namespace ServicePortScanner.Data

/-! Maps as lists of pairs, of which the first under a key is the one that
counts. -/

section

variable {κ ν : Type} [BEq κ] [LawfulBEq κ]

/-- A pair is added unless its key is taken. -/
def emplace (map : List (κ × ν)) (pair : κ × ν) : List (κ × ν) :=
  if (map.lookup pair.1).isSome then map else map ++ [pair]

/-- The pairs of the second map, as far as their keys are free in the first. -/
def emplaceAll (map pairs : List (κ × ν)) : List (κ × ν) :=
  pairs.foldl emplace map

omit [LawfulBEq κ] in
theorem emplaceAll_append (map first second : List (κ × ν)) :
    emplaceAll map (first ++ second) =
      emplaceAll (emplaceAll map first) second :=
  List.foldl_append

theorem lookup_emplace (map : List (κ × ν)) (pair : κ × ν) (key : κ) :
    (emplace map pair).lookup key = (map.lookup key).or ([pair].lookup key) := by
  unfold emplace
  split
  · next taken =>
      obtain ⟨value, found⟩ := Option.isSome_iff_exists.mp taken
      by_cases same : key = pair.1
      · rw [same, found]
        rfl
      · have other : (key == pair.1) = false := beq_false_of_ne same
        have absent : [pair].lookup key = none := by
          rw [List.lookup_cons, other]
          rfl
        rw [absent, Option.or_none]
  · exact List.lookup_append

theorem lookup_emplaceAll (map pairs : List (κ × ν)) (key : κ) :
    (emplaceAll map pairs).lookup key =
      (map.lookup key).or (pairs.lookup key) := by
  induction pairs generalizing map with
  | nil => simp [emplaceAll]
  | cons pair pairs induction =>
      have split : (pair :: pairs).lookup key =
          ([pair].lookup key).or (pairs.lookup key) :=
        @List.lookup_append _ _ _ [pair] pairs key
      change (emplaceAll (emplace map pair) pairs).lookup key = _
      rw [induction, lookup_emplace, split, Option.or_assoc]

/-- To add a map is to add the pairs that have been put into it. -/
theorem emplaceAll_emplaceAll (map first second : List (κ × ν)) :
    emplaceAll map (emplaceAll first second) =
      emplaceAll (emplaceAll map first) second := by
  induction second generalizing first with
  | nil => rfl
  | cons pair second induction =>
      have step : emplaceAll map (emplace first pair) =
          emplace (emplaceAll map first) pair := by
        unfold emplace
        split
        · next taken =>
            have found : ((emplaceAll map first).lookup pair.1).isSome := by
              rw [lookup_emplaceAll, Option.isSome_or, taken, Bool.or_true]
            rw [if_pos found]
        · exact emplaceAll_append map first [pair]
      change emplaceAll map (emplaceAll (emplace first pair) second) =
        emplaceAll (emplace (emplaceAll map first) pair) second
      rw [induction, step]

theorem lookup_eq_find? (pairs : List (κ × ν)) (key : κ) :
    pairs.lookup key =
      (pairs.find? fun pair => pair.1 == key).map Prod.snd := by
  induction pairs with
  | nil => rfl
  | cons pair pairs induction =>
      rw [List.find?_cons, List.lookup_cons, induction, BEq.comm]
      cases pair.1 == key with
      | true => rfl
      | false => rfl

end

end ServicePortScanner.Data
