import Mathlib.Data.List.Sort

namespace ServicePortScanner.Data

/-! Sets that are read in order, as a `std::set` is. -/

/-- The members of a set, each one once and in ascending order. -/
structure SortedSet (α : Type*) [LT α] where
  toList : List α
  ascending : toList.Pairwise (· < ·)

namespace SortedSet

variable {α : Type*}

def empty [LT α] : SortedSet α :=
  ⟨[], List.Pairwise.nil⟩

instance [LT α] : Membership α (SortedSet α) :=
  ⟨fun set a => a ∈ set.toList⟩

theorem not_mem_empty [LT α] (a : α) : a ∉ (empty : SortedSet α) :=
  List.not_mem_nil

variable [LE α] [LT α] [Std.IsLinearOrder α] [Std.LawfulOrderLT α]

/-- A set is known by its members. -/
theorem ext {first second : SortedSet α} (same : ∀ a, a ∈ first ↔ a ∈ second) :
    first = second := by
  obtain ⟨firstList, firstAscending⟩ := first
  obtain ⟨secondList, secondAscending⟩ := second
  have lists : firstList = secondList :=
    firstAscending.eq_of_mem_iff secondAscending same
  subst lists
  rfl

variable [DecidableLT α]

def insertInto (a : α) : List α → List α
  | [] => [a]
  | b :: rest =>
      if a < b then a :: b :: rest
      else if b < a then b :: insertInto a rest
      else b :: rest

theorem mem_insertInto {a b : α} {list : List α} :
    b ∈ insertInto a list ↔ b = a ∨ b ∈ list := by
  induction list with
  | nil => rw [insertInto, List.mem_singleton, List.mem_nil_iff, or_false]
  | cons c rest induction =>
      unfold insertInto
      split
      next before => exact List.mem_cons
      next notBefore =>
        split
        next after =>
          rw [List.mem_cons, List.mem_cons, induction]
          exact or_left_comm
        next notAfter =>
          have same : a = c := by
            rcases Std.lt_trichotomy a c with less | same | more
            · exact absurd less notBefore
            · exact same
            · exact absurd more notAfter
          subst same
          rw [List.mem_cons]
          exact or_self_left.symm

theorem ascending_insertInto {a : α} {list : List α}
    (ascending : list.Pairwise (· < ·)) :
    (insertInto a list).Pairwise (· < ·) := by
  induction list with
  | nil => exact List.pairwise_singleton _ a
  | cons c rest induction =>
      obtain ⟨below, ascendingRest⟩ := List.pairwise_cons.mp ascending
      unfold insertInto
      split
      next before =>
        refine List.pairwise_cons.mpr ⟨?_, ascending⟩
        intro b member
        rcases List.mem_cons.mp member with rfl | inRest
        · exact before
        · exact Std.lt_trans before (below b inRest)
      next notBefore =>
        split
        next after =>
          refine List.pairwise_cons.mpr ⟨?_, induction ascendingRest⟩
          intro b member
          rcases mem_insertInto.mp member with rfl | inRest
          · exact after
          · exact below b inRest
        next notAfter => exact ascending

def insert (set : SortedSet α) (a : α) : SortedSet α :=
  ⟨insertInto a set.toList, ascending_insertInto set.ascending⟩

theorem mem_insert {set : SortedSet α} {a b : α} :
    b ∈ set.insert a ↔ b = a ∨ b ∈ set :=
  mem_insertInto

theorem mem_foldl_insert {β : Type*} (f : β → α) {list : List β}
    {set : SortedSet α} {b : α} :
    b ∈ list.foldl (fun set x => set.insert (f x)) set ↔
      b ∈ set ∨ ∃ x ∈ list, b = f x := by
  induction list generalizing set with
  | nil => simp
  | cons x list induction =>
      rw [List.foldl_cons, induction, mem_insert, List.exists_mem_cons_iff]
      constructor
      · intro either
        rcases either with (new | old) | later
        · exact .inr (.inl new)
        · exact .inl old
        · exact .inr (.inr later)
      · intro either
        rcases either with old | new | later
        · exact .inl (.inr old)
        · exact .inl (.inl new)
        · exact .inr later

end SortedSet

end ServicePortScanner.Data
