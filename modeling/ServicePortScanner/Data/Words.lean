import Mathlib.Data.List.Infix

namespace ServicePortScanner.Data

/-! Texts that are written as one word for each character. -/

variable {α β : Type*}

/-! Reading words. -/

/-- `word` tells what the word at the beginning of a text stands for, and how
many characters follow its first one; of these, `skip` are still to come. -/
def readWords (word : List β → List α × Nat) (skip : Nat) : List β → List α
  | [] => []
  | b :: rest =>
      match skip with
      | skip + 1 => readWords word skip rest
      | 0 => (word (b :: rest)).1 ++ readWords word (word (b :: rest)).2 rest

section

variable {word : List β → List α × Nat}

theorem readWords_skip (skipped rest : List β) :
    readWords word skipped.length (skipped ++ rest) =
      readWords word 0 rest := by
  induction skipped with
  | nil => rfl
  | cons b skipped induction => exact induction

theorem readWords_cons {b : β} {tail rest : List β} {value : List α}
    (reads : word (b :: (tail ++ rest)) = (value, tail.length)) :
    readWords word 0 (b :: (tail ++ rest)) =
      value ++ readWords word 0 rest := by
  rw [readWords, reads]
  dsimp only
  rw [readWords_skip]

/-- Words that are read wherever they stand are read back. -/
theorem readWords_flatMap {code : α → List β}
    (reads : ∀ a rest, ∃ b tail, code a = b :: tail ∧
      word (b :: (tail ++ rest)) = ([a], tail.length)) (text : List α) :
    readWords word 0 (text.flatMap code) = text := by
  induction text with
  | nil => rfl
  | cons a text induction =>
      obtain ⟨b, tail, isCode, isWord⟩ := reads a (text.flatMap code)
      rw [List.flatMap_cons, isCode, List.cons_append, readWords_cons isWord,
        induction, List.singleton_append]

end

/-! Cutting a text behind a number of characters. -/

section

variable (code : α → List β)

/-- The cut goes through the word of a character. -/
def CutsWord (n : Nat) (text : List α) : Prop :=
  ∃ front c back, text = front ++ c :: back ∧
    (front.flatMap code).length < n ∧
    n < (front.flatMap code).length + (code c).length

variable {n : Nat} {text front : List α}

theorem length_flatMap_le_of_prefix (isPrefix : front <+: text) :
    (front.flatMap code).length ≤ (text.flatMap code).length := by
  obtain ⟨rest, whole⟩ := isPrefix
  rw [← whole, List.flatMap_append, List.length_append]
  exact Nat.le_add_right _ _

variable {code}

theorem not_cutsWord (isPrefix : front <+: text)
    (cut : (text.flatMap code).take n = front.flatMap code) :
    ¬ CutsWord code n text := by
  intro cuts
  obtain ⟨before, c, back, split, short, long⟩ := cuts
  have through : (before ++ [c]) <+: text := ⟨back, by simp [split]⟩
  have whole := length_flatMap_le_of_prefix code through
  have length := congrArg List.length cut
  rw [List.flatMap_append, List.length_append, List.flatMap_singleton] at whole
  rw [List.length_take, Nat.min_eq_left (by omega)] at length
  rcases Nat.lt_or_ge before.length front.length with longer | shorter
  · have inside : (before ++ [c]) <+: front :=
      List.prefix_of_prefix_length_le through isPrefix (by simp; omega)
    have least := length_flatMap_le_of_prefix code inside
    rw [List.flatMap_append, List.length_append,
      List.flatMap_singleton] at least
    omega
  · have inside : front <+: before :=
      List.prefix_of_prefix_length_le isPrefix ⟨c :: back, split.symm⟩ shorter
    have most := length_flatMap_le_of_prefix code inside
    omega

theorem exists_prefix_of_not_cutsWord (whole : ¬ CutsWord code n text) :
    ∃ front, front <+: text ∧
      (text.flatMap code).take n = front.flatMap code := by
  induction text generalizing n with
  | nil => exact ⟨[], List.prefix_rfl, List.take_nil⟩
  | cons c text induction =>
      rcases Nat.eq_zero_or_pos n with zero | positive
      · subst zero
        exact ⟨[], List.nil_prefix, rfl⟩
      · have fits : (code c).length ≤ n := by
          by_contra long
          exact whole ⟨[], c, text, rfl, positive, by simpa using long⟩
        have rest : ¬ CutsWord code (n - (code c).length) text := by
          intro cuts
          obtain ⟨front, d, back, split, short, long⟩ := cuts
          refine whole ⟨c :: front, d, back, by rw [split]; rfl, ?_, ?_⟩
          · rw [List.flatMap_cons, List.length_append]
            omega
          · rw [List.flatMap_cons, List.length_append]
            omega
        obtain ⟨front, isPrefix, cut⟩ := induction rest
        refine ⟨c :: front, List.cons_prefix_cons.mpr ⟨rfl, isPrefix⟩, ?_⟩
        rw [List.flatMap_cons, List.take_append, List.take_of_length_le fits,
          cut, List.flatMap_cons]

/-- What is left is written as the words of a prefix exactly if the cut goes
through no word. -/
theorem exists_prefix_iff :
    (∃ front, front <+: text ∧
      (text.flatMap code).take n = front.flatMap code) ↔
      ¬ CutsWord code n text := by
  constructor
  · intro found
    obtain ⟨front, isPrefix, cut⟩ := found
    exact not_cutsWord isPrefix cut
  · exact exists_prefix_of_not_cutsWord

end

end ServicePortScanner.Data
