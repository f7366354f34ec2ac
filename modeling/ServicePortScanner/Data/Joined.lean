import Mathlib.Data.List.Basic

namespace ServicePortScanner.Data

/-! Texts that a loop joins by a separator. -/

variable {α : Type*}

/-- What stands before the next text. -/
def withSeparator (separator joined : List α) : List α :=
  if joined.isEmpty then [] else joined ++ separator

def joinTexts (separator : List α) (texts : List (List α)) : List α :=
  texts.foldl (fun joined text => withSeparator separator joined ++ text) []

section

variable {separator : List α}

theorem withSeparator_of_ne {joined : List α} (nonempty : joined ≠ []) :
    withSeparator separator joined = joined ++ separator := by
  rw [withSeparator, List.isEmpty_eq_false_iff.mpr nonempty,
    if_neg Bool.false_ne_true]

theorem foldl_joinTexts {joined : List α} (nonempty : joined ≠ [])
    (texts : List (List α)) :
    texts.foldl (fun joined text => withSeparator separator joined ++ text)
        joined = separator.intercalate (joined :: texts) := by
  induction texts generalizing joined with
  | nil => exact List.intercalate_singleton.symm
  | cons text texts induction =>
      have stillNonempty : joined ++ separator ++ text ≠ [] := by
        simp [nonempty]
      rw [List.foldl_cons, withSeparator_of_ne nonempty,
        induction stillNonempty, List.intercalate_cons_cons]
      cases texts with
      | nil => rw [List.intercalate_singleton, List.intercalate_singleton]
      | cons next rest =>
          rw [List.intercalate_cons_cons, List.intercalate_cons_cons]
          simp only [List.append_assoc]

/-- The loop writes a separator between each two texts if none is empty. -/
theorem joinTexts_eq_intercalate {texts : List (List α)}
    (nonempty : ∀ text ∈ texts, text ≠ []) :
    joinTexts separator texts = separator.intercalate texts := by
  cases texts with
  | nil => rfl
  | cons text texts =>
      exact foldl_joinTexts (nonempty text List.mem_cons_self) texts

end

/-! Reading the texts back. -/

/-- A text that a reader of the joined text can tell from its neighbours. -/
structure Separable (separator : α) (text : List α) : Prop where
  nonempty : text ≠ []
  avoids : separator ∉ text

section

variable {separator : α}

theorem intercalate_ne_nil {text : List α} {texts : List (List α)}
    (nonempty : text ≠ []) : [separator].intercalate (text :: texts) ≠ [] := by
  cases texts with
  | nil => simpa using nonempty
  | cons next rest =>
      rw [List.intercalate_cons_cons]
      simp

theorem intercalate_eq_nil_iff {texts : List (List α)}
    (separable : ∀ text ∈ texts, Separable separator text) :
    [separator].intercalate texts = [] ↔ texts = [] := by
  constructor
  · intro empty
    cases texts with
    | nil => rfl
    | cons text texts =>
        exact absurd empty (intercalate_ne_nil
          (separable text List.mem_cons_self).nonempty)
  · intro same
    subst same
    rfl

/-- The joined text tells its texts and their order. -/
theorem intercalate_inj [DecidableEq α] {first second : List (List α)}
    (firstSeparable : ∀ text ∈ first, Separable separator text)
    (secondSeparable : ∀ text ∈ second, Separable separator text)
    (same : [separator].intercalate first = [separator].intercalate second) :
    first = second := by
  by_cases empty : first = []
  · have joined := (intercalate_eq_nil_iff firstSeparable).mpr empty
    rw [empty]
    exact ((intercalate_eq_nil_iff secondSeparable).mp
      (same.symm.trans joined)).symm
  · have other : second ≠ [] := by
      intro none
      have joined := (intercalate_eq_nil_iff secondSeparable).mpr none
      exact empty ((intercalate_eq_nil_iff firstSeparable).mp
        (same.trans joined))
    have parts := congrArg (List.splitOn separator) same
    rw [List.splitOn_intercalate separator
        (fun text member => (firstSeparable text member).avoids) empty,
      List.splitOn_intercalate separator
        (fun text member => (secondSeparable text member).avoids) other] at parts
    exact parts

end

/-! Blocks with a mark at the end of each, as they come one after the other. -/

/-- The mark stands nowhere in the block but at its end. -/
def MarksEnd (mark : α) (block : List α) : Prop :=
  mark ∉ block ∨ ∃ front, block = front ++ [mark] ∧ mark ∉ front

/-- A front of the blocks that ends in a mark is made of whole blocks, the last
of them with its mark. -/
theorem exists_blocks {β : Type*} {mark : α} {block : β → List α}
    {items : List β} {before behind : List α}
    (marks : ∀ item ∈ items, MarksEnd mark (block item))
    (split : before ++ behind = items.flatMap block)
    (last : ∀ a ∈ before.getLast?, a = mark) :
    ∃ whole, whole <+: items ∧ before = whole.flatMap block ∧
      ∀ item ∈ whole.getLast?, mark ∈ block item := by
  induction items generalizing before with
  | nil =>
      have empty := (List.append_eq_nil_iff.mp split).1
      exact ⟨[], List.nil_prefix, empty, nofun⟩
  | cons item items induction =>
      obtain ⟨here, others⟩ := List.forall_mem_cons.mp marks
      rw [List.flatMap_cons] at split
      rcases List.eq_nil_or_concat before with rfl | ⟨front, a, rfl⟩
      · exact ⟨[], List.nil_prefix, rfl, nofun⟩
      · rw [List.concat_eq_append] at *
        cases last a (by simp)
        rcases List.append_eq_append_iff.mp split with
          ⟨between, isBlock, _⟩ | ⟨between, isFront, isRest⟩
        · -- the mark is the one at the end of the first block
          have posted : mark ∈ block item := isBlock ▸ by simp
          refine ⟨[item], List.prefix_append [item] items, ?_, ?_⟩
          · rw [List.flatMap_singleton]
            rcases here with absent | ⟨front', same, absent⟩
            · exact absurd posted absent
            · rw [same] at isBlock
              rcases List.eq_nil_or_concat between with rfl | ⟨inner, b, rfl⟩
              · rw [same, isBlock, List.append_nil]
              · rw [List.concat_eq_append, ← List.append_assoc] at isBlock
                have inside := (List.append_inj' isBlock rfl).1
                exact absurd (inside ▸ by simp) absent
          · rintro _ ⟨⟩
            exact posted
        · have lastBetween : ∀ a' ∈ between.getLast?, a' = mark := by
            intro a' member
            rcases List.eq_nil_or_concat between with rfl | ⟨inner, b, rfl⟩
            · cases member
            · rw [List.concat_eq_append, ← List.append_assoc] at isFront
              have same := (List.append_inj' isFront rfl).2
              rw [List.concat_eq_append, List.getLast?_concat] at member
              cases member
              exact (List.cons.inj same).1.symm
          obtain ⟨whole, isPrefix, same, marked⟩ :=
            induction others isRest.symm lastBetween
          refine ⟨item :: whole, List.cons_prefix_cons.mpr ⟨rfl, isPrefix⟩, ?_,
            ?_⟩
          · rw [isFront, List.flatMap_cons, same]
          · cases whole with
            | nil =>
                rintro _ ⟨⟩
                have ends : front ++ [mark] = block item := by
                  rw [isFront, same, List.flatMap_nil, List.append_nil]
                exact ends ▸ by simp
            | cons next rest =>
                rw [List.getLast?_cons_cons]
                exact marked

end ServicePortScanner.Data
