import Mathlib.Data.List.Infix

namespace ServicePortScanner.Data

/-! Texts with marks in them that a reader can find. -/

variable {α : Type*}

/-- No mark begins inside another one or is the beginning of another one. -/
structure Marks (IsMark : List α → Prop) : Prop where
  apart : ∀ {mark mark' front rest rest' : List α}, IsMark mark →
    IsMark mark' → mark ++ rest = front ++ (mark' ++ rest') →
    front = [] ∨ mark.length ≤ front.length
  prefixFree : ∀ {mark mark' rest rest' : List α}, IsMark mark →
    IsMark mark' → mark ++ rest = mark' ++ rest' → mark = mark'

def Unmarked (IsMark : List α → Prop) (text : List α) : Prop :=
  ∀ mark, IsMark mark → ¬ mark <:+: text

namespace Marks

variable {IsMark : List α → Prop}
variable {front front' mark mark' rest rest' : List α}

theorem gap (marks : Marks IsMark) (isMark : IsMark mark)
    (isMark' : IsMark mark')
    (same : front ++ (mark ++ rest) = front' ++ (mark' ++ rest'))
    (later : front.length < front'.length) :
    ∃ between, front' = front ++ (mark ++ between) ∧
      rest = between ++ (mark' ++ rest') := by
  obtain ⟨gap, isGap, behind⟩ | ⟨gap, isGap, _⟩ :=
    List.append_eq_append_iff.mp same
  · have nonempty : gap ≠ [] := by
      intro none
      rw [isGap, none, List.append_nil] at later
      exact Nat.lt_irrefl _ later
    have long := (marks.apart isMark isMark' behind).resolve_left nonempty
    have starts : mark <+: gap :=
      List.prefix_of_prefix_length_le ⟨rest, rfl⟩ ⟨mark' ++ rest', behind.symm⟩
        long
    obtain ⟨between, whole⟩ := starts
    refine ⟨between, by rw [isGap, whole], ?_⟩
    rw [← whole, List.append_assoc] at behind
    exact List.append_cancel_left behind
  · rw [isGap, List.length_append] at later
    omega

/-- In front of the first mark there is no other one. -/
theorem length_le_of_front (marks : Marks IsMark) (isMark : IsMark mark)
    (isMark' : IsMark mark')
    (same : front ++ (mark ++ rest) = front' ++ (mark' ++ rest'))
    (unmarked : Unmarked IsMark front') : front'.length ≤ front.length := by
  by_contra later
  obtain ⟨between, whole, _⟩ :=
    marks.gap isMark isMark' same (Nat.lt_of_not_le later)
  exact unmarked mark isMark ⟨front, between, by rw [whole, List.append_assoc]⟩

/-- Behind the last mark there is no other one. -/
theorem length_le_of_rest (marks : Marks IsMark) (isMark : IsMark mark)
    (isMark' : IsMark mark')
    (same : front ++ (mark ++ rest) = front' ++ (mark' ++ rest'))
    (unmarked : Unmarked IsMark rest) : front'.length ≤ front.length := by
  by_contra later
  obtain ⟨between, _, whole⟩ :=
    marks.gap isMark isMark' same (Nat.lt_of_not_le later)
  exact unmarked mark' isMark'
    ⟨between, rest', by rw [whole, List.append_assoc]⟩

theorem eq_of_length (marks : Marks IsMark) (isMark : IsMark mark)
    (isMark' : IsMark mark')
    (same : front ++ (mark ++ rest) = front' ++ (mark' ++ rest'))
    (length : front.length = front'.length) :
    front = front' ∧ mark = mark' ∧ rest = rest' := by
  obtain ⟨fronts, behind⟩ := List.append_inj same length
  have both := marks.prefixFree isMark isMark' behind
  refine ⟨fronts, both, ?_⟩
  rw [both] at behind
  exact List.append_cancel_left behind

/-- Two texts are split in the same way at the first mark of each. -/
theorem first (marks : Marks IsMark) (isMark : IsMark mark)
    (isMark' : IsMark mark')
    (same : front ++ (mark ++ rest) = front' ++ (mark' ++ rest'))
    (unmarked : Unmarked IsMark front) (unmarked' : Unmarked IsMark front') :
    front = front' ∧ mark = mark' ∧ rest = rest' :=
  marks.eq_of_length isMark isMark' same (Nat.le_antisymm
    (marks.length_le_of_front isMark' isMark same.symm unmarked)
    (marks.length_le_of_front isMark isMark' same unmarked'))

theorem last (marks : Marks IsMark) (isMark : IsMark mark)
    (isMark' : IsMark mark')
    (same : front ++ (mark ++ rest) = front' ++ (mark' ++ rest'))
    (unmarked : Unmarked IsMark rest) (unmarked' : Unmarked IsMark rest') :
    front = front' ∧ mark = mark' ∧ rest = rest' :=
  marks.eq_of_length isMark isMark' same (Nat.le_antisymm
    (marks.length_le_of_rest isMark' isMark same.symm unmarked')
    (marks.length_le_of_rest isMark isMark' same unmarked))

/-- At an only mark a text can be split in one way. -/
theorem only (marks : Marks IsMark) (isMark : IsMark mark)
    (isMark' : IsMark mark')
    (same : front ++ (mark ++ rest) = front' ++ (mark' ++ rest'))
    (before : Unmarked IsMark front) (behind : Unmarked IsMark rest) :
    front = front' ∧ mark = mark' ∧ rest = rest' :=
  marks.eq_of_length isMark isMark' same (Nat.le_antisymm
    (marks.length_le_of_front isMark' isMark same.symm before)
    (marks.length_le_of_rest isMark isMark' same behind))

end Marks

/-! Texts without marks. -/

section

variable {IsMark : List α → Prop}

theorem infix_append_cons {c : α} {mark front back : List α} (absent : c ∉ mark)
    (inside : mark <:+: front ++ c :: back) :
    mark <:+: front ∨ mark <:+: back := by
  obtain ⟨before, behind, whole⟩ := inside
  obtain ⟨more, isMore, _⟩ | ⟨more, isMore, next⟩ :=
    List.append_eq_append_iff.mp whole
  · exact .inl ⟨before, more, isMore.symm⟩
  · obtain ⟨rfl, _⟩ | ⟨tail, rfl, isBack⟩ := List.cons_eq_append_iff.mp next
    · exact .inl ⟨before, [], by rw [List.append_nil, isMore, List.append_nil]⟩
    · obtain ⟨rest, _, isRest⟩ | ⟨rest, _, isRest⟩ :=
        List.append_eq_append_iff.mp isMore
      · exact absurd (isRest ▸ List.mem_append_right rest List.mem_cons_self)
          absent
      · obtain ⟨rfl, isMark⟩ | ⟨skipped, _, isTail⟩ :=
          List.cons_eq_append_iff.mp isRest
        · exact absurd (isMark ▸ List.mem_cons_self) absent
        · exact .inr ⟨skipped, behind, by rw [isBack, isTail]⟩

theorem Unmarked.append_cons {c : α} {front back : List α}
    (absent : ∀ mark, IsMark mark → c ∉ mark) (unmarked : Unmarked IsMark front)
    (unmarked' : Unmarked IsMark back) :
    Unmarked IsMark (front ++ c :: back) := by
  intro mark isMark inside
  rcases infix_append_cons (absent mark isMark) inside with inFront | inBack
  · exact unmarked mark isMark inFront
  · exact unmarked' mark isMark inBack

theorem unmarked_nil (nonempty : ∀ mark, IsMark mark → mark ≠ []) :
    Unmarked IsMark [] :=
  fun mark isMark inside => nonempty mark isMark (List.infix_nil.mp inside)

end

/-! Texts in turn with marks. -/

def weave (first : List α) (pieces : List (List α × List α)) : List α :=
  first ++ pieces.flatMap fun piece => piece.1 ++ piece.2

def Woven (IsMark : List α → Prop) (pieces : List (List α × List α)) : Prop :=
  ∀ piece ∈ pieces, IsMark piece.1 ∧ Unmarked IsMark piece.2

section

variable {IsMark : List α → Prop}

theorem weave_cons (first mark text : List α)
    (pieces : List (List α × List α)) :
    weave first ((mark, text) :: pieces) =
      first ++ (mark ++ weave text pieces) := by
  simp [weave]

@[simp] theorem weave_nil (first : List α) : weave first [] = first :=
  List.append_nil first

theorem weave_append (text first : List α) (pieces : List (List α × List α)) :
    weave (text ++ first) pieces = text ++ weave first pieces :=
  List.append_assoc _ _ _

theorem not_unmarked_weave {mark : List α} (isMark : IsMark mark)
    (first text : List α) (pieces : List (List α × List α)) :
    ¬ Unmarked IsMark (weave first ((mark, text) :: pieces)) := by
  intro unmarked
  refine unmarked mark isMark ⟨first, weave text pieces, ?_⟩
  rw [weave_cons, List.append_assoc]

/-- A text with marks in it is woven in one way. -/
theorem weave_inj (marks : Marks IsMark) {first first' : List α}
    {pieces pieces' : List (List α × List α)}
    (unmarked : Unmarked IsMark first) (unmarked' : Unmarked IsMark first')
    (woven : Woven IsMark pieces) (woven' : Woven IsMark pieces')
    (same : weave first pieces = weave first' pieces') :
    first = first' ∧ pieces = pieces' := by
  induction pieces generalizing first first' pieces' with
  | nil =>
      cases pieces' with
      | nil => exact ⟨by simpa using same, rfl⟩
      | cons piece' pieces' =>
          rw [weave_nil] at same
          rw [same] at unmarked
          exact absurd unmarked (not_unmarked_weave
            (List.forall_mem_cons.mp woven').1.1 _ _ _)
  | cons piece pieces induction =>
      obtain ⟨⟨isMark, unmarkedText⟩, others⟩ := List.forall_mem_cons.mp woven
      cases pieces' with
      | nil =>
          rw [weave_nil] at same
          rw [← same] at unmarked'
          exact absurd unmarked' (not_unmarked_weave isMark _ _ _)
      | cons piece' pieces' =>
          obtain ⟨⟨isMark', unmarkedText'⟩, others'⟩ :=
            List.forall_mem_cons.mp woven'
          rw [weave_cons, weave_cons] at same
          obtain ⟨fronts, both, rests⟩ :=
            marks.first isMark isMark' same unmarked unmarked'
          obtain ⟨texts, tails⟩ := induction unmarkedText unmarkedText' others
            others' rests
          exact ⟨fronts, by rw [Prod.ext both texts, tails]⟩

end

/-! Words that can serve as marks. -/

theorem marks_pair {a b : α} (differ : a ≠ b) : Marks (· = [a, b]) where
  apart := by
    intro mark mark' front rest rest' isMark isMark' same
    subst isMark isMark'
    match front with
    | [] => exact .inl rfl
    | [c] => exact absurd (List.cons.inj (List.cons.inj same).2).1.symm differ
    | _ :: _ :: _ => exact .inr (by simp)
  prefixFree := by
    intro mark mark' _ _ isMark isMark' _
    rw [isMark, isMark']

def fieldsText (separator : α) (fields : List (List α)) : List α :=
  fields.flatMap (separator :: ·)

section

variable {separator start : α}

@[simp] theorem fieldsText_nil : fieldsText separator [] = [] := rfl

@[simp] theorem fieldsText_cons (field : List α) (fields : List (List α)) :
    fieldsText separator (field :: fields) =
      separator :: (field ++ fieldsText separator fields) := rfl

theorem fieldsText_cons_append (field : List α) (fields : List (List α))
    (rest : List α) :
    fieldsText separator (field :: fields) ++ rest =
      separator :: (field ++ (fieldsText separator fields ++ rest)) := by
  rw [fieldsText_cons, List.cons_append, List.append_assoc]

theorem skip_field {field front rest more : List α} (avoids : separator ∉ field)
    (same : field ++ rest = front ++ separator :: more) :
    ∃ between, front = field ++ between ∧
      rest = between ++ separator :: more := by
  obtain ⟨between, isFront, isRest⟩ | ⟨between, isField, isMore⟩ :=
    List.append_eq_append_iff.mp same
  · exact ⟨between, isFront, isRest⟩
  · cases between with
    | nil =>
        refine ⟨[], ?_, isMore.symm⟩
        rw [isField, List.append_nil, List.append_nil]
    | cons c between =>
        obtain ⟨isSeparator, _⟩ := List.cons.inj isMore
        subst isSeparator
        exact absurd (isField ▸ List.mem_append_right _ List.mem_cons_self)
          avoids

theorem field_inj {field field' rest rest' : List α}
    (avoids : separator ∉ field) (avoids' : separator ∉ field')
    (same : field ++ separator :: rest = field' ++ separator :: rest') :
    field = field' ∧ rest = rest' := by
  obtain ⟨between, longer, _⟩ := skip_field avoids same
  obtain ⟨between', longer', _⟩ := skip_field avoids' same.symm
  have lengths := congrArg List.length longer
  have lengths' := congrArg List.length longer'
  rw [List.length_append] at lengths lengths'
  obtain ⟨both, behind⟩ := List.append_inj same (by omega)
  exact ⟨both, (List.cons.inj behind).2⟩

theorem exists_fieldsText_append (fields : List (List α)) (rest : List α) :
    ∃ more, fieldsText separator fields ++ separator :: rest =
      separator :: more := by
  cases fields with
  | nil => exact ⟨rest, rfl⟩
  | cons field fields => exact ⟨_, rfl⟩

theorem fieldsText_inj {fields fields' : List (List α)} {rest rest' : List α}
    (avoid : ∀ field ∈ fields, separator ∉ field)
    (avoid' : ∀ field ∈ fields', separator ∉ field)
    (length : fields.length = fields'.length)
    (same : fieldsText separator fields ++ separator :: rest =
      fieldsText separator fields' ++ separator :: rest') :
    fields = fields' ∧ rest = rest' := by
  induction fields generalizing fields' with
  | nil =>
      rw [List.length_nil, eq_comm, List.length_eq_zero_iff] at length
      subst length
      exact ⟨rfl, (List.cons.inj same).2⟩
  | cons field fields induction =>
      cases fields' with
      | nil => cases length
      | cons field' fields' =>
          obtain ⟨first, others⟩ := List.forall_mem_cons.mp avoid
          obtain ⟨first', others'⟩ := List.forall_mem_cons.mp avoid'
          obtain ⟨more, behind⟩ :=
            @exists_fieldsText_append _ separator fields rest
          obtain ⟨more', behind'⟩ :=
            @exists_fieldsText_append _ separator fields' rest'
          rw [fieldsText_cons_append, fieldsText_cons_append, behind,
            behind'] at same
          obtain ⟨both, tails⟩ :=
            field_inj first first' (List.cons.inj same).2
          rw [tails, ← behind'] at behind
          obtain ⟨fields, rests⟩ :=
            induction others others' (Nat.succ.inj length) behind
          exact ⟨by rw [both, fields], rests⟩

/-- A separator with `start` behind it is not in fields that begin otherwise. -/
theorem length_fieldsText_le {fields : List (List α)} {front rest more : List α}
    (avoid : ∀ field ∈ fields, separator ∉ field)
    (begin : ∀ field ∈ fields, ∃ c tail, field = c :: tail ∧ c ≠ start)
    (same : fieldsText separator fields ++ rest =
      front ++ separator :: start :: more) :
    (fieldsText separator fields).length ≤ front.length := by
  induction fields generalizing front with
  | nil => exact Nat.zero_le _
  | cons field fields induction =>
      obtain ⟨first, others⟩ := List.forall_mem_cons.mp avoid
      obtain ⟨⟨c, tail, isField, other⟩, begins⟩ :=
        List.forall_mem_cons.mp begin
      rw [fieldsText_cons_append] at same
      cases front with
      | nil =>
          rw [isField] at same
          exact absurd (List.cons.inj (List.cons.inj same).2).1 other
      | cons d front =>
          obtain ⟨between, isFront, behind⟩ :=
            skip_field first (List.cons.inj same).2
          have shorter := induction others begins behind
          rw [isFront]
          simp only [fieldsText_cons, List.length_cons, List.length_append]
          omega

/-- Fields of which only the first begins with `start`, and which end with the
same one always. -/
def IsRecord (separator start : α) (last : List α) (count : Nat)
    (mark : List α) : Prop :=
  ∃ first middle,
    mark = fieldsText separator ((start :: first) :: (middle ++ [last])) ∧
    middle.length = count ∧
    (∀ field ∈ (start :: first) :: (middle ++ [last]), separator ∉ field) ∧
    ∀ field ∈ middle ++ [last], ∃ c tail, field = c :: tail ∧ c ≠ start

theorem fieldsText_concat (fields : List (List α)) (last : List α) :
    fieldsText separator (fields ++ [last]) =
      fieldsText separator fields ++ separator :: last := by
  simp [fieldsText]

theorem marks_of_records {IsMark : List α → Prop} {last : List α} {count : Nat}
    (records : ∀ mark, IsMark mark →
      IsRecord separator start last count mark) : Marks IsMark where
  apart := by
    intro mark mark' front rest rest' isMark isMark' same
    obtain ⟨first, middle, isText, _, avoid, begin⟩ := records mark isMark
    obtain ⟨first', middle', isText', _⟩ := records mark' isMark'
    cases front with
    | nil => exact .inl rfl
    | cons d front =>
        right
        rw [isText, isText', fieldsText_cons_append,
          fieldsText_cons_append] at same
        obtain ⟨avoidsFirst, avoids⟩ := List.forall_mem_cons.mp avoid
        obtain ⟨between, isFront, behind⟩ :=
          skip_field avoidsFirst (List.cons.inj same).2
        have shorter := length_fieldsText_le avoids begin behind
        rw [isText, isFront]
        simp only [fieldsText_cons, List.length_cons, List.length_append]
        omega
  prefixFree := by
    intro mark mark' rest rest' isMark isMark' same
    obtain ⟨first, middle, isText, count, avoid, _⟩ := records mark isMark
    obtain ⟨first', middle', isText', count', avoid', _⟩ :=
      records mark' isMark'
    rw [← List.cons_append] at isText isText' avoid avoid'
    rw [isText, isText', fieldsText_concat, fieldsText_concat,
      List.append_assoc, List.append_assoc] at same
    have length : ((start :: first) :: middle).length =
        ((start :: first') :: middle').length := by
      rw [List.length_cons, List.length_cons, count, count']
    have both := fieldsText_inj (List.forall_mem_append.mp avoid).1
      (List.forall_mem_append.mp avoid').1 length same
    rw [isText, isText', both.1]

end

end ServicePortScanner.Data
