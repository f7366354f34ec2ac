import ServicePortScanner.Data.PlaceMarkers

namespace ServicePortScanner.Data.PlaceMarkers

/-! Templates with numbered holes, and where each character of a filled one
comes from. -/

def mark (number : Nat) : Bytes :=
  [percent, 0x30 + UInt8.ofNat number]

/-- The holes from a number on, each with a literal behind it. -/
def holes (number : Nat) : List Bytes → Bytes
  | [] => []
  | literal :: rest => mark number ++ literal ++ holes (number + 1) rest

def fill {α : Type} : List (List α) → List (List α) → List α
  | literal :: literals, text :: texts => text ++ literal ++ fill literals texts
  | _, _ => []

/-- A character with the number of the argument it comes from; the template's
own have none. -/
abbrev Traced := UInt8 × Option Nat

def trace (origin : Option Nat) (text : Bytes) : List Traced :=
  text.map fun b => (b, origin)

def traceArguments (number : Nat) :
    List (Argument UInt8) → List (Argument Traced)
  | [] => []
  | argument :: rest =>
      argument.map (fun b => (b, some number)) ::
        traceArguments (number + 1) rest

def traceTexts (number : Nat) : List Bytes → List (List Traced)
  | [] => []
  | text :: rest => trace (some number) text :: traceTexts (number + 1) rest

/-- No argument that another one follows has a marker with a number below the
limit. -/
def Inert (limit : Nat) (arguments : List (Argument UInt8)) : Prop :=
  ∀ argument ∈ arguments.dropLast, ∀ number ∈ numbers id argument.text,
    limit ≤ number

instance (limit : Nat) (arguments : List (Argument UInt8)) :
    Decidable (Inert limit arguments) :=
  inferInstanceAs (Decidable (∀ _ ∈ _, _))

theorem isDigit_mark {number : Nat} (oneDigit : number ≤ 9) :
    IsDigit (0x30 + UInt8.ofNat number) ∧
      digitValue (0x30 + UInt8.ofNat number) = number := by
  have checked : ∀ number ≤ 9, IsDigit (0x30 + UInt8.ofNat number) ∧
      digitValue (0x30 + UInt8.ofNat number) = number := by
    decide
  exact checked number oneDigit

theorem IsLiteral.trace {literal : Bytes} (isLiteral : IsLiteral id literal)
    (origin : Option Nat) : IsLiteral Prod.fst (trace origin literal) := by
  obtain ⟨⟨c, isHead, clean⟩, plain⟩ := isLiteral
  constructor
  · refine ⟨(c, origin), ?_, clean⟩
    rw [PlaceMarkers.trace, List.head?_map, isHead]
    rfl
  · intro traced member
    obtain ⟨b, isIn, rfl⟩ := List.mem_map.mp member
    exact plain b isIn

theorem items_mark {number : Nat} (oneDigit : number ≤ 9) {literal : Bytes}
    (isLiteral : IsLiteral id literal) (rest : Bytes) :
    items id (mark number ++ literal ++ rest) =
      .marker number false (mark number) :: literal.map .char ++
        items id rest := by
  obtain ⟨⟨c, isHead, clean⟩, plain⟩ := isLiteral
  obtain ⟨isDigit, value⟩ := isDigit_mark oneDigit
  cases literal with
  | nil => cases isHead
  | cons b literal =>
      cases isHead
      have opened : Pending.advance id .idle percent =
          ([], .opened false [percent]) := rfl
      have extended : Pending.extend? id (.opened false [percent])
          (0x30 + UInt8.ofNat number) =
          some ([], .digit number false (mark number)) := by
        rw [Pending.extend?, id, if_pos isDigit, value]
        rfl
      have read : Pending.advance id (.opened false [percent])
          (0x30 + UInt8.ofNat number) =
          ([], .digit number false (mark number)) := by
        rw [Pending.advance, extended]
      have behind := scan_clean clean (.digit number false (mark number))
        (literal ++ rest)
      have readLiteral := items_plain plain rest
      rw [List.cons_append] at readLiteral
      rw [readLiteral] at behind
      have split : mark number ++ c :: literal ++ rest =
          percent :: (0x30 + UInt8.ofNat number) :: c :: (literal ++ rest) :=
        rfl
      rw [split, items, scan, opened, scan, read, behind]
      rfl

theorem numbers_holes {number : Nat} {literals : List Bytes}
    (areLiteral : ∀ literal ∈ literals, IsLiteral id literal)
    (oneDigit : number + literals.length ≤ 10) :
    numbers id (holes number literals) =
      List.range' number literals.length := by
  induction literals generalizing number with
  | nil => rfl
  | cons literal rest induction =>
      rw [List.length_cons] at oneDigit
      have later : numbers id (holes (number + 1) rest) =
          List.range' (number + 1) rest.length :=
        induction
          (fun other member =>
            areLiteral other (List.mem_cons_of_mem literal member))
          (by omega)
      have isLiteral := areLiteral literal (List.mem_cons_self ..)
      rw [numbers] at later
      rw [numbers, holes, items_mark (by omega) isLiteral,
        List.filterMap_append, List.filterMap_cons, filterMap_number?_char,
        later]
      rfl

theorem trace_append (origin : Option Nat) (first second : Bytes) :
    trace origin (first ++ second) =
      trace origin first ++ trace origin second :=
  List.map_append

theorem items_trace (origin : Option Nat) (text : Bytes) :
    items Prod.fst (trace origin text) =
      (items id text).map (Item.map fun b => (b, origin)) :=
  items_map (fun _ => rfl) text

theorem numbers_trace (origin : Option Nat) (text : Bytes) :
    numbers Prod.fst (trace origin text) = numbers id text :=
  numbers_map (fun _ => rfl) text

/-- No marker can be finished behind the text. -/
def Closed (text : List Traced) : Prop :=
  ∀ rest, items Prod.fst (text ++ rest) =
    items Prod.fst text ++ items Prod.fst rest

theorem closed_literal {literal : Bytes} (isLiteral : IsLiteral id literal)
    (text : List Traced) (origin : Option Nat) :
    Closed (text ++ trace origin literal) := by
  intro rest
  have whole := items_literal (isLiteral.trace origin) text []
  rw [List.append_nil] at whole
  rw [items_literal (isLiteral.trace origin), whole]
  simp [items, scan, Pending.flush]

theorem Closed.numbers {text : List Traced} (closed : Closed text)
    (rest : List Traced) :
    numbers Prod.fst (text ++ rest) =
      numbers Prod.fst text ++ numbers Prod.fst rest := by
  unfold PlaceMarkers.numbers
  rw [closed, List.filterMap_append]

section

variable {number : Nat} {literal : Bytes} {rest : List Bytes}
  {done : List Traced}

theorem Closed.numbers_holes (closed : Closed done)
    (areLiteral : ∀ other ∈ literal :: rest, IsLiteral id other)
    (oneDigit : number + (rest.length + 1) ≤ 10) :
    PlaceMarkers.numbers Prod.fst
        (done ++ trace none (holes number (literal :: rest))) =
      PlaceMarkers.numbers Prod.fst done ++
        List.range' number (rest.length + 1) := by
  rw [closed.numbers, numbers_trace,
    PlaceMarkers.numbers_holes areLiteral (by simpa using oneDigit)]
  rfl

/-- With the next marker of the template as the lowest one, an argument fills it
and nothing else. -/
theorem arg_holes (closed : Closed done)
    (areLiteral : ∀ other ∈ literal :: rest, IsLiteral id other)
    (oneDigit : number + (rest.length + 1) ≤ 10)
    (later : ∀ other ∈ numbers Prod.fst done, number < other)
    (argument : Argument Traced) :
    arg Prod.fst (done ++ trace none (holes number (literal :: rest)))
        argument =
      done ++ argument.text ++ trace none literal ++
        trace none (holes (number + 1) rest) := by
  have isLiteral := areLiteral literal (List.mem_cons_self ..)
  have lowest : (numbers Prod.fst
      (done ++ trace none (holes number (literal :: rest)))).min? =
      some number := by
    rw [closed.numbers_holes areLiteral oneDigit, List.min?_eq_some_iff]
    constructor
    · simp [List.range'_succ]
    · intro other member
      cases List.mem_append.mp member with
      | inl inDone => exact Nat.le_of_lt (later other inDone)
      | inr inRange => exact (List.mem_range'_1.mp inRange).1
  have absentDone : number ∉ numbers Prod.fst done :=
    fun member => Nat.lt_irrefl _ (later number member)
  have absentBehind : number ∉
      numbers Prod.fst (trace none (holes (number + 1) rest)) := by
    rw [numbers_trace, numbers_holes
      (fun other member => areLiteral other (List.mem_cons_of_mem _ member))
      (by omega)]
    simp
  have markItems : items Prod.fst
      (trace none (holes number (literal :: rest))) =
      .marker number false (trace none (mark number)) ::
        (trace none literal).map .char ++
        items Prod.fst (trace none (holes (number + 1) rest)) := by
    rw [items_trace, holes, items_mark (by omega) isLiteral, items_trace]
    simp [Item.map, trace]
  have chars : ((trace none literal).map Item.char).flatMap
      (Item.replace number argument) = trace none literal := by
    rw [List.flatMap_map]
    exact List.flatMap_singleton' _
  unfold arg
  rw [lowest]
  dsimp only
  rw [closed, markItems]
  simp only [List.flatMap_append, List.flatMap_cons, List.cons_append,
    flatMap_replace_absent absentDone, flatMap_replace_absent absentBehind,
    chars, Item.replace]
  simp

end

theorem numbers_argument {done : List Traced} (closed : Closed done)
    {literal : Bytes} (isLiteral : IsLiteral id literal) (text : List Traced) :
    numbers Prod.fst (done ++ text ++ trace none literal) =
      numbers Prod.fst done ++ numbers Prod.fst text := by
  have split := numbers_literal (isLiteral.trace none) (done ++ text) []
  rw [List.append_nil] at split
  rw [split, closed.numbers]
  simp [numbers, items, scan, Pending.flush]

theorem args_holes_cons {number : Nat} {literal : Bytes}
    {rest : List Bytes} {done : List Traced} (closed : Closed done)
    (areLiteral : ∀ other ∈ literal :: rest, IsLiteral id other)
    (oneDigit : number + (rest.length + 1) ≤ 10)
    (later : ∀ other ∈ numbers Prod.fst done, number < other)
    (argument : Argument UInt8) (following : List (Argument UInt8)) :
    args Prod.fst (done ++ trace none (holes number (literal :: rest)))
        (traceArguments number (argument :: following)) =
      args Prod.fst (done ++ trace (some number) argument.text ++
          trace none literal ++ trace none (holes (number + 1) rest))
        (traceArguments (number + 1) following) := by
  have filled := arg_holes closed areLiteral oneDigit later
    (argument.map fun b => (b, some number))
  calc args Prod.fst _ (traceArguments number (argument :: following))
    _ = args Prod.fst (arg Prod.fst _
          (argument.map fun b => (b, some number)))
          (traceArguments (number + 1) following) := rfl
    _ = _ := by
        rw [filled]
        rfl

theorem fill_holes_cons (number : Nat) (literal : Bytes)
    (rest : List Bytes) (done : List Traced) (argument : Argument UInt8)
    (following : List (Argument UInt8)) :
    done ++ fill ((literal :: rest).map (trace none))
        (traceTexts number ((argument :: following).map Argument.text)) =
      done ++ trace (some number) argument.text ++ trace none literal ++
        fill (rest.map (trace none))
          (traceTexts (number + 1) (following.map Argument.text)) := by
  simp [fill, traceTexts]

theorem Inert.tail {limit : Nat} {argument : Argument UInt8}
    {following : List (Argument UInt8)}
    (inert : Inert limit (argument :: following)) : Inert limit following := by
  cases following with
  | nil => exact fun _ member => by cases member
  | cons next rest =>
      intro other member
      exact inert other (List.mem_cons_of_mem _ member)

theorem Inert.head {limit : Nat} {argument : Argument UInt8}
    {following : List (Argument UInt8)}
    (inert : Inert limit (argument :: following)) (more : following ≠ []) :
    ∀ number ∈ numbers id argument.text, limit ≤ number := by
  apply inert argument
  rw [List.dropLast_cons_of_ne_nil more]
  exact List.mem_cons_self ..

theorem Inert.cons {limit : Nat} {argument : Argument UInt8}
    {following : List (Argument UInt8)}
    (head : following ≠ [] → ∀ number ∈ numbers id argument.text,
      limit ≤ number)
    (inert : Inert limit following) : Inert limit (argument :: following) := by
  cases following with
  | nil => exact fun _ member => by cases member
  | cons next rest =>
      intro other member
      cases List.mem_cons.mp member with
      | inl isHead =>
          rw [isHead]
          exact head (List.cons_ne_nil _ _)
      | inr inRest => exact inert other inRest

/-- Arguments without markers that a later one could fill fill a template. -/
theorem args_holes {number : Nat} {literals : List Bytes}
    {arguments : List (Argument UInt8)} {done : List Traced}
    (closed : Closed done)
    (areLiteral : ∀ literal ∈ literals, IsLiteral id literal)
    (oneDigit : number + literals.length ≤ 10)
    (sameLength : arguments.length = literals.length)
    (inertDone : literals ≠ [] →
      ∀ other ∈ numbers Prod.fst done, number + literals.length ≤ other)
    (inert : Inert (number + literals.length) arguments) :
    args Prod.fst (done ++ trace none (holes number literals))
        (traceArguments number arguments) =
      done ++ fill (literals.map (trace none))
        (traceTexts number (arguments.map Argument.text)) := by
  induction literals generalizing number arguments done with
  | nil =>
      cases List.length_eq_zero_iff.mp sameLength
      rfl
  | cons literal rest induction =>
      cases arguments with
      | nil => cases sameLength
      | cons argument following =>
          rw [List.length_cons] at oneDigit inertDone sameLength inert
          have here := inertDone (List.cons_ne_nil _ _)
          have isLiteral := areLiteral literal (List.mem_cons_self ..)
          have limit : number + (rest.length + 1) =
              number + 1 + rest.length := by omega
          rw [limit] at inert here
          have inertDone' : rest ≠ [] → ∀ other ∈ numbers Prod.fst
              (done ++ trace (some number) argument.text ++
                trace none literal), number + 1 + rest.length ≤ other := by
            intro more other member
            rw [numbers_argument closed isLiteral, numbers_trace] at member
            cases List.mem_append.mp member with
            | inl inDone => exact here other inDone
            | inr inText =>
                have longer : following ≠ [] := by
                  rintro rfl
                  cases rest with
                  | nil => exact more rfl
                  | cons _ _ => cases sameLength
                exact inert.head longer other inText
          rw [args_holes_cons closed areLiteral oneDigit
              (fun other member => by have bound := here other member; omega),
            fill_holes_cons]
          exact induction (closed_literal isLiteral _ none)
            (fun other member => areLiteral other
              (List.mem_cons_of_mem _ member))
            (by omega) (Nat.succ.inj sameLength) inertDone' inert.tail

/-! The other way round, a template filled with its arguments has lost none of
their characters. -/

def own (number : Nat) (c : Traced) : Bool :=
  c.2 == some number

theorem countP_trace_none (number : Nat) (text : Bytes) :
    (trace none text).countP (own number) = 0 := by
  rw [trace, List.countP_map, List.countP_eq_zero]
  intro b member
  simp [own]

theorem countP_trace_own (origin number : Nat) (text : Bytes) :
    (trace (some number) text).countP (own origin) =
      if number = origin then text.length else 0 := by
  rw [trace, List.countP_map]
  split
  · next same =>
      subst same
      rw [List.countP_eq_length.mpr]
      intro b member
      simp [own]
  · next differ =>
      rw [List.countP_eq_zero]
      intro b member
      simp [own, differ]

theorem without_of_ne {number other : Nat} (differ : other ≠ number)
    (argument : Argument UInt8) :
    (argument.map fun b => (b, some other)).Without (own number) := by
  have none (text : Bytes) :
      (trace (some other) text).countP (own number) = 0 := by
    rw [countP_trace_own, if_neg differ]
  exact ⟨none argument.text, none argument.localized⟩

theorem without_traceArguments {number first : Nat} (below : number < first)
    (arguments : List (Argument UInt8)) :
    ∀ argument ∈ traceArguments first arguments,
      argument.Without (own number) := by
  induction arguments generalizing first with
  | nil => exact fun _ member => by cases member
  | cons argument rest induction =>
      intro other member
      cases List.mem_cons.mp member with
      | inl isHead =>
          rw [isHead]
          exact without_of_ne (Nat.ne_of_gt below) argument
      | inr inRest => exact induction (Nat.lt_succ_of_lt below) other inRest

/-- Every `%` of the text has come with an argument before the next one. -/
def FromArguments (number : Nat) (text : List Traced) : Prop :=
  ∀ c ∈ text, c.1 = percent → ∃ other < number, c.2 = some other

theorem exists_lowest {number : Nat} {literal : Bytes}
    {rest : List Bytes} {done : List Traced} (closed : Closed done)
    (areLiteral : ∀ other ∈ literal :: rest, IsLiteral id other)
    (oneDigit : number + (rest.length + 1) ≤ 10) {low : Nat}
    (member : low ∈ numbers Prod.fst done) (notLater : low ≤ number) :
    ∃ lowest, (numbers Prod.fst
        (done ++ trace none (holes number (literal :: rest)))).min? =
        some lowest ∧
      lowest ∈ numbers Prod.fst done := by
  rw [closed.numbers_holes areLiteral oneDigit]
  cases isMin : (numbers Prod.fst done ++
      List.range' number (rest.length + 1)).min? with
  | none =>
      rw [List.min?_eq_none_iff] at isMin
      simp at isMin
  | some lowest =>
      refine ⟨lowest, rfl, ?_⟩
      obtain ⟨isNumber, least⟩ := List.min?_eq_some_iff.mp isMin
      have atMost := least low (List.mem_append_left _ member)
      cases List.mem_append.mp isNumber with
      | inl inDone => exact inDone
      | inr inRange =>
          have atLeast := (List.mem_range'_1.mp inRange).1
          have same : lowest = low := by omega
          rw [same]
          exact member

/-- A marker that comes before the template's next one costs an argument some of
its characters. -/
theorem lower_marker_lost {number : Nat} {literal : Bytes}
    {rest : List Bytes} {done : List Traced} (closed : Closed done)
    (areLiteral : ∀ other ∈ literal :: rest, IsLiteral id other)
    (oneDigit : number + (rest.length + 1) ≤ 10)
    (fromArguments : FromArguments number done) {low : Nat}
    (member : low ∈ numbers Prod.fst done) (notLater : low ≤ number)
    (argument : Argument UInt8) (following : List (Argument UInt8)) :
    ∃ lost, (args Prod.fst
        (done ++ trace none (holes number (literal :: rest)))
        (traceArguments number (argument :: following))).countP (own lost) <
      done.countP (own lost) := by
  obtain ⟨lowest, isLowest, inDone⟩ :=
    exists_lowest closed areLiteral oneDigit member notLater
  obtain ⟨isLocale, source, isItem, c, inSource, isIn, isPercent⟩ :=
    exists_percent inDone
  obtain ⟨lost, before, origin⟩ := fromArguments c isIn isPercent
  refine ⟨lost, ?_⟩
  have inWhole : .marker lowest isLocale source ∈ items Prod.fst
      (done ++ trace none (holes number (literal :: rest))) := by
    rw [closed]
    exact List.mem_append_left _ isItem
  have taken := countP_arg_lt
    (without_of_ne (Nat.ne_of_gt before) argument) isLowest inWhole inSource
    (by simp [own, origin])
  have onward := countP_args_le Prod.fst
    (without_traceArguments (Nat.lt_succ_of_lt before) following)
    (arg Prod.fst (done ++ trace none (holes number (literal :: rest)))
      (argument.map fun b => (b, some number)))
  rw [List.countP_append, countP_trace_none, Nat.add_zero] at taken
  exact onward.trans_lt taken

theorem FromArguments.step {number : Nat} {done : List Traced}
    (fromArguments : FromArguments number done) (text : Bytes)
    {literal : Bytes} (isLiteral : IsLiteral id literal) :
    FromArguments (number + 1)
      (done ++ trace (some number) text ++ trace none literal) := by
  intro c member isPercent
  simp only [List.mem_append, or_assoc] at member
  rcases member with inDone | inText | inLiteral
  · obtain ⟨other, before, origin⟩ := fromArguments c inDone isPercent
    exact ⟨other, Nat.lt_succ_of_lt before, origin⟩
  · obtain ⟨b, _, rfl⟩ := List.mem_map.mp inText
    exact ⟨number, Nat.lt_succ_self number, rfl⟩
  · exact absurd isPercent ((isLiteral.trace none).plain c inLiteral)

theorem inert_of_kept {number : Nat} {literals : List Bytes}
    {arguments : List (Argument UInt8)} {done : List Traced}
    (closed : Closed done)
    (areLiteral : ∀ literal ∈ literals, IsLiteral id literal)
    (oneDigit : number + literals.length ≤ 10)
    (sameLength : arguments.length = literals.length)
    (fromArguments : FromArguments number done)
    (kept : ∀ origin,
      (done ++ fill (literals.map (trace none))
        (traceTexts number (arguments.map Argument.text))).countP (own origin) ≤
      (args Prod.fst (done ++ trace none (holes number literals))
        (traceArguments number arguments)).countP (own origin)) :
    (literals ≠ [] →
        ∀ other ∈ numbers Prod.fst done, number + literals.length ≤ other) ∧
      Inert (number + literals.length) arguments := by
  induction literals generalizing number arguments done with
  | nil =>
      cases List.length_eq_zero_iff.mp sameLength
      exact ⟨fun more => absurd rfl more, fun _ member => by cases member⟩
  | cons literal rest induction =>
      cases arguments with
      | nil => cases sameLength
      | cons argument following =>
          rw [List.length_cons] at oneDigit
          have isLiteral := areLiteral literal (List.mem_cons_self ..)
          have later : ∀ other ∈ numbers Prod.fst done, number < other := by
            intro low member
            by_contra notLater
            obtain ⟨lost, fewer⟩ := lower_marker_lost closed areLiteral
              oneDigit fromArguments member (Nat.le_of_not_lt notLater)
              argument following
            have enough := kept lost
            rw [List.countP_append] at enough
            omega
          rw [args_holes_cons closed areLiteral oneDigit later,
            fill_holes_cons] at kept
          obtain ⟨inertDone, inert⟩ := induction
            (closed_literal isLiteral _ none)
            (fun other member => areLiteral other
              (List.mem_cons_of_mem _ member))
            (by omega) (Nat.succ.inj sameLength)
            (fromArguments.step argument.text isLiteral) kept
          have limit : number + (literal :: rest).length =
              number + 1 + rest.length := by
            rw [List.length_cons]
            omega
          rw [limit]
          rw [numbers_argument closed isLiteral, numbers_trace] at inertDone
          constructor
          · intro _ other member
            cases rest with
            | nil => exact later other member
            | cons next more =>
                exact inertDone (List.cons_ne_nil _ _) other
                  (List.mem_append_left _ member)
          · apply Inert.cons _ inert
            intro longer low inText
            apply inertDone _ low (List.mem_append_right _ inText)
            rintro rfl
            exact longer (List.length_eq_zero_iff.mp (Nat.succ.inj sameLength))

theorem length_fill_le {literals texts wanted : List Bytes}
    (shorter : List.Forall₂ (fun text other => text.length ≤ other.length)
      texts wanted) :
    (fill literals texts).length ≤ (fill literals wanted).length := by
  induction shorter generalizing literals with
  | nil => exact Nat.le_refl _
  | cons le _ induction =>
      cases literals with
      | nil => exact Nat.le_refl _
      | cons literal rest =>
          have later := @induction rest
          simp only [fill, List.length_append]
          omega

theorem countP_fill_le {number : Nat} (literals : List Bytes)
    {texts wanted : List Bytes}
    (shorter : List.Forall₂ (fun text other => text.length ≤ other.length)
      texts wanted) (origin : Nat) :
    (fill (literals.map (trace none)) (traceTexts number texts)).countP
        (own origin) ≤
      (fill (literals.map (trace none)) (traceTexts number wanted)).countP
        (own origin) := by
  induction shorter generalizing number literals with
  | nil => exact Nat.le_refl _
  | cons le _ induction =>
      cases literals with
      | nil => exact Nat.le_refl _
      | cons literal rest =>
          have later := @induction (number + 1) rest
          simp only [List.map_cons, traceTexts, fill, List.countP_append,
            countP_trace_own, countP_trace_none]
          split
          · omega
          · omega

theorem takeWhile_own {literal : Bytes} (isLiteral : IsLiteral id literal)
    (number : Nat) (text : Bytes) (rest : List Traced) :
    (trace (some number) text ++ trace none literal ++ rest).takeWhile
        (own number) =
      trace (some number) text := by
  have all : ∀ c ∈ trace (some number) text, own number c = true := by
    intro c member
    obtain ⟨b, _, rfl⟩ := List.mem_map.mp member
    simp [own]
  rw [List.append_assoc, List.takeWhile_append_of_pos all]
  obtain ⟨⟨c, isHead, _⟩, _⟩ := isLiteral
  cases literal with
  | nil => cases isHead
  | cons b literal => simp [trace, own]

/-- The traced texts in a filled template can be told apart. -/
theorem traceTexts_injective {number : Nat} {literals : List Bytes}
    (areLiteral : ∀ literal ∈ literals, IsLiteral id literal)
    {texts wanted : List Bytes} (sameLength : texts.length = literals.length)
    (sameLength' : wanted.length = literals.length)
    (same : fill (literals.map (trace none)) (traceTexts number texts) =
      fill (literals.map (trace none)) (traceTexts number wanted)) :
    texts = wanted := by
  induction literals generalizing number texts wanted with
  | nil =>
      rw [List.length_eq_zero_iff.mp sameLength,
        List.length_eq_zero_iff.mp sameLength']
  | cons literal rest induction =>
      cases texts with
      | nil => cases sameLength
      | cons text texts =>
          cases wanted with
          | nil => cases sameLength'
          | cons other wanted =>
              have isLiteral := areLiteral literal (List.mem_cons_self ..)
              simp only [List.map_cons, traceTexts, fill] at same
              have traced := congrArg (List.takeWhile (own number)) same
              rw [takeWhile_own isLiteral, takeWhile_own isLiteral] at traced
              rw [traced, List.append_cancel_left_eq] at same
              have head : text = other := by
                apply List.map_injective_iff.mpr _ traced
                intro b c pair
                exact congrArg Prod.fst pair
              have tail := induction
                (fun next member =>
                  areLiteral next (List.mem_cons_of_mem _ member))
                (Nat.succ.inj sameLength) (Nat.succ.inj sameLength') same
              rw [head, tail]

theorem closed_plain {head : Bytes} (plain : ∀ c ∈ head, c ≠ percent) :
    Closed (trace none head) ∧ numbers Prod.fst (trace none head) = [] ∧
      FromArguments 1 (trace none head) := by
  have tracedPlain : ∀ c ∈ trace none head, c.1 ≠ percent := by
    intro c member
    obtain ⟨b, isIn, rfl⟩ := List.mem_map.mp member
    exact plain b isIn
  have whole := items_plain tracedPlain []
  have none : items Prod.fst ([] : List Traced) = [] := rfl
  rw [none, List.append_nil, List.append_nil] at whole
  refine ⟨?_, numbers_plain tracedPlain, ?_⟩
  · intro rest
    rw [items_plain tracedPlain, whole]
  · intro c member isPercent
    exact absurd isPercent (tracedPlain c member)

/-- At most nine holes, and texts around them that no marker begins in or goes on
with. -/
structure Template where
  head : Bytes
  literals : List Bytes
  plain : ∀ c ∈ head, c ≠ percent
  areLiteral : ∀ literal ∈ literals, IsLiteral id literal
  few : literals.length ≤ 9

namespace Template

def text (template : Template) : Bytes :=
  template.head ++ holes 1 template.literals

def filled (template : Template) (texts : List Bytes) : Bytes :=
  template.head ++ fill template.literals texts

def tracedArgs (template : Template) (arguments : List (Argument UInt8)) :
    List Traced :=
  args Prod.fst (trace none template.text) (traceArguments 1 arguments)

def tracedFilled (template : Template) (texts : List Bytes) : List Traced :=
  trace none template.head ++
    fill (template.literals.map (trace none)) (traceTexts 1 texts)

/-- The arguments fill a template with the texts that are wanted, character by
character, if and only if they are these texts and no text has a marker for a
later argument. -/
theorem tracedArgs_iff {template : Template}
    {arguments : List (Argument UInt8)} {wanted : List Bytes}
    (sameLength : arguments.length = template.literals.length)
    (shorter : List.Forall₂ (fun text other => text.length ≤ other.length)
      (arguments.map Argument.text) wanted) :
    template.tracedArgs arguments = template.tracedFilled wanted ↔
      arguments.map Argument.text = wanted ∧
        Inert (1 + template.literals.length) arguments := by
  obtain ⟨closed, none, fromArguments⟩ := closed_plain template.plain
  have few := template.few
  have areLiteral := template.areLiteral
  have oneDigit : 1 + template.literals.length ≤ 10 := by omega
  unfold tracedArgs tracedFilled text
  rw [trace_append]
  have filled (inert : Inert (1 + template.literals.length) arguments) :=
    args_holes closed areLiteral oneDigit sameLength
      (fun _ other member => by rw [none] at member; cases member) inert
  constructor
  · intro same
    have inert := (inert_of_kept closed areLiteral oneDigit sameLength
      fromArguments fun origin => by
        rw [same, List.countP_append, List.countP_append]
        exact Nat.add_le_add_left (countP_fill_le _ shorter origin) _).2
    rw [filled inert, List.append_cancel_left_eq] at same
    refine ⟨?_, inert⟩
    have wantedLength : wanted.length = template.literals.length := by
      rw [← shorter.length_eq, List.length_map, sameLength]
    exact traceTexts_injective areLiteral (by rw [List.length_map, sameLength])
      wantedLength same
  · rintro ⟨rfl, inert⟩
    exact filled inert

end Template

/-! Without the origins. -/

theorem map_trace (origin : Option Nat) (text : Bytes) :
    (trace origin text).map Prod.fst = text := by
  rw [trace, List.map_map]
  exact List.map_id text

theorem map_traceArguments (number : Nat)
    (arguments : List (Argument UInt8)) :
    (traceArguments number arguments).map (Argument.map Prod.fst) =
      arguments := by
  induction arguments generalizing number with
  | nil => rfl
  | cons argument rest induction =>
      have head : (argument.map fun b => (b, some number)).map Prod.fst =
          argument := by
        simp [Argument.map, Function.comp_def]
      rw [traceArguments, List.map_cons, head, induction]

theorem map_fill (number : Nat) (literals texts : List Bytes) :
    (fill (literals.map (trace none)) (traceTexts number texts)).map Prod.fst =
      fill literals texts := by
  induction literals generalizing number texts with
  | nil => rfl
  | cons literal rest induction =>
      cases texts with
      | nil => rfl
      | cons text texts =>
          simp only [List.map_cons, traceTexts, fill, List.map_append,
            map_trace, induction]

namespace Template

theorem map_tracedArgs (template : Template)
    (arguments : List (Argument UInt8)) :
    (template.tracedArgs arguments).map Prod.fst =
      args id template.text arguments := by
  have same : ∀ c : Traced, id (Prod.fst c) = Prod.fst c := fun _ => rfl
  rw [tracedArgs, ← args_map same, map_trace, map_traceArguments]

theorem map_tracedFilled (template : Template) (texts : List Bytes) :
    (template.tracedFilled texts).map Prod.fst = template.filled texts := by
  rw [tracedFilled, List.map_append, map_trace, map_fill, filled]

end Template

end ServicePortScanner.Data.PlaceMarkers
