import ServicePortScanner.Data.Json
import ServicePortScanner.Data.Utf8

namespace ServicePortScanner.Data.Json

/-! Texts laid out over indented lines, with the values they are read as. -/

/-- A text, the value it is written for, whether it is read at all, and what
stands in the quotes of its strings. -/
structure Written where
  text : Bytes
  value : Value
  ok : Bool
  strings : List Bytes

/-- A value may start here, with `stack` around it. -/
inductive Begins : State → List Frame → Prop where
  | value (stack : List Frame) : Begins ⟨.value, stack⟩ stack
  | firstItem (outer : List Frame) :
      Begins ⟨.firstItem, outer⟩ (.items [] :: outer)

/-- A key may start here, behind the members read before. -/
inductive BeginsKey : State → List (Bytes × Value) → List Frame → Prop where
  | firstKey (stack : List Frame) : BeginsKey ⟨.firstKey, stack⟩ [] stack
  | key (members : List (Bytes × Value)) (stack : List Frame) :
      BeginsKey ⟨.key members, stack⟩ members stack

/-- The layouts put a comma or a new line behind every value. -/
def Separates (b : UInt8) : Prop :=
  b = 0x2c ∨ b = 0x0a

namespace Written

/-- The text is read as the value exactly where it is `ok`. -/
def Reads (written : Written) : Prop :=
  ∀ (start : State) (stack : List Frame) (b : UInt8) (rest : Bytes),
    Begins start stack → Separates b →
      run start (written.text ++ b :: rest) =
        if written.ok then run ⟨.done written.value, stack⟩ (b :: rest)
        else none

end Written

theorem Begins.step_eq {start : State} {stack : List Frame} {b : UInt8}
    (begins : Begins start stack) (notBlank : ¬ IsBlank b)
    (notClosing : b ≠ 0x5d) : step start b = beginValue stack b := by
  cases begins with
  | value => rfl
  | firstItem outer => simp [step, notBlank, notClosing]

theorem run_blank {state : State} {blank : Bytes}
    (stays : ∀ b, IsBlank b → step state b = some state)
    (blanks : ∀ b ∈ blank, IsBlank b) (rest : Bytes) :
    run state (blank ++ rest) = run state rest := by
  induction blank with
  | nil => rfl
  | cons b blank induction =>
      have stays := stays b (blanks b List.mem_cons_self)
      simp only [List.cons_append, run, stays]
      exact induction fun other member =>
        blanks other (List.mem_cons_of_mem b member)

theorem Begins.run_blank {start : State} {stack : List Frame} {blank : Bytes}
    (begins : Begins start stack) (blanks : ∀ b ∈ blank, IsBlank b)
    (rest : Bytes) : run start (blank ++ rest) = run start rest := by
  refine Json.run_blank (fun b isBlank => ?_) blanks rest
  cases begins <;> simp [step, beginValue, isBlank]

theorem BeginsKey.run_blank {start : State} {members : List (Bytes × Value)}
    {stack : List Frame} {blank : Bytes}
    (begins : BeginsKey start members stack)
    (blanks : ∀ b ∈ blank, IsBlank b) (rest : Bytes) :
    run start (blank ++ rest) = run start rest := by
  refine Json.run_blank (fun b isBlank => ?_) blanks rest
  cases begins <;> simp [step, isBlank]

theorem run_done_blank {value : Value} {stack : List Frame} {blank : Bytes}
    (blanks : ∀ b ∈ blank, IsBlank b) (rest : Bytes) :
    run ⟨.done value, stack⟩ (blank ++ rest) =
      run ⟨.done value, stack⟩ rest :=
  Json.run_blank (fun b isBlank => by simp [step, afterValue, isBlank]) blanks
    rest

/-! Strings. -/

/-- Between quotes, `text` is read as `value`. -/
def StringText (text value : Bytes) : Prop :=
  ∀ (use : Use) (before : Bytes) (stack : List Frame) (rest : Bytes),
    run ⟨.inString use { text := before }, stack⟩ (text ++ rest) =
      run ⟨.inString use { text := before ++ value }, stack⟩ rest

def IsPlain (b : UInt8) : Prop :=
  b ≠ 0x22 ∧ b ≠ 0x5c ∧ ¬ b < 0x20

instance (b : UInt8) : Decidable (IsPlain b) :=
  inferInstanceAs (Decidable (_ ∧ _))

theorem toNat_lt_of_not_isPlain {b : UInt8} (special : ¬ IsPlain b) :
    b.toNat < 0x80 := by
  by_contra large
  refine special ⟨?_, ?_, fun control => ?_⟩
  · rintro rfl
    exact large (by decide)
  · rintro rfl
    exact large (by decide)
  · have small : b.toNat < 0x20 := control
    omega

theorem stringText_plain {b : UInt8} (plain : IsPlain b) :
    StringText [b] [b] := by
  intro use before stack rest
  obtain ⟨notQuote, notEscape, notControl⟩ := plain
  simp [run, step, notQuote, notEscape, notControl, Partial.push,
    Partial.flushed]

theorem stringText_short {b c : UInt8} (short : shortEscape? b = some c) :
    StringText [0x5c, b] [c] := by
  intro use before stack rest
  have notHex : b ≠ 0x75 := by
    rintro rfl
    cases short
  simp [run, step, notHex, short, Partial.push, Partial.flushed]

theorem stringText_hex {a b c d : UInt8} {a' b' c' d' : Nat}
    (first : hexDigit? a = some a') (second : hexDigit? b = some b')
    (third : hexDigit? c = some c') (fourth : hexDigit? d = some d')
    (plain : ((a' * 16 + b') * 16 + c') * 16 + d' < 0xd800) :
    StringText [0x5c, 0x75, a, b, c, d]
      (codePointBytes (((a' * 16 + b') * 16 + c') * 16 + d')) := by
  intro use before stack rest
  have notHigh :
      ¬ IsHighSurrogate (((a' * 16 + b') * 16 + c') * 16 + d') := by
    unfold IsHighSurrogate
    omega
  simp [run, step, first, second, third, fourth, Partial.pushUnit, notHigh]

theorem stringText_flatMap {escape value : UInt8 → Bytes}
    (each : ∀ b, StringText (escape b) (value b)) (text : Bytes) :
    StringText (text.flatMap escape) (text.flatMap value) := by
  induction text with
  | nil =>
      intro use before stack rest
      simp
  | cons b text induction =>
      intro use before stack rest
      rw [List.flatMap_cons, List.append_assoc, each b, induction,
        List.flatMap_cons, List.append_assoc]

theorem stringText_self {text : Bytes} (plain : ∀ b ∈ text, IsPlain b) :
    StringText text text := by
  induction text with
  | nil =>
      intro use before stack rest
      simp
  | cons b text induction =>
      have tail := induction fun other member =>
        plain other (List.mem_cons_of_mem b member)
      intro use before stack rest
      have head := stringText_plain (plain b List.mem_cons_self) use before
        stack (text ++ rest)
      rw [List.singleton_append] at head
      rw [List.cons_append, head, tail, List.append_assoc]
      rfl

/-- An escaping that spells ASCII bytes in ASCII and keeps plain bytes as they
are changes nothing about being UTF-8. -/
theorem valid_escape_iff {escape : UInt8 → Bytes}
    (ascii : ∀ n : Nat, n < 0x80 → escape (UInt8.ofNat n) ≠ [] ∧
      ∀ c ∈ escape (UInt8.ofNat n), Utf8.IsAscii c)
    (plain : ∀ b, IsPlain b → escape b = [b]) {text : Bytes} :
    Utf8.Valid (text.flatMap escape) ↔ Utf8.Valid text := by
  refine Utf8.valid_flatMap_iff ?_ ?_
  · intro b small
    have self : UInt8.ofNat b.toNat = b := UInt8.ofNat_toNat
    have bound : b.toNat < 0x80 := small
    simpa only [self] using ascii b.toNat bound
  · intro b notAscii
    by_contra changed
    exact notAscii (toNat_lt_of_not_isPlain fun isPlain =>
      changed (plain b isPlain))

namespace Written

def string (text value : Bytes) : Written where
  text := bytes "\"" ++ text ++ bytes "\""
  value := .string value
  ok := true
  strings := [text]

theorem reads_string {text value : Bytes} (stringText : StringText text value) :
    (string text value).Reads := by
  intro start stack b rest begins _
  have opened : step start 0x22 =
      some ⟨.inString .value { text := [] }, stack⟩ := by
    rw [begins.step_eq (by decide) (by decide)]
    rfl
  have quote : bytes "\"" = [0x22] := rfl
  have spelled : (string text value).text ++ b :: rest =
      0x22 :: (text ++ 0x22 :: b :: rest) := by
    simp [string, quote]
  rw [spelled]
  simp only [run, opened]
  rw [stringText]
  rfl

/-! Numbers and words. -/

def number (lexeme : Bytes) (ok : Bool) : Written where
  text := lexeme
  value := .number lexeme
  ok := ok
  strings := []

theorem separates_endsNumber {b : UInt8} (separates : Separates b) :
    EndsNumber b := by
  rcases separates with rfl | rfl
  · exact endsNumber_comma
  · exact endsNumber_newline

theorem begins_run_eq {start : State} {stack : List Frame} {b : UInt8}
    (begins : Begins start stack) (notBlank : ¬ IsBlank b)
    (notClosing : b ≠ 0x5d) (rest : Bytes) :
    run start (b :: rest) = run ⟨.value, stack⟩ (b :: rest) := by
  have first := begins.step_eq notBlank notClosing
  have plain := (Begins.value stack).step_eq notBlank notClosing
  simp only [run, first, plain]

theorem reads_number {lexeme : Bytes} (isNumber : IsNumber lexeme) :
    (number lexeme true).Reads := by
  intro start stack b rest begins separates
  obtain ⟨final, reads, accepts⟩ := (Option.any_eq_true _ _).mp isNumber
  cases lexeme with
  | nil =>
      cases reads
      cases accepts
  | cons first others =>
      have begun : ∃ state, numberStep .start first = some state := by
        simp only [numberRun] at reads
        split at reads
        · next state begun => exact ⟨state, begun⟩
        · cases reads
      obtain ⟨state, begun⟩ := begun
      have notClosing : first ≠ 0x5d := by
        rintro rfl
        cases begun
      have aligned := begins_run_eq begins (not_begins_of_numberStep begun).1
        notClosing (others ++ b :: rest)
      have whole := run_number isNumber (separates_endsNumber separates) stack
        rest
      simp only [number, List.cons_append, if_true] at *
      rw [aligned, whole]

def notNumbers : List Bytes :=
  [bytes "inf", bytes "-inf", bytes "nan", bytes "-nan"]

/-- What a stream prints for the values that are no numbers: one of these words,
and behind it whatever the C library adds, such as `(ind)`. -/
structure NotNumber (lexeme : Bytes) : Prop where
  word : ∃ word ∈ notNumbers, word <+: lexeme
  ascii : ∀ b ∈ lexeme, Utf8.IsAscii b

theorem reads_notNumber {lexeme : Bytes} (notNumber : NotNumber lexeme) :
    (number lexeme false).Reads := by
  intro start stack b rest begins _
  obtain ⟨word, isWord, added, rfl⟩ := notNumber.word
  simp only [notNumbers, List.mem_cons, List.not_mem_nil, or_false] at isWord
  rcases isWord with rfl | rfl | rfl | rfl <;> cases begins <;> rfl

def boolean (value : Bool) : Written where
  text := if value then bytes "true" else bytes "false"
  value := .boolean value
  ok := true
  strings := []

theorem reads_boolean (value : Bool) : (boolean value).Reads := by
  intro start stack b rest begins _
  cases value <;> cases begins <;> rfl

end Written

theorem isAscii_of_numberStep {state next : NumberState} {b : UInt8}
    (stepped : numberStep state b = some next) : Utf8.IsAscii b := by
  by_contra high
  have differ : ∀ c : UInt8, Utf8.IsAscii c → b ≠ c := by
    rintro c ascii rfl
    exact high ascii
  have notDigit : ¬ IsDigit b := fun digit =>
    high (UInt8.lt_of_le_of_lt digit.2 (by decide))
  cases state <;>
    simp [numberStep, wholePart, pointOrExponent, exponentPart, digitsThen,
      notDigit, differ 0x2d (by decide), differ 0x30 (by decide),
      differ 0x2e (by decide), differ 0x65 (by decide),
      differ 0x45 (by decide), differ 0x2b (by decide)] at stepped

theorem isAscii_of_numberRun {state final : NumberState} {lexeme : Bytes}
    (reads : numberRun state lexeme = some final) :
    ∀ b ∈ lexeme, Utf8.IsAscii b := by
  induction lexeme generalizing state with
  | nil => exact nofun
  | cons b lexeme induction =>
      simp only [numberRun] at reads
      split at reads
      · next next stepped =>
          intro other member
          rcases List.mem_cons.mp member with rfl | inRest
          · exact isAscii_of_numberStep stepped
          · exact induction reads other inRest
      · cases reads

theorem isAscii_of_isNumber {lexeme : Bytes} (isNumber : IsNumber lexeme) :
    ∀ b ∈ lexeme, Utf8.IsAscii b := by
  obtain ⟨_, reads, _⟩ := (Option.any_eq_true _ _).mp isNumber
  exact isAscii_of_numberRun reads

/-! Items and members, one a line. -/

def commaSeparated : List Bytes → Bytes
  | [] => []
  | [text] => text
  | text :: more => text ++ bytes "," ++ commaSeparated more

def lines (indent : Bytes) (texts : List Bytes) : Bytes :=
  commaSeparated (texts.map fun text => bytes "\n" ++ indent ++ text)

theorem lines_cons (indent text : Bytes) {texts : List Bytes}
    (more : texts ≠ []) (rest : Bytes) :
    lines indent (text :: texts) ++ rest =
      bytes "\n" ++ indent ++ text ++ 0x2c :: (lines indent texts ++ rest) := by
  have comma : bytes "," = [0x2c] := rfl
  cases texts with
  | nil => exact absurd rfl more
  | cons second texts => simp [lines, commaSeparated, comma]

namespace Written

def array (inner outer : Bytes) (items : List Written) : Written where
  text := bytes "[" ++ lines inner (items.map Written.text) ++ bytes "\n" ++
    outer ++ bytes "]"
  value := .array (items.map Written.value)
  ok := items.all Written.ok
  strings := items.flatMap Written.strings

def keyText (key text : Bytes) : Bytes :=
  bytes "\"" ++ key ++ bytes "\": " ++ text

/-- Each member comes with the text of its key. -/
def object (inner outer : Bytes) (members : List (Bytes × Bytes × Written)) :
    Written where
  text := bytes "\x7b" ++
    lines inner (members.map fun member => keyText member.1 member.2.2.text) ++
    bytes "\n" ++ outer ++ bytes "\x7d"
  value := .object (members.map fun member => (member.2.1, member.2.2.value))
  ok := members.all fun member => member.2.2.ok
  strings := members.flatMap fun member => member.2.2.strings

/-- What stands between the last line and the end of an array or object. -/
def closing (outer : Bytes) (bracket : UInt8) (rest : Bytes) : Bytes :=
  0x0a :: (outer ++ bracket :: rest)

theorem isBlank_newline_cons {indent : Bytes}
    (blanks : ∀ b ∈ indent, IsBlank b) :
    ∀ b ∈ bytes "\n" ++ indent, IsBlank b := by
  intro b member
  rcases List.mem_append.mp member with newline | inIndent
  · rw [List.mem_singleton.mp newline]
    decide
  · exact blanks b inIndent

theorem run_done_closing {value : Value} {stack : List Frame} {outer : Bytes}
    (blanks : ∀ b ∈ outer, IsBlank b) (bracket : UInt8) (rest : Bytes) :
    run ⟨.done value, stack⟩ (closing outer bracket rest) =
      run ⟨.done value, stack⟩ (bracket :: rest) :=
  run_done_blank (isBlank_newline_cons blanks) (bracket :: rest)

/-- What is between brackets, each part with a value in it: where a part may
start behind those before it, the frame around its value, and the whole. -/
structure Nesting (α : Type) (stack : List Frame) where
  value : α → Value
  opens : List α → State → Prop
  frame : List α → α → Frame
  whole : List α → Value
  bracket : UInt8
  comma : ∀ before part, ∃ start, opens (before ++ [part]) start ∧
    step ⟨.done (value part), frame before part :: stack⟩ 0x2c = some start
  closed : ∀ before part,
    step ⟨.done (value part), frame before part :: stack⟩ bracket =
      some ⟨.done (whole (before ++ [part])), stack⟩

/-- If each part is read on its line, so are all of them up to the bracket. -/
theorem Nesting.run_lines {α : Type} {stack : List Frame}
    (nesting : Nesting α stack) {inner outer : Bytes}
    (outerBlanks : ∀ b ∈ outer, IsBlank b) {text : α → Bytes} {ok : α → Bool}
    {parts : List α} (nonempty : parts ≠ [])
    (line : ∀ part ∈ parts, ∀ before start b rest,
      nesting.opens before start → Separates b →
        run start (bytes "\n" ++ inner ++ text part ++ b :: rest) =
          if ok part then
            run ⟨.done (nesting.value part), nesting.frame before part :: stack⟩
              (b :: rest)
          else none)
    {before : List α} {start : State} (begins : nesting.opens before start)
    (rest : Bytes) :
    run start (lines inner (parts.map text) ++
        closing outer nesting.bracket rest) =
      if parts.all ok then
        run ⟨.done (nesting.whole (before ++ parts)), stack⟩ rest
      else none := by
  induction parts generalizing before start with
  | nil => exact absurd rfl nonempty
  | cons part parts induction =>
      have head := line part List.mem_cons_self before start
      cases parts with
      | nil =>
          have first := head 0x0a (outer ++ nesting.bracket :: rest) begins
            (.inr rfl)
          have closed : run
                ⟨.done (nesting.value part), nesting.frame before part :: stack⟩
                (closing outer nesting.bracket rest) =
              run ⟨.done (nesting.whole (before ++ [part])), stack⟩ rest := by
            rw [run_done_closing outerBlanks]
            simp only [run, nesting.closed]
          simp only [closing] at closed
          simp only [lines, List.map_cons, List.map_nil, commaSeparated,
            closing, first, closed, List.all_cons, List.all_nil, Bool.and_true]
      | cons second more =>
          obtain ⟨next, opened, comma⟩ := nesting.comma before part
          have tail := induction (List.cons_ne_nil _ _)
            (fun other member => line other (List.mem_cons_of_mem part member))
            opened
          rw [List.map_cons, lines_cons _ _ (by simp),
            head 0x2c _ begins (.inl rfl), List.all_cons]
          cases ok part with
          | false => rfl
          | true =>
              simp only [if_true, Bool.true_and, run, comma]
              rw [List.append_assoc, List.singleton_append] at tail
              exact tail

def items (stack : List Frame) : Nesting Written stack where
  value := Written.value
  opens before start := Begins start (.items (before.map Written.value) :: stack)
  frame before _ := .items (before.map Written.value)
  whole items := .array (items.map Written.value)
  bracket := 0x5d
  comma before item := by
    refine ⟨_, Begins.value _, ?_⟩
    rw [List.map_append]
    rfl
  closed before item := by
    rw [List.map_append]
    rfl

theorem reads_array {inner outer : Bytes} (blanks : ∀ b ∈ inner, IsBlank b)
    (outerBlanks : ∀ b ∈ outer, IsBlank b) {items : List Written}
    (reads : ∀ item ∈ items, item.Reads) : (array inner outer items).Reads := by
  intro start stack b rest begins _
  have opened : step start 0x5b = some ⟨.firstItem, stack⟩ := by
    rw [begins.step_eq (by decide) (by decide)]
    rfl
  have spelled : (array inner outer items).text ++ b :: rest =
      0x5b :: (lines inner (items.map Written.text) ++
        closing outer 0x5d (b :: rest)) := by
    have bracket : bytes "[" = [0x5b] := rfl
    have newline : bytes "\n" = [0x0a] := rfl
    have closed : bytes "]" = [0x5d] := rfl
    simp [array, closing, bracket, newline, closed]
  rw [spelled]
  simp only [run, opened]
  cases items with
  | nil =>
      have blank := (Begins.firstItem stack).run_blank
        (isBlank_newline_cons outerBlanks) (0x5d :: b :: rest)
      exact blank
  | cons item items =>
      have opens : (Written.items stack).opens [] ⟨.firstItem, stack⟩ :=
        Begins.firstItem stack
      refine (Written.items stack).run_lines outerBlanks
        (List.cons_ne_nil _ _) ?_ opens (b :: rest)
      intro other member before start b rest begins separates
      rw [List.append_assoc, begins.run_blank (isBlank_newline_cons blanks)]
      exact reads other member start _ b rest begins separates

theorem run_member {inner : Bytes} (blanks : ∀ b ∈ inner, IsBlank b)
    {text key : Bytes} (stringText : StringText text key) {written : Written}
    (reads : written.Reads) {start : State} {before : List (Bytes × Value)}
    {stack : List Frame} (begins : BeginsKey start before stack) {b : UInt8}
    (separates : Separates b) (rest : Bytes) :
    run start (bytes "\n" ++ inner ++ keyText text written.text ++
        b :: rest) =
      if written.ok then
        run ⟨.done written.value, .member before key :: stack⟩ (b :: rest)
      else none := by
  have opened : step start 0x22 =
      some ⟨.inString (.key before) { text := [] }, stack⟩ := by
    cases begins <;> rfl
  have spelled : keyText text written.text ++ b :: rest =
      0x22 :: (text ++ 0x22 :: 0x3a :: 0x20 :: (written.text ++ b :: rest)) := by
    have quote : bytes "\"" = [0x22] := rfl
    have colon : bytes "\": " = [0x22, 0x3a, 0x20] := rfl
    simp [keyText, quote, colon]
  rw [List.append_assoc, begins.run_blank (isBlank_newline_cons blanks),
    spelled]
  simp only [run, opened]
  rw [stringText]
  exact reads _ _ b rest (Begins.value _) separates

def members (stack : List Frame) : Nesting (Bytes × Bytes × Written) stack where
  value member := member.2.2.value
  opens before start := BeginsKey start
    (before.map fun member => (member.2.1, member.2.2.value)) stack
  frame before member := .member
    (before.map fun member => (member.2.1, member.2.2.value)) member.2.1
  whole members := .object
    (members.map fun member => (member.2.1, member.2.2.value))
  bracket := 0x7d
  comma before member := by
    refine ⟨_, BeginsKey.key _ _, ?_⟩
    rw [List.map_append]
    rfl
  closed before member := by
    rw [List.map_append]
    rfl

theorem reads_object {inner outer : Bytes} (blanks : ∀ b ∈ inner, IsBlank b)
    (outerBlanks : ∀ b ∈ outer, IsBlank b)
    {members : List (Bytes × Bytes × Written)}
    (keys : ∀ member ∈ members, StringText member.1 member.2.1)
    (reads : ∀ member ∈ members, member.2.2.Reads) :
    (object inner outer members).Reads := by
  intro start stack b rest begins _
  have opened : step start 0x7b = some ⟨.firstKey, stack⟩ := by
    rw [begins.step_eq (by decide) (by decide)]
    rfl
  have spelled : (object inner outer members).text ++ b :: rest =
      0x7b :: (lines inner (members.map fun member =>
        keyText member.1 member.2.2.text) ++
          closing outer 0x7d (b :: rest)) := by
    have bracket : bytes "\x7b" = [0x7b] := rfl
    have newline : bytes "\n" = [0x0a] := rfl
    have closed : bytes "\x7d" = [0x7d] := rfl
    simp [object, closing, bracket, newline, closed]
  rw [spelled]
  simp only [run, opened]
  cases members with
  | nil =>
      have blank := (BeginsKey.firstKey stack).run_blank
        (isBlank_newline_cons outerBlanks) (0x7d :: b :: rest)
      exact blank
  | cons member members =>
      have opens : (Written.members stack).opens [] ⟨.firstKey, stack⟩ :=
        BeginsKey.firstKey stack
      have line : ∀ part ∈ member :: members, ∀ before start b rest,
          (Written.members stack).opens before start → Separates b →
            run start (bytes "\n" ++ inner ++ keyText part.1 part.2.2.text ++
                b :: rest) =
              if part.2.2.ok then
                run ⟨.done part.2.2.value,
                  (Written.members stack).frame before part :: stack⟩ (b :: rest)
              else none := by
        intro part inMembers before start b rest begins separates
        exact run_member blanks (keys part inMembers) (reads part inMembers)
          begins separates rest
      exact (Written.members stack).run_lines outerBlanks
        (List.cons_ne_nil _ _) line opens (b :: rest)

theorem parse_text {written : Written} (reads : written.Reads) :
    parse written.text =
      if written.ok then some written.value else none := by
  have whole := reads ⟨.value, []⟩ [] 0x0a [] (Begins.value []) (.inr rfl)
  rw [parse, whole]
  cases written.ok <;> rfl

theorem parse_text_newline {written : Written} (reads : written.Reads) :
    parse (written.text ++ bytes "\n") =
      if written.ok then some written.value else none := by
  have whole := reads ⟨.value, []⟩ [] 0x0a [0x0a] (Begins.value []) (.inr rfl)
  have newline : bytes "\n" = [0x0a] := rfl
  rw [parse, newline, List.append_assoc, List.singleton_append, whole]
  cases written.ok <;> rfl

/-! Well-formed UTF-8. -/

/-- Whether the text is UTF-8 is up to its strings. -/
def Encodes (written : Written) : Prop :=
  ∀ rest, Utf8.Valid (written.text ++ rest) ↔
    (∀ s ∈ written.strings, Utf8.Valid s) ∧ Utf8.Valid rest

theorem encodes_string (text value : Bytes) : (string text value).Encodes := by
  intro rest
  have quote : bytes "\"" = [0x22] := rfl
  have spelled : (string text value).text ++ rest =
      [0x22] ++ (text ++ 0x22 :: rest) := by
    simp [string, quote]
  rw [spelled, Utf8.valid_ascii_append (by decide),
    Utf8.valid_append_ascii text (by decide)]
  simp [string]

theorem encodes_ascii {written : Written}
    (ascii : ∀ b ∈ written.text, Utf8.IsAscii b)
    (noStrings : written.strings = []) : written.Encodes := by
  intro rest
  rw [Utf8.valid_ascii_append ascii, noStrings]
  simp

theorem valid_lines {inner : Bytes} (blanks : ∀ b ∈ inner, Utf8.IsAscii b)
    {items : List α} {text : α → Bytes} {strings : α → List Bytes}
    (each : ∀ item ∈ items, ∀ rest, Utf8.Valid (text item ++ rest) ↔
      (∀ s ∈ strings item, Utf8.Valid s) ∧ Utf8.Valid rest) (rest : Bytes) :
    Utf8.Valid (lines inner (items.map text) ++ rest) ↔
      (∀ s ∈ items.flatMap strings, Utf8.Valid s) ∧ Utf8.Valid rest := by
  induction items with
  | nil => simp [lines, commaSeparated]
  | cons item items induction =>
      have newline : ∀ b ∈ bytes "\n", Utf8.IsAscii b := by decide
      have comma : ∀ b ∈ bytes ",", Utf8.IsAscii b := by decide
      have head := each item List.mem_cons_self
      have tail := induction fun other member =>
        each other (List.mem_cons_of_mem item member)
      cases items with
      | nil =>
          simp only [lines, List.map_cons, List.map_nil, commaSeparated,
            List.append_assoc, Utf8.valid_ascii_append newline,
            Utf8.valid_ascii_append blanks, head, List.flatMap_cons,
            List.flatMap_nil, List.append_nil]
      | cons second more =>
          simp only [lines, List.map_cons, List.append_assoc] at tail
          simp only [lines, List.map_cons, commaSeparated, List.append_assoc,
            Utf8.valid_ascii_append newline, Utf8.valid_ascii_append blanks,
            Utf8.valid_ascii_append comma, head, tail]
          simp only [List.flatMap_cons, List.forall_mem_append, and_assoc]

theorem encodes_array {inner outer : Bytes}
    (blanks : ∀ b ∈ inner, Utf8.IsAscii b)
    (outerBlanks : ∀ b ∈ outer, Utf8.IsAscii b) {items : List Written}
    (encodes : ∀ item ∈ items, item.Encodes) :
    (array inner outer items).Encodes := by
  intro rest
  have opening : ∀ b ∈ bytes "[", Utf8.IsAscii b := by decide
  have newline : ∀ b ∈ bytes "\n", Utf8.IsAscii b := by decide
  have closing : ∀ b ∈ bytes "]", Utf8.IsAscii b := by decide
  simp only [array, List.append_assoc, Utf8.valid_ascii_append opening,
    valid_lines blanks encodes, Utf8.valid_ascii_append newline,
    Utf8.valid_ascii_append outerBlanks, Utf8.valid_ascii_append closing]

theorem encodes_object {inner outer : Bytes}
    (blanks : ∀ b ∈ inner, Utf8.IsAscii b)
    (outerBlanks : ∀ b ∈ outer, Utf8.IsAscii b)
    {members : List (Bytes × Bytes × Written)}
    (keys : ∀ member ∈ members, Utf8.Valid member.1)
    (encodes : ∀ member ∈ members, member.2.2.Encodes) :
    (object inner outer members).Encodes := by
  intro rest
  have opening : ∀ b ∈ bytes "\x7b", Utf8.IsAscii b := by decide
  have newline : ∀ b ∈ bytes "\n", Utf8.IsAscii b := by decide
  have closing : ∀ b ∈ bytes "\x7d", Utf8.IsAscii b := by decide
  have quote : ∀ b ∈ bytes "\"", Utf8.IsAscii b := by decide
  have colon : bytes "\": " = 0x22 :: [0x3a, 0x20] := rfl
  have space : ∀ b ∈ [0x3a, 0x20], Utf8.IsAscii b := by decide
  have each : ∀ member ∈ members, ∀ rest,
      Utf8.Valid (keyText member.1 member.2.2.text ++ rest) ↔
        (∀ s ∈ member.2.2.strings, Utf8.Valid s) ∧ Utf8.Valid rest := by
    intro member inMembers rest
    simp only [keyText, colon, List.append_assoc, List.cons_append,
      Utf8.valid_ascii_append quote]
    rw [Utf8.valid_append_ascii _ (by decide),
      and_iff_right (keys member inMembers)]
    exact (Utf8.valid_ascii_append space _).trans
      (encodes member inMembers rest)
  simp only [object, List.append_assoc, Utf8.valid_ascii_append opening,
    valid_lines blanks each, Utf8.valid_ascii_append newline,
    Utf8.valid_ascii_append outerBlanks, Utf8.valid_ascii_append closing]

end Written

end ServicePortScanner.Data.Json
