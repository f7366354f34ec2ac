import ServicePortScanner.Data.Bytes

namespace ServicePortScanner.Data.Csv

/-! A reader for RFC 4180 text, which accepts both line breaks, and the texts
it reads back. -/

def comma : UInt8 := 0x2c
def quote : UInt8 := 0x22
def lineFeed : UInt8 := 0x0a
def carriageReturn : UInt8 := 0x0d

inductive Mode where
  | recordStart
  | fieldStart
  | plain
  | quoted
  | quoteSeen
  | returnSeen
  deriving DecidableEq, Repr

inductive Effect where
  | keep (mode : Mode)
  | skip (mode : Mode)
  | endField
  | endRecord
  | reject
  deriving DecidableEq, Repr

/-- Outside quotes: separators end the field, `other` is anything else. -/
def separator (b : UInt8) (other : Effect) : Effect :=
  if b = comma then .endField
  else if b = lineFeed then .endRecord
  else if b = carriageReturn then .skip .returnSeen
  else other

def react (mode : Mode) (b : UInt8) : Effect :=
  match mode with
  | .recordStart | .fieldStart =>
      if b = quote then .skip .quoted else separator b (.keep .plain)
  | .plain => if b = quote then .reject else separator b (.keep .plain)
  | .quoted => if b = quote then .skip .quoteSeen else .keep .quoted
  | .quoteSeen => if b = quote then .keep .quoted else separator b .reject
  | .returnSeen => if b = lineFeed then .endRecord else .reject

def atEnd (mode : Mode) (field : Bytes) (record : List Bytes) :
    Option (List (List Bytes)) :=
  match mode with
  | .recordStart => some []
  | .fieldStart | .plain | .quoteSeen => some [record ++ [field]]
  | .quoted | .returnSeen => none

def readFrom (mode : Mode) (field : Bytes) (record : List Bytes) :
    Bytes → Option (List (List Bytes))
  | [] => atEnd mode field record
  | b :: rest =>
      match react mode b with
      | .keep next => readFrom next (field ++ [b]) record rest
      | .skip next => readFrom next field record rest
      | .endField => readFrom .fieldStart [] (record ++ [field]) rest
      | .endRecord =>
          (readFrom .recordStart [] [] rest).map ((record ++ [field]) :: ·)
      | .reject => none

/-- The records of a text, or `none` where it is not RFC 4180. -/
def read (text : Bytes) : Option (List (List Bytes)) :=
  readFrom .recordStart [] [] text

/-! Fields. -/

def Mode.AtFieldStart : Mode → Prop
  | .recordStart | .fieldStart => True
  | _ => False

def Mode.AtFieldEnd : Mode → Prop
  | .recordStart | .fieldStart | .plain | .quoteSeen => True
  | _ => False

/-- `text` is read as a field with the value `value`. -/
def Encodes (text value : Bytes) : Prop :=
  ∀ (mode : Mode) (record : List Bytes) (rest : Bytes), mode.AtFieldStart →
    ∃ next : Mode, next.AtFieldEnd ∧
      readFrom mode [] record (text ++ rest) = readFrom next value record rest

def Reserved (b : UInt8) : Prop :=
  b = comma ∨ b = quote ∨ b = lineFeed ∨ b = carriageReturn

instance (b : UInt8) : Decidable (Reserved b) :=
  inferInstanceAs (Decidable (_ ∨ _))

theorem react_unreserved {mode : Mode} {b : UInt8} (unreserved : ¬ Reserved b)
    (outside : mode.AtFieldStart ∨ mode = .plain) :
    react mode b = .keep .plain := by
  simp only [Reserved, not_or] at unreserved
  obtain ⟨notComma, notQuote, notFeed, notReturn⟩ := unreserved
  cases mode with
  | recordStart | fieldStart | plain =>
      simp [react, separator, notComma, notQuote, notFeed, notReturn]
  | quoted | quoteSeen | returnSeen =>
      rcases outside with start | plain
      · exact start.elim
      · cases plain

theorem readFrom_unreserved {mode : Mode} {text : Bytes}
    (unreserved : ∀ b ∈ text, ¬ Reserved b)
    (outside : mode.AtFieldStart ∨ mode = .plain) (field : Bytes)
    (record : List Bytes) (rest : Bytes) :
    ∃ next : Mode, next.AtFieldEnd ∧
      readFrom mode field record (text ++ rest) =
        readFrom next (field ++ text) record rest := by
  induction text generalizing mode field with
  | nil =>
      refine ⟨mode, ?_, by simp⟩
      rcases outside with start | rfl
      · cases mode <;> trivial
      · trivial
  | cons b text induction =>
      have kept := react_unreserved (unreserved b (by simp)) outside
      have others : ∀ other ∈ text, ¬ Reserved other :=
        fun other member => unreserved other (List.mem_cons_of_mem b member)
      obtain ⟨next, ending, reads⟩ :=
        induction others (.inr rfl) (field ++ [b])
      refine ⟨next, ending, ?_⟩
      simp only [List.cons_append, readFrom, kept]
      simpa using reads

theorem encodes_plain {text : Bytes} (unreserved : ∀ b ∈ text, ¬ Reserved b) :
    Encodes text text :=
  fun _ record rest start =>
    readFrom_unreserved unreserved (.inl start) [] record rest

def double (b : UInt8) : Bytes :=
  if b = quote then [quote, quote] else [b]

theorem readFrom_doubled (value field : Bytes) (record : List Bytes)
    (rest : Bytes) :
    readFrom .quoted field record (value.flatMap double ++ rest) =
      readFrom .quoted (field ++ value) record rest := by
  induction value generalizing field with
  | nil => simp
  | cons b value induction =>
      have appended : field ++ b :: value = (field ++ [b]) ++ value := by simp
      rw [List.flatMap_cons, List.append_assoc, appended, ← induction]
      by_cases isQuote : b = quote
      · subst b
        simp [double, readFrom, react]
      · simp [double, isQuote, readFrom, react]

theorem encodes_quoted (value : Bytes) :
    Encodes (quote :: (value.flatMap double ++ [quote])) value := by
  intro mode record rest start
  refine ⟨.quoteSeen, trivial, ?_⟩
  have opened : react mode quote = .skip .quoted := by
    cases mode <;> first | rfl | exact start.elim
  simp only [List.cons_append, List.append_assoc, readFrom, opened]
  rw [readFrom_doubled]
  simp [readFrom, react]

/-! Records. -/

def renderRecord : List Bytes → Bytes
  | [] => [lineFeed]
  | [field] => field ++ [lineFeed]
  | field :: more => field ++ comma :: renderRecord more

theorem react_comma {mode : Mode} (ending : mode.AtFieldEnd) :
    react mode comma = .endField := by
  cases mode <;> first | rfl | exact ending.elim

theorem react_lineFeed {mode : Mode} (ending : mode.AtFieldEnd) :
    react mode lineFeed = .endRecord := by
  cases mode <;> first | rfl | exact ending.elim

theorem readFrom_renderRecord {mode : Mode} {texts values : List Bytes}
    (start : mode.AtFieldStart) (encoded : List.Forall₂ Encodes texts values)
    (nonempty : texts ≠ []) (record : List Bytes) (rest : Bytes) :
    readFrom mode [] record (renderRecord texts ++ rest) =
      (readFrom .recordStart [] [] rest).map ((record ++ values) :: ·) := by
  induction encoded generalizing mode record with
  | nil => exact absurd rfl nonempty
  | @cons text value texts values head tail induction =>
      cases tail with
      | nil =>
          obtain ⟨next, ending, reads⟩ :=
            head mode record (lineFeed :: rest) start
          simp only [renderRecord, List.append_assoc, List.singleton_append]
          rw [reads]
          simp only [readFrom, react_lineFeed ending]
      | cons second more =>
          obtain ⟨next, ending, reads⟩ := head mode record
            (comma :: (renderRecord _ ++ rest)) start
          simp only [renderRecord, List.append_assoc, List.cons_append]
          rw [reads]
          simp only [readFrom, react_comma ending]
          have fieldStart : Mode.fieldStart.AtFieldStart := trivial
          rw [induction fieldStart (by simp)]
          simp

theorem read_renderRecord {texts values : List Bytes}
    (encoded : List.Forall₂ Encodes texts values) (nonempty : texts ≠ [])
    (rest : Bytes) :
    read (renderRecord texts ++ rest) = (read rest).map (values :: ·) := by
  have recordStart : Mode.recordStart.AtFieldStart := trivial
  exact readFrom_renderRecord recordStart encoded nonempty [] rest

theorem read_flatMap {rows : List α} {texts values : α → List Bytes}
    (encoded : ∀ row ∈ rows, List.Forall₂ Encodes (texts row) (values row))
    (nonempty : ∀ row ∈ rows, texts row ≠ []) :
    read (rows.flatMap fun row => renderRecord (texts row)) =
      some (rows.map values) := by
  induction rows with
  | nil => rfl
  | cons row rows induction =>
      have others := induction
        (fun other member => encoded other (List.mem_cons_of_mem row member))
        (fun other member => nonempty other (List.mem_cons_of_mem row member))
      rw [List.flatMap_cons,
        read_renderRecord (encoded row (by simp)) (nonempty row (by simp)),
        others]
      rfl

end ServicePortScanner.Data.Csv
