import Mathlib.Data.List.DropRight
import ServicePortScanner.Data.Emplace
import ServicePortScanner.Fp.EpssLookup

namespace ServicePortScanner.Fp

open ServicePortScanner.Data ServicePortScanner.Core

/-! Exploit probabilities from the lines of a CSV text. -/

def isBlank (c : UInt8) : Bool :=
  c = 0x20 ∨ c = 0x09 ∨ c = 0x0d ∨ c = 0x0a

def trim (s : Bytes) : Bytes :=
  (s.dropWhile isBlank).rdropWhile isBlank

def looksLikeCve (s : Bytes) : Bool :=
  7 ≤ s.length ∧ (s[0]? = some 0x43 ∨ s[0]? = some 0x63) ∧
    (s[1]? = some 0x56 ∨ s[1]? = some 0x76) ∧
    (s[2]? = some 0x45 ∨ s[2]? = some 0x65) ∧ s[3]? = some 0x2d

/-- The three columns of a line, of which the last may hold further commas. -/
def splitColumns (line : Bytes) : Option (Bytes × Bytes × Bytes) :=
  match line.findIdx? (· = 0x2c) with
  | none => none
  | some c1 =>
      let rest := line.drop (c1 + 1)
      match rest.findIdx? (· = 0x2c) with
      | none => none
      | some c2 => some (line.take c1, rest.take c2, rest.drop (c2 + 1))

section

variable {F : Type} [Floating F] (parseDouble : Bytes → Option F)

/-- What a trimmed line adds to the map, unless it is skipped. -/
def lineEntry (line : Bytes) : Option (Bytes × EpssEntry F) :=
  if line.isEmpty then none
  else if line.head? = some 0x23 then none
  else if !looksLikeCve line then none
  else
    match splitColumns line with
    | none => none
    | some (cve, epssS, pctS) =>
        match parseDouble epssS with
        | none => none
        | some epss =>
            some (toUpper cve,
              { epss := epss
                percentile := (parseDouble pctS).getD (Floating.literal 0) })

namespace EpssDb

def recordLine (db : EpssDb F) (line : Bytes) : EpssDb F :=
  match lineEntry parseDouble line with
  | none => db
  | some pair => { map := emplace db.map pair }

/-- The loop on the text from `line_start` on. -/
def lineLoop (db : EpssDb F) (text : Bytes) : EpssDb F :=
  if empty : text = [] then db
  else
    let stop := (text.findIdx? (· = 0x0a)).getD text.length
    lineLoop (recordLine parseDouble db (trim (text.take stop)))
      (text.drop (stop + 1))
termination_by text.length
decreasing_by
  have pos := List.length_pos_of_ne_nil empty
  rw [List.length_drop]
  omega

def parse (csvText : Bytes) : EpssDb F :=
  lineLoop parseDouble {} csvText

end EpssDb

/-! The lines that are accepted, and the map they make. -/

/-- The entries of the accepted lines of a text, from the first line on. -/
def acceptedEntries (text : Bytes) : List (Bytes × EpssEntry F) :=
  (text.splitOn 0x0a).filterMap fun line => lineEntry parseDouble (trim line)

/-- The first of the entries under an id, or the zero entry. -/
def firstEntry (entries : List (Bytes × EpssEntry F)) (cveId : Bytes) :
    EpssEntry F :=
  match entries.find? fun entry => entry.1 == toUpper cveId with
  | some entry => entry.2
  | none => ⟨Floating.literal 0, Floating.literal 0⟩

/-- A text with CRLF for every LF. -/
def crlf (text : Bytes) : Bytes :=
  text.flatMap fun c => if c = 0x0a then [0x0d, 0x0a] else [c]

omit [Floating F] in
/-- The entries of both maps; the first map's one under an id of both. -/
def EpssDb.union (first second : EpssDb F) : EpssDb F where
  map := emplaceAll first.map second.map

namespace EpssDb

theorem lineLoop_eq (db : EpssDb F) (text : Bytes) :
    lineLoop parseDouble db text =
      (text.splitOn 0x0a).foldl
        (fun db line => recordLine parseDouble db (trim line)) db := by
  rw [lineLoop]
  split
  · next empty =>
      rw [empty]
      rfl
  · next nonempty =>
      have pos := List.length_pos_of_ne_nil nonempty
      cases found : text.findIdx? (· = 0x0a) with
      | none =>
          have absent : 0x0a ∉ text := by
            intro member
            simpa using List.findIdx?_eq_none_iff.mp found _ member
          rw [List.splitOn_eq_singleton absent]
          simp only [Option.getD_none, List.take_length]
          rw [List.drop_eq_nil_of_le (Nat.le_succ _), lineLoop]
          rfl
      | some stop =>
          obtain ⟨split, absent⟩ := eq_append_cons_of_findIdx? found
          have shorter : (text.drop (stop + 1)).length < text.length := by
            rw [List.length_drop]
            omega
          simp only [Option.getD_some]
          rw [lineLoop_eq _ (text.drop (stop + 1))]
          conv_rhs => rw [split]
          rw [List.splitOn_append_cons_self_of_not_mem absent]
          rfl
termination_by text.length

theorem recordLine_map (db : EpssDb F) (line : Bytes) :
    (recordLine parseDouble db line).map =
      emplaceAll db.map (lineEntry parseDouble line).toList := by
  unfold recordLine
  cases lineEntry parseDouble line with
  | none => rfl
  | some pair => rfl

theorem foldl_recordLine_map (lines : List Bytes) (db : EpssDb F) :
    (lines.foldl (fun db line => recordLine parseDouble db (trim line))
      db).map =
      emplaceAll db.map
        (lines.filterMap fun line => lineEntry parseDouble (trim line)) := by
  induction lines generalizing db with
  | nil => rfl
  | cons line lines induction =>
      rw [List.foldl_cons, induction, recordLine_map, ← emplaceAll_append]
      congr 1
      cases entry : lineEntry parseDouble (trim line) with
      | none => simp [entry]
      | some pair => simp [entry]

/-- The map holds the entries of the accepted lines, the first under each id. -/
theorem parse_map (text : Bytes) :
    (parse parseDouble text).map =
      emplaceAll [] (acceptedEntries parseDouble text) := by
  rw [parse, lineLoop_eq, foldl_recordLine_map]
  rfl

theorem parse_eq_of_entries {text other : Bytes}
    (same : acceptedEntries parseDouble text =
      acceptedEntries parseDouble other) :
    parse parseDouble text = parse parseDouble other := by
  have maps := parse_map parseDouble text
  rw [same, ← parse_map] at maps
  exact congrArg EpssDb.mk maps

end EpssDb

theorem acceptedEntries_append (a b : Bytes) :
    acceptedEntries parseDouble (a ++ 0x0a :: b) =
      acceptedEntries parseDouble a ++ acceptedEntries parseDouble b := by
  unfold acceptedEntries
  rw [List.splitOn_append_cons_self, List.filterMap_append]

theorem acceptedEntries_line {line : Bytes} (whole : 0x0a ∉ line) :
    acceptedEntries parseDouble line =
      (lineEntry parseDouble (trim line)).toList := by
  unfold acceptedEntries
  rw [List.splitOn_eq_singleton whole]
  cases entry : lineEntry parseDouble (trim line) with
  | none => simp [entry]
  | some pair => simp [entry]

theorem trim_concat_cr (line : Bytes) : trim (line ++ [0x0d]) = trim line := by
  unfold trim
  rw [List.dropWhile_append]
  split
  · next blank =>
      rw [List.isEmpty_iff] at blank
      rw [blank]
      rfl
  · rw [List.rdropWhile_concat_pos _ _ _ (by decide)]

omit [Floating F] in
theorem crlf_of_notMem {line : Bytes} (whole : 0x0a ∉ line) : crlf line = line := by
  induction line with
  | nil => rfl
  | cons c line induction =>
      rw [List.mem_cons, not_or] at whole
      have other : ¬ c = 0x0a := fun same => whole.1 same.symm
      have rest := induction whole.2
      unfold crlf at rest ⊢
      rw [List.flatMap_cons, if_neg other, rest]
      rfl

/-- A carriage return in front of a line feed is trimmed with the blanks. -/
theorem acceptedEntries_crlf (text : Bytes) :
    acceptedEntries parseDouble (crlf text) =
      acceptedEntries parseDouble text := by
  by_cases several : 0x0a ∈ text
  · obtain ⟨line, rest, cut, whole⟩ := List.eq_append_cons_of_mem several
    have shorter : rest.length < text.length := by
      rw [cut, List.length_append, List.length_cons]
      omega
    have split : crlf (line ++ 0x0a :: rest) =
        (line ++ [0x0d]) ++ 0x0a :: crlf rest := by
      have front := crlf_of_notMem whole
      unfold crlf at front ⊢
      rw [List.flatMap_append, List.flatMap_cons, front, if_pos rfl]
      simp
    have whole' : 0x0a ∉ line ++ [0x0d] := by simp [whole]
    rw [cut, split, acceptedEntries_append, acceptedEntries_append,
      acceptedEntries_line parseDouble whole,
      acceptedEntries_line parseDouble whole', trim_concat_cr,
      acceptedEntries_crlf rest]
  · rw [crlf_of_notMem several]
termination_by text.length

/-- Parsing takes the lines one by one: a text of two parts has the entries of
both, the line ends do not matter, a lookup finds the first accepted line with
its id, and a line that is skipped changes nothing. -/
theorem EpssDb.parse_lineByLine :
    (∀ a b, parse parseDouble (a ++ 0x0a :: b) =
      (parse parseDouble a).union (parse parseDouble b)) ∧
    (∀ a b key, (parse parseDouble (a ++ 0x0a :: b)).map.lookup key =
      ((parse parseDouble a).map.lookup key).or
        ((parse parseDouble b).map.lookup key)) ∧
    (∀ text, parse parseDouble (crlf text) = parse parseDouble text) ∧
    (∀ text cveId, (parse parseDouble text).lookup cveId =
      firstEntry (acceptedEntries parseDouble text) cveId) ∧
    ∀ a line b, 0x0a ∉ line → lineEntry parseDouble (trim line) = none →
      parse parseDouble (a ++ 0x0a :: (line ++ 0x0a :: b)) =
        parse parseDouble (a ++ 0x0a :: b) := by
  have union (a b : Bytes) : parse parseDouble (a ++ 0x0a :: b) =
      (parse parseDouble a).union (parse parseDouble b) := by
    have maps : (parse parseDouble (a ++ 0x0a :: b)).map =
        ((parse parseDouble a).union (parse parseDouble b)).map := by
      rw [EpssDb.union, parse_map, acceptedEntries_append, emplaceAll_append,
        ← parse_map, parse_map parseDouble b, emplaceAll_emplaceAll]
      rfl
    exact congrArg EpssDb.mk maps
  refine ⟨union, ?_, ?_, ?_, ?_⟩
  · intro a b key
    rw [union, EpssDb.union, lookup_emplaceAll]
  · intro text
    apply parse_eq_of_entries
    exact acceptedEntries_crlf parseDouble text
  · intro text cveId
    rw [EpssDb.lookup, firstEntry, parse_map, lookup_emplaceAll,
      List.lookup_nil, Option.none_or, lookup_eq_find?]
    cases (acceptedEntries parseDouble text).find? fun entry =>
      entry.1 == toUpper cveId with
    | none => rfl
    | some entry => rfl
  · intro a line b whole skipped
    apply parse_eq_of_entries
    rw [acceptedEntries_append, acceptedEntries_append, acceptedEntries_append,
      acceptedEntries_line parseDouble whole, skipped]
    rfl

end

end ServicePortScanner.Fp
