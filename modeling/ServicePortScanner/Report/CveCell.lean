import ServicePortScanner.Data.Marks
import ServicePortScanner.Report.Csv

namespace ServicePortScanner.Report.CsvWriter

open ServicePortScanner.Data
open ServicePortScanner.Core

/-! What the cell of the CVEs tells of them. -/

section

variable {F : Type}

def columns (cve : CveInfo F) : Bytes × Severity × Bool × Bytes :=
  (cve.cveId, cve.severity, cve.nucleiVerified, cve.description)

def severityField (cve : CveInfo F) : Bytes :=
  bytes "severity=" ++ severityStr cve.severity

variable [Floating F]

def middleFields (cve : CveInfo F) : List Bytes :=
  [bytes "cvss=" ++ Floating.toString cve.cvssScore,
    bytes "epss=" ++ Floating.toString cve.epss,
    bytes "percentile=" ++ Floating.toString cve.percentile,
    bytes "risk=" ++ Floating.toString cve.risk,
    bytes "nuclei_verified=" ++ boolStr cve.nucleiVerified]

/-- What `cve_list` writes between an id and its description. -/
def cveMark (cve : CveInfo F) : Bytes :=
  fieldsText 0x7c
    (severityField cve :: (middleFields cve ++ [bytes "description="]))

def IsCveMark (F : Type) [Floating F] (text : Bytes) : Prop :=
  ∃ cve : CveInfo F, text = cveMark cve

/-- `std::to_string` writes none of the separators of the cell. -/
def PrintsPlainly (F : Type) [Floating F] : Prop :=
  ∀ (x : F) (b : UInt8), b ∈ Floating.toString x →
    b ≠ 0x7c ∧ b ≠ 0x3b ∧ b ≠ 0x20

theorem cveText_eq (cve : CveInfo F) :
    cveText cve = cve.cveId ++ (cveMark cve ++ cve.description) := by
  simp only [cveText, cveMark, severityField, middleFields, puts_cons, puts_nil,
    fieldsText_cons, fieldsText_nil, List.cons_append, List.nil_append,
    List.append_assoc, List.append_nil]
  rfl

def IsPlain (text : Bytes) : Prop :=
  ∀ b ∈ text, b ≠ 0x7c ∧ b ≠ 0x3b ∧ b ≠ 0x20

instance (text : Bytes) : Decidable (IsPlain text) :=
  inferInstanceAs (Decidable (∀ b ∈ text, _))

theorem IsPlain.append {first second : Bytes} (plain : IsPlain first)
    (plain' : IsPlain second) : IsPlain (first ++ second) :=
  List.forall_mem_append.mpr ⟨plain, plain'⟩

theorem isPlain_severityStr (severity : Severity) :
    IsPlain (severityStr severity) := by
  cases severity <;> decide

theorem isPlain_boolStr (value : Bool) : IsPlain (boolStr value) := by
  cases value <;> decide

theorem isPlain_field (numbers : PrintsPlainly F) (cve : CveInfo F) :
    ∀ field ∈ severityField cve :: (middleFields cve ++ [bytes "description="]),
      IsPlain field := by
  have number {key : Bytes} (plain : IsPlain key) (x : F) :
      IsPlain (key ++ Floating.toString x) := plain.append (numbers x)
  have severity : IsPlain (bytes "severity=") := by decide
  have verified : IsPlain (bytes "nuclei_verified=") := by decide
  simp only [middleFields, List.cons_append, List.nil_append,
    List.forall_mem_cons]
  exact ⟨severity.append (isPlain_severityStr _), number (by decide) _,
    number (by decide) _, number (by decide) _, number (by decide) _,
    verified.append (isPlain_boolStr _), by decide, nofun⟩

theorem isRecord_cveMark (numbers : PrintsPlainly F) (cve : CveInfo F) :
    IsRecord 0x7c 0x73 (bytes "description=") 5 (cveMark cve) := by
  refine ⟨bytes "everity=" ++ severityStr cve.severity, middleFields cve, rfl,
    rfl, ?_, ?_⟩
  · intro field member inside
    exact (isPlain_field numbers cve field member _ inside).1 rfl
  · simp only [middleFields, List.cons_append, List.nil_append,
      List.forall_mem_cons]
    exact ⟨⟨_, _, rfl, by decide⟩, ⟨_, _, rfl, by decide⟩,
      ⟨_, _, rfl, by decide⟩, ⟨_, _, rfl, by decide⟩, ⟨_, _, rfl, by decide⟩,
      ⟨_, _, rfl, by decide⟩, nofun⟩

theorem marks_cveMark (numbers : PrintsPlainly F) : Marks (IsCveMark F) := by
  have records : ∀ mark, IsCveMark F mark →
      IsRecord 0x7c 0x73 (bytes "description=") 5 mark := by
    intro mark isMark
    obtain ⟨cve, same⟩ := isMark
    subst same
    exact isRecord_cveMark numbers cve
  exact marks_of_records records

theorem cveMark_ne_nil (mark : Bytes) (isMark : IsCveMark F mark) :
    mark ≠ [] := by
  obtain ⟨cve, same⟩ := isMark
  subst same
  exact List.cons_ne_nil _ _

theorem not_mem_cveMark (numbers : PrintsPlainly F) {c : UInt8}
    (differs : c ≠ 0x7c) (separates : ¬ IsPlain [c]) (mark : Bytes)
    (isMark : IsCveMark F mark) : c ∉ mark := by
  obtain ⟨cve, same⟩ := isMark
  subst same
  intro member
  obtain ⟨field, isField, inside⟩ := List.mem_flatMap.mp member
  rcases List.mem_cons.mp inside with bar | inField
  · exact differs bar
  · exact separates (List.forall_mem_singleton.mpr
      (isPlain_field numbers cve field isField c inField))

theorem severityStr_injective : Function.Injective severityStr := by
  intro severity other same
  cases severity <;> cases other <;> first | rfl | exact absurd same (by decide)

theorem boolStr_injective : Function.Injective boolStr := by
  intro value other same
  cases value <;> cases other <;> first | rfl | exact absurd same (by decide)

/-- The severity and the flag can be told from what is between id and
description. -/
theorem cveMark_inj (numbers : PrintsPlainly F) {cve other : CveInfo F}
    (same : cveMark cve = cveMark other) :
    cve.severity = other.severity ∧
      cve.nucleiVerified = other.nucleiVerified := by
  have avoid (cve : CveInfo F) :
      ∀ field ∈ severityField cve :: middleFields cve,
        (0x7c : UInt8) ∉ field := by
    intro field member inside
    have inMark : field ∈ severityField cve ::
        (middleFields cve ++ [bytes "description="]) :=
      List.mem_append_left [bytes "description="] member
    exact (isPlain_field numbers cve field inMark _ inside).1 rfl
  have whole (cve : CveInfo F) : cveMark cve =
      fieldsText 0x7c (severityField cve :: middleFields cve) ++
        0x7c :: bytes "description=" :=
    fieldsText_concat (severityField cve :: middleFields cve) _
  rw [whole, whole] at same
  obtain ⟨fields, _⟩ := fieldsText_inj (avoid cve) (avoid other) rfl same
  simp only [severityField, middleFields, List.cons.injEq] at fields
  obtain ⟨severity, _, _, _, _, verified, _⟩ := fields
  exact ⟨severityStr_injective (List.append_cancel_left severity),
    boolStr_injective (List.append_cancel_left verified)⟩

/-! Cells of several CVEs. -/

/-- The texts between the ids and descriptions, and what follows each. -/
def pieces (cve : CveInfo F) : List (CveInfo F) → List (Bytes × Bytes)
  | [] => [(cveMark cve, cve.description)]
  | next :: others =>
      (cveMark cve, cve.description ++ (bytes "; " ++ next.cveId)) ::
        pieces next others

theorem cveList_singleton (cve : CveInfo F) :
    cveList [cve] = cve.cveId ++ (cveMark cve ++ cve.description) := by
  rw [cveList, cveText_eq, List.flatMap_nil, List.append_nil]

theorem cveList_cons_cons (cve next : CveInfo F) (others : List (CveInfo F)) :
    cveList (cve :: next :: others) = cve.cveId ++ (cveMark cve ++
      (cve.description ++ (bytes "; " ++ cveList (next :: others)))) := by
  simp only [cveList, cveText_eq, List.flatMap_cons, List.append_assoc]

theorem cveList_eq (cve : CveInfo F) (others : List (CveInfo F)) :
    cveList (cve :: others) = weave cve.cveId (pieces cve others) := by
  induction others generalizing cve with
  | nil => rw [cveList_singleton, pieces, weave_cons, weave_nil]
  | cons next others induction =>
      rw [cveList_cons_cons, pieces, weave_cons, weave_append, weave_append,
        induction]

theorem cveList_cons_ne_nil (cve : CveInfo F) (others : List (CveInfo F)) :
    cveList (cve :: others) ≠ [] := by
  rw [cveList, cveText_eq]
  have nonempty := cveMark_ne_nil (cveMark cve) ⟨cve, rfl⟩
  simp [nonempty]

/-- Neither an id nor a description looks like a CVE of its own, and no id after
the first has the separator of the list in it. -/
structure Clean (cves : List (CveInfo F)) : Prop where
  ids : ∀ cve ∈ cves, Unmarked (IsCveMark F) cve.cveId
  descriptions : ∀ cve ∈ cves, Unmarked (IsCveMark F) cve.description
  separators : ∀ cve ∈ cves.tail, Unmarked (· = bytes "; ") cve.cveId

theorem Clean.tail {cve : CveInfo F} {cves : List (CveInfo F)}
    (clean : Clean (cve :: cves)) : Clean cves where
  ids other member := clean.ids other (List.mem_cons_of_mem cve member)
  descriptions other member :=
    clean.descriptions other (List.mem_cons_of_mem cve member)
  separators other member :=
    clean.separators other (List.mem_of_mem_tail member)

theorem woven_pieces (numbers : PrintsPlainly F) {cve : CveInfo F}
    {others : List (CveInfo F)} (clean : Clean (cve :: others)) :
    Woven (IsCveMark F) (pieces cve others) := by
  have isMark : IsCveMark F (cveMark cve) := ⟨cve, rfl⟩
  have description := clean.descriptions cve List.mem_cons_self
  induction others generalizing cve with
  | nil => exact List.forall_mem_singleton.mpr ⟨isMark, description⟩
  | cons next others induction =>
      have nextClean := clean.tail
      have id := nextClean.ids next List.mem_cons_self
      have behindBlank := (unmarked_nil cveMark_ne_nil).append_cons
        (not_mem_cveMark numbers (c := 0x20) (by decide) (by decide)) id
      have glued := description.append_cons
        (not_mem_cveMark numbers (c := 0x3b) (by decide) (by decide))
        behindBlank
      refine List.forall_mem_cons.mpr ⟨⟨isMark, glued⟩, ?_⟩
      exact induction nextClean ⟨next, rfl⟩
        (nextClean.descriptions next List.mem_cons_self)

theorem marks_separator : Marks (· = bytes "; ") :=
  marks_pair (show (0x3b : UInt8) ≠ 0x20 by decide)

theorem exists_pieces (cve : CveInfo F) (others : List (CveInfo F)) :
    ∃ text rest, pieces cve others = (cveMark cve, text) :: rest := by
  cases others <;> exact ⟨_, _, rfl⟩

theorem pieces_ne_nil (cve : CveInfo F) (others : List (CveInfo F)) :
    pieces cve others ≠ [] := by
  obtain ⟨_, _, isPieces⟩ := exists_pieces cve others
  exact isPieces ▸ List.cons_ne_nil _ _

theorem pieces_inj (numbers : PrintsPlainly F) {cve cve' : CveInfo F}
    {others others' : List (CveInfo F)} (clean : Clean (cve :: others))
    (clean' : Clean (cve' :: others')) (id : cve.cveId = cve'.cveId)
    (same : pieces cve others = pieces cve' others') :
    (cve :: others).map columns = (cve' :: others').map columns := by
  induction others generalizing cve cve' others' with
  | nil =>
      cases others' with
      | nil =>
          simp only [pieces, List.cons.injEq, Prod.mk.injEq, and_true] at same
          obtain ⟨severity, verified⟩ := cveMark_inj numbers same.1
          simp [columns, id, severity, verified, same.2]
      | cons next' others' =>
          exact absurd (List.cons.inj same).2.symm (pieces_ne_nil _ _)
  | cons next others induction =>
      cases others' with
      | nil => exact absurd (List.cons.inj same).2 (pieces_ne_nil _ _)
      | cons next' others' =>
          obtain ⟨head, tail⟩ := List.cons.inj same
          obtain ⟨mark, glued⟩ := Prod.mk.inj head
          obtain ⟨severity, verified⟩ := cveMark_inj numbers mark
          obtain ⟨description, _, nextId⟩ := marks_separator.last rfl rfl glued
            (clean.separators next List.mem_cons_self)
            (clean'.separators next' List.mem_cons_self)
          rw [List.map_cons, induction clean.tail clean'.tail nextId tail]
          simp [columns, id, severity, verified, description]

theorem cveList_inj (numbers : PrintsPlainly F) {cves others : List (CveInfo F)}
    (clean : Clean cves) (clean' : Clean others)
    (same : cveList cves = cveList others) :
    cves.map columns = others.map columns := by
  cases cves with
  | nil =>
      cases others with
      | nil => rfl
      | cons cve' others' => exact absurd same.symm (cveList_cons_ne_nil _ _)
  | cons cve cves =>
      cases others with
      | nil => exact absurd same (cveList_cons_ne_nil _ _)
      | cons cve' others' =>
          rw [cveList_eq, cveList_eq] at same
          obtain ⟨id, tails⟩ := weave_inj (marks_cveMark numbers)
            (clean.ids cve List.mem_cons_self)
            (clean'.ids cve' List.mem_cons_self) (woven_pieces numbers clean)
            (woven_pieces numbers clean') same
          exact pieces_inj numbers clean clean' id tails

/-! Lists that no other list looks like. -/

def IsTold (cves : List (CveInfo F)) : Prop :=
  ∀ others : List (CveInfo F), cves.map columns ≠ others.map columns →
    cveList cves ≠ cveList others

theorem isTold_nil : IsTold ([] : List (CveInfo F)) := by
  intro others differ same
  cases others with
  | nil => exact differ rfl
  | cons cve others => exact cveList_cons_ne_nil _ _ same.symm

theorem isTold_singleton (numbers : PrintsPlainly F) {cve : CveInfo F}
    (id : Unmarked (IsCveMark F) cve.cveId)
    (description : Unmarked (IsCveMark F) cve.description) :
    IsTold [cve] := by
  intro others differ same
  cases others with
  | nil => exact cveList_cons_ne_nil _ _ same
  | cons cve' others =>
      rw [cveList_singleton] at same
      cases others with
      | nil =>
          rw [cveList_singleton] at same
          obtain ⟨ids, mark, descriptions⟩ := (marks_cveMark numbers).only
            ⟨cve, rfl⟩ ⟨cve', rfl⟩ same id description
          obtain ⟨severity, verified⟩ := cveMark_inj numbers mark
          exact differ
            (by simp [columns, ids, severity, verified, descriptions])
      | cons next others =>
          obtain ⟨text, rest, more⟩ := exists_pieces next others
          rw [cveList_cons_cons, cveList_eq, more, ← weave_append,
            ← weave_append] at same
          obtain ⟨_, _, descriptions⟩ := (marks_cveMark numbers).only
            ⟨cve, rfl⟩ ⟨cve', rfl⟩ same id description
          rw [descriptions] at description
          exact not_unmarked_weave ⟨next, rfl⟩ _ _ _ description

/-- The description of the first CVE can hold all the others. -/
theorem not_isTold_of_more (cve next : CveInfo F) (others : List (CveInfo F)) :
    ¬ IsTold (cve :: next :: others) := by
  intro told
  refine told [{ cve with
    description :=
      cve.description ++ (bytes "; " ++ cveList (next :: others)) }]
    ?_ ?_
  · intro same
    have lengths := congrArg List.length same
    simp at lengths
  · rw [cveList_cons_cons, cveList_singleton]
    rfl

/-- An id can hold another CVE, whose description is what follows it. -/
theorem not_isTold_of_id {cve : CveInfo F}
    (marked : ¬ Unmarked (IsCveMark F) cve.cveId) : ¬ IsTold [cve] := by
  intro told
  simp only [Unmarked, not_forall, not_not] at marked
  obtain ⟨_, ⟨other, rfl⟩, front, behind, whole⟩ := marked
  refine told [{ other with
    cveId := front
    description := behind ++ (cveMark cve ++ cve.description) }] ?_ ?_
  · intro same
    have ids := congrArg (List.map fun column => column.1.length) same
    have nonempty := cveMark_ne_nil (cveMark other) ⟨other, rfl⟩
    simp [columns, ← whole, nonempty] at ids
  · rw [cveList_singleton, cveList_singleton, ← whole]
    simp only [List.append_assoc]
    rfl

/-- A description can hold another CVE, whose id is what comes before it. -/
theorem not_isTold_of_description {cve : CveInfo F}
    (marked : ¬ Unmarked (IsCveMark F) cve.description) : ¬ IsTold [cve] := by
  intro told
  simp only [Unmarked, not_forall, not_not] at marked
  obtain ⟨_, ⟨other, rfl⟩, front, behind, whole⟩ := marked
  refine told [{ other with
    cveId := cve.cveId ++ (cveMark cve ++ front)
    description := behind }] ?_ ?_
  · intro same
    have ids := congrArg (List.map fun column => column.1.length) same
    have nonempty := cveMark_ne_nil (cveMark cve) ⟨cve, rfl⟩
    simp [columns, nonempty] at ids
  · rw [cveList_singleton, cveList_singleton, ← whole]
    simp only [List.append_assoc]
    rfl

theorem isTold_iff (numbers : PrintsPlainly F) (cves : List (CveInfo F)) :
    IsTold cves ↔ cves = [] ∨ ∃ cve, cves = [cve] ∧
      Unmarked (IsCveMark F) cve.cveId ∧
      Unmarked (IsCveMark F) cve.description := by
  constructor
  · intro told
    match cves with
    | [] => exact .inl rfl
    | [cve] =>
        refine .inr ⟨cve, rfl, ?_, ?_⟩
        · by_contra marked
          exact not_isTold_of_id marked told
        · by_contra marked
          exact not_isTold_of_description marked told
    | cve :: next :: others =>
        exact (not_isTold_of_more cve next others told).elim
  · intro few
    rcases few with none | ⟨cve, one, id, description⟩
    · rw [none]
      exact isTold_nil
    · rw [one]
      exact isTold_singleton numbers id description

/-- Two clean lists that differ in a column have different cells; without these
conditions the cell of a list is like no other one only if it is empty, or one
CVE with nothing like another CVE in its texts. -/
theorem cveList_tells (numbers : PrintsPlainly F) :
    (∀ cves others : List (CveInfo F), Clean cves → Clean others →
      cves.map columns ≠ others.map columns →
        cveList cves ≠ cveList others) ∧
    ∀ cves : List (CveInfo F), IsTold cves ↔
      cves = [] ∨ ∃ cve, cves = [cve] ∧
        Unmarked (IsCveMark F) cve.cveId ∧
        Unmarked (IsCveMark F) cve.description := by
  refine ⟨?_, isTold_iff numbers⟩
  intro cves others clean clean' differ same
  exact differ (cveList_inj numbers clean clean' same)

end

theorem printsPlainly_exact : PrintsPlainly ℚ := by
  intro x b member
  have numeral : IsNumeral b := Exact.isNumeral_of_mem_fixed member
  refine ⟨?_, ?_, ?_⟩
  all_goals
    intro same
    subst same
    revert numeral
    unfold IsNumeral
    decide

theorem unmarked_of_not_mem {F : Type} [Floating F] {text : Bytes}
    (absent : 0x7c ∉ text) : Unmarked (IsCveMark F) text := by
  intro mark isMark inside
  obtain ⟨cve, same⟩ := isMark
  subst same
  exact absent (inside.subset List.mem_cons_self)

def userEnumeration : CveInfo ℚ where
  cveId := bytes "CVE-2018-15473"
  description := bytes "User enumeration; see advisory"
  cvssScore := 5.3
  severity := .medium
  epss := 0.5
  percentile := 0.75
  nucleiVerified := true

def signalRace : CveInfo ℚ where
  cveId := bytes "CVE-2024-6387"
  description := bytes "Signal handler race"
  cvssScore := 8.1
  severity := .high
  epss := 0.25
  percentile := 0.5
  nucleiVerified := false

theorem clean_of_both {cves : List (CveInfo ℚ)}
    (both : ∀ cve ∈ cves, cve = userEnumeration ∨ cve = signalRace) :
    Clean cves where
  ids cve member := by
    rcases both cve member with rfl | rfl
    all_goals exact unmarked_of_not_mem (by decide +kernel)
  descriptions cve member := by
    rcases both cve member with rfl | rfl
    all_goals exact unmarked_of_not_mem (by decide +kernel)
  separators cve member := by
    intro mark isMark inside
    subst isMark
    have blank : 0x20 ∈ cve.cveId := inside.subset (by decide)
    rcases both cve (List.mem_of_mem_tail member) with rfl | rfl
    all_goals exact absurd blank (by decide +kernel)

theorem cveList_tells_order :
    cveList [userEnumeration, signalRace] ≠
      cveList [signalRace, userEnumeration] :=
  (cveList_tells printsPlainly_exact).1 _ _ (clean_of_both (by simp))
    (clean_of_both (by simp)) (by decide +kernel)

/-- The description of the only CVE has the other one in it. -/
def oneForBoth : CveInfo ℚ :=
  { userEnumeration with
    description := bytes "User enumeration; see advisory; " ++
      cveText signalRace }

theorem oneForBoth_same_cell :
    [userEnumeration, signalRace].map columns ≠ [oneForBoth].map columns ∧
      cveList [userEnumeration, signalRace] = cveList [oneForBoth] := by
  decide +kernel

end ServicePortScanner.Report.CsvWriter
