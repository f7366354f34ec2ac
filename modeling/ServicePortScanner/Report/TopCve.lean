import Mathlib.Data.List.MinMax
import ServicePortScanner.Report.Csv
import ServicePortScanner.Report.HtmlTemplate

namespace ServicePortScanner.Report

open ServicePortScanner.Data
open ServicePortScanner.Core

/-! The top CVE of a result, as a reader of `to_csv` and `to_html` finds it. -/

/-- A field of a record of the file; the record of number zero is the header. -/
def csvField (results : List (ScanResult ℚ)) (record column : Nat) :
    Option Bytes := do
  let records ← Csv.read (toCsv results)
  let fields ← records[record]?
  fields[column]?

/-- A cell of a row of the table, which has seven columns. -/
def htmlCell (results : List (ScanResult ℚ)) (row column : Nat) :
    Option Bytes :=
  (Markup.cells
    ((Markup.tokens (toHtml results)).map Markup.Token.decode))[7 * row + column]?

/-- The two reports name the first entry with the highest score and print that
score, and leave the id empty for a result without entries only. -/
structure TopCveShown (results : List (ScanResult ℚ)) (i : Nat)
    (r : ScanResult ℚ) : Prop where
  first : ∃ top, r.cves.argmax (·.cvssScore) = some top ∧
    csvField results (i + 1) 5 = some top.cveId ∧
    csvField results (i + 1) 6 = some (Floating.put top.cvssScore) ∧
    htmlCell results i 5 = some top.cveId ∧
    htmlCell results i 6 = some (Floating.put top.cvssScore)
  named : csvField results (i + 1) 5 = some [] ∨ htmlCell results i 5 = some [] →
    r.cves = []

/-! The loop starts from the score zero, so it keeps the first highest entry
only if that is above zero. -/

theorem topCve_append_singleton (cves : List (CveInfo ℚ)) (cve : CveInfo ℚ) :
    topCve (cves ++ [cve]) =
      if (topCve cves).2 < cve.cvssScore then (cve.cveId, cve.cvssScore)
      else topCve cves := by
  rw [topCve, List.foldl_append, List.foldl_cons, List.foldl_nil, ← topCve]
  exact ite_congr decide_eq_true_eq (fun _ => rfl) fun _ => rfl

/-- What the loop makes of the first entry with the highest score. -/
def shownTop (cve : CveInfo ℚ) : Bytes × ℚ :=
  if 0 < cve.cvssScore then (cve.cveId, cve.cvssScore) else ([], 0)

theorem shownTop_of_pos {cve : CveInfo ℚ} (positive : 0 < cve.cvssScore) :
    shownTop cve = (cve.cveId, cve.cvssScore) :=
  if_pos positive

theorem shownTop_of_nonpos {cve : CveInfo ℚ} (nonpositive : cve.cvssScore ≤ 0) :
    shownTop cve = ([], 0) :=
  if_neg (not_lt.mpr nonpositive)

theorem shownTop_score (cve : CveInfo ℚ) :
    (shownTop cve).2 = max 0 cve.cvssScore := by
  rcases le_or_gt cve.cvssScore 0 with nonpositive | positive
  · rw [shownTop_of_nonpos nonpositive, max_eq_left nonpositive]
  · rw [shownTop_of_pos positive, max_eq_right positive.le]

theorem topCve_eq (cves : List (CveInfo ℚ)) :
    topCve cves = (cves.argmax (·.cvssScore)).elim ([], 0) shownTop := by
  induction cves using List.reverseRecOn with
  | nil => rfl
  | append_singleton cves cve induction =>
      rw [topCve_append_singleton, List.argmax_concat, induction]
      cases cves.argmax (·.cvssScore) with
      | none => rfl
      | some top =>
          simp only [Option.elim_some, shownTop_score]
          by_cases larger : top.cvssScore < cve.cvssScore
          · rw [if_pos larger, Option.elim_some]
            rcases le_or_gt cve.cvssScore 0 with nonpositive | positive
            · rw [shownTop_of_nonpos nonpositive,
                shownTop_of_nonpos (larger.le.trans nonpositive)]
              exact if_neg (not_lt.mpr (le_max_of_le_left nonpositive))
            · rw [shownTop_of_pos positive]
              exact if_pos (max_lt positive larger)
          · rw [if_neg larger, Option.elim_some]
            exact if_neg (not_lt.mpr (le_max_of_le_right (not_lt.mp larger)))

/-! The columns of one result among others. -/

theorem exact_unreserved {reserved : UInt8 → Prop}
    (named : ∀ b, reserved b → ¬ IsNumeral b) : PrintsWithout ℚ reserved :=
  Exact.printsWithout fun b numeral isReserved => named b isReserved numeral

theorem csvField_eq (before after : List (ScanResult ℚ)) (r : ScanResult ℚ)
    (column : Nat) :
    csvField (before ++ r :: after) (before.length + 1) column =
      (toCsvRecord r)[column]? := by
  have numbers : PrintsWithout ℚ Csv.Reserved := by
    apply exact_unreserved
    rintro b (rfl | rfl | rfl | rfl) <;>
      simp [IsNumeral, IsDigit, Csv.comma, Csv.quote, Csv.lineFeed,
        Csv.carriageReturn]
  simp [csvField, read_toCsv numbers]

theorem htmlCell_eq (before after : List (ScanResult ℚ)) (r : ScanResult ℚ)
    {column : Nat} (within : column < 7) :
    htmlCell (before ++ r :: after) before.length column =
      (toHtmlRecord r)[column]? := by
  have numbers : PrintsWithout ℚ MarkupReserved := by
    apply exact_unreserved
    rintro b (rfl | rfl) <;>
      simp [IsNumeral, IsDigit, Markup.less, Markup.ampersand]
  have earlier : (before.flatMap toHtmlRecord).length = 7 * before.length := by
    have seven : (fun r : ScanResult ℚ => (toHtmlRecord r).length) = fun _ => 7 :=
      rfl
    rw [List.length_flatMap, seven]
    simp [mul_comm]
  rw [htmlCell, cells_toHtml numbers, List.flatMap_append, List.flatMap_cons,
    List.getElem?_append_right (by omega), earlier, Nat.add_sub_cancel_left,
    List.getElem?_append_left (by exact within)]

/-- What stands in the two columns of a result, in either report. -/
structure Columns (results : List (ScanResult ℚ)) (i : Nat)
    (shown : Bytes × ℚ) : Prop where
  csvId : csvField results (i + 1) 5 = some shown.1
  csvScore : csvField results (i + 1) 6 = some (Floating.put shown.2)
  htmlId : htmlCell results i 5 = some shown.1
  htmlScore : htmlCell results i 6 = some (Floating.put shown.2)

section

variable (before after : List (ScanResult ℚ)) (r : ScanResult ℚ)

theorem columns_topCve :
    Columns (before ++ r :: after) before.length
      ((r.cves.argmax (·.cvssScore)).elim ([], 0) shownTop) := by
  rw [← topCve_eq]
  constructor
  · rw [csvField_eq]
    rfl
  · rw [csvField_eq]
    rfl
  · rw [htmlCell_eq _ _ _ (by decide)]
    rfl
  · rw [htmlCell_eq _ _ _ (by decide)]
    rfl

variable {before after r} {top : CveInfo ℚ}

theorem TopCveShown.named_of_top
    (shown : TopCveShown (before ++ r :: after) before.length r)
    (highest : r.cves.argmax (·.cvssScore) = some top) : top.cveId ≠ [] := by
  obtain ⟨other, same, csvId, _⟩ := shown.first
  rw [highest] at same
  cases same
  intro unnamed
  have empty := shown.named (.inl (unnamed ▸ csvId))
  rw [empty] at highest
  cases highest

theorem TopCveShown.positive_of_top
    (shown : TopCveShown (before ++ r :: after) before.length r)
    (highest : r.cves.argmax (·.cvssScore) = some top) :
    0 < top.cvssScore := by
  by_contra notPositive
  have columns := columns_topCve before after r
  rw [highest, Option.elim_some,
    shownTop_of_nonpos (not_lt.mp notPositive)] at columns
  have empty := shown.named (.inl columns.csvId)
  rw [empty] at highest
  cases highest

theorem topCveShown_of_top (highest : r.cves.argmax (·.cvssScore) = some top)
    (positive : 0 < top.cvssScore) (named : top.cveId ≠ []) :
    TopCveShown (before ++ r :: after) before.length r := by
  have columns := columns_topCve before after r
  rw [highest, Option.elim_some, shownTop_of_pos positive] at columns
  refine ⟨⟨top, highest, columns.csvId, columns.csvScore, columns.htmlId,
    columns.htmlScore⟩, ?_⟩
  intro unnamed
  rcases unnamed with unnamed | unnamed
  · rw [columns.csvId] at unnamed
    exact absurd (Option.some.inj unnamed) named
  · rw [columns.htmlId] at unnamed
    exact absurd (Option.some.inj unnamed) named

end

/-- The reports show the top CVE of a result exactly where some score is above
zero and the entry has an id. -/
theorem topCveShown_iff (before after : List (ScanResult ℚ))
    (r : ScanResult ℚ) :
    TopCveShown (before ++ r :: after) before.length r ↔
      (∃ cve ∈ r.cves, 0 < cve.cvssScore) ∧
        ∀ top, r.cves.argmax (·.cvssScore) = some top → top.cveId ≠ [] := by
  constructor
  · intro shown
    obtain ⟨top, highest, _⟩ := shown.first
    refine ⟨⟨top, List.argmax_mem highest, shown.positive_of_top highest⟩, ?_⟩
    intro other same
    exact shown.named_of_top same
  · intro found
    obtain ⟨⟨cve, member, positive⟩, named⟩ := found
    cases highest : r.cves.argmax (·.cvssScore) with
    | none =>
        rw [List.argmax_eq_none.mp highest] at member
        cases member
    | some top =>
        have above : 0 < top.cvssScore :=
          positive.trans_le (List.le_of_mem_argmax member highest)
        exact topCveShown_of_top highest above (named top highest)

/-- One CVE without a score. -/
def unscoredResult : ScanResult ℚ where
  targetHost := bytes "10.0.0.5"
  port := 22
  state := .opened
  cves := [{
    cveId := bytes "CVE-2018-15473", description := [], cvssScore := 0
    severity := .none, epss := 0, percentile := 0, nucleiVerified := false }]

theorem unscored_topCve_empty :
    topCve unscoredResult.cves = ([], 0) ∧
      ¬ TopCveShown [unscoredResult] 0 unscoredResult := by
  refine ⟨rfl, ?_⟩
  intro shown
  have field := csvField_eq [] [] unscoredResult 5
  exact absurd (shown.named (.inl field)) (List.cons_ne_nil _ _)

end ServicePortScanner.Report
