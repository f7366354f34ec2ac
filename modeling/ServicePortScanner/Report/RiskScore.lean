import ServicePortScanner.Data.LargestProduct
import ServicePortScanner.Report.Html

namespace ServicePortScanner.Report

open ServicePortScanner.Data
open ServicePortScanner.Core

/-! The risk score of a result, in a row of `HtmlWriter` and as `max_risk`. -/

section

variable {F : Type} [Floating F]

namespace HtmlWriter

/-- `risk` in the loop over the rows. -/
def rowRisk (r : ScanResult F) : F :=
  Floating.mul r.maxCvss r.maxEpss

/-- The end of a row, with the cell under "Risk Score". -/
def riskCell (r : ScanResult F) : Bytes :=
  puts [
    bytes "<td>", Floating.put (rowRisk r), bytes "</td>",
    bytes "</tr>\n"]

theorem row_eq (r : ScanResult F) :
    row r = puts [
      bytes "<tr>",
      bytes "<td>", decimal r.port.toNat, bytes "</td>",
      bytes "<td>", htmlEscape r.protocol, bytes "</td>",
      bytes "<td>", stateStr r.state, bytes "</td>",
      bytes "<td>", htmlEscape r.service.name, bytes "</td>",
      bytes "<td>", htmlEscape r.service.product, bytes "</td>",
      bytes "<td>", htmlEscape r.service.version, bytes "</td>",
      bytes "<td style='", cvssStyle r.maxCvss, bytes "'>",
      Floating.put r.maxCvss, bytes "</td>",
      bytes "<td style='", epssStyle r.maxEpss, bytes "'>",
      percent r.maxEpss, bytes "%</td>"] ++ riskCell r := by
  simp only [row, riskCell, rowRisk, puts_cons, puts_nil, List.append_assoc,
    List.nil_append]

end HtmlWriter

end

/-! In exact arithmetic. -/

theorem largest_append_singleton (values : List ℚ) (value : ℚ) :
    largest (values ++ [value]) =
      if largest values < value then value else largest values := by
  rw [largest, List.foldl_append, List.foldl_cons, List.foldl_nil, ← largest]
  exact ite_congr decide_eq_true_eq (fun _ => rfl) fun _ => rfl

theorem largest_isGreatest (values : List ℚ) :
    IsGreatest (orZero values) (largest values) := by
  induction values using List.reverseRecOn with
  | nil => exact isGreatest_orZero_zero (by simp)
  | append_singleton values value induction =>
      have zero_le : 0 ≤ largest values := induction.2 (.inl rfl)
      rw [largest_append_singleton]
      split
      · next larger =>
          apply isGreatest_orZero_of_mem (zero_le.trans larger.le) (by simp)
          rw [List.forall_mem_append, List.forall_mem_singleton]
          exact ⟨fun other member =>
            (induction.2 (.inr member)).trans larger.le, le_refl value⟩
      · next notLarger =>
          refine ⟨induction.1.imp_right (List.mem_append_left [value]), ?_⟩
          intro other reached
          rcases reached with zero | member
          · rw [zero]
            exact zero_le
          · rcases List.mem_append.mp member with earlier | last
            · exact induction.2 (.inr earlier)
            · rw [List.mem_singleton.mp last]
              exact not_lt.mp notLarger

/-- One finding has both the largest score and the largest probability, or one
of them is zero in every finding. -/
def OneOnTop (cves : List (CveInfo ℚ)) : Prop :=
  (∀ cve ∈ cves, cve.cvssScore = 0) ∨ (∀ cve ∈ cves, cve.epss = 0) ∨
    ∃ top ∈ cves, ∀ cve ∈ cves,
      cve.cvssScore ≤ top.cvssScore ∧ cve.epss ≤ top.epss

def scores (cve : CveInfo ℚ) : ℚ × ℚ :=
  (cve.cvssScore, cve.epss)

theorem dominated_scores_iff (cves : List (CveInfo ℚ)) :
    Dominated (cves.map scores) ↔ OneOnTop cves := by
  simp [Dominated, OneOnTop, scores]

theorem rowRisk_eq_maxRisk_iff (r : ScanResult ℚ)
    (nonneg : ∀ cve ∈ r.cves, 0 ≤ cve.cvssScore ∧ 0 ≤ cve.epss) :
    HtmlWriter.riskCell r <:+ HtmlWriter.row r ∧
      (HtmlWriter.rowRisk r = r.maxRisk ↔ OneOnTop r.cves) := by
  refine ⟨⟨_, (HtmlWriter.row_eq r).symm⟩, ?_⟩
  rw [← dominated_scores_iff]
  apply mul_eq_iff_dominated (List.forall_mem_map.mpr nonneg)
  · rw [List.map_map]
    exact largest_isGreatest _
  · rw [List.map_map]
    exact largest_isGreatest _
  · rw [List.map_map]
    exact largest_isGreatest _

def finding (cvssScore epss : ℚ) : CveInfo ℚ where
  cveId := bytes "CVE-2021-41773"
  description := []
  cvssScore := cvssScore
  severity := severityFromCvss cvssScore
  epss := epss
  percentile := epss
  nucleiVerified := false

def findingsResult (cves : List (CveInfo ℚ)) : ScanResult ℚ where
  targetHost := bytes "10.0.0.5"
  port := 80
  state := .opened
  cves := cves

theorem rowRisk_eq_maxRisk_iff_topFirst :
    HtmlWriter.rowRisk (findingsResult [finding 9.8 0.9, finding 5 0.1]) =
      (findingsResult [finding 9.8 0.9, finding 5 0.1]).maxRisk := by
  refine (rowRisk_eq_maxRisk_iff (findingsResult [finding 9.8 0.9, finding 5 0.1])
    ?_).2.mpr ?_
  · decide +kernel
  · right; right
    exact ⟨finding 9.8 0.9, List.mem_cons_self, by decide +kernel⟩

/-- The worst score stands at one finding, the largest probability at another. -/
theorem rowRisk_exceeds_maxRisk :
    HtmlWriter.rowRisk (findingsResult [finding 9.8 0.1, finding 5 0.9]) = 8.82 ∧
      (findingsResult [finding 9.8 0.1, finding 5 0.9]).maxRisk = 4.5 := by
  constructor
  · decide +kernel
  · decide +kernel

end ServicePortScanner.Report
