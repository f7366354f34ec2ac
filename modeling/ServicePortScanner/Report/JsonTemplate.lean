import ServicePortScanner.Report.JsonExport

namespace ServicePortScanner.Report

open ServicePortScanner.Data
open ServicePortScanner.Core

/-! What a reader gets of the file of `JsonWriter`: a document with the keys of
the template, whatever the strings hold. -/

section

variable {F : Type}

theorem Totals.count_eq (totals : Totals) (r : ScanResult F) :
    totals.count r = {
      opened := totals.opened + if r.state = .opened then 1 else 0
      closed := totals.closed + if r.state = .closed then 1 else 0
      filtered := totals.filtered + if r.state = .filtered then 1 else 0
      cves := totals.cves + r.cves.length } := by
  unfold Totals.count
  cases r.state <;> rfl

theorem Totals.of_eq (results : List (ScanResult F)) :
    Totals.of results = {
      opened := results.countP fun r => r.state = .opened
      closed := results.countP fun r => r.state = .closed
      filtered := results.countP fun r => r.state = .filtered
      cves := (results.map fun r => r.cves.length).sum } := by
  induction results using List.reverseRecOn with
  | nil => rfl
  | append_singleton results r induction =>
      rw [Totals.of, List.foldl_append, List.foldl_cons, List.foldl_nil,
        ← Totals.of, induction, Totals.count_eq]
      simp [List.countP_append, List.countP_singleton]

namespace JsonWriter

def textValue (s : Bytes) : Json.Value :=
  .string (s.map writtenByte)

def countValue (n : Nat) : Json.Value :=
  .number (decimal n)

variable [Floating F]

def floatValue (x : F) : Json.Value :=
  .number (Floating.put x)

def cveValue (cve : CveInfo F) : Json.Value :=
  .object [
    (bytes "cve_id", textValue cve.cveId),
    (bytes "description", textValue cve.description),
    (bytes "cvss_score", floatValue cve.cvssScore),
    (bytes "severity", .string (severityStr cve.severity)),
    (bytes "epss", floatValue cve.epss),
    (bytes "percentile", floatValue cve.percentile),
    (bytes "risk_score", floatValue cve.risk),
    (bytes "nuclei_verified", .boolean cve.nucleiVerified)]

omit [Floating F] in
def serviceValue (service : ServiceInfo) : Json.Value :=
  .object [
    (bytes "name", textValue service.name),
    (bytes "product", textValue service.product),
    (bytes "version", textValue service.version),
    (bytes "extra_info", textValue service.extraInfo),
    (bytes "banner_raw", textValue service.bannerRaw)]

def resultValue (r : ScanResult F) : Json.Value :=
  .object [
    (bytes "target_host", textValue r.targetHost),
    (bytes "resolved_ip", textValue r.resolvedIp),
    (bytes "port", countValue r.port.toNat),
    (bytes "protocol", textValue r.protocol),
    (bytes "state", .string (stateStr r.state)),
    (bytes "service", serviceValue r.service),
    (bytes "cves", .array (r.cves.map cveValue)),
    (bytes "cve_count", countValue r.cves.length),
    (bytes "max_cvss", floatValue r.maxCvss),
    (bytes "max_epss", floatValue r.maxEpss),
    (bytes "max_risk", floatValue r.maxRisk),
    (bytes "verified_cve_count", .number (decimalInt r.verifiedCveCount)),
    (bytes "ja4s", textValue r.ja4s),
    (bytes "ja4x", textValue r.ja4x),
    (bytes "cdn", textValue r.cdn),
    (bytes "os_guess", textValue r.osGuess),
    (bytes "rtt_ms", .number (decimalInt r.rtt))]

omit [Floating F] in
def summaryValue (results : List (ScanResult F)) : Json.Value :=
  .object [
    (bytes "total_ports", countValue results.length),
    (bytes "open", countValue (results.countP fun r => r.state = .opened)),
    (bytes "closed", countValue (results.countP fun r => r.state = .closed)),
    (bytes "filtered", countValue (results.countP fun r => r.state = .filtered)),
    (bytes "total_cves",
      countValue (results.map fun r => r.cves.length).sum)]

def documentValue (results : List (ScanResult F)) : Json.Value :=
  .object [
    (bytes "scan_summary", summaryValue results),
    (bytes "results", .array (results.map resultValue))]

theorem cveWritten_value (cve : CveInfo F) :
    (cveWritten cve).value = cveValue cve := rfl

theorem resultWritten_value (r : ScanResult F) :
    (resultWritten r).value = resultValue r := by
  have cves : (r.cves.map cveWritten).map Json.Written.value =
      r.cves.map cveValue := by
    rw [List.map_map]
    exact List.map_congr_left fun cve _ => cveWritten_value cve
  unfold resultValue
  rw [← cves]
  rfl

omit [Floating F] in
theorem summaryWritten_value (results : List (ScanResult F)) :
    (summaryWritten results).value = summaryValue results := by
  unfold summaryWritten
  rw [Totals.of_eq]
  rfl

theorem documentWritten_value (results : List (ScanResult F)) :
    (documentWritten results).value = documentValue results := by
  have items : (results.map resultWritten).map Json.Written.value =
      results.map resultValue := by
    rw [List.map_map]
    exact List.map_congr_left fun r _ => resultWritten_value r
  unfold documentValue
  rw [← items, ← summaryWritten_value]
  rfl

/-- Every number that is printed is finite. -/
def Finite (results : List (ScanResult F)) : Prop :=
  ∀ r ∈ results, ∀ cve ∈ r.cves, cveFinite cve = true

theorem documentWritten_ok_iff (numbers : PrintsJsonNumbers F)
    (results : List (ScanResult F)) :
    (documentWritten results).ok = true ↔ Finite results := by
  rw [documentWritten_ok numbers]
  simp only [List.all_eq_true, Finite]

theorem parse_text_finite (numbers : PrintsJsonNumbers F)
    {results : List (ScanResult F)} (finite : Finite results) :
    Json.parse (text results) = some (documentValue results) := by
  rw [parse_text numbers, documentWritten_value,
    if_pos ((documentWritten_ok_iff numbers results).mpr finite)]

theorem parse_text_notFinite (numbers : PrintsJsonNumbers F)
    {results : List (ScanResult F)} (notFinite : ¬ Finite results) :
    Json.parse (text results) = none := by
  rw [parse_text numbers,
    if_neg (mt (documentWritten_ok_iff numbers results).mp notFinite)]

omit [Floating F] in
theorem writeFile_eq_ok {opens : Bytes → Bool} {message path text : Bytes}
    {written : Bytes} (wrote : writeFile opens message path text = .ok written) :
    written = text := by
  unfold writeFile at wrote
  split at wrote
  · exact (Except.ok.inj wrote).symm
  · cases wrote

/-- A written file is the document of the template where the numbers are finite;
it is no JSON where one of them is not. -/
theorem parse_written_iff (numbers : PrintsJsonNumbers F)
    {opens : Bytes → Bool} {path written : Bytes}
    {results : List (ScanResult F)}
    (wrote : write opens path results = .ok written) :
    Json.parse written = some (documentValue results) ↔ Finite results := by
  rw [writeFile_eq_ok wrote]
  constructor
  · intro parsed
    by_contra notFinite
    rw [parse_text_notFinite numbers notFinite] at parsed
    cases parsed
  · exact parse_text_finite numbers

end JsonWriter

end

/-- Quotes, a backslash and a closing brace in a banner, and no findings. -/
def quotedResult : ScanResult ℚ where
  targetHost := bytes "10.0.0.5"
  port := 80
  state := .opened
  service := { bannerRaw := bytes "\"\\\x7d],\r\n" }

theorem parse_written_iff_quoted :
    Json.parse (JsonWriter.text [quotedResult, textResult]) =
      some (JsonWriter.documentValue [quotedResult, textResult]) := by
  have wrote : JsonWriter.write (fun _ => true) (bytes "scan.json")
      [quotedResult, textResult] =
        .ok (JsonWriter.text [quotedResult, textResult]) := rfl
  apply (JsonWriter.parse_written_iff ReferenceDump.printsJsonNumbers
    wrote).mpr
  intro r _ cve _
  rfl

end ServicePortScanner.Report
